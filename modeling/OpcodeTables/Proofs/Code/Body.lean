import Mathlib
import OpcodeTables.Code.Expression
import OpcodeTables.Proofs.Code.Printing

/-!
# Bodies and their tokens

No two bodies of lookup functions have the same tokens, and no body's tokens
are the beginning of another's.  A handler, a call, a choice, `panic!` and
`None` stay apart whatever handlers, fields and functions are called, because
the second token tells what the first one leaves open.  Every token of a body
is one that can be read back, so bodies that look the same are the same.
-/

namespace OpcodeTables.Code

namespace Name

theorem eq_of_text {left right : Name} (same : left.text = right.text) : left = right := by
  cases left
  cases right
  simpa using same

theorem isIdentifier_text (name : Name) : isIdentifier name.text = true := by
  have valid := name.valid
  simp only [isFreeName, Bool.and_eq_true] at valid
  exact valid.1

theorem isWord_text (name : Name) : isWord name.text.toList = true :=
  isWord_of_isIdentifier name.isIdentifier_text

/-- Neither the underscore nor a reserved word is a name. -/
theorem text_not_mem (name : Name) : name.text ∉ unescapableWords := by
  have valid := name.valid
  simp only [isFreeName, Bool.and_eq_true, Bool.not_eq_true', decide_eq_false_iff_not] at valid
  rw [unescapableWords, List.mem_cons]
  rintro (same | reserved)
  · rw [same] at valid
    exact absurd valid.1 (by decide)
  · exact valid.2 reserved

theorem isIdentifierPart_of_mem (name : Name) {c : Char} (member : c ∈ name.text.toList) :
    isIdentifierPart c = true :=
  isIdentifierPart_of_isWord name.isWord_text member

/-- No name holds a `#`, so the keywords behind `r#` are the only words with one. -/
theorem written_injective {left right : Name} (same : left.written = right.written) :
    left = right := by
  have hash (name : Name) : '#' ∉ name.text.toList := by
    intro member
    have := name.isIdentifierPart_of_mem member
    contradiction
  have raw (text : String) : '#' ∈ ("r#" ++ text).toList := by simp
  apply eq_of_text
  unfold written at same
  split at same <;> split at same
  · simpa using same
  · exact absurd (same ▸ raw left.text) (hash right)
  · exact absurd (same ▸ raw right.text) (hash left)
  · exact same

theorem plain_token (name : Name) : name.token.Plain := by
  rw [token, written]
  split
  · exact Token.plain_rawWord (.of_isWord name.isWord_text) name.text_not_mem
  · exact Token.plain_of_isWord name.isWord_text

end Name

namespace Expression

open Token

/-! ### Different bodies have different tokens -/

theorem number_injective {left right : Nat} (same : number left = number right) :
    left = right :=
  Nat.repr_inj.mp (by simpa [number] using same)

theorem literalToken_injective {left right : Literal}
    (same : literalToken left = literalToken right) : left = right := by
  cases left with
  | bool left =>
      cases right with
      | bool right => cases left <;> cases right <;> simp_all [literalToken]
      | int right => cases left <;> simp [literalToken, number] at same
  | int left =>
      cases right with
      | bool right => cases right <;> simp [literalToken, number] at same
      | int right => rw [UInt32.toNat_inj.mp (number_injective same)]

theorem literalToken_ne (literal : Literal) : literalToken literal ≠ .word "_" := by
  cases literal with
  | bool value => cases value <;> simp [literalToken]
  | int value => simp [literalToken, number]

section Unambiguous

variable (unmatched : Unmatched)

/-- What is done without a fallback is not the beginning of a body: it is too
short for one, or a mark follows the first word. -/
theorem unmatchedTokens_ne (field : String) (body : Expression) {after after' : List Token} :
    unmatchedTokens unmatched field ++ mark ',' :: after ≠ body.tokens unmatched ++ after' := by
  cases unmatched <;> cases body <;>
    simp [unmatchedTokens, tokens, found, enclose, Name.token, argument, mark]

mutual

/-- Tokens that begin with a body begin with no other body. -/
theorem tokens_append_inj : (left right : Expression) → {after after' : List Token} →
    left.tokens unmatched ++ after = right.tokens unmatched ++ after' →
    left = right ∧ after = after'
  | .handler name cycles, right, after, after', same => by
      cases right with
      | handler name' cycles' =>
          have parts : name.written = name'.written ∧
              number cycles.toNat = number cycles'.toNat ∧ after = after' := by
            cases unmatched <;> simpa [tokens, found, enclose, Name.token] using same
          obtain ⟨names, numbers, rests⟩ := parts
          rw [Name.written_injective names, UInt32.toNat_inj.mp (number_injective numbers)]
          exact ⟨rfl, rests⟩
      | call | select =>
          cases unmatched <;> simp [tokens, found, enclose, Name.token, argument] at same
  | .call function, right, after, after', same => by
      cases right with
      | call other =>
          have parts : function.written = other.written ∧ after = after' := by
            simpa [tokens, enclose, Name.token] using same
          rw [Name.written_injective parts.1]
          exact ⟨rfl, parts.2⟩
      | handler | select =>
          cases unmatched <;> simp [tokens, found, enclose, Name.token, argument] at same
  | .select accessor arms fallback, right, after, after', same => by
      cases right with
      | select accessor' arms' fallback' =>
          simp only [tokens, enclose, Name.token, List.cons_append, List.nil_append,
            List.append_assoc, List.cons.injEq, Token.word.injEq, true_and] at same
          obtain ⟨names, inner⟩ := same
          obtain rfl := Name.written_injective names
          obtain ⟨rfl, rests⟩ := armTokens_append_inj arms arms' inner
          obtain ⟨rfl, ends⟩ := fallbackTokens_append_inj accessor.text fallback fallback'
            (List.append_cancel_left rests)
          exact ⟨rfl, by simpa using ends⟩
      | handler | call =>
          cases unmatched <;> simp [tokens, found, enclose, Name.token, argument] at same

/-- The underscore after arms tells where they end. -/
theorem armTokens_append_inj : (left right : List (Literal × Expression)) →
    {after after' : List Token} →
    armTokens unmatched left ++ .word "_" :: after =
      armTokens unmatched right ++ .word "_" :: after' →
    left = right ∧ after = after'
  | [], right, after, after', same => by
      cases right with
      | nil => simpa [armTokens] using same
      | cons arm rest =>
          simp [armTokens] at same
          exact absurd same.1.symm (literalToken_ne arm.1)
  | (value, body) :: rest, right, after, after', same => by
      cases right with
      | nil =>
          simp [armTokens] at same
          exact absurd same.1 (literalToken_ne value)
      | cons arm rest' =>
          obtain ⟨value', body'⟩ := arm
          simp only [armTokens, List.cons_append, List.append_assoc, List.cons.injEq] at same
          obtain ⟨literals, inner⟩ := same
          obtain ⟨rfl, rests⟩ := tokens_append_inj body body' (List.append_cancel_left inner)
          obtain ⟨rfl, ends⟩ := armTokens_append_inj rest rest' (List.cons.inj rests).2
          rw [literalToken_injective literals]
          exact ⟨rfl, ends⟩

/-- Having a fallback shows in the tokens. -/
theorem fallbackTokens_append_inj (field : String) : (left right : Option Expression) →
    {after after' : List Token} →
    fallbackTokens unmatched field left ++ mark ',' :: after =
      fallbackTokens unmatched field right ++ mark ',' :: after' →
    left = right ∧ after = after'
  | none, right, after, after', same => by
      cases right with
      | none => simpa using same
      | some body => exact absurd same (unmatchedTokens_ne unmatched field body)
  | some body, right, after, after', same => by
      cases right with
      | none => exact absurd same.symm (unmatchedTokens_ne unmatched field body)
      | some body' =>
          obtain ⟨rfl, same⟩ := tokens_append_inj body body' same
          exact ⟨rfl, by simpa using same⟩

end

end Unambiguous

/-! ### Tokens of bodies can be read -/

theorem plain_argument : argument.Plain :=
  plain_of_isWord (by decide)

theorem plain_repr (value : Nat) : (number value).Plain := by
  refine plain_number Nat.repr_ne_empty fun c member => ?_
  change c ∈ value.repr.toList at member
  rw [Nat.toList_repr] at member
  exact Nat.isDigit_of_mem_toDigits (by decide) (Nat.le_refl 10) member

theorem plain_literalToken (literal : Literal) : (literalToken literal).Plain := by
  cases literal with
  | bool value => cases value <;> exact plain_of_isWord (by decide)
  | int value => exact plain_repr _

theorem legible_arrow : Legible (operator ['=', '>']) :=
  legible_operator (by decide)

section Legible

variable (unmatched : Unmatched)

mutual

/-- All tokens of a body can be read back. -/
theorem legible_tokens : (body : Expression) → Legible (body.tokens unmatched)
  | .handler name cycles => by
      have pair : Legible (enclose .round [name.token, mark ',', number cycles.toNat]) :=
        .enclose (.cons name.plain_token (.cons plain_comma (.cons (plain_repr _) .nil)))
      cases unmatched with
      | panic => exact pair
      | none => exact .cons (plain_of_isWord (by decide)) pair.enclose
  | .call function =>
      .cons function.plain_token (.enclose (.cons plain_argument .nil))
  | .select accessor arms fallback => by
      have head : Legible [.word "match", argument, mark '.', accessor.token] :=
        .cons (plain_of_isWord (by decide)) (.cons plain_argument
          (.cons (plain_mark (by decide) (by decide)) (.cons accessor.plain_token .nil)))
      have rest : Legible (.word "_" :: operator ['=', '>']) :=
        .cons (plain_of_isWord (by decide)) legible_arrow
      rw [tokens]
      exact (head.append (.enclose .nil)).append (.enclose
        ((((legible_armTokens arms).append rest).append
          (legible_fallbackTokens accessor fallback)).append (.cons plain_comma .nil)))

theorem legible_armTokens : (arms : List (Literal × Expression)) →
    Legible (armTokens unmatched arms)
  | [] => by
      rw [armTokens]
      exact .nil
  | (value, body) :: rest => by
      have arm : Legible (literalToken value :: operator ['=', '>']) :=
        .cons (plain_literalToken value) legible_arrow
      rw [armTokens]
      exact ((arm.append (legible_tokens body)).append (.cons plain_comma .nil)).append
        (legible_armTokens rest)

theorem legible_fallbackTokens (accessor : Name) : (fallback : Option Expression) →
    Legible (fallbackTokens unmatched accessor.text fallback)
  | none => by
      rw [fallbackTokens]
      cases unmatched with
      | panic =>
          exact .cons (plain_of_isWord (by decide)) (.cons (plain_mark (by decide) (by decide))
            (.enclose (.cons (plain_stringLiteral _) (.cons plain_comma
              (.cons plain_argument .nil)))))
      | none => exact .cons (plain_of_isWord (by decide)) .nil
  | some body => by
      rw [fallbackTokens]
      exact legible_tokens body

end

end Legible

/-- Two bodies that look the same are the same. -/
theorem eq_of_print {unmatched : Unmatched} {left right : Expression}
    (same : print (left.tokens unmatched) = print (right.tokens unmatched)) : left = right := by
  have tokens : left.tokens unmatched ++ [] = right.tokens unmatched ++ [] :=
    congrArg (· ++ [])
      ((legible_tokens unmatched left).eq_of_print (legible_tokens unmatched right) same)
  exact (tokens_append_inj unmatched left right tokens).1

end Expression

end OpcodeTables.Code
