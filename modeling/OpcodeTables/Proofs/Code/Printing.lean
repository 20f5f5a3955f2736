import OpcodeTables.Proofs.Code.Strings

/-!
# Reading printed tokens back

A line of tokens is read back as it was printed when each of its tokens is split
off from whatever may follow it: a space, a closing bracket or the end of the
line, or anything at all after a bracket or a joint punctuation character.
-/

namespace OpcodeTables.Code

/-! ### Reading a line -/

/-- The tokens up to the end of a line, with any number of spaces between two of
them, and what is left after its line feed. -/
def readLine? (text : List Char) : Option (List Token × List Char) :=
  match text with
  | '\n' :: rest => some ([], rest)
  | ' ' :: rest => readLine? rest
  | text =>
      match splitToken? text with
      -- Every token takes at least one character.
      | some (tokens, after) =>
          if after.length < text.length then
            (readLine? after).map fun (more, left) => (tokens ++ more, left)
          else none
      | none => none
termination_by text.length

theorem readLine?_splitToken? {text after left : List Char} {token : Token} {more : List Token}
    (split : splitToken? text = some ([token], after)) (shorter : after.length < text.length)
    (read : readLine? after = some (more, left)) :
    readLine? text = some (token :: more, left) := by
  rw [readLine?]
  · simp [split, shorter, read]
  · rintro rest rfl
    rw [splitToken?_eq_none (by decide) rfl] at split
    contradiction
  · rintro rest rfl
    rw [splitToken?_eq_none (by decide) rfl] at split
    contradiction

namespace Token

/-- Whether a text may follow a token directly. -/
def Precedes (after : List Char) : Token → Prop
  | .opening _ => ['/', '*'].isPrefixOf after = false
  | .closing _ => True
  | .punct _ true => True
  | _ => Ends after

/-- A token that is split off from whatever it may precede. -/
structure Plain (token : Token) : Prop where
  alone : ∀ c, token ≠ .punct c true
  split : ∀ after, token.Precedes after →
    splitToken? (token.text.toList ++ after) = some ([token], after)

/-- A joint punctuation character that is split off from the token it goes
together with. -/
structure Joins (c : Char) (next : Token) : Prop where
  together : spaced (.punct c true) next = false
  split : ∀ after, next.Precedes after →
    splitToken? (next.text.toList ++ after) = some ([next], after) →
      splitToken? (c :: (next.text.toList ++ after)) =
        some ([.punct c true], next.text.toList ++ after)

/-- Lines of plain tokens and of punctuation characters that go together. -/
inductive Legible : List Token → Prop where
  | nil : Legible []
  | cons {token : Token} {rest : List Token} (plain : token.Plain) (after : Legible rest) :
      Legible (token :: rest)
  | joint {c : Char} {next : Token} {rest : List Token} (joins : Joins c next)
      (after : Legible (next :: rest)) : Legible (.punct c true :: next :: rest)

theorem Legible.append {left right : List Token} (first : Legible left) (second : Legible right) :
    Legible (left ++ right) := by
  induction first with
  | nil => exact second
  | cons plain _ ih => exact .cons plain ih
  | joint joins _ ih => exact .joint joins ih

/-! ### Plain tokens -/

@[simp] theorem toList_text_mark (c : Char) : (mark c).text.toList = [c] := by
  change c.toString.toList = [c]
  simp

theorem plain_word {text : String} (spelled : SpellsWord text.toList) : (word text).Plain where
  alone := nofun
  split after precedes := by
    have split := splitToken?_word spelled precedes
    rwa [String.ofList_toList] at split

theorem plain_of_isWord {text : String} (valid : isWord text.toList = true) :
    (word text).Plain :=
  plain_word (.of_isWord valid)

theorem plain_rawWord {text : String} (spelled : SpellsWord text.toList)
    (escapable : text ∉ unescapableWords) : (word ("r#" ++ text)).Plain where
  alone := nofun
  split after precedes := by
    have split := splitToken?_rawWord spelled (by rwa [String.ofList_toList]) precedes
    rw [String.ofList_toList] at split
    rw [← split, Token.text, String.toList_append]
    rfl

theorem plain_number {text : String} (nonempty : text ≠ "")
    (decimal : ∀ c ∈ text.toList, c.isDigit = true) : (literal text).Plain where
  alone := nofun
  split after precedes := by
    have read := afterLiteral?_number decimal precedes (by simpa using nonempty)
    cases chars : text.toList with
    | nil => simp_all
    | cons first rest =>
        have digit : first.isDigit = true := decimal first (by simp [chars])
        have opens : bracketToken? first = none := by
          rw [bracketToken?] <;> rintro rfl <;> contradiction
        rw [chars] at read
        rw [Token.text, chars, splitToken?_literal opens read, ← chars, String.ofList_toList]

/-- A string literal is read back whatever text it is for. -/
theorem plain_stringLiteral (text : List Char) : (stringLiteral text).Plain where
  alone := nofun
  split after precedes := by
    have read : afterLiteral? ('"' :: (literalChars text ++ ['"']) ++ after) = some after := by
      rw [List.cons_append, List.append_assoc, List.singleton_append, afterLiteral?,
        afterQuoted?_literalChars, Option.map_some, afterSuffix_of_ends precedes]
    rw [stringLiteral, Token.text, String.toList_ofList]
    exact splitToken?_literal rfl read

theorem plain_mark {c : Char} (punctuation : isPunctuation c = true) (quote : c ≠ '\'') :
    (mark c).Plain where
  alone := nofun
  split after precedes := by
    have ends : Ends after := precedes
    have begins : startsPunctuation (c :: after) = true := by
      apply startsPunctuation_cons punctuation
      rintro - d member
      constructor <;> rintro rfl <;> exact absurd (ends _ member) (by decide)
    rw [toList_text_mark, List.cons_append, List.nil_append,
      splitToken?_punct punctuation quote begins, ends.startsPunctuation]
    rfl

theorem plain_comma : (mark ',').Plain :=
  plain_mark (by decide) (by decide)

theorem plain_colon : (mark ':').Plain :=
  plain_mark (by decide) (by decide)

theorem plain_semicolon : (mark ';').Plain :=
  plain_mark (by decide) (by decide)

theorem plain_opening (bracket : Bracket) : (opening bracket).Plain where
  alone := nofun
  split after precedes := by
    obtain ⟨c, chars, found⟩ := bracket.exists_opening
    rw [Token.text, chars]
    exact splitToken?_bracket found (.inr precedes)

theorem plain_closing (bracket : Bracket) : (closing bracket).Plain where
  alone := nofun
  split after _ := by
    obtain ⟨c, chars, found⟩ := bracket.exists_closing
    rw [Token.text, chars]
    refine splitToken?_bracket found (.inl ?_)
    rintro rfl
    simp [bracketToken?] at found

theorem spaced_eq_false {c d : Char} {next : Token} {rest : List Char}
    (begins : next.text.toList = d :: rest) (other : d ≠ '\x7d') :
    spaced (.punct c true) next = false := by
  cases next with
  | closing bracket =>
      cases bracket with
      | curly =>
          obtain rfl : '\x7d' = d := Option.some.inj (congrArg List.head? begins)
          exact absurd rfl other
      | _ => rfl
  | _ => rfl

/-- A punctuation character goes together with what begins with another one, as
long as they make no comment. -/
theorem joins_punctuation {c d : Char} {next : Token} {rest : List Char}
    (punctuation : isPunctuation c = true) (quote : c ≠ '\'') (slash : c = '/' → d ≠ '/' ∧ d ≠ '*')
    (begins : next.text.toList = d :: rest) (other : isPunctuation d = true) : Joins c next where
  together := by
    apply spaced_eq_false begins
    rintro rfl
    exact absurd other (by decide)
  split after precedes split := by
    rw [begins, List.cons_append] at split ⊢
    have first : startsPunctuation (c :: d :: (rest ++ after)) = true := by
      apply startsPunctuation_cons punctuation
      rintro same d' ⟨⟩
      exact slash same
    rw [splitToken?_punct punctuation quote first, startsPunctuation_of_splitToken? other split]

/-- The characters of an operator are read back together. -/
theorem legible_operator {chars : List Char}
    (marks : chars.all (fun c => isPunctuation c && c != '\'' && c != '/') = true) :
    Legible (operator chars) := by
  induction chars with
  | nil => exact .nil
  | cons c rest ih =>
      simp only [List.all_cons, Bool.and_eq_true, bne_iff_ne] at marks
      obtain ⟨⟨⟨punctuation, quote⟩, slash⟩, others⟩ := marks
      cases rest with
      | nil => exact .cons (plain_mark punctuation quote) .nil
      | cons d rest =>
          have next : isPunctuation d = true := by
            simp only [List.all_cons, Bool.and_eq_true] at others
            exact others.1.1.1
          have joins (joint : Bool) : Joins c (.punct d joint) :=
            joins_punctuation punctuation quote (fun same => absurd same slash)
              (by simp [text] : (punct d joint).text.toList = [d]) next
          have legible := ih others
          cases rest with
          | nil => exact .joint (joins false) legible
          | cons => exact .joint (joins true) legible

theorem Legible.enclose {bracket : Bracket} {inside : List Token} (legible : Legible inside) :
    Legible (Token.enclose bracket inside) :=
  .cons (plain_opening bracket) (legible.append (.cons (plain_closing bracket) .nil))

/-! ### Lines of tokens -/

/-- What is printed after a token. -/
def printAfter (token : Token) : List Token → List Char
  | [] => []
  | next :: rest => (if spaced token next then [' '] else []) ++ (print (next :: rest)).toList

theorem toList_print_cons (token : Token) (rest : List Token) :
    (print (token :: rest)).toList = token.text.toList ++ printAfter token rest := by
  cases rest with
  | nil => simp [print, printAfter]
  | cons next rest =>
      simp only [print, printAfter, String.toList_append, List.append_assoc]
      split <;> simp

/-- Only a joint character or an opening bracket has something other than a
closing bracket directly after it. -/
theorem eq_closing_of_spaced {token next : Token} (opens : ∀ bracket, token ≠ .opening bracket)
    (joins : ∀ c, token ≠ .punct c true) (together : spaced token next = false) :
    next = .closing .round ∨ next = .closing .square := by
  unfold spaced at together
  split at together
  · exact absurd together (by decide)
  · exact absurd together (by decide)
  · next c _ => exact absurd rfl (joins c)
  · next bracket _ _ => exact absurd rfl (opens bracket)
  · next bracket _ _ _ _ =>
      cases bracket with
      | round => exact .inl rfl
      | square => exact .inr rfl
      | curly => simp_all
  · exact absurd together (by decide)

/-- Words, literals and marks are printed so that they end. -/
theorem ends_printAfter {token : Token} (rest : List Token) (more : List Char)
    (opens : ∀ bracket, token ≠ .opening bracket) (joins : ∀ c, token ≠ .punct c true) :
    Ends (printAfter token rest ++ '\n' :: more) := by
  cases rest with
  | nil =>
      rintro c ⟨⟩
      decide
  | cons next rest =>
      intro c head
      rw [printAfter] at head
      split at head
      · obtain rfl : ' ' = c := by simpa using head
        decide
      · next together =>
          rw [toList_print_cons] at head
          rcases eq_closing_of_spaced opens joins (by simpa using together) with rfl | rfl
          · obtain rfl : ')' = c := by simpa [text, Bracket.closing] using head
            decide
          · obtain rfl : ']' = c := by simpa [text, Bracket.closing] using head
            decide

/-- What is printed after a token may follow it, as long as the rest begins no
comment. -/
theorem precedes_printAfter {token : Token} {rest : List Token} {more : List Char}
    (split : rest ≠ [] → (splitToken? ((print rest).toList ++ '\n' :: more)).isSome = true) :
    token.Precedes (printAfter token rest ++ '\n' :: more) := by
  cases token with
  | word | literal => exact ends_printAfter rest more nofun nofun
  | punct c joint =>
      cases joint with
      | true => trivial
      | false => exact ends_printAfter rest more nofun nofun
  | closing => trivial
  | opening bracket =>
      change ['/', '*'].isPrefixOf _ = false
      cases rest with
      | nil => rfl
      | cons next rest =>
          rw [printAfter]
          split
          · rfl
          · next =>
              rw [List.nil_append, ← Bool.not_eq_true, List.isPrefixOf_iff_prefix]
              rintro ⟨comment, same⟩
              have begun := split (List.cons_ne_nil _ _)
              rw [← same, List.cons_append, splitToken?_eq_none (by decide) rfl] at begun
              contradiction

/-- Each token of a line is split off as it was printed. -/
theorem Legible.splitToken?_print {tokens : List Token} (legible : Legible tokens) {token : Token}
    {rest : List Token} (same : tokens = token :: rest) (more : List Char) :
    token.Precedes (printAfter token rest ++ '\n' :: more) ∧
      splitToken? ((print tokens).toList ++ '\n' :: more) =
        some ([token], printAfter token rest ++ '\n' :: more) := by
  induction legible generalizing token rest with
  | nil => contradiction
  | @cons token rest plain _ ih =>
      obtain ⟨rfl, rfl⟩ := List.cons.inj same
      have precedes : token.Precedes (printAfter token rest ++ '\n' :: more) := by
        apply precedes_printAfter
        intro filled
        obtain ⟨next, others, rfl⟩ := List.exists_cons_of_ne_nil filled
        rw [(ih rfl).2]
        rfl
      rw [toList_print_cons, List.append_assoc]
      exact ⟨precedes, plain.split _ precedes⟩
  | @joint c next rest joins _ ih =>
      obtain ⟨rfl, rfl⟩ := List.cons.inj same
      obtain ⟨precedes, split⟩ := ih rfl
      have unspaced : printAfter (.punct c true) (next :: rest) = (print (next :: rest)).toList := by
        rw [printAfter, joins.together]
        rfl
      have mark : (punct c true).text.toList = [c] := by simp [text]
      rw [toList_print_cons, List.append_assoc] at split
      rw [toList_print_cons, unspaced, toList_print_cons, mark]
      simp only [List.append_assoc, List.cons_append]
      exact ⟨trivial, joins.split _ precedes split⟩

theorem Plain.text_ne_nil {token : Token} (plain : token.Plain) : token.text.toList ≠ [] := by
  intro empty
  have precedes : token.Precedes [] := by
    cases token with
    | punct _ joint => cases joint <;> simp [Precedes, Ends]
    | _ => simp [Precedes, Ends]
  have none : splitToken? [] = .none := by decide
  have split := plain.split [] precedes
  rw [empty, List.nil_append, none] at split
  contradiction

theorem Legible.text_ne_nil {token : Token} {rest : List Token}
    (legible : Legible (token :: rest)) : token.text.toList ≠ [] := by
  cases legible with
  | cons plain => exact plain.text_ne_nil
  | @joint c => simp [text]

/-- A line is read back as it was printed. -/
theorem Legible.readLine?_print {tokens : List Token} (legible : Legible tokens)
    (more : List Char) :
    readLine? ((print tokens).toList ++ '\n' :: more) = some (tokens, more) := by
  induction tokens with
  | nil => rw [print, String.toList_empty, List.nil_append, readLine?]
  | cons token rest ih =>
      obtain ⟨-, split⟩ := legible.splitToken?_print rfl more
      have filled := legible.text_ne_nil
      have others : Legible rest := by
        cases legible with
        | cons _ others => exact others
        | joint _ others => exact others
      have read : readLine? (printAfter token rest ++ '\n' :: more) = some (rest, more) := by
        cases rest with
        | nil => exact ih others
        | cons next rest =>
            rw [printAfter]
            split
            · rw [List.singleton_append, List.cons_append, readLine?]
              exact ih others
            · exact ih others
      refine readLine?_splitToken? split ?_ read
      have long := List.length_pos_iff.mpr filled
      simp only [toList_print_cons, List.append_assoc, List.length_append]
      omega

/-- Two legible lines that look the same are the same. -/
theorem Legible.eq_of_print {left right : List Token} (first : Legible left)
    (second : Legible right) (same : print left = print right) : left = right := by
  have read := first.readLine?_print []
  rw [same, second.readLine?_print] at read
  exact (congrArg Prod.fst (Option.some.inj read)).symm

end Token

end OpcodeTables.Code
