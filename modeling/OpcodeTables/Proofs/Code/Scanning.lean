import OpcodeTables.Proofs.Code.Literals
import OpcodeTables.Proofs.Code.Printing

/-!
# Tokens of options are read back

Texts of options become part of emitted code.  Whatever tokens such a text has,
they are read back as they are printed.
-/

namespace OpcodeTables.Code

namespace Token

/-! ### What is split off -/

/-- A literal is split off from whatever ends it. -/
theorem plain_literal {text after : List Char} (opens : text.head?.bind bracketToken? = none)
    (read : afterLiteral? text = some after) :
    ∃ taken, text = taken ++ after ∧ (literal (String.ofList taken)).Plain := by
  obtain ⟨first, taken, rfl, ends⟩ := exists_afterLiteral? read
  refine ⟨first :: taken, rfl, nofun, fun other precedes => ?_⟩
  rw [Token.text, String.toList_ofList]
  exact splitToken?_literal opens (ends other precedes)

theorem plain_errorMark : (literal (String.ofList errorMark)).Plain where
  alone := nofun
  split after _ := by
    have begins : errorMark.isPrefixOf (errorMark ++ after) = true :=
      List.isPrefixOf_iff_prefix.mpr (List.prefix_append _ _)
    rw [Token.text, String.toList_ofList, splitToken?, if_pos begins, List.drop_left]

theorem plain_bracket {c : Char} {token : Token} (bracket : bracketToken? c = some token) :
    token.text.toList = [c] ∧ token.Plain := by
  unfold bracketToken? at bracket
  split at bracket
  all_goals first | contradiction | obtain rfl := Option.some.inj bracket
  · exact ⟨rfl, plain_opening _⟩
  · exact ⟨rfl, plain_opening _⟩
  · exact ⟨rfl, plain_opening _⟩
  · exact ⟨rfl, plain_closing _⟩
  · exact ⟨rfl, plain_closing _⟩
  · exact ⟨rfl, plain_closing _⟩

/-- A name is a word, or one behind `r#`. -/
theorem splitName?_eq_some {text after : List Char} {name : String}
    (split : splitName? text = some (name, after)) :
    text = name.toList ++ after ∧ (∀ c ∈ after.head?, Text.isWordPart c = false) ∧
      (SpellsWord name.toList ∨
        ∃ word, name = "r#" ++ word ∧ SpellsWord word.toList ∧ word ∉ unescapableWords) := by
  unfold splitName? at split
  split at split
  · split at split
    · next word left found =>
        obtain ⟨spelled, rfl, stops⟩ := splitWord?_eq_some found
        split at split
        · contradiction
        · next escapable =>
            cases split
            refine ⟨by simp, stops, .inr ⟨String.ofList word, rfl, ?_, escapable⟩⟩
            rwa [String.toList_ofList]
    · contradiction
  · obtain ⟨⟨word, left⟩, found, same⟩ := Option.map_eq_some_iff.mp split
    cases same
    obtain ⟨spelled, rfl, stops⟩ := splitWord?_eq_some found
    rw [String.toList_ofList]
    exact ⟨rfl, stops, .inl spelled⟩

theorem plain_name {text after : List Char} {name : String}
    (split : splitName? text = some (name, after)) : (word name).Plain := by
  obtain ⟨-, -, spelled | ⟨word, rfl, spelled, escapable⟩⟩ := splitName?_eq_some split
  · exact plain_word spelled
  · exact plain_rawWord spelled escapable

/-- A name that makes a lifetime of a quote before it. -/
def Lifetime (text : List Char) : Prop :=
  ∃ name left, splitName? text = some (name, left) ∧ left.head? ≠ some '\'' ∧
    (left.head? = some '#' → ['r', '#'].isPrefixOf text = true)

/-- What a token and the text after it show of a token that is split off: it is
plain, or a joint punctuation character, or the quote of a lifetime. -/
inductive Splits : Token → List Char → Prop where
  | plain {token : Token} {after : List Char} (plain : token.Plain) : Splits token after
  | joint {c : Char} {after : List Char} (quote : c ≠ '\'')
      (begins : startsPunctuation (c :: after) = true)
      (follows : startsPunctuation after = true) : Splits (.punct c true) after
  | lifetime {after : List Char} (named : Lifetime after) : Splits (.punct '\'' true) after

theorem splits_punctuation {text after : List Char} {mark : Token}
    (split : splitPunctuation? text = some (mark, after)) :
    text = mark.text.toList ++ after ∧ Splits mark after := by
  unfold splitPunctuation? at split
  split at split
  · next rest =>
      split at split
      · contradiction
      · next name left found =>
          dsimp only at split
          split at split
          · contradiction
          · next other =>
              cases split
              rw [not_or, not_and] at other
              refine ⟨rfl, .lifetime ⟨name, left, found, other.1, fun hash => ?_⟩⟩
              simpa using other.2 hash
  · next quote =>
      split at split
      · next begins =>
          split at split
          · next c rest =>
              cases split
              have other : c ≠ '\'' := by
                rintro rfl
                exact quote after rfl
              refine ⟨by simp [Token.text], ?_⟩
              cases follows : startsPunctuation after with
              | true => exact .joint other begins follows
              | false =>
                  obtain ⟨_, _, same, punctuation, -⟩ := exists_of_startsPunctuation begins
                  cases same
                  exact .plain (plain_mark punctuation other)
          · contradiction
      · contradiction

/-- What is split off is a plain token, a joint punctuation character or the quote
of a lifetime. -/
theorem exists_of_splitToken? {text after : List Char} {tokens : List Token}
    (split : splitToken? text = some (tokens, after)) :
    ∃ token, tokens = [token] ∧ text = token.text.toList ++ after ∧ Splits token after := by
  unfold splitToken? at split
  split at split
  · next begins =>
      cases split
      obtain ⟨left, rfl⟩ := List.isPrefixOf_iff_prefix.mp begins
      exact ⟨_, rfl, by simp [Token.text], .plain plain_errorMark⟩
  · split at split
    · next bracket found =>
        cases split
        cases text with
        | nil => contradiction
        | cons c rest =>
            obtain ⟨chars, plain⟩ := plain_bracket found
            exact ⟨bracket, rfl, by rw [chars]; rfl, .plain plain⟩
    · next opens =>
        split at split
        · next left read =>
            cases split
            obtain ⟨taken, rfl, plain⟩ := plain_literal opens read
            have same : (taken ++ after).take ((taken ++ after).length - after.length) = taken := by
              rw [List.length_append, Nat.add_sub_cancel, List.take_left]
            rw [same]
            exact ⟨_, rfl, by simp [Token.text], .plain plain⟩
        · split at split
          · next mark left found =>
              cases split
              obtain ⟨chars, splits⟩ := splits_punctuation found
              exact ⟨mark, rfl, chars, splits⟩
          · split at split
            · contradiction
            · obtain ⟨⟨name, left⟩, found, same⟩ := Option.map_eq_some_iff.mp split
              cases same
              exact ⟨_, rfl, (splitName?_eq_some found).1, .plain (plain_name found)⟩

/-! ### What follows a joint character -/

/-- White space by its code points, with some more around them. -/
theorem toNat_of_isSpace {c : Char} (space : isSpace c = true) :
    c.toNat ≤ 0x20 ∨ (0x85 ≤ c.toNat ∧ c.toNat ≤ 0xA0) ∨ c.toNat = 0x1680 ∨
      (0x2000 ≤ c.toNat ∧ c.toNat ≤ 0x205F) ∨ c.toNat = 0x3000 := by
  simp only [isSpace, Text.isBlank, Bool.or_eq_true, Bool.and_eq_true, decide_eq_true_eq,
    beq_iff_eq] at space
  rcases space with (blank | rfl) | rfl
  · omega
  · decide
  · decide

theorem isSpace_of_isWordStart {c : Char} (start : Text.isWordStart c = true) :
    isSpace c = false := by
  rw [← Bool.not_eq_true]
  intro space
  have places := toNat_of_isSpace space
  by_cases ascii : c.toNat < 0x80
  · rw [isWordStart_of_ascii ascii] at start
    have := (toNat_of_isIdentifierPart (isIdentifierPart_of_isIdentifierStart start)).1
    omega
  · have apart : Text.wordStartRanges.all (fun range =>
        [Text.CodeRange.mk 0 0xA0, ⟨0x1680, 0x1680⟩, ⟨0x2000, 0x205F⟩, ⟨0x3000, 0x3000⟩].all
          fun gap => gap.last < range.first || range.last < gap.first) = true := by
      decide +kernel
    rw [Text.isWordStart, if_neg ascii, List.any_eq_true] at start
    obtain ⟨range, member, covers⟩ := start
    have other := List.all_eq_true.mp apart range member
    simp only [Text.CodeRange.covers, List.all_cons, List.all_nil, Bool.and_eq_true, Bool.or_eq_true,
      decide_eq_true_eq, Bool.and_true] at other covers
    omega

theorem isSpace_of_isPunctuation {c : Char} (punctuation : isPunctuation c = true) :
    isSpace c = false := by
  have others : ∀ c ∈ "~!@#$%^&*-=+|;:,<.>/?'".toList, isSpace c = false :=
    eq_false_of_all (by decide)
  exact others c (List.contains_iff_mem.mp punctuation)

section Solid

variable {c : Char} {rest : List Char} (slash : c = '/' → ∀ d ∈ rest.head?, d ≠ '/' ∧ d ≠ '*')

include slash

theorem ne_comment {d : Char} {more : List Char} (mark : d = '/' ∨ d = '*') :
    c :: rest ≠ '/' :: d :: more := by
  intro same
  cases same
  obtain ⟨line, block⟩ := slash rfl d rfl
  rcases mark with mark | mark
  · exact line mark
  · exact block mark

theorem skipSpace_cons (solid : isSpace c = false) : skipSpace (c :: rest) = c :: rest := by
  rw [skipSpace.eq_def]
  split
  · next same => exact absurd same (ne_comment slash (.inl rfl))
  · next same => exact absurd same (ne_comment slash (.inr rfl))
  · next same => exact absurd same (ne_comment slash (.inr rfl))
  · next same =>
      cases same
      simp [solid]
  · contradiction

theorem docComment?_cons : docComment? (c :: rest) = none := by
  unfold docComment?
  split
  · next same => exact absurd same (ne_comment slash (.inl rfl))
  · next same => exact absurd same (ne_comment slash (.inl rfl))
  · next same => exact absurd same (ne_comment slash (.inr rfl))
  · next same => exact absurd same (ne_comment slash (.inr rfl))
  · rfl

/-- A text that begins neither white space nor a comment is scanned from its first
token on. -/
theorem scan?_eq_some {tokens : List Token} (solid : isSpace c = false)
    (read : scan? (c :: rest) = some tokens) :
    ∃ next after others, splitToken? (c :: rest) = some ([next], after) ∧
      c :: rest = next.text.toList ++ after ∧ Splits next after ∧ tokens = next :: others := by
  have undocumented : docComment? (c :: rest) = none := docComment?_cons slash
  rw [scan?, skipSpace_cons slash solid] at read
  simp only [splitTokens?, undocumented] at read
  split at read
  · next found after split =>
      obtain ⟨next, rfl, chars, splits⟩ := exists_of_splitToken? split
      split at read
      · obtain ⟨others, -, same⟩ := Option.map_eq_some_iff.mp read
        exact ⟨next, after, others, split, chars, splits, same.symm⟩
      · contradiction
  · contradiction

end Solid

theorem Splits.text_ne_nil {token : Token} {after : List Char} (splits : Splits token after) :
    token.text.toList ≠ [] := by
  cases splits with
  | plain plain => exact plain.text_ne_nil
  | joint | lifetime => simp [Token.text]

theorem joins_of_punctuation {c : Char} {after : List Char} {tokens : List Token}
    (quote : c ≠ '\'') (begins : startsPunctuation (c :: after) = true)
    (follows : startsPunctuation after = true) (read : scan? after = some tokens) :
    ∃ next rest, tokens = next :: rest ∧ Joins c next := by
  obtain ⟨_, _, same, punctuation, slash⟩ := exists_of_startsPunctuation begins
  cases same
  obtain ⟨d, rest, rfl, other, comment⟩ := exists_of_startsPunctuation follows
  obtain ⟨next, left, others, -, chars, splits, same⟩ :=
    scan?_eq_some comment (isSpace_of_isPunctuation other) read
  obtain ⟨first, more, begun⟩ := List.exists_cons_of_ne_nil splits.text_ne_nil
  rw [begun] at chars
  obtain ⟨rfl, -⟩ := List.cons.inj chars
  exact ⟨next, others, same, joins_punctuation punctuation quote (fun same => slash same d rfl)
    begun other⟩

/-! ### Lifetimes -/

theorem Lifetime.exists_cons {text : List Char} (named : Lifetime text) :
    ∃ c rest, text = c :: rest ∧ Text.isWordStart c = true ∧ rest.head? ≠ some '\'' := by
  obtain ⟨name, left, split, quote, -⟩ := named
  obtain ⟨rfl, -, spelled | ⟨word, rfl, -⟩⟩ := splitName?_eq_some split
  · obtain ⟨c, rest, chars, start, parts⟩ := spelled
    refine ⟨c, rest ++ left, by rw [chars]; rfl, start, ?_⟩
    cases rest with
    | nil => exact quote
    | cons second rest =>
        rintro ⟨⟩
        have part := parts '\'' List.mem_cons_self
        rw [isWordPart_of_ascii (by decide)] at part
        exact absurd part (by decide)
  · exact ⟨'r', '#' :: word.toList ++ left, by simp, by decide, by simp⟩

/-- The quote of a lifetime is a token of its own. -/
theorem splitToken?_lifetime {text : List Char} (named : Lifetime text) :
    splitToken? ('\'' :: text) = some ([.punct '\'' true], text) := by
  obtain ⟨c, rest, rfl, start, quote⟩ := named.exists_cons
  obtain ⟨name, left, split, ended, escaped⟩ := named
  have escape : c ≠ '\\' := by
    rintro rfl
    exact absurd start (by decide)
  have character : afterCharacter? .text (c :: rest) = none := by
    cases rest <;> simp_all [afterCharacter?, StringKind.allows]
  have literal : afterLiteral? ('\'' :: c :: rest) = none := by
    rw [afterLiteral?, character]
    rfl
  have mark : splitPunctuation? ('\'' :: c :: rest) = some (.punct '\'' true, c :: rest) := by
    simp only [splitPunctuation?, split]
    rw [if_neg]
    rintro (quoted | ⟨hash, raw⟩)
    · exact ended quoted
    · simp [escaped hash] at raw
  rw [splitToken?, isPrefixOf_errorMark (.inl (by decide))]
  simp [literal, mark, bracketToken?]

/-- What begins like a word is a literal or a name. -/
theorem literal_or_name {c : Char} {rest after : List Char} {next : Token}
    (start : Text.isWordStart c = true) (split : splitToken? (c :: rest) = some ([next], after)) :
    afterLiteral? (c :: rest) = some after ∨
      ∃ name, next = .word name ∧ splitName? (c :: rest) = some (name, after) := by
  obtain ⟨unmarked, bracket, mark⟩ := @unmarked_of_isWordStart c rest start
  rw [splitToken?, unmarked] at split
  simp only [Bool.false_eq_true, if_false, List.head?_cons, Option.bind_some, bracket, mark] at split
  split at split
  · next left read =>
      cases split
      exact .inl read
  · split at split
    · contradiction
    · obtain ⟨⟨name, left⟩, found, same⟩ := Option.map_eq_some_iff.mp split
      cases same
      exact .inr ⟨name, rfl, found⟩

theorem Lifetime.word {text after other : List Char} {name : String}
    (split : splitName? text = some (name, after)) (ends : Ends other) :
    Lifetime (name.toList ++ other) := by
  have stops : ∀ c ∈ other.head?, Text.isWordPart c = false := ends.clear isWordPart_of_mem_ending
  have quote : other.head? ≠ some '\'' := fun head => absurd (ends _ head) (by decide)
  have hash : other.head? ≠ some '#' := fun head => absurd (ends _ head) (by decide)
  refine ⟨name, other, ?_, quote, fun head => absurd head hash⟩
  obtain ⟨-, -, spelled | ⟨word, rfl, spelled, escapable⟩⟩ := splitName?_eq_some split
  · rw [splitName?_word spelled stops hash, String.ofList_toList]
  · have raw := splitName?_rawWord spelled (by rwa [String.ofList_toList]) stops
    rw [String.ofList_toList] at raw
    rw [← raw, String.toList_append]
    rfl

/-- Words that stand before the quote of a string. -/
def stringWords : List (List Char) :=
  [['r'], ['b'], ['b', 'r'], ['c'], ['c', 'r']]

/-- No string ends at its first quote or before. -/
theorem afterLiteral?_of_prefix {word part : List Char} (member : word ∈ stringWords)
    (begins : part <+: word ++ ['"']) : afterLiteral? part = none := by
  have short : ∀ word ∈ stringWords, (word ++ ['"']).length ≤ 3 := by decide
  have unread : ∀ word ∈ stringWords, ∀ length ≤ 3,
      afterLiteral? ((word ++ ['"']).take length) = none := by decide +kernel
  rw [List.prefix_iff_eq_take.mp begins]
  exact unread word member part.length (begins.length_le.trans (short word member))

/-- The strings that may stand behind the quote of a lifetime. -/
theorem Lifetime.exists_string {text : List Char} (named : Lifetime text)
    (strings : startsString text = true) :
    ∃ word ∈ stringWords, word ++ ['"'] <+: text := by
  have starts : Text.isWordStart '"' = false ∧ Text.isWordStart '#' = false ∧
      Text.isWordStart 'b' = true ∧ Text.isWordStart 'c' = true := by decide
  have others : ∀ c ∈ ['\'', '#'], Text.isWordPart c = false := isWordPart_eq_false (by decide)
  have facts : Text.isWordPart 'r' = true ∧ Text.isWordPart '\'' = false ∧
      Text.isWordPart '#' = false :=
    ⟨isWordPart_of_isIdentifierPart (by decide), others _ (by decide), others _ (by decide)⟩
  obtain ⟨start, member, begins⟩ := List.any_eq_true.mp strings
  rw [List.isPrefixOf_iff_prefix] at begins
  obtain ⟨name, left, split, quote, hash⟩ := named
  simp only [stringStarts, List.mem_cons, List.not_mem_nil, or_false] at member
  rcases member with rfl | rfl | rfl | rfl | rfl | rfl | rfl | rfl | rfl | rfl
  · exact ⟨['r'], by decide, begins⟩
  · obtain ⟨tail, rfl⟩ := begins
    simp [splitName?, splitWord?, starts] at split
  · obtain ⟨tail, rfl⟩ := begins
    simp [splitName?, splitWord?, starts] at split
  · exact ⟨['b'], by decide, begins⟩
  · obtain ⟨tail, rfl⟩ := begins
    simp [splitName?, splitWord?, starts, facts] at split
    simp [← split.2] at quote
  · exact ⟨['b', 'r'], by decide, begins⟩
  · obtain ⟨tail, rfl⟩ := begins
    simp [splitName?, splitWord?, starts, facts] at split
    simp [← split.2] at hash
  · exact ⟨['c'], by decide, begins⟩
  · exact ⟨['c', 'r'], by decide, begins⟩
  · obtain ⟨tail, rfl⟩ := begins
    simp [splitName?, splitWord?, starts, facts] at split
    simp [← split.2] at hash

/-- A string behind the quote of a lifetime stays there whatever follows it. -/
theorem Lifetime.string {c : Char} {rest after taken other : List Char}
    (named : Lifetime (c :: rest)) (start : Text.isWordStart c = true)
    (literal : afterLiteral? (c :: rest) = some after) (same : c :: rest = taken ++ after) :
    Lifetime (taken ++ other) := by
  have strings : startsString (c :: rest) = true := by
    cases begins : startsString (c :: rest) with
    | true => rfl
    | false =>
        rw [afterLiteral?_eq_none start begins] at literal
        contradiction
  obtain ⟨word, member, begins⟩ := named.exists_string strings
  obtain ⟨first, read, whole, ends⟩ := exists_afterLiteral? literal
  obtain rfl : taken = first :: read := List.append_cancel_right (same.symm.trans whole)
  have begun : first :: read <+: c :: rest := whole ▸ List.prefix_append _ _
  rcases List.prefix_or_prefix_of_prefix begins begun with inside | part
  · obtain ⟨more, same⟩ := inside
    have spelled : SpellsWord word := by
      have words : ∀ word ∈ stringWords, isWord word = true := by decide
      exact .of_isWord (words word member)
    have stops : ∀ c ∈ ['"'], Text.isWordPart c = false := isWordPart_eq_false (by decide)
    refine ⟨String.ofList word, '"' :: (more ++ other), ?_, by simp, by simp⟩
    rw [← same, List.append_assoc, List.append_assoc]
    exact splitName?_word spelled (by simpa using stops) (by simp)
  · have read := ends [] (by simp [Ends])
    rw [List.append_nil, afterLiteral?_of_prefix member part] at read
    contradiction

theorem joins_of_lifetime {after : List Char} {tokens : List Token} (named : Lifetime after)
    (read : scan? after = some tokens) :
    ∃ next rest, tokens = next :: rest ∧ Joins '\'' next := by
  obtain ⟨c, rest, rfl, start, -⟩ := named.exists_cons
  have slash : c ≠ '/' := by
    rintro rfl
    exact absurd start (by decide)
  obtain ⟨next, left, others, split, chars, splits, rfl⟩ :=
    scan?_eq_some (fun same => absurd same slash) (isSpace_of_isWordStart start) read
  obtain ⟨first, more, begins⟩ := List.exists_cons_of_ne_nil splits.text_ne_nil
  have same : c = first := by
    rw [begins] at chars
    exact (List.cons.inj chars).1
  refine ⟨next, others, rfl, spaced_eq_false begins ?_, fun after precedes _ => ?_⟩
  · rintro rfl
    rw [same] at start
    exact absurd start (by decide)
  · apply splitToken?_lifetime
    rcases literal_or_name start split with literal | ⟨name, rfl, found⟩
    · exact named.string start literal chars
    · exact .word found precedes

/-! ### Options -/

theorem legible_docAttribute (encloses : Bool) (text : List Char) :
    Legible (docAttribute encloses text) := by
  have documents : Legible [word "doc", mark '=', stringLiteral text] :=
    .cons (plain_word (.of_isWord (by decide))) (.cons (plain_mark (by decide) (by decide))
      (.cons (plain_stringLiteral text) .nil))
  have hash : (mark '#').Plain := plain_mark (by decide) (by decide)
  cases encloses with
  | false => exact .cons hash documents.enclose
  | true => exact .cons hash (.cons (plain_mark (by decide) (by decide)) documents.enclose)

theorem legible_cons {token : Token} {after : List Char} {tokens : List Token}
    (splits : Splits token after) (legible : Legible tokens) (read : scan? after = some tokens) :
    Legible (token :: tokens) := by
  cases splits with
  | plain plain => exact .cons plain legible
  | joint quote begins follows =>
      obtain ⟨next, rest, rfl, joins⟩ := joins_of_punctuation quote begins follows read
      exact .joint joins legible
  | lifetime named =>
      obtain ⟨next, rest, rfl, joins⟩ := joins_of_lifetime named read
      exact .joint joins legible

/-- What a text is scanned as can be read back. -/
theorem legible_of_scan? {text : List Char} {tokens : List Token} (read : scan? text = some tokens) :
    Legible tokens := by
  fun_induction scan? text generalizing tokens with
  | case1 =>
      obtain rfl := Option.some.inj read
      exact .nil
  | case2 text first after _ _ split ih =>
      obtain ⟨others, scanned, rfl⟩ := Option.map_eq_some_iff.mp read
      have legible := ih scanned
      rw [splitTokens?] at split
      split at split
      · next encloses comment left _ =>
          split at split
          · cases split
            exact (legible_docAttribute encloses comment).append legible
          · contradiction
      · obtain ⟨token, rfl, -, splits⟩ := exists_of_splitToken? split
        exact legible_cons splits legible scanned
  | case3 => contradiction
  | case4 => contradiction

/-- Texts of options can be read back once they are emitted. -/
theorem legible_of_ofString? {text : String} {tokens : List Token}
    (read : ofString? text = some tokens) : Legible tokens := by
  obtain ⟨scanned, -⟩ := Option.filter_eq_some_iff.mp read
  exact legible_of_scan? scanned

end Token

end OpcodeTables.Code
