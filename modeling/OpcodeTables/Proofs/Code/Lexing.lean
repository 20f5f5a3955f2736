import OpcodeTables.Code.Token.Lexer

/-!
# Splitting off one token

What the lexer makes of a text that begins with a word, a whole number, a
bracket or a punctuation character.  A word, a number or a mark is split off
whole where white space or a closing bracket follows, or nothing.
-/

namespace OpcodeTables.Code

/-! ### Characters -/

theorem forall_of_all {chars : List Char} {holds : Char → Prop} [DecidablePred holds]
    (all : chars.all (fun c => decide (holds c)) = true) : ∀ c ∈ chars, holds c := by
  simpa using all

theorem eq_false_of_all {chars : List Char} {part : Char → Bool}
    (outside : chars.all (fun c => !part c) = true) : ∀ c ∈ chars, part c = false := by
  simpa using outside

/-- Within ASCII a word begins like an identifier. -/
theorem isWordStart_of_ascii {c : Char} (ascii : c.toNat < 0x80) :
    Text.isWordStart c = isIdentifierStart c := by
  rw [Text.isWordStart, if_pos ascii]
  rfl

/-- Within ASCII a word goes on like an identifier. -/
theorem isWordPart_of_ascii {c : Char} (ascii : c.toNat < 0x80) :
    Text.isWordPart c = isIdentifierPart c := by
  have beyond : ∀ range ∈ Text.wordPartRanges, 0x80 ≤ range.first := by decide +kernel
  have outside : Text.wordPartRanges.any (·.covers c) = false := by
    rw [List.any_eq_false]
    intro range member covered
    simp only [Text.CodeRange.covers, Bool.and_eq_true, decide_eq_true_eq] at covered
    have := beyond range member
    omega
  rw [Text.isWordPart, isWordStart_of_ascii ascii, outside, Bool.or_false, Bool.eq_iff_iff,
    isIdentifierPart_iff, Bool.or_eq_true]

theorem isWordStart_of_isIdentifierStart {c : Char} (start : isIdentifierStart c = true) :
    Text.isWordStart c = true := by
  have ascii := (toNat_of_isIdentifierPart (isIdentifierPart_of_isIdentifierStart start)).2
  rw [isWordStart_of_ascii (by omega)]
  exact start

theorem isWordPart_of_isIdentifierPart {c : Char} (part : isIdentifierPart c = true) :
    Text.isWordPart c = true := by
  have ascii := (toNat_of_isIdentifierPart part).2
  rw [isWordPart_of_ascii (by omega)]
  exact part

section Outside

variable {chars : List Char}
  (outside : chars.all (fun c => c.toNat < 0x80 && !isIdentifierPart c) = true)

include outside

theorem isWordPart_eq_false : ∀ c ∈ chars, Text.isWordPart c = false := by
  intro c member
  have facts := List.all_eq_true.mp outside c member
  simp only [Bool.and_eq_true, decide_eq_true_eq, Bool.not_eq_true'] at facts
  rw [isWordPart_of_ascii facts.1]
  exact facts.2

theorem not_mem_of_isWordPart {c : Char} (part : Text.isWordPart c = true) : c ∉ chars := by
  intro member
  have other := isWordPart_eq_false outside c member
  simp [part] at other

end Outside

theorem isPunctuation_eq_false {c : Char} (part : Text.isWordPart c = true) :
    isPunctuation c = false := by
  have outside : c ∉ "~!@#$%^&*-=+|;:,<.>/?'".toList := not_mem_of_isWordPart (by decide) part
  rw [← Bool.not_eq_true]
  exact fun punctuation => outside (List.contains_iff_mem.mp punctuation)

/-- What begins a word is no digit. -/
theorem isDigit_of_isWordStart {c : Char} (start : Text.isWordStart c = true) :
    c.isDigit = false := by
  cases digit : c.isDigit with
  | false => rfl
  | true =>
      have bounds := isDigit_iff.mp digit
      rw [isWordStart_of_ascii (by omega)] at start
      rw [isDigit_of_isIdentifierStart start] at digit
      contradiction

/-- Characters at which words, numbers and marks end. -/
def ending : List Char :=
  [' ', ')', ']', '\n']

/-- A text in which no word, number or mark goes on. -/
def Ends (text : List Char) : Prop :=
  ∀ c ∈ text.head?, c ∈ ending

theorem mem_ending {c : Char} : c ∈ ending ↔ c = ' ' ∨ c = ')' ∨ c = ']' ∨ c = '\n' := by
  simp [ending]

section Ends

variable {text : List Char} {part : Char → Bool}

theorem Ends.takeWhile (ends : Ends text) (stops : ∀ c ∈ ending, part c = false) :
    text.takeWhile part = [] := by
  cases text with
  | nil => rfl
  | cons c rest => simp [stops c (ends c rfl)]

theorem Ends.dropWhile (ends : Ends text) (stops : ∀ c ∈ ending, part c = false) :
    text.dropWhile part = text := by
  cases text with
  | nil => rfl
  | cons c rest => simp [stops c (ends c rfl)]

theorem Ends.clear (ends : Ends text) (stops : ∀ c ∈ ending, part c = false) :
    ∀ c ∈ text.head?, part c = false :=
  fun c member => stops c (ends c member)

theorem isWordPart_of_mem_ending : ∀ c ∈ ending, Text.isWordPart c = false :=
  isWordPart_eq_false (by decide)

theorem Ends.startsPunctuation (ends : Ends text) : startsPunctuation text = false := by
  cases text with
  | nil => rfl
  | cons c rest =>
      rcases mem_ending.mp (ends c rfl) with rfl | rfl | rfl | rfl <;> rfl

end Ends

/-! ### Parts of a text -/

theorem span_append {text after : List Char} {part : Char → Bool}
    (inside : ∀ c ∈ text, part c = true) (stops : ∀ c ∈ after.head?, part c = false) :
    (text ++ after).takeWhile part = text ∧ (text ++ after).dropWhile part = after := by
  rw [List.takeWhile_append_of_pos inside, List.dropWhile_append_of_pos inside]
  cases after with
  | nil => simp
  | cons c rest => simp [stops c rfl]

theorem head?_dropWhile {text : List Char} {part : Char → Bool} :
    ∀ c ∈ (text.dropWhile part).head?, part c = false := by
  intro c member
  have stops := List.head?_dropWhile_not part text
  rw [Option.mem_def.mp member] at stops
  simpa using stops

theorem drop_length_takeWhile {α : Type} (part : α → Bool) (text : List α) :
    text.drop (text.takeWhile part).length = text.dropWhile part :=
  calc text.drop (text.takeWhile part).length
    _ = (text.takeWhile part ++ text.dropWhile part).drop (text.takeWhile part).length := by
        rw [List.takeWhile_append_dropWhile]
    _ = text.dropWhile part := List.drop_left

/-! ### Words -/

/-- Whether a text is a word of identifier characters. The underscore is one. -/
def isWord : List Char → Bool
  | [] => false
  | first :: rest => isIdentifierStart first && rest.all isIdentifierPart

theorem isWord_cons {first : Char} {rest : List Char} :
    isWord (first :: rest) = true ↔
      isIdentifierStart first = true ∧ ∀ c ∈ rest, isIdentifierPart c = true := by
  simp [isWord]

theorem isWord_of_isIdentifier {name : String} (valid : isIdentifier name = true) :
    isWord name.toList = true := by
  unfold isIdentifier at valid
  split at valid
  · contradiction
  · next first rest chars =>
      rw [chars, isWord_cons]
      simp only [Bool.and_eq_true, List.all_eq_true] at valid
      exact ⟨valid.1.1, valid.2⟩

theorem exists_cons_of_isWord {word : List Char} (valid : isWord word = true) :
    ∃ first rest, word = first :: rest ∧ isIdentifierStart first = true ∧
      ∀ c ∈ rest, isIdentifierPart c = true := by
  cases word with
  | nil => contradiction
  | cons first rest => exact ⟨first, rest, rfl, isWord_cons.mp valid⟩

theorem isIdentifierPart_of_isWord {word : List Char} (valid : isWord word = true) {c : Char}
    (member : c ∈ word) : isIdentifierPart c = true := by
  obtain ⟨first, rest, rfl, start, parts⟩ := exists_cons_of_isWord valid
  rcases List.mem_cons.mp member with rfl | member
  · exact isIdentifierPart_of_isIdentifierStart start
  · exact parts c member

/-- Whether a text is a word of any script. -/
def SpellsWord (word : List Char) : Prop :=
  ∃ first rest, word = first :: rest ∧ Text.isWordStart first = true ∧
    ∀ c ∈ rest, Text.isWordPart c = true

theorem SpellsWord.of_isWord {word : List Char} (valid : isWord word = true) : SpellsWord word := by
  obtain ⟨first, rest, rfl, start, parts⟩ := exists_cons_of_isWord valid
  exact ⟨first, rest, rfl, isWordStart_of_isIdentifierStart start,
    fun c member => isWordPart_of_isIdentifierPart (parts c member)⟩

theorem SpellsWord.isWordPart {word : List Char} (spelled : SpellsWord word) :
    ∀ c ∈ word, Text.isWordPart c = true := by
  obtain ⟨first, rest, rfl, start, parts⟩ := spelled
  rw [List.forall_mem_cons]
  exact ⟨Text.isWordPart_of_isWordStart start, parts⟩

theorem splitWord?_append {word after : List Char} (spelled : SpellsWord word)
    (stops : ∀ c ∈ after.head?, Text.isWordPart c = false) :
    splitWord? (word ++ after) = some (word, after) := by
  obtain ⟨first, rest, rfl, start, parts⟩ := spelled
  obtain ⟨taken, left⟩ := span_append parts stops
  rw [List.cons_append, splitWord?, if_pos start, taken, left]

/-- A word goes on as far as it can. -/
theorem splitWord?_eq_some {text word after : List Char}
    (split : splitWord? text = some (word, after)) :
    SpellsWord word ∧ text = word ++ after ∧ ∀ c ∈ after.head?, Text.isWordPart c = false := by
  cases text with
  | nil => contradiction
  | cons first rest =>
      rw [splitWord?] at split
      split at split
      · next start =>
          cases split
          refine ⟨⟨first, _, rfl, start, List.all_eq_true.mp List.all_takeWhile⟩, ?_, head?_dropWhile⟩
          rw [List.cons_append, List.takeWhile_append_dropWhile]
      · contradiction

/-- What begins like no string has none of the beginnings of one. -/
theorem ne_of_startsString {start : String} {text : List Char}
    (word : startsString text = false) (member : start ∈ stringStarts) (rest : List Char) :
    text ≠ start.toList ++ rest := by
  rintro rfl
  rw [startsString, List.any_eq_false] at word
  exact word start member (List.isPrefixOf_iff_prefix.mpr (List.prefix_append _ _))

/-- A raw string has a quote after its `#`s. -/
theorem afterRaw?_eq_none {kind : StringKind} {text : List Char}
    (quote : ∀ rest, text ≠ '"' :: rest) (hash : ∀ rest, text ≠ '#' :: '"' :: rest)
    (hashes : ∀ rest, text ≠ '#' :: '#' :: rest) : afterRaw? kind text = none := by
  have unquoted (rest : List Char) : text.dropWhile (· == '#') ≠ '"' :: rest := by
    rcases text with _ | ⟨first, _ | ⟨second, text⟩⟩ <;>
      grind [List.dropWhile_nil, List.dropWhile_cons]
  -- With `unquoted`, only the case without a quote is left.
  simp only [afterRaw?, drop_length_takeWhile]

theorem digitValue?_of_isDigit {c : Char} (digit : c.isDigit = true) :
    Text.digitValue? 16 c = some (c.toNat - 0x30) := by
  have bounds := isDigit_iff.mp digit
  have small : c.toNat - 0x30 < 16 := by omega
  simp [Text.digitValue?, bounds, small]

/-- Other digits than the decimal ones are worth ten and more. -/
theorem le_of_digitValue? {c : Char} {value : Nat} (other : c.isDigit = false)
    (found : Text.digitValue? 16 c = some value) : 10 ≤ value := by
  rw [← Bool.not_eq_true, isDigit_iff] at other
  simp only [Text.digitValue?, Char.reduceToNat, if_neg other] at found
  obtain ⟨found, -⟩ := Option.filter_eq_some_iff.mp found
  split at found
  · cases found
    omega
  · split at found
    · cases found
      omega
    · contradiction

theorem afterFraction?_eq_none {first : Char} {rest : List Char} (other : first.isDigit = false) :
    afterFraction? (first :: rest) = none := by
  simp [afterFraction?, other]

/-- A character that is no digit begins no whole number. -/
theorem afterWhole?_eq_none {first : Char} {rest : List Char} (other : first.isDigit = false) :
    afterWhole? (first :: rest) = none := by
  have zero : first ≠ '0' := by
    rintro rfl
    contradiction
  rw [afterWhole?]
  · rw [afterDigits?]
    split
    · rfl
    · split
      · next value found =>
          rw [if_neg (by have := le_of_digitValue? other found; omega)]
          simp [other]
      · rfl
  all_goals simp [zero]

/-- A word is no number, so what does not begin like a string is no literal. -/
theorem afterLiteral?_eq_none {first : Char} {rest : List Char}
    (start : Text.isWordStart first = true) (word : startsString (first :: rest) = false) :
    afterLiteral? (first :: rest) = none := by
  have digit := isDigit_of_isWordStart start
  have quote : first ∉ ['"', '\''] :=
    not_mem_of_isWordPart (by decide) (Text.isWordPart_of_isWordStart start)
  simp only [List.mem_cons, List.not_mem_nil, not_or, or_false] at quote
  have other {start : String} (member : start ∈ stringStarts) (after : List Char) :
      first :: rest ≠ start.toList ++ after := ne_of_startsString word member after
  -- One case for each beginning of a literal: three of them begin raw strings.
  unfold afterLiteral?
  split
  · next same => exact absurd (List.cons.inj same).1 quote.1
  · next raw same =>
      have raw : afterRaw? .text raw = none := by
        apply afterRaw?_eq_none <;> rintro after rfl
        · exact other (by decide : "r\"" ∈ stringStarts) after same
        · exact other (by decide : "r#\"" ∈ stringStarts) after same
        · exact other (by decide : "r##" ∈ stringStarts) after same
      rw [raw, Option.map_none]
  · next after same => exact absurd same (other (by decide : "b\"" ∈ stringStarts) after)
  · next raw same =>
      have raw : afterRaw? .bytes raw = none := by
        apply afterRaw?_eq_none <;> rintro after rfl
        · exact other (by decide : "br\"" ∈ stringStarts) after same
        · exact other (by decide : "br#" ∈ stringStarts) ('"' :: after) same
        · exact other (by decide : "br#" ∈ stringStarts) ('#' :: after) same
      rw [raw, Option.map_none]
  · next after same => exact absurd same (other (by decide : "b'" ∈ stringStarts) after)
  · next after same => exact absurd same (other (by decide : "c\"" ∈ stringStarts) after)
  · next raw same =>
      have raw : afterRaw? .withoutNul raw = none := by
        apply afterRaw?_eq_none <;> rintro after rfl
        · exact other (by decide : "cr\"" ∈ stringStarts) after same
        · exact other (by decide : "cr#" ∈ stringStarts) ('"' :: after) same
        · exact other (by decide : "cr#" ∈ stringStarts) ('#' :: after) same
      rw [raw, Option.map_none]
  · next same => exact absurd (List.cons.inj same).1 quote.2
  · simp [afterFraction?_eq_none digit, afterWhole?_eq_none digit]

/-- What stands for unprintable code begins with a bracket and a comment. -/
theorem isPrefixOf_errorMark {first : Char} {rest : List Char}
    (other : first ≠ '(' ∨ ['/', '*'].isPrefixOf rest = false) :
    errorMark.isPrefixOf (first :: rest) = false := by
  have opens : errorMark = '(' :: (['/', '*'] ++ "ERROR*/)".toList) := by decide
  rw [opens, List.isPrefixOf_cons_cons, Bool.and_eq_false_iff]
  rcases other with other | other
  · exact .inl (beq_eq_false_iff_ne.mpr other.symm)
  · right
    rw [← Bool.not_eq_true, List.isPrefixOf_iff_prefix] at other ⊢
    exact fun begins => other ((List.prefix_append _ _).trans begins)

/-- What begins like a word begins no bracket and no punctuation character. -/
theorem unmarked_of_isWordStart {first : Char} {rest : List Char}
    (start : Text.isWordStart first = true) :
    errorMark.isPrefixOf (first :: rest) = false ∧ bracketToken? first = none ∧
      splitPunctuation? (first :: rest) = none := by
  have part := Text.isWordPart_of_isWordStart start
  have other : first ∉ ['\'', '/', '(', ')', '[', ']', '\x7b', '\x7d'] :=
    not_mem_of_isWordPart (by decide) part
  simp only [List.mem_cons, List.not_mem_nil, not_or, or_false] at other
  refine ⟨isPrefixOf_errorMark (.inl other.2.2.1), ?_, ?_⟩
  · rw [bracketToken?] <;> simp [other]
  · rw [splitPunctuation?]
    · rw [startsPunctuation, isPunctuation_eq_false part] <;> simp [other]
    · simp [other]

/-- What begins like a word, and not like a string, is a name. -/
theorem splitToken?_name {first : Char} {rest after : List Char} {name : String}
    (start : Text.isWordStart first = true) (word : startsString (first :: rest) = false)
    (split : splitName? (first :: rest) = some (name, after)) :
    splitToken? (first :: rest) = some ([.word name], after) := by
  obtain ⟨unmarked, bracket, mark⟩ := @unmarked_of_isWordStart first rest start
  rw [splitToken?, unmarked]
  simp [bracket, afterLiteral?_eq_none start word, mark, word, split]

/-- Neither a word nor what follows it makes the beginning of a string. -/
theorem startsString_append {word after : List Char} (spelled : SpellsWord word)
    (ends : Ends after) : startsString (word ++ after) = false := by
  -- Every beginning of a string holds a character that no word has, and none that ends a word.
  have fenced : stringStarts.all (fun start =>
      start.toList.any (['"', '#', '\''].contains ·) &&
        ending.all (!start.toList.contains ·)) = true := by decide
  have fences : ∀ c ∈ ['"', '#', '\''], Text.isWordPart c = false :=
    isWordPart_eq_false (by decide)
  rw [startsString, List.any_eq_false]
  intro start member begins
  rw [List.isPrefixOf_iff_prefix] at begins
  have facts := List.all_eq_true.mp fenced start member
  simp only [Bool.and_eq_true, List.any_eq_true, List.all_eq_true, Bool.not_eq_true',
    List.contains_eq_mem, decide_eq_true_eq, decide_eq_false_iff_not] at facts
  obtain ⟨⟨c, inside, fence⟩, clear⟩ := facts
  have outside := fences c fence
  have foreign : c ∉ word := by
    intro within
    simp [spelled.isWordPart c within] at outside
  rcases List.prefix_or_prefix_of_prefix begins (List.prefix_append word after) with
    within | ⟨more, beyond⟩
  · exact foreign (within.subset inside)
  · rw [← beyond, List.prefix_append_right_inj] at begins
    cases more with
    | nil => exact foreign (by simpa [← beyond] using inside)
    | cons next more =>
        obtain ⟨rest, rfl⟩ := begins
        exact clear next (ends next rfl) (by simp [← beyond])

/-- A word is a name of its own. -/
theorem splitName?_word {word after : List Char} (spelled : SpellsWord word)
    (stops : ∀ c ∈ after.head?, Text.isWordPart c = false) (other : after.head? ≠ some '#') :
    splitName? (word ++ after) = some (String.ofList word, after) := by
  have split := splitWord?_append spelled stops
  rw [splitName?]
  · rw [split, Option.map_some]
  · obtain ⟨first, rest, rfl, start, parts⟩ := spelled
    intro more same
    cases rest with
    | nil =>
        obtain ⟨-, rfl⟩ := List.cons.inj same
        exact other rfl
    | cons second rest =>
        have part : Text.isWordPart '#' = true := by
          obtain ⟨rfl, -⟩ := List.cons.inj (List.cons.inj same).2
          exact parts '#' List.mem_cons_self
        rw [isWordPart_of_ascii (by decide)] at part
        contradiction

/-- A word behind `r#` is a name, unless it stays a keyword. -/
theorem splitName?_rawWord {word after : List Char} (spelled : SpellsWord word)
    (escapable : String.ofList word ∉ unescapableWords)
    (stops : ∀ c ∈ after.head?, Text.isWordPart c = false) :
    splitName? ('r' :: '#' :: word ++ after) = some ("r#" ++ String.ofList word, after) := by
  simp [splitName?, splitWord?_append spelled stops, escapable]

theorem splitToken?_word {word after : List Char} (spelled : SpellsWord word)
    (ends : Ends after) :
    splitToken? (word ++ after) = some ([.word (String.ofList word)], after) := by
  have split := splitName?_word spelled (ends.clear isWordPart_of_mem_ending)
    (fun head => absurd (ends '#' head) (by decide))
  have whole := startsString_append spelled ends
  obtain ⟨first, rest, rfl, start, -⟩ := spelled
  exact splitToken?_name start whole split

theorem splitToken?_rawWord {word after : List Char} (spelled : SpellsWord word)
    (escapable : String.ofList word ∉ unescapableWords) (ends : Ends after) :
    splitToken? ('r' :: '#' :: word ++ after) =
      some ([.word ("r#" ++ String.ofList word)], after) := by
  have split := splitName?_rawWord spelled escapable (ends.clear isWordPart_of_mem_ending)
  refine splitToken?_name (by decide) ?_ split
  obtain ⟨first, rest, rfl, start, -⟩ := spelled
  have other : first ∉ ['"', '#'] :=
    not_mem_of_isWordPart (by decide) (Text.isWordPart_of_isWordStart start)
  simp only [List.mem_cons, List.not_mem_nil, not_or, or_false] at other
  simp [startsString, stringStarts, List.isPrefixOf, Ne.symm other.1, Ne.symm other.2]

/-! ### Literals -/

theorem afterDigits?_append {digits after : List Char} {found : Bool}
    (decimal : ∀ c ∈ digits, c.isDigit = true) (ends : Ends after)
    (present : found = true ∨ digits ≠ []) :
    afterDigits? 10 found (digits ++ after) = some after := by
  induction digits generalizing found with
  | nil =>
      obtain rfl : found = true := by simpa using present
      cases after with
      | nil => rfl
      | cons c rest =>
          rcases mem_ending.mp (ends c rfl) with rfl | rfl | rfl | rfl <;> rfl
  | cons c rest ih =>
      have digit : c.isDigit = true := decimal c (by simp)
      have gap : c ≠ '_' := by
        rintro rfl
        contradiction
      have small : c.toNat - 0x30 < 10 := by
        have := isDigit_iff.mp digit
        omega
      rw [List.cons_append, afterDigits?, if_neg gap, digitValue?_of_isDigit digit]
      simp only [if_pos small]
      exact ih (fun d member => decimal d (List.mem_cons_of_mem _ member)) (.inl rfl)

theorem afterSuffix_of_ends {after : List Char} (ends : Ends after) :
    afterSuffix after = after := by
  cases after with
  | nil => rfl
  | cons c rest =>
      have stops := isWordPart_of_mem_ending c (ends c rfl)
      simp [afterSuffix, mt Text.isWordPart_of_isWordStart (Bool.not_eq_true _ ▸ stops)]

theorem afterNumberSuffix?_of_ends {after : List Char} (ends : Ends after) :
    afterNumberSuffix? after = some after := by
  rw [afterNumberSuffix?, afterSuffix_of_ends ends]
  cases after with
  | nil => rfl
  | cons c rest => simp [isWordPart_of_mem_ending c (ends c rfl)]

section Number

variable {digits after : List Char} (decimal : ∀ c ∈ digits, c.isDigit = true)
  (ends : Ends after)

include decimal ends

theorem afterFraction?_append : afterFraction? (digits ++ after) = none := by
  have whole : (digits ++ after).dropWhile isDigitOrGap = after := by
    rw [List.dropWhile_append_of_pos, ends.dropWhile (eq_false_of_all (by decide))]
    intro c member
    simp [isDigitOrGap, decimal c member]
  rw [afterFraction?.eq_def, whole]
  split
  · split
    · split
      · exact absurd (ends '.' rfl) (by decide)
      · exact absurd (ends 'e' rfl) (by decide)
      · exact absurd (ends 'E' rfl) (by decide)
      · rfl
    · rfl
  · rfl

theorem afterWhole?_append (nonempty : digits ≠ []) :
    afterWhole? (digits ++ after) = some after := by
  have read : afterDigits? 10 false (digits ++ after) = some after :=
    afterDigits?_append decimal ends (.inr nonempty)
  have next (c : Char) (rest : List Char) (same : digits ++ after = '0' :: c :: rest) :
      c.isDigit = true ∨ c ∈ ending := by
    rcases digits with _ | ⟨first, _ | ⟨second, digits⟩⟩
    · exact absurd rfl nonempty
    · right
      exact ends c (by simp_all)
    · left
      exact decimal c (by simp_all)
  rw [afterWhole?]
  · exact read
  -- The marks of the other bases are letters.
  all_goals
    intro rest same
    exact absurd (next _ _ same) (by decide)

theorem afterLiteral?_number (nonempty : digits ≠ []) :
    afterLiteral? (digits ++ after) = some after := by
  have other (c : Char) (rest : List Char) (same : digits ++ after = c :: rest) :
      c.isDigit = true := by
    cases digits with
    | nil => exact absurd rfl nonempty
    | cons first digits => exact decimal c (by simp_all)
  rw [afterLiteral?]
  · rw [afterFraction?_append decimal ends, afterWhole?_append decimal ends nonempty]
    exact afterNumberSuffix?_of_ends ends
  all_goals
    intro rest same
    exact absurd (other _ _ same) (by decide)

end Number

/-- A literal is read as a token of its own. -/
theorem splitToken?_literal {first : Char} {rest after : List Char}
    (opens : bracketToken? first = none)
    (read : afterLiteral? (first :: rest ++ after) = some after) :
    splitToken? (first :: rest ++ after) =
      some ([.literal (String.ofList (first :: rest))], after) := by
  have other : first ≠ '(' := by
    rintro rfl
    contradiction
  have taken : (first :: rest ++ after).take ((first :: rest ++ after).length - after.length) =
      first :: rest := by
    rw [List.length_append, Nat.add_sub_cancel, List.take_left]
  have unmarked : errorMark.isPrefixOf (first :: rest ++ after) = false :=
    isPrefixOf_errorMark (.inl other)
  have bracket : (first :: rest ++ after).head?.bind bracketToken? = none := opens
  simp only [splitToken?, unmarked, bracket, read, taken, Bool.false_eq_true, if_false]

/-! ### Marks and brackets -/

/-- Characters that are no digits and begin no string begin no literal. -/
theorem afterLiteral?_other {c : Char} {rest : List Char} (digit : c.isDigit = false)
    (outside : c ∉ ['"', 'r', 'b', 'c', '\'']) : afterLiteral? (c :: rest) = none := by
  simp only [List.mem_cons, List.not_mem_nil, or_false, not_or] at outside
  rw [afterLiteral?]
  · simp [afterFraction?_eq_none digit, afterWhole?_eq_none digit]
  all_goals simp [outside]

/-- White space and comments begin no token. -/
theorem splitToken?_eq_none {c : Char} {rest : List Char} (blank : c ∈ [' ', '\n', '/'])
    (mark : startsPunctuation (c :: rest) = false) : splitToken? (c :: rest) = none := by
  have facts : ∀ c ∈ [' ', '\n', '/'], c ≠ '(' ∧ bracketToken? c = none ∧ c.isDigit = false ∧
      c ∉ ['"', 'r', 'b', 'c', '\''] ∧ Text.isWordStart c = false :=
    forall_of_all (by decide)
  obtain ⟨other, bracket, digit, outside, word⟩ := facts c blank
  have literal := @afterLiteral?_other c rest digit outside
  simp only [List.mem_cons, List.not_mem_nil, or_false, not_or] at outside
  have mark : splitPunctuation? (c :: rest) = none := by
    rw [splitPunctuation?]
    · simp [mark]
    · simp [outside]
  have name : splitName? (c :: rest) = none := by
    rw [splitName?]
    · simp [splitWord?, word]
    · simp [outside]
  rw [splitToken?, isPrefixOf_errorMark (.inl other)]
  simp [bracket, literal, mark, name]

theorem startsPunctuation_cons {c : Char} {rest : List Char} (punctuation : isPunctuation c = true)
    (slash : c = '/' → ∀ d ∈ rest.head?, d ≠ '/' ∧ d ≠ '*') :
    startsPunctuation (c :: rest) = true := by
  unfold startsPunctuation
  split
  · next same =>
      obtain ⟨rfl, rfl⟩ := List.cons.inj same
      exact absurd rfl (slash rfl '/' rfl).1
  · next same =>
      obtain ⟨rfl, rfl⟩ := List.cons.inj same
      exact absurd rfl (slash rfl '*' rfl).2
  · next same =>
      obtain ⟨rfl, -⟩ := List.cons.inj same
      exact punctuation
  · contradiction

theorem exists_of_startsPunctuation {text : List Char} (begins : startsPunctuation text = true) :
    ∃ c rest, text = c :: rest ∧ isPunctuation c = true ∧
      (c = '/' → ∀ d ∈ rest.head?, d ≠ '/' ∧ d ≠ '*') := by
  unfold startsPunctuation at begins
  split at begins
  · contradiction
  · contradiction
  · next c rest line block =>
      refine ⟨c, rest, rfl, begins, ?_⟩
      rintro rfl d member
      obtain ⟨more, rfl⟩ := List.head?_eq_some_iff.mp member
      constructor
      · rintro rfl
        exact line more rfl rfl
      · rintro rfl
        exact block more rfl rfl
  · contradiction

/-- A punctuation character that begins a token begins no comment. -/
theorem startsPunctuation_of_splitToken? {c : Char} {rest : List Char}
    {found : List Token × List Char} (punctuation : isPunctuation c = true)
    (split : splitToken? (c :: rest) = some found) : startsPunctuation (c :: rest) = true := by
  by_cases slash : c = '/'
  · subst slash
    cases begins : startsPunctuation ('/' :: rest) with
    | true => rfl
    | false =>
        rw [splitToken?_eq_none (by decide) begins] at split
        contradiction
  · exact startsPunctuation_cons punctuation fun same => absurd same slash

/-- A punctuation character is joint where another one follows. -/
theorem splitToken?_punct {c : Char} {text : List Char} (punctuation : isPunctuation c = true)
    (quote : c ≠ '\'') (begins : startsPunctuation (c :: text) = true) :
    splitToken? (c :: text) = some ([.punct c (startsPunctuation text)], text) := by
  have facts : ∀ c ∈ "~!@#$%^&*-=+|;:,<.>/?'".toList, c ≠ '\'' → c ≠ '(' ∧ bracketToken? c = none ∧
      c.isDigit = false ∧ c ∉ ['"', 'r', 'b', 'c', '\''] := forall_of_all (by decide)
  obtain ⟨other, bracket, digit, outside⟩ := facts c (List.contains_iff_mem.mp punctuation) quote
  have literal := @afterLiteral?_other c text digit outside
  have mark : splitPunctuation? (c :: text) = some (.punct c (startsPunctuation text), text) := by
    rw [splitPunctuation?]
    · simp [begins]
    · simp [quote]
  rw [splitToken?, isPrefixOf_errorMark (.inl other)]
  simp [bracket, literal, mark]

theorem Bracket.exists_opening (bracket : Bracket) :
    ∃ c, bracket.opening.toList = [c] ∧ bracketToken? c = some (.opening bracket) := by
  cases bracket
  · exact ⟨'(', rfl, rfl⟩
  · exact ⟨'[', rfl, rfl⟩
  · exact ⟨'\x7b', rfl, rfl⟩

theorem Bracket.exists_closing (bracket : Bracket) :
    ∃ c, bracket.closing.toList = [c] ∧ bracketToken? c = some (.closing bracket) := by
  cases bracket
  · exact ⟨')', rfl, rfl⟩
  · exact ⟨']', rfl, rfl⟩
  · exact ⟨'\x7d', rfl, rfl⟩

theorem splitToken?_bracket {c : Char} {text : List Char} {token : Token}
    (bracket : bracketToken? c = some token)
    (unmarked : c ≠ '(' ∨ ['/', '*'].isPrefixOf text = false) :
    splitToken? (c :: text) = some ([token], text) := by
  rw [splitToken?, isPrefixOf_errorMark unmarked]
  simp [bracket]

end OpcodeTables.Code
