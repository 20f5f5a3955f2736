import OpcodeTables.CommandLine.Plan
import OpcodeTables.CommandLine.Word
import OpcodeTables.Proofs.Text.Literals

/-!
# Instruction words

An instruction word on the command line and a number in a table are read by
different rules: a word has no binary form and may have underscores anywhere, a
number only after its mark.  Where both are read they are the same, and the words
that answers begin with are read back.
-/

namespace OpcodeTables

namespace Text

/-! ## Eight digits -/

/-- The digits of a word in base sixteen, the most significant first. -/
def hexValues (word : UInt32) : List Nat :=
  [7, 6, 5, 4, 3, 2, 1, 0].map fun place => word.toNat >>> (4 * place) % 16

theorem hexDigit_eq_digitChar {value : Nat} (small : value < 16) :
    hexDigit value = Nat.digitChar value := by
  revert value
  decide

/-- The value of a word is that of its digits. -/
theorem ofDigits_hexValues (word : UInt32) :
    Nat.ofDigits 16 (hexValues word).reverse = word.toNat := by
  have fits := word.toNat_lt
  simp only [hexValues, List.map_cons, List.map_nil, List.reverse_cons, List.reverse_nil,
    List.nil_append, List.cons_append, Nat.ofDigits_cons, Nat.ofDigits_nil,
    Nat.shiftRight_eq_div_pow]
  norm_num
  omega

/-- The eight digits of a word are a numeral that says it. -/
theorem digits_hexDigits (word : UInt32) : Digits 16 (hexDigits word) word.toNat := by
  refine ⟨by simp [hexDigits], hexValues word, ?_, ofDigits_hexValues word⟩
  rw [hexDigits, hexValues, List.forall₂_map_left_iff, List.forall₂_map_right_iff,
    List.forall₂_same]
  intro place _
  have small : word.toNat >>> (4 * place) % 16 < 16 := Nat.mod_lt _ (by decide)
  exact ⟨small, .inl (hexDigit_eq_digitChar small)⟩

end Text

namespace CommandLine

/-- A text with underscores put in, wherever that is. -/
inductive Underscored : List Char → List Char → Prop where
  | nil : Underscored [] []
  | kept (c : Char) {plain spread : List Char} (rest : Underscored plain spread) :
      Underscored (c :: plain) (c :: spread)
  | put {plain spread : List Char} (rest : Underscored plain spread) :
      Underscored plain ('_' :: spread)

theorem Underscored.filter_eq {plain spread : List Char} (same : Underscored plain spread) :
    spread.filter (· ≠ '_') = plain.filter (· ≠ '_') := by
  induction same with
  | nil => rfl
  | kept c _ ih => rw [List.filter_cons, List.filter_cons, ih]
  | put _ ih => rw [List.filter_cons_of_neg (by simp), ih]

/-! ## What is read -/

/-- Numbers that are written in a text without underscores. -/
inductive Spells : List Char → Nat → Prop where
  | hexadecimal {mark : Char} {rest : List Char} {number : Nat} (marked : mark = 'x' ∨ mark = 'X')
      (numeral : Text.Numeral 16 rest number) : Spells ('0' :: mark :: rest) number
  | decimal {text : List Char} {number : Nat} (numeral : Text.Numeral 10 text number) :
      Spells text number

theorem readPlainWord_eq_ok_iff {text : List Char} {word : UInt32} :
    readPlainWord text = .ok word ↔ Spells text word.toNat := by
  constructor
  · intro read
    unfold readPlainWord at read
    split at read
    · exact .hexadecimal (.inl rfl) ((Text.readWord_eq_ok_iff (by decide) (by decide)).mp read)
    · exact .hexadecimal (.inr rfl) ((Text.readWord_eq_ok_iff (by decide) (by decide)).mp read)
    · exact .decimal ((Text.readWord_eq_ok_iff (by decide) (by decide)).mp read)
  · intro spells
    cases spells with
    | hexadecimal marked numeral =>
        have read := (Text.readWord_eq_ok_iff (by decide) (by decide)).mpr numeral
        rcases marked with rfl | rfl <;> exact read
    | decimal numeral =>
        have plain (c : Char) (member : c ∈ text) : ¬c.isAlpha = true :=
          numeral.not_isAlpha_of_mem member
        unfold readPlainWord
        split
        · exact absurd rfl (plain 'x' (by simp))
        · exact absurd rfl (plain 'X' (by simp))
        · exact (Text.readWord_eq_ok_iff (by decide) (by decide)).mpr numeral

/-- A word is read exactly where the argument spells it without its underscores. -/
theorem readWord_eq_ok_iff {argument : String} {word : UInt32} :
    readWord argument = .ok word ↔ Spells (argument.toList.filter (· ≠ '_')) word.toNat := by
  rw [← readPlainWord_eq_ok_iff, readWord]
  cases readPlainWord (argument.toList.filter (· ≠ '_')) <;> simp [Except.mapError]

/-! ## Numbers in tables -/

/-- What writes a number without the binary mark spells it as well. -/
theorem Spells.of_writes {text : List Char} {number : Nat} (writes : Literal.Writes text number)
    (lower : ¬['0', 'b'] <+: text) (upper : ¬['0', 'B'] <+: text) :
    Spells (text.filter (· ≠ '_')) number := by
  cases writes with
  | hexadecimal marked numeral =>
      have kept : ∀ mark, mark = 'x' ∨ mark = 'X' → mark ≠ '_' := by
        rintro _ (rfl | rfl) <;> decide
      rw [List.filter_cons_of_pos (by decide),
        List.filter_cons_of_pos (by simpa using kept _ marked)]
      exact .hexadecimal marked numeral
  | @binary mark rest _ marked =>
      rcases marked with rfl | rfl
      · exact absurd ⟨rest, rfl⟩ lower
      · exact absurd ⟨rest, rfl⟩ upper
  | decimal numeral =>
      -- A decimal numeral has no underscores.
      have whole : text.filter (· ≠ '_') = text := by
        rw [List.filter_eq_self]
        rintro c member
        rcases numeral.isDigit_of_mem member with rfl | digit
        · decide
        · rw [decide_eq_true_eq]
          rintro rfl
          contradiction
      rw [whole]
      exact .decimal numeral

/-- No word has a binary mark. -/
theorem Spells.not_binary {mark : Char} {rest : List Char} {number : Nat}
    (marked : mark = 'b' ∨ mark = 'B') : ¬Spells ('0' :: mark :: rest) number := by
  intro spells
  cases spells with
  | hexadecimal other => rcases marked with rfl | rfl <;> simp at other
  | decimal numeral =>
      apply numeral.not_isAlpha_of_mem (c := mark) (by simp)
      rcases marked with rfl | rfl <;> decide

theorem not_binary_of_readWord {argument : String} {word : UInt32}
    (read : readWord argument = .ok word) :
    ¬['0', 'b'] <+: argument.toList ∧ ¬['0', 'B'] <+: argument.toList := by
  have spells := readWord_eq_ok_iff.mp read
  constructor
  · rintro ⟨rest, same⟩
    rw [← same] at spells
    exact Spells.not_binary (.inl rfl) spells
  · rintro ⟨rest, same⟩
    rw [← same] at spells
    exact Spells.not_binary (.inr rfl) spells

/-! ## Words in answers -/

/-- The word that an answer begins with. -/
def shownWord (word : UInt32) (walk : Walk) : List Char :=
  (Plan.queryLine word walk).toList.takeWhile (· ≠ ' ')

/-- A word as it is shown has no characters but its digits and the `x`. -/
theorem ne_of_mem_shown {word : UInt32} {other c : Char} (letter : other ≠ 'x')
    (outside : Text.digitValue? 16 other = none)
    (member : c ∈ '0' :: 'x' :: Text.hexDigits word) : c ≠ other := by
  rintro rfl
  rcases List.mem_cons.mp member with rfl | member
  · contradiction
  · rcases List.mem_cons.mp member with rfl | member
    · contradiction
    · obtain ⟨value, digit⟩ := (Text.digits_hexDigits word).exists_isDigit member
      rw [← Text.digitValue?_eq_some_iff (Nat.le_refl 16), outside] at digit
      contradiction

/-- An answer begins with `0x` and the eight digits of its word. -/
theorem shownWord_eq (word : UInt32) (walk : Walk) :
    shownWord word walk = '0' :: 'x' :: Text.hexDigits word := by
  have solid : ∀ c ∈ '0' :: 'x' :: Text.hexDigits word, decide (c ≠ ' ') = true :=
    fun c member => decide_eq_true (ne_of_mem_shown (by decide) (by decide) member)
  have line : ∃ rest, (Plan.queryLine word walk).toList =
      ('0' :: 'x' :: Text.hexDigits word) ++ ' ' :: rest := by
    rw [Plan.queryLine]
    split <;> simp [Text.hexWord, toString]
  obtain ⟨rest, same⟩ := line
  rw [shownWord, same, List.takeWhile_append_of_pos solid]
  simp

/-- Numbers in tables and words on the command line are read alike. What has no
white space around it and is a number in a table, though not a binary one, is the
same word; what is read both ways is one number; and the word that an answer
begins with, `0x` and eight digits, is read back with any underscores put in. -/
theorem readWord_agrees :
    (∀ text word, Text.trim text = text → ¬['0', 'b'] <+: text.toList →
      ¬['0', 'B'] <+: text.toList → Literal.ofString? text = some (.int word) →
      readWord text = .ok word) ∧
      (∀ text word number, Text.trim text = text → readWord text = .ok word →
        Literal.ofString? text = some (.int number) → word = number) ∧
      ∀ word walk, (∃ digits, shownWord word walk = '0' :: 'x' :: digits ∧ digits.length = 8 ∧
          ∀ c ∈ digits, ∃ value, Text.IsDigit 16 c value) ∧
        ∀ text, Underscored (shownWord word walk) text.toList → readWord text = .ok word := by
  have written {text : String} {word : UInt32} (solid : Text.trim text = text)
      (read : Literal.ofString? text = some (.int word)) :
      Literal.Writes text.toList word.toNat := by
    have denotes := Literal.ofString?_eq_some_iff.mp read
    rw [solid] at denotes
    cases denotes with
    | number writes => exact writes
  refine ⟨?_, ?_, ?_⟩
  · intro text word solid lower upper read
    exact readWord_eq_ok_iff.mpr (.of_writes (written solid read) lower upper)
  · intro text word number solid read other
    obtain ⟨lower, upper⟩ := not_binary_of_readWord read
    have same := readWord_eq_ok_iff.mpr (.of_writes (written solid other) lower upper)
    exact Except.ok.inj (read.symm.trans same)
  · intro word walk
    rw [shownWord_eq]
    refine ⟨⟨_, rfl, Text.length_hexDigits word,
      fun _ => (Text.digits_hexDigits word).exists_isDigit⟩, ?_⟩
    intro text spread
    have whole : ('0' :: 'x' :: Text.hexDigits word).filter (· ≠ '_') =
        '0' :: 'x' :: Text.hexDigits word := by
      rw [List.filter_eq_self]
      exact fun c member => decide_eq_true (ne_of_mem_shown (by decide) (by decide) member)
    rw [readWord_eq_ok_iff, spread.filter_eq, whole]
    exact .hexadecimal (.inl rfl) (.inl (Text.digits_hexDigits word))

/-- Signs and underscores stand in odd places. -/
theorem readWord_agrees_scattered :
    Text.trim "0X+_1_f" = "0X+_1_f" ∧ Literal.ofString? "0X+_1_f" = some (.int 31) ∧
      readWord "0X+_1_f" = .ok 31 ∧
      (∃ word number, readWord "+0042" = .ok word ∧
        Literal.ofString? "+0042" = some (.int number) ∧ word = number) ∧
      shownWord 0xDEADBEEF ⟨[], .error ⟨.root, "op"⟩⟩ = "0xdeadbeef".toList ∧
      readWord "_0_xdead__beef" = .ok 0xDEADBEEF := by
  have solid : Text.trim "0X+_1_f" = "0X+_1_f" := by decide +kernel
  have hexadecimal : Literal.ofString? "0X+_1_f" = some (.int 31) := by decide +kernel
  have decimal : readWord "+0042" = .ok 42 := by decide +kernel
  have number : Literal.ofString? "+0042" = some (.int 42) := by decide +kernel
  have shown : shownWord 0xDEADBEEF ⟨[], .error ⟨.root, "op"⟩⟩ = "0xdeadbeef".toList := by
    rw [shownWord_eq]
    decide
  have spread : Underscored "0xdeadbeef".toList "_0_xdead__beef".toList := by
    simp only [String.reduceToList]
    repeat constructor
  obtain ⟨alike, same, back⟩ := readWord_agrees
  refine ⟨solid, hexadecimal, ?_, ⟨42, 42, decimal, number, ?_⟩, shown, ?_⟩
  · exact alike _ _ solid (by decide +kernel) (by decide +kernel) hexadecimal
  · exact same _ _ _ (by decide +kernel) decimal number
  · exact (back 0xDEADBEEF ⟨[], .error ⟨.root, "op"⟩⟩).2 _ (shown ▸ spread)

end CommandLine

end OpcodeTables
