import OpcodeTables.Identifier
import OpcodeTables.Literal
import OpcodeTables.Proofs.Text.Numerals

/-!
# What literals say

A literal is a word of truth, its letters in either case, or a numeral below
2³².  A numeral is decimal unless a mark says that it is hexadecimal or binary,
and only after a mark may there be underscores.
-/

namespace OpcodeTables

namespace Text

theorem IsDigit.isDigit {c : Char} {value : Nat} (digit : IsDigit 10 c value) :
    c.isDigit = true := by
  obtain ⟨small, form⟩ := digit
  rw [isDigit_iff]
  rcases @digitChar_cases value (by omega) with ⟨_, lower, upper⟩ | ⟨_, _, _⟩
  · rcases form with rfl | rfl <;> omega
  · omega

/-- A decimal numeral has nothing but digits and a sign. -/
theorem Numeral.isDigit_of_mem {text : List Char} {number : Nat} (numeral : Numeral 10 text number)
    {c : Char} (member : c ∈ text) : c = '+' ∨ c.isDigit = true := by
  have inside {digits : List Char} (all : Digits 10 digits number) (among : c ∈ digits) :
      c.isDigit = true := by
    obtain ⟨value, digit⟩ := all.exists_isDigit among
    exact digit.isDigit
  rcases numeral with digits | ⟨rest, rfl, digits⟩
  · exact .inr (inside digits member)
  · exact (List.mem_cons.mp member).imp_right (inside digits)

theorem Numeral.not_isAlpha_of_mem {text : List Char} {number : Nat}
    (numeral : Numeral 10 text number) {c : Char} (member : c ∈ text) : ¬c.isAlpha = true := by
  intro alpha
  rcases numeral.isDigit_of_mem member with rfl | digit
  · contradiction
  · have start : isIdentifierStart c = true := by rw [isIdentifierStart, alpha, Bool.or_true]
    rw [isDigit_of_isIdentifierStart start] at digit
    contradiction

end Text

namespace Literal

/-- A word whose letters are in either case. -/
def InAnyCase (word : String) (text : List Char) : Prop :=
  List.Forall₂ (fun c letter => c = letter ∨ c = letter.toUpper) text word.toList

/-- The numbers that are written in some text. Underscores after a mark are left
out. -/
inductive Writes : List Char → Nat → Prop where
  | hexadecimal {mark : Char} {rest : List Char} {number : Nat} (marked : mark = 'x' ∨ mark = 'X')
      (numeral : Text.Numeral 16 (rest.filter (· ≠ '_')) number) :
      Writes ('0' :: mark :: rest) number
  | binary {mark : Char} {rest : List Char} {number : Nat} (marked : mark = 'b' ∨ mark = 'B')
      (numeral : Text.Numeral 2 (rest.filter (· ≠ '_')) number) :
      Writes ('0' :: mark :: rest) number
  | decimal {text : List Char} {number : Nat} (numeral : Text.Numeral 10 text number) :
      Writes text number

/-! ## Words of truth -/

/-- Putting a character into lower case gives a letter exactly where it is the
letter in either case. -/
theorem toLower_eq_iff {c letter : Char} (lower : letter.isLower = true) :
    c.toLower = letter ↔ c = letter ∨ c = letter.toUpper := by
  have kept : letter.toLower = letter :=
    Char.toLower_eq_of_not_isUpper (Char.not_isUpper_of_isLower lower)
  constructor
  · rintro rfl
    rw [Char.toUpper_toLower_eq_toUpper]
    by_cases small : c.isLower = true
    · exact .inl (Char.toLower_eq_of_not_isUpper (Char.not_isUpper_of_isLower small)).symm
    · exact .inr (Char.toUpper_eq_of_not_isLower small).symm
  · rintro (rfl | rfl)
    · exact kept
    · rw [Char.toLower_toUpper_eq_toLower, kept]

theorem isWord_iff {word : String} {text : List Char}
    (lower : word.toList.all Char.isLower = true) :
    isWord word text = true ↔ InAnyCase word text := by
  rw [isWord, beq_iff_eq, InAnyCase, ← List.forall₂_eq_eq_eq, List.forall₂_map_left_iff]
  generalize word.toList = letters at lower
  induction letters generalizing text with
  | nil => simp
  | cons letter rest ih =>
      rw [List.all_cons, Bool.and_eq_true] at lower
      simp only [List.forall₂_cons_right_iff, toLower_eq_iff lower.1, ih lower.2]

/-! ## Numbers -/

section Numbers

variable {text : List Char} {word : UInt32} {number : Nat}

/-- A number is read exactly where the text writes it. -/
theorem wordOfChars_eq_ok_iff : wordOfChars text = .ok word ↔ Writes text word.toNat := by
  have marked {base : Nat} (positive : 0 < base) (small : base ≤ 16) (rest : List Char) :
      Text.readWord base (dropUnderscores rest) = .ok word ↔
        Text.Numeral base (rest.filter (· ≠ '_')) word.toNat :=
    Text.readWord_eq_ok_iff positive small
  constructor
  · intro read
    unfold wordOfChars at read
    split at read
    · next rest => exact .hexadecimal (.inl rfl) ((marked (by decide) (by decide) rest).mp read)
    · next rest => exact .hexadecimal (.inr rfl) ((marked (by decide) (by decide) rest).mp read)
    · next rest => exact .binary (.inl rfl) ((marked (by decide) (by decide) rest).mp read)
    · next rest => exact .binary (.inr rfl) ((marked (by decide) (by decide) rest).mp read)
    · exact .decimal ((Text.readWord_eq_ok_iff (by decide) (by decide)).mp read)
  · intro writes
    cases writes with
    | @hexadecimal mark rest _ mark numeral =>
        rcases mark with rfl | rfl <;> exact (marked (by decide) (by decide) rest).mpr numeral
    | @binary mark rest _ mark numeral =>
        rcases mark with rfl | rfl <;> exact (marked (by decide) (by decide) rest).mpr numeral
    | decimal numeral =>
        -- A text with a mark has a letter, so it is no decimal numeral.
        have plain (c : Char) (member : c ∈ text) : ¬c.isAlpha = true :=
          numeral.not_isAlpha_of_mem member
        unfold wordOfChars
        split
        · exact absurd rfl (plain 'x' (by simp))
        · exact absurd rfl (plain 'X' (by simp))
        · exact absurd rfl (plain 'b' (by simp))
        · exact absurd rfl (plain 'B' (by simp))
        · exact (Text.readWord_eq_ok_iff (by decide) (by decide)).mpr numeral

/-- What writes a number begins with a digit or a sign. -/
theorem Writes.exists_cons (writes : Writes text number) :
    ∃ c rest, text = c :: rest ∧ ¬c.isAlpha = true := by
  cases writes with
  | @hexadecimal mark rest => exact ⟨'0', mark :: rest, rfl, by decide⟩
  | @binary mark rest => exact ⟨'0', mark :: rest, rfl, by decide⟩
  | decimal numeral =>
      cases text with
      | nil => rcases numeral with ⟨filled, -⟩ | ⟨_, _, _⟩ <;> contradiction
      | cons c rest => exact ⟨c, rest, rfl, numeral.not_isAlpha_of_mem List.mem_cons_self⟩

/-- A word writes no number. -/
theorem InAnyCase.not_writes {spelled : String} (any : InAnyCase spelled text)
    (lower : spelled.toList.all Char.isLower = true) : ¬Writes text number := by
  intro writes
  obtain ⟨c, rest, rfl, outside⟩ := writes.exists_cons
  obtain ⟨letter, letters, first, -, same⟩ := List.forall₂_cons_left_iff.mp any
  have small : letter.isLower = true :=
    List.all_eq_true.mp lower letter (same ▸ List.mem_cons_self)
  rw [← toLower_eq_iff small] at first
  rw [← first, Char.isLower_toLower_eq_isAlpha] at small
  exact outside small

end Numbers

/-! ## Literals -/

/-- What literal a text stands for. -/
inductive Denotes : List Char → Literal → Prop where
  | yes {text : List Char} (spelled : InAnyCase "true" text) : Denotes text (.bool true)
  | no {text : List Char} (spelled : InAnyCase "false" text) : Denotes text (.bool false)
  | number {text : List Char} {word : UInt32} (written : Writes text word.toNat) :
      Denotes text (.int word)

/-- A literal is read exactly where the text stands for it, white space around it aside. -/
theorem ofString?_eq_some_iff {text : String} {literal : Literal} :
    ofString? text = some literal ↔ Denotes (Text.trim text).toList literal := by
  have yes (chars : List Char) : isWord "true" chars = true ↔ InAnyCase "true" chars :=
    isWord_iff (by decide)
  have no (chars : List Char) : isWord "false" chars = true ↔ InAnyCase "false" chars :=
    isWord_iff (by decide)
  rw [Text.toList_trim, ofString?, ofChars?]
  generalize Text.trimChars text.toList = chars
  constructor
  · intro read
    split at read
    · next spelled =>
        obtain rfl := Option.some.inj read
        exact .yes ((yes chars).mp spelled)
    · split at read
      · next spelled =>
          obtain rfl := Option.some.inj read
          exact .no ((no chars).mp spelled)
      · obtain ⟨word, found, rfl⟩ := Option.map_eq_some_iff.mp read
        cases result : wordOfChars chars with
        | error fault => simp [result, Except.toOption] at found
        | ok other =>
            obtain rfl : other = word := by simpa [result, Except.toOption] using found
            exact .number (wordOfChars_eq_ok_iff.mp result)
  · intro denotes
    cases denotes with
    | yes spelled => rw [if_pos ((yes chars).mpr spelled)]
    | no spelled =>
        -- The words are of different lengths.
        have other : ¬InAnyCase "true" chars := by
          intro spelledToo
          have long : chars.length = 5 := spelled.length_eq
          have short : chars.length = 4 := spelledToo.length_eq
          omega
        rw [if_neg (mt (yes chars).mp other), if_pos ((no chars).mpr spelled)]
    | number written =>
        have neither : ¬InAnyCase "true" chars ∧ ¬InAnyCase "false" chars :=
          ⟨fun spelled => spelled.not_writes (by decide) written,
            fun spelled => spelled.not_writes (by decide) written⟩
        rw [if_neg (mt (yes chars).mp neither.1), if_neg (mt (no chars).mp neither.2),
          wordOfChars_eq_ok_iff.mpr written]
        rfl

end Literal

end OpcodeTables
