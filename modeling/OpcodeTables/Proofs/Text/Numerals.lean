import Mathlib
import OpcodeTables.Text.Numeral

/-!
# What numerals say

A numeral of a base is an optional plus sign and at least one digit, and its
value is that of its digits.  Reading gives the values of the numerals that are
below the bound and refuses every other text, although it looks at one character
after the other and stops at the first that is wrong.
-/

namespace OpcodeTables.Text

/-- A character that is a digit of a base up to sixteen. Letters are digits in
either case. -/
def IsDigit (base : Nat) (c : Char) (value : Nat) : Prop :=
  value < base ∧ (c = Nat.digitChar value ∨ c = (Nat.digitChar value).toUpper)

/-- At least one digit, the most significant first. -/
def Digits (base : Nat) (text : List Char) (number : Nat) : Prop :=
  text ≠ [] ∧ ∃ values, List.Forall₂ (IsDigit base) text values ∧
    Nat.ofDigits base values.reverse = number

/-- Digits that may have a plus sign in front. -/
def Numeral (base : Nat) (text : List Char) (number : Nat) : Prop :=
  Digits base text number ∨ ∃ rest, text = '+' :: rest ∧ Digits base rest number

/-- Digits that may have either sign in front. -/
inductive SignedNumeral (base : Nat) : List Char → Int → Prop where
  | positive {text : List Char} {number : Nat} (numeral : Numeral base text number) :
      SignedNumeral base text number
  | negative {rest : List Char} {number : Nat} (digits : Digits base rest number) :
      SignedNumeral base ('-' :: rest) (-number)

/-- A text that says a number of 32 bits without a minus sign. -/
def SaysWord (text : List Char) (word : UInt32) : Prop :=
  Numeral 10 text word.toNat

/-- A text that says a number of 64 bits, of which one is for the sign. -/
def SaysSigned (text : List Char) (number : Int) : Prop :=
  SignedNumeral 10 text number ∧ -0x8000000000000000 ≤ number ∧ number < 0x8000000000000000

/-! ## Digits -/

/-- The digits by their characters: those of ten and the letters up to `f`. -/
theorem digitChar_cases {value : Nat} (small : value < 16) :
    (value < 10 ∧ (Nat.digitChar value).toNat = 0x30 + value ∧
        ((Nat.digitChar value).toUpper).toNat = 0x30 + value) ∨
      (10 ≤ value ∧ (Nat.digitChar value).toNat = 0x57 + value ∧
        ((Nat.digitChar value).toUpper).toNat = 0x37 + value) := by
  revert value
  decide

/-- A digit is found exactly where there is one. -/
theorem digitValue?_eq_some_iff {base value : Nat} (small : base ≤ 16) {c : Char} :
    digitValue? base c = some value ↔ IsDigit base c value := by
  have same (other : Char) : c = other ↔ c.toNat = other.toNat := Char.toNat_inj.symm
  rw [digitValue?, IsDigit, Option.filter_eq_some_iff, decide_eq_true_eq, and_comm]
  apply and_congr_right
  intro below
  rw [same, same]
  rcases digitChar_cases (below.trans_le small) with ⟨_, lower, upper⟩ | ⟨_, lower, upper⟩
  all_goals
    rw [lower, upper]
    simp only [Char.reduceToNat]
    grind

theorem Digits.exists_isDigit {base : Nat} {text : List Char} {number : Nat}
    (digits : Digits base text number) {c : Char} (member : c ∈ text) :
    ∃ value, IsDigit base c value := by
  obtain ⟨-, values, each, -⟩ := digits
  obtain ⟨index, bound, rfl⟩ := List.mem_iff_getElem.mp member
  exact ⟨_, each.get bound (each.length_eq ▸ bound)⟩

/-- Signs are no digits. -/
theorem not_isDigit_sign {base value : Nat} (small : base ≤ 16) {sign : Char}
    (member : sign ∈ ['+', '-']) : ¬IsDigit base sign value := by
  rw [← digitValue?_eq_some_iff small]
  intro found
  rcases List.mem_pair.mp member with rfl | rfl <;>
    exact Option.some_ne_none _ (found.symm.trans rfl)

/-! ## Values -/

/-- Values of digits put after a number. -/
def appendDigits (base : Nat) (number : Nat) (values : List Nat) : Nat :=
  values.foldl (fun sofar value => sofar * base + value) number

/-- Digits on their own are those after nothing. -/
theorem ofDigits_reverse (base : Nat) (values : List Nat) :
    Nat.ofDigits base values.reverse = appendDigits base 0 values := by
  rw [Nat.ofDigits_eq_foldr, List.foldr_reverse, appendDigits]
  congr
  funext sofar value
  rw [Nat.cast_id, Nat.mul_comm, Nat.add_comm]

/-- Another digit never makes a number smaller. -/
theorem le_appendDigits {base : Nat} (positive : 0 < base) (number : Nat) (values : List Nat) :
    number ≤ appendDigits base number values := by
  induction values generalizing number with
  | nil => exact Nat.le_refl _
  | cons value rest ih =>
      calc
        number ≤ number * base := Nat.le_mul_of_pos_right number positive
        _ ≤ number * base + value := Nat.le_add_right _ _
        _ ≤ appendDigits base number (value :: rest) := ih _

/-! ## Reading -/

section Reading

variable {base bound : Nat} {text : List Char} {number : Nat}

/-- Reading goes through where all characters are digits and the whole number is
below the bound, for then all numbers on the way to it are. -/
theorem readDigits_eq_ok_iff (positive : 0 < base) (small : base ≤ 16) {start : Nat}
    (below : start < bound) :
    readDigits base bound start text = .ok number ↔
      ∃ values, List.Forall₂ (IsDigit base) text values ∧
        appendDigits base start values = number ∧ number < bound := by
  induction text generalizing start with
  | nil =>
      simp only [readDigits, Except.ok.injEq, List.forall₂_nil_left_iff, exists_eq_left,
        appendDigits, List.foldl_nil]
      exact ⟨fun same => ⟨same, same ▸ below⟩, And.left⟩
  | cons c rest ih =>
      simp only [List.forall₂_cons_left_iff, ← digitValue?_eq_some_iff small]
      rw [readDigits]
      cases found : digitValue? base c with
      | none => simp
      | some digit =>
          simp only [Option.some.injEq]
          by_cases inside : start * base + digit < bound
          · rw [if_pos inside, ih inside]
            constructor
            · rintro ⟨values, digits, same, fits⟩
              exact ⟨_, ⟨digit, values, rfl, digits, rfl⟩, same, fits⟩
            · rintro ⟨_, ⟨_, values, rfl, digits, rfl⟩, same, fits⟩
              exact ⟨values, digits, same, fits⟩
          · rw [if_neg inside]
            constructor
            · intro refused
              contradiction
            · rintro ⟨_, ⟨_, values, rfl, digits, rfl⟩, rfl, fits⟩
              exact absurd ((le_appendDigits positive _ values).trans_lt fits) inside

/-- Digits are read where there is at least one. -/
theorem readDigits_zero_eq_ok_iff (positive : 0 < base) (small : base ≤ 16) (room : 0 < bound)
    (filled : text ≠ []) :
    readDigits base bound 0 text = .ok number ↔ Digits base text number ∧ number < bound := by
  rw [readDigits_eq_ok_iff positive small room, Digits, and_iff_right filled]
  simp only [ofDigits_reverse]
  constructor
  · rintro ⟨values, digits, same, fits⟩
    exact ⟨⟨values, digits, same⟩, fits⟩
  · rintro ⟨⟨values, digits, same⟩, fits⟩
    exact ⟨values, digits, same, fits⟩

/-- No digits begin with a sign. -/
theorem not_digits_sign (small : base ≤ 16) {sign : Char} (member : sign ∈ ['+', '-']) :
    ¬Digits base (sign :: text) number := by
  rintro ⟨-, values, digits, -⟩
  obtain ⟨value, _, digit, _⟩ := List.forall₂_cons_left_iff.mp digits
  exact not_isDigit_sign small member digit

theorem readNatural_signed (filled : text ≠ []) :
    readNatural base bound ('+' :: text) = readDigits base bound 0 text := by
  cases text with
  | nil => contradiction
  | cons c rest => rfl

theorem readNatural_unsigned (filled : text ≠ []) (unsigned : ∀ rest, text ≠ '+' :: rest) :
    readNatural base bound text = readDigits base bound 0 text := by
  unfold readNatural
  split
  · contradiction
  · exact absurd rfl (unsigned [])
  · next rest _ => exact absurd rfl (unsigned rest)
  · rfl

/-- A number is read exactly where a numeral says one that is below the bound. -/
theorem readNatural_eq_ok_iff (positive : 0 < base) (small : base ≤ 16) (room : 0 < bound) :
    readNatural base bound text = .ok number ↔ Numeral base text number ∧ number < bound := by
  rw [Numeral]
  by_cases signed : ∃ rest, text = '+' :: rest
  · obtain ⟨rest, rfl⟩ := signed
    have unsigned : ¬Digits base ('+' :: rest) number := not_digits_sign small (by simp)
    simp only [unsigned, List.cons.injEq, true_and, exists_eq_left', false_or]
    by_cases filled : rest = []
    · simp [filled, readNatural, Digits]
    · rw [readNatural_signed filled, readDigits_zero_eq_ok_iff positive small room filled]
  · rw [not_exists] at signed
    simp only [signed, false_and, exists_const, or_false]
    by_cases filled : text = []
    · simp [filled, readNatural, Digits]
    · rw [readNatural_unsigned filled signed, readDigits_zero_eq_ok_iff positive small room filled]

/-- A word is read exactly where a numeral says a number of 32 bits. -/
theorem readWord_eq_ok_iff (positive : 0 < base) (small : base ≤ 16) {word : UInt32} :
    readWord base text = .ok word ↔ Numeral base text word.toNat := by
  have fits := word.toNat_lt
  rw [readWord]
  constructor
  · intro read
    cases found : readNatural base UInt32.size text with
    | error fault => simp [found, Except.map] at read
    | ok number =>
        obtain ⟨numeral, inside⟩ :=
          (readNatural_eq_ok_iff positive small (by decide)).mp found
        obtain rfl : UInt32.ofNat number = word := by simpa [found, Except.map] using read
        rwa [UInt32.toNat_ofNat_of_lt' inside]
  · intro numeral
    have found := (readNatural_eq_ok_iff positive small (by decide)).mpr
      ⟨numeral, (fits : word.toNat < UInt32.size)⟩
    rw [found]
    exact congrArg Except.ok UInt32.ofNat_toNat

/-! ## Numbers with a sign -/

theorem signedNumeral_minus_iff (small : base ≤ 16) {number : Int} :
    SignedNumeral base ('-' :: text) number ↔ ∃ value, Digits base text value ∧ number = -value := by
  constructor
  · intro numeral
    cases numeral with
    | positive numeral =>
        rcases numeral with digits | ⟨rest, same, -⟩
        · exact absurd digits (not_digits_sign small (by simp))
        · exact absurd (List.cons.inj same).1 (by decide)
    | negative digits => exact ⟨_, digits, rfl⟩
  · rintro ⟨value, digits, rfl⟩
    exact .negative digits

theorem signedNumeral_iff {number : Int} (unsigned : ∀ rest, text ≠ '-' :: rest) :
    SignedNumeral base text number ↔ ∃ value, Numeral base text value ∧ number = value := by
  constructor
  · intro numeral
    cases numeral with
    | positive numeral => exact ⟨_, numeral, rfl⟩
    | negative digits => exact absurd rfl (unsigned _)
  · rintro ⟨value, numeral, rfl⟩
    exact .positive numeral

/-- What is read after a minus sign may be as large as the bound itself. -/
theorem readInteger_minus_eq_ok_iff {number : Int} :
    readInteger bound ('-' :: text) = .ok number ↔
      ∃ value, (Digits 10 text value ∧ value < bound + 1) ∧ number = -value := by
  by_cases filled : text = []
  · simp [filled, readInteger, Digits]
  · simp only [← readDigits_zero_eq_ok_iff (by decide : 0 < 10) (by decide) (Nat.succ_pos bound)
      filled]
    rw [readInteger]
    · cases readDigits 10 (bound + 1) 0 text with
      | ok value => simp [eq_comm]
      | error fault => cases fault <;> simp
    · exact filled

/-- An integer is read exactly where a numeral says one that is within the
bounds, of which the lower one counts. -/
theorem readInteger_eq_ok_iff (room : 0 < bound) {number : Int} :
    readInteger bound text = .ok number ↔
      SignedNumeral 10 text number ∧ -bound ≤ number ∧ number < bound := by
  by_cases signed : ∃ rest, text = '-' :: rest
  · obtain ⟨rest, rfl⟩ := signed
    rw [readInteger_minus_eq_ok_iff, signedNumeral_minus_iff (by decide)]
    constructor
    · rintro ⟨value, ⟨digits, below⟩, rfl⟩
      exact ⟨⟨value, digits, rfl⟩, by omega, by omega⟩
    · rintro ⟨⟨value, digits, rfl⟩, above, -⟩
      exact ⟨value, ⟨digits, by omega⟩, rfl⟩
  · rw [not_exists] at signed
    have mapped : (readNatural 10 bound text).map Int.ofNat = .ok number ↔
        ∃ value, readNatural 10 bound text = .ok value ∧ number = value := by
      cases readNatural 10 bound text <;> simp [Except.map, eq_comm]
    rw [signedNumeral_iff signed, readInteger, mapped]
    · simp only [readNatural_eq_ok_iff (by decide : 0 < 10) (by decide) room]
      constructor
      · rintro ⟨value, ⟨numeral, below⟩, rfl⟩
        exact ⟨⟨value, numeral, rfl⟩, by omega, by omega⟩
      · rintro ⟨⟨value, numeral, rfl⟩, -, below⟩
        exact ⟨value, ⟨numeral, by omega⟩, rfl⟩
    all_goals simp [signed]

/-- An integer is read exactly where a numeral says one of 64 bits. -/
theorem readSigned_eq_ok_iff {number : Int} :
    readSigned text = .ok number ↔ SaysSigned text number :=
  readInteger_eq_ok_iff (by decide)

theorem readWord_ten_eq_ok_iff {word : UInt32} :
    readWord 10 text = .ok word ↔ SaysWord text word :=
  readWord_eq_ok_iff (by decide) (by decide)

end Reading

end OpcodeTables.Text
