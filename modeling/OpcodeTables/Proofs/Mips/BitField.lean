import Mathlib
import OpcodeTables.Mips.Word

/-!
# The bits of a field

Reading a field takes a run of bits out of a word, and setting it puts a value in
the place of that run.  Both are told bit by bit: a set field reads the value that
was put there, and a field that shares no bit with it reads what it read before.
-/

namespace OpcodeTables.Mips.BitField

/-- A bit belongs to the field. -/
def Covers (field : BitField) (position : Nat) : Prop :=
  field.offset ≤ position ∧ position < field.offset + field.width

instance (field : BitField) (position : Nat) : Decidable (field.Covers position) :=
  inferInstanceAs (Decidable (field.offset ≤ position ∧ position < field.offset + field.width))

/-- No bit belongs to both fields. -/
def Apart (left right : BitField) : Prop :=
  ∀ position, left.Covers position → ¬right.Covers position

theorem Apart.symm {left right : BitField} (apart : left.Apart right) : right.Apart left :=
  fun position inside other => apart position other inside

/-- The field ends within a word. -/
def Fits (field : BitField) : Prop :=
  field.offset + field.width ≤ 32

section Field

variable (field : BitField) (word : UInt32)

theorem unit_eq : field.unit = 2 ^ field.offset :=
  Nat.one_shiftLeft field.offset

theorem bound_eq : field.bound = 2 ^ field.width :=
  Nat.one_shiftLeft field.width

theorem toNat_get :
    (field.get word).toNat = word.toNat / 2 ^ field.offset % 2 ^ field.width := by
  rw [get, UInt32.toNat_ofNat', unit_eq, bound_eq]
  apply Nat.mod_eq_of_lt
  calc word.toNat / 2 ^ field.offset % 2 ^ field.width
    _ ≤ word.toNat / 2 ^ field.offset := Nat.mod_le _ _
    _ ≤ word.toNat := Nat.div_le_self _ _
    _ < 2 ^ 32 := word.toNat_lt

/-- A field reads the bits of the word from its offset on. -/
theorem testBit_get (position : Nat) :
    (field.get word).toNat.testBit position =
      (decide (position < field.width) && word.toNat.testBit (position + field.offset)) := by
  rw [toNat_get, Nat.testBit_mod_two_pow, Nat.testBit_div_two_pow]

/-- A field and what lies above and below it make up the word. -/
theorem toNat_eq_parts :
    word.toNat =
      2 ^ field.offset *
          (2 ^ field.width * (word.toNat / 2 ^ field.offset / 2 ^ field.width) +
            (field.get word).toNat) +
        word.toNat % 2 ^ field.offset := by
  rw [toNat_get, Nat.div_add_mod, Nat.div_add_mod]

/-- Setting a field exchanges it and nothing else of what makes up the word. -/
theorem toNat_put (value : UInt32) :
    (field.put word value).toNat =
      (2 ^ field.offset *
          (2 ^ field.width * (word.toNat / 2 ^ field.offset / 2 ^ field.width) +
            value.toNat) +
        word.toNat % 2 ^ field.offset) % 2 ^ 32 := by
  rw [put, UInt32.toNat_ofNat', unit_eq]
  congr 1
  have parts := toNat_eq_parts field word
  rw [Nat.mul_add, Nat.mul_comm _ (field.get word).toNat] at parts
  rw [Nat.mul_add, Nat.mul_comm _ value.toNat]
  omega

end Field

section Setting

variable {field other : BitField} {word value : UInt32}

/-- Of three numbers set one above the other, a bit belongs to the one in whose
run it lies. -/
theorem testBit_parts {offset width high middle low : Nat} (least : low < 2 ^ offset)
    (small : middle < 2 ^ width) (position : Nat) :
    (2 ^ offset * (2 ^ width * high + middle) + low).testBit position =
      if position < offset then low.testBit position
      else if position < offset + width then middle.testBit (position - offset)
      else high.testBit (position - offset - width) := by
  rw [Nat.testBit_two_pow_mul_add _ least, Nat.testBit_two_pow_mul_add _ small]
  split
  · rfl
  · next above =>
      have within : position - offset < width ↔ position < offset + width := by
        omega
      simp only [within]

/-- A set field has the bits of the value, and all other bits of the word are what
they were. -/
theorem testBit_put (fits : field.Fits) (small : value.toNat < 2 ^ field.width)
    (position : Nat) :
    (field.put word value).toNat.testBit position =
      if field.Covers position then value.toNat.testBit (position - field.offset)
      else word.toNat.testBit position := by
  have least : word.toNat % 2 ^ field.offset < 2 ^ field.offset :=
    Nat.mod_lt _ (Nat.two_pow_pos _)
  have old : (field.get word).toNat < 2 ^ field.width := by
    rw [toNat_get]
    exact Nat.mod_lt _ (Nat.two_pow_pos _)
  rw [toNat_put, Nat.testBit_mod_two_pow, testBit_parts least small]
  by_cases inside : position < 32
  · -- The old word is made up of the same parts but for the field's own.
    conv_rhs => rw [toNat_eq_parts field word, testBit_parts least old]
    simp only [inside, decide_true, Bool.true_and, Covers]
    grind
  · -- Neither the field nor any bit of the word reaches this far.
    have beyond : ¬field.Covers position := by
      intro covers
      exact inside (Nat.lt_of_lt_of_le covers.2 fits)
    have large : word.toNat < 2 ^ position :=
      Nat.lt_of_lt_of_le word.toNat_lt (Nat.pow_le_pow_right (by decide) (Nat.le_of_not_lt inside))
    rw [if_neg beyond, Nat.testBit_lt_two_pow large, decide_eq_false inside, Bool.false_and]

/-- A set field reads the value that was put there. -/
theorem get_put (fits : field.Fits) (small : value.toNat < 2 ^ field.width) :
    field.get (field.put word value) = value := by
  apply UInt32.toNat_inj.mp
  apply Nat.eq_of_testBit_eq
  intro position
  rw [testBit_get, testBit_put fits small]
  by_cases inside : position < field.width
  · have covers : field.Covers (position + field.offset) := by
      constructor <;> omega
    rw [if_pos covers, Nat.add_sub_cancel, decide_eq_true inside, Bool.true_and]
  · have large : value.toNat < 2 ^ position :=
      Nat.lt_of_lt_of_le small (Nat.pow_le_pow_right (by decide) (Nat.le_of_not_lt inside))
    rw [decide_eq_false inside, Bool.false_and, Nat.testBit_lt_two_pow large]

/-- A field that shares no bit with a set one reads what it read before. -/
theorem get_put_of_apart (apart : other.Apart field) (fits : field.Fits)
    (small : value.toNat < 2 ^ field.width) :
    other.get (field.put word value) = other.get word := by
  apply UInt32.toNat_inj.mp
  apply Nat.eq_of_testBit_eq
  intro position
  rw [testBit_get, testBit_get, testBit_put fits small]
  by_cases inside : position < other.width
  · have outside : ¬field.Covers (position + other.offset) := by
      apply apart
      constructor <;> omega
    rw [if_neg outside]
  · rw [decide_eq_false inside, Bool.false_and, Bool.false_and]

/-- A value is taken where it has no more bits than the field. -/
theorem set?_of_lt (small : value.toNat < 2 ^ field.width) :
    field.set? word value = some (field.put word value) := by
  rw [set?, bound_eq, if_pos small]

/-- A value that has more bits than the field is refused. -/
theorem set?_of_not_lt (large : ¬value.toNat < 2 ^ field.width) :
    field.set? word value = none := by
  rw [set?, bound_eq, if_neg large]

end Setting

end OpcodeTables.Mips.BitField
