/-!
# Identifiers

Names that tables and options give to things in emitted code.  They are plain
ASCII identifiers, a few of which can be neither fields' accessors nor
functions there.
-/

namespace OpcodeTables

/-- First characters of an identifier. -/
def isIdentifierStart (c : Char) : Bool :=
  c == '_' || c.isAlpha

/-- Further characters of an identifier. -/
def isIdentifierPart (c : Char) : Bool :=
  c == '_' || c.isAlphanum

theorem isIdentifierPart_iff {c : Char} :
    isIdentifierPart c = true ↔ isIdentifierStart c = true ∨ c.isDigit = true := by
  simp only [isIdentifierStart, isIdentifierPart, Char.isAlphanum, Bool.or_eq_true, or_assoc]

theorem isIdentifierPart_of_isIdentifierStart {c : Char} (start : isIdentifierStart c = true) :
    isIdentifierPart c = true :=
  isIdentifierPart_iff.mpr (.inl start)

/-- What begins an identifier by its code points. -/
theorem isIdentifierStart_iff {c : Char} :
    isIdentifierStart c = true ↔
      c = '_' ∨ (0x41 ≤ c.toNat ∧ c.toNat ≤ 0x5A) ∨ (0x61 ≤ c.toNat ∧ c.toNat ≤ 0x7A) := by
  have upper : c.isUpper = true ↔ 0x41 ≤ c.toNat ∧ c.toNat ≤ 0x5A := by
    change decide (c.val ≥ 'A'.val ∧ c.val ≤ 'Z'.val) = true ↔ _
    rw [decide_eq_true_iff, ge_iff_le, UInt32.le_iff_toNat_le, UInt32.le_iff_toNat_le]
    rfl
  have lower : c.isLower = true ↔ 0x61 ≤ c.toNat ∧ c.toNat ≤ 0x7A := by
    change (decide (c.val ≥ 'a'.val) && decide (c.val ≤ 'z'.val)) = true ↔ _
    rw [Bool.and_eq_true, decide_eq_true_iff, decide_eq_true_iff, ge_iff_le,
      UInt32.le_iff_toNat_le, UInt32.le_iff_toNat_le]
    rfl
  change (c == '_' || (c.isUpper || c.isLower)) = true ↔ _
  rw [Bool.or_eq_true, Bool.or_eq_true, beq_iff_eq, upper, lower]

theorem isDigit_iff {c : Char} : c.isDigit = true ↔ 0x30 ≤ c.toNat ∧ c.toNat ≤ 0x39 := by
  simp only [Char.isDigit, Bool.and_eq_true, decide_eq_true_eq, UInt32.le_iff_toNat_le, ge_iff_le]
  rfl

theorem isDigit_of_isIdentifierStart {c : Char} (start : isIdentifierStart c = true) :
    c.isDigit = false := by
  rw [← Bool.not_eq_true, isDigit_iff]
  rcases isIdentifierStart_iff.mp start with rfl | letter
  · decide
  · omega

/-- Parts of identifiers are visible ASCII characters. -/
theorem toNat_of_isIdentifierPart {c : Char} (part : isIdentifierPart c = true) :
    0x30 ≤ c.toNat ∧ c.toNat < 0x7F := by
  rw [isIdentifierPart_iff, isIdentifierStart_iff, isDigit_iff] at part
  rcases part with (rfl | letter) | digit
  · decide
  · omega
  · omega

/-- Whether a name is a plain ASCII identifier. A lone underscore is none. -/
def isIdentifier (name : String) : Bool :=
  match name.toList with
  | [] => false
  | first :: rest =>
      isIdentifierStart first && name != "_" && rest.all isIdentifierPart

/-- Identifiers that always are keywords. -/
def reservedNames : List String := ["self", "Self", "super", "crate"]

/-- Whether a text can name something of its own in emitted code. -/
def isFreeName (text : String) : Bool :=
  isIdentifier text && !(text ∈ reservedNames)

end OpcodeTables
