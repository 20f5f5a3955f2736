import OpcodeTables.Text.Blank
import OpcodeTables.Text.Numeral

/-!
# Literals and field values

A literal is a concrete value that an instruction field can be matched
against: a truth value or a 32 bit number.  A record holds for each field
either a literal or nothing, and nothing matches every value.

Literals are read from table cells by `Literal.ofChars?` and ordered by
`Literal.rank`, all truth values before all numbers.
-/

namespace OpcodeTables

/-- A concrete value of an instruction field. -/
inductive Literal where
  | bool (value : Bool)
  | int (value : UInt32)
  deriving DecidableEq, Repr, Inhabited

/-- The two kinds of literal. Within one table a field holds one kind only. -/
inductive LiteralKind where
  | bool
  | int
  deriving DecidableEq, Repr

namespace Literal

/-- The kind of a literal. -/
def kind : Literal → LiteralKind
  | .bool _ => .bool
  | .int _ => .int

/-- Position of a literal in the order `false`, `true`, `0`, `1`, … -/
def rank : Literal → Nat
  | .bool false => 0
  | .bool true => 1
  | .int value => value.toNat + 2

theorem rank_injective {left right : Literal} (same : left.rank = right.rank) :
    left = right := by
  cases left with
  | bool left =>
      cases right with
      | bool right => cases left <;> cases right <;> simp_all [rank]
      | int right => cases left <;> simp [rank] at same
  | int left =>
      cases right with
      | bool right => cases right <;> simp [rank] at same
      | int right =>
          simp only [rank, Nat.add_right_cancel_iff] at same
          rw [UInt32.toNat_inj.mp same]

instance : LT Literal := ⟨fun left right => left.rank < right.rank⟩
instance : LE Literal := ⟨fun left right => left.rank ≤ right.rank⟩

instance (left right : Literal) : Decidable (left < right) :=
  inferInstanceAs (Decidable (left.rank < right.rank))

instance (left right : Literal) : Decidable (left ≤ right) :=
  inferInstanceAs (Decidable (left.rank ≤ right.rank))

theorem lt_def {left right : Literal} : left < right ↔ left.rank < right.rank := Iff.rfl

theorem le_def {left right : Literal} : left ≤ right ↔ left.rank ≤ right.rank := Iff.rfl

/-- A literal as it is shown in messages and written in match arms. -/
def text : Literal → String
  | .bool true => "true"
  | .bool false => "false"
  | .int value => value.toNat.repr

/-- Whether a text is a lower case word in any mixture of ASCII cases. -/
def isWord (word : String) (text : List Char) : Bool :=
  text.map Char.toLower == word.toList

/-- The digits of a numeral that has a base mark; underscores among them are
ignored. -/
def dropUnderscores (digits : List Char) : List Char :=
  digits.filter (· ≠ '_')

/-- Reads a number: hexadecimal after `0x` or `0X`, binary after `0b` or `0B`,
otherwise decimal. -/
def wordOfChars (text : List Char) : Except Text.NumeralFault UInt32 :=
  match text with
  | '0' :: 'x' :: digits | '0' :: 'X' :: digits => Text.readWord 16 (dropUnderscores digits)
  | '0' :: 'b' :: digits | '0' :: 'B' :: digits => Text.readWord 2 (dropUnderscores digits)
  | digits => Text.readWord 10 digits

/-- Reads a literal, white space around it aside. -/
def ofChars? (text : List Char) : Option Literal :=
  let text := Text.trimChars text
  if isWord "true" text then some (.bool true)
  else if isWord "false" text then some (.bool false)
  else (wordOfChars text).toOption.map .int

/-- Reads a literal from a text. -/
def ofString? (text : String) : Option Literal :=
  ofChars? text.toList

/-- Sorts literals in ascending order. -/
def sort (literals : List Literal) : List Literal :=
  literals.mergeSort fun left right => decide (left ≤ right)

end Literal

/-- What a record holds for one field. -/
inductive FieldValue where
  /-- The record does not constrain the field. -/
  | wildcard
  | exact (literal : Literal)
  deriving DecidableEq, Repr, Inhabited

namespace FieldValue

/-- Whether the record constrains the field. -/
def isExact : FieldValue → Bool
  | .wildcard => false
  | .exact _ => true

/-- The literal that the record demands, if it demands one. -/
def literal? : FieldValue → Option Literal
  | .wildcard => none
  | .exact literal => some literal

@[simp] theorem isSome_literal? (value : FieldValue) :
    value.literal?.isSome = value.isExact := by
  cases value <;> rfl

theorem isExact_eq_false {value : FieldValue} : value.isExact = false ↔ value = .wildcard := by
  cases value <;> simp [isExact]

theorem isExact_iff {value : FieldValue} :
    value.isExact ↔ ∃ literal, value = .exact literal := by
  cases value <;> simp [isExact]

/-- A field value as it is shown, an underscore for a wildcard. -/
def text : FieldValue → String
  | .wildcard => "_"
  | .exact literal => literal.text

end FieldValue

end OpcodeTables
