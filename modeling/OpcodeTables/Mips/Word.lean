import OpcodeTables.Program.Lookup
import OpcodeTables.Text.Numeral

/-!
# Instruction words

The fields of 32 bit MIPS-I instruction words.  A bit field is a run of bits
of the word.  Two layouts lie over the same word: that of register
instructions, and that of coprocessor instructions, whose bit 25 tells
operations (`c` set) from register moves and whose low four bits of `rs` are
a sub-opcode.
-/

namespace OpcodeTables.Mips

/-- A run of bits of a word, the lowest at `offset`. -/
structure BitField where
  offset : Nat
  width : Nat
  deriving DecidableEq, Repr

namespace BitField

/-- What the lowest bit of the field counts. -/
def unit (field : BitField) : Nat :=
  1 <<< field.offset

/-- The number of values that the field can hold. -/
def bound (field : BitField) : Nat :=
  1 <<< field.width

/-- The bits of the field as a number. -/
def get (field : BitField) (word : UInt32) : UInt32 :=
  UInt32.ofNat (word.toNat / field.unit % field.bound)

/-- The word with the bits of the field replaced. -/
def put (field : BitField) (word value : UInt32) : UInt32 :=
  UInt32.ofNat
    (word.toNat - (field.get word).toNat * field.unit + value.toNat * field.unit)

/-- The word with the bits of the field replaced by a value, which is refused
where it does not fit the field. -/
def set? (field : BitField) (word value : UInt32) : Option UInt32 :=
  if value.toNat < field.bound then some (field.put word value) else none

end BitField

/-- The fields of a register instruction. -/
inductive RegisterField where
  | funct
  | shamt
  | rd
  | rt
  | rs
  | opcode
  deriving DecidableEq, Repr

namespace RegisterField

/-- Where the field lies. -/
def bits : RegisterField → BitField
  | .funct => ⟨0, 6⟩
  | .shamt => ⟨6, 5⟩
  | .rd => ⟨11, 5⟩
  | .rt => ⟨16, 5⟩
  | .rs => ⟨21, 5⟩
  | .opcode => ⟨26, 6⟩

/-- All fields from the least significant bit on. -/
def all : List RegisterField := [.funct, .shamt, .rd, .rt, .rs, .opcode]

/-- Name of the field. -/
def name : RegisterField → String
  | .funct => "funct"
  | .shamt => "shamt"
  | .rd => "rd"
  | .rt => "rt"
  | .rs => "rs"
  | .opcode => "opcode"

end RegisterField

/-- The fields of a coprocessor instruction; the bits between them have no
name. -/
inductive CoprocessorField where
  | funct
  | rs4
  | c
  deriving DecidableEq, Repr

namespace CoprocessorField

/-- Where the field lies. -/
def bits : CoprocessorField → BitField
  | .funct => ⟨0, 6⟩
  | .rs4 => ⟨21, 4⟩
  | .c => ⟨25, 1⟩

/-- All fields from the least significant bit on. -/
def all : List CoprocessorField := [.funct, .rs4, .c]

/-- Name of the field. -/
def name : CoprocessorField → String
  | .funct => "funct"
  | .rs4 => "rs4"
  | .c => "c"

end CoprocessorField

/-- One instruction. -/
structure Instruction where
  word : UInt32
  deriving DecidableEq, Repr

namespace Instruction

/-- A field of the register layout. -/
def register (instruction : Instruction) (field : RegisterField) : UInt32 :=
  field.bits.get instruction.word

/-- A field of the coprocessor layout. -/
def coprocessor (instruction : Instruction) (field : CoprocessorField) : UInt32 :=
  field.bits.get instruction.word

/-- Whether the coprocessor bit is set. -/
def isOperation (instruction : Instruction) : Bool :=
  instruction.coprocessor .c ≠ 0

/-- The value of a named field. The coprocessor bit is a truth value, all else
are numbers. -/
def field (instruction : Instruction) : FieldSource := fun name =>
  match RegisterField.all.find? (·.name = name) with
  | some field => some (.int (instruction.register field))
  | none =>
      if name = CoprocessorField.rs4.name then some (.int (instruction.coprocessor .rs4))
      else if name = CoprocessorField.c.name then some (.bool instruction.isOperation)
      else none

/-- An instruction as it is shown. -/
def text (instruction : Instruction) : String :=
  s!"Instruction({Text.hexWord instruction.word})"

end Instruction

end OpcodeTables.Mips
