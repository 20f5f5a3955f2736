import Mathlib
import OpcodeTables.Proofs.Mips.BitField

/-!
# Layouts of the instruction word

A layout packs fields into a word one above the other.  Some of them have names and
can be read and set; the others are only there to be passed over.  Whatever is set
through one layout, the named fields answer for themselves, and the bits of all
others stay as they are.  The two layouts of an instruction lie over one word and
agree on what they share.
-/

namespace OpcodeTables.Mips

/-! ## Packed fields -/

namespace BitField

/-- Fields of the given widths one above the other, the lowest at a position. -/
def pack : (start : Nat) → (widths : List Nat) → List BitField
  | _, [] => []
  | start, width :: rest => ⟨start, width⟩ :: pack (start + width) rest

section Pack

variable {start : Nat} {widths : List Nat} {field : BitField}

/-- Packed fields lie between their start and the sum of their widths from there. -/
theorem bounds_of_mem_pack (member : field ∈ pack start widths) :
    start ≤ field.offset ∧ field.offset + field.width ≤ start + widths.sum := by
  induction widths generalizing start with
  | nil => contradiction
  | cons width rest ih =>
      rw [List.sum_cons]
      rcases List.mem_cons.mp member with rfl | later
      · exact ⟨Nat.le_refl _, by simp⟩
      · have bounds := ih later
        omega

/-- No bit belongs to two packed fields. -/
theorem pairwise_apart_pack : (pack start widths).Pairwise Apart := by
  induction widths generalizing start with
  | nil => exact .nil
  | cons width rest ih =>
      apply List.Pairwise.cons
      · intro later member position inside above
        have bounds := bounds_of_mem_pack member
        exact absurd inside.2 (Nat.not_lt_of_le (Nat.le_trans bounds.1 above.1))
      · exact ih

end Pack

end BitField

/-- A layout of the word: fields of some widths that are packed from the lowest bit
on and fill the word.  Names are given to some of them in their order. -/
structure Layout (Name : Type) where
  bits : Name → BitField
  names : List Name
  mem_names : ∀ name, name ∈ names
  widths : List Nat
  packed : (names.map bits).Sublist (BitField.pack 0 widths)
  filled : widths.sum = 32

/-- The layout of register instructions, in which every field has a name. -/
def registerLayout : Layout RegisterField where
  bits := RegisterField.bits
  names := RegisterField.all
  mem_names := by
    intro name
    cases name <;> decide
  widths := [6, 5, 5, 5, 5, 6]
  packed := List.Sublist.refl _
  filled := rfl

/-- The layout of coprocessor instructions, which passes over 15 bits above `funct`
and over the 6 highest. -/
def coprocessorLayout : Layout CoprocessorField where
  bits := CoprocessorField.bits
  names := CoprocessorField.all
  mem_names := by
    intro name
    cases name <;> decide
  widths := [6, 15, 4, 1, 6]
  packed := by decide
  filled := rfl

/-- One checked call that sets a field. -/
structure Call (Name : Type) where
  name : Name
  value : UInt32
  deriving DecidableEq, Repr

namespace Layout

section Calls

variable {Name : Type} (layout : Layout Name)

theorem fits (name : Name) : (layout.bits name).Fits := by
  have member := layout.packed.subset (List.mem_map_of_mem (layout.mem_names name))
  have bounds := BitField.bounds_of_mem_pack member
  rw [layout.filled, Nat.zero_add] at bounds
  exact bounds.2

/-- Two named fields share no bit. -/
theorem apart {left right : Name} (other : left ≠ right) :
    (layout.bits left).Apart (layout.bits right) := by
  have pairwise := BitField.pairwise_apart_pack.sublist layout.packed
  rw [List.pairwise_map] at pairwise
  have symmetric : Std.Symm fun left right => (layout.bits left).Apart (layout.bits right) :=
    ⟨fun _ _ apart => apart.symm⟩
  exact pairwise.forall (layout.mem_names left) (layout.mem_names right) other

/-- The value of a call fits the field that it sets. -/
def Accepts (call : Call Name) : Prop :=
  call.value.toNat < 2 ^ (layout.bits call.name).width

instance (call : Call Name) : Decidable (layout.Accepts call) :=
  inferInstanceAs (Decidable (call.value.toNat < 2 ^ (layout.bits call.name).width))

/-- The word after a call, which stays as it is where the call is refused. -/
def set (word : UInt32) (call : Call Name) : UInt32 :=
  ((layout.bits call.name).set? word call.value).getD word

/-- The word after calls one after another. -/
def setAll (word : UInt32) (calls : List (Call Name)) : UInt32 :=
  calls.foldl layout.set word

variable {layout} {word : UInt32} {call : Call Name} {calls : List (Call Name)} {name : Name}

theorem set_of_accepts (accepts : layout.Accepts call) :
    layout.set word call = (layout.bits call.name).put word call.value := by
  rw [set, BitField.set?_of_lt accepts, Option.getD_some]

theorem set_of_not_accepts (refuses : ¬layout.Accepts call) : layout.set word call = word := by
  rw [set, BitField.set?_of_not_lt refuses, Option.getD_none]

theorem setAll_concat (word : UInt32) (calls : List (Call Name)) (call : Call Name) :
    layout.setAll word (calls ++ [call]) = layout.set (layout.setAll word calls) call := by
  rw [setAll, List.foldl_concat]
  rfl

/-- A call leaves the bits alone that do not belong to the field that it sets. -/
theorem testBit_set {position : Nat}
    (outside : layout.Accepts call → ¬(layout.bits call.name).Covers position) :
    (layout.set word call).toNat.testBit position = word.toNat.testBit position := by
  by_cases accepts : layout.Accepts call
  · rw [set_of_accepts accepts, BitField.testBit_put (layout.fits call.name) accepts,
      if_neg (outside accepts)]
  · rw [set_of_not_accepts accepts]

/-- Calls leave the bits alone that belong to no field that they set. -/
theorem testBit_setAll {position : Nat}
    (outside : ∀ call ∈ calls, layout.Accepts call →
      ¬(layout.bits call.name).Covers position) :
    (layout.setAll word calls).toNat.testBit position = word.toNat.testBit position := by
  induction calls using List.reverseRecOn with
  | nil => rfl
  | append_singleton calls call ih =>
      rw [setAll_concat, testBit_set (outside call (by simp)), ih]
      exact fun earlier member => outside earlier (List.mem_append_left _ member)

variable [DecidableEq Name]

/-- A field reads what an accepted call gave it, and what it read before all other
calls. -/
theorem get_set :
    (layout.bits name).get (layout.set word call) =
      if call.name = name ∧ layout.Accepts call then call.value
      else (layout.bits name).get word := by
  by_cases accepts : layout.Accepts call
  · rw [set_of_accepts accepts]
    by_cases same : call.name = name
    · subst same
      rw [if_pos ⟨rfl, accepts⟩, BitField.get_put (layout.fits call.name) accepts]
    · rw [if_neg (fun both => same both.1)]
      exact BitField.get_put_of_apart (layout.apart (Ne.symm same)) (layout.fits call.name) accepts
  · rw [set_of_not_accepts accepts, if_neg (fun both => accepts both.2)]

variable (layout) in
/-- The value of the last call for a field that is accepted. -/
def lastAccepted? (name : Name) (calls : List (Call Name)) : Option UInt32 :=
  (calls.filter fun call => call.name = name ∧ layout.Accepts call).getLast?.map Call.value

theorem lastAccepted?_concat (name : Name) (calls : List (Call Name)) (call : Call Name) :
    layout.lastAccepted? name (calls ++ [call]) =
      if call.name = name ∧ layout.Accepts call then some call.value
      else layout.lastAccepted? name calls := by
  rw [lastAccepted?, lastAccepted?, List.filter_append]
  split
  · next taken => simp [taken]
  · next passed =>
      simp only [List.filter_cons, passed, decide_false, Bool.false_eq_true, if_false,
        List.filter_nil, List.append_nil]

/-- A field reads the last value that was accepted for it, or what it read before
all calls where none was. -/
theorem get_setAll :
    (layout.bits name).get (layout.setAll word calls) =
      (layout.lastAccepted? name calls).getD ((layout.bits name).get word) := by
  induction calls using List.reverseRecOn with
  | nil => rfl
  | append_singleton calls call ih =>
      rw [setAll_concat, get_set, lastAccepted?_concat]
      split
      · rfl
      · exact ih

end Calls

/-- What calls on the fields of a layout do to a word: one that is refused changes
nothing, every named field reads the last value accepted for it or what it read at
first, and a bit that belongs to no field that was set is what it was. -/
structure Faithful {Name : Type} [DecidableEq Name] (layout : Layout Name) (word : UInt32)
    (calls : List (Call Name)) : Prop where
  refused : ∀ done call rest, calls = done ++ call :: rest →
    2 ^ (layout.bits call.name).width ≤ call.value.toNat →
    (layout.bits call.name).set? (layout.setAll word done) call.value = none ∧
      layout.setAll word (done ++ [call]) = layout.setAll word done
  reads : ∀ name, (layout.bits name).get (layout.setAll word calls) =
    (layout.lastAccepted? name calls).getD ((layout.bits name).get word)
  keeps : ∀ position,
    (∀ call ∈ calls, layout.Accepts call → ¬(layout.bits call.name).Covers position) →
    (layout.setAll word calls).toNat.testBit position = word.toNat.testBit position

theorem faithful {Name : Type} [DecidableEq Name] (layout : Layout Name) (word : UInt32)
    (calls : List (Call Name)) : layout.Faithful word calls := by
  constructor
  · intro done call rest _ large
    have refuses : ¬layout.Accepts call := Nat.not_lt_of_le large
    exact ⟨BitField.set?_of_not_lt refuses, by rw [setAll_concat, set_of_not_accepts refuses]⟩
  · intro name
    exact get_setAll
  · intro position outside
    exact testBit_setAll outside

end Layout

namespace Instruction

/-- A word is made up of the fields of a register instruction, and both layouts
read the same from the bits that they share: `funct`, and `rs` with `c` as its highest
bit and `rs4` below it. -/
structure Composed (instruction : Instruction) : Prop where
  word_eq : instruction.word.toNat =
    (instruction.register .opcode).toNat * 2 ^ 26 + (instruction.register .rs).toNat * 2 ^ 21 +
      (instruction.register .rt).toNat * 2 ^ 16 + (instruction.register .rd).toNat * 2 ^ 11 +
      (instruction.register .shamt).toNat * 2 ^ 6 + (instruction.register .funct).toNat
  funct_eq : instruction.register .funct = instruction.coprocessor .funct
  rs_eq : (instruction.register .rs).toNat =
    (instruction.coprocessor .rs4).toNat + if instruction.isOperation then 16 else 0

theorem composed (instruction : Instruction) : instruction.Composed := by
  constructor
  · have bound := instruction.word.toNat_lt
    simp only [register, BitField.toNat_get, RegisterField.bits]
    omega
  · rfl
  · have operation : instruction.isOperation ↔ instruction.word.toNat / 2 ^ 25 % 2 ^ 1 ≠ 0 := by
      rw [isOperation, decide_eq_true_iff, Ne, ← UInt32.toNat_inj, coprocessor, BitField.toNat_get]
      rfl
    simp only [operation, register, coprocessor, BitField.toNat_get, RegisterField.bits,
      CoprocessorField.bits]
    split <;> omega

end Instruction

/-- On either layout of the instruction word, checked calls do what calls on a layout
do: the last value accepted for a field is read from it, and all bits that were not
set stay, those without a name among them.  This holds of any calls and so of those
made up to any step; after each of them the word is made up of its fields, and both
layouts agree on it. -/
theorem faithful_layouts (word : UInt32) :
    (∀ calls, registerLayout.Faithful word calls ∧
      (Instruction.mk (registerLayout.setAll word calls)).Composed) ∧
    ∀ calls, coprocessorLayout.Faithful word calls ∧
      (Instruction.mk (coprocessorLayout.setAll word calls)).Composed := by
  constructor
  · intro calls
    exact ⟨registerLayout.faithful word calls, Instruction.composed _⟩
  · intro calls
    exact ⟨coprocessorLayout.faithful word calls, Instruction.composed _⟩

/-- A move to register 12 becomes an operation: the first value is too big for `rs4`,
and `c` keeps its value when `rs4` is set after it. -/
example :
    coprocessorLayout.setAll 0x40886000 [⟨.rs4, 16⟩, ⟨.c, 1⟩, ⟨.rs4, 0⟩] = 0x42086000 := by
  decide

end OpcodeTables.Mips
