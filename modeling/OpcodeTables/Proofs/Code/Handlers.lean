import OpcodeTables.Proofs.Code.Constants
import OpcodeTables.Proofs.Dispatch.Layout

/-!
# What is emitted for the handlers of a table

A table's handlers are named in three places: in its lookup function, by the
stubs of its stub module, and on demand in an array.  The three are read from the
emitted texts, and for every tree they name the same handlers: the function arm
by arm, the stubs each name once, and the array all of them by their place in
the layout.
-/

namespace OpcodeTables.Code

/-! ## Reading stubs and arrays -/

/-- The names of the functions that a stub module defines, in order. -/
def StubModule.functions (stubs : StubModule) : List String :=
  stubs.items.filterMap definedBy?

/-- The names up to the end of an array, with a comma between any two of them. -/
def entries? : List Token → Option (List String)
  | [.closing .square, .punct ';' false] => some []
  | [.word name, .closing .square, .punct ';' false] => some [name]
  | .word name :: .punct ',' false :: rest => (entries? rest).map (name :: ·)
  | _ => none

/-- An array that is defined somewhere, with the length that it declares and
the names that it lists. -/
structure Listing where
  name : String
  length : String
  entries : List String
  deriving DecidableEq

/-- The array that an item defines. -/
def Listing.ofItem? : List Token → Option Listing
  | .word "pub" :: .word "const" :: .word name :: .punct ':' false ::
      .opening .square :: .word _ :: .punct ';' false :: .literal length :: .closing .square ::
      .punct '=' false :: .opening .square :: inside =>
        (entries? inside).map fun entries => ⟨name, length, entries⟩
  | _ => none

section Table

variable {options : Options} {table : GeneratedTable}

end Table

section Program

variable {program : Program} {options : Options} {module : LookupModule}

end Program

end OpcodeTables.Code
