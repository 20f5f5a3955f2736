import OpcodeTables.Identifier
import OpcodeTables.Literal

/-!
# Field schemas

A schema is the list of fields that a table tests, in the order in which they
are tested.  Field names become accessor names in the emitted code, so they
are plain identifiers, and they are distinct.  Both facts, and that there is
at least one field, are part of the type.
-/

namespace OpcodeTables

/-- One field of a schema: its name and its position. -/
structure Field where
  index : Nat
  name : String
  deriving DecidableEq, Repr, Inhabited

/-- What can be wrong with the shape of a table. -/
inductive SchemaIssue where
  | empty
  | duplicate (name : String)
  | invalidName (name : String)
  | missingColumn (name : String)
  | missingHeader (row : Nat)
  | arity (row found expected : Nat)
  deriving DecidableEq, Repr

namespace SchemaIssue

/-- The issue in words. -/
def message : SchemaIssue → String
  | .empty => "the field schema is empty"
  | .duplicate name => s!"field `{name}` appears twice in the schema"
  | .invalidName name => s!"`{name}` is not a valid field identifier"
  | .missingColumn name => s!"no column named `{name}` in the header row"
  | .missingHeader row => s!"expected a header row at row {row}"
  | .arity row found expected =>
      s!"row {row} has {found} field values, the schema has {expected}"

end SchemaIssue

/-- The fields of a table in the order in which they are tested. -/
structure Schema where
  names : List String
  nonempty : names ≠ []
  nodup : names.Nodup
  identifiers : ∀ name ∈ names, isIdentifier name = true
  deriving DecidableEq

namespace Schema

/-- The first thing wrong with a list of names that follow the names `seen`. -/
def nameIssue (seen : List String) : List String → Option SchemaIssue
  | [] => none
  | name :: rest =>
      if !isIdentifier name then some (.invalidName name)
      else if name ∈ seen then some (.duplicate name)
      else nameIssue (name :: seen) rest

theorem nameIssue_eq_none {seen names : List String} (fine : nameIssue seen names = none) :
    names.Nodup ∧ (∀ name ∈ names, name ∉ seen) ∧
      ∀ name ∈ names, isIdentifier name = true := by
  induction names generalizing seen with
  | nil => simp
  | cons name rest ih =>
      simp only [nameIssue] at fine
      split at fine
      · contradiction
      · split at fine
        · contradiction
        · next valid fresh =>
            obtain ⟨nodup, unseen, identifiers⟩ := ih fine
            refine ⟨List.nodup_cons.mpr ⟨fun member => unseen name member (by simp), nodup⟩, ?_, ?_⟩
            · intro other member
              rcases List.mem_cons.mp member with rfl | member
              · exact fresh
              · exact fun old => unseen other member (List.mem_cons_of_mem _ old)
            · intro other member
              rcases List.mem_cons.mp member with rfl | member
              · simpa using valid
              · exact identifiers other member

/-- Makes a schema from names: the first name that is no identifier or that
came before is the issue, and then that there is none. -/
def ofNames (names : List String) : Except SchemaIssue Schema :=
  match found : nameIssue [] names with
  | some issue => .error issue
  | none =>
      if nonempty : names ≠ [] then
        .ok ⟨names, nonempty, (nameIssue_eq_none found).1, (nameIssue_eq_none found).2.2⟩
      else
        .error .empty

/-- The number of fields. -/
def size (schema : Schema) : Nat :=
  schema.names.length

/-- The fields with their positions. -/
def fields (schema : Schema) : List Field :=
  schema.names.mapIdx Field.mk

/-- The field of a name. -/
def find? (schema : Schema) (name : String) : Option Field :=
  schema.fields.find? (·.name = name)

/-- The first field. -/
def first (schema : Schema) : Field :=
  ⟨0, schema.names.head schema.nonempty⟩

/-- The last field. -/
def last (schema : Schema) : Field :=
  ⟨schema.size - 1, schema.names.getLast schema.nonempty⟩

@[simp] theorem length_fields (schema : Schema) : schema.fields.length = schema.size := by
  simp [fields, size]

end Schema

end OpcodeTables
