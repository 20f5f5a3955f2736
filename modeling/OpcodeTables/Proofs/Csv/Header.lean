import Mathlib
import OpcodeTables.TableDirectory
import OpcodeTables.Proofs.Code.Acceptance

/-!
# Headers

A header is fit for a table if it names the four columns of the layout and all
fields of a valid schema.  Then reading it gives that schema and for each name
the first column that has it, and in no other case does it give anything.
-/

namespace OpcodeTables

/-- Names that are identifiers and distinct have no issue. -/
theorem Schema.nameIssue_eq_none_of_nodup {seen names : List String} (nodup : names.Nodup)
    (unseen : ∀ name ∈ names, name ∉ seen)
    (identifiers : ∀ name ∈ names, isIdentifier name = true) : nameIssue seen names = none := by
  induction names generalizing seen with
  | nil => rfl
  | cons name rest ih =>
      obtain ⟨fresh, distinct⟩ := List.nodup_cons.mp nodup
      rw [nameIssue, identifiers name List.mem_cons_self, Bool.not_true,
        if_neg Bool.false_ne_true, if_neg (unseen name List.mem_cons_self)]
      apply ih distinct
      · intro other member
        rw [List.mem_cons, not_or]
        exact ⟨ne_of_mem_of_not_mem member fresh, unseen other (List.mem_cons_of_mem _ member)⟩
      · intro other member
        exact identifiers other (List.mem_cons_of_mem _ member)

/-- Every schema is made from its names, and from these alone. -/
theorem Schema.ofNames_eq_ok_iff {names : List String} {schema : Schema} :
    ofNames names = .ok schema ↔ schema.names = names := by
  constructor
  · intro made
    rw [ofNames] at made
    split at made
    · contradiction
    · split at made
      · obtain rfl := Except.ok.inj made
        rfl
      · contradiction
  · rintro rfl
    have fine : nameIssue [] schema.names = none :=
      nameIssue_eq_none_of_nodup schema.nodup (by simp) schema.identifiers
    rw [ofNames]
    split
    · next found => simp [fine] at found
    · rw [dif_pos schema.nonempty]

namespace Csv

/-- A header that has the columns of a layout and of a schema.  The fields of
the schema are those asked for or else the columns left of the mnemonics. -/
structure Layout.Heads (layout : Layout) (header : List String) (fields : Option (List String))
    (schema : Schema) : Prop where
  mnemonic : layout.mnemonic ∈ header
  cycles : layout.cycles ∈ header
  proxy : layout.proxy ∈ header
  index : layout.index ∈ header
  names : schema.names = fields.getD (header.take (header.idxOf layout.mnemonic))
  present : ∀ name ∈ schema.names, name ∈ header

/-- The first columns of the names of a layout and of a schema. -/
def Layout.columns (layout : Layout) (header : List String) (schema : Schema) : Columns where
  fields := schema.names.map header.idxOf
  mnemonic := header.idxOf layout.mnemonic
  cycles := header.idxOf layout.cycles
  proxy := header.idxOf layout.proxy
  index := header.idxOf layout.index

section Header

variable {header : List String} {fields : Option (List String)} {layout : Layout}
  {schema : Schema} {columns : Columns}

theorem columnNamed_eq_ok_iff {name : String} {column : Nat} :
    columnNamed header name = .ok column ↔ name ∈ header ∧ header.idxOf name = column := by
  have first : header.findIdx? (· = name) = some column ↔
      name ∈ header ∧ header.idxOf name = column := by
    rw [List.findIdx?_eq_some_iff_findIdx_eq]
    change column < header.length ∧ header.idxOf name = column ↔ _
    rw [← List.idxOf_lt_length_iff]
    apply and_congr_left
    rintro rfl
    rfl
  rw [← first, columnNamed]
  cases header.findIdx? (· = name) with
  | none => simp
  | some column => simp

/-- The columns of several names. -/
theorem mapM_columnNamed_eq_ok_iff {names : List String} {columns : List Nat} :
    names.mapM (columnNamed header) = .ok columns ↔
      (∀ name ∈ names, name ∈ header) ∧ names.map header.idxOf = columns := by
  rw [mapM_eq_ok_iff]
  simp_rw [columnNamed_eq_ok_iff]
  rw [List.forall₂_and_left, ← List.forall₂_map_left_iff, List.forall₂_eq_eq_eq]

/-- Reading a header succeeds exactly where the header has all that is needed. -/
theorem readHeader_eq_ok_iff :
    readHeader header fields layout = .ok (schema, columns) ↔
      layout.Heads header fields schema ∧ layout.columns header schema = columns := by
  constructor
  · intro read
    obtain ⟨_, atMnemonic, read⟩ := bind_eq_ok.mp read
    obtain ⟨_, made, read⟩ := bind_eq_ok.mp read
    obtain ⟨_, atNames, read⟩ := bind_eq_ok.mp read
    obtain ⟨_, atCycles, read⟩ := bind_eq_ok.mp read
    obtain ⟨_, atProxy, read⟩ := bind_eq_ok.mp read
    obtain ⟨_, atIndex, read⟩ := bind_eq_ok.mp read
    obtain ⟨rfl, rfl⟩ := Prod.mk.inj (Except.ok.inj read)
    obtain ⟨mnemonic, rfl⟩ := columnNamed_eq_ok_iff.mp atMnemonic
    obtain ⟨present, rfl⟩ := mapM_columnNamed_eq_ok_iff.mp atNames
    obtain ⟨cycles, rfl⟩ := columnNamed_eq_ok_iff.mp atCycles
    obtain ⟨proxy, rfl⟩ := columnNamed_eq_ok_iff.mp atProxy
    obtain ⟨index, rfl⟩ := columnNamed_eq_ok_iff.mp atIndex
    exact ⟨⟨mnemonic, cycles, proxy, index, Schema.ofNames_eq_ok_iff.mp made, present⟩, rfl⟩
  · rintro ⟨heads, rfl⟩
    have column {name : String} (present : name ∈ header) :
        columnNamed header name = .ok (header.idxOf name) :=
      columnNamed_eq_ok_iff.mpr ⟨present, rfl⟩
    rw [readHeader, column heads.mnemonic, column heads.cycles, column heads.proxy,
      column heads.index]
    have made := Schema.ofNames_eq_ok_iff.mpr heads.names
    have found := mapM_columnNamed_eq_ok_iff.mpr ⟨heads.present, rfl⟩
    simp only [bind, Except.bind, made, found]
    rfl

end Header

end Csv

end OpcodeTables
