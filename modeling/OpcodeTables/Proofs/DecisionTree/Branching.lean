import OpcodeTables.DecisionTree.Build
import Mathlib.Data.List.Basic

/-!
# Branching

A branch of a decision tree and a selection of a dispatch pick their arm by
one rule, which `chosen` states for both.  Following a tree is then choosing at
each branch until a leaf is reached, and properties of trees are proved by
induction over what a branch may choose.
-/

namespace OpcodeTables

/-- What a value chooses: its arm if there is one, else what stands for all
other values. -/
def chosen {α : Type} (value : Option Literal) (arms : List (Literal × α))
    (otherwise : Option α) : Option α :=
  ((arms.find? fun arm => value = some arm.1).map Prod.snd).or otherwise

section Chosen

variable {α β : Type} {value : Option Literal} {arms : List (Literal × α)}
  {otherwise : Option α} {child : α}

/-- What is chosen is the child of an arm or stands for all other values. -/
theorem mem_of_chosen (choice : chosen value arms otherwise = some child) :
    (∃ arm ∈ arms, arm.2 = child) ∨ otherwise = some child := by
  rw [chosen] at choice
  cases found : arms.find? fun arm => value = some arm.1 with
  | none =>
      right
      simpa [found] using choice
  | some arm =>
      left
      exact ⟨arm, List.mem_of_find?_eq_some found, by simpa [found] using choice⟩

/-- Changing every child changes what is chosen in the same way. -/
theorem chosen_map (value : Option Literal) (arms : List (Literal × α)) (otherwise : Option α)
    (change : α → β) :
    chosen value (arms.map fun arm => (arm.1, change arm.2)) (otherwise.map change) =
      (chosen value arms otherwise).map change := by
  have same : (fun arm : Literal × β => decide (value = some arm.1)) ∘
      (fun arm : Literal × α => (arm.1, change arm.2)) =
        fun arm => decide (value = some arm.1) := rfl
  rw [chosen, chosen, List.find?_map, same]
  cases arms.find? fun arm => value = some arm.1 <;> simp

/-- A value without an arm chooses what stands for all other values. -/
theorem chosen_of_forall_ne (absent : ∀ arm ∈ arms, value ≠ some arm.1) :
    chosen value arms otherwise = otherwise := by
  have unmatched : (arms.find? fun arm => value = some arm.1) = none := by
    rw [List.find?_eq_none]
    intro arm member
    simpa using absent arm member
  simp [chosen, unmatched]

/-- A value with an arm chooses the child of an arm for that value. -/
theorem chosen_of_mem {literal : Literal} (member : literal ∈ arms.map Prod.fst) :
    ∃ child, (literal, child) ∈ arms ∧ chosen (some literal) arms otherwise = some child := by
  cases found : arms.find? fun arm => some literal = some arm.1 with
  | none =>
      obtain ⟨arm, inside, rfl⟩ := List.mem_map.mp member
      rw [List.find?_eq_none] at found
      have absent := found arm inside
      simp at absent
  | some arm =>
      obtain rfl : literal = arm.1 := by simpa using List.find?_some found
      refine ⟨arm.2, List.mem_of_find?_eq_some found, ?_⟩
      rw [chosen, found]
      rfl

end Chosen

namespace DecisionTree

/-- To prove a property of every tree, prove it of leaves, and of a branch
whose arms and `otherwise` have it. -/
@[elab_as_elim]
theorem induction {motive : DecisionTree → Prop} (leaf : ∀ target, motive (.leaf target))
    (branch : ∀ field arms otherwise, (∀ arm ∈ arms, motive arm.2) →
      (∀ child, otherwise = some child → motive child) →
      motive (.branch field arms otherwise)) (tree : DecisionTree) : motive tree := by
  -- The same of all arms of a list, of an `otherwise`, and of one arm.
  refine @DecisionTree.rec motive (fun arms => ∀ arm ∈ arms, motive arm.2)
    (fun otherwise => ∀ child, otherwise = some child → motive child)
    (fun arm => motive arm.2) leaf branch ?_ ?_ ?_ ?_ ?_ tree
  · intro arm member
    contradiction
  · intro arm rest here below other member
    rcases List.mem_cons.mp member with rfl | member
    · exact here
    · exact below other member
  · intro child same
    contradiction
  · intro child holds other same
    rw [← Option.some.inj same]
    exact holds
  · intro literal child holds
    exact holds

theorem followArms_eq_find? (read : Field → Option Literal) (value : Option Literal)
    (arms : List (Literal × DecisionTree)) :
    followArms read value arms =
      (arms.find? fun arm => value = some arm.1).map fun arm => follow read arm.2 := by
  induction arms with
  | nil => rfl
  | cons arm rest ih =>
      by_cases same : value = some arm.1 <;> simp [followArms, same, ih]

/-- Following a branch is following what the value of its field chooses. -/
theorem follow_branch (read : Field → Option Literal) (field : Field)
    (arms : List (Literal × DecisionTree)) (otherwise : Option DecisionTree) :
    follow read (.branch field arms otherwise) =
      match chosen (read field) arms otherwise with
      | none => .error field
      | some child => follow read child := by
  rw [follow, followArms_eq_find?]
  rw [chosen]
  cases found : arms.find? fun arm => read field = some arm.1 with
  | some arm => simp
  | none => cases otherwise <;> simp [followOtherwise]

/-- Following a tree ends in one of its leaves. -/
theorem mem_flatten_of_follow {read : Field → Option Literal} {tree : DecisionTree}
    {target : Leaf} (followed : tree.follow read = .ok target) : target ∈ tree.flatten := by
  induction tree using DecisionTree.induction with
  | leaf other =>
      obtain rfl : other = target := Except.ok.inj followed
      simp [flatten]
  | branch field arms otherwise below beside =>
      rw [follow_branch] at followed
      rw [flatten, List.mem_append]
      cases choice : chosen (read field) arms otherwise with
      | none => simp [choice] at followed
      | some child =>
          simp only [choice] at followed
          rcases mem_of_chosen choice with ⟨arm, member, rfl⟩ | rfl
          · exact .inl (mem_flattenArms.mpr ⟨arm, member, below arm member followed⟩)
          · exact .inr (beside child rfl followed)

end DecisionTree

end OpcodeTables
