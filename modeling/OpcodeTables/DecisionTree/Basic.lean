import OpcodeTables.Record

/-!
# Decision trees

A branch tests one field and has an arm for each literal it knows; other
values go to `otherwise`, or fail where there is none.  The arms of a branch
ascend strictly by literal, which `Ordered` states.

`follow` reads fields and walks to a leaf, `leaves` lists the leaves with an
explicit stack of trees, and `depth` is the length of the longest path.
-/

namespace OpcodeTables

/-- What a decision tree ends in: the handler of a record, or the table that
takes over. -/
structure Leaf where
  handler : String
  cycles : UInt32
  layoutIndex : Int
  delegate : Option TableName
  deriving DecidableEq, Repr, Inhabited

/-- Whether another table takes over at the leaf. -/
def Leaf.isProxy (leaf : Leaf) : Bool :=
  leaf.delegate.isSome

/-- The leaf of a record. -/
def Record.leaf (record : Record) : Leaf :=
  ⟨record.handler, record.cycles, record.layoutIndex, record.delegate⟩

/-- A tree of tests on instruction fields. -/
inductive DecisionTree where
  | leaf (target : Leaf)
  | branch (field : Field) (arms : List (Literal × DecisionTree))
      (otherwise : Option DecisionTree)
  deriving Repr, Inhabited

namespace DecisionTree

mutual

/-- Walks to a leaf, `read` giving the value of a field. A branch that has
neither an arm for the value nor an `otherwise` fails and is named. -/
def follow (read : Field → Option Literal) : DecisionTree → Except Field Leaf
  | .leaf target => .ok target
  | .branch field arms otherwise =>
      match followArms read (read field) arms with
      | some answer => answer
      | none => followOtherwise read field otherwise

/-- What the arm for a value answers, if there is such an arm. -/
def followArms (read : Field → Option Literal) (value : Option Literal) :
    List (Literal × DecisionTree) → Option (Except Field Leaf)
  | [] => none
  | (literal, child) :: rest =>
      if value = some literal then some (follow read child)
      else followArms read value rest

/-- What a branch answers for a value that has no arm. -/
def followOtherwise (read : Field → Option Literal) (field : Field) :
    Option DecisionTree → Except Field Leaf
  | none => .error field
  | some child => follow read child

end

/-- Walks to a leaf with the values of a list, one for each field of the
schema. -/
def query (tree : DecisionTree) (values : List Literal) : Option Leaf :=
  (tree.follow fun field => values[field.index]?).toOption

mutual

/-- The number of nodes. -/
def size : DecisionTree → Nat
  | .leaf _ => 1
  | .branch _ arms otherwise => 1 + sizeArms arms + sizeOtherwise otherwise

/-- The number of nodes below some arms. -/
def sizeArms : List (Literal × DecisionTree) → Nat
  | [] => 0
  | (_, child) :: rest => size child + sizeArms rest

/-- The number of nodes below an `otherwise`. -/
def sizeOtherwise : Option DecisionTree → Nat
  | none => 0
  | some child => size child

end

mutual

/-- The number of tests on the longest way to a leaf. A branch counts even
where nothing is below it. -/
def depth : DecisionTree → Nat
  | .leaf _ => 0
  | .branch _ arms otherwise => 1 + max (depthArms arms) (depthOtherwise otherwise)

/-- The greatest depth among some arms. -/
def depthArms : List (Literal × DecisionTree) → Nat
  | [] => 0
  | (_, child) :: rest => max (depth child) (depthArms rest)

/-- The depth of an `otherwise`. -/
def depthOtherwise : Option DecisionTree → Nat
  | none => 0
  | some child => depth child

end

mutual

/-- The leaves in recursive order: those of the arms as they ascend, then
those of `otherwise`. -/
def flatten : DecisionTree → List Leaf
  | .leaf target => [target]
  | .branch _ arms otherwise => flattenArms arms ++ flattenOtherwise otherwise

/-- The leaves below some arms. -/
def flattenArms : List (Literal × DecisionTree) → List Leaf
  | [] => []
  | (_, child) :: rest => flatten child ++ flattenArms rest

/-- The leaves below an `otherwise`. -/
def flattenOtherwise : Option DecisionTree → List Leaf
  | none => []
  | some child => flatten child

end

/-- The subtrees of a branch in the order of its leaves. -/
def children (arms : List (Literal × DecisionTree)) (otherwise : Option DecisionTree) :
    List DecisionTree :=
  arms.map Prod.snd ++ otherwise.toList

/-- The size of all trees of a stack. -/
def sizeStack : List DecisionTree → Nat
  | [] => 0
  | tree :: rest => size tree + sizeStack rest

theorem sizeStack_append (left right : List DecisionTree) :
    sizeStack (left ++ right) = sizeStack left + sizeStack right := by
  induction left with
  | nil => simp [sizeStack]
  | cons tree rest ih =>
      rw [List.cons_append, sizeStack, sizeStack, ih]
      omega

theorem sizeStack_children (arms : List (Literal × DecisionTree))
    (otherwise : Option DecisionTree) :
    sizeStack (children arms otherwise) = sizeArms arms + sizeOtherwise otherwise := by
  rw [children, sizeStack_append]
  congr 1
  · induction arms with
    | nil => rfl
    | cons arm rest ih =>
        rw [List.map_cons, sizeStack, sizeArms, ih]
  · cases otherwise <;> rfl

/-- The leaves of a stack of trees, its top first. A branch gives way to its
subtrees. -/
def leavesOf : List DecisionTree → List Leaf
  | [] => []
  | .leaf target :: stack => target :: leavesOf stack
  | .branch _ arms otherwise :: stack => leavesOf (children arms otherwise ++ stack)
termination_by stack => sizeStack stack
decreasing_by
  · rw [sizeStack, size]
    omega
  · rw [sizeStack_append, sizeStack_children, sizeStack, size]
    omega

/-- The leaves of a tree. -/
def leaves (tree : DecisionTree) : List Leaf :=
  leavesOf [tree]

mutual

/-- At every branch the arms ascend strictly by literal. -/
def Ordered : DecisionTree → Prop
  | .leaf _ => True
  | .branch _ arms otherwise =>
      (arms.map Prod.fst).Pairwise (· < ·) ∧ OrderedArms arms ∧ OrderedOtherwise otherwise

/-- The trees below some arms are ordered. -/
def OrderedArms : List (Literal × DecisionTree) → Prop
  | [] => True
  | (_, child) :: rest => Ordered child ∧ OrderedArms rest

/-- The tree below an `otherwise` is ordered. -/
def OrderedOtherwise : Option DecisionTree → Prop
  | none => True
  | some child => Ordered child

end

/-- Puts an arm among ascending arms, in place of an arm for the same literal. -/
def insertArm (literal : Literal) (child : DecisionTree) :
    List (Literal × DecisionTree) → List (Literal × DecisionTree)
  | [] => [(literal, child)]
  | (other, tree) :: rest =>
      if literal < other then (literal, child) :: (other, tree) :: rest
      else if literal = other then (literal, child) :: rest
      else (other, tree) :: insertArm literal child rest

/-- A branch with the given arms in ascending order. Of two arms for one
literal the later counts. -/
def ofArms (field : Field) (arms : List (Literal × DecisionTree))
    (otherwise : Option DecisionTree) : DecisionTree :=
  .branch field (arms.foldl (fun sorted arm => insertArm arm.1 arm.2 sorted) []) otherwise

end DecisionTree

end OpcodeTables
