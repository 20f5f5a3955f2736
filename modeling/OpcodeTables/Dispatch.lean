import OpcodeTables.DecisionTree.Basic

/-!
# Dispatch

A decision tree lowered to what a lookup function does: run a handler, hand
the instruction to another table's function, or select on a field.  It is
still abstract; writing it as code is left to the rendering modules.

An `Emission` is the dispatch of one table with the handlers and the other
tables that it mentions, in the order in which its arms visit them.
-/

namespace OpcodeTables

/-- A handler with its cost and its place in the handler layout. -/
structure Handler where
  name : String
  cycles : UInt32
  layoutIndex : Int
  deriving DecidableEq, Repr

/-- What a lookup function does with an instruction. -/
inductive Dispatch where
  | run (handler : Handler)
  | delegate (table : TableName)
  /-- Select by the value of a field. Without a fallback any other value is a
  decode failure. -/
  | select (field : Field) (arms : List (Literal × Dispatch)) (fallback : Option Dispatch)
  deriving Repr

/-- The handlers and tables met so far. -/
structure Mentions where
  handlers : List Handler
  delegates : List TableName
  deriving DecidableEq, Repr

namespace Mentions

/-- Nothing met yet. -/
def none : Mentions := ⟨[], []⟩

/-- Notes a handler, which is listed as often as it is met. -/
def addHandler (mentions : Mentions) (handler : Handler) : Mentions :=
  { mentions with handlers := mentions.handlers ++ [handler] }

/-- Notes a table, which is listed once. -/
def addDelegate (mentions : Mentions) (table : TableName) : Mentions :=
  if table ∈ mentions.delegates then mentions
  else { mentions with delegates := mentions.delegates ++ [table] }

end Mentions

/-- The handler of a leaf. -/
def Leaf.toHandler (leaf : Leaf) : Handler :=
  ⟨leaf.handler, leaf.cycles, leaf.layoutIndex⟩

namespace Dispatch

/-- Lowers a leaf. -/
def ofLeaf (leaf : Leaf) (mentions : Mentions) : Dispatch × Mentions :=
  match leaf.delegate with
  | some table => (.delegate table, mentions.addDelegate table)
  | none => (.run leaf.toHandler, mentions.addHandler leaf.toHandler)

mutual

/-- Lowers a tree and adds what it mentions to what was met before it. -/
def ofTree : DecisionTree → Mentions → Dispatch × Mentions
  | .leaf target, mentions => ofLeaf target mentions
  | .branch field arms otherwise, mentions =>
      let (arms, mentions) := ofArms arms mentions
      let (fallback, mentions) := ofOtherwise otherwise mentions
      (.select field arms fallback, mentions)

/-- Lowers arms from the first to the last. -/
def ofArms : List (Literal × DecisionTree) → Mentions → List (Literal × Dispatch) × Mentions
  | [], mentions => ([], mentions)
  | (literal, child) :: rest, mentions =>
      let (child, mentions) := ofTree child mentions
      let (rest, mentions) := ofArms rest mentions
      ((literal, child) :: rest, mentions)

/-- Lowers an `otherwise`. -/
def ofOtherwise : Option DecisionTree → Mentions → Option Dispatch × Mentions
  | none, mentions => (none, mentions)
  | some child, mentions =>
      let (child, mentions) := ofTree child mentions
      (some child, mentions)

end

/-- What is met at a leaf. -/
def meet (mentions : Mentions) (target : Leaf) : Mentions :=
  (ofLeaf target mentions).2

mutual

/-- Lowering meets the leaves in recursive order. -/
theorem mentions_ofTree : (tree : DecisionTree) → (mentions : Mentions) →
    (ofTree tree mentions).2 = tree.flatten.foldl meet mentions
  | .leaf _, _ => rfl
  | .branch _ arms otherwise, mentions => by
      simp only [ofTree, DecisionTree.flatten, List.foldl_append, mentions_ofArms arms,
        mentions_ofOtherwise otherwise]

theorem mentions_ofArms : (arms : List (Literal × DecisionTree)) → (mentions : Mentions) →
    (ofArms arms mentions).2 = (DecisionTree.flattenArms arms).foldl meet mentions
  | [], _ => rfl
  | (_, child) :: rest, mentions => by
      simp only [ofArms, DecisionTree.flattenArms, List.foldl_append, mentions_ofTree child,
        mentions_ofArms rest]

theorem mentions_ofOtherwise : (otherwise : Option DecisionTree) → (mentions : Mentions) →
    (ofOtherwise otherwise mentions).2 =
      (DecisionTree.flattenOtherwise otherwise).foldl meet mentions
  | none, _ => rfl
  | some child, mentions => by
      simp only [ofOtherwise, DecisionTree.flattenOtherwise, mentions_ofTree child]

end

theorem mem_delegates_foldl_meet {leaves : List Leaf} {mentions : Mentions} {table : TableName} :
    table ∈ (leaves.foldl meet mentions).delegates ↔
      table ∈ mentions.delegates ∨ ∃ target ∈ leaves, target.delegate = some table := by
  induction leaves generalizing mentions with
  | nil => simp
  | cons target rest ih =>
      rw [List.foldl_cons, ih]
      cases delegate : target.delegate with
      | none => simp [meet, ofLeaf, delegate, Mentions.addHandler]
      | some other =>
          simp only [meet, ofLeaf, delegate, Mentions.addDelegate]
          split <;> simp_all
          all_goals grind

end Dispatch

/-- The dispatch of one table and what it mentions. -/
structure Emission where
  table : TableName
  body : Dispatch
  /-- Handlers in the order in which the arms visit them. -/
  handlers : List Handler
  /-- Tables delegated to, each once, in the order of their first mention. -/
  delegates : List TableName
  deriving Repr

namespace Emission

/-- Lowers the tree of a table. -/
def ofTree (table : TableName) (tree : DecisionTree) : Emission :=
  let (body, mentions) := Dispatch.ofTree tree .none
  ⟨table, body, mentions.handlers, mentions.delegates⟩

/-- The tables that an emission mentions are those that its tree hands over to. -/
theorem mem_delegates_ofTree {table name : TableName} {tree : DecisionTree} :
    name ∈ (ofTree table tree).delegates ↔
      ∃ target ∈ tree.flatten, target.delegate = some name := by
  simp [ofTree, Dispatch.mentions_ofTree, Dispatch.mem_delegates_foldl_meet, Mentions.none]

/-- The handlers by layout index. Handlers of one index stay in the order in
which the arms visit them. -/
def layout (emission : Emission) : List Handler :=
  emission.handlers.mergeSort fun left right => decide (left.layoutIndex ≤ right.layoutIndex)

end Emission

end OpcodeTables
