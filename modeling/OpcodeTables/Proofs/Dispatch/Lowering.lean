import OpcodeTables.Dispatch
import OpcodeTables.Proofs.DecisionTree.Branching

/-!
# Lowering

What a tree is lowered to does not depend on what was met before it: a branch
becomes a selection on the same field whose arms are the lowered arms, in their
order.
-/

namespace OpcodeTables.Dispatch

/-- What a tree is lowered to. -/
def lower (tree : DecisionTree) : Dispatch :=
  (ofTree tree .none).1

mutual

theorem fst_ofTree : (tree : DecisionTree) → (mentions : Mentions) →
    (ofTree tree mentions).1 = lower tree
  | .leaf target, mentions => by
      cases delegate : target.delegate <;> simp [lower, ofTree, ofLeaf, delegate]
  | .branch _ arms otherwise, _ => by
      simp only [lower, ofTree, fst_ofArms arms, fst_ofOtherwise otherwise]

theorem fst_ofArms : (arms : List (Literal × DecisionTree)) → (mentions : Mentions) →
    (ofArms arms mentions).1 = arms.map fun arm => (arm.1, lower arm.2)
  | [], _ => rfl
  | (_, child) :: rest, mentions => by
      simp only [ofArms, fst_ofTree child, fst_ofArms rest, List.map_cons]

theorem fst_ofOtherwise : (otherwise : Option DecisionTree) → (mentions : Mentions) →
    (ofOtherwise otherwise mentions).1 = otherwise.map lower
  | none, _ => rfl
  | some child, mentions => by
      simp only [ofOtherwise, fst_ofTree child, Option.map_some]

end

theorem lower_handler {target : Leaf} (stays : target.delegate = none) :
    lower (.leaf target) = .run target.toHandler := by
  simp [lower, ofTree, ofLeaf, stays]

theorem lower_proxy {target : Leaf} {next : TableName} (leaves : target.delegate = some next) :
    lower (.leaf target) = .delegate next := by
  simp [lower, ofTree, ofLeaf, leaves]

theorem lower_branch (field : Field) (arms : List (Literal × DecisionTree))
    (otherwise : Option DecisionTree) :
    lower (.branch field arms otherwise) =
      .select field (arms.map fun arm => (arm.1, lower arm.2)) (otherwise.map lower) := by
  simp only [lower, ofTree]
  rw [fst_ofArms, fst_ofOtherwise]
  rfl

end OpcodeTables.Dispatch
