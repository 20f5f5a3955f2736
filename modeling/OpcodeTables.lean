import OpcodeTables.Main
import OpcodeTables.Proofs.DecisionTree.Selection
import OpcodeTables.Proofs.Program.Discovery
import OpcodeTables.Proofs.Program.Cycles
import OpcodeTables.Proofs.Program.Refusal
import OpcodeTables.Proofs.Dispatch.Lowering
import OpcodeTables.Proofs.Dispatch.Mentions
import OpcodeTables.Proofs.Program.Chase
import OpcodeTables.Proofs.Csv.Faults
import OpcodeTables.Proofs.Program.Evaluation
import OpcodeTables.Proofs.Code.Rendering
import OpcodeTables.Proofs.Code.Acceptance
import OpcodeTables.Proofs.DecisionTree.Ambiguity
import OpcodeTables.Proofs.DecisionTree.RowOrder
import OpcodeTables.Proofs.DecisionTree.Tested
import OpcodeTables.Proofs.Program.Answers
import OpcodeTables.Proofs.Program.RowOrder
import OpcodeTables.Proofs.Code.Definitions
import OpcodeTables.Proofs.Csv.Names
import OpcodeTables.Proofs.Program.Origins
import OpcodeTables.Proofs.Code.Tables
import OpcodeTables.Proofs.Code.Hygiene
import OpcodeTables.Proofs.Files.Writing
import OpcodeTables.Proofs.CommandLine.Writing
import OpcodeTables.Proofs.CommandLine.Generation
import OpcodeTables.Proofs.DecisionTree.Subtrees
import OpcodeTables.Proofs.DecisionTree.Collapsing
import OpcodeTables.Proofs.DecisionTree.Ordering
import OpcodeTables.Proofs.Dispatch.Layout
import OpcodeTables.Proofs.Records.Kinds
import OpcodeTables.Proofs.DecisionTree.WellFormed
import OpcodeTables.Proofs.Code.Constants
import OpcodeTables.Proofs.DecisionTree.Conflict
import OpcodeTables.Proofs.Program.FirstFault
import OpcodeTables.Proofs.Program.Endless
import OpcodeTables.Proofs.Csv.Reading
import OpcodeTables.Proofs.Text.Literals
import OpcodeTables.Proofs.CommandLine.Words
import OpcodeTables.Proofs.Csv.Columns
import OpcodeTables.Proofs.Code.Handlers
import OpcodeTables.Proofs.Records.Validation
import OpcodeTables.Proofs.DecisionTree.Reading
import OpcodeTables.Proofs.Dispatch.Traversal
import OpcodeTables.Proofs.Mips.Layout
