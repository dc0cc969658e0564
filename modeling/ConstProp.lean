import ConstProp.Bytecode.Body
import ConstProp.Bytecode.Constant
import ConstProp.Bytecode.Descriptor
import ConstProp.Bytecode.Handle
import ConstProp.Bytecode.Instruction
import ConstProp.Bytecode.Label
import ConstProp.Bytecode.Listing
import ConstProp.Bytecode.Member
import ConstProp.Bytecode.Number
import ConstProp.Bytecode.Opcode
import ConstProp.Decimal.Binary
import ConstProp.Decimal.Integer
import ConstProp.Decimal.Positional
import ConstProp.Decimal.Shortest
import ConstProp.Error
import ConstProp.Evaluation.Evaluator
import ConstProp.Evaluation.Policy
import ConstProp.Event
import ConstProp.Fingerprint
import ConstProp.Oracle.Access
import ConstProp.Oracle.Ask
import ConstProp.Oracle.Cache
import ConstProp.Oracle.Intrinsic
import ConstProp.Oracle.Query
import ConstProp.Oracle.Store
import ConstProp.Oracle.Table
import ConstProp.Proofs.Bytecode.ConstantText
import ConstProp.Proofs.Bytecode.LabelSupply
import ConstProp.Proofs.Bytecode.Reading
import ConstProp.Proofs.Bytecode.Relabeling
import ConstProp.Proofs.Evaluation.Answer
import ConstProp.Proofs.Evaluation.Congruence
import ConstProp.Proofs.Evaluation.Expectation
import ConstProp.Proofs.Evaluation.Expression
import ConstProp.Proofs.Evaluation.IntrinsicStage
import ConstProp.Proofs.Evaluation.Program
import ConstProp.Proofs.Evaluation.Reload
import ConstProp.Proofs.Evaluation.Result
import ConstProp.Proofs.Evaluation.Trust
import ConstProp.Proofs.Evaluation.Unconsulted
import ConstProp.Proofs.Evaluation.Workspace
import ConstProp.Proofs.Oracle.Construction
import ConstProp.Proofs.Oracle.Folding
import ConstProp.Proofs.Oracle.Keys
import ConstProp.Proofs.Oracle.Observation
import ConstProp.Proofs.Oracle.Registration
import ConstProp.Proofs.Oracle.Retention
import ConstProp.Proofs.Oracle.Session
import ConstProp.Proofs.Oracle.Signature
import ConstProp.Proofs.Oracle.Transparency
import ConstProp.Proofs.Slot.Agreement
import ConstProp.Proofs.Slot.JoinTree
import ConstProp.Proofs.Slot.ReturnType
import ConstProp.Proofs.Slot.Rooted
import ConstProp.Proofs.Slot.Settling
import ConstProp.Registry
import ConstProp.Slot.Merge
import ConstProp.Slot.Rebuild
import ConstProp.Slot.Type
import ConstProp.Slot.Value
import ConstProp.Text.CaseMapping
import ConstProp.Text.CaseTable
import ConstProp.Text.CodePoint
import ConstProp.Text.CodeUnit
import ConstProp.Text.Escape
import ConstProp.Proofs.Oracle.Declaration
import ConstProp.Proofs.Decimal.Numeral
import ConstProp.Proofs.Oracle.Conversion
import ConstProp.Proofs.Text.CodeUnit
import ConstProp.Proofs.Oracle.TextFolding
import ConstProp.Proofs.Evaluation.ConstantLoad
import ConstProp.Proofs.Oracle.CharacterFolding
import ConstProp.Proofs.Text.CaseMapping
import ConstProp.Proofs.Slot.FieldType
import ConstProp.Proofs.Slot.Counting
import ConstProp.Proofs.Oracle.Chaining
