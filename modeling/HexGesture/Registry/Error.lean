import HexGesture.Operator.Id
import HexGesture.Pattern.Basic
import HexGesture.Pattern.Error

/-! Why a registration, a drawing or a question about an operator is turned down. -/
namespace HexGesture

inductive RegisterError
  | duplicateOperator (id : OperatorId)
  | signatureConflict (signature : String) (existing id : OperatorId)
  | malformedPattern (id : OperatorId) (signature : String)
  | emptyPrototype (id : OperatorId)
  deriving DecidableEq

def RegisterError.message : RegisterError → String
  | duplicateOperator id => s!"operator {id.display} is already registered"
  | signatureConflict signature existing id =>
    s!"signature \"{signature}\" for {id.display} is already bound to {existing.display}"
  | malformedPattern id signature =>
    s!"pattern \"{signature}\" for {id.display} is not drawable"
  | emptyPrototype id => s!"per-world prototype for {id.display} has no angles"

inductive BoundsError
  | zeroWalkBudget
  deriving DecidableEq

def BoundsError.message : BoundsError → String
  | zeroWalkBudget => "obfuscator max_walk_steps must be at least 1"

inductive ResolveError
  | unrecognized (p : Pattern)
  deriving DecidableEq

def ResolveError.message : ResolveError → String
  | unrecognized p => s!"unrecognized pattern {p.display}"

inductive LookupError
  | unknownOperator (id : OperatorId)
  | invalidPattern (why : PatternError)
  deriving DecidableEq

def LookupError.message : LookupError → String
  | unknownOperator id => s!"unknown operator {id.display}"
  | invalidPattern why => s!"stored pattern is invalid: {why.message}"

end HexGesture
