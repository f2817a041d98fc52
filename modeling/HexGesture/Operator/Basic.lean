import HexGesture.Decimal.Shortest

/-! Operators on a stack of values. An operator takes exactly `arity` values and either gives
values back or schedules an effect, which acts only when it is cast. `V` is the type of values
and `E` the type of what an effect does. Stacks list their deepest value first. -/
namespace HexGesture

structure World where
  id : UInt64
  seed : UInt64
  deriving DecidableEq

structure Env where
  caster : UInt64
  world : World
  deriving DecidableEq

inductive OperatorError
  | invalidArgument (index : Nat) (reason : String)
  | executionFailed (reason : String)
  deriving DecidableEq

def OperatorError.message : OperatorError → String
  | invalidArgument index reason => s!"invalid argument {index}: {reason}"
  | executionFailed reason => s!"execution failed: {reason}"

inductive CallError
  | arityMismatch (expected found : Nat)
  | operator (why : OperatorError)
  deriving DecidableEq

def CallError.message : CallError → String
  | arityMismatch expected found => s!"operator expects {expected} argument(s), got {found}"
  | operator why => s!"operator failed: {why.message}"

/-- What a player sees when an effect is cast. -/
inductive Hint
  | particles (origin direction : Vector Float 3) (fuzziness spread : Float)

def Hint.describe : Hint → String
  | particles origin direction fuzziness spread =>
    let triple (xs : Vector Float 3) := ", ".intercalate (xs.toList.map Decimal.withPoint)
    s!"Particles \x7b origin: [{triple origin}], direction: [{triple direction}], " ++
      s!"fuzziness: {Decimal.withPoint fuzziness}, spread: {Decimal.withPoint spread} \x7d"

structure Scheduled (E : Type) where
  action : E
  cost : UInt64
  hints : List Hint

def Scheduled.describe {E : Type} (s : Scheduled E) : String :=
  let hints := ", ".intercalate (s.hints.map Hint.describe)
  s!"ScheduledEffect \x7b cost: {s.cost.toNat}, hints: [{hints}], .. \x7d"

inductive Outcome (V E : Type)
  | values (vs : List V)
  | effect (s : Scheduled E)

structure Operator (V E : Type) where
  arity : Nat
  execute : Vector V arity → Env → Except OperatorError (Outcome V E)

namespace Operator

variable {V E : Type}

def call (op : Operator V E) (args : List V) (env : Env) : Except CallError (Outcome V E) :=
  if h : args.length = op.arity then
    match op.execute ⟨args.toArray, by simpa using h⟩ env with
    | .ok out => .ok out
    | .error why => .error (.operator why)
  else .error (.arityMismatch op.arity args.length)

/-- Run on the topmost values of a stack. A stack that is too short stays as it is; otherwise the
arguments are gone, also when the operator fails. -/
def runOn (op : Operator V E) (stack : List V) (env : Env) :
    Except CallError (Option (Scheduled E)) × List V :=
  if stack.length < op.arity then (.error (.arityMismatch op.arity stack.length), stack)
  else
    let kept := stack.take (stack.length - op.arity)
    match op.call (stack.drop (stack.length - op.arity)) env with
    | .ok (.values vs) => (.ok none, kept ++ vs)
    | .ok (.effect s) => (.ok (some s), kept)
    | .error why => (.error why, kept)

def constant (v : V) : Operator V E := ⟨0, fun _ _ => .ok (.values [v])⟩

end Operator

end HexGesture
