import HexGesture.Operator.Basic

/-! Operators on floating-point values, for scripts. -/
namespace HexGesture.Operator

variable {E : Type}

def add : Operator Float E := ⟨2, fun xs _ => .ok (.values [xs[0] + xs[1]])⟩

def rejecting (arity : Nat) : Operator Float E :=
  ⟨arity, fun _ _ => .error (.invalidArgument 0 "fixture always fails")⟩

def breaking (arity : Nat) (reason : String) : Operator Float E :=
  ⟨arity, fun _ _ => .error (.executionFailed reason)⟩

def reversing (arity : Nat) (further : List Float) : Operator Float E :=
  ⟨arity, fun xs _ => .ok (.values (xs.toList.reverse ++ further))⟩

def sparkle : Hint := .particles #v[0.0, 64.0, 0.0] #v[0.0, 1.0, 0.0] 0.5 0.3

/-- Schedule `action` for the price given by the argument. A price is cut to a whole number that
fits 64 bits, and what is no number costs nothing. -/
def scheduling (action : E) : Operator Float E :=
  ⟨1, fun xs _ =>
    if xs[0] < 0 then .error (.invalidArgument 0 s!"negative cost {Decimal.ofFloat xs[0]}")
    else .ok (.effect ⟨action, xs[0].toUInt64, [sparkle]⟩)⟩

def surroundings : Operator Float E :=
  ⟨0, fun _ env => .ok (.values
    [env.caster.toFloat, env.world.id.toFloat, env.world.seed.toFloat])⟩

end HexGesture.Operator
