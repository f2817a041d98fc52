import HexGesture.Registry.Worlds

/-! From a drawing to an operator: handlers come first, then global signatures, then the secrets
of the world where it is drawn. -/
namespace HexGesture

inductive Origin
  | handler (name : String)
  | global (id : OperatorId)
  | perWorld (id : OperatorId)
  deriving DecidableEq

def Origin.describe : Origin → String
  | handler name => s!"Special \x7b handler: {Text.quoteText name} \x7d"
  | global id => s!"Global({id.describe})"
  | perWorld id => s!"PerWorld({id.describe})"

structure Resolution (V E : Type) where
  operator : Operator V E
  origin : Origin

def Resolution.describe {V E : Type} (s : Resolution V E) : String :=
  s!"Resolution \x7b arity: {s.operator.arity}, resolved_by: {s.origin.describe}, .. \x7d"

def Pattern.describe (p : Pattern) : String :=
  let angles := ", ".intercalate (p.angles.map Angle.label)
  s!"Pattern \x7b start: {p.start.label}, angles: [{angles}] \x7d"

def Entry.describe {V E : Type} (e : Entry V E) : String :=
  let secret := e.tier == .perWorld
  s!"PatternEntry \x7b prototype: {e.pattern.describe}, is_per_world: {secret}, .. \x7d"

namespace Registry

variable {V E : Type}

def resolve (r : Registry V E) (p : Pattern) (w : World) (m : Memory) :
    Except ResolveError (Resolution V E) × Memory :=
  match r.claim? p with
  | some (name, op) => (.ok ⟨op, .handler name⟩, m.tell [.byHandler name])
  | none =>
    match r.catalogue.globalFor? p.signature with
    | some e => (.ok ⟨e.operator, .global e.id⟩, m.tell [.byGlobal e.id])
    | none =>
      let (t, m) := r.table w m
      match (t.get? p.signature).bind fun s => r.catalogue.find? s.operator with
      | some e => (.ok ⟨e.operator, .perWorld e.id⟩, m.tell [.byWorld e.id w.id])
      | none => (.error (.unrecognized p), m)

end Registry

end HexGesture
