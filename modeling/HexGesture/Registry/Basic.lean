import HexGesture.Registry.Catalogue
import HexGesture.Registry.Event
import HexGesture.Save.Store

/-! A registry is drafted entry by entry and then frozen. Beside its catalogue it has handlers,
which may claim any drawing before the catalogue is asked. -/
namespace HexGesture

structure Handler (V E : Type) where
  name : String
  claim : Pattern → Option (Operator V E)

structure Draft (V E : Type) where
  bounds : Bounds
  backing : Backing
  catalogue : Catalogue V E
  handlers : List (Handler V E)

namespace Draft

variable {V E : Type}

def new (bounds : Bounds) (backing : Backing) : Draft V E := ⟨bounds, backing, .empty, []⟩

def register (d : Draft V E) (e : Entry V E) : Except RegisterError Unit × Draft V E :=
  let (answer, c) := d.catalogue.register e
  (answer, { d with catalogue := c })

/-- Handlers are asked in the order in which they came. -/
def addHandler (d : Draft V E) (h : Handler V E) : Draft V E :=
  { d with handlers := d.handlers ++ [h] }

end Draft

structure Registry (V E : Type) extends Draft V E where
  walkable : bounds.maxSteps ≠ 0

def Draft.freeze {V E : Type} (d : Draft V E) : Except BoundsError (Registry V E) :=
  if h : d.bounds.maxSteps = 0 then .error .zeroWalkBudget else .ok ⟨d, h⟩

namespace Registry

variable {V E : Type}

def frozenEvent (r : Registry V E) : Event :=
  .frozen r.catalogue.length r.catalogue.index.length r.catalogue.prototypes.length
    r.handlers.length

def length (r : Registry V E) : Nat := r.catalogue.length

def secretIds (r : Registry V E) : List OperatorId := r.catalogue.prototypes.map Entry.id

/-- The first claim on a drawing, with the name of the handler that makes it. -/
def claim? (r : Registry V E) (p : Pattern) : Option (String × Operator V E) :=
  r.handlers.findSome? fun h => (h.claim p).map (h.name, ·)

def isClaimed (r : Registry V E) (p : Pattern) : Bool := (r.claim? p).isSome

def lookup (r : Registry V E) (id : OperatorId) : Except LookupError (Entry V E) :=
  match r.catalogue.find? id with
  | some e => .ok e
  | none => .error (.unknownOperator id)

end Registry

end HexGesture
