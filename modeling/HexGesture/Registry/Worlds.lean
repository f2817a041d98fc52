import HexGesture.Registry.Derivation

/-! What a registry remembers of worlds. A world's table is made when it is first asked for: read
from the store if what is kept there is usable, otherwise derived afresh and saved. It then stays
at hand until the world is unloaded, whatever seed later questions name. -/
namespace HexGesture

structure Memory where
  cache : Std.ExtTreeMap UInt64 SecretTable
  store : Store
  log : Array Event

namespace Memory

def empty : Memory := ⟨∅, .empty, #[]⟩

def tell (m : Memory) (events : List Event) : Memory := { m with log := m.log ++ events }

end Memory

/-- What is found in the store for a world. -/
inductive Verdict
  | usable (t : SecretTable)
  | otherSeed (stored : UInt64)
  | stale
  | absent
  | unreadable (why : SaveError)

def Verdict.event (w : World) : Verdict → Event
  | usable t => .loaded w.id t.length
  | otherSeed stored => .otherSeed w.id stored w.seed
  | stale => .stale w.id
  | absent => .absent w.id
  | unreadable why => .unreadable w.id why

namespace Registry

variable {V E : Type}

/-- A verdict, after what was reported on the way to it. -/
def judge (r : Registry V E) (w : World) :
    Except SaveError (Option SecretTable) → Verdict × List Event
  | .error why => (.unreadable why, [])
  | .ok none => (.absent, [])
  | .ok (some t) =>
    if t.seed ≠ w.seed then (.otherSeed t.seed, [])
    else
      let v := r.review t
      (if v.usable then .usable t else .stale, (v.derivation.map Derivation.events).getD [])

/-- Derive a table and save it; one that cannot be saved is used all the same. -/
def rebuild (r : Registry V E) (w : World) (m : Memory) : SecretTable × Memory :=
  let d := r.derive w.seed
  let (saved, store) := r.backing.save m.store w.id d.table
  let failure := match saved with
    | .ok () => []
    | .error why => [Event.unsaved w.id why]
  (d.table, { m with store }.tell (d.events ++ failure ++ [Event.built w.id d.table.length]))

def fetch (r : Registry V E) (w : World) (m : Memory) : SecretTable × Memory :=
  let (loaded, store) := r.backing.load m.store w.id
  let (verdict, events) := r.judge w loaded
  let m := { m with store }.tell (events ++ [verdict.event w])
  match verdict with
  | .usable t => (t, m)
  | _ => r.rebuild w m

def table (r : Registry V E) (w : World) (m : Memory) : SecretTable × Memory :=
  match m.cache[w.id]? with
  | some t => (t, m)
  | none =>
    let (t, m) := r.fetch w m
    (t, { m with cache := m.cache.insert w.id t })

def secretPattern (r : Registry V E) (w : World) (id : OperatorId) (m : Memory) :
    Except LookupError Pattern × Memory :=
  let (t, m) := r.table w m
  match t.patternOf? id with
  | some (.ok p) => (.ok p, m)
  | some (.error why) => (.error (.invalidPattern why), m)
  | none => (.error (.unknownOperator id), m)

end Registry

def Memory.unload (m : Memory) (world : UInt64) : Bool × Memory :=
  if m.cache.contains world then
    (true, { m with cache := m.cache.erase world }.tell [.unloaded world])
  else (false, m)

end HexGesture
