import HexGesture.Registry.Basic

/-! The table of secrets that a registry derives from a world seed, and when a table from
elsewhere may stand in for it. -/
namespace HexGesture

/-- A table, and the prototypes for which no drawing was found. -/
structure Derivation where
  table : SecretTable
  omitted : List (OperatorId × Exhausted)

namespace Derivation

def empty (seed : UInt64) : Derivation := ⟨.empty seed, []⟩

def events (d : Derivation) : List Event :=
  d.omitted.map fun o => .omitted o.1 d.table.seed o.2

end Derivation

def OperatorId.sameSet (xs ys : List OperatorId) : Bool :=
  xs.all (ys.contains ·) && ys.all (xs.contains ·)

namespace Registry

variable {V E : Type}

/-- Whether a drawing is spoken for: globally, by a secret of the table, or by a handler. -/
def isTaken (r : Registry V E) (t : SecretTable) (p : Pattern) : Bool :=
  (r.catalogue.bound? p.signature).isSome || t.contains p.signature || r.isClaimed p

def placeWith {σ : Type} (r : Registry V E) (g : Generator σ) (d : Derivation) (e : Entry V E) :
    Derivation :=
  match (Search.runWith g r.bounds d.table.seed e.pattern (r.isTaken d.table)).found with
  | .ok p => { d with table := d.table.insert p.signature ⟨e.id, p.start⟩ }
  | .error why => { d with omitted := d.omitted ++ [(e.id, why)] }

/-- Secrets are placed one after another in the order in which they were registered. -/
def deriveWith {σ : Type} (r : Registry V E) (g : Generator σ) (seed : UInt64) : Derivation :=
  r.catalogue.prototypes.foldl (r.placeWith g) (.empty seed)

def derive (r : Registry V E) (seed : UInt64) : Derivation := r.deriveWith ChaCha8.generator seed

/-- Whether an entry can be drawn and then reaches a secret of this registry. -/
def isReachable (r : Registry V E) (e : String × Secret) : Bool :=
  match Pattern.ofSignature e.1 e.2.start with
  | .error _ => false
  | .ok p =>
    (r.catalogue.bound? e.1).isNone && !r.isClaimed p && e.2.operator ∈ r.secretIds

/-- What becomes of a stored table, and the derivation that settled it, if one had to. -/
structure Review where
  usable : Bool
  derivation : Option Derivation

/-- A stored table is usable if every entry is reachable, no two reach one operator, and together
they reach all secrets, or at least those that a fresh derivation places. -/
def review (r : Registry V E) (t : SecretTable) : Review :=
  if !t.entries.all r.isReachable || !decide t.operators.Nodup then ⟨false, none⟩
  else if OperatorId.sameSet t.operators r.secretIds then ⟨true, none⟩
  else
    let d := r.derive t.seed
    ⟨OperatorId.sameSet t.operators d.table.operators, some d⟩

end Registry

end HexGesture
