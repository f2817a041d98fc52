import HexGesture.Keyed.Insertion
import HexGesture.Operator.Id
import HexGesture.Pattern.Signature

/-! The secrets of one world: which signature reaches which operator. A table keeps its entries in
the order in which their signatures first came in, and no signature twice. -/
namespace HexGesture

structure Secret where
  operator : OperatorId
  start : Direction
  deriving DecidableEq

structure SecretTable where
  seed : UInt64
  entries : List (String × Secret)
  distinct : (entries.map Prod.fst).Nodup
  deriving DecidableEq

namespace SecretTable

@[ext] theorem ext {t u : SecretTable} (hs : t.seed = u.seed) (he : t.entries = u.entries) :
    t = u := by
  cases t; cases u; simp_all

def empty (seed : UInt64) : SecretTable := ⟨seed, [], by simp⟩

def length (t : SecretTable) : Nat := t.entries.length

def get? (t : SecretTable) (signature : String) : Option Secret := t.entries.lookup signature

def contains (t : SecretTable) (signature : String) : Bool := (t.get? signature).isSome

/-- A new signature goes to the end; a known one keeps its place. -/
def insert (t : SecretTable) (signature : String) (s : Secret) : SecretTable :=
  ⟨t.seed, Keyed.put signature s t.entries, Keyed.nodup_put signature s t.distinct⟩

@[simp] theorem seed_insert (t : SecretTable) (signature : String) (s : Secret) :
    (t.insert signature s).seed = t.seed := rfl

def entryOf? (t : SecretTable) (id : OperatorId) : Option (String × Secret) :=
  t.entries.find? fun e => e.2.operator = id

/-- The drawing that reaches an operator, unless the table spells one that cannot be drawn. -/
def patternOf? (t : SecretTable) (id : OperatorId) : Option (Except PatternError Pattern) :=
  (t.entryOf? id).map fun e => Pattern.ofSignature e.1 e.2.start

def operators (t : SecretTable) : List OperatorId := t.entries.map fun e => e.2.operator

/-- The same seed and the same entries in any order. -/
def agrees (t u : SecretTable) : Bool := t.seed == u.seed && t.entries.isPerm u.entries

end SecretTable

end HexGesture
