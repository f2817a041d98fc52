import HexGesture.Registry.Basic

/-! Rules that pick drawings by their looks. -/
namespace HexGesture

/-- A drawing is picked if any one part of the rule picks it. -/
structure Rule where
  all : Bool
  signatures : List String
  openings : List String
  lengths : List Nat
  starts : List Direction

def Rule.picks (u : Rule) (p : Pattern) : Bool :=
  u.all || u.signatures.contains p.signature ||
    u.openings.any (fun s => s.toList.isPrefixOf p.signature.toList) ||
    u.lengths.contains p.length || u.starts.contains p.start

def Rule.handler {V E : Type} (u : Rule) (name : String) (op : Operator V E) : Handler V E :=
  ⟨name, fun p => if u.picks p then some op else none⟩

end HexGesture
