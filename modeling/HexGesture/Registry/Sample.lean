import HexGesture.Pattern.Family
import HexGesture.Registry.Derivation
import HexGesture.Registry.Numeral

/-! A registry of any size, filled with the patterns of numbers and the handler for numerals. -/
namespace HexGesture

namespace Sample

def word : Tier → String
  | .global => "global"
  | .perWorld => "secret"

def path (tier : Tier) (i : Nat) : String :=
  String.ofList ((word tier).toList ++ '_' :: Nat.toDigits 10 i)

theorem fault?_path (tier : Tier) (i : Nat) :
    OperatorId.fault? OperatorId.isPathChar (path tier i) = none := by
  have h : (Nat.toDigits 10 i).all OperatorId.isPathChar = true :=
    List.all_eq_true.mpr fun c hc => by
      simp [OperatorId.isPathChar, OperatorId.isScopeChar,
        Nat.isDigit_of_mem_toDigits (by decide) (by decide) hc]
  have hw : ((word tier).toList ++ ['_']).all OperatorId.isPathChar = true := by
    cases tier <;> decide
  simp only [List.all_append, Bool.and_eq_true, List.all_cons] at hw
  simp [path, OperatorId.fault?, List.all_append, h, hw.1, hw.2.1]

def id (tier : Tier) (i : Nat) : OperatorId :=
  ⟨"bench", path tier i, by decide, fault?_path tier i⟩

end Sample

inductive SampleError
  | overflow
  | refused (entry : Nat) (why : RegisterError)
  deriving DecidableEq

def SampleError.message : SampleError → String
  | overflow => "attempt to add with overflow"
  | refused entry why => s!"reference registry entry {entry}: {why.message}"

/-- Builds differ in what becomes of a sum that no machine word holds. -/
inductive Build
  | checked | wrapping
  deriving DecidableEq

/-- A sum of machine words, unless the build checks for overflow and there is one. -/
def Build.add? (b : Build) (m n : UInt64) : Option UInt64 :=
  if b = .checked ∧ UInt64.size ≤ m.toNat + n.toNat then none else some (m + n)

namespace Sample

variable {E : Type}

def entry (globals i : Nat) : Entry Float E :=
  let tier : Tier := if i < globals then .global else .perWorld
  ⟨id tier i, tier, .ofIndex i, .constant i.toFloat⟩

def addEntry (globals : Nat) (c : Catalogue Float E) (i : Nat) :
    Except SampleError (Catalogue Float E) :=
  match c.register (entry globals i) with
  | (.ok (), c) => .ok c
  | (.error why, _) => .error (.refused i why)

/-- The entries below a number, of which the first are global. -/
def fill (globals n : Nat) : Except SampleError (Registry Float E) := do
  let c ← (List.range n).foldlM (addEntry globals) .empty
  return ⟨⟨.default, .nothing, c, [.numerals "numeral" fun x => x]⟩, by simp [Bounds.default]⟩

/-- How many entries there are to be is computed in machine words. -/
def registry (b : Build) (globals secrets : UInt64) : Except SampleError (Registry Float E) :=
  match b.add? globals secrets with
  | none => .error .overflow
  | some n => fill globals.toNat n.toNat

end Sample

end HexGesture
