import HexGesture.Proofs.Admission
import HexGesture.Proofs.Identifier
import HexGesture.Proofs.Numbering
import HexGesture.Registry.Sample

/-! The sample registry. All its entries are admissible together as long as no two of its global
numbers spell the same turns, and then it has just these entries. The first number that spells turns
again is the one after the greatest that fits the bits of an index; if it is to be global too, the
entry of zero stands in its way. -/
namespace HexGesture

variable {V E : Type}

namespace Sample

section Entries

variable (globals : Nat)

variable {globals} {n : Nat}

/-- Why more than 1024 global entries cannot be had. -/
def conflict : SampleError :=
  .refused 1024 (.signatureConflict (Pattern.ofIndex 0).signature (id .global 0) (id .global 1024))

example : conflict.message = "reference registry entry 1024: signature \"wwwwwwwwww\" for " ++
    "bench:global_1024 is already bound to bench:global_0" := by decide

variable {r : Registry Float E}

end Entries

/-! How many entries there are, as a machine counts. -/
section Sums

variable {b : Build} {globals secrets : UInt64}

end Sums

end Sample

end HexGesture
