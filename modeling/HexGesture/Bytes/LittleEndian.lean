/-! Numbers as bytes, least byte first. -/
namespace HexGesture

/-- The lowest `k` bytes of a number. -/
def littleEndian : Nat → Nat → List UInt8
  | 0, _ => []
  | k + 1, n => n.toUInt8 :: littleEndian k (n / 256)

def ofLittleEndian : List UInt8 → Nat
  | [] => 0
  | b :: bs => b.toNat + 256 * ofLittleEndian bs

@[simp] theorem length_littleEndian (k n : Nat) : (littleEndian k n).length = k := by
  induction k generalizing n <;> simp_all [littleEndian]

theorem littleEndian_ofLittleEndian (bs : List UInt8) :
    littleEndian bs.length (ofLittleEndian bs) = bs := by
  induction bs with
  | nil => rfl
  | cons b bs ih =>
    have hb := b.toNat_lt
    have hq : (b.toNat + 256 * ofLittleEndian bs) / 256 = ofLittleEndian bs := by omega
    simp only [ofLittleEndian, List.length_cons, littleEndian, hq, ih, List.cons.injEq, and_true]
    apply UInt8.toNat_inj.mp
    simp

def bytes32 (n : UInt32) : List UInt8 := littleEndian 4 n.toNat

def bytes64 (n : UInt64) : List UInt8 := littleEndian 8 n.toNat

end HexGesture
