import HexGesture.Lattice.Direction
import HexGesture.Random.ChaCha8

/-! Random choices of headings. A chooser names the heading of a first stroke and lays out decks:
the six headings in the order in which they are to be tried. What is known of any chooser is
only that a deck holds each heading once. -/
namespace HexGesture

structure Chooser (σ : Type) where
  first : σ → Direction × σ
  deck : σ → List Direction × σ
  deck_perm : ∀ s, (deck s).1.Perm Direction.all

structure Generator (σ : Type) extends Chooser σ where
  ofSeed : UInt64 → σ

namespace ChaCha8

/-- A number below `n`: the high half of a word times `n`. A low half so large that the next word
could carry into the high half is settled by drawing that word. -/
def below (n : Nat) (hn : 0 < n) (g : ChaCha8) : Fin n × ChaCha8 :=
  let (x, g) := g.draw
  let high := x.toNat * n / 0x100000000
  let low := x.toNat * n % 0x100000000
  have hx : x.toNat * n ≤ (0x100000000 - 1) * n :=
    Nat.mul_le_mul_right n (Nat.le_sub_one_of_lt x.toNat_lt)
  if hl : 0x100000000 - n < low then
    let (y, g) := g.draw
    if 0x100000000 ≤ low + y.toNat * n / 0x100000000 then (⟨high + 1, by omega⟩, g)
    else (⟨high, by omega⟩, g)
  else (⟨high, by omega⟩, g)

/-- Swap every place from `i` on with one not after it; `c` numbers all ways to do so. -/
def shuffleFrom {α : Type} {n : Nat} (c i : Nat) (xs : Vector α n) : Vector α n :=
  if h : i < n then
    have : c % (i + 1) < i + 1 := Nat.mod_lt c (Nat.succ_pos i)
    shuffleFrom (c / (i + 1)) (i + 1) (xs.swap i (c % (i + 1)))
  else xs
termination_by n - i

theorem shuffleFrom_perm {α : Type} {n : Nat} (c i : Nat) (xs : Vector α n) :
    (shuffleFrom c i xs).toList.Perm xs.toList := by
  fun_induction shuffleFrom c i xs with
  | case1 c i xs h _ ih =>
    exact ih.trans (Vector.perm_iff_toList_perm.mp (Vector.swap_perm h (by omega)))
  | case2 => exact List.Perm.refl _

/-- One number below `12!` decides all swaps. -/
def shuffle (g : ChaCha8) (xs : Vector Direction 6) : Vector Direction 6 × ChaCha8 :=
  let c := g.below 479001600 (by decide)
  (shuffleFrom c.1 1 xs, c.2)

theorem shuffle_perm (g : ChaCha8) (xs : Vector Direction 6) :
    (g.shuffle xs).1.toList.Perm xs.toList := shuffleFrom_perm _ _ _

def compass : Vector Direction 6 :=
  #v[.northEast, .east, .southEast, .southWest, .west, .northWest]

/-- A deck is a shuffled compass, tried from its end. -/
def generator : Generator ChaCha8 where
  ofSeed := ofSeed
  first g := let i := g.below 6 (by decide); (Direction.ofFin i.1, i.2)
  deck g := let xs := g.shuffle compass; (xs.1.toList.reverse, xs.2)
  deck_perm g := (List.reverse_perm _).trans (shuffle_perm g compass)

end ChaCha8

end HexGesture
