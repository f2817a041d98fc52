/-! The ChaCha8 stream of 32-bit words that a 64-bit seed starts. Each block scrambles the
constants, the key and a block counter in eight rounds and adds the words it started from. -/
namespace HexGesture

structure ChaCha8 where
  key : Vector UInt32 8
  counter : UInt64
  /-- Words of the last block that are not drawn yet. -/
  pending : List UInt32

namespace ChaCha8

/-- Shifts count modulo 32, so a rotation by nothing is one too. -/
def rotateLeft (x n : UInt32) : UInt32 := (x <<< n) ||| (x >>> (32 - n))

def rotateRight (x n : UInt32) : UInt32 := (x >>> n) ||| (x <<< (32 - n))

abbrev Block := Vector UInt32 16

def quarterRound (x : Block) (a b c d : Fin 16) : Block :=
  let x := x.set a (x[a] + x[b])
  let x := x.set d (rotateLeft (x[d] ^^^ x[a]) 16)
  let x := x.set c (x[c] + x[d])
  let x := x.set b (rotateLeft (x[b] ^^^ x[c]) 12)
  let x := x.set a (x[a] + x[b])
  let x := x.set d (rotateLeft (x[d] ^^^ x[a]) 8)
  let x := x.set c (x[c] + x[d])
  x.set b (rotateLeft (x[b] ^^^ x[c]) 7)

/-- A round down the columns, then one down the diagonals. -/
def doubleRound (x : Block) : Block :=
  let x := quarterRound x 0 4 8 12
  let x := quarterRound x 1 5 9 13
  let x := quarterRound x 2 6 10 14
  let x := quarterRound x 3 7 11 15
  let x := quarterRound x 0 5 10 15
  let x := quarterRound x 1 6 11 12
  let x := quarterRound x 2 7 8 13
  quarterRound x 3 4 9 14

def firstBlock (key : Vector UInt32 8) (counter : UInt64) : Block :=
  #v[0x61707865, 0x3320646e, 0x79622d32, 0x6b206574,
    key[0], key[1], key[2], key[3], key[4], key[5], key[6], key[7],
    counter.toUInt32, (counter >>> 32).toUInt32, 0, 0]

def block (key : Vector UInt32 8) (counter : UInt64) : Block :=
  let x := firstBlock key counter
  let y := doubleRound (doubleRound (doubleRound (doubleRound x)))
  x.zipWith (· + ·) y

def advance (s : UInt64) : UInt64 := s * 6364136223846793005 + 11634580027462260723

/-- A key word from a state: its high bits, turned by its highest. -/
def keyWord (s : UInt64) : UInt32 :=
  rotateRight (((s >>> 18) ^^^ s) >>> 27).toUInt32 (s >>> 59).toUInt32

def keyWords : Nat → UInt64 → List UInt32
  | 0, _ => []
  | n + 1, s => keyWord (advance s) :: keyWords n (advance s)

@[simp] theorem length_keyWords (n : Nat) (s : UInt64) : (keyWords n s).length = n := by
  induction n generalizing s <;> simp_all [keyWords]

def ofSeed (seed : UInt64) : ChaCha8 := ⟨⟨(keyWords 8 seed).toArray, by simp⟩, 0, []⟩

def draw (g : ChaCha8) : UInt32 × ChaCha8 :=
  match g.pending with
  | x :: xs => (x, { g with pending := xs })
  | [] =>
    let b := block g.key g.counter
    (b[0], { g with counter := g.counter + 1, pending := b.toList.tail })

end ChaCha8

end HexGesture
