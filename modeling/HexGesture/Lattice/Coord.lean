import HexGesture.Lattice.Direction

/-! Axial coordinates of lattice points. One step along a heading adds its offset; the distance
of two points is the number of steps between them. -/
namespace HexGesture

structure Coord where
  q : Int
  r : Int
  deriving DecidableEq

namespace Coord

def origin : Coord := ⟨0, 0⟩

instance : Add Coord := ⟨fun a b => ⟨a.q + b.q, a.r + b.r⟩⟩
instance : Neg Coord := ⟨fun a => ⟨-a.q, -a.r⟩⟩

@[simp] theorem add_q (a b : Coord) : (a + b).q = a.q + b.q := rfl
@[simp] theorem add_r (a b : Coord) : (a + b).r = a.r + b.r := rfl
@[simp] theorem neg_q (a : Coord) : (-a).q = -a.q := rfl
@[simp] theorem neg_r (a : Coord) : (-a).r = -a.r := rfl

@[ext] theorem ext {a b : Coord} (hq : a.q = b.q) (hr : a.r = b.r) : a = b := by
  cases a; cases b; simp_all

end Coord

/-- The neighbour of the origin that lies in this direction. -/
def Direction.offset : Direction → Coord
  | northEast => ⟨1, -1⟩ | east => ⟨1, 0⟩ | southEast => ⟨0, 1⟩
  | southWest => ⟨-1, 1⟩ | west => ⟨-1, 0⟩ | northWest => ⟨0, -1⟩

@[simp] theorem Direction.offset_add_back (d : Direction) :
    (d + Angle.back).offset = -d.offset := by cases d <;> rfl

namespace Coord

def step (c : Coord) (d : Direction) : Coord := c + d.offset

@[simp] theorem step_step_back (c : Coord) (d : Direction) :
    (c.step d).step (d + Angle.back) = c := by
  apply ext <;> simp only [step, Direction.offset_add_back, add_q, add_r, neg_q, neg_r] <;> omega

def neighbours (c : Coord) : List Coord := Direction.all.map c.step

/-- The points reached one after another, the start left out. -/
def walk : Coord → List Direction → List Coord
  | _, [] => []
  | c, d :: ds => c.step d :: walk (c.step d) ds

def distance (a b : Coord) : Nat :=
  let dq := a.q - b.q
  let dr := a.r - b.r
  max (max dq.natAbs dr.natAbs) (dq + dr).natAbs

def display (c : Coord) : String := s!"({c.q}, {c.r})"

end Coord

end HexGesture
