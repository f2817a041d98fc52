import HexGesture.Pattern.Basic
import HexGesture.Pattern.Error

/-! A pen draws a pattern stroke by stroke. It refuses to turn straight back and to ink a segment
twice, and it can take its last stroke back. Beside the turns it keeps its last stroke, the
strokes before that one, and the set of strokes whose segments are inked. -/
namespace HexGesture

structure Pen where
  start : Direction
  angles : Array Angle
  head : Stroke
  trail : Array Stroke
  inked : StrokeSet

namespace Pen

def fresh (d : Direction) : Pen :=
  let head : Stroke := ⟨.origin, d⟩
  ⟨d, #[], head, #[], StrokeSet.ink ∅ head⟩

def pattern (t : Pen) : Pattern := ⟨t.start, t.angles.toList⟩

def length (t : Pen) : Nat := t.angles.size

/-- Draw on after a turn, unchecked. -/
def push (t : Pen) (a : Angle) : Pen :=
  let ⟨start, angles, head, trail, inked⟩ := t
  let s := head.onward (head.heading + a)
  ⟨start, angles.push a, s, trail.push head, inked.ink s⟩

/-- The pen at the end of a pattern, which need not be one that it could draw. -/
def ofPattern (p : Pattern) : Pen := p.angles.foldl push (fresh p.start)

/-- The turn towards `d`, if a stroke along `d` may be drawn. -/
def check (t : Pen) (d : Direction) : Except Rejection Angle :=
  let a := d - t.head.heading
  if a = .back then .error .backtrack
  else if t.head.onward d ∈ t.inked then .error .retrace
  else .ok a

def draw (t : Pen) (d : Direction) : Except Rejection (Angle × Pen) :=
  match t.check d with
  | .ok a => .ok (a, t.push a)
  | .error why => .error why

/-- Draw the stroke after a turn. -/
def turn (t : Pen) (a : Angle) : Except Rejection Pen :=
  (t.draw (t.head.heading + a)).map Prod.snd

/-- Take the last stroke back; the first one stays. -/
def pop (t : Pen) : Option (Angle × Pen) :=
  let ⟨start, angles, head, trail, inked⟩ := t
  match trail.back?, angles.back? with
  | some s, some a => some (a, ⟨start, angles.pop, s, trail.pop, inked.wipe head⟩)
  | _, _ => none

@[simp] theorem pattern_fresh (d : Direction) : (fresh d).pattern = ⟨d, []⟩ := rfl

@[simp] theorem pattern_push (t : Pen) (a : Angle) :
    (t.push a).pattern = ⟨t.pattern.start, t.pattern.angles ++ [a]⟩ := by simp [push, pattern]

@[simp] theorem length_push (t : Pen) (a : Angle) : (t.push a).length = t.length + 1 := by
  simp [push, length]

end Pen

namespace Pattern

def check (p : Pattern) (d : Direction) : Except Rejection Angle := (Pen.ofPattern p).check d

def draw (p : Pattern) (d : Direction) : Except Rejection (Angle × Pattern) :=
  match p.check d with
  | .ok a => .ok (a, ⟨p.start, p.angles ++ [a]⟩)
  | .error why => .error why

def pop (p : Pattern) : Option (Angle × Pattern) :=
  p.angles.getLast?.map fun a => (a, ⟨p.start, p.angles.dropLast⟩)

end Pattern

end HexGesture
