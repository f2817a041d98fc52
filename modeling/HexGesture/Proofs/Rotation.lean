import HexGesture.Proofs.Spelling
import Mathlib.Tactic.LinearCombination
import Mathlib.Tactic.Ring

/-! Turning a drawing about the origin. The lattice has six rotations, one for each turn. They take
steps to steps, and so they take strokes to strokes, and a stroke and its reverse to a stroke and
its reverse. The drawing rules ask for nothing else, so two pens of which one is the other turned
about refuse the same letters for the same causes. -/
namespace HexGesture

namespace Direction

@[simp] theorem ordinal_add (d : Direction) (a : Angle) :
    (d + a).ordinal = d.ordinal + a.ordinal := ordinal_ofFin _

theorem add_right_comm (d : Direction) (a b : Angle) : d + a + b = d + b + a := by
  rw [← ordinal_inj]
  simp only [ordinal_add]
  omega

theorem add_right_cancel {d e : Direction} {a : Angle} (h : d + a = e + a) : d = e := by
  rw [← ordinal_inj] at h ⊢
  simp only [ordinal_add] at h
  omega

theorem add_sub_add_right (d e : Direction) (a : Angle) : d + a - (e + a) = d - e := by
  have h : (d + a).ordinal - (e + a).ordinal = d.ordinal - e.ordinal := by
    simp only [ordinal_add]
    omega
  exact congrArg Angle.ofFin h

end Direction

namespace Coord

/-- The point `c`, turned about the origin. It lies as many steps along the turned axes as `c` lies
along the axes. -/
def rotated (c : Coord) (a : Angle) : Coord :=
  let e := (Direction.east + a).offset
  let s := (Direction.southEast + a).offset
  ⟨c.q * e.q + c.r * s.q, c.q * e.r + c.r * s.r⟩

@[simp] theorem rotated_origin (a : Angle) : origin.rotated a = origin := by
  simp [rotated, origin]

theorem rotated_add (b c : Coord) (a : Angle) :
    (b + c).rotated a = b.rotated a + c.rotated a := by
  apply ext <;> simp only [rotated, add_q, add_r] <;> ring

theorem rotated_offset (d : Direction) (a : Angle) : d.offset.rotated a = (d + a).offset := by
  cases d <;> cases a <;> rfl

theorem rotated_step (c : Coord) (d : Direction) (a : Angle) :
    (c.step d).rotated a = (c.rotated a).step (d + a) := by
  rw [step, rotated_add, rotated_offset, step]

/-- The turned axes are as good as the old ones. -/
theorem axes_det (a : Angle) :
    (Direction.east + a).offset.q * (Direction.southEast + a).offset.r -
      (Direction.east + a).offset.r * (Direction.southEast + a).offset.q = 1 := by
  cases a <;> rfl

theorem rotated_inj {b c : Coord} {a : Angle} (h : b.rotated a = c.rotated a) : b = c := by
  have hq : (b.rotated a).q = (c.rotated a).q := congrArg q h
  have hr : (b.rotated a).r = (c.rotated a).r := congrArg r h
  have hdet := axes_det a
  simp only [rotated] at hq hr
  generalize (Direction.east + a).offset = e at hq hr hdet
  generalize (Direction.southEast + a).offset = s at hq hr hdet
  apply ext
  · linear_combination s.r * hq - s.q * hr - (b.q - c.q) * hdet
  · linear_combination e.q * hr - e.r * hq - (b.r - c.r) * hdet

end Coord

namespace Stroke

def rotated (s : Stroke) (a : Angle) : Stroke := ⟨s.source.rotated a, s.heading + a⟩

@[simp] theorem heading_rotated (s : Stroke) (a : Angle) :
    (s.rotated a).heading = s.heading + a := rfl

theorem target_rotated (s : Stroke) (a : Angle) : (s.rotated a).target = s.target.rotated a :=
  (Coord.rotated_step s.source s.heading a).symm

theorem onward_rotated (s : Stroke) (d : Direction) (a : Angle) :
    (s.rotated a).onward (d + a) = (s.onward d).rotated a := by
  rw [onward, target_rotated, rotated, onward]

theorem reversed_rotated (s : Stroke) (a : Angle) :
    (s.rotated a).reversed = s.reversed.rotated a := by
  rw [reversed, target_rotated, heading_rotated, Direction.add_right_comm, rotated, reversed]

theorem rotated_inj {s t : Stroke} {a : Angle} : s.rotated a = t.rotated a ↔ s = t := by
  constructor
  · intro h
    have hsource := Coord.rotated_inj (congrArg source h)
    have hheading := Direction.add_right_cancel (congrArg heading h)
    cases s
    cases t
    simp_all
  · rintro rfl
    rfl

end Stroke

namespace Pen

/-- The pen `u` is where `t` would be if all it drew were turned about the origin. -/
structure Rotated (a : Angle) (t u : Pen) : Prop where
  angles_eq : u.angles = t.angles
  head_eq : u.head = t.head.rotated a
  mem_inked : ∀ s : Stroke, s.rotated a ∈ u.inked ↔ s ∈ t.inked

variable {a : Angle} {t u : Pen}

theorem rotated_mem_ink {xs ys : StrokeSet}
    (h : ∀ s : Stroke, s.rotated a ∈ ys ↔ s ∈ xs) (x s : Stroke) :
    s.rotated a ∈ ys.ink (x.rotated a) ↔ s ∈ xs.ink x := by
  rw [StrokeSet.mem_ink, StrokeSet.mem_ink, Stroke.reversed_rotated, Stroke.rotated_inj,
    Stroke.rotated_inj, h]

theorem rotated_fresh (d : Direction) (a : Angle) : Rotated a (fresh d) (fresh (d + a)) where
  angles_eq := rfl
  head_eq := by simp [fresh, Stroke.rotated]
  mem_inked s := by
    have hhead : (⟨.origin, d + a⟩ : Stroke) = Stroke.rotated ⟨.origin, d⟩ a := by
      simp [Stroke.rotated]
    have hempty : ∀ s : Stroke, s.rotated a ∈ (∅ : StrokeSet) ↔ s ∈ (∅ : StrokeSet) := by simp
    simp only [fresh, hhead]
    exact rotated_mem_ink hempty _ s

theorem Rotated.next (h : Rotated a t u) (b : Angle) : u.next b = (t.next b).rotated a := by
  rw [Pen.next, h.head_eq, Stroke.heading_rotated, Direction.add_right_comm, Stroke.onward_rotated,
    Pen.next]

theorem Rotated.push (h : Rotated a t u) (b : Angle) : Rotated a (t.push b) (u.push b) where
  angles_eq := congrArg (Array.push · b) h.angles_eq
  head_eq := h.next b
  mem_inked s := by
    rw [inked_push, inked_push, h.next]
    exact rotated_mem_ink h.mem_inked _ s

theorem Rotated.check (h : Rotated a t u) (d : Direction) : u.check (d + a) = t.check d := by
  have hturn : d + a - u.head.heading = d - t.head.heading := by
    rw [h.head_eq, Stroke.heading_rotated, Direction.add_sub_add_right]
  have hmem : u.head.onward (d + a) ∈ u.inked ↔ t.head.onward d ∈ t.inked := by
    rw [h.head_eq, Stroke.onward_rotated, h.mem_inked]
  simp only [Pen.check, hturn, hmem]

/-- Two pens do the same if both go on, and one still is the other turned about, or both fail for
one cause. -/
theorem Rotated.turn (h : Rotated a t u) (b : Angle) :
    (∃ t' u', t.turn b = .ok t' ∧ u.turn b = .ok u' ∧ Rotated a t' u') ∨
      ∃ why, t.turn b = .error why ∧ u.turn b = .error why := by
  have hheading : u.head.heading + b = t.head.heading + b + a := by
    rw [h.head_eq, Stroke.heading_rotated, Direction.add_right_comm]
  have hcheck := h.check (t.head.heading + b)
  rw [← hheading] at hcheck
  cases hc : t.check (t.head.heading + b) with
  | ok b' =>
    rw [hc] at hcheck
    refine .inl ⟨t.push b', u.push b', ?_, ?_, h.push b'⟩
    · simp [Pen.turn, draw, hc, Except.map]
    · simp [Pen.turn, draw, hcheck, Except.map]
  | error why =>
    rw [hc] at hcheck
    refine .inr ⟨why, ?_, ?_⟩
    · simp [Pen.turn, draw, hc, Except.map]
    · simp [Pen.turn, draw, hcheck, Except.map]

theorem Rotated.spell (h : Rotated a t u) (c : Char) :
    (∃ t' u', t.spell c = .ok t' ∧ u.spell c = .ok u' ∧ Rotated a t' u') ∨
      ∃ cause, t.spell c = .error cause ∧ u.spell c = .error cause := by
  cases hc : Angle.ofChar? c with
  | none => exact .inr ⟨.unknownCharacter c, by simp [Pen.spell, hc], by simp [Pen.spell, hc]⟩
  | some b =>
    obtain ⟨t', u', ht, hu, h'⟩ | ⟨why, ht, hu⟩ := h.turn b
    · refine .inl ⟨t', u', ?_, ?_, h'⟩
      · simp [Pen.spell, hc, ht, Except.mapError]
      · simp [Pen.spell, hc, hu, Except.mapError]
    · refine .inr ⟨.rejected why, ?_, ?_⟩
      · simp [Pen.spell, hc, ht, Except.mapError]
      · simp [Pen.spell, hc, hu, Except.mapError]

theorem Rotated.spellAll (h : Rotated a t u) (index : Nat) (cs : List Char) :
    (∃ t' u', t.spellAll index cs = .ok t' ∧ u.spellAll index cs = .ok u' ∧ Rotated a t' u') ∨
      ∃ fault, t.spellAll index cs = .error fault ∧ u.spellAll index cs = .error fault := by
  induction cs generalizing t u index with
  | nil => exact .inl ⟨t, u, rfl, rfl, h⟩
  | cons c cs ih =>
    obtain ⟨t', u', ht, hu, h'⟩ | ⟨cause, ht, hu⟩ := h.spell c
    · simp only [Pen.spellAll, ht, hu]
      exact ih h' (index + 1)
    · exact .inr ⟨(index, cause), by simp [Pen.spellAll, ht], by simp [Pen.spellAll, hu]⟩

end Pen

namespace Pattern

/-- Reading a signature from another start moves the start of what is read, and nothing else. -/
theorem ofSignature_start (s : String) (d e : Direction) :
    ofSignature s e = (ofSignature s d).map fun p => ⟨e, p.angles⟩ := by
  have hturned := Pen.rotated_fresh d (e - d)
  rw [Direction.add_sub_left] at hturned
  obtain ⟨t, u, ht, hu, h⟩ | ⟨fault, ht, hu⟩ := hturned.spellAll 0 s.toList
  · have hread : ofSignature s e = .ok u.pattern := by simp [ofSignature, hu]
    have hstart : u.pattern.start = e := (ofSignature_eq_ok_iff.mp hread).1
    have hangles : u.pattern.angles = t.pattern.angles := congrArg Array.toList h.angles_eq
    have hpattern : u.pattern = ⟨e, t.pattern.angles⟩ := by rw [← hstart, ← hangles]
    rw [hread, hpattern]
    simp [ofSignature, ht, Except.map]
  · simp [ofSignature, ht, hu, Except.map]

theorem ofSignature_eq_error {s : String} {d : Direction} {why : PatternError}
    (h : ofSignature s d = .error why) : ∃ index cause, why = .malformed s index cause := by
  rw [ofSignature] at h
  split at h
  · cases h
  · next index cause _ =>
    cases h
    exact ⟨index, cause, rfl⟩

/-- Whether turns can be drawn does not depend on the start. -/
theorem isDrawable_of_isDrawable {as : List Angle} {d : Direction}
    (h : isDrawable ⟨d, as⟩ = true) (e : Direction) : isDrawable ⟨e, as⟩ = true := by
  have hread : ofSignature (signature ⟨d, as⟩) d = .ok ⟨d, as⟩ := ofSignature_signature h
  have hmoved := ofSignature_start (signature ⟨d, as⟩) d e
  rw [hread] at hmoved
  exact (ofSignature_eq_ok_iff.mp hmoved).2.2

/-- A signature is read alike from every start. From all of them it gives the same turns, or from
all of them the same letter is refused for the same cause. So turns that can be drawn from one
start can be drawn from all six. -/
theorem ofSignature_everyStart (s : String) :
    ((∃ as, ∀ d, ofSignature s d = .ok ⟨d, as⟩) ∨
      ∃ index cause, ∀ d, ofSignature s d = .error (.malformed s index cause)) ∧
    ∀ as d, isDrawable ⟨d, as⟩ = true ↔ ∀ e, isDrawable ⟨e, as⟩ = true := by
  refine ⟨?_, ?_⟩
  · cases hs : ofSignature s .northEast with
    | ok p =>
      refine .inl ⟨p.angles, fun d => ?_⟩
      rw [ofSignature_start s .northEast d, hs]
      rfl
    | error why =>
      obtain ⟨index, cause, rfl⟩ := ofSignature_eq_error hs
      refine .inr ⟨index, cause, fun d => ?_⟩
      rw [ofSignature_start s .northEast d, hs]
      rfl
  · intro as d
    constructor
    · exact fun h e => isDrawable_of_isDrawable h e
    · exact fun h => h d

/-- Six turns to the left close a hexagon and then draw its first side again. -/
example : ∀ d ∈ Direction.all,
    ofSignature "qqqqqq" d = .error (.malformed "qqqqqq" 5 (.rejected .retrace)) := by
  decide +kernel

end Pattern

end HexGesture
