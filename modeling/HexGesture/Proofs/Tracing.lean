import HexGesture.Proofs.Drawing

/-! A pen in use. Whatever a pen is asked to do, what it keeps beside its turns is what following
those turns again would give: its strokes and its ink are those of its pattern. That rests on the
drawing rules, for taking a stroke back wipes its segment and so must be the only stroke there.
That a stroke just drawn can be taken back without a trace needs less: only that with a stroke
its reverse is inked, which no pen ever loses. -/
namespace HexGesture

namespace Direction

theorem sub_eq_iff {d e : Direction} {a : Angle} : d - e = a ↔ d = e + a := by
  constructor
  · rintro rfl
    exact (add_sub_left e d).symm
  · rintro rfl
    exact add_sub_cancel e a

end Direction

namespace StrokeSet

theorem Symmetric.wipe {xs : StrokeSet} (h : xs.Symmetric) (s : Stroke) :
    (xs.wipe s).Symmetric := by
  intro t ht
  obtain ⟨hne, hne', hmem⟩ := mem_wipe.mp ht
  refine mem_wipe.mpr ⟨?_, ?_, h t hmem⟩
  · exact fun heq => hne' (Stroke.reversed_eq_iff.mp heq)
  · exact fun heq => hne (by simpa using Stroke.reversed_eq_iff.mp heq)

end StrokeSet

namespace Pattern

theorem getLast?_positionsFrom (s : Stroke) (points : List Coord) (done : List Stroke)
    (as : List Angle) : (positionsFrom s.source s.heading points as).getLast? =
      (strokesFrom s done as).getLast?.map Stroke.target := by
  induction as generalizing s points done with
  | nil => simp [positionsFrom, strokesFrom, Stroke.target]
  | cons a as ih => exact ih (s.onward (s.heading + a)) (s.source :: points) (s :: done)

theorem getLast?_positions (p : Pattern) :
    (p.positions .origin).getLast? = p.strokes.getLast?.map Stroke.target :=
  getLast?_positionsFrom ⟨.origin, p.start⟩ [] [] p.angles

theorem getLast?_strokesFrom_heading (s : Stroke) (done : List Stroke) (as : List Angle) :
    (strokesFrom s done as).getLast?.map Stroke.heading = some (as.foldl (· + ·) s.heading) := by
  induction as generalizing s done with
  | nil => simp [strokesFrom]
  | cons a as ih => exact ih (s.onward (s.heading + a)) (s :: done)

theorem getLast?_strokes_heading (p : Pattern) :
    p.strokes.getLast?.map Stroke.heading = some p.finalHeading :=
  getLast?_strokesFrom_heading ⟨.origin, p.start⟩ [] p.angles

end Pattern

namespace Pen

def tryDraw (t : Pen) (d : Direction) : Bool × Pen :=
  match t.draw d with
  | .ok (_, u) => (true, u)
  | .error _ => (false, t)

inductive Call
  | check (d : Direction)
  | draw (d : Direction)
  | tryDraw (d : Direction)
  | pop

/-- The pen after a call. A check changes nothing, nor does a call that fails. -/
def call (t : Pen) : Call → Pen
  | .check _ => t
  | .draw d =>
    match t.draw d with
    | .ok (_, u) => u
    | .error _ => t
  | .tryDraw d => (t.tryDraw d).2
  | .pop =>
    match t.pop with
    | some (_, u) => u
    | none => t

def calls (t : Pen) (cs : List Call) : Pen := cs.foldl call t

theorem draw_eq_ok_iff {t u : Pen} {d : Direction} {a : Angle} :
    t.draw d = .ok (a, u) ↔ t.check d = .ok a ∧ u = t.push a := by
  rw [draw]
  cases t.check d with
  | error why => simp
  | ok b =>
    simp only [Except.ok.injEq, Prod.mk.injEq]
    constructor
    · rintro ⟨rfl, rfl⟩
      exact ⟨rfl, rfl⟩
    · rintro ⟨rfl, rfl⟩
      exact ⟨rfl, rfl⟩

/-- A call leaves the pen as it is, draws a stroke that the rules allow, or takes the last one
back. -/
theorem call_cases (t : Pen) (c : Call) :
    t.call c = t ∨ (∃ d a, t.check d = .ok a ∧ t.call c = t.push a) ∨
      ∃ a u, t.pop = some (a, u) ∧ t.call c = u := by
  cases c with
  | check d => exact .inl rfl
  | draw d =>
    cases hd : t.draw d with
    | error why => exact .inl (by simp [call, hd])
    | ok r =>
      obtain ⟨hcheck, hpush⟩ := draw_eq_ok_iff.mp hd
      exact .inr (.inl ⟨d, r.1, hcheck, by simp [call, hd, hpush]⟩)
  | tryDraw d =>
    cases hd : t.draw d with
    | error why => exact .inl (by simp [call, tryDraw, hd])
    | ok r =>
      obtain ⟨hcheck, hpush⟩ := draw_eq_ok_iff.mp hd
      exact .inr (.inl ⟨d, r.1, hcheck, by simp [call, tryDraw, hd, hpush]⟩)
  | pop =>
    cases hp : t.pop with
    | none => exact .inl (by simp [call, hp])
    | some r => exact .inr (.inr ⟨r.1, r.2, rfl, by simp [call, hp]⟩)

/-! A pen that drew by the rules keeps to them, so it always is where its own turns lead. -/

theorem lawful_ofPattern {p : Pattern} (h : p.isDrawable = true) : (ofPattern p).Lawful where
  traced := by rw [pattern_ofPattern]
  drawable := by rw [pattern_ofPattern, h]

theorem Lawful.call {t : Pen} (h : t.Lawful) (c : Call) : (t.call c).Lawful := by
  obtain hsame | ⟨d, a, hcheck, hpush⟩ | ⟨a, u, hpop, hu⟩ := t.call_cases c
  · rw [hsame]
    exact h
  · obtain ⟨-, hnew⟩ := (check_eq_ok_iff h.sighted d a).mp hcheck
    rw [hpush]
    exact h.push hnew
  · rw [hu]
    exact (h.eq_push_of_pop hpop).1

theorem Lawful.calls {t : Pen} (h : t.Lawful) (cs : List Call) : (t.calls cs).Lawful := by
  induction cs generalizing t with
  | nil => exact h
  | cons c cs ih => exact ih (h.call c)

theorem Lawful.strokes_pattern {t : Pen} (h : t.Lawful) : t.pattern.strokes = t.strokes := by
  rw [← strokes_ofPattern, h.traced]

theorem Lawful.inked_pattern {t : Pen} (h : t.Lawful) : t.pattern.inked = t.inked := by
  rw [← inked_ofPattern, h.traced]

theorem getLast?_strokes (t : Pen) : t.strokes.getLast? = some t.head := List.getLast?_concat

theorem Lawful.getLast?_strokes {t : Pen} (h : t.Lawful) :
    t.pattern.strokes.getLast? = some t.head := by
  rw [h.strokes_pattern, t.getLast?_strokes]

theorem Lawful.finalHeading_pattern {t : Pen} (h : t.Lawful) :
    t.pattern.finalHeading = t.head.heading := by
  have hlast := t.pattern.getLast?_strokes_heading
  rw [h.getLast?_strokes] at hlast
  exact (Option.some.inj hlast).symm

theorem Lawful.check_pattern {t : Pen} (h : t.Lawful) (d : Direction) :
    t.pattern.check d = t.check d := by rw [Pattern.check, h.traced]

theorem Lawful.check_eq {t : Pen} (h : t.Lawful) (d : Direction) :
    t.check d =
      if d = t.pattern.finalHeading + Angle.back then .error .backtrack
      else if (⟨t.head.target, d⟩ : Stroke) ∈ t.pattern.inked then .error .retrace
      else .ok (d - t.pattern.finalHeading) := by
  simp only [check, Direction.sub_eq_iff, h.finalHeading_pattern, h.inked_pattern]
  rfl

/-! No pen inks or wipes a stroke without its reverse, not even one that follows a pattern which
it could not draw. -/

theorem symmetric_of_pop {t u : Pen} {a : Angle} (h : t.inked.Symmetric)
    (hp : t.pop = some (a, u)) : u.inked.Symmetric := by
  rw [pop] at hp
  split at hp
  · cases hp
    exact h.wipe t.head
  · cases hp

theorem symmetric_call {t : Pen} (h : t.inked.Symmetric) (c : Call) :
    (t.call c).inked.Symmetric := by
  obtain hsame | ⟨d, a, -, hpush⟩ | ⟨a, u, hpop, hu⟩ := t.call_cases c
  · rw [hsame]
    exact h
  · rw [hpush]
    exact h.ink (t.next a)
  · rw [hu]
    exact symmetric_of_pop h hpop

theorem symmetric_calls {t : Pen} (h : t.inked.Symmetric) (cs : List Call) :
    (t.calls cs).inked.Symmetric := by
  induction cs generalizing t with
  | nil => exact h
  | cons c cs ih => exact ih (symmetric_call h c)

theorem next_not_mem_of_check {t : Pen} {d : Direction} {a : Angle} (h : t.check d = .ok a) :
    t.next a ∉ t.inked := by
  rw [check] at h
  split at h
  · cases h
  · split at h
    · cases h
    · next hnew =>
      cases h
      have hnext : t.next (d - t.head.heading) = t.head.onward d := by simp [next]
      rw [hnext]
      exact hnew

theorem pop_of_draw {t u : Pen} (h : t.inked.Symmetric) {d : Direction} {a : Angle}
    (hd : t.draw d = .ok (a, u)) : u.pop = some (a, t) := by
  obtain ⟨hcheck, rfl⟩ := draw_eq_ok_iff.mp hd
  rw [pop_push, h.wipe_ink (next_not_mem_of_check hcheck)]

/-- After any calls a pen is the pen that would follow its own pattern from the beginning, and
checks as that pattern does. From any pattern, drawing a stroke and taking it back changes nothing.
-/
theorem calls_trace (cs : List Call) :
    (∀ t : Pen, ((∃ d, t = fresh d) ∨ ∃ p : Pattern, p.isDrawable = true ∧ t = ofPattern p) →
      (t.calls cs).pattern.strokes = (t.calls cs).trail.toList ++ [(t.calls cs).head] ∧
      (t.calls cs).inked = (t.calls cs).pattern.inked ∧
      t.calls cs = ofPattern (t.calls cs).pattern ∧
      ∃ c, ((t.calls cs).pattern.positions .origin).getLast? = some c ∧
        ∀ d, (t.calls cs).check d = (t.calls cs).pattern.check d ∧
          (t.calls cs).check d =
            if d = (t.calls cs).pattern.finalHeading + Angle.back then .error .backtrack
            else if (⟨c, d⟩ : Stroke) ∈ (t.calls cs).pattern.inked then .error .retrace
            else .ok (d - (t.calls cs).pattern.finalHeading)) ∧
    (∀ t : Pen, ((∃ d, t = fresh d) ∨ ∃ p : Pattern, t = ofPattern p) →
      ∀ d a u, (t.calls cs).draw d = .ok (a, u) → u.pop = some (a, t.calls cs)) := by
  refine ⟨?_, ?_⟩
  · intro t ht
    have hstart : t.Lawful := by
      obtain ⟨d, rfl⟩ | ⟨p, hp, rfl⟩ := ht
      · exact lawful_fresh d
      · exact lawful_ofPattern hp
    have hlawful : (t.calls cs).Lawful := hstart.calls cs
    have hend : ((t.calls cs).pattern.positions .origin).getLast? =
        some (t.calls cs).head.target := by
      rw [Pattern.getLast?_positions, hlawful.getLast?_strokes]
      rfl
    refine ⟨hlawful.strokes_pattern, hlawful.inked_pattern.symm, hlawful.traced.symm,
      (t.calls cs).head.target, hend, ?_⟩
    exact fun d => ⟨(hlawful.check_pattern d).symm, hlawful.check_eq d⟩
  · intro t ht d a u hd
    have hstart : t.inked.Symmetric := by
      obtain ⟨d, rfl⟩ | ⟨p, rfl⟩ := ht
      · exact (sighted_fresh d).symmetric
      · exact (sighted_ofPattern p).symmetric
    exact pop_of_draw (symmetric_calls hstart cs) hd

/-- Three turns round a triangle draw its first side again. A pen that goes on from there and takes
the last stroke back has forgotten that side, which its own pattern still covers. -/
example :
    let t := (ofPattern ⟨.east, [.leftBack, .leftBack, .leftBack]⟩).calls [.pop]
    t.check .east = .ok .leftBack ∧ t.pattern.check .east = .error .retrace := by decide +kernel

end Pen

end HexGesture
