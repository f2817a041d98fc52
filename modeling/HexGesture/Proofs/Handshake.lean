import HexGesture.Proofs.Tracing
import Mathlib.Data.Fintype.Card

/-! Where a drawing can get stuck. A walk leaves every point as often as it reaches it, but for one
departure more from its start and one arrival more at its end. If no segment is drawn twice, the
segments drawn at a point are counted by the departures from it and the arrivals there together. So
where a drawing ends away from its start their number is odd, and one of the six is still free. -/
namespace HexGesture

instance : Fintype Direction := ⟨⟨Direction.all, by decide⟩, Direction.mem_all⟩

theorem Direction.card_univ : (Finset.univ : Finset Direction).card = 6 := rfl

namespace Coord

@[simp] theorem origin_add (c : Coord) : origin + c = c := by
  apply ext <;> simp [origin]

theorem add_eq_right_iff {b c : Coord} : b + c = c ↔ b = origin := by
  constructor
  · intro h
    have hq := congrArg Coord.q h
    have hr := congrArg Coord.r h
    simp only [add_q, add_r] at hq hr
    apply ext <;> simp only [origin] <;> omega
  · rintro rfl
    exact origin_add c

theorem add_step (b c : Coord) (d : Direction) : b.step d + c = (b + c).step d := by
  apply ext <;> simp only [step, add_q, add_r] <;> omega

end Coord

namespace StrokeSet

/-- The headings of the segments inked at a point. -/
def spokes (xs : StrokeSet) (c : Coord) : Finset Direction := {d | (⟨c, d⟩ : Stroke) ∈ xs}

@[simp] theorem mem_spokes {xs : StrokeSet} {c : Coord} {d : Direction} :
    d ∈ xs.spokes c ↔ (⟨c, d⟩ : Stroke) ∈ xs := by simp [spokes]

theorem spokes_insert (xs : StrokeSet) (s : Stroke) (c : Coord) :
    spokes (xs.insert s) c = if s.source = c then insert s.heading (xs.spokes c)
      else xs.spokes c := by
  obtain ⟨b, e⟩ := s
  ext d
  rw [mem_spokes, Std.ExtTreeSet.mem_insert, Std.LawfulEqCmp.compare_eq_iff_eq, Stroke.mk.injEq]
  by_cases hb : b = c
  · simp [hb, eq_comm]
  · simp [hb]

theorem card_spokes_insert {xs : StrokeSet} {s : Stroke} (hs : s ∉ xs) (c : Coord) :
    (spokes (xs.insert s) c).card = (xs.spokes c).card + if s.source = c then 1 else 0 := by
  rw [spokes_insert]
  by_cases hc : s.source = c
  · subst hc
    have hnew : s.heading ∉ xs.spokes s.source := fun hmem => hs (mem_spokes.mp hmem)
    rw [if_pos rfl, if_pos rfl, Finset.card_insert_of_notMem hnew]
  · rw [if_neg hc, if_neg hc, Nat.add_zero]

/-- A new segment counts at both of its ends. -/
theorem Symmetric.card_spokes_ink {xs : StrokeSet} (h : xs.Symmetric) {s : Stroke} (hs : s ∉ xs)
    (c : Coord) : ((xs.ink s).spokes c).card =
      (xs.spokes c).card + (if s.source = c then 1 else 0) + if s.target = c then 1 else 0 := by
  rw [StrokeSet.ink, card_spokes_insert (h.reversed_not_mem_insert hs), card_spokes_insert hs]
  rfl

/-- Where no segment is inked twice, strokes from and to a point count the segments inked there. -/
theorem card_spokes_ofStrokes {ss : List Stroke} (h : ss.Pairwise Stroke.Apart) (c : Coord) :
    ((ofStrokes ss).spokes c).card =
      ss.countP (fun s => s.source = c) + ss.countP fun s => s.target = c := by
  induction ss using List.reverseRecOn with
  | nil =>
    have hempty : spokes ∅ c = ∅ := by
      ext d
      simp
    simp [hempty]
  | append_singleton ss s ih =>
    obtain ⟨hss, -, hapart⟩ := List.pairwise_append.mp h
    have hnew : s ∉ ofStrokes ss := not_mem_ofStrokes.mpr fun t ht => hapart t ht s (by simp)
    rw [ofStrokes_concat, (symmetric_ofStrokes ss).card_spokes_ink hnew, ih hss]
    simp only [List.countP_append, List.countP_singleton, decide_eq_true_eq]
    omega

end StrokeSet

namespace Pattern

/-- Where a drawing from the origin ends. -/
def finish (p : Pattern) : Coord := (Pen.ofPattern p).head.target

def departures (p : Pattern) (c : Coord) : Nat := p.strokes.countP fun s => s.source = c

def arrivals (p : Pattern) (c : Coord) : Nat := p.strokes.countP fun s => s.target = c

theorem departures_concat (d : Direction) (as : List Angle) (a : Angle) (c : Coord) :
    departures ⟨d, as ++ [a]⟩ c = departures ⟨d, as⟩ c + if finish ⟨d, as⟩ = c then 1 else 0 := by
  have hsource : ((Pen.ofPattern ⟨d, as⟩).next a).source = finish ⟨d, as⟩ := rfl
  simp [departures, strokes_concat, List.countP_append, List.countP_singleton, hsource]

theorem arrivals_concat (d : Direction) (as : List Angle) (a : Angle) (c : Coord) :
    arrivals ⟨d, as ++ [a]⟩ c =
      arrivals ⟨d, as⟩ c + if finish ⟨d, as ++ [a]⟩ = c then 1 else 0 := by
  have htarget : ((Pen.ofPattern ⟨d, as⟩).next a).target = finish ⟨d, as ++ [a]⟩ := by
    rw [finish, Pen.ofPattern_concat, Pen.head_push]
  simp [arrivals, strokes_concat, List.countP_append, List.countP_singleton, htarget]

/-- Every point is left as often as it is reached, the start once more and the end once less. -/
theorem departures_add_finish (p : Pattern) (c : Coord) :
    p.departures c + (if p.finish = c then 1 else 0) =
      p.arrivals c + if Coord.origin = c then 1 else 0 := by
  obtain ⟨d, as⟩ := p
  induction as using List.reverseRecOn with
  | nil =>
    have hdepartures : departures ⟨d, []⟩ c = if Coord.origin = c then 1 else 0 := by
      simp [departures, strokes, strokesFrom, List.countP_singleton]
    have harrivals : arrivals ⟨d, []⟩ c = if finish ⟨d, []⟩ = c then 1 else 0 := by
      simp only [arrivals, strokes, strokesFrom, List.reverse_singleton, List.countP_singleton,
        decide_eq_true_eq]
      rfl
    omega
  | append_singleton as a ih =>
    rw [departures_concat, arrivals_concat]
    omega

/-- What is drawn at a point was drawn on leaving it or on reaching it. -/
theorem card_spokes_inked {p : Pattern} (h : p.isDrawable = true) (c : Coord) :
    (p.inked.spokes c).card = p.departures c + p.arrivals c :=
  StrokeSet.card_spokes_ofStrokes ((isDrawable_iff_pairwise p).mp h) c

/-- A drawing that has not come back leaves a segment free where it ends. -/
theorem exists_free {p : Pattern} (h : p.isDrawable = true) (hfinish : p.finish ≠ .origin) :
    ∃ d, (⟨p.finish, d⟩ : Stroke) ∉ p.inked := by
  by_contra hnone
  have hspokes : p.inked.spokes p.finish = Finset.univ := by
    ext d
    simpa using fun hfree => hnone ⟨d, hfree⟩
  have hcount := card_spokes_inked h p.finish
  have hbalance := p.departures_add_finish p.finish
  rw [hspokes, Direction.card_univ] at hcount
  rw [if_pos rfl, if_neg (Ne.symm hfinish)] at hbalance
  -- six would be twice the departures and one more
  omega

theorem exists_check_iff (p : Pattern) (d : Direction) :
    (∃ a, p.check d = .ok a) ↔ (⟨p.finish, d⟩ : Stroke) ∉ p.inked := by
  have hnext : (Pen.ofPattern p).next (d - (Pen.ofPattern p).head.heading) = ⟨p.finish, d⟩ := by
    simp [Pen.next, Stroke.onward, finish]
  simp only [check_eq_ok_iff, exists_eq_left, hnext]

theorem exists_rejection_iff (p : Pattern) (d : Direction) :
    (∃ why, p.check d = .error why) ↔ (⟨p.finish, d⟩ : Stroke) ∈ p.inked := by
  rw [← not_iff_not, ← exists_check_iff]
  cases p.check d <;> simp

/-! A drawing from another point is the same drawing, shifted. -/

theorem positionsFrom_add (b c : Coord) (d : Direction) (done : List Coord) (as : List Angle) :
    positionsFrom (b + c) d (done.map (· + c)) as = (positionsFrom b d done as).map (· + c) := by
  induction as generalizing b d done with
  | nil => simp [positionsFrom, Coord.add_step]
  | cons a as ih =>
    simp only [positionsFrom]
    rw [← Coord.add_step, ← ih, List.map_cons]

theorem positions_eq (p : Pattern) (c : Coord) :
    p.positions c = (p.positions .origin).map (· + c) := by
  have h := positionsFrom_add .origin c p.start [] p.angles
  rwa [Coord.origin_add] at h

theorem getLast?_positions_eq (p : Pattern) (c : Coord) :
    (p.positions c).getLast? = some (p.finish + c) := by
  rw [positions_eq, List.getLast?_map, getLast?_positions, ← Pen.strokes_ofPattern,
    Pen.getLast?_strokes]
  rfl

/-- A drawing can get stuck only back where it started: none of the six strokes may be drawn just
when the drawing has come back and all six segments are drawn there. A drawing that ends anywhere
else can be drawn on. -/
theorem stuck_iff_closed (p : Pattern) (h : p.isDrawable = true) :
    ((∀ d, ∃ why, p.check d = .error why) ↔
      (∀ c, (p.positions c).getLast? = some c) ∧ ∀ d, (⟨.origin, d⟩ : Stroke) ∈ p.inked) ∧
    ∀ c e, (p.positions c).getLast? = some e → e ≠ c →
      ∃ d a, p.draw d = .ok (a, ⟨p.start, p.angles ++ [a]⟩) ∧
        isDrawable ⟨p.start, p.angles ++ [a]⟩ = true := by
  have hclosed (c : Coord) : (p.positions c).getLast? = some c ↔ p.finish = .origin := by
    rw [getLast?_positions_eq, Option.some.injEq, Coord.add_eq_right_iff]
  simp only [exists_rejection_iff, hclosed]
  refine ⟨⟨?_, ?_⟩, ?_⟩
  · intro hstuck
    have hback : p.finish = .origin := by
      by_contra hfinish
      obtain ⟨d, hfree⟩ := exists_free h hfinish
      exact hfree (hstuck d)
    rw [hback] at hstuck
    exact ⟨fun _ => hback, hstuck⟩
  · rintro ⟨hback, hdrawn⟩ d
    rw [hback .origin]
    exact hdrawn d
  · intro c e he hne
    have hfinish : p.finish ≠ .origin := by
      intro hback
      rw [(hclosed c).mpr hback] at he
      exact hne (Option.some.inj he).symm
    obtain ⟨d, hfree⟩ := exists_free h hfinish
    obtain ⟨a, ha⟩ := (p.exists_check_iff d).mpr hfree
    have hnew := ((check_eq_ok_iff p d a).mp ha).2
    exact ⟨d, a, by rw [draw, ha], (isDrawable_concat p.start p.angles a).mpr ⟨h, hnew⟩⟩

/-- Three triangles that meet in the start, drawn one after another. -/
def rosette : Pattern :=
  ⟨.east, [.rightBack, .rightBack, .leftBack, .rightBack, .rightBack, .leftBack, .rightBack,
    .rightBack]⟩

theorem stuck_iff_closed_rosette : rosette.isDrawable = true ∧
    (∀ d, ∃ why, rosette.check d = .error why) ∧
    (∀ c, (rosette.positions c).getLast? = some c) ∧
    ∀ d, (⟨.origin, d⟩ : Stroke) ∈ rosette.inked := by
  have hdrawable : rosette.isDrawable = true := by decide +kernel
  have hstuck : ∀ d, ∃ why, rosette.check d = .error why := by
    simp only [exists_rejection_iff]
    decide +kernel
  exact ⟨hdrawable, hstuck, (stuck_iff_closed rosette hdrawable).1.mp hstuck⟩

end Pattern

end HexGesture
