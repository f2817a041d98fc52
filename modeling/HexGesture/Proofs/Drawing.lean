import HexGesture.Pattern.Signature
import HexGesture.Proofs.Ink
import Mathlib.Tactic.TFAE

/-! What a pen can draw. A pen that follows a pattern has that pattern's strokes and its ink, so it
refuses a turn just when the next stroke's segment is inked already; going straight back is the
case where that segment is the last one. Hence a pattern can be drawn if and only if no two of its
strokes share a segment, and drawing and taking back in any order leads to no other patterns. -/
namespace HexGesture

namespace Pen

def strokes (t : Pen) : List Stroke := t.trail.toList ++ [t.head]

def next (t : Pen) (a : Angle) : Stroke := t.head.onward (t.head.heading + a)

@[simp] theorem head_push (t : Pen) (a : Angle) : (t.push a).head = t.next a := rfl
@[simp] theorem inked_push (t : Pen) (a : Angle) : (t.push a).inked = t.inked.ink (t.next a) := rfl

@[simp] theorem strokes_push (t : Pen) (a : Angle) :
    (t.push a).strokes = t.strokes ++ [t.next a] := by
  simp [strokes, push, next]

theorem strokes_foldl_push (t : Pen) (as : List Angle) :
    (as.foldl push t).strokes = t.trail.toList ++ Pattern.strokesFrom t.head [] as := by
  induction as generalizing t with
  | nil => simp [strokes, Pattern.strokesFrom]
  | cons a as ih =>
    have htrail : (t.push a).trail.toList = t.trail.toList ++ [t.head] := by simp [push]
    rw [List.foldl_cons, ih, htrail, head_push, Pattern.strokesFrom,
      Pattern.strokesFrom_eq _ [t.head]]
    simp [next]

@[simp] theorem strokes_ofPattern (p : Pattern) : (ofPattern p).strokes = p.strokes := by
  rw [ofPattern, strokes_foldl_push]
  rfl

theorem ofPattern_concat (d : Direction) (as : List Angle) (a : Angle) :
    ofPattern ⟨d, as ++ [a]⟩ = (ofPattern ⟨d, as⟩).push a := by simp [ofPattern]

@[simp] theorem pattern_ofPattern (p : Pattern) : (ofPattern p).pattern = p := by
  obtain ⟨d, as⟩ := p
  induction as using List.reverseRecOn with
  | nil => rfl
  | append_singleton as a ih => rw [ofPattern_concat, pattern_push, ih]

@[simp] theorem inked_ofPattern (p : Pattern) : (ofPattern p).inked = p.inked := by
  obtain ⟨d, as⟩ := p
  induction as using List.reverseRecOn with
  | nil => rfl
  | append_singleton as a ih =>
    rw [Pattern.inked_eq, ← strokes_ofPattern, ofPattern_concat, inked_push, strokes_push,
      StrokeSet.ofStrokes_concat, ih, strokes_ofPattern, Pattern.inked_eq]

/-- The pen knows its own last stroke in both directions, and every other one. -/
structure Sighted (t : Pen) : Prop where
  head_mem : t.head ∈ t.inked
  symmetric : t.inked.Symmetric

theorem sighted_fresh (d : Direction) : (fresh d).Sighted where
  head_mem := StrokeSet.mem_ink.mpr (.inl rfl)
  symmetric := StrokeSet.symmetric_empty.ink _

theorem Sighted.push {t : Pen} (h : t.Sighted) (a : Angle) : (t.push a).Sighted where
  head_mem := StrokeSet.mem_ink.mpr (.inl rfl)
  symmetric := h.symmetric.ink _

theorem Sighted.foldl_push {t : Pen} (h : t.Sighted) (as : List Angle) :
    (as.foldl Pen.push t).Sighted := by
  induction as generalizing t with
  | nil => exact h
  | cons a as ih => exact ih (h.push a)

theorem sighted_ofPattern (p : Pattern) : (ofPattern p).Sighted :=
  (sighted_fresh p.start).foldl_push p.angles

/-- Straight back lies the last stroke, so that rule refuses nothing that the other would not. -/
theorem Sighted.next_back_mem {t : Pen} (h : t.Sighted) : t.next .back ∈ t.inked := by
  have hnext : t.next .back = t.head.reversed := Stroke.onward_back t.head
  rw [hnext]
  exact h.symmetric t.head h.head_mem

theorem check_eq_ok_iff {t : Pen} (h : t.Sighted) (d : Direction) (a : Angle) :
    t.check d = .ok a ↔ a = d - t.head.heading ∧ t.next a ∉ t.inked := by
  have hd : t.head.onward d = t.next (d - t.head.heading) := by simp [next]
  have hback : d - t.head.heading = Angle.back → t.next (d - t.head.heading) ∈ t.inked := by
    intro hb
    rw [hb]
    exact h.next_back_mem
  rw [check, hd]
  by_cases hm : t.next (d - t.head.heading) ∈ t.inked
  · have hrefused : ¬ (a = d - t.head.heading ∧ t.next a ∉ t.inked) := by
      rintro ⟨rfl, hn⟩
      exact hn hm
    simp only [hm, if_true, hrefused, iff_false]
    split <;> simp
  · simp only [hm, if_false, if_neg fun hb => hm (hback hb), Except.ok.injEq]
    constructor
    · rintro rfl
      exact ⟨rfl, hm⟩
    · exact fun ha => ha.1.symm

theorem turn_eq_ok_iff {t u : Pen} (h : t.Sighted) (a : Angle) :
    t.turn a = .ok u ↔ t.next a ∉ t.inked ∧ u = t.push a := by
  cases hc : t.check (t.head.heading + a) with
  | ok b =>
    obtain ⟨hb, hn⟩ := (check_eq_ok_iff h _ _).mp hc
    rw [Direction.add_sub_cancel] at hb
    subst hb
    simp [turn, draw, hc, Except.map, hn, eq_comm]
  | error why =>
    have hm : t.next a ∈ t.inked := by
      by_contra hn
      have ha := (check_eq_ok_iff h (t.head.heading + a) a).mpr
        ⟨(Direction.add_sub_cancel _ _).symm, hn⟩
      rw [hc] at ha
      cases ha
    simp [turn, draw, hc, Except.map, hm]

theorem turn_eq_ok {t : Pen} (h : t.Sighted) {a : Angle} (hn : t.next a ∉ t.inked) :
    t.turn a = .ok (t.push a) := (turn_eq_ok_iff h a).mpr ⟨hn, rfl⟩

theorem turn_ne_ok {t : Pen} (h : t.Sighted) {a : Angle} (hm : t.next a ∈ t.inked) (u : Pen) :
    t.turn a ≠ .ok u := fun hu => ((turn_eq_ok_iff h a).mp hu).1 hm

theorem accepts_append {t : Pen} (h : t.Sighted) (as bs : List Angle) :
    t.accepts (as ++ bs) = (t.accepts as && (as.foldl push t).accepts bs) := by
  induction as generalizing t with
  | nil => rfl
  | cons a as ih =>
    by_cases hn : t.next a ∈ t.inked
    · rw [List.cons_append, accepts, accepts]
      split
      · next u hu => exact absurd hu (turn_ne_ok h hn u)
      · rfl
    · simp only [List.cons_append, accepts, turn_eq_ok h hn, List.foldl_cons]
      exact ih (h.push a)

theorem accepts_singleton {t : Pen} (h : t.Sighted) (a : Angle) :
    t.accepts [a] = true ↔ t.next a ∉ t.inked := by
  by_cases hn : t.next a ∈ t.inked
  · rw [accepts]
    split
    · next u hu => exact absurd hu (turn_ne_ok h hn u)
    · simp [hn]
  · simp [accepts, turn_eq_ok h hn, hn]

end Pen

namespace Pattern

theorem strokesFrom_cons (s : Stroke) (a : Angle) (as : List Angle) :
    strokesFrom s [] (a :: as) = s :: strokesFrom (s.onward (s.heading + a)) [] as := by
  rw [strokesFrom, strokesFrom_eq]
  rfl

theorem strokes_concat (d : Direction) (as : List Angle) (a : Angle) :
    strokes ⟨d, as ++ [a]⟩ = strokes ⟨d, as⟩ ++ [(Pen.ofPattern ⟨d, as⟩).next a] := by
  rw [← Pen.strokes_ofPattern, Pen.ofPattern_concat, Pen.strokes_push, Pen.strokes_ofPattern]

theorem length_strokes (p : Pattern) : p.strokes.length = p.length + 1 := by
  obtain ⟨d, as⟩ := p
  induction as using List.reverseRecOn with
  | nil => rfl
  | append_singleton as a ih =>
    rw [strokes_concat, List.length_append, ih]
    simp [length]

/-- One more turn can be drawn if the stroke it leads to lies on a new segment. -/
theorem isDrawable_concat (d : Direction) (as : List Angle) (a : Angle) :
    isDrawable ⟨d, as ++ [a]⟩ = true ↔
      isDrawable ⟨d, as⟩ = true ∧ (Pen.ofPattern ⟨d, as⟩).next a ∉ inked ⟨d, as⟩ := by
  rw [← Pen.inked_ofPattern, ← Pen.accepts_singleton (Pen.sighted_ofPattern _)]
  simp only [isDrawable, Pen.accepts_append (Pen.sighted_fresh d), Bool.and_eq_true]
  rfl

@[simp] theorem isDrawable_nil (d : Direction) : isDrawable ⟨d, []⟩ = true := rfl

theorem isDrawable_append_left {d : Direction} {as bs : List Angle}
    (h : isDrawable ⟨d, as ++ bs⟩ = true) : isDrawable ⟨d, as⟩ = true := by
  simp only [isDrawable, Pen.accepts_append (Pen.sighted_fresh d), Bool.and_eq_true] at h
  exact h.1

/-- No drawing turns straight back. -/
theorem back_not_mem {p : Pattern} (h : p.isDrawable = true) : Angle.back ∉ p.angles := by
  obtain ⟨d, as⟩ := p
  induction as using List.reverseRecOn with
  | nil => simp
  | append_singleton as a ih =>
    obtain ⟨has, hnew⟩ := (isDrawable_concat d as a).mp h
    have ha : Angle.back ≠ a := by
      rintro rfl
      rw [← Pen.inked_ofPattern] at hnew
      exact hnew (Pen.sighted_ofPattern ⟨d, as⟩).next_back_mem
    rw [List.mem_append, List.mem_singleton, not_or]
    exact ⟨ih has, ha⟩

/-- Drawable patterns are those that ink no segment twice. -/
theorem isDrawable_iff_pairwise (p : Pattern) :
    p.isDrawable = true ↔ p.strokes.Pairwise Stroke.Apart := by
  obtain ⟨d, as⟩ := p
  induction as using List.reverseRecOn with
  | nil => simp [strokes, strokesFrom]
  | append_singleton as a ih =>
    rw [isDrawable_concat, ih, strokes_concat, List.pairwise_append, inked_eq,
      StrokeSet.not_mem_ofStrokes]
    simp

theorem isDrawable_iff_size (p : Pattern) :
    p.isDrawable = true ↔ p.inked.size = 2 * (p.length + 1) := by
  rw [isDrawable_iff_pairwise, ← length_strokes, inked_eq]
  exact (StrokeSet.size_ofStrokes_eq_iff _).symm

end Pattern

namespace Pen

/-- The pen has drawn its pattern by the rules. -/
structure Lawful (t : Pen) : Prop where
  traced : ofPattern t.pattern = t
  drawable : t.pattern.isDrawable = true

theorem lawful_fresh (d : Direction) : (fresh d).Lawful := ⟨rfl, rfl⟩

theorem Lawful.sighted {t : Pen} (h : t.Lawful) : t.Sighted := by
  rw [← h.traced]
  exact sighted_ofPattern _

theorem Lawful.push {t : Pen} (h : t.Lawful) {a : Angle} (hn : t.next a ∉ t.inked) :
    (t.push a).Lawful where
  traced := by rw [pattern_push, ofPattern_concat, h.traced]
  drawable := by
    have hink : t.pattern.inked = t.inked := by rw [← inked_ofPattern, h.traced]
    rw [pattern_push, Pattern.isDrawable_concat, h.traced, hink]
    exact ⟨h.drawable, hn⟩

theorem pop_push (t : Pen) (a : Angle) :
    (t.push a).pop = some (a, { t with inked := (t.inked.ink (t.next a)).wipe (t.next a) }) := by
  simp [pop, push, next]

/-- A stroke that the rules allowed leaves no trace when it is taken back. -/
theorem Sighted.pop_push {t : Pen} (h : t.Sighted) {a : Angle} (hn : t.next a ∉ t.inked) :
    (t.push a).pop = some (a, t) := by
  rw [Pen.pop_push, h.symmetric.wipe_ink hn]

theorem Lawful.eq_push_of_pop {t u : Pen} (h : t.Lawful) {a : Angle} (hp : t.pop = some (a, u)) :
    u.Lawful ∧ t = u.push a := by
  obtain ⟨d, as, hpattern⟩ : ∃ d as, t.pattern = ⟨d, as⟩ := ⟨_, _, rfl⟩
  have htraced := h.traced
  have hdrawable := h.drawable
  rw [hpattern] at htraced hdrawable
  induction as using List.reverseRecOn with
  | nil =>
    rw [← htraced] at hp
    cases hp
  | append_singleton as b _ =>
    obtain ⟨has, hn⟩ := (Pattern.isDrawable_concat d as b).mp hdrawable
    have hbefore : (ofPattern ⟨d, as⟩).Lawful := ⟨by rw [pattern_ofPattern], by simpa using has⟩
    rw [← inked_ofPattern] at hn
    rw [← htraced, ofPattern_concat, hbefore.sighted.pop_push hn] at hp
    cases hp
    exact ⟨hbefore, by rw [← htraced, ofPattern_concat]⟩

end Pen

namespace Pattern

def tryDraw (p : Pattern) (d : Direction) : Bool × Pattern :=
  match p.draw d with
  | .ok (_, q) => (true, q)
  | .error _ => (false, p)

inductive Move
  | draw (d : Direction)
  | pop

def move (p : Pattern) : Move → Pattern
  | .draw d => (p.tryDraw d).2
  | .pop => (p.pop.map Prod.snd).getD p

def moves (p : Pattern) (ms : List Move) : Pattern := ms.foldl move p

theorem check_eq_ok_iff (p : Pattern) (d : Direction) (a : Angle) :
    p.check d = .ok a ↔
      a = d - (Pen.ofPattern p).head.heading ∧ (Pen.ofPattern p).next a ∉ p.inked := by
  rw [← Pen.inked_ofPattern]
  exact Pen.check_eq_ok_iff (Pen.sighted_ofPattern p) d a

theorem tryDraw_of_check {p : Pattern} {d : Direction} {a : Angle} (h : p.check d = .ok a) :
    p.tryDraw d = (true, ⟨p.start, p.angles ++ [a]⟩) := by
  simp [tryDraw, draw, h]

theorem tryDraw_of_not_check {p : Pattern} {d : Direction} (h : ∀ a, p.check d ≠ .ok a) :
    p.tryDraw d = (false, p) := by
  cases hc : p.check d with
  | ok a => exact absurd hc (h a)
  | error why => simp [tryDraw, draw, hc]

/-- Drawing by the rules leads from drawable patterns to drawable patterns. -/
theorem isDrawable_move {p : Pattern} (h : p.isDrawable = true) (m : Move) :
    (p.move m).isDrawable = true := by
  obtain ⟨start, as⟩ := p
  cases m with
  | draw d =>
    by_cases hc : ∃ a, check ⟨start, as⟩ d = .ok a
    · obtain ⟨a, ha⟩ := hc
      have hn := ((check_eq_ok_iff _ _ _).mp ha).2
      rw [move, tryDraw_of_check ha]
      exact (isDrawable_concat start as a).mpr ⟨h, hn⟩
    · rw [move, tryDraw_of_not_check fun a ha => hc ⟨a, ha⟩]
      exact h
  | pop =>
    induction as using List.reverseRecOn with
    | nil => exact h
    | append_singleton as a _ =>
      have hpop : move ⟨start, as ++ [a]⟩ .pop = ⟨start, as⟩ := by simp [move, pop]
      rw [hpop]
      exact isDrawable_append_left h

theorem isDrawable_moves {p : Pattern} (h : p.isDrawable = true) (ms : List Move) :
    (p.moves ms).isDrawable = true := by
  induction ms generalizing p with
  | nil => exact h
  | cons m ms ih => exact ih (isDrawable_move h m)

/-- A drawable pattern is drawn by its own strokes, one after another. -/
theorem exists_moves {p : Pattern} (h : p.isDrawable = true) :
    ∃ ms, moves ⟨p.start, []⟩ ms = p := by
  obtain ⟨start, as⟩ := p
  induction as using List.reverseRecOn with
  | nil => exact ⟨[], rfl⟩
  | append_singleton as a ih =>
    obtain ⟨has, hn⟩ := (isDrawable_concat start as a).mp h
    obtain ⟨ms, hms⟩ := ih has
    let heading := (Pen.ofPattern ⟨start, as⟩).head.heading
    have hcheck : check ⟨start, as⟩ (heading + a) = .ok a :=
      (check_eq_ok_iff _ _ _).mpr ⟨(Direction.add_sub_cancel heading a).symm, hn⟩
    refine ⟨ms ++ [.draw (heading + a)], ?_⟩
    rw [moves, List.foldl_append]
    change move (moves ⟨start, []⟩ ms) (.draw (heading + a)) = _
    rw [hms, move, tryDraw_of_check hcheck]

/-- Whether a pattern can be drawn, whether it can be reached by drawing and taking back, and
whether it inks no segment twice are one question. A refused stroke leaves the drawing as it is,
and nothing but drawable patterns is ever reached, with all that they begin with. -/
theorem isDrawable_tfae (p : Pattern) :
    List.TFAE [p.isDrawable = true,
      ∃ ms, moves ⟨p.start, []⟩ ms = p,
      p.strokes.Pairwise fun s t => s ≠ t ∧ s ≠ t.reversed,
      p.inked.size = 2 * (p.length + 1)] ∧
    (∀ d, (p.tryDraw d).1 = false → (p.tryDraw d).2 = p) ∧
    (∀ d ms, (moves ⟨d, []⟩ ms).isDrawable = true) ∧
    (p.isDrawable = true → ∀ n, isDrawable ⟨p.start, p.angles.take n⟩ = true) := by
  refine ⟨?_, ?_, ?_, ?_⟩
  · tfae_have 1 → 2 := exists_moves
    tfae_have 2 → 1 := by
      rintro ⟨ms, hms⟩
      have h := isDrawable_moves (isDrawable_nil p.start) ms
      rwa [hms] at h
    tfae_have 1 ↔ 3 := isDrawable_iff_pairwise p
    tfae_have 1 ↔ 4 := isDrawable_iff_size p
    tfae_finish
  · intro d h
    by_cases hc : ∃ a, p.check d = .ok a
    · obtain ⟨a, ha⟩ := hc
      simp [tryDraw_of_check ha] at h
    · rw [tryDraw_of_not_check fun a ha => hc ⟨a, ha⟩]
  · exact fun d ms => isDrawable_moves (isDrawable_nil d) ms
  · intro h n
    have hall : isDrawable ⟨p.start, p.angles.take n ++ p.angles.drop n⟩ = true := by
      rw [List.take_append_drop]
      exact h
    exact isDrawable_append_left hall

end Pattern

end HexGesture
