import HexGesture.Proofs.Rising
import HexGesture.Proofs.Rotation
import HexGesture.Proofs.Search
import HexGesture.Proofs.Tracing

/-! How far a walk searches. The decks hold every heading along which a drawing of the length asked
for can still go on, so a stroke is only taken back when no such drawing begins with it. There is
one from every start. So no walk runs out of strokes to take back, and only its budget can end
it. -/
namespace HexGesture

namespace Pen

@[simp] theorem start_push (t : Pen) (a : Angle) : (t.push a).start = t.start := rfl

theorem Lawful.angles_eq_nil_of_pop {t : Pen} (h : t.Lawful) (hp : t.pop = none) :
    t.pattern.angles = [] := by
  obtain ⟨d, as, hpattern⟩ : ∃ d as, t.pattern = ⟨d, as⟩ := ⟨_, _, rfl⟩
  cases as using List.reverseRecOn with
  | nil => rw [hpattern]
  | append_singleton as a =>
    rw [← h.traced, hpattern, ofPattern_concat, pop_push] at hp
    cases hp

end Pen

namespace Walk

variable {σ : Type}

/-- Where a turn heads after other turns, which are listed last one first. -/
def headingAfter (start : Direction) (turns : List Angle) (a : Angle) : Direction :=
  Pattern.finalHeading ⟨start, turns.reverse⟩ + a

/-- The deck holds every heading along which a drawing of the length asked for goes on. -/
def Leads (start : Direction) (length : Nat) (turns : List Angle) (deck : List Direction) : Prop :=
  ∀ as : List Angle, as.length = length → Pattern.isDrawable ⟨start, as⟩ = true →
    ∀ a, (a :: turns).reverse <+: as → headingAfter start turns a ∈ deck

/-- Every deck does so. Under a stroke lies the deck from which its heading was taken; with that
heading put back it holds all that lead on from there. -/
inductive Open (start : Direction) (length : Nat) : List Angle → List (List Direction) → Prop
  | root {deck : List Direction} (h : Leads start length [] deck) : Open start length [] [deck]
  | stroke {a : Angle} {turns : List Angle} {deck below : List Direction}
      {decks : List (List Direction)} (h : Leads start length (a :: turns) deck)
      (hbelow : Open start length turns ((headingAfter start turns a :: below) :: decks)) :
      Open start length (a :: turns) (deck :: below :: decks)

section Open

variable {start : Direction} {length : Nat} {turns : List Angle} {deck deck' : List Direction}
  {decks : List (List Direction)}

theorem Open.length_eq (h : Open start length turns decks) : decks.length = turns.length + 1 := by
  induction h with
  | root => rfl
  | stroke _ _ ih => simpa using ih

theorem Open.leads (h : Open start length turns (deck :: decks)) :
    Leads start length turns deck := by
  cases h with
  | root h => exact h
  | stroke h _ => exact h

theorem Open.exchange (h : Open start length turns (deck :: decks))
    (h' : Leads start length turns deck') : Open start length turns (deck' :: decks) := by
  cases h with
  | root => exact .root h'
  | stroke _ hbelow => exact .stroke h' hbelow

theorem leads_of_perm (h : deck.Perm Direction.all) : Leads start length turns deck :=
  fun _ _ _ _ _ => h.mem_iff.mpr (Direction.mem_all _)

theorem Leads.of_cons {a : Angle}
    (h : Leads start length turns (headingAfter start turns a :: deck))
    (hnone : ∀ as : List Angle, as.length = length → Pattern.isDrawable ⟨start, as⟩ = true →
      ¬ (a :: turns).reverse <+: as) : Leads start length turns deck := by
  intro as hlength has b hb
  obtain heq | hmem := List.mem_cons.mp (h as hlength has b hb)
  · have hab : b = a := by
      have hturn := congrArg (· - Pattern.finalHeading ⟨start, turns.reverse⟩) heq
      simpa [headingAfter] using hturn
    subst hab
    exact absurd hb (hnone as hlength has)
  · exact hmem

/-- If no heading is left that leads on, no drawing of the length asked for goes on. -/
theorem Leads.not_isPrefix (h : Leads start length turns []) (hshort : turns.length < length)
    {as : List Angle} (hlength : as.length = length)
    (has : Pattern.isDrawable ⟨start, as⟩ = true) : ¬ turns.reverse <+: as := by
  rintro ⟨rest, rfl⟩
  cases rest with
  | nil =>
    simp at hlength
    omega
  | cons b rest =>
    have hb : (b :: turns).reverse <+: turns.reverse ++ b :: rest := ⟨rest, by simp⟩
    exact absurd (h _ hlength has b hb) List.not_mem_nil

theorem Open.drop {a : Angle}
    (h : Open start length turns ((headingAfter start turns a :: deck) :: decks))
    (hnone : ∀ as : List Angle, as.length = length → Pattern.isDrawable ⟨start, as⟩ = true →
      ¬ (a :: turns).reverse <+: as) : Open start length turns (deck :: decks) :=
  h.exchange (h.leads.of_cons hnone)

/-- A stroke whose deck is empty may be taken back, with its heading. -/
theorem Open.pop {a : Angle} (h : Open start length (a :: turns) ([] :: decks))
    (hshort : (a :: turns).length < length) : Open start length turns decks := by
  cases h with
  | stroke hlead hbelow =>
    exact hbelow.drop fun as hlength has => hlead.not_isPrefix hshort hlength has

end Open

def turns (w : Walk σ) : List Angle := w.pen.pattern.angles.reverse

/-- What holds of a walk whenever it goes on. -/
structure Sound (length : Nat) (w : Walk σ) : Prop where
  lawful : w.pen.Lawful
  isOpen : Open w.pen.start length w.turns w.decks

theorem length_turns (w : Walk σ) : w.turns.length = w.pen.length := by
  simp [turns, Pen.pattern, Pen.length]

theorem headingAfter_turns {w : Walk σ} (h : w.pen.Lawful) (d : Direction) :
    headingAfter w.pen.start w.turns (d - w.pen.head.heading) = d := by
  have hpattern : (⟨w.pen.start, w.turns.reverse⟩ : Pattern) = w.pen.pattern := by
    rw [turns, List.reverse_reverse]
    rfl
  rw [headingAfter, hpattern, h.finalHeading_pattern, Direction.add_sub_left]

/-- A drawing that can be made goes on only where the pen draws on. -/
theorem check_of_isPrefix {w : Walk σ} (h : w.pen.Lawful) {as : List Angle} {a : Angle}
    (has : Pattern.isDrawable ⟨w.pen.start, as⟩ = true) (ha : (a :: w.turns).reverse <+: as) :
    w.pen.check (w.pen.head.heading + a) = .ok a := by
  obtain ⟨rest, rfl⟩ := ha
  have hdrawn := Pattern.isDrawable_append_left has
  rw [turns, List.reverse_cons, List.reverse_reverse, Pattern.isDrawable_concat] at hdrawn
  have hnew : (Pen.ofPattern w.pen.pattern).next a ∉ w.pen.pattern.inked := hdrawn.2
  rw [h.traced, h.inked_pattern] at hnew
  exact (Pen.check_eq_ok_iff h.sighted _ _).mpr ⟨(Direction.add_sub_cancel _ _).symm, hnew⟩

theorem sound_begin (ch : Chooser σ) (length budget : Nat) (source : σ) :
    Sound length (begin ch budget source) where
  lawful := Pen.lawful_fresh _
  isOpen := .root (leads_of_perm (ch.deck_perm _))

theorem Sound.length_decks {length : Nat} {w : Walk σ} (h : w.Sound length) :
    w.decks.length = w.pen.length + 1 := by
  rw [h.isOpen.length_eq, length_turns]

theorem Sound.step {ch : Chooser σ} {length : Nat} {w w' : Walk σ} (h : w.Sound length)
    (hshort : w.pen.length < length) (hstep : w.step ch = .ok w') : w'.Sound length := by
  have hlawful := (lawful_step h.lawful hstep).1
  have hopen := h.isOpen
  obtain ⟨decks, a, pen, hdecks, hpop, rfl⟩ | ⟨d, ds, decks, budget, why, hdecks, -, hcheck, rfl⟩ |
    ⟨d, ds, decks, budget, a, hdecks, -, hcheck, rfl⟩ := step_cases hstep
  · have hpush := (h.lawful.eq_push_of_pop hpop).2
    have hturns : w.turns = a :: turns ⟨pen, decks, w.budget, w.source⟩ := by simp [turns, hpush]
    have hstart : w.pen.start = pen.start := by rw [hpush, Pen.start_push]
    rw [← length_turns, hturns] at hshort
    rw [hdecks, hturns, hstart] at hopen
    exact ⟨hlawful, hopen.pop hshort⟩
  · rw [hdecks, ← headingAfter_turns h.lawful d] at hopen
    refine ⟨hlawful, hopen.drop fun as _ has ha => ?_⟩
    -- A drawing that went on along this heading would not have been refused.
    have hok := check_of_isPrefix h.lawful has ha
    rw [Direction.add_sub_left, hcheck] at hok
    cases hok
  · -- The heading drawn stays open beneath the new stroke.
    obtain ⟨rfl, -⟩ := (Pen.check_eq_ok_iff h.lawful.sighted d a).mp hcheck
    rw [hdecks, ← headingAfter_turns h.lawful d] at hopen
    have hnew := Open.stroke (leads_of_perm (ch.deck_perm w.source)) hopen
    refine ⟨hlawful, ?_⟩
    simpa [turns] using hnew

/-- A step fails for want of budget, or because there is nothing to take back. -/
theorem step_eq_error {ch : Chooser σ} {w : Walk σ} {why : WalkFailure}
    (h : w.step ch = .error why) :
    (why = .overBudget ∧ w.budget = 0 ∧ ∃ d ds decks, w.decks = (d :: ds) :: decks) ∨
    (why = .stuck ∧ (w.decks = [] ∨ ∃ decks, w.decks = [] :: decks ∧ w.pen.pop = none)) := by
  obtain ⟨pen, decks, budget, source⟩ := w
  cases decks with
  | nil =>
    cases h
    exact .inr ⟨rfl, .inl rfl⟩
  | cons deck decks =>
    cases deck with
    | nil =>
      cases hp : pen.pop with
      | none =>
        simp only [step, hp, Except.error.injEq] at h
        exact .inr ⟨h.symm, .inr ⟨decks, rfl, rfl⟩⟩
      | some r => simp [step, hp] at h
    | cons d ds =>
      cases budget with
      | zero =>
        cases h
        exact .inl ⟨rfl, rfl, d, ds, decks, rfl⟩
      | succ budget =>
        simp only [step] at h
        split at h <;> cases h

/-- When the last deck is empty, no drawing of the length asked for begins with what is drawn. -/
theorem Sound.not_isPrefix {length : Nat} {w : Walk σ} (h : w.Sound length)
    (hshort : w.pen.length < length) {decks : List (List Direction)}
    (hdecks : w.decks = [] :: decks) {as : List Angle} (hlength : as.length = length)
    (has : Pattern.isDrawable ⟨w.pen.start, as⟩ = true) : ¬ w.pen.pattern.angles <+: as := by
  have hopen := h.isOpen
  rw [hdecks] at hopen
  rw [← length_turns] at hshort
  have hnone := hopen.leads.not_isPrefix hshort hlength has
  rwa [turns, List.reverse_reverse] at hnone

/-- Drawings of the length asked for can be made from every start, so they cannot all have been
given up. -/
theorem Sound.step_ne_stuck {length : Nat} {w : Walk σ} (h : w.Sound length)
    (hshort : w.pen.length < length) (ch : Chooser σ) : w.step ch ≠ .error .stuck := by
  intro hstuck
  obtain ⟨hwhy, -⟩ | ⟨-, hnil | ⟨decks, hdecks, hpop⟩⟩ := step_eq_error hstuck
  · cases hwhy
  · have hlength := h.length_decks
    rw [hnil] at hlength
    cases hlength
  · have hdrawable :=
      Pattern.isDrawable_of_isDrawable (Pattern.isDrawable_zigzag length) w.pen.start
    refine h.not_isPrefix hshort hdecks (Pattern.length_zigzag length) hdrawable ?_
    rw [h.lawful.angles_eq_nil_of_pop hpop]
    exact List.nil_prefix

/-- The walk as it is each time it is about to go on, and at its end. -/
def states (ch : Chooser σ) (length : Nat) (w : Walk σ) : List (Walk σ) :=
  if length ≤ w.pen.length then [w]
  else
    match _h : w.step ch with
    | .ok w' => w :: states ch length w'
    | .error _ => [w]
termination_by w.measure
decreasing_by exact measure_step ‹_›

def tries (length : Nat) (w : Walk σ) : Bool :=
  decide (w.pen.length < length) && !(w.decks.headD []).isEmpty

def tried (ch : Chooser σ) (length : Nat) (w : Walk σ) : Nat :=
  (states ch length w).countP (tries length)

section States

variable {ch : Chooser σ} {length : Nat} {w w' : Walk σ}

theorem states_of_le (h : length ≤ w.pen.length) : states ch length w = [w] := by
  rw [states, if_pos h]

theorem states_of_ok (hshort : w.pen.length < length) (h : w.step ch = .ok w') :
    states ch length w = w :: states ch length w' := by
  rw [states, if_neg (Nat.not_le_of_lt hshort)]
  split
  · next v hv =>
    cases hv.symm.trans h
    rfl
  · next why hwhy => cases hwhy.symm.trans h

theorem states_of_error (hshort : w.pen.length < length) {why : WalkFailure}
    (h : w.step ch = .error why) : states ch length w = [w] := by
  rw [states, if_neg (Nat.not_le_of_lt hshort)]
  split
  · next v hv => cases hv.symm.trans h
  · rfl

theorem tries_of_le (h : length ≤ w.pen.length) : tries length w = false := by
  simp [tries, h]

theorem tries_of_nil {decks : List (List Direction)} (h : w.decks = [] :: decks) :
    tries length w = false := by simp [tries, h]

theorem tries_of_cons (hshort : w.pen.length < length) {d : Direction} {ds : List Direction}
    {decks : List (List Direction)} (h : w.decks = (d :: ds) :: decks) :
    tries length w = true := by simp [tries, h, hshort]

/-- A heading that is tried is paid for. A stroke is taken back for nothing. -/
theorem budget_step (hshort : w.pen.length < length) (h : w.step ch = .ok w') :
    w.budget = w'.budget + (if tries length w then 1 else 0) := by
  obtain ⟨decks, a, pen, hdecks, -, rfl⟩ | ⟨d, ds, decks, budget, why, hdecks, hb, -, rfl⟩ |
    ⟨d, ds, decks, budget, a, hdecks, hb, -, rfl⟩ := step_cases h
  · simp [tries_of_nil hdecks]
  · simp [tries_of_cons hshort hdecks, hb]
  · simp [tries_of_cons hshort hdecks, hb]

theorem sound_of_mem_states (hw : w.Sound length) : ∀ v ∈ states ch length w, v.Sound length := by
  fun_induction states ch length w with
  | case1 w hdone => simpa using hw
  | case2 w hmore w' hstep ih =>
    have hshort : w.pen.length < length := Nat.lt_of_not_le hmore
    exact List.forall_mem_cons.mpr ⟨hw, ih (hw.step hshort hstep)⟩
  | case3 w hmore why hwhy => simpa using hw

theorem Sound.one_le_measure (hw : w.Sound length) : 1 ≤ w.measure := by
  have hdecks := hw.length_decks
  rw [measure]
  omega

theorem length_states_le (hw : w.Sound length) : (states ch length w).length ≤ w.measure := by
  fun_induction states ch length w with
  | case1 w hdone => exact hw.one_le_measure
  | case2 w hmore w' hstep ih =>
    have hrest := ih (hw.step (Nat.lt_of_not_le hmore) hstep)
    have hfall := measure_step hstep
    rw [List.length_cons]
    omega
  | case3 w hmore why hwhy => exact hw.one_le_measure

theorem getLast?_states {u : Walk σ} (h : run ch length w = .ok u) :
    (states ch length w).getLast? = some u := by
  fun_induction run ch length w with
  | case1 w hdone =>
    cases h
    rw [states_of_le hdone, List.getLast?_singleton]
  | case2 w hmore w' hstep ih =>
    rw [states_of_ok (Nat.lt_of_not_le hmore) hstep, List.getLast?_cons, ih h, Option.getD_some]
  | case3 w hmore why hwhy => cases h

/-- A walk ends with a drawing of the length asked for, or with its budget spent to the last. -/
theorem run_cases (hw : w.Sound length) (hle : w.pen.length ≤ length) :
    (run ch length w = .error .overBudget ∧ tried ch length w = w.budget + 1) ∨
    ∃ u, run ch length w = .ok u ∧ u.Sound length ∧ u.pen.length = length ∧
      tried ch length w + u.budget = w.budget ∧ length + u.budget ≤ w.pen.length + w.budget := by
  fun_induction run ch length w with
  | case1 w hdone =>
    refine .inr ⟨w, rfl, hw, Nat.le_antisymm hle hdone, ?_, by omega⟩
    simp [tried, states_of_le hdone, tries_of_le hdone]
  | case2 w hmore w' hstep ih =>
    have hshort : w.pen.length < length := Nat.lt_of_not_le hmore
    have hpaid := budget_step hshort hstep
    obtain ⟨-, hone, hsum⟩ := lawful_step hw.lawful hstep
    have htried : tried ch length w =
        tried ch length w' + (if tries length w then 1 else 0) := by
      rw [tried, states_of_ok hshort hstep, List.countP_cons, tried]
    obtain ⟨hrun, hspent⟩ | ⟨u, hrun, hu, hlength, hspent, hcost⟩ :=
      ih (hw.step hshort hstep) (by omega)
    · exact .inl ⟨hrun, by omega⟩
    · exact .inr ⟨u, hrun, hu, hlength, by omega, by omega⟩
  | case3 w hmore why hwhy =>
    have hshort : w.pen.length < length := Nat.lt_of_not_le hmore
    obtain ⟨rfl, hb, d, ds, decks, hdecks⟩ | ⟨rfl, -⟩ := step_eq_error hwhy
    · refine .inl ⟨rfl, ?_⟩
      simp [tried, states_of_error hshort hwhy, tries_of_cons hshort hdecks, hb]
    · exact absurd hwhy (hw.step_ne_stuck hshort ch)

end States

/-- Whatever its chooser does, a walk goes through all there is to draw. It comes to an end, is
never stuck, and fails only for want of budget, never for want of a drawing. -/
theorem run_exhaustive (ch : Chooser σ) (length budget : Nat) (source : σ) :
    let w := begin ch budget source
    (states ch length w).length ≤ 2 * budget + 1 ∧
    (∀ v ∈ states ch length w, v.decks.length = v.pen.length + 1 ∧
      (v.pen.length < length → v.step ch ≠ .error .stuck) ∧
      ∀ decks, v.pen.length < length → v.decks = [] :: decks → ∀ as : List Angle,
        as.length = length → Pattern.isDrawable ⟨v.pen.start, as⟩ = true →
          ¬ v.pen.pattern.angles <+: as) ∧
    (∀ why, run ch length w = .error why ↔
      why = .overBudget ∧ tried ch length w = budget + 1) ∧
    (∀ u, run ch length w = .ok u → (states ch length w).getLast? = some u ∧
      u.pen.pattern.isDrawable = true ∧ u.pen.pattern.length = length ∧
      length ≤ tried ch length w ∧ tried ch length w ≤ budget) ∧
    (budget < UInt32.size - 1 → tried ch length w < UInt32.size) ∧
    ∀ (g : Generator σ) (b : Bounds) (seed : UInt64) (prototype : Pattern)
      (taken : Pattern → Bool), b.maxSteps.toNat < prototype.length →
      (Search.runWith g b seed prototype taken).found =
        .error ⟨prototype.signature, Search.attempts b⟩ := by
  intro w
  have hw : w.Sound length := sound_begin ch length budget source
  have hcases : (run ch length w = .error .overBudget ∧ tried ch length w = budget + 1) ∨
      ∃ u, run ch length w = .ok u ∧ u.Sound length ∧ u.pen.length = length ∧
        tried ch length w + u.budget = budget ∧ length + u.budget ≤ 0 + budget :=
    run_cases hw (Nat.zero_le length)
  refine ⟨length_states_le hw, ?_, ?_, ?_, ?_, ?_⟩
  · intro v hv
    have hv : v.Sound length := sound_of_mem_states hw v hv
    exact ⟨hv.length_decks, fun hshort => hv.step_ne_stuck hshort ch,
      fun decks hshort hdecks as hlength has => hv.not_isPrefix hshort hdecks hlength has⟩
  · intro why
    obtain ⟨hrun, htried⟩ | ⟨u, hrun, -, -, htried, -⟩ := hcases
    · rw [hrun, Except.error.injEq, htried]
      exact ⟨fun h => ⟨h.symm, rfl⟩, fun h => h.1.symm⟩
    · constructor
      · intro h
        cases hrun.symm.trans h
      · rintro ⟨-, h⟩
        omega
  · intro u hu
    obtain ⟨hrun, -⟩ | ⟨v, hrun, hv, hlength, htried, hcost⟩ := hcases
    · cases hrun.symm.trans hu
    · cases hrun.symm.trans hu
      refine ⟨getLast?_states hu, hv.lawful.drawable, ?_, by omega, by omega⟩
      rw [← hlength, Pattern.length, Pen.length]
      rfl
  · intro hbudget
    obtain ⟨-, htried⟩ | ⟨u, -, -, -, htried, -⟩ := hcases <;> omega
  · exact fun g b seed prototype taken hlong => Search.found_of_long g seed taken hlong

end Walk

end HexGesture
