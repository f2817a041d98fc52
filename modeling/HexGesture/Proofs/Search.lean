import HexGesture.Proofs.Drawing
import HexGesture.Secret.Alternate

/-! What a search for a secret's drawing finds, whatever choices its generator makes. A walk only
ever holds a drawing made by the rules, so a walk that ends has drawn as many turns as it was asked
for; a search settles for such a drawing if it is neither the prototype's own nor taken. -/
namespace HexGesture

theorem Bounds.maxSteps_default_ne : Bounds.default.maxSteps ≠ 0 := by decide

namespace Walk

variable {σ : Type}

/-- A step takes a stroke back, or tries a heading, which is refused or drawn. -/
theorem step_cases {ch : Chooser σ} {w w' : Walk σ} (h : w.step ch = .ok w') :
    (∃ decks a pen, w.decks = [] :: decks ∧ w.pen.pop = some (a, pen) ∧
      w' = ⟨pen, decks, w.budget, w.source⟩) ∨
    (∃ d ds decks budget why, w.decks = (d :: ds) :: decks ∧ w.budget = budget + 1 ∧
      w.pen.check d = .error why ∧ w' = ⟨w.pen, ds :: decks, budget, w.source⟩) ∨
    (∃ d ds decks budget a, w.decks = (d :: ds) :: decks ∧ w.budget = budget + 1 ∧
      w.pen.check d = .ok a ∧
      w' = ⟨w.pen.push a, (ch.deck w.source).1 :: ds :: decks, budget, (ch.deck w.source).2⟩) := by
  obtain ⟨pen, decks, budget, source⟩ := w
  cases decks with
  | nil => cases h
  | cons deck decks =>
    cases deck with
    | nil =>
      cases hp : pen.pop with
      | none => simp [step, hp] at h
      | some r =>
        simp only [step, hp, Except.ok.injEq] at h
        exact .inl ⟨decks, r.1, r.2, rfl, rfl, h.symm⟩
    | cons d ds =>
      cases budget with
      | zero => cases h
      | succ budget =>
        cases hc : pen.check d with
        | error why =>
          simp only [step, hc, Except.ok.injEq] at h
          exact .inr (.inl ⟨d, ds, decks, budget, why, rfl, rfl, hc, h.symm⟩)
        | ok a =>
          simp only [step, hc, Except.ok.injEq] at h
          exact .inr (.inr ⟨d, ds, decks, budget, a, rfl, rfl, hc, h.symm⟩)

/-- Every step keeps the drawing lawful. It adds one turn at most, and pays for it. -/
theorem lawful_step {ch : Chooser σ} {w w' : Walk σ} (hw : w.pen.Lawful)
    (h : w.step ch = .ok w') : w'.pen.Lawful ∧ w'.pen.length ≤ w.pen.length + 1 ∧
      w'.pen.length + w'.budget ≤ w.pen.length + w.budget := by
  obtain ⟨decks, a, pen, -, hp, rfl⟩ | ⟨d, ds, decks, budget, why, -, hb, -, rfl⟩ |
    ⟨d, ds, decks, budget, a, -, hb, hc, rfl⟩ := step_cases h
  · obtain ⟨hpen, hpush⟩ := hw.eq_push_of_pop hp
    have hlength : w.pen.length = pen.length + 1 := by rw [hpush, Pen.length_push]
    refine ⟨hpen, ?_, ?_⟩ <;> simp only <;> omega
  · refine ⟨hw, Nat.le_succ _, ?_⟩
    simp only
    omega
  · obtain ⟨-, hn⟩ := (Pen.check_eq_ok_iff hw.sighted d a).mp hc
    have hlength := Pen.length_push w.pen a
    refine ⟨hw.push hn, Nat.le_of_eq hlength, ?_⟩
    simp only
    omega

/-- A walk that ends has a lawful drawing of exactly the length asked for, all of it paid for. -/
theorem lawful_run {ch : Chooser σ} {length : Nat} {w w' : Walk σ} (hw : w.pen.Lawful)
    (hlen : w.pen.length ≤ length) (h : w.run ch length = .ok w') :
    w'.pen.Lawful ∧ w'.pen.length = length ∧ length ≤ w.pen.length + w.budget := by
  fun_induction run ch length w with
  | case1 w hdone =>
    cases h
    exact ⟨hw, Nat.le_antisymm hlen hdone, by omega⟩
  | case2 w hmore v hv ih =>
    obtain ⟨hpen, hstep, hpaid⟩ := lawful_step hw hv
    obtain ⟨hend, hlength, hbudget⟩ := ih hpen (by omega) h
    exact ⟨hend, hlength, by omega⟩
  | case3 w hmore why hwhy => cases h

end Walk

theorem Generator.candidate?_eq_some {σ : Type} {g : Generator σ} {b : Bounds} {seed : UInt64}
    {prototype c : Pattern} {attempt : Nat}
    (h : g.candidate? b seed prototype attempt = some c) :
    c.isDrawable = true ∧ c.length = prototype.length ∧
      prototype.length ≤ b.maxSteps.toNat := by
  rw [candidate?, Option.map_eq_some_iff] at h
  obtain ⟨w, hw, rfl⟩ := h
  have hrun : (Walk.begin g.toChooser b.maxSteps.toNat
      (g.ofSeed (attemptSeed seed prototype attempt))).run g.toChooser prototype.length =
        .ok w := by
    revert hw
    cases Walk.run g.toChooser prototype.length _ with
    | ok v => exact fun hv => congrArg Except.ok (Option.some.inj hv)
    | error why => exact fun hv => nomatch hv
  obtain ⟨hpen, hlength, hbudget⟩ := Walk.lawful_run (Pen.lawful_fresh _) (Nat.zero_le _) hrun
  have hsteps : prototype.length ≤ b.maxSteps.toNat := by
    simpa [Walk.begin, Pen.length, Pen.fresh] using hbudget
  exact ⟨hpen.drawable, hlength, hsteps⟩

namespace Search

section First

variable {candidate? : Nat → Option Pattern} {prototype : Pattern} {taken taken' : Pattern → Bool}

/-- The drawing of attempt `k` may stand in for the prototype. -/
structure Suits (candidate? : Nat → Option Pattern) (prototype : Pattern) (taken : Pattern → Bool)
    (k : Nat) (c : Pattern) : Prop where
  drawn : candidate? k = some c
  differs : c.signature ≠ prototype.signature
  free : taken c = false

/-- Attempt `k` is the first one whose drawing may. -/
structure Settles (candidate? : Nat → Option Pattern) (prototype : Pattern)
    (taken : Pattern → Bool) (k : Nat) (c : Pattern) : Prop extends
    Suits candidate? prototype taken k c where
  first : ∀ j < k, ∀ c', ¬ Suits candidate? prototype taken j c'

/-- The drawings of the first `n` attempts, but for the prototype's own. -/
def others (candidate? : Nat → Option Pattern) (prototype : Pattern) (n : Nat) : List Pattern :=
  ((List.range n).filterMap candidate?).filter fun c => c.signature ≠ prototype.signature

theorem Suits.of_le (hle : ∀ p, taken p = true → taken' p = true) {k : Nat} {c : Pattern}
    (h : Suits candidate? prototype taken' k c) : Suits candidate? prototype taken k c := by
  have hfree : taken c = false := by
    by_contra htaken
    have htaken' := hle c (by simpa using htaken)
    rw [h.free] at htaken'
    cases htaken'
  exact ⟨h.drawn, h.differs, hfree⟩

theorem Settles.le_of_le (hle : ∀ p, taken p = true → taken' p = true) {k k' : Nat}
    {c c' : Pattern} (h : Settles candidate? prototype taken k c)
    (h' : Settles candidate? prototype taken' k' c') : k ≤ k' := by
  by_contra hearlier
  exact h.first k' (Nat.lt_of_not_le hearlier) c' (h'.toSuits.of_le hle)

theorem Settles.unique {k k' : Nat} {c c' : Pattern} (h : Settles candidate? prototype taken k c)
    (h' : Settles candidate? prototype taken k' c') : k = k' ∧ c = c' := by
  have hk : k = k' := Nat.le_antisymm (h.le_of_le (fun _ => id) h') (h'.le_of_le (fun _ => id) h)
  subst hk
  exact ⟨rfl, Option.some.inj (h.drawn.symm.trans h'.drawn)⟩

theorem not_suits_succ {attempt : Nat}
    (hbefore : ∀ j < attempt, ∀ c, ¬ Suits candidate? prototype taken j c)
    (h : ∀ c, ¬ Suits candidate? prototype taken attempt c) :
    ∀ j < attempt + 1, ∀ c, ¬ Suits candidate? prototype taken j c := by
  intro j hj
  rcases Nat.lt_succ_iff_lt_or_eq.mp hj with hj | rfl
  · exact hbefore j hj
  · exact h

/-- Where attempts are looked at one after another, none before the next one suits and what was
asked about are their drawings. So it is found out which one is the first that suits, if any of
them does. -/
theorem first?_cases {attempt n : Nat} {asked : Array Pattern}
    (hbefore : ∀ j < attempt, ∀ c, ¬ Suits candidate? prototype taken j c)
    (hasked : asked.toList = others candidate? prototype attempt) :
    let r := first? candidate? prototype.angles taken attempt asked n
    (∃ k c, k < attempt + n ∧ Settles candidate? prototype taken k c ∧
      r.1.toList = others candidate? prototype (k + 1) ∧ r.2 = some c) ∨
    (∀ j < attempt + n, ∀ c, ¬ Suits candidate? prototype taken j c) ∧
      r.1.toList = others candidate? prototype (attempt + n) ∧ r.2 = none := by
  fun_induction first? candidate? prototype.angles taken attempt asked n with
  | case1 attempt asked => exact .inr ⟨hbefore, hasked, rfl⟩
  | case2 attempt asked n hnone ih =>
    rw [← Nat.succ_add_eq_add_succ attempt n]
    refine ih (not_suits_succ hbefore fun c h => ?_) ?_
    · rw [h.drawn] at hnone
      cases hnone
    · simp [hasked, others, List.range_succ, hnone]
  | case3 attempt asked n c hc hown ih =>
    rw [← Nat.succ_add_eq_add_succ attempt n]
    have hsame : c.signature = prototype.signature := Pattern.signature_inj.mpr hown
    refine ih (not_suits_succ hbefore fun c' h => ?_) ?_
    · obtain rfl : c' = c := Option.some.inj (h.drawn.symm.trans hc)
      exact h.differs hsame
    · simp [hasked, others, List.range_succ, hc, hsame]
  | case4 attempt asked n c hc hown htaken ih =>
    rw [← Nat.succ_add_eq_add_succ attempt n]
    have hdiffers : c.signature ≠ prototype.signature := fun h => hown (Pattern.signature_inj.mp h)
    refine ih (not_suits_succ hbefore fun c' h => ?_) ?_
    · obtain rfl : c' = c := Option.some.inj (h.drawn.symm.trans hc)
      rw [h.free] at htaken
      cases htaken
    · simp [hasked, others, List.range_succ, hc, hdiffers]
  | case5 attempt asked n c hc hown htaken =>
    have hdiffers : c.signature ≠ prototype.signature := fun h => hown (Pattern.signature_inj.mp h)
    refine .inl ⟨attempt, c, by omega, ⟨⟨hc, hdiffers, by simpa using htaken⟩, hbefore⟩, ?_, rfl⟩
    simp [hasked, others, List.range_succ, hc, hdiffers]

end First

variable {σ : Type} {g : Generator σ} {b : Bounds} {seed : UInt64} {prototype : Pattern}
  {taken : Pattern → Bool}

theorem runWith_cases (g : Generator σ) (b : Bounds) (seed : UInt64) (prototype : Pattern)
    (taken : Pattern → Bool) :
    (∃ k c, k ≤ b.maxRetries.toNat ∧
      Settles (g.candidate? b seed prototype) prototype taken k c ∧
      runWith g b seed prototype taken =
        ⟨others (g.candidate? b seed prototype) prototype (k + 1), .ok c⟩) ∨
    (∀ k ≤ b.maxRetries.toNat, ∀ c, ¬ Suits (g.candidate? b seed prototype) prototype taken k c) ∧
      runWith g b seed prototype taken =
        ⟨others (g.candidate? b seed prototype) prototype (b.maxRetries.toNat + 1),
          .error ⟨prototype.signature, attempts b⟩⟩ := by
  have hcases := @first?_cases (g.candidate? b seed prototype) prototype taken 0
    (b.maxRetries.toNat + 1) #[] (fun j hj => absurd hj (Nat.not_lt_zero j)) rfl
  simp only [Nat.zero_add] at hcases
  obtain ⟨k, c, hk, hsettles, hasked, hfound⟩ | ⟨hnone, hasked, hfound⟩ := hcases
  · refine .inl ⟨k, c, Nat.lt_succ_iff.mp hk, hsettles, ?_⟩
    simp only [runWith, hasked, hfound]
  · refine .inr ⟨fun k hk => hnone k (Nat.lt_succ_of_le hk), ?_⟩
    simp only [runWith, hasked, hfound]

theorem runWith_of_settles {k : Nat} {c : Pattern} (hk : k ≤ b.maxRetries.toNat)
    (h : Settles (g.candidate? b seed prototype) prototype taken k c) :
    runWith g b seed prototype taken =
      ⟨others (g.candidate? b seed prototype) prototype (k + 1), .ok c⟩ := by
  obtain ⟨k', c', -, h', hrun⟩ | ⟨hnone, -⟩ := runWith_cases g b seed prototype taken
  · obtain ⟨rfl, rfl⟩ := h.unique h'
    exact hrun
  · exact absurd h.toSuits (hnone k hk c)

theorem runWith_of_not_suits
    (h : ∀ k ≤ b.maxRetries.toNat, ∀ c,
      ¬ Suits (g.candidate? b seed prototype) prototype taken k c) :
    runWith g b seed prototype taken =
      ⟨others (g.candidate? b seed prototype) prototype (b.maxRetries.toNat + 1),
        .error ⟨prototype.signature, attempts b⟩⟩ := by
  obtain ⟨k, c, hk, hsettles, -⟩ | ⟨-, hrun⟩ := runWith_cases g b seed prototype taken
  · exact absurd hsettles.toSuits (h k hk c)
  · exact hrun

theorem found_eq_ok {c : Pattern} (h : (runWith g b seed prototype taken).found = .ok c) :
    c.isDrawable = true ∧ c.length = prototype.length ∧ c.signature ≠ prototype.signature ∧
      taken c = false := by
  obtain ⟨k, c', -, hsettles, hrun⟩ | ⟨-, hrun⟩ := runWith_cases g b seed prototype taken
  · rw [hrun] at h
    cases h
    obtain ⟨hdrawable, hlength, -⟩ := Generator.candidate?_eq_some hsettles.drawn
    exact ⟨hdrawable, hlength, hsettles.differs, hsettles.free⟩
  · rw [hrun] at h
    cases h

theorem found_eq_error {why : Exhausted}
    (h : (runWith g b seed prototype taken).found = .error why) :
    why = ⟨prototype.signature, attempts b⟩ := by
  obtain ⟨k, c, -, -, hrun⟩ | ⟨-, hrun⟩ := runWith_cases g b seed prototype taken
  · rw [hrun] at h
    cases h
  · rw [hrun] at h
    cases h
    rfl

/-- Taking more than before makes no difference to a search that found nothing, or whose find is not
among what is taken now. -/
theorem found_of_le (g : Generator σ) (b : Bounds) (seed : UInt64) (prototype : Pattern)
    {taken taken' : Pattern → Bool} (hle : ∀ p, taken p = true → taken' p = true)
    (hfree : ∀ c, (runWith g b seed prototype taken).found = .ok c → taken' c = false) :
    (runWith g b seed prototype taken').found = (runWith g b seed prototype taken).found := by
  obtain ⟨k, c, hk, h, hrun⟩ | ⟨hnone, hrun⟩ := runWith_cases g b seed prototype taken
  · have h' : Settles (g.candidate? b seed prototype) prototype taken' k c :=
      ⟨⟨h.drawn, h.differs, hfree c (by rw [hrun])⟩,
        fun j hj c' hc' => h.first j hj c' (hc'.of_le hle)⟩
    rw [runWith_of_settles hk h', hrun]
  · rw [runWith_of_not_suits fun k hk c hc => hnone k hk c (hc.of_le hle), hrun]

theorem found_of_long (g : Generator σ) {b : Bounds} (seed : UInt64)
    {prototype : Pattern} (taken : Pattern → Bool) (h : b.maxSteps.toNat < prototype.length) :
    (runWith g b seed prototype taken).found = .error ⟨prototype.signature, attempts b⟩ := by
  have hnone : ∀ k ≤ b.maxRetries.toNat, ∀ c,
      ¬ Suits (g.candidate? b seed prototype) prototype taken k c := by
    intro k _ c hc
    obtain ⟨-, -, hsteps⟩ := Generator.candidate?_eq_some hc.drawn
    omega
  rw [runWith_of_not_suits hnone]

end Search

end HexGesture
