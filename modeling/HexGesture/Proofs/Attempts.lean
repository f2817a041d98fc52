import HexGesture.Proofs.Search

/-! The attempts of a search, seen from outside. A search asks about the drawings of its attempts
one after another, and about nothing else, so it cannot tell apart two judges who agree on what it
asked one of them; and one who takes more lets it settle no earlier. -/
namespace HexGesture.Search

section Judges

variable {candidate? : Nat → Option Pattern} {prototype : Pattern} {taken taken' : Pattern → Bool}

theorem mem_others_iff {n : Nat} {c : Pattern} :
    c ∈ others candidate? prototype n ↔
      ∃ k < n, candidate? k = some c ∧ c.signature ≠ prototype.signature := by
  simp only [others, List.mem_filter, List.mem_filterMap, List.mem_range, decide_eq_true_eq]
  constructor
  · rintro ⟨⟨k, hk, hc⟩, hdiffers⟩
    exact ⟨k, hk, hc, hdiffers⟩
  · rintro ⟨k, hk, hc, hdiffers⟩
    exact ⟨⟨k, hk, hc⟩, hdiffers⟩

theorem Suits.mem_others {k n : Nat} {c : Pattern} (h : Suits candidate? prototype taken k c)
    (hk : k < n) : c ∈ others candidate? prototype n :=
  mem_others_iff.mpr ⟨k, hk, h.drawn, h.differs⟩

theorem Suits.of_agree {n : Nat}
    (hagree : ∀ c ∈ others candidate? prototype n, taken' c = taken c) {k : Nat} (hk : k < n)
    {c : Pattern} (h : Suits candidate? prototype taken k c) :
    Suits candidate? prototype taken' k c :=
  ⟨h.drawn, h.differs, by rw [hagree c (h.mem_others hk), h.free]⟩

theorem Settles.of_agree {k : Nat} {c : Pattern}
    (hagree : ∀ c ∈ others candidate? prototype (k + 1), taken' c = taken c)
    (h : Settles candidate? prototype taken k c) : Settles candidate? prototype taken' k c where
  toSuits := h.toSuits.of_agree hagree (Nat.lt_succ_self k)
  first j hj c' hc' :=
    h.first j hj c' (hc'.of_agree (fun x hx => (hagree x hx).symm) (Nat.lt_succ_of_lt hj))

end Judges

variable {σ : Type}

theorem runWith_of_agree (g : Generator σ) (b : Bounds) (seed : UInt64) (prototype : Pattern)
    {taken taken' : Pattern → Bool}
    (hagree : ∀ c ∈ (runWith g b seed prototype taken).asked, taken' c = taken c) :
    runWith g b seed prototype taken' = runWith g b seed prototype taken := by
  obtain ⟨k, c, hk, h, hrun⟩ | ⟨hnone, hrun⟩ := runWith_cases g b seed prototype taken
  · rw [hrun] at hagree ⊢
    exact runWith_of_settles hk (h.of_agree hagree)
  · rw [hrun] at hagree ⊢
    refine runWith_of_not_suits fun k hk c hc => hnone k hk c ?_
    exact hc.of_agree (fun x hx => (hagree x hx).symm) (Nat.lt_succ_of_le hk)

/-- A search settles for the first attempt that ends with a suitable drawing, and fails if none up
to the last one allowed does. It asks about no drawings but those of the attempts it looked at. -/
theorem runWith_first (g : Generator σ) (b : Bounds) (seed : UInt64) (prototype : Pattern)
    (taken : Pattern → Bool) :
    let walk := fun k => Walk.begin g.toChooser b.maxSteps.toNat
      (g.ofSeed (attemptSeed seed prototype k))
    let candidate? := fun k => ((walk k).run g.toChooser prototype.length).toOption.map
      (·.pen.pattern)
    let s := runWith g b seed prototype taken
    ((∃ k c, k ≤ b.maxRetries.toNat ∧ Settles candidate? prototype taken k c ∧
        s = ⟨others candidate? prototype (k + 1), .ok c⟩ ∧
        c.isDrawable = true ∧ c.length = prototype.length) ∨
      (∀ k ≤ b.maxRetries.toNat, ∀ c, ¬ Suits candidate? prototype taken k c) ∧
        s = ⟨others candidate? prototype (b.maxRetries.toNat + 1),
          .error ⟨prototype.signature, min (b.maxRetries.toNat + 1) (UInt32.size - 1)⟩⟩) ∧
    (∀ taken', (∀ c ∈ s.asked, taken' c = taken c) → runWith g b seed prototype taken' = s) ∧
    (∀ taken', (∀ p, taken p = true → taken' p = true) →
      (∀ why, s.found = .error why →
        (runWith g b seed prototype taken').found = .error why) ∧
      ∀ k c k' c', Settles candidate? prototype taken k c →
        Settles candidate? prototype taken' k' c' → k ≤ k') ∧
    run b seed prototype taken = runWith ChaCha8.generator b seed prototype taken := by
  intro walk candidate? s
  refine ⟨?_, fun taken' hagree => runWith_of_agree g b seed prototype hagree, ?_, rfl⟩
  · obtain ⟨k, c, hk, h, hrun⟩ | hnone := runWith_cases g b seed prototype taken
    · obtain ⟨hdrawable, hlength, -⟩ := Generator.candidate?_eq_some h.drawn
      exact .inl ⟨k, c, hk, h, hrun, hdrawable, hlength⟩
    · exact .inr hnone
  · intro taken' hle
    refine ⟨fun why hwhy => ?_, fun k c k' c' h h' => h.le_of_le hle h'⟩
    have hsame := found_of_le g b seed prototype hle fun c hc => by
      cases hwhy.symm.trans hc
    rw [hsame]
    exact hwhy

end HexGesture.Search
