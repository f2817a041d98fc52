import HexGesture.Proofs.Catalogue
import HexGesture.Proofs.Search
import HexGesture.Proofs.Spelling
import HexGesture.Proofs.Table
import HexGesture.Registry.Derivation

/-! Tables derived from a seed. Prototypes have their turns one after another; each turn adds one
entry at the end of the table or leaves the table alone. An entry once added is never touched
again, so what was taken when a prototype had its turn can be read off the finished table. Those
that add none are kept apart, so that every prototype is either placed or left out. -/
namespace HexGesture.Registry

variable {V E σ : Type}

/-- A drawing that may stand in for the prototype of a secret. -/
structure StandsIn (r : Registry V E) (e : Entry V E) (p : Pattern) : Prop where
  drawable : p.isDrawable = true
  length_eq : p.length = e.pattern.length
  differs : p.signature ≠ e.pattern.signature
  not_global : ∀ other ∈ r.catalogue.globals, other.pattern.signature ≠ p.signature
  unclaimed : ∀ h ∈ r.handlers, h.claim p = none

def secretEntry (e : Entry V E) (p : Pattern) : String × Secret := (p.signature, ⟨e.id, p.start⟩)

theorem isTaken_eq_false_iff {r : Registry V E} {t : SecretTable} {p : Pattern} :
    r.isTaken t p = false ↔
      (∀ other ∈ r.catalogue.globals, other.pattern.signature ≠ p.signature) ∧
      t.contains p.signature = false ∧ ∀ h ∈ r.handlers, h.claim p = none := by
  rw [isTaken, Bool.or_eq_false_iff, Bool.or_eq_false_iff, Option.isSome_eq_false_iff,
    Option.isNone_iff_eq_none, Catalogue.bound?_eq_none_iff, isClaimed_eq_false_iff, and_assoc]

/-- In its turn a prototype gets a new entry at the end of the table, or the table stays. -/
theorem placeWith_cases (r : Registry V E) (g : Generator σ) (d : Derivation) (e : Entry V E) :
    (∃ p, (Search.runWith g r.bounds d.table.seed e.pattern (r.isTaken d.table)).found = .ok p ∧
      r.StandsIn e p ∧ p.signature ∉ d.table.entries.map Prod.fst ∧
      (r.placeWith g d e).table.entries = d.table.entries ++ [secretEntry e p]) ∨
    (Search.runWith g r.bounds d.table.seed e.pattern (r.isTaken d.table)).found =
      .error ⟨e.pattern.signature, Search.attempts r.bounds⟩ ∧
      (r.placeWith g d e).table = d.table := by
  cases hf : (Search.runWith g r.bounds d.table.seed e.pattern (r.isTaken d.table)).found with
  | ok p =>
    obtain ⟨hdrawable, hlength, hdiffers, htaken⟩ := Search.found_eq_ok hf
    obtain ⟨hglobal, hnew, hclaim⟩ := isTaken_eq_false_iff.mp htaken
    have hmem : p.signature ∉ d.table.entries.map Prod.fst := by
      rw [← SecretTable.contains_iff, hnew]
      exact Bool.false_ne_true
    have hentries : (r.placeWith g d e).table.entries = d.table.entries ++ [secretEntry e p] := by
      simp only [placeWith, hf]
      exact SecretTable.entries_insert _ hnew
    exact .inl ⟨p, rfl, ⟨hdrawable, hlength, hdiffers, hglobal, hclaim⟩, hmem, hentries⟩
  | error why =>
    have hwhy := Search.found_eq_error hf
    refine .inr ⟨by rw [hwhy], ?_⟩
    simp only [placeWith, hf]

theorem seed_placeWith (r : Registry V E) (g : Generator σ) (d : Derivation) (e : Entry V E) :
    (r.placeWith g d e).table.seed = d.table.seed := by
  simp only [placeWith]
  split <;> rfl

theorem seed_foldl_placeWith (r : Registry V E) (g : Generator σ) (es : List (Entry V E))
    (d : Derivation) : (es.foldl (r.placeWith g) d).table.seed = d.table.seed := by
  induction es generalizing d with
  | nil => rfl
  | cons e es ih => rw [List.foldl_cons, ih, seed_placeWith]

/-- Turns only add entries, for some of the prototypes and in their order. -/
theorem entries_foldl_placeWith (r : Registry V E) (g : Generator σ) (es : List (Entry V E))
    (d : Derivation) :
    ∃ added, (es.foldl (r.placeWith g) d).table.entries = d.table.entries ++ added ∧
      (added.map fun x => x.2.operator).Sublist (es.map Entry.id) ∧
      ∀ x ∈ added, ∃ e ∈ es, ∃ p, r.StandsIn e p ∧ x = secretEntry e p := by
  induction es generalizing d with
  | nil => exact ⟨[], by simp, by simp, by simp⟩
  | cons e es ih =>
    obtain ⟨added, hadded, hsub, hfrom⟩ := ih (r.placeWith g d e)
    have hlater : ∀ x ∈ added, ∃ e' ∈ e :: es, ∃ p, r.StandsIn e' p ∧ x = secretEntry e' p := by
      intro x hx
      obtain ⟨e', he', hp⟩ := hfrom x hx
      exact ⟨e', List.mem_cons_of_mem e he', hp⟩
    obtain ⟨p, -, hp, -, hentries⟩ | ⟨-, htable⟩ := r.placeWith_cases g d e
    · refine ⟨secretEntry e p :: added, ?_, ?_, ?_⟩
      · rw [List.foldl_cons, hadded, hentries, List.append_assoc]
        rfl
      · exact hsub.cons_cons e.id
      · intro x hx
        rcases List.mem_cons.mp hx with rfl | hx
        · exact ⟨e, by simp, p, hp, rfl⟩
        · exact hlater x hx
    · refine ⟨added, ?_, hsub.cons e.id, hlater⟩
      rw [List.foldl_cons, hadded, htable]

def afterTurns (r : Registry V E) (g : Generator σ) (seed : UInt64) (es : List (Entry V E)) :
    Derivation := es.foldl (r.placeWith g) (.empty seed)

theorem seed_afterTurns (r : Registry V E) (g : Generator σ) (seed : UInt64)
    (es : List (Entry V E)) : (r.afterTurns g seed es).table.seed = seed :=
  r.seed_foldl_placeWith g es _

theorem operators_afterTurns (r : Registry V E) (g : Generator σ) (seed : UInt64)
    (es : List (Entry V E)) :
    (r.afterTurns g seed es).table.operators.Sublist (es.map Entry.id) := by
  obtain ⟨added, hadded, hsub, -⟩ := r.entries_foldl_placeWith g es (.empty seed)
  have hentries : (r.afterTurns g seed es).table.entries = added := hadded
  rw [SecretTable.operators, hentries]
  exact hsub

theorem standsIn_of_mem_afterTurns {r : Registry V E} {g : Generator σ} {seed : UInt64}
    {es : List (Entry V E)} {x : String × Secret}
    (hx : x ∈ (r.afterTurns g seed es).table.entries) :
    ∃ e ∈ es, ∃ p, r.StandsIn e p ∧ x = secretEntry e p := by
  obtain ⟨added, hadded, -, hfrom⟩ := r.entries_foldl_placeWith g es (.empty seed)
  have hentries : (r.afterTurns g seed es).table.entries = added := hadded
  rw [hentries] at hx
  exact hfrom x hx

theorem perm_placeWith (r : Registry V E) (g : Generator σ) (d : Derivation) (e : Entry V E) :
    ((r.placeWith g d e).table.operators ++ (r.placeWith g d e).omitted.map Prod.fst).Perm
      (e.id :: (d.table.operators ++ d.omitted.map Prod.fst)) := by
  obtain ⟨p, hfound, -, -, hentries⟩ | ⟨hfound, htable⟩ := r.placeWith_cases g d e
  · have homitted : (r.placeWith g d e).omitted = d.omitted := by simp only [placeWith, hfound]
    have hoperators : (r.placeWith g d e).table.operators = d.table.operators ++ [e.id] := by
      simp [SecretTable.operators, hentries, secretEntry]
    rw [homitted, hoperators, List.append_assoc]
    exact List.perm_middle
  · have homitted : (r.placeWith g d e).omitted.map Prod.fst =
        d.omitted.map Prod.fst ++ [e.id] := by simp [placeWith, hfound]
    rw [homitted, htable, ← List.append_assoc]
    exact List.perm_append_singleton _ _

theorem perm_foldl_placeWith (r : Registry V E) (g : Generator σ) (es : List (Entry V E))
    (d : Derivation) :
    ((es.foldl (r.placeWith g) d).table.operators ++
      (es.foldl (r.placeWith g) d).omitted.map Prod.fst).Perm
        (es.map Entry.id ++ (d.table.operators ++ d.omitted.map Prod.fst)) := by
  induction es generalizing d with
  | nil => exact List.Perm.refl _
  | cons e es ih =>
    have hturn := (r.perm_placeWith g d e).append_left (es.map Entry.id)
    exact ((ih (r.placeWith g d e)).trans hturn).trans List.perm_middle

/-- Every secret is placed or left out, and none is both. -/
theorem perm_deriveWith (r : Registry V E) (g : Generator σ) (seed : UInt64) :
    ((r.deriveWith g seed).table.operators ++
      (r.deriveWith g seed).omitted.map Prod.fst).Perm r.secretIds := by
  have hperm : ((r.deriveWith g seed).table.operators ++
      (r.deriveWith g seed).omitted.map Prod.fst).Perm (r.secretIds ++ []) :=
    r.perm_foldl_placeWith g r.catalogue.prototypes (.empty seed)
  rwa [List.append_nil] at hperm

theorem omitted_eq_nil_iff {r : Registry V E} {g : Generator σ} {seed : UInt64} :
    (r.deriveWith g seed).omitted = [] ↔ r.secretIds ⊆ (r.deriveWith g seed).table.operators := by
  have hperm := r.perm_deriveWith g seed
  have hnodup := hperm.nodup_iff.mpr r.nodup_secretIds
  constructor
  · intro hnone
    rw [hnone, List.map_nil, List.append_nil] at hperm
    exact hperm.symm.subset
  · intro hall
    refine List.eq_nil_iff_forall_not_mem.mpr fun o ho => ?_
    have hid : o.1 ∈ (r.deriveWith g seed).omitted.map Prod.fst := List.mem_map_of_mem ho
    have hplaced := hall (hperm.subset (List.mem_append_right _ hid))
    exact List.disjoint_of_nodup_append hnodup hplaced hid

/-- What is spoken for after some prototypes have had their turns, read off a finished table. -/
def isTakenAfter (r : Registry V E) (before : List (Entry V E)) (t : SecretTable) (p : Pattern) :
    Bool :=
  r.catalogue.globals.any (fun other => other.pattern.signature = p.signature) ||
    t.entries.any (fun x => x.1 = p.signature ∧ x.2.operator ∈ before.map Entry.id) ||
    r.handlers.any fun h => (h.claim p).isSome

/-! The finished table is looked at from the turn of one prototype. -/
section Turn

variable {r : Registry V E} {before after : List (Entry V E)} {e : Entry V E}

theorem ids_of_split (h : r.catalogue.prototypes = before ++ e :: after) :
    e.id ∉ before.map Entry.id ∧ e.id ∉ after.map Entry.id ∧
      ∀ id ∈ before.map Entry.id, id ∉ after.map Entry.id := by
  have hd := r.catalogue.nodup_prototypes_ids
  rw [h, List.map_append, List.map_cons, List.nodup_append, List.nodup_cons] at hd
  obtain ⟨-, ⟨hafter, -⟩, hdisjoint⟩ := hd
  refine ⟨fun hb => hdisjoint e.id hb e.id (by simp) rfl, hafter, ?_⟩
  exact fun id hb ha => hdisjoint id hb id (List.mem_cons_of_mem _ ha) rfl

theorem entries_deriveWith (g : Generator σ) (seed : UInt64)
    (h : r.catalogue.prototypes = before ++ e :: after) :
    ∃ later, (r.deriveWith g seed).table.entries =
        (r.placeWith g (r.afterTurns g seed before) e).table.entries ++ later ∧
      (later.map fun x => x.2.operator).Sublist (after.map Entry.id) := by
  obtain ⟨later, hlater, hafter, -⟩ := r.entries_foldl_placeWith g after
    (r.placeWith g (r.afterTurns g seed before) e)
  refine ⟨later, ?_, hafter⟩
  rw [deriveWith, h, List.foldl_append, List.foldl_cons]
  exact hlater

/-- The entries of earlier turns are those that reach earlier prototypes. -/
theorem mem_earlier_iff (g : Generator σ) (seed : UInt64)
    (h : r.catalogue.prototypes = before ++ e :: after) (x : String × Secret) :
    x ∈ (r.afterTurns g seed before).table.entries ↔
      x ∈ (r.deriveWith g seed).table.entries ∧ x.2.operator ∈ before.map Entry.id := by
  obtain ⟨hbefore, -, hdisjoint⟩ := ids_of_split h
  obtain ⟨later, hlater, hafter⟩ := entries_deriveWith g seed h
  have hplaced : ∃ new, (r.placeWith g (r.afterTurns g seed before) e).table.entries =
      (r.afterTurns g seed before).table.entries ++ new ∧
        ∀ y ∈ new, y.2.operator = e.id := by
    obtain ⟨p, -, -, -, hp⟩ | ⟨-, htable⟩ := r.placeWith_cases g (r.afterTurns g seed before) e
    · exact ⟨[secretEntry e p], hp, by simp [secretEntry]⟩
    · exact ⟨[], by rw [htable, List.append_nil], by simp⟩
  obtain ⟨new, hnew, hid⟩ := hplaced
  rw [hlater, hnew, List.mem_append, List.mem_append]
  constructor
  · intro hx
    have hop : x.2.operator ∈ (r.afterTurns g seed before).table.operators :=
      List.mem_map_of_mem hx
    exact ⟨.inl (.inl hx), (r.operators_afterTurns g seed before).subset hop⟩
  · rintro ⟨(hx | hx) | hx, hop⟩
    · exact hx
    · rw [hid x hx] at hop
      exact absurd hop hbefore
    · have hop' : x.2.operator ∈ after.map Entry.id := hafter.subset (List.mem_map_of_mem hx)
      exact absurd hop' (hdisjoint _ hop)

theorem isTakenAfter_eq (g : Generator σ) (seed : UInt64)
    (h : r.catalogue.prototypes = before ++ e :: after) :
    r.isTakenAfter before (r.deriveWith g seed).table =
      r.isTaken (r.afterTurns g seed before).table := by
  funext p
  have hglobal : (r.catalogue.globals.any fun other => other.pattern.signature = p.signature) =
      (r.catalogue.bound? p.signature).isSome := by
    rw [Bool.eq_iff_iff, Catalogue.bound?_isSome_iff, List.any_eq_true]
    simp
  have hclaim : (r.handlers.any fun h => (h.claim p).isSome) = r.isClaimed p := by
    rw [Bool.eq_iff_iff, isClaimed_iff, List.any_eq_true]
  have hentry : ((r.deriveWith g seed).table.entries.any fun x =>
      x.1 = p.signature ∧ x.2.operator ∈ before.map Entry.id) =
        (r.afterTurns g seed before).table.contains p.signature := by
    rw [Bool.eq_iff_iff, SecretTable.contains_iff, List.any_eq_true, List.mem_map]
    simp only [decide_eq_true_eq, mem_earlier_iff g seed h]
    constructor
    · rintro ⟨x, hx, hsig, hop⟩
      exact ⟨x, ⟨hx, hop⟩, hsig⟩
    · rintro ⟨x, ⟨hx, hop⟩, hsig⟩
      exact ⟨x, hx, hsig, hop⟩
  rw [isTakenAfter, isTaken, hglobal, hclaim, hentry]

/-- A prototype is left out just when its search fails. -/
theorem not_mem_operators_iff (g : Generator σ) (seed : UInt64)
    (h : r.catalogue.prototypes = before ++ e :: after) :
    e.id ∉ (r.deriveWith g seed).table.operators ↔
      (Search.runWith g r.bounds seed e.pattern
        (r.isTakenAfter before (r.deriveWith g seed).table)).found =
          .error ⟨e.pattern.signature, Search.attempts r.bounds⟩ := by
  obtain ⟨hbefore, hnotAfter, -⟩ := ids_of_split h
  obtain ⟨later, hlater, hafter⟩ := entries_deriveWith g seed h
  have hearlier : e.id ∉ (r.afterTurns g seed before).table.operators :=
    fun hm => hbefore ((r.operators_afterTurns g seed before).subset hm)
  have hcases := r.placeWith_cases g (r.afterTurns g seed before) e
  rw [seed_afterTurns] at hcases
  rw [isTakenAfter_eq g seed h, SecretTable.operators, hlater, List.map_append, List.mem_append]
  obtain ⟨p, hfound, -, -, hp⟩ | ⟨hfound, htable⟩ := hcases
  · rw [hp, hfound]
    simp [secretEntry]
  · rw [htable, hfound]
    simp only [iff_true, not_or]
    exact ⟨hearlier, fun hm => hnotAfter (hafter.subset hm)⟩

end Turn

/-- A prototype with more turns than a walk may try headings is left out, whatever the seed. -/
theorem not_mem_deriveWith_of_long {r : Registry V E} (g : Generator σ) (seed : UInt64)
    {e : Entry V E} (he : e ∈ r.catalogue.prototypes)
    (h : r.bounds.maxSteps.toNat < e.pattern.length) :
    e.id ∉ (r.deriveWith g seed).table.operators := by
  obtain ⟨before, after, hsplit⟩ := List.append_of_mem he
  exact (not_mem_operators_iff g seed hsplit).mpr (Search.found_of_long g seed _ h)

/-- A derived table places secrets in their order, each by a drawing that may stand in for its
prototype, and leaves out just those whose search fails. This holds for any generator. -/
theorem deriveWith_table (r : Registry V E) (g : Generator σ) (seed : UInt64) :
    (r.deriveWith g seed).table.seed = seed ∧
    (r.deriveWith g seed).table.operators.Sublist r.secretIds ∧
    (r.deriveWith g seed).table.operators.Nodup ∧
    ((r.deriveWith g seed).table.entries.map Prod.fst).Nodup ∧
    (∀ x ∈ (r.deriveWith g seed).table.entries, ∃ e ∈ r.catalogue.prototypes, ∃ p,
      x = (p.signature, ⟨e.id, p.start⟩) ∧ Pattern.ofSignature x.1 x.2.start = .ok p ∧
      r.StandsIn e p) ∧
    (∀ before e after, r.catalogue.prototypes = before ++ e :: after →
      ((r.placeWith g (r.afterTurns g seed before) e).table = (r.afterTurns g seed before).table ∨
        ∃ x, x.1 ∉ (r.afterTurns g seed before).table.entries.map Prod.fst ∧
          (r.placeWith g (r.afterTurns g seed before) e).table.entries =
            (r.afterTurns g seed before).table.entries ++ [x]) ∧
      (e.id ∉ (r.deriveWith g seed).table.operators ↔
        (Search.runWith g r.bounds seed e.pattern
          (r.isTakenAfter before (r.deriveWith g seed).table)).found =
            .error ⟨e.pattern.signature, Search.attempts r.bounds⟩)) ∧
    r.derive seed = r.deriveWith ChaCha8.generator seed := by
  have hsub : (r.deriveWith g seed).table.operators.Sublist r.secretIds :=
    r.operators_afterTurns g seed r.catalogue.prototypes
  refine ⟨r.seed_afterTurns g seed _, hsub, r.nodup_secretIds.sublist hsub,
    (r.deriveWith g seed).table.distinct, ?_, ?_, rfl⟩
  · intro x hx
    obtain ⟨e, he, p, hp, rfl⟩ := standsIn_of_mem_afterTurns hx
    exact ⟨e, he, p, rfl, Pattern.ofSignature_signature hp.drawable, hp⟩
  · intro before e after h
    refine ⟨?_, not_mem_operators_iff g seed h⟩
    obtain ⟨p, -, -, hnew, hp⟩ | ⟨-, htable⟩ :=
      r.placeWith_cases g (r.afterTurns g seed before) e
    · exact .inr ⟨secretEntry e p, hnew, hp⟩
    · exact .inl htable

end HexGesture.Registry
