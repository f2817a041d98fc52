import HexGesture.Proofs.Rotation
import HexGesture.Proofs.Secrets

/-! What answers for a drawing. Resolving never looks at whether a drawing can be drawn, and the
tables know it by its turns alone. But whoever put those turns into a table drew them first, from
some start or other, and turns that can be drawn from one start can be drawn from every other. -/
namespace HexGesture.Registry

variable {V E : Type}

/-- A handler answers for a drawing, or a global signature, or the world's table, or nobody. -/
theorem resolve_cases (r : Registry V E) (p : Pattern) (w : World) (m : Memory) :
    (∃ name op, r.claim? p = some (name, op) ∧ (r.resolve p w m).1 = .ok ⟨op, .handler name⟩) ∨
    (∃ e ∈ r.catalogue.globals, e.pattern.angles = p.angles ∧
      (r.resolve p w m).1 = .ok ⟨e.operator, .global e.id⟩) ∨
    (∃ e s, (p.signature, s) ∈ (r.table w m).1.entries ∧ r.catalogue.find? s.operator = some e ∧
      (r.resolve p w m).1 = .ok ⟨e.operator, .perWorld e.id⟩) ∨
    (r.resolve p w m).1 = .error (.unrecognized p) := by
  cases hclaim : r.claim? p with
  | some c => exact .inl ⟨c.1, c.2, rfl, by simp [resolve, hclaim]⟩
  | none =>
    cases hglobal : r.catalogue.globalFor? p.signature with
    | some e =>
      obtain ⟨he, hsame⟩ := Catalogue.globalFor?_eq_some_iff.mp hglobal
      exact .inr (.inl ⟨e, he, Pattern.signature_inj.mp hsame, by simp [resolve, hclaim, hglobal]⟩)
    | none =>
      cases hget : (r.table w m).1.get? p.signature with
      | none => exact .inr (.inr (.inr (by simp [resolve, hclaim, hglobal, hget])))
      | some s =>
        have hentry := SecretTable.get?_eq_some_iff.mp hget
        cases hfind : r.catalogue.find? s.operator with
        | none => exact .inr (.inr (.inr (by simp [resolve, hclaim, hglobal, hget, hfind])))
        | some e =>
          refine .inr (.inr (.inl ⟨e, s, hentry, hfind, ?_⟩))
          simp [resolve, hclaim, hglobal, hget, hfind]

/-- A sound table has no turns that cannot be drawn. -/
theorem Sound.isDrawable {r : Registry V E} {t : SecretTable} (h : r.Sound t) {p : Pattern}
    {s : Secret} (hentry : (p.signature, s) ∈ t.entries) : p.isDrawable = true := by
  obtain ⟨q, hq, -⟩ := isReachable_iff.mp (h.reachable _ hentry)
  obtain ⟨-, hsignature, hdrawable⟩ := Pattern.ofSignature_eq_ok_iff.mp hq
  have hangles : q.angles = p.angles := Pattern.signature_inj.mp hsignature
  have hp : p = ⟨p.start, q.angles⟩ := by rw [hangles]
  rw [hp]
  exact Pattern.isDrawable_of_isDrawable hdrawable p.start

theorem isDrawable_of_mem {r : Registry V E} {e : Entry V E} (he : e ∈ r.catalogue.entries)
    {p : Pattern} (hangles : e.pattern.angles = p.angles) : p.isDrawable = true := by
  have hp : p = ⟨p.start, e.pattern.angles⟩ := by rw [hangles]
  rw [hp]
  exact Pattern.isDrawable_of_isDrawable (r.catalogue.drawable e he) p.start

/-- Whatever the store held at first, whatever was asked and done to the store since: a drawing
for which a global signature or a world's table answers is one that a pen can draw from where it
starts. A drawing that no pen can draw reaches a handler or nothing. -/
theorem isDrawable_of_resolve_after (r : Registry V E) (st : Store) (qs : List Query) (w : World)
    {p : Pattern} {id : OperatorId}
    (h : (r.resolve p w (r.after st qs)).1.map Resolution.origin = .ok (.global id) ∨
      (r.resolve p w (r.after st qs)).1.map Resolution.origin = .ok (.perWorld id)) :
    p.isDrawable = true := by
  obtain ⟨name, op, -, hres⟩ | ⟨e, he, hangles, -⟩ | ⟨e, s, hentry, -⟩ | hres :=
    r.resolve_cases p w (r.after st qs)
  · simp [hres, Except.map] at h
  · exact isDrawable_of_mem (Catalogue.mem_globals.mp he).1 hangles
  · exact (r.sound_table_after st qs w).isDrawable hentry
  · simp [hres, Except.map] at h

def mixed.common : OperatorId := ⟨"hexcasting", "common", by decide, by decide⟩

def mixed.secret : OperatorId := ⟨"hexcasting", "secret", by decide, by decide⟩

/-- A global operator and a secret, of three turns each. -/
def mixed : Registry Unit Unit where
  bounds := .default
  backing := .store
  catalogue :=
    { operators :=
        [(mixed.common, ⟨.global "qaq" .east, .constant ()⟩),
          (mixed.secret, ⟨.perWorld ⟨.east, [.right, .rightBack, .right]⟩, .constant ()⟩)]
      index := [("qaq", mixed.common)]
      ids_distinct := by decide
      index_eq := by decide +kernel
      signatures_distinct := by decide
      drawable := by decide +kernel
      prototypes_turn := by decide +kernel }
  handlers := []
  walkable := by decide

theorem entries_derive_mixed :
    (mixed.derive 42).table.entries = [("weq", ⟨mixed.secret, .west⟩)] := by decide +kernel

def mixed.table : SecretTable := ⟨42, [("eee", ⟨mixed.secret, .west⟩)], by decide⟩

def mixed.traffic : List Query := [.table ⟨7, 42⟩, .store (.failSaves true), .unload 7]

/-- Both tables answer for drawings from other starts than those they were made with. -/
theorem isDrawable_of_resolve_after_mixed :
    let m := mixed.after (Store.empty.keep 7 mixed.table).2 mixed.traffic
    let p : Pattern := ⟨.southEast, [.left, .leftBack, .left]⟩
    let q : Pattern := ⟨.northEast, [.right, .right, .right]⟩
    ((mixed.resolve p ⟨7, 42⟩ m).1.map Resolution.origin = .ok (.global mixed.common) ∧
      p.isDrawable = true) ∧
    ((mixed.resolve q ⟨7, 42⟩ m).1.map Resolution.origin = .ok (.perWorld mixed.secret) ∧
      q.isDrawable = true) := by
  intro m p q
  have hp : (mixed.resolve p ⟨7, 42⟩ m).1.map Resolution.origin =
      .ok (.global mixed.common) := by decide +kernel
  have hq : (mixed.resolve q ⟨7, 42⟩ m).1.map Resolution.origin =
      .ok (.perWorld mixed.secret) := by decide +kernel
  exact ⟨⟨hp, mixed.isDrawable_of_resolve_after _ mixed.traffic ⟨7, 42⟩ (.inl hp)⟩,
    hq, mixed.isDrawable_of_resolve_after _ mixed.traffic ⟨7, 42⟩ (.inr hq)⟩

end HexGesture.Registry
