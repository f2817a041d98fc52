/-! Lists of pairs as maps, which keep their keys in the order in which these first came in. -/
namespace HexGesture.Keyed

variable {κ α : Type} [DecidableEq κ]

/-- A new key goes to the end; a known one keeps its place. -/
def put (k : κ) (x : α) (entries : List (κ × α)) : List (κ × α) :=
  if entries.any (·.1 == k) then entries.map fun e => if e.1 == k then (k, x) else e
  else entries ++ [(k, x)]

theorem put_of_not_mem {k : κ} {entries : List (κ × α)} (x : α)
    (h : k ∉ entries.map Prod.fst) : put k x entries = entries ++ [(k, x)] := by
  simp only [List.mem_map, not_exists, not_and] at h
  have : entries.any (·.1 == k) = false := by
    simpa using fun a b hab heq => h (a, b) hab heq
  simp [put, this]

theorem keys_put (k : κ) (x : α) (entries : List (κ × α)) :
    (put k x entries).map Prod.fst =
      if k ∈ entries.map Prod.fst then entries.map Prod.fst
      else entries.map Prod.fst ++ [k] := by
  split
  · next h =>
    have : entries.any (·.1 == k) = true := by
      simp only [List.mem_map] at h
      obtain ⟨e, he, rfl⟩ := h
      exact List.any_eq_true.mpr ⟨e, he, by simp⟩
    simp only [put, this, if_true, List.map_map]
    refine List.map_congr_left fun e _ => ?_
    by_cases h : e.1 = k <;> simp [h]
  · next h => simp [put_of_not_mem x h]

theorem nodup_put (k : κ) (x : α) {entries : List (κ × α)}
    (h : (entries.map Prod.fst).Nodup) : ((put k x entries).map Prod.fst).Nodup := by
  rw [keys_put]
  split
  · exact h
  · next hn => exact List.nodup_append.mpr ⟨h, by simp, fun a ha b hb hab => hn (by simp_all)⟩

theorem lookup_eq_none_iff {k : κ} {entries : List (κ × α)} :
    entries.lookup k = none ↔ k ∉ entries.map Prod.fst := by
  rw [List.lookup_eq_none_iff, List.mem_map]
  constructor
  · rintro h ⟨e, he, rfl⟩
    simpa using h e he
  · intro h e he
    simpa using fun hk => h ⟨e, he, hk.symm⟩

theorem lookup_eq_some_iff {k : κ} {x : α} {entries : List (κ × α)}
    (hd : (entries.map Prod.fst).Nodup) : entries.lookup k = some x ↔ (k, x) ∈ entries := by
  induction entries with
  | nil => simp
  | cons e es ih =>
    obtain ⟨key, value⟩ := e
    have hkey : key ∉ es.map Prod.fst := (List.nodup_cons.mp hd).1
    have hes := ih (List.nodup_cons.mp hd).2
    by_cases h : k = key
    · subst h
      have hno : (k, x) ∉ es := fun hm => hkey (List.mem_map_of_mem hm)
      simp only [List.lookup_cons, beq_self_eq_true, List.mem_cons, Prod.mk.injEq, true_and, hno,
        or_false, Option.some.injEq]
      exact eq_comm
    · have hb : (k == key) = false := by simpa using h
      simp only [List.lookup_cons, hb, hes, List.mem_cons, Prod.mk.injEq, h, false_and, false_or]

end HexGesture.Keyed
