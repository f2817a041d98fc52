import HexGesture.Proofs.Grammar

/-! Data that is cut short or goes on. A reader is firm if more data never makes it change its mind:
it takes what it takes by those bytes alone, and what it refuses it refuses for good, unless it is
only for want of data. Readers put together of firm ones are firm, and the reader of tables is put
together of such. So the bytes of a table end where they end: with less of them there is no table
yet, and with more of them there is the same table and something left over. -/
namespace HexGesture

namespace Reader

variable {α β : Type} {r : Reader α}

structure Firm (r : Reader α) : Prop where
  yields : ∀ {data rest x}, r.run data = .ok (x, rest) →
    ∃ front, data = front ++ rest ∧ r.Yields front x
  refuses : ∀ {data why}, r.run data = .error why → why ≠ .io .endOfData → r.Refuses data why

theorem run_bind_eq_error_iff {f : α → Reader β} {data : List UInt8} {why : SaveError} :
    (r >>= f).run data = .error why ↔ r.run data = .error why ∨
      ∃ x mid, r.run data = .ok (x, mid) ∧ (f x).run mid = .error why := by
  rw [StateT.run_bind]
  cases r.run data with
  | error why' => simp [bind, Except.bind]
  | ok v =>
    obtain ⟨x, mid⟩ := v
    simp [bind, Except.bind]

theorem run_bytes_eq_error_iff {n : Nat} {data : List UInt8} {why : SaveError} :
    (bytes n).run data = .error why ↔ data.length < n ∧ why = .io .endOfData := by
  have hfront : (data.take n).length < n ↔ data.length < n := by
    rw [List.length_take]
    omega
  change bytes n data = _ ↔ _
  simp only [bytes, hfront]
  by_cases hshort : data.length < n
  · simp [hshort, eq_comm]
  · simp [hshort]

theorem firm_pure (x : α) : Firm (pure x) where
  yields h := by
    obtain ⟨rfl, rfl⟩ := run_pure_eq_ok_iff.mp h
    exact ⟨[], rfl, yields_pure x⟩
  refuses h := nomatch h

theorem firm_throw (why : SaveError) : Firm (throw why : Reader α) where
  yields h := nomatch h
  refuses h _ := by
    cases h
    exact fun rest => rfl

theorem Firm.bind (hr : r.Firm) {f : α → Reader β} (hf : ∀ x, (f x).Firm) : (r >>= f).Firm where
  yields h := by
    obtain ⟨x, mid, hx, hy⟩ := run_bind_eq_ok_iff.mp h
    obtain ⟨xs, rfl, hxs⟩ := hr.yields hx
    obtain ⟨ys, rfl, hys⟩ := (hf x).yields hy
    exact ⟨xs ++ ys, by rw [List.append_assoc], hxs.bind hys⟩
  refuses h hwhy := by
    obtain hx | ⟨x, mid, hx, hy⟩ := run_bind_eq_error_iff.mp h
    · exact (hr.refuses hx hwhy).bind_nil f
    · obtain ⟨xs, rfl, hxs⟩ := hr.yields hx
      exact hxs.bind_refuses ((hf x).refuses hy hwhy)

theorem Firm.unless (hr : r.Firm) {c : Prop} [Decidable c] {why : SaveError} {f : β → Reader α} :
    (if c then throw why >>= f else r).Firm := by
  split
  · exact firm_throw (α := α) why
  · exact hr

theorem firm_bytes (n : Nat) : (bytes n).Firm where
  yields h := by
    obtain ⟨hlength, rfl⟩ := run_bytes_eq_ok_iff.mp h
    exact ⟨_, rfl, yields_bytes hlength⟩
  refuses h hwhy := absurd (run_bytes_eq_error_iff.mp h).2 hwhy

theorem firm_byte : byte.Firm where
  yields h := by
    obtain rfl := run_byte_eq_ok_iff.mp h
    exact ⟨_, rfl, yields_byte _⟩
  refuses {data why} h hwhy := by
    cases data with
    | nil =>
      cases h
      exact absurd rfl hwhy
    | cons b data => cases h

theorem firm_word32 : word32.Firm := (firm_bytes 4).bind fun _ => firm_pure _

theorem firm_word64 : word64.Firm := (firm_bytes 8).bind fun _ => firm_pure _

theorem firm_text : text.Firm := by
  refine firm_word32.bind fun length => Firm.unless ((firm_bytes _).bind fun body => ?_)
  split
  · exact firm_pure _
  · exact firm_throw _

theorem firm_operatorId : operatorId.Firm := by
  refine firm_text.bind fun s => ?_
  split
  · exact firm_pure _
  · exact firm_throw _

theorem firm_direction : direction.Firm := by
  refine firm_word32.bind fun value => ?_
  split
  · exact firm_pure _
  · exact firm_throw _

theorem firm_secret : secret.Firm :=
  firm_text.bind fun _ => firm_operatorId.bind fun _ => firm_direction.bind fun _ => firm_pure _

theorem firm_secrets (n : Nat) (t : SecretTable) : (secrets n t).Firm := by
  induction n generalizing t with
  | zero => exact firm_pure t
  | succ n ih => exact firm_secret.bind fun e => (ih (t.insert e.1 e.2)).unless

/-- Less than what a firm reader takes is too little. -/
theorem Firm.run_of_cut (hr : r.Firm) {x : α} {front cut : List UInt8} (hx : r.Yields front x)
    (hcut : cut <+: front) (hne : cut ≠ front) : r.run cut = .error (.io .endOfData) := by
  obtain ⟨more, rfl⟩ := hcut
  have hwhole : r.run (cut ++ more) = .ok (x, []) := by simpa using hx []
  cases hrun : r.run cut with
  | ok v =>
    obtain ⟨y, rest⟩ := v
    obtain ⟨taken, rfl, hy⟩ := hr.yields hrun
    have hsame := hy (rest ++ more)
    rw [← List.append_assoc, hwhole] at hsame
    have hmore : rest ++ more = [] := by simpa using (congrArg Prod.snd (Except.ok.inj hsame)).symm
    rw [(List.append_eq_nil_iff.mp hmore).2, List.append_nil] at hne
    exact absurd rfl hne
  | error why =>
    by_contra hother
    have hwhy : why ≠ .io .endOfData := fun h => hother (by rw [h])
    cases hwhole.symm.trans (hr.refuses hrun hwhy more)

theorem Firm.run_of_prefix (hr : r.Firm) {why : SaveError} {data cut : List UInt8}
    (h : r.run data = .error why) (hcut : cut <+: data) :
    r.run cut = .error why ∨ r.run cut = .error (.io .endOfData) := by
  obtain ⟨more, rfl⟩ := hcut
  cases hrun : r.run cut with
  | ok v =>
    obtain ⟨y, rest⟩ := v
    obtain ⟨taken, rfl, hy⟩ := hr.yields hrun
    rw [List.append_assoc, hy] at h
    cases h
  | error why' =>
    by_cases hwhy : why' = .io .endOfData
    · exact .inr (by rw [hwhy])
    · rw [hr.refuses hrun hwhy more] at h
      exact .inl h

end Reader

namespace SecretTable

open Reader

theorem firm_read : read.Firm :=
  (firm_bytes 4).bind fun _ => Firm.unless <| firm_byte.bind fun _ => Firm.unless <|
    firm_word64.bind fun seed => firm_word32.bind fun count =>
      firm_secrets count.toNat (empty seed)

/-- The bytes of a table decide it: what follows them makes no difference, and fewer are too little.
A refusal likewise stays the same whatever comes after, unless the data was too little. -/
theorem read_stable (data : List UInt8) :
    (∀ t rest, read.run data = .ok (t, rest) → ∃ front, data = front ++ rest ∧
      (∀ more, read.run (front ++ more) = .ok (t, more)) ∧
      ∀ cut, cut <+: front → cut ≠ front → read.run cut = .error (.io .endOfData)) ∧
    (∀ why, read.run data = .error why → why ≠ .io .endOfData →
      (∀ more, read.run (data ++ more) = .error why) ∧
      ∀ cut, cut <+: data →
        read.run cut = .error why ∨ read.run cut = .error (.io .endOfData)) ∧
    ∀ t, ofBytes data = .ok t →
      (∀ cut, cut <+: data → cut ≠ data → ofBytes cut = .error (.io .endOfData)) ∧
      ∀ more, more ≠ [] →
        ofBytes (data ++ more) = .error (.malformed (.trailingBytes more.length)) := by
  refine ⟨?_, ?_, ?_⟩
  · intro t rest h
    obtain ⟨front, hdata, hfront⟩ := firm_read.yields h
    exact ⟨front, hdata, hfront, fun cut hcut hne => firm_read.run_of_cut hfront hcut hne⟩
  · intro why h hwhy
    exact ⟨firm_read.refuses h hwhy, fun cut hcut => firm_read.run_of_prefix h hcut⟩
  · intro t h
    obtain ⟨front, hdata, hfront⟩ := firm_read.yields (ofBytes_eq_ok_iff_run.mp h)
    rw [List.append_nil] at hdata
    subst hdata
    constructor
    · intro cut hcut hne
      exact ofBytes_of_error (firm_read.run_of_cut hfront hcut hne)
    · intro more hmore
      exact ofBytes_of_left (hfront more) hmore

end SecretTable

end HexGesture
