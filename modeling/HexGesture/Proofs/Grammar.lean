import HexGesture.Proofs.RoundTrip
import Mathlib.Data.List.Forall2

/-! Which data is a table. A reader succeeds just on data that starts with the bytes laid out for
some value, and it leaves what follows them; this is carried from the parts of a reader to the
whole. The layout of a table spells each id as a text, and a text may leave out the default scope.
That is all that is lost in reading: written again, a table names every scope. -/
namespace HexGesture

theorem Direction.ofOrdinal?_eq_some {n : Nat} {d : Direction} (h : ofOrdinal? n = some d) :
    n = d.ordinal := by
  simp only [ofOrdinal?, Option.dite_none_right_eq_some, Option.some.injEq] at h
  obtain ⟨hlt, rfl⟩ := h
  rw [ordinal_ofFin]

namespace Reader

variable {α β : Type}

theorem run_bind_eq_ok_iff {r : Reader α} {f : α → Reader β} {data rest : List UInt8} {y : β} :
    (r >>= f).run data = .ok (y, rest) ↔
      ∃ x mid, r.run data = .ok (x, mid) ∧ (f x).run mid = .ok (y, rest) := by
  rw [StateT.run_bind]
  cases r.run data with
  | error why => simp [bind, Except.bind]
  | ok v =>
    obtain ⟨x, mid⟩ := v
    simp [bind, Except.bind]

theorem run_pure_eq_ok_iff {x y : α} {data rest : List UInt8} :
    (pure x : Reader α).run data = .ok (y, rest) ↔ x = y ∧ data = rest := by
  rw [StateT.run_pure]
  simp [pure, Except.pure]

theorem run_unless_eq_ok_iff {c : Prop} [Decidable c] {why : SaveError} {f : α → Reader β}
    {r : Reader β} {data rest : List UInt8} {y : β} :
    (if c then throw why >>= f else r).run data = .ok (y, rest) ↔
      ¬ c ∧ r.run data = .ok (y, rest) := by
  by_cases h : c
  · have hthrow : (throw why >>= f : Reader β).run data = .error why := rfl
    simp [h, hthrow]
  · simp [h]

theorem run_bytes_eq_ok_iff {n : Nat} {data front rest : List UInt8} :
    (bytes n).run data = .ok (front, rest) ↔ front.length = n ∧ data = front ++ rest := by
  constructor
  · intro h
    change bytes n data = _ at h
    simp only [bytes] at h
    split at h
    · cases h
    · next hlen =>
      cases h
      have htake : (data.take n).length ≤ n := List.length_take_le n data
      exact ⟨by omega, (List.take_append_drop n data).symm⟩
  · rintro ⟨hlen, rfl⟩
    exact yields_bytes hlen rest

theorem run_byte_eq_ok_iff {b : UInt8} {data rest : List UInt8} :
    byte.run data = .ok (b, rest) ↔ data = [b] ++ rest := by
  constructor
  · intro h
    cases data with
    | nil => cases h
    | cons c data =>
      cases h
      rfl
  · rintro rfl
    exact yields_byte b rest

theorem run_word32_eq_ok_iff {n : UInt32} {data rest : List UInt8} :
    word32.run data = .ok (n, rest) ↔ data = bytes32 n ++ rest := by
  constructor
  · intro h
    simp only [word32, run_bind_eq_ok_iff, run_bytes_eq_ok_iff, run_pure_eq_ok_iff] at h
    obtain ⟨front, mid, ⟨hlen, rfl⟩, rfl, rfl⟩ := h
    rw [bytes32_ofLittleEndian hlen]
  · rintro rfl
    exact yields_word32 n rest

theorem run_word64_eq_ok_iff {n : UInt64} {data rest : List UInt8} :
    word64.run data = .ok (n, rest) ↔ data = bytes64 n ++ rest := by
  constructor
  · intro h
    simp only [word64, run_bind_eq_ok_iff, run_bytes_eq_ok_iff, run_pure_eq_ok_iff] at h
    obtain ⟨front, mid, ⟨hlen, rfl⟩, rfl, rfl⟩ := h
    rw [bytes64_ofLittleEndian hlen]
  · rintro rfl
    exact yields_word64 n rest

theorem run_text_eq_ok_iff {s : String} {data rest : List UInt8} :
    text.run data = .ok (s, rest) ↔ textSize s ≤ maxTextLength ∧ data = textLayout s ++ rest := by
  constructor
  · intro h
    simp only [text, run_bind_eq_ok_iff, run_unless_eq_ok_iff, run_word32_eq_ok_iff,
      run_bytes_eq_ok_iff] at h
    obtain ⟨n, mid, rfl, hlimit, body, mid', ⟨hlen, rfl⟩, hdecode⟩ := h
    split at hdecode
    · next s' hs' =>
      obtain ⟨rfl, rfl⟩ := run_pure_eq_ok_iff.mp hdecode
      obtain rfl := Text.utf8Decode?_eq_some hs'
      have hsize : textSize s' = n.toNat := hlen
      refine ⟨by omega, ?_⟩
      rw [textLayout, hsize, bytes32, List.append_assoc]
    · cases hdecode
  · rintro ⟨hsize, rfl⟩
    exact yields_text hsize rest

theorem run_operatorId_eq_ok_iff {i : OperatorId} {data rest : List UInt8} :
    operatorId.run data = .ok (i, rest) ↔ ∃ s, OperatorId.ofString s = .ok i ∧
      textSize s ≤ maxTextLength ∧ data = textLayout s ++ rest := by
  simp only [operatorId, run_bind_eq_ok_iff, run_text_eq_ok_iff]
  constructor
  · rintro ⟨s, mid, ⟨hsize, rfl⟩, hread⟩
    split at hread
    · next i' hi' =>
      obtain ⟨rfl, rfl⟩ := run_pure_eq_ok_iff.mp hread
      exact ⟨s, hi', hsize, rfl⟩
    · cases hread
  · rintro ⟨s, hs, hsize, rfl⟩
    exact ⟨s, rest, ⟨hsize, rfl⟩, by rw [hs]; rfl⟩

theorem run_direction_eq_ok_iff {d : Direction} {data rest : List UInt8} :
    direction.run data = .ok (d, rest) ↔ data = littleEndian 4 d.ordinal ++ rest := by
  constructor
  · intro h
    simp only [direction, run_bind_eq_ok_iff, run_word32_eq_ok_iff] at h
    obtain ⟨n, mid, rfl, hread⟩ := h
    split at hread
    · next d' hd' =>
      obtain ⟨rfl, rfl⟩ := run_pure_eq_ok_iff.mp hread
      rw [bytes32, Direction.ofOrdinal?_eq_some hd']
    · cases hread
  · rintro rfl
    exact yields_direction d rest

end Reader

/-- An entry as data spells it. The text of its id may leave out the scope. -/
structure SecretText where
  signature : String
  id : String
  start : Direction
  deriving DecidableEq

namespace SecretText

def layout (x : SecretText) : List UInt8 :=
  textLayout x.signature ++ (textLayout x.id ++ littleEndian 4 x.start.ordinal)

structure Valid (x : SecretText) : Prop where
  signature_size : textSize x.signature ≤ maxTextLength
  id_size : textSize x.id ≤ maxTextLength
  id_reads : ∃ i, OperatorId.ofString x.id = .ok i

/-- The entry that is meant. -/
structure Denotes (x : SecretText) (e : String × Secret) : Prop where
  signature_eq : e.1 = x.signature
  id_eq : OperatorId.ofString x.id = .ok e.2.operator
  start_eq : e.2.start = x.start

theorem Valid.exists_denotes {x : SecretText} (h : x.Valid) : ∃ e, x.Denotes e := by
  obtain ⟨i, hi⟩ := h.id_reads
  exact ⟨(x.signature, ⟨i, x.start⟩), rfl, hi, rfl⟩

def full (x : SecretText) : SecretText := { x with id := OperatorId.fullText x.id }

theorem Denotes.layout_eq {x : SecretText} {e : String × Secret} (h : x.Denotes e) :
    e.2.layout e.1 = x.full.layout := by
  rw [Secret.layout, OperatorId.display_of_ofString h.id_eq, h.signature_eq, h.start_eq]
  rfl

theorem map_eq_of_denotes {γ : Type} {xs : List SecretText} {es : List (String × Secret)}
    (h : List.Forall₂ Denotes xs es) {f : SecretText → γ} {g : String × Secret → γ}
    (hfg : ∀ x e, x.Denotes e → f x = g e) : xs.map f = es.map g := by
  rw [← List.forall₂_eq_eq_eq, List.forall₂_map_left_iff, List.forall₂_map_right_iff]
  exact h.imp hfg

theorem exists_text_of_mem {xs : List SecretText} {es : List (String × Secret)}
    (h : List.Forall₂ Denotes xs es) {e : String × Secret} (he : e ∈ es) :
    ∃ x ∈ xs, x.Denotes e := by
  induction h with
  | nil => cases he
  | @cons x e' xs es hx _ ih =>
    rcases List.mem_cons.mp he with rfl | he
    · exact ⟨x, by simp, hx⟩
    · obtain ⟨y, hy, hye⟩ := ih he
      exact ⟨y, List.mem_cons_of_mem x hy, hye⟩

theorem exists_denoted {xs : List SecretText} (h : ∀ x ∈ xs, x.Valid) :
    ∃ es, List.Forall₂ Denotes xs es := by
  induction xs with
  | nil => exact ⟨[], .nil⟩
  | cons x xs ih =>
    obtain ⟨e, he⟩ := (h x (by simp)).exists_denotes
    obtain ⟨es, hes⟩ := ih fun y hy => h y (by simp [hy])
    exact ⟨e :: es, .cons he hes⟩

theorem full_of_colon {x : SecretText} (h : ':' ∈ x.id.toList) : x.full = x := by
  rw [full, OperatorId.fullText, if_pos h]

end SecretText

namespace Reader

theorem run_secret_eq_ok_iff {e : String × Secret} {data rest : List UInt8} :
    secret.run data = .ok (e, rest) ↔
      ∃ x : SecretText, x.Valid ∧ x.Denotes e ∧ data = x.layout ++ rest := by
  simp only [secret, run_bind_eq_ok_iff, run_text_eq_ok_iff, run_operatorId_eq_ok_iff,
    run_direction_eq_ok_iff, run_pure_eq_ok_iff]
  constructor
  · rintro ⟨signature, _, ⟨hsig, rfl⟩, i, _, ⟨s, hs, hid, rfl⟩, start, _, rfl, rfl, rfl⟩
    exact ⟨⟨signature, s, start⟩, ⟨hsig, hid, i, hs⟩, ⟨rfl, hs, rfl⟩, by
      simp [SecretText.layout]⟩
  · rintro ⟨x, hvalid, hdenotes, rfl⟩
    obtain ⟨signature, ⟨i, start⟩⟩ := e
    obtain ⟨rfl, hs, rfl⟩ := hdenotes
    refine ⟨x.signature, _, ⟨hvalid.signature_size, ?_⟩, i, _, ⟨x.id, hs, hvalid.id_size, rfl⟩,
      x.start, rest, rfl, rfl, rfl⟩
    simp only [SecretText.layout, List.append_assoc]

/-- Entries are read as long as their signatures are new, and added in the order of the data. -/
theorem run_secrets_eq_ok_iff {n : Nat} {t u : SecretTable} {data rest : List UInt8} :
    (secrets n t).run data = .ok (u, rest) ↔
      ∃ (xs : List SecretText) (es : List (String × Secret)), xs.length = n ∧
        (∀ x ∈ xs, x.Valid) ∧ List.Forall₂ SecretText.Denotes xs es ∧ u.seed = t.seed ∧
        u.entries = t.entries ++ es ∧ data = xs.flatMap SecretText.layout ++ rest := by
  induction n generalizing t data with
  | zero =>
    rw [secrets, run_pure_eq_ok_iff]
    constructor
    · rintro ⟨rfl, rfl⟩
      exact ⟨[], [], rfl, by simp, .nil, rfl, by simp, by simp⟩
    · rintro ⟨xs, es, hlen, -, hdenotes, hseed, hentries, rfl⟩
      obtain rfl := List.eq_nil_of_length_eq_zero hlen
      cases hdenotes
      exact ⟨SecretTable.ext hseed.symm (by simpa using hentries.symm), by simp⟩
  | succ n ih =>
    simp only [secrets, run_bind_eq_ok_iff, run_secret_eq_ok_iff, run_unless_eq_ok_iff, ih]
    constructor
    · rintro ⟨e, _, ⟨x, hx, hxe, rfl⟩, hnew, xs, es, rfl, hvalid, hdenotes, hseed, hentries, rfl⟩
      rw [SecretTable.entries_insert _ (by simpa using hnew)] at hentries
      exact ⟨x :: xs, e :: es, rfl, by simpa using ⟨hx, hvalid⟩, .cons hxe hdenotes, hseed,
        by simpa using hentries, by simp⟩
    · rintro ⟨xs, es, hlen, hvalid, hdenotes, hseed, hentries, rfl⟩
      cases hdenotes with
      | nil => cases hlen
      | @cons x e xs es hxe hdenotes =>
        obtain ⟨hnew, htail⟩ := SecretTable.insert_of_append hentries
        refine ⟨e, xs.flatMap SecretText.layout ++ rest,
          ⟨x, hvalid x (by simp), hxe, by simp⟩, by simp [hnew], xs, es,
          Nat.succ.inj hlen, fun y hy => hvalid y (by simp [hy]), hdenotes, hseed, htail, rfl⟩

end Reader

structure TableText where
  seed : UInt64
  entries : List SecretText
  deriving DecidableEq

namespace TableText

def layout (x : TableText) : List UInt8 :=
  SecretTable.magic ++ ([SecretTable.formatVersion] ++ (bytes64 x.seed ++
    (littleEndian 4 x.entries.length ++ x.entries.flatMap SecretText.layout)))

structure Valid (x : TableText) : Prop where
  count_lt : x.entries.length < UInt32.size
  entries_valid : ∀ e ∈ x.entries, e.Valid
  distinct : (x.entries.map SecretText.signature).Nodup

/-- The table that is meant: the same seed, and the entries that are meant, in the same order. -/
structure Denotes (x : TableText) (t : SecretTable) : Prop where
  seed_eq : t.seed = x.seed
  entries_denoted : List.Forall₂ SecretText.Denotes x.entries t.entries

def full (x : TableText) : TableText := { x with entries := x.entries.map SecretText.full }

def NamesScopes (x : TableText) : Prop := ∀ e ∈ x.entries, ':' ∈ e.id.toList

theorem full_of_namesScopes {x : TableText} (h : x.NamesScopes) : x.full = x := by
  have hentries : x.entries.map SecretText.full = x.entries.map id :=
    List.map_congr_left fun e he => SecretText.full_of_colon (h e he)
  rw [full, hentries, List.map_id]

theorem Denotes.length_eq {x : TableText} {t : SecretTable} (h : x.Denotes t) :
    t.length = x.entries.length := h.entries_denoted.length_eq.symm

theorem Denotes.layout_eq {x : TableText} {t : SecretTable} (h : x.Denotes t) :
    t.layout = x.full.layout := by
  have hentries : x.full.entries.map SecretText.layout =
      t.entries.map fun e => e.2.layout e.1 := by
    rw [full, List.map_map]
    exact SecretText.map_eq_of_denotes h.entries_denoted fun _ _ hy => hy.layout_eq.symm
  have hlength : x.full.entries.length = t.length := by simp [full, h.length_eq]
  rw [SecretTable.layout, layout, List.flatMap_def, List.flatMap_def, hentries, hlength,
    h.seed_eq]
  rfl

theorem Valid.exists_denotes {x : TableText} (h : x.Valid) : ∃ t, x.Denotes t := by
  obtain ⟨es, hes⟩ := SecretText.exists_denoted h.entries_valid
  have hsignatures : x.entries.map SecretText.signature = es.map Prod.fst :=
    SecretText.map_eq_of_denotes hes fun _ _ hy => hy.signature_eq.symm
  exact ⟨⟨x.seed, es, hsignatures ▸ h.distinct⟩, rfl, hes⟩

theorem textSize_fullText {s : String} (h : ':' ∉ s.toList) :
    textSize (OperatorId.fullText s) = textSize s + 11 := by
  have hscope : (OperatorId.defaultScope ++ ":").utf8ByteSize = 11 := by decide
  rw [OperatorId.fullText, if_neg h, textSize_eq_utf8ByteSize, textSize_eq_utf8ByteSize,
    String.utf8ByteSize_append, hscope, Nat.add_comm]

theorem textSize_fullText_le (s : String) :
    textSize (OperatorId.fullText s) ≤ textSize s + 11 := by
  by_cases h : ':' ∈ s.toList
  · rw [OperatorId.fullText, if_pos h]
    omega
  · exact Nat.le_of_eq (textSize_fullText h)

theorem Denotes.write_eq {x : TableText} {t : SecretTable} (hx : x.Valid) (h : x.Denotes t) :
    t.write = .ok x.full.layout := by
  have hcount : t.length < UInt32.size := h.length_eq ▸ hx.count_lt
  have hsize : ∀ e ∈ t.entries,
      textSize e.1 < UInt32.size ∧ textSize e.2.operator.display < UInt32.size := by
    intro e he
    obtain ⟨y, hy, hye⟩ := SecretText.exists_text_of_mem h.entries_denoted he
    have hvalid := hx.entries_valid y hy
    have hsig := hvalid.signature_size
    have hid := hvalid.id_size
    have hfull := textSize_fullText_le y.id
    have hlimit : maxTextLength + 11 < UInt32.size := by decide
    rw [hye.signature_eq, OperatorId.display_of_ofString hye.id_eq]
    omega
  rw [SecretTable.write_eq hcount hsize, h.layout_eq]

end TableText

namespace SecretTable

theorem run_read_eq_ok_iff {t : SecretTable} {data rest : List UInt8} :
    read.run data = .ok (t, rest) ↔
      ∃ x : TableText, x.Valid ∧ x.Denotes t ∧ data = x.layout ++ rest := by
  simp only [read, Reader.run_bind_eq_ok_iff, Reader.run_unless_eq_ok_iff,
    Reader.run_bytes_eq_ok_iff, Reader.run_byte_eq_ok_iff, Reader.run_word64_eq_ok_iff,
    Reader.run_word32_eq_ok_iff, Reader.run_secrets_eq_ok_iff]
  constructor
  · rintro ⟨front, _, ⟨-, rfl⟩, hmagic, version, _, rfl, hversion, seed, _, rfl, count, _, rfl,
      xs, es, hcount, hvalid, hdenotes, hseed, hentries, rfl⟩
    obtain rfl := not_not.mp hmagic
    obtain rfl := not_not.mp hversion
    have hes : t.entries = es := hentries
    have hsignatures : xs.map SecretText.signature = t.entries.map Prod.fst := by
      rw [hes]
      exact SecretText.map_eq_of_denotes hdenotes fun _ _ hy => hy.signature_eq.symm
    have hlength : littleEndian 4 xs.length = bytes32 count := by rw [bytes32, hcount]
    refine ⟨⟨seed, xs⟩, ⟨hcount ▸ count.toNat_lt, hvalid, hsignatures ▸ t.distinct⟩,
      ⟨hseed, hes ▸ hdenotes⟩, ?_⟩
    simp only [TableText.layout, hlength, List.append_assoc]
  · rintro ⟨x, hvalid, hdenotes, rfl⟩
    have hcount : x.entries.length.toUInt32.toNat = x.entries.length :=
      (Reader.yields_length hvalid.count_lt).2
    have hlength : littleEndian 4 x.entries.length = bytes32 x.entries.length.toUInt32 := by
      rw [bytes32, hcount]
    have hlayout : x.layout ++ rest = magic ++ ([formatVersion] ++ (bytes64 x.seed ++
        (bytes32 x.entries.length.toUInt32 ++
          (x.entries.flatMap SecretText.layout ++ rest)))) := by
      simp only [TableText.layout, hlength, List.append_assoc]
    exact ⟨magic, _, ⟨rfl, hlayout⟩, by simp, formatVersion, _, rfl, by simp, x.seed, _, rfl,
      x.entries.length.toUInt32, _, rfl, x.entries, t.entries, hcount.symm, hvalid.entries_valid,
      hdenotes.entries_denoted, hdenotes.seed_eq, rfl, rfl⟩

theorem ofBytes_eq_ok_iff {t : SecretTable} {data : List UInt8} :
    ofBytes data = .ok t ↔ ∃ x : TableText, x.Valid ∧ x.layout = data ∧ x.Denotes t := by
  rw [ofBytes_eq_ok_iff_run, run_read_eq_ok_iff]
  constructor
  · rintro ⟨x, hvalid, hdenotes, hdata⟩
    exact ⟨x, hvalid, by rw [hdata, List.append_nil], hdenotes⟩
  · rintro ⟨x, hvalid, rfl, hdenotes⟩
    exact ⟨x, hvalid, hdenotes, (List.append_nil _).symm⟩

/-- Data is read as a table just when it is the layout of a valid text of one. The table is what the
text denotes, and is written again as the same text with every scope named. -/
theorem ofBytes_grammar (data : List UInt8) :
    (∀ t, ofBytes data = .ok t ↔ ∃ x : TableText, x.Valid ∧ x.layout = data ∧ x.Denotes t) ∧
    (∀ x : TableText, x.Valid → x.layout = data →
      ∃ t, ofBytes data = .ok t ∧ x.Denotes t ∧ t.write = .ok x.full.layout) ∧
    (∀ id : String, ':' ∉ id.toList →
      textSize (OperatorId.fullText id) = textSize id + 11) ∧
    (∀ x y : TableText, x.Valid → y.Valid → x.NamesScopes → y.NamesScopes → x.layout = data →
      ∀ t, ofBytes data = .ok t →
        t.write = .ok data ∧ (ofBytes y.layout = .ok t → y.layout = data)) := by
  have hwrite : ∀ x : TableText, x.Valid → ∃ t, ofBytes x.layout = .ok t ∧ x.Denotes t ∧
      t.write = .ok x.full.layout := by
    intro x hx
    obtain ⟨t, ht⟩ := hx.exists_denotes
    exact ⟨t, ofBytes_eq_ok_iff.mpr ⟨x, hx, rfl, ht⟩, ht, ht.write_eq hx⟩
  have hsame : ∀ x : TableText, x.Valid → x.NamesScopes → ∀ t, ofBytes x.layout = .ok t →
      t.write = .ok x.layout := by
    intro x hx hnames t ht
    obtain ⟨u, hu, -, hwritten⟩ := hwrite x hx
    obtain rfl : t = u := Except.ok.inj (ht.symm.trans hu)
    rw [hwritten, TableText.full_of_namesScopes hnames]
  refine ⟨fun t => ofBytes_eq_ok_iff, ?_, fun id => TableText.textSize_fullText, ?_⟩
  · rintro x hx rfl
    exact hwrite x hx
  · rintro x y hx hy hxnames hynames rfl t ht
    have hback := hsame x hx hxnames t ht
    refine ⟨hback, fun hyt => ?_⟩
    have hyback := hsame y hy hynames t hyt
    exact Except.ok.inj (hyback.symm.trans hback)

example : (ofBytes (TableText.layout ⟨42, [⟨"qaq", "y", .east⟩]⟩) >>= write) =
    .ok (TableText.layout ⟨42, [⟨"qaq", "hexcasting:y", .east⟩]⟩) := by decide +kernel

end SecretTable

end HexGesture
