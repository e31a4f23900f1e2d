import KaCanOpen.Names

/-!
# Reading the whole dictionary

`read_complete_dictionary` reads every entry by its name with the entry's
default method and disables the entries whose SDO read throws. On a well-formed
dictionary each name leads back to its own entry, so the loop passes over every
entry once, in key order; an entry is disabled exactly when every attempt of its
upload failed, and the only exception the loop lets through is a read whose data
the entry's type rejects.
-/

set_option autoImplicit false

namespace KaCanOpen.Device

open DeviceM

variable (escape : String → String)

theorem retry_ok {reply : Nat → SdoReply} {n m : Nat} {last : SdoError} {bs : List UInt8}
    (h : retry reply n last = (m, .ok bs)) :
    ∃ j < n, m = j+1 ∧ (∀ i < j, ∃ x, reply i = .failure x) ∧ reply j = .data bs := by
  induction n generalizing reply last m with
  | zero => cases h
  | succ n ih =>
    simp only [retry] at h
    split at h
    · next hr =>
      cases h
      exact ⟨0, Nat.succ_pos _, rfl, fun _ hi => absurd hi (Nat.not_lt_zero _), hr⟩
    · next x hr =>
      obtain ⟨rfl, h₂⟩ := Prod.mk.inj h
      obtain ⟨j, hj, hm, hf, hd⟩ := ih (Prod.ext rfl h₂)
      refine ⟨j+1, Nat.succ_lt_succ hj, congrArg (· + 1) hm, fun i hi => ?_, hd⟩
      cases i with
      | zero => exact ⟨x, hr⟩
      | succ i => exact hf i (Nat.lt_of_succ_lt_succ hi)

theorem retry_error {reply : Nat → SdoReply} {n m : Nat} {last x : SdoError}
    (h : retry reply n last = (m, .error x)) : m = n ∧ ∀ j < n, ∃ y, reply j = .failure y := by
  induction n generalizing reply last m with
  | zero => cases h; exact ⟨rfl, fun _ hj => absurd hj (Nat.not_lt_zero _)⟩
  | succ n ih =>
    simp only [retry] at h
    split at h
    · cases h
    · next y hr =>
      obtain ⟨rfl, h₂⟩ := Prod.mk.inj h
      obtain ⟨hm, hf⟩ := ih (Prod.ext rfl h₂)
      refine ⟨congrArg (· + 1) hm, fun j hj => ?_⟩
      cases j with
      | zero => exact ⟨y, hr⟩
      | succ j => exact hf j (Nat.lt_of_succ_lt_succ hj)

/-- Every data reply the node can give to an upload of `a` is accepted by `type`. -/
def AcceptsUpload (d : Device) (a : Address) (type : DataType) : Prop :=
  ∀ k bs, d.core.sdoServer k (.upload d.nodeId a.index a.subindex) = .data bs →
    ∃ v, Value.ofBytes type bs = .ok v

/-- An SDO read whose data the type accepts returns `Value(type, data)` for the
first reply with data, or throws an `sdo_error` after every attempt failed. -/
theorem getEntryViaSdo_accepted {d : Device} {index : UInt16} {subindex : UInt8} {type : DataType}
    (h : AcceptsUpload d ⟨index, subindex⟩ type) :
    (∃ bs j, j < d.config.repeatsOnSdoTimeout+1 ∧
      (∀ i < j, ∃ x, replies d (.upload d.nodeId index subindex) i = .failure x) ∧
      replies d (.upload d.nodeId index subindex) j = .data bs ∧
      getEntryViaSdo index subindex type d = .ok ⟨type, bs⟩
        (traced (logged d (.upload d.nodeId index subindex) (j+1)) (.read index subindex ⟨type, bs⟩))) ∨
    ((∀ j < d.config.repeatsOnSdoTimeout+1,
      ∃ x, replies d (.upload d.nodeId index subindex) j = .failure x) ∧
      ∃ x, getEntryViaSdo index subindex type d = .error (.sdo x)
        (logged d (.upload d.nodeId index subindex) (d.config.repeatsOnSdoTimeout+1))) := by
  rw [getEntryViaSdo_eq]
  dsimp only
  rcases hr : retry _ _ _ with ⟨m, last | bs⟩
  · obtain ⟨rfl, hf⟩ := retry_error hr
    exact .inr ⟨hf, _, rfl⟩
  · obtain ⟨j, hj, rfl, hf, hd⟩ := retry_ok hr
    obtain ⟨v, hv⟩ := h _ _ hd
    refine .inl ⟨bs, j, hj, hf, hd, ?_⟩
    simp only [hv, Value.ofBytes_eq_ok hv]

/-- What one pass of `read_complete_dictionary` does to the entry `e`, where
`reply j` is the node's answer to the `j`-th attempt of the entry's upload and
`n` the number of attempts: nothing when its default read is not over SDO;
otherwise, when all `n` attempts failed, it disables the entry, and else it
caches `Value(type, data)` from the first reply with data. The list is the SDO
read it completes, the number the attempts it made. -/
inductive ReadStep (reply : Nat → SdoReply) (n : Nat) (e : Entry) : Entry → List SdoAccess → Nat → Prop
  | notSdo : e.readAccessMethod ≠ .sdo → ReadStep reply n e e [] 0
  | failed : e.readAccessMethod = .sdo → (∀ j < n, ∃ x, reply j = .failure x) →
      ReadStep reply n e { e with disabled := true } [] n
  | read (data : List UInt8) (j : Nat) : e.readAccessMethod = .sdo → j < n →
      (∀ i < j, ∃ x, reply i = .failure x) → reply j = .data data →
      ReadStep reply n e { e with value := ⟨e.type, data⟩ } [.read e.index e.subindex ⟨e.type, data⟩] (j+1)

/-- The passes over the entries `ps` of a node with replies `server` and `n`
attempts per upload, the first upload starting at log position `k`. -/
def ReadPasses (server : Nat → SdoRequest → SdoReply) (nodeId : UInt8) (n : Nat) :
    Nat → List (Address × Entry) → List (Entry × List SdoAccess × Nat) → Prop
  | _, [], [] => True
  | k, (_, e)::ps, (e', t, m)::outs =>
    ReadStep (fun j => server (k+j) (.upload nodeId e.index e.subindex)) n e e' t m ∧
      ReadPasses server nodeId n (k+m) ps outs
  | _, _, _ => False

/-- The upload attempts of the passes `outs`, in all. -/
def attempts : List (Entry × List SdoAccess × Nat) → Nat
  | [] => 0
  | (_, _, m)::outs => m + attempts outs

/-- A pass of the loop took `s` to `s'`, leaving `e'` at `a`, tracing `t` and
making `m` requests. -/
structure ReadFrame (s s' : Device) (a : Address) (e' : Entry) (t : List SdoAccess) (m : Nat) : Prop where
  find_self : s'.dictionary.find? a = some e'
  find_other : ∀ b, b ≠ a → s'.dictionary.find? b = s.dictionary.find? b
  keys : s'.dictionary.keys = s.dictionary.keys
  names : s'.nameToAddress = s.nameToAddress
  trace : s'.sdoTrace = s.sdoTrace ++ t
  log : s'.core.sdoLog.length = s.core.sdoLog.length + m
  server : s'.core.sdoServer = s.core.sdoServer
  nodeId : s'.nodeId = s.nodeId
  config : s'.config = s.config

theorem readEntry_spec {escape} (hid : Idempotent escape) {s : Device} (hs : Wf escape s)
    {a : Address} {e : Entry} (he : s.dictionary.find? a = some e) (hacc : AcceptsUpload s a e.type) :
    ∃ e' t m s', readEntry escape a s = .ok () s' ∧
      ReadStep (replies s (.upload s.nodeId e.index e.subindex)) (s.config.repeatsOnSdoTimeout+1) e e' t m ∧
      ReadFrame s s' a e' t m := by
  have hn : findAddress s (escape e.name) = some a := by
    rw [hs.names_escaped a e he]; exact (hs.entries_named a e he).2
  obtain rfl : e.address = a := (hs.entries_named _ e he).1
  simp only [Entry.address] at he hn hacc ⊢
  simp only [readEntry, bind_apply, entryAt_of_find he, catchSdo, discard_apply,
    getEntryByName_eq hid hs.toConsistent, hn, getEntry_eq, he]
  by_cases hm : e.readAccessMethod = .sdo
  · simp only [hm, true_and, or_true, if_true]
    rcases getEntryViaSdo_accepted hacc with ⟨bs, j, hj, hf, hd, hv⟩ | ⟨hf, x, hx⟩
    · refine ⟨_, _, _, _, by rw [hv], .read bs j hm hj hf hd, ?_⟩
      exact ⟨by simp [sending, withValue, traced, logged, he], fun b hb => by
        simp [sending, withValue, traced, logged, hb], by simp [sending, withValue, traced, logged],
        rfl, rfl, by simp [sending, withValue, traced, logged], rfl, rfl, rfl⟩
    · refine ⟨_, _, _, _, by rw [hx]; rfl, .failed hm hf, ?_⟩
      exact ⟨by simp [logged, he], fun b hb => by simp [logged, hb], by simp [logged], rfl,
        (List.append_nil _).symm, by simp [logged], rfl, rfl, rfl⟩
  · simp only [hm, and_false, or_false, if_false]
    exact ⟨_, _, _, _, rfl, .notSdo hm, he, fun _ _ => rfl, rfl, rfl, (List.append_nil _).symm, rfl, rfl,
      rfl, rfl⟩

theorem ReadStep.shape {reply : Nat → SdoReply} {n : Nat} {e e' : Entry} {t : List SdoAccess} {m : Nat}
    (h : ReadStep reply n e e' t m) : e'.name = e.name ∧ e'.address = e.address ∧ e'.type = e.type := by
  cases h <;> exact ⟨rfl, rfl, rfl⟩

theorem ReadFrame.find?_eq {s s' : Device} {a : Address} {e' : Entry} {t : List SdoAccess} {m : Nat}
    (hf : ReadFrame s s' a e' t m) (b : Address) :
    s'.dictionary.find? b = if b = a then some e' else s.dictionary.find? b := by
  split_ifs with h
  · subst h; exact hf.find_self
  · exact hf.find_other b h

theorem Wf.of_readFrame {escape} {s s' : Device} {a : Address} {e e' : Entry} {t : List SdoAccess}
    {reply : Nat → SdoReply} {n m : Nat} (hs : Wf escape s) (he : s.dictionary.find? a = some e)
    (hstep : ReadStep reply n e e' t m) (hf : ReadFrame s s' a e' t m) : Wf escape s' := by
  obtain ⟨hname, haddr, -⟩ := hstep.shape
  refine ⟨⟨fun n b hb => ?_, fun b e'' hb => ?_⟩, fun b e'' hb => ?_⟩
  · rw [hf.names] at hb
    have := hs.names_resolve n b hb
    simp only [StdMap.contains, hf.find?_eq] at this ⊢
    split_ifs <;> simp_all
  · rw [hf.find?_eq] at hb
    split_ifs at hb with h
    · cases hb; subst h
      rw [hname, haddr, hf.names]; exact hs.entries_named _ e he
    · rw [hf.names]; exact hs.entries_named b e'' hb
  · rw [hf.find?_eq] at hb
    split_ifs at hb
    · cases hb; rw [hname]; exact hs.names_escaped _ e he
    · exact hs.names_escaped b e'' hb

/-- The loop over the keys of `ps`, each holding its entry, from a well-formed
state: the passes are `ReadPasses` from the current log position, and the trace
and the log grow by their reads and attempts. -/
theorem readEntries_spec {escape} (hid : Idempotent escape) :
    ∀ (ps : List (Address × Entry)) {s : Device}, Wf escape s → (ps.map Prod.fst).Nodup →
      (∀ p ∈ ps, s.dictionary.find? p.1 = some p.2 ∧ AcceptsUpload s p.1 p.2.type) →
      ∃ s' outs, readEntries escape (ps.map Prod.fst) s = .ok () s' ∧
        ReadPasses s.core.sdoServer s.nodeId (s.config.repeatsOnSdoTimeout+1) s.core.sdoLog.length ps outs ∧
        List.Forall₂ (fun p o => s'.dictionary.find? p.1 = some o.1) ps outs ∧
        s'.dictionary.keys = s.dictionary.keys ∧ s'.nameToAddress = s.nameToAddress ∧
        s'.sdoTrace = s.sdoTrace ++ (outs.map fun o => o.2.1).flatten ∧
        s'.core.sdoLog.length = s.core.sdoLog.length + attempts outs ∧
        ∀ b, b ∉ ps.map Prod.fst → s'.dictionary.find? b = s.dictionary.find? b
  | [], s, _, _, _ => ⟨s, [], rfl, trivial, .nil, rfl, rfl, (List.append_nil _).symm, rfl, fun _ _ => rfl⟩
  | (a, e)::ps, s, hs, hnd, hps => by
    obtain ⟨he, hacc⟩ := hps (a, e) (List.mem_cons_self _ _)
    obtain ⟨e', t, m, s₁, h₁, hstep, hf⟩ := readEntry_spec hid hs he hacc
    have ha : a ∉ ps.map Prod.fst := (List.nodup_cons.1 hnd).1
    have hrest : ∀ p ∈ ps, s₁.dictionary.find? p.1 = some p.2 ∧ AcceptsUpload s₁ p.1 p.2.type := by
      intro p hp
      have hne : p.1 ≠ a := fun h => ha (h ▸ List.mem_map_of_mem _ hp)
      obtain ⟨hp₁, hp₂⟩ := hps p (List.mem_cons_of_mem _ hp)
      refine ⟨(hf.find_other _ hne).trans hp₁, ?_⟩
      unfold AcceptsUpload; rw [hf.server, hf.nodeId]; exact hp₂
    obtain ⟨s', outs, h₂, hpass, hall, hkeys, hnames, htrace, hlog, hother⟩ :=
      readEntries_spec hid ps (hs.of_readFrame he hstep hf) (List.nodup_cons.1 hnd).2 hrest
    rw [hf.server, hf.nodeId, hf.config, hf.log] at hpass
    refine ⟨s', (e', t, m)::outs, ?_, ⟨hstep, hpass⟩, .cons ((hother a ha).trans hf.find_self) hall,
      hkeys.trans hf.keys, hnames.trans hf.names, ?_, ?_, fun b hb => ?_⟩
    · simp only [List.map_cons, readEntries, bind_apply, h₁, h₂]
    · rw [htrace, hf.trace]; simp
    · rw [hlog, hf.log, attempts, Nat.add_assoc]
    · simp only [List.map_cons, List.mem_cons, not_or] at hb
      exact (hother b hb.2).trans (hf.find_other b hb.1)

/-- `read_complete_dictionary` on a well-formed dictionary, whatever each SDO
read answers within what the entry's type accepts: it returns, having passed
over every entry once in key order, each pass a `ReadStep` against the node's
replies from the log position it starts at; so an SDO-default entry is disabled
exactly when every attempt of its upload failed, and otherwise caches the data
of the first reply with data; nothing else changes. -/
theorem read_complete_dictionary_outcome (hid : Idempotent escape) {d : Device} (hd : Wf escape d)
    (hacc : ∀ a e, d.dictionary.find? a = some e → AcceptsUpload d a e.type) :
    ∃ d' outs, readCompleteDictionary escape d = .ok () d' ∧
      ReadPasses d.core.sdoServer d.nodeId (d.config.repeatsOnSdoTimeout+1) d.core.sdoLog.length
        d.dictionary.entries outs ∧
      List.Forall₂ (fun p o => d'.dictionary.find? p.1 = some o.1) d.dictionary.entries outs ∧
      d'.dictionary.keys = d.dictionary.keys ∧ d'.nameToAddress = d.nameToAddress ∧
      d'.sdoTrace = d.sdoTrace ++ (outs.map fun o => o.2.1).flatten ∧
      d'.core.sdoLog.length = d.core.sdoLog.length + attempts outs := by
  have hps : ∀ p ∈ d.dictionary.entries, d.dictionary.find? p.1 = some p.2 ∧
      AcceptsUpload d p.1 p.2.type := fun p hp =>
    have h := (StdMap.find?_eq_some_iff _ _ _).2 hp
    ⟨h, hacc _ _ h⟩
  obtain ⟨d', outs, h, hpass, hall, hkeys, hnames, htrace, hlog, -⟩ :=
    readEntries_spec hid d.dictionary.entries hd (StdMap.keys_nodup _) hps
  exact ⟨d', outs, h, hpass, hall, hkeys, hnames, htrace, hlog⟩

/-- A node that answers every SDO request with the byte 7, and the `uint8_t`
entry `x` at `0x6000sub0`. -/
def readableDevice : Device :=
  final (addEntry id 0x6000 0 "x" .uint8 .readWrite (Device.create ⟨fun _ _ => .data [7], [], [], []⟩
    ⟨0, false, false, false⟩ ⟨fun _ => .returned false, fun _ => "", 0⟩ 1))

theorem read_complete_dictionary_outcome_x :
    ∃ d' outs, readCompleteDictionary id readableDevice = .ok () d' ∧
      ReadPasses readableDevice.core.sdoServer readableDevice.nodeId
        (readableDevice.config.repeatsOnSdoTimeout+1) readableDevice.core.sdoLog.length
        readableDevice.dictionary.entries outs ∧
      List.Forall₂ (fun p o => d'.dictionary.find? p.1 = some o.1) readableDevice.dictionary.entries outs ∧
      d'.dictionary.keys = readableDevice.dictionary.keys ∧
      d'.nameToAddress = readableDevice.nameToAddress ∧
      d'.sdoTrace = readableDevice.sdoTrace ++ (outs.map fun o => o.2.1).flatten ∧
      d'.core.sdoLog.length = readableDevice.core.sdoLog.length + attempts outs := by
  have hwf : Wf id readableDevice := Wf.keeps_addEntry (fun _ => rfl) _ _ _ _ _ _ (wf_create _ _ _ _ _)
  refine read_complete_dictionary_outcome id (fun _ => rfl) hwf fun a e he k bs hk => ?_
  cases hk
  have hx : readableDevice.dictionary.entries =
      [(⟨0x6000, 0⟩, Entry.make 0x6000 0 "x" .uint8 .readWrite)] := rfl
  rw [StdMap.find?_eq_some_iff, hx, List.mem_singleton, Prod.mk.injEq] at he
  obtain ⟨-, rfl⟩ := he
  exact ⟨_, rfl⟩

/-- The dictionary entry `X` at `0x6000sub0`, its name as given. -/
def deviceWithUpperX : Device := final (addEntry id 0x6000 0 "X" .uint8 .readWrite emptyDevice)

theorem read_complete_dictionary_unescaped_name :
    Idempotent lowerX ∧ Consistent deviceWithUpperX ∧
      readCompleteDictionary lowerX deviceWithUpperX =
        .error (unknownEntry "x") deviceWithUpperX :=
  ⟨lowerX_idempotent, (Wf.keeps_addEntry (fun _ => rfl) _ _ _ _ _ _ (wf_create _ _ _ _ _)).toConsistent,
    rfl⟩

end KaCanOpen.Device
