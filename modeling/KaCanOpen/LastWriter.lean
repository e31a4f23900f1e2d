import KaCanOpen.ReadDictionary

/-!
# Last writer wins

An entry's cached value is written by `set_entry`, by the SDO read of
`get_entry`, and by a PDO payload handed to the callback of a receive mapping.
Over any run of these calls and of added receive mappings in which no call
throws, from a well-formed dictionary whose device callbacks name entries, each
cached value is the one the most recent write to its address left. Each call's
write is computed from the state it starts in, the data of an upload from the
node's replies.
-/

set_option autoImplicit false

namespace KaCanOpen.Device

open DeviceM

variable (escape : String → String)

/-- The cached value of every address. -/
def values (d : Device) (a : Address) : Option Value := (d.dictionary.find? a).map Entry.value

/-- The writes `ws` applied in order: the most recent write to an address wins. -/
def applyWrites (ws : List (Address × Value)) (f : Address → Option Value) : Address → Option Value :=
  ws.foldl (fun g w => Function.update g w.1 (some w.2)) f

/-- `s'` has the names of `s` and its entries, each with its name and address. -/
structure SameShape (s s' : Device) : Prop where
  names : s'.nameToAddress = s.nameToAddress
  entries : ∀ b, (s'.dictionary.find? b).map (fun e => (e.name, e.address)) =
    (s.dictionary.find? b).map (fun e => (e.name, e.address))

theorem SameShape.refl (s : Device) : SameShape s s := ⟨rfl, fun _ => rfl⟩

theorem SameShape.trans {s₁ s₂ s₃ : Device} (h₁ : SameShape s₁ s₂) (h₂ : SameShape s₂ s₃) :
    SameShape s₁ s₃ :=
  ⟨h₂.names.trans h₁.names, fun b => (h₂.entries b).trans (h₁.entries b)⟩

theorem SameShape.contains {s s' : Device} (h : SameShape s s') (a : Address) :
    s'.dictionary.contains a = s.dictionary.contains a := by
  simpa only [StdMap.contains, Option.isSome_map'] using congrArg Option.isSome (h.entries a)

theorem Wf.of_sameShape {escape} {s s' : Device} (hs : Wf escape s) (h : SameShape s s') :
    Wf escape s' := by
  have hb : ∀ b e', s'.dictionary.find? b = some e' →
      ∃ e, s.dictionary.find? b = some e ∧ e'.name = e.name ∧ e'.address = e.address := by
    intro b e' he'
    have := h.entries b
    rw [he'] at this
    obtain ⟨e, he, hee⟩ := Option.map_eq_some'.1 this.symm
    simp only [Prod.mk.injEq] at hee
    exact ⟨e, he, hee.1.symm, hee.2.symm⟩
  refine ⟨⟨fun n a ha => ?_, fun b e' he' => ?_⟩, fun b e' he' => ?_⟩
  · rw [h.names] at ha
    rw [h.contains]
    exact hs.names_resolve n a ha
  · obtain ⟨e, he, hn, ha⟩ := hb b e' he'
    rw [hn, ha, h.names]
    exact hs.entries_named b e he
  · obtain ⟨e, he, hn, -⟩ := hb b e' he'
    rw [hn]
    exact hs.names_escaped b e he

theorem sameShape_sending (s : Device) (ms : List Message) : SameShape s (sending s ms) :=
  ⟨rfl, fun _ => rfl⟩

/-- An update of one entry that keeps its name and address. -/
theorem sameShape_modify (s : Device) (a : Address) {f : Entry → Entry}
    (hf : ∀ e, (f e).name = e.name ∧ (f e).address = e.address) :
    SameShape s { s with dictionary := s.dictionary.modify a f } :=
  ⟨rfl, fun b => by
    simp only [StdMap.find?_modify]
    split_ifs with h
    · subst h; cases s.dictionary.find? b <;> simp [hf]
    · rfl⟩

theorem sameShape_withValue (s : Device) (a : Address) (v : Value) : SameShape s (withValue s a v) :=
  sameShape_modify s a fun _ => ⟨rfl, rfl⟩

theorem sameShape_traced (s : Device) (x : SdoAccess) : SameShape s (traced s x) :=
  ⟨rfl, fun _ => rfl⟩

theorem sameShape_logged (s : Device) (req : SdoRequest) (m : Nat) : SameShape s (logged s req m) :=
  ⟨rfl, fun _ => rfl⟩

theorem values_withValue {s : Device} {a : Address} {e : Entry} (v : Value)
    (he : s.dictionary.find? a = some e) : values (withValue s a v) = Function.update (values s) a (some v) := by
  funext b
  simp only [values, find?_withValue, Function.update_apply]
  split_ifs with h <;> simp [h, he]

/-- The data of the upload `get_entry_via_sdo` performs at `a`, when an attempt
returns data. -/
def uploadData (d : Device) (a : Address) : Option (List UInt8) :=
  (retry (replies d (.upload d.nodeId a.index a.subindex)) (d.config.repeatsOnSdoTimeout+1)
    unknownSdoError).2.toOption

theorem getEntryViaSdo_ok_eq {index : UInt16} {subindex : UInt8} {type : DataType} {d d' : Device}
    {v : Value} (h : getEntryViaSdo index subindex type d = .ok v d') :
    ∃ bs m, uploadData d ⟨index, subindex⟩ = some bs ∧ v = ⟨type, bs⟩ ∧
      d' = traced (logged d (.upload d.nodeId index subindex) m) (.read index subindex v) := by
  rw [getEntryViaSdo_eq] at h
  dsimp only at h
  unfold uploadData
  generalize retry _ _ _ = r at h ⊢
  rcases r with ⟨m, last | bs⟩
  · cases h
  · dsimp only at h
    split at h
    · next w hw => cases h; exact ⟨bs, m, rfl, Value.ofBytes_eq_ok hw, rfl⟩
    · cases h

theorem setEntryViaSdo_ok_eq {index : UInt16} {subindex : UInt8} {value : Value} {d d' : Device}
    (h : setEntryViaSdo index subindex value d = .ok () d') :
    ∃ m, d' = traced (logged d (.download d.nodeId index subindex value.bytes) m)
      (.write index subindex value) := by
  rw [setEntryViaSdo_eq] at h
  dsimp only at h
  generalize retry _ _ _ = r at h
  rcases r with ⟨m, last | bs⟩ <;> cases h
  exact ⟨m, rfl⟩

theorem applyWrites_singleton (w : Address × Value) (f : Address → Option Value) :
    applyWrites [w] f = Function.update f w.1 (some w.2) := rfl

/-- The value `get_entry` caches at `a`: the data of its SDO read, when it reads
over SDO and the read returns data. -/
def readWrite (d : Device) (a : Address) (accessMethod : ReadAccessMethod) :
    Option (Address × Value) :=
  match d.dictionary.find? a with
  | some e =>
    if accessMethod = .sdo ∨ accessMethod = .useDefault ∧ e.readAccessMethod = .sdo then
      (uploadData d a).map fun bs => (a, ⟨e.type, bs⟩)
    else none
  | none => none

theorem getEntry_value {index : UInt16} {subindex : UInt8} {accessMethod : ReadAccessMethod}
    {s s' : Device} {v : Value} (hs : Consistent s)
    (h : getEntry escape index subindex accessMethod s = .ok v s') :
    SameShape s s' ∧ values s' = applyWrites (readWrite s ⟨index, subindex⟩ accessMethod).toList (values s) ∧
      s'.core.pdoCallbacks = s.core.pdoCallbacks := by
  rw [getEntry_eq] at h
  split at h
  · cases h
  · next e he =>
    split_ifs at h with hm
    · split at h
      · next w d₁ hw =>
        cases h
        obtain ⟨bs, m, hu, rfl, rfl⟩ := getEntryViaSdo_ok_eq hw
        rw [show (⟨e.index, e.subindex⟩ : Address) = ⟨index, subindex⟩ from
          (hs.entries_named _ e he).1] at hu
        have hr : readWrite s ⟨index, subindex⟩ accessMethod = some (⟨index, subindex⟩, ⟨e.type, bs⟩) := by
          simp only [readWrite, he, if_pos hm, hu, Option.map_some']
        refine ⟨((sameShape_logged _ _ _).trans (sameShape_traced _ _)).trans
          ((sameShape_withValue _ _ _).trans (sameShape_sending _ _)), ?_, rfl⟩
        rw [hr, Option.toList_some, applyWrites_singleton]
        exact values_withValue _ he
      · cases h
    · cases h
      have hr : readWrite s ⟨index, subindex⟩ accessMethod = none := by
        simp only [readWrite, he, if_neg hm]
      exact ⟨SameShape.refl _, by rw [hr]; rfl, rfl⟩

theorem setEntry_value {index : UInt16} {subindex : UInt8} {value : Value}
    {accessMethod : WriteAccessMethod} {s s' : Device}
    (h : setEntry escape index subindex value accessMethod s = .ok () s') :
    SameShape s s' ∧ values s' = Function.update (values s) ⟨index, subindex⟩ (some value) ∧
      s'.core.pdoCallbacks = s.core.pdoCallbacks := by
  rw [setEntry_eq] at h
  split at h
  · cases h
  · next e he =>
    dsimp only at h
    have hshape := (sameShape_withValue s ⟨index, subindex⟩ value).trans (sameShape_sending _
      (callbackFrames escape (withValue s ⟨index, subindex⟩ value) e.callbacks))
    split_ifs at h
    · obtain ⟨m, rfl⟩ := setEntryViaSdo_ok_eq h
      exact ⟨(hshape.trans (sameShape_logged _ _ _)).trans (sameShape_traced _ _),
        values_withValue _ he, rfl⟩
    · cases h
      exact ⟨hshape, values_withValue _ he, rfl⟩

/-- Every callback bound to the device is for a mapping whose escaped name
resolves. -/
def Bound (d : Device) : Prop :=
  ∀ c m, (c, PdoCallback.device m) ∈ d.core.pdoCallbacks → (findAddress d (escape m.entryName)).isSome

/-- The value a payload `data` handed to the `k`-th callback of the core caches:
for a callback bound to the device, whose entry is valid, and a payload long
enough, the slice of the entry's width at the mapping's offset. -/
def deliveryWrite (d : Device) (k : Nat) (data : List UInt8) : Option (Address × Value) :=
  match d.core.pdoCallbacks[k]? with
  | some (_, .device m) =>
    match findAddress d (escape m.entryName) with
    | some a =>
      match d.dictionary.find? a with
      | some e =>
        if e.type ≠ .invalid ∧ m.offset.toNat + getTypeSize e.type ≤ data.length then
          some (a, ⟨e.type, (data.drop m.offset.toNat).take (getTypeSize e.type)⟩)
        else none
      | none => none
    | none => none
  | _ => none

/-- `pdo_received_callback` on a mapping whose name resolves: nothing for an
entry of type `invalid` or a payload too short, else the slice of the entry's
width at the mapping's offset is cached. It never throws: the slice always has
the width `Value` checks. -/
theorem pdoReceivedCallback_eq {m : ReceivePDOMapping} {data : List UInt8} {s : Device}
    {a : Address} {e : Entry} (ha : findAddress s (escape m.entryName) = some a)
    (he : s.dictionary.find? a = some e) :
    pdoReceivedCallback escape m data s =
      if e.type ≠ .invalid ∧ m.offset.toNat + getTypeSize e.type ≤ data.length then
        let v : Value := ⟨e.type, (data.drop m.offset.toNat).take (getTypeSize e.type)⟩
        .ok () (sending (withValue s a v) (callbackFrames escape (withValue s a v) e.callbacks))
      else .ok () s := by
  simp only [pdoReceivedCallback, bind_apply, addressOf_of_find ha, entryAt_of_find he]
  by_cases hi : e.type = .invalid
  · simp [hi]
  by_cases hl : data.length < m.offset.toNat + getTypeSize e.type
  · simp [hi, hl, Nat.not_le.2 hl]
  have hw : ((data.drop m.offset.toNat).take (getTypeSize e.type)).length = getTypeSize e.type := by
    simp only [List.length_take, List.length_drop]
    omega
  simp only [hi, hl, if_false, bind_apply, pure_apply, Value.ofBytes_of_length hw, throwExcept_ok,
    setValue_eq escape _ he]
  rw [if_pos ⟨hi, Nat.not_lt.1 hl⟩]

/-- A payload handed to a registered callback returns, and caches the write
`deliveryWrite` names. -/
theorem deliverAt_value (k : Nat) (data : List UInt8) {s : Device} (hs : Consistent s)
    (hb : Bound escape s) :
    ∃ s', deliverAt escape k data s = .ok () s' ∧ SameShape s s' ∧
      values s' = applyWrites (deliveryWrite escape s k data).toList (values s) ∧
      s'.core.pdoCallbacks = s.core.pdoCallbacks := by
  simp only [deliverAt, bind_apply, get_apply]
  unfold deliveryWrite
  cases hk : s.core.pdoCallbacks[k]? with
  | none => exact ⟨s, rfl, SameShape.refl _, rfl, rfl⟩
  | some p =>
    obtain ⟨c, cb⟩ := p
    cases cb with
    | user m => exact ⟨s, rfl, SameShape.refl _, rfl, rfl⟩
    | device m =>
      obtain ⟨a, ha⟩ := Option.isSome_iff_exists.1 (hb c m (List.getElem?_mem hk))
      obtain ⟨e, he⟩ := Option.isSome_iff_exists.1 (hs.names_resolve _ a ha)
      simp only [deliver, pdoReceivedCallback_eq escape ha he, ha, he]
      split_ifs
      · exact ⟨_, rfl, (sameShape_withValue _ _ _).trans (sameShape_sending _ _),
          values_withValue _ he, rfl⟩
      · exact ⟨s, rfl, SameShape.refl _, rfl, rfl⟩

theorem bound_withReceiveMapping {s : Device} (hb : Bound escape s) (pdo : ReceivePDOMapping)
    (callback : PdoCallback) (recordCobId : Bool)
    (hcb : ∀ m, callback = .device m → (findAddress s (escape m.entryName)).isSome) :
    Bound escape (withReceiveMapping s pdo callback recordCobId) := by
  intro c m hm
  simp only [withReceiveMapping, List.mem_append, List.mem_singleton, Prod.mk.injEq] at hm
  rcases hm with hm | ⟨-, hm⟩
  · exact hb c m hm
  · exact hcb m hm.symm

theorem addReceivePdoMapping_value {escape} (hid : Idempotent escape) {cobId : UInt16}
    {entryName : String} {offset : UInt8} {s s' : Device} (hs : Wf escape s) (hb : Bound escape s)
    (h : addReceivePdoMapping escape cobId entryName offset s = .ok () s') :
    SameShape s s' ∧ values s' = values s ∧ Bound escape s' := by
  simp only [addReceivePdoMapping, bind_apply, entryByName_escape hid hs.toConsistent] at h
  cases hl : lookup s (escape entryName) <;> simp only [hl] at h
  · cases h
  · rw [bindReceivePdoMapping_eq] at h
    split_ifs at h
    cases h
    refine ⟨⟨rfl, fun _ => rfl⟩, rfl, bound_withReceiveMapping escape hb _ _ _ ?_⟩
    rintro m ⟨⟩
    show (findAddress s (escape (escape entryName))).isSome
    rw [hid]
    cases hf : findAddress s (escape entryName) with
    | none => rw [lookup, hf] at hl; cases hl
    | some a => rfl

theorem addReceivePdoMappingAt_value {cobId entryIndex : UInt16} {entrySubindex offset : UInt8}
    {s s' : Device} {escape} (hs : Wf escape s) (hb : Bound escape s)
    (hc : s.dictionary.contains ⟨entryIndex, entrySubindex⟩ = true)
    (h : addReceivePdoMappingAt cobId entryIndex entrySubindex offset s = .ok () s') :
    SameShape s s' ∧ values s' = values s ∧ Bound escape s' := by
  obtain ⟨e, he⟩ := Option.isSome_iff_exists.1 hc
  simp only [addReceivePdoMappingAt, bind_apply, entryAt_of_find he] at h
  rw [bindReceivePdoMapping_eq] at h
  split_ifs at h
  cases h
  refine ⟨⟨rfl, fun _ => rfl⟩, rfl, bound_withReceiveMapping escape hb _ _ _ ?_⟩
  rintro m ⟨⟩
  show (findAddress s (escape e.name)).isSome
  rw [hs.names_escaped _ e he, findAddress, (hs.entries_named _ e he).2]
  rfl

theorem addReceivePdoMappingWith_value {escape} (hid : Idempotent escape) {cobId : UInt16}
    {entryName : String} {offset : UInt8} {s s' : Device} (hs : Wf escape s) (hb : Bound escape s)
    (h : addReceivePdoMappingWith escape cobId entryName offset s = .ok () s') :
    SameShape s s' ∧ values s' = values s ∧ Bound escape s' := by
  simp only [addReceivePdoMappingWith, bind_apply, entryByName_escape hid hs.toConsistent] at h
  cases hl : lookup s (escape entryName) <;> simp only [hl] at h
  · cases h
  · rw [bindReceivePdoMapping_eq] at h
    split_ifs at h
    cases h
    exact ⟨⟨rfl, fun _ => rfl⟩, rfl, bound_withReceiveMapping escape hb _ _ _ fun _ h => by cases h⟩

theorem Bound.of_sameShape {escape} {s s' : Device} (hb : Bound escape s) (h : SameShape s s')
    (hc : s'.core.pdoCallbacks = s.core.pdoCallbacks) : Bound escape s' := by
  intro c m hm
  rw [hc] at hm
  simpa only [findAddress, h.names] using hb c m hm

theorem ok_of_discard {α : Type} {x : DeviceM α} {d d' : Device}
    (h : Functor.discard x d = .ok () d') : ∃ a, x d = .ok a d' := by
  cases hx : x d <;> rw [discard_apply, hx] at h <;> cases h
  exact ⟨_, rfl⟩

/-- The cached value a call writes, and where. -/
def valueWrite (d : Device) : Call → Option (Address × Value)
  | .setEntry i s v _ => some (⟨i, s⟩, v)
  | .setEntryByName n v _ => (findAddress d (escape n)).map fun a => (a, v)
  | .getEntry i s m => readWrite d ⟨i, s⟩ m
  | .getEntryByName n m => (findAddress d (escape n)).bind fun a => readWrite d a m
  | .deliver k data => deliveryWrite escape d k data
  | _ => none

/-- The calls of a run of the value law: the receive mapping by index only on an
address that holds an entry. -/
def Call.ValueKind (d : Device) : Call → Prop
  | .setEntry .. | .setEntryByName .. | .getEntry .. | .getEntryByName .. | .addReceivePdoMapping ..
  | .addReceivePdoMappingWith .. | .deliver .. => True
  | .addReceivePdoMappingAt _ i s _ => d.dictionary.contains ⟨i, s⟩ = true
  | _ => False

theorem value_step {escape} (hid : Idempotent escape) {s s' : Device} {c : Call}
    (hs : Wf escape s) (hb : Bound escape s) (hc : c.ValueKind s) (h : c.exec escape s = .ok () s') :
    Wf escape s' ∧ Bound escape s' ∧ values s' = applyWrites (valueWrite escape s c).toList (values s) := by
  have keep : ∀ {s'} {w : Option (Address × Value)}, SameShape s s' →
      s'.core.pdoCallbacks = s.core.pdoCallbacks → values s' = applyWrites w.toList (values s) →
      Wf escape s' ∧ Bound escape s' ∧ values s' = applyWrites w.toList (values s) :=
    fun h₁ h₂ h₃ => ⟨hs.of_sameShape h₁, hb.of_sameShape h₁ h₂, h₃⟩
  have mapping : ∀ {s'}, SameShape s s' ∧ values s' = values s ∧ Bound escape s' →
      Wf escape s' ∧ Bound escape s' ∧ values s' = applyWrites [] (values s) :=
    fun ⟨h₁, h₂, h₃⟩ => ⟨hs.of_sameShape h₁, h₃, h₂⟩
  cases c with
  | setEntry =>
    obtain ⟨h₁, h₂, h₃⟩ := setEntry_value escape h
    exact keep h₁ h₃ h₂
  | setEntryByName n v m =>
    simp only [Call.exec] at h
    rw [setEntryByName_eq hid hs.toConsistent] at h
    simp only [valueWrite]
    split at h
    · cases h
    · next a ha =>
      obtain ⟨h₁, h₂, h₃⟩ := setEntry_value escape h
      rw [ha]
      exact keep h₁ h₃ h₂
  | getEntry =>
    obtain ⟨v, hv⟩ := ok_of_discard h
    obtain ⟨h₁, h₂, h₃⟩ := getEntry_value escape hs.toConsistent hv
    exact keep h₁ h₃ h₂
  | getEntryByName n m =>
    obtain ⟨v, hv⟩ := ok_of_discard h
    rw [getEntryByName_eq hid hs.toConsistent] at hv
    simp only [valueWrite]
    split at hv
    · cases hv
    · next a ha =>
      obtain ⟨h₁, h₂, h₃⟩ := getEntry_value escape hs.toConsistent hv
      rw [ha]
      exact keep h₁ h₃ h₂
  | addReceivePdoMapping => exact mapping (addReceivePdoMapping_value hid hs hb h)
  | addReceivePdoMappingWith => exact mapping (addReceivePdoMappingWith_value hid hs hb h)
  | addReceivePdoMappingAt => exact mapping (addReceivePdoMappingAt_value hs hb hc h)
  | deliver k data =>
    obtain ⟨s₁, h', h₁, h₂, h₃⟩ := deliverAt_value escape k data hs.toConsistent hb
    cases h'.symm.trans h
    exact keep h₁ h₃ h₂
  | _ => exact hc.elim

/-- A run of value calls from `d` to `d'`, none of them throwing. -/
inductive ValueRun (escape : String → String) : List Call → Device → Device → Prop
  | nil (d : Device) : ValueRun escape [] d d
  | cons {c : Call} {cs : List Call} {d d₁ d₂ : Device} : c.ValueKind d →
      c.exec escape d = .ok () d₁ → ValueRun escape cs d₁ d₂ → ValueRun escape (c::cs) d d₂

/-- The writes of the calls `cs`, each taken in the state the call starts from. -/
def runWrites : List Call → Device → List (Address × Value)
  | [], _ => []
  | c::cs, d => (valueWrite escape d c).toList ++ runWrites cs (final (c.exec escape d))

theorem applyWrites_append (ws ws' : List (Address × Value)) (f : Address → Option Value) :
    applyWrites (ws ++ ws') f = applyWrites ws' (applyWrites ws f) :=
  List.foldl_append _ _ _ _

theorem valueRun_spec {escape} (hid : Idempotent escape) {cs : List Call} {d d' : Device}
    (hrun : ValueRun escape cs d d') (hd : Wf escape d) (hb : Bound escape d) :
    Wf escape d' ∧ Bound escape d' ∧ values d' = applyWrites (runWrites escape cs d) (values d) := by
  induction hrun with
  | nil => exact ⟨hd, hb, rfl⟩
  | cons hc h _ ih =>
    obtain ⟨hs₁, hb₁, hv⟩ := value_step hid hd hb hc h
    obtain ⟨hs₂, hb₂, hv₂⟩ := ih hs₁ hb₁
    refine ⟨hs₂, hb₂, ?_⟩
    rw [runWrites, h, final_ok, applyWrites_append, ← hv, hv₂]

/-- Last writer wins: after any run of `set_entry`, `get_entry`, receive mappings
and PDO deliveries in which no call throws, every cached value is the one the
most recent write to its address left, or its initial value. -/
theorem cached_values_last_writer_wins (hid : Idempotent escape) {cs : List Call} {d d' : Device}
    (hd : Wf escape d) (hb : Bound escape d) (hrun : ValueRun escape cs d d') :
    values d' = applyWrites (runWrites escape cs d) (values d) :=
  (valueRun_spec hid hrun hd hb).2.2

/-- A cached write, a receive mapping and an empty PDO delivered to it. -/
def xRun : List Call :=
  [.setEntry 0x6000 0 ⟨.uint8, [5]⟩ .pdo, .addReceivePdoMapping 0x181 "x" 0, .deliver 0 []]

theorem cached_values_last_writer_wins_x :
    ∃ d', ValueRun id xRun readableDevice d' ∧
      values d' = applyWrites (runWrites id xRun readableDevice) (values readableDevice) :=
  have hrun : ValueRun id xRun readableDevice _ :=
    .cons trivial rfl (.cons trivial rfl (.cons trivial rfl (.nil _)))
  ⟨_, hrun, cached_values_last_writer_wins id (fun _ => rfl)
    (Wf.keeps_addEntry (fun _ => rfl) _ _ _ _ _ _ (wf_create _ _ _ _ _)) (fun _ _ h => by cases h) hrun⟩

/-- A mapping by index for an entry whose name is not in escaped form: the
delivered payload reaches no entry, and the entry keeps its value. -/
theorem delivery_to_unescaped_name_caches_nothing :
    Idempotent lowerX ∧ Consistent deviceWithUpperX ∧ ∃ d₁ d₂,
      addReceivePdoMappingAt 0x181 0x6000 0 0 deviceWithUpperX = .ok () d₁ ∧
      deliverAt lowerX 0 [9] d₁ = .ok () d₂ ∧ values d₂ ⟨0x6000, 0⟩ ≠ some ⟨.uint8, [9]⟩ :=
  ⟨lowerX_idempotent, (Wf.keeps_addEntry (fun _ => rfl) _ _ _ _ _ _ (wf_create _ _ _ _ _)).toConsistent,
    _, _, rfl, rfl, by decide⟩

end KaCanOpen.Device
