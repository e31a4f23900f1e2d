import KaCanOpen.TypedCache
import KaCanOpen.PdoFrame

/-!
# What the device puts on the bus

The device sends the NMT command starting its own node, its heartbeat request,
and the PDO frames of its transmit mappings, from the ON_CHANGE closures or the
PERIODIC threads of `add_transmit_pdo_mapping`; no run sends any other frame.
-/

set_option autoImplicit false

namespace KaCanOpen.Device

open DeviceM

variable (escape : String → String)

/-- A frame `d` may put on the bus: the NMT command starting its own node, the
frame of its heartbeat request, or a PDO frame on the COB-ID of one of its
transmit mappings that is ON_CHANGE or has its periodic transmitter running. -/
def Sendable (d : Device) (f : Message) : Prop :=
  f = ⟨0, false, 2, [NmtCommand.startNode.code, d.nodeId]⟩ ∨
    (∃ hb, d.heartbeatThread = some hb ∧ f = heartbeatMessage hb) ∨
    ∃ pdo ∈ d.transmitPdoMappings, (pdo.transmissionType = .onChange ∨ pdo.runPeriodicTransmitter = true) ∧
      f.cobId = pdo.cobId ∧ f.rtr = false ∧ f.len = 8 ∧ f.data.length = 8

/-- Every value-changed callback of the dictionary sends on the COB-ID of one
of the device's ON_CHANGE transmit mappings. -/
def CallbacksInstalled (d : Device) : Prop :=
  ∀ a e, d.dictionary.find? a = some e → ∀ cobId ms, .sendPdo cobId ms ∈ e.callbacks →
    ∃ pdo ∈ d.transmitPdoMappings, pdo.transmissionType = .onChange ∧ pdo.cobId = cobId

/-- Since `d₀`, `d` has sent only frames it may send, and every callback of its
dictionary is the closure of one of its ON_CHANGE mappings. -/
def BusSafe (d₀ d : Device) : Prop :=
  (∃ new, d.core.sent = d₀.core.sent ++ new ∧ ∀ f ∈ new, Sendable d f) ∧ CallbacksInstalled d

/-- `d'` has the node ID of `d`, its heartbeat request if it made one, and its
transmit mappings. -/
structure Grows (d d' : Device) : Prop where
  nodeId : d'.nodeId = d.nodeId
  heartbeatThread : ∀ hb, d.heartbeatThread = some hb → d'.heartbeatThread = some hb
  transmitPdoMappings : d.transmitPdoMappings ⊆ d'.transmitPdoMappings

theorem Sendable.len_eq {d : Device} {f : Message} (hf : Sendable d f) :
    f.len.toNat = f.data.length ∧ f.data.length ≤ 8 := by
  rcases hf with rfl | ⟨hb, -, rfl⟩ | ⟨pdo, -, -, -, -, hlen, hdata⟩
  · exact ⟨rfl, by simp⟩
  · exact ⟨rfl, by simp [heartbeatMessage]⟩
  · rw [hlen, hdata]
    exact ⟨rfl, le_rfl⟩

theorem Sendable.mono {d d' : Device} (h : Grows d d') {f : Message} (hf : Sendable d f) :
    Sendable d' f := by
  rcases hf with hf | ⟨hb, hhb, hf⟩ | ⟨pdo, hpdo, hrest⟩
  · exact .inl (h.nodeId ▸ hf)
  · exact .inr (.inl ⟨hb, h.heartbeatThread hb hhb, hf⟩)
  · exact .inr (.inr ⟨pdo, h.transmitPdoMappings hpdo, hrest⟩)

section Steps

variable {d₀ : Device}

theorem BusSafe.step {d d' : Device} (h : BusSafe d₀ d) (hg : Grows d d')
    (hsent : d'.core.sent = d.core.sent) (hcb : CallbacksInstalled d') : BusSafe d₀ d' := by
  obtain ⟨⟨new, hnew, hf⟩, -⟩ := h
  exact ⟨⟨new, hsent.trans hnew, fun f hm => (hf f hm).mono hg⟩, hcb⟩

theorem BusSafe.sending {d : Device} (h : BusSafe d₀ d) {ms : List Message}
    (hms : ∀ f ∈ ms, Sendable d f) : BusSafe d₀ (sending d ms) := by
  obtain ⟨⟨new, hnew, hf⟩, hcb⟩ := h
  refine ⟨⟨new ++ ms, by simp only [Device.sending, hnew, List.append_assoc], fun f hm => ?_⟩, hcb⟩
  rcases List.mem_append.1 hm with hm | hm
  · exact hf f hm
  · exact hms f hm

theorem callbackFrames_sendable {d d' : Device} (hc : CallbacksInstalled d) {a : Address} {e : Entry}
    (he : d.dictionary.find? a = some e) : ∀ f ∈ callbackFrames escape d' e.callbacks, Sendable d f := by
  intro f hf
  obtain ⟨⟨cobId, ms⟩, hcb, rfl⟩ := List.mem_map.1 hf
  obtain ⟨pdo, hpdo, ht, hc⟩ := hc a e he cobId ms hcb
  exact .inr (.inr ⟨pdo, hpdo, .inl ht, hc.symm, rfl, rfl, length_pdoFrame escape _ _⟩)

theorem CallbacksInstalled.modifyEntry {d : Device} (hc : CallbacksInstalled d) (a : Address)
    {f : Entry → Entry} (hf : ∀ e cobId ms, .sendPdo cobId ms ∈ (f e).callbacks →
      .sendPdo cobId ms ∈ e.callbacks ∨
        ∃ pdo ∈ d.transmitPdoMappings, pdo.transmissionType = .onChange ∧ pdo.cobId = cobId) :
    CallbacksInstalled { d with dictionary := d.dictionary.modify a f } := by
  intro a' e' he' cobId ms hcb
  simp only [StdMap.find?_modify] at he'
  split_ifs at he'
  · obtain ⟨e, he, rfl⟩ := Option.map_eq_some'.1 he'
    rcases hf e cobId ms hcb with hcb | hnew
    · exact hc _ e he cobId ms hcb
    · exact hnew
  · exact hc a' e' he' cobId ms hcb

theorem busSafe_caching : KeptByCaching escape (BusSafe d₀) := fun d a e v hd he _ => by
  have h₁ : BusSafe d₀ (withValue d a v) := ⟨hd.1, hd.2.modifyEntry a fun _ _ _ h => .inl h⟩
  exact h₁.sending (callbackFrames_sendable escape hd.2 he)

theorem busSafe_entryAt (a : Address) : Keeps (BusSafe d₀) (entryAt a) := fun d hd => by
  refine ⟨hd.1, fun a' e' he' cobId ms hcb => ?_⟩
  rcases (@entryAt_ok a d _ _ rfl).2.2 a' e' he' with he | rfl
  · exact hd.2 a' e' he cobId ms hcb
  · cases hcb

theorem BusSafe.record {d : Device} (h : BusSafe d₀ d) (pdo : TransmitPDOMapping) :
    BusSafe d₀ { d with transmitPdoMappings := pdo::d.transmitPdoMappings } :=
  h.step ⟨rfl, fun _ h => h, List.subset_cons_self _ _⟩ rfl fun a e he c ms hcb => by
    obtain ⟨pdo', hpdo, hrest⟩ := h.2 a e he c ms hcb
    exact ⟨pdo', List.mem_cons_of_mem _ hpdo, hrest⟩

theorem busSafe_addSendCallbacks (pdo : TransmitPDOMapping) (hpdo : pdo.transmissionType = .onChange)
    (ms : List Mapping) :
    Keeps (fun d => BusSafe d₀ d ∧ pdo ∈ d.transmitPdoMappings) (addSendCallbacks escape pdo ms) :=
  keeps_addSendCallbacks escape pdo (fun a => Keeps.modify fun d ⟨hd, hmem⟩ =>
    ⟨⟨hd.1, hd.2.modifyEntry a fun e c ms hcb => by
      rcases List.mem_append.1 hcb with hcb | hcb
      · exact .inl hcb
      · cases List.mem_singleton.1 hcb
        exact .inr ⟨pdo, hmem, hpdo, rfl⟩⟩, hmem⟩) ms

theorem busSafe_installTransmitPdoMapping (cobId : UInt16) (mappings : List Mapping)
    (transmissionType : TransmissionType) (repeatTime : Nat) :
    Keeps (BusSafe d₀) (installTransmitPdoMapping escape cobId mappings transmissionType repeatTime) := by
  refine Keeps.bind Keeps.get fun _ => Keeps.bind (Keeps.throwExcept _) fun _ => ?_
  cases transmissionType
  · -- ON_CHANGE: the mapping is recorded, then its closure appended to the entries it names
    intro d hd
    dsimp only
    simp only [bind_apply, modify_apply]
    exact (busSafe_addSendCallbacks escape _ rfl _ _ ⟨hd.record _, List.mem_cons_self _ _⟩).1
  · exact Keeps.modify fun d hd => hd.record _

theorem busSafe_heartbeatTick : Keeps (BusSafe d₀) heartbeatTick := by
  intro d hd
  simp only [heartbeatTick, bind_apply, get_apply]
  cases hhb : d.heartbeatThread with
  | none => exact hd
  | some hb =>
    dsimp only
    split_ifs
    · exact hd.sending fun f hf => by
        cases List.mem_singleton.1 hf
        exact .inr (.inl ⟨hb, hhb, rfl⟩)
    · exact hd

theorem busSafe_periodicTick (k : Nat) : Keeps (BusSafe d₀) (periodicTick escape k) := by
  intro d hd
  simp only [periodicTick, bind_apply, get_apply]
  cases hpdo : d.transmitPdoMappings[k]? with
  | none => exact hd
  | some pdo =>
    dsimp only
    split_ifs with hrun
    · exact hd.sending fun f hf => by
        cases List.mem_singleton.1 hf
        exact .inr (.inr ⟨pdo, List.getElem?_mem hpdo, .inr hrun, rfl, rfl, rfl, length_pdoFrame escape _ _⟩)
    · exact hd

theorem busSafe_nmtStart : Keeps (BusSafe d₀) (do sendNmtMessage (← get).nodeId .startNode) :=
  fun _ hd => hd.sending fun f hf => by
    cases List.mem_singleton.1 hf
    exact .inl rfl

theorem busSafe_addEntry (index : UInt16) (subindex : UInt8) (name : String) (type : DataType)
    (accessType : AccessType) :
    Keeps (BusSafe d₀) (addEntry escape index subindex name type accessType) := by
  intro d hd
  cases h : addEntry escape index subindex name type accessType d with
  | ok _ d' =>
    obtain ⟨-, -, hd'⟩ := addEntry_ok escape h
    subst hd'
    refine ⟨hd.1, fun a e he c ms hcb => ?_⟩
    rcases addEntry_entries escape h a e he with he | rfl
    · exact hd.2 a e he c ms hcb
    · cases hcb
  | error _ d' =>
    obtain rfl := addEntry_error escape h
    exact hd

theorem busSafe_requestHeartbeat (nodeId : UInt8) (heartbeatInterval : UInt16) (rtr : Bool)
    (state : NmtState) : Keeps (BusSafe d₀) (requestHeartbeat nodeId heartbeatInterval rtr state) := by
  intro d hd
  unfold requestHeartbeat
  split_ifs
  · simp only [bind_apply, get_apply]
    cases hhb : d.heartbeatThread with
    | none =>
      -- a heartbeat request is made only when none was
      simp only [Option.isNone_none, if_true, modify_apply]
      exact hd.step ⟨rfl, (fun _ h => by rw [hhb] at h; cases h), List.Subset.refl _⟩ rfl hd.2
    | some hb => exact hd
  · exact hd

end Steps

theorem busSafe_accesses (d₀ : Device) : Accesses escape (BusSafe d₀) where
  getEntry := keeps_getEntry_of_caching escape
    (keeps_getEntryViaSdo (keeps_sdoTransaction fun _ _ h => h) fun _ => Keeps.modify fun _ h => h)
    (busSafe_caching escape)
  setEntry := keeps_setEntry_of_caching escape
    (keeps_setEntryViaSdo (keeps_sdoTransaction fun _ _ h => h) fun _ => Keeps.modify fun _ h => h)
    (busSafe_caching escape)
  pdoReceivedCallback := keeps_pdoReceivedCallback_of_caching escape (fun _ _ h => h) busSafe_entryAt
    (busSafe_caching escape)
  installTransmitPdoMapping := busSafe_installTransmitPdoMapping escape
  markDisabled a := Keeps.modify fun _ hd =>
    ⟨hd.1, hd.2.modifyEntry a fun _ _ _ h => .inl h⟩
  heartbeatTick := busSafe_heartbeatTick
  periodicTick := busSafe_periodicTick escape
  nmtStart := busSafe_nmtStart
  entryAt := busSafe_entryAt
  addressOf _ _ h := h
  addEntry := busSafe_addEntry escape
  bindReceivePdoMapping _ _ _ _ _ _ d hd := by
    rw [bindReceivePdoMapping_eq]
    split_ifs <;> exact hd
  requestHeartbeat := busSafe_requestHeartbeat
  stopRequestHeartbeat := Keeps.modify fun _ h => h

/-- No run of calls puts on the bus a frame other than the NMT command starting
the device's own node, the frame of its heartbeat request, or a PDO frame on
the COB-ID of one of its ON_CHANGE transmit mappings or of a PERIODIC one whose
transmitter runs. -/
theorem run_sends_only_own_frames (cs : List Call) {d : Device} (hd : CallbacksInstalled d) :
    ∃ new, (run escape cs d).core.sent = d.core.sent ++ new ∧ ∀ f ∈ new, Sendable (run escape cs d) f :=
  ((busSafe_accesses escape d).keeps_run cs ⟨⟨[], (List.append_nil _).symm, fun _ h => nomatch h⟩, hd⟩).1

theorem run_sends_only_own_frames_x :
    CallbacksInstalled emptyDevice ∧
      ∃ new, (run id [.addEntry 0x6000 0 "x" .uint8 .readWrite,
          .addTransmitPdoMapping 0x201 [⟨"x", 0⟩] .onChange 0, .setEntry 0x6000 0 ⟨.uint8, [3]⟩ .pdo,
          .addTransmitPdoMapping 0x281 [⟨"x", 0⟩] .periodic 10, .periodicTick 0,
          .requestHeartbeat 5 100 false .operational, .heartbeatTick, .start] emptyDevice).core.sent =
          emptyDevice.core.sent ++ new ∧
        ∀ f ∈ new, Sendable (run id [.addEntry 0x6000 0 "x" .uint8 .readWrite,
          .addTransmitPdoMapping 0x201 [⟨"x", 0⟩] .onChange 0, .setEntry 0x6000 0 ⟨.uint8, [3]⟩ .pdo,
          .addTransmitPdoMapping 0x281 [⟨"x", 0⟩] .periodic 10, .periodicTick 0,
          .requestHeartbeat 5 100 false .operational, .heartbeatTick, .start] emptyDevice) f :=
  ⟨(fun _ _ h => nomatch h), run_sends_only_own_frames id _ fun _ _ h => nomatch h⟩

end KaCanOpen.Device
