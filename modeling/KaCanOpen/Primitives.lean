import KaCanOpen.Calls
import KaCanOpen.Keeps

/-!
# Every call, from its primitive updates

The calls change the state only through a few accesses: `get_entry` and
`set_entry` on an address, `pdo_received_callback`, the installation of a
transmit mapping, the mark `read_complete_dictionary` sets on an entry, a turn
of the heartbeat loop, the NMT command `start` sends, `operator[]` on the
dictionary or on the name index, `add_entry`, the tail of the receive mappings,
and the two heartbeat functions. A property each of these keeps is kept by
every call, whatever its arguments and whether it returns or throws, and so
holds in every state the calls reach. The accesses in turn change the state
only through SDO reads and writes with their retries and trace, sent frames,
`operator[]`, an update of one entry that keeps its address and type and only
appends callbacks, and the list of transmit mappings, so a property of the
state that these primitive updates keep is kept by every call as well.
-/

set_option autoImplicit false

namespace KaCanOpen.Device

open DeviceM

section Composite

variable (escape : String → String) {P : Device → Prop}

theorem keeps_retrySdo {α : Type} {attempt : DeviceM α} (h : Keeps P attempt) :
    ∀ n last, Keeps P (retrySdo attempt n last)
  | 0, _ => Keeps.pure _
  | n+1, _ => Keeps.catchSdo (Keeps.bind h fun _ => Keeps.pure _) fun e => keeps_retrySdo h n e

theorem keeps_viaSdo {α : Type} (caller : String) {attempt : UInt8 → DeviceM α}
    (h : ∀ n, Keeps P (attempt n)) : Keeps P (viaSdo caller attempt) := by
  refine Keeps.bind Keeps.get fun d => Keeps.bind (keeps_retrySdo (h _) _ _) fun r => ?_
  split
  · exact Keeps.pure _
  · exact Keeps.throw _

/-- A property that does not read the SDO log is kept by every transaction. -/
theorem keeps_sdoTransaction (hP : ∀ d log, P d → P { d with core := { d.core with sdoLog := log } })
    (req : SdoRequest) : Keeps P (sdoTransaction req) := by
  intro d hd
  simp only [sdoTransaction]
  split <;> exact hP _ _ hd

theorem keeps_getEntryViaSdo (hsdo : ∀ req, Keeps P (sdoTransaction req))
    (htrace : ∀ a, Keeps P (traceSdo a)) (index : UInt16) (subindex : UInt8) (type : DataType) :
    Keeps P (getEntryViaSdo index subindex type) :=
  Keeps.bind (keeps_viaSdo _ fun _ => Keeps.bind (hsdo _) fun _ => Keeps.throwExcept _) fun _ =>
    Keeps.bind (htrace _) fun _ => Keeps.pure _

theorem keeps_setEntryViaSdo (hsdo : ∀ req, Keeps P (sdoTransaction req))
    (htrace : ∀ a, Keeps P (traceSdo a)) (index : UInt16) (subindex : UInt8) (value : Value) :
    Keeps P (setEntryViaSdo index subindex value) :=
  Keeps.bind (keeps_viaSdo _ fun _ => Keeps.bind (hsdo _) fun _ => Keeps.pure _) fun _ => htrace _

theorem keeps_writeEntryLoop (hset : ∀ i s v m, Keeps P (setEntry escape i s v m)) (index : UInt16)
    (entries : List UInt32) :
    ∀ fuel i offset, Keeps P (writeEntryLoop escape index entries fuel i offset)
  | 0, _, _ => Keeps.pure _
  | fuel+1, _, _ => Keeps.ite (Keeps.bind (hset _ _ _ _) fun _ =>
      keeps_writeEntryLoop hset index entries fuel _ _) (Keeps.pure _)

theorem keeps_setEntries (hset : ∀ i s v m, Keeps P (setEntry escape i s v m)) (index : UInt16) :
    ∀ extra, Keeps P (setEntries escape index extra)
  | [] => Keeps.pure _
  | _::extra => Keeps.bind (hset _ _ _ _) fun _ => keeps_setEntries hset index extra

theorem keeps_mapPdoInDevice (hget : ∀ i s m, Keeps P (getEntry escape i s m))
    (hset : ∀ i s v m, Keeps P (setEntry escape i s v m)) (commParamIdx mappParamIdx : UInt16)
    (entriesToBeMapped : List UInt32) (transmitType : UInt8) (extra : List (UInt8 × Value))
    (fuel : Nat) :
    Keeps P
      (mapPdoInDevice escape commParamIdx mappParamIdx entriesToBeMapped transmitType extra fuel) := by
  refine Keeps.bind (hget _ _ _) fun _ => Keeps.bind (Keeps.throwExcept _) fun _ =>
    Keeps.bind (hset _ _ _ _) fun _ => Keeps.bind (hset _ _ _ _) fun _ =>
      Keeps.bind (keeps_writeEntryLoop escape hset _ _ _ _ _) fun _ => ?_
  dsimp only
  exact Keeps.ite (Keeps.pure _) (Keeps.pure_bind (Keeps.bind (hset _ _ _ _) fun _ =>
    Keeps.bind (hset _ _ _ _) fun _ => Keeps.bind (keeps_setEntries escape hset _ _) fun _ =>
      Keeps.bind (hset _ _ _ _) fun _ => Keeps.pure _))

/-- The checked lookups `at` change nothing. -/
theorem keeps_atName (name : String) : Keeps P (atName name) := by
  intro d hd
  simp only [atName]
  split <;> exact hd

theorem keeps_atEntry (a : Address) : Keeps P (atEntry a) := by
  intro d hd
  simp only [atEntry]
  split <;> exact hd

theorem keeps_getDeviceProfileNumber (hget : ∀ i s m, Keeps P (getEntry escape i s m)) :
    Keeps P (getDeviceProfileNumber escape) :=
  Keeps.bind (hget _ _ _) fun _ => Keeps.bind (Keeps.throwExcept _) fun _ => Keeps.pure _

theorem keeps_start (hget : ∀ i s m, Keeps P (getEntry escape i s m))
    (hnmt : Keeps P (do sendNmtMessage (← get).nodeId .startNode)) : Keeps P (start escape) :=
  Keeps.bind (Keeps.discard (keeps_getDeviceProfileNumber escape hget)) fun _ =>
    Keeps.bind (Keeps.discard (keeps_getDeviceProfileNumber escape hget)) fun _ => hnmt

theorem keeps_heartbeatTick (hsend : ∀ m, Keeps P (send m)) : Keeps P heartbeatTick := by
  refine Keeps.bind Keeps.get fun d => ?_
  split
  · exact Keeps.ite (hsend _) (Keeps.pure _)
  · exact Keeps.pure _

theorem keeps_periodicTick (hsend : ∀ m, Keeps P (send m)) (k : Nat) : Keeps P (periodicTick escape k) := by
  refine Keeps.bind Keeps.get fun d => ?_
  split
  · exact Keeps.ite (Keeps.bind Keeps.get fun _ => hsend _) (Keeps.pure _)
  · exact Keeps.pure _

/-- The ON_CHANGE loop, from the update appending the sending closure. -/
theorem keeps_addSendCallbacks (pdo : TransmitPDOMapping)
    (hmod : ∀ a, Keeps P (modifyEntry a fun e =>
      { e with callbacks := e.callbacks ++ [.sendPdo pdo.cobId pdo.mappings] })) :
    ∀ ms, Keeps P (addSendCallbacks escape pdo ms)
  | [] => Keeps.pure _
  | _::ms => Keeps.bind (keeps_atName _) fun _ => Keeps.bind (Keeps.discard (keeps_atEntry _)) fun _ =>
      Keeps.bind (hmod _) fun _ => keeps_addSendCallbacks pdo hmod ms

theorem keeps_installTransmitPdoMapping
    (hmod : ∀ (pdo : TransmitPDOMapping) a, Keeps P (modifyEntry a fun e =>
      { e with callbacks := e.callbacks ++ [.sendPdo pdo.cobId pdo.mappings] }))
    (htransmit : ∀ f : Device → List TransmitPDOMapping,
      Keeps P (modify fun d => { d with transmitPdoMappings := f d }))
    (cobId : UInt16) (mappings : List Mapping) (transmissionType : TransmissionType) (repeatTime : Nat) :
    Keeps P (installTransmitPdoMapping escape cobId mappings transmissionType repeatTime) := by
  refine Keeps.bind Keeps.get fun d => Keeps.bind (Keeps.throwExcept _) fun _ => ?_
  cases transmissionType
  · exact Keeps.bind (htransmit _) fun _ => keeps_addSendCallbacks escape _ (hmod _) _
  · exact htransmit _

end Composite

/-- The accesses through which the calls change the state, each keeping `P`:
the three functions that cache a value and the installation of a transmit
mapping, taken whole, the mark `read_complete_dictionary` sets, the turns of
the heartbeat and periodic transmitter threads, the NMT start, `operator[]`,
`add_entry`, the tail of the receive mappings and the two heartbeat functions. -/
structure Accesses (escape : String → String) (P : Device → Prop) : Prop where
  getEntry : ∀ index subindex accessMethod, Keeps P (getEntry escape index subindex accessMethod)
  setEntry : ∀ index subindex value accessMethod,
    Keeps P (setEntry escape index subindex value accessMethod)
  pdoReceivedCallback : ∀ mapping data, Keeps P (pdoReceivedCallback escape mapping data)
  installTransmitPdoMapping : ∀ cobId mappings transmissionType repeatTime,
    Keeps P (installTransmitPdoMapping escape cobId mappings transmissionType repeatTime)
  markDisabled : ∀ a, Keeps P (modifyEntry a fun e => { e with disabled := true })
  heartbeatTick : Keeps P heartbeatTick
  periodicTick : ∀ k, Keeps P (periodicTick escape k)
  nmtStart : Keeps P (do sendNmtMessage (← get).nodeId .startNode)
  entryAt : ∀ a, Keeps P (entryAt a)
  addressOf : ∀ name, Keeps P (addressOf name)
  addEntry : ∀ index subindex name type accessType,
    Keeps P (addEntry escape index subindex name type accessType)
  bindReceivePdoMapping : ∀ cobId name type offset callback recordCobId,
    Keeps P (bindReceivePdoMapping cobId name type offset callback recordCobId)
  requestHeartbeat : ∀ nodeId heartbeatInterval rtr state,
    Keeps P (requestHeartbeat nodeId heartbeatInterval rtr state)
  stopRequestHeartbeat : Keeps P stopRequestHeartbeat

namespace Accesses

variable {escape : String → String} {P : Device → Prop} (h : Accesses escape P)
include h

/-! ## Dictionary access -/

theorem keeps_getEntryType (index : UInt16) (subindex : UInt8) :
    Keeps P (getEntryType index subindex) := by
  refine Keeps.bind Keeps.get fun d => ?_
  dsimp only
  exact Keeps.ite (Keeps.throw_bind _ _)
    (Keeps.pure_bind (Keeps.bind (h.entryAt _) fun _ => Keeps.pure _))

theorem keeps_getEntryTypeByName (entryName : String) :
    Keeps P (getEntryTypeByName escape entryName) := by
  refine Keeps.bind Keeps.get fun d => ?_
  dsimp only
  exact Keeps.ite (Keeps.throw_bind _ _) (Keeps.pure_bind (Keeps.bind (h.addressOf _) fun _ =>
    Keeps.bind (h.entryAt _) fun _ => Keeps.pure _))

theorem keeps_getEntryByName (entryName : String) (accessMethod : ReadAccessMethod) :
    Keeps P (getEntryByName escape entryName accessMethod) := by
  refine Keeps.bind Keeps.get fun d => ?_
  dsimp only
  exact Keeps.ite (Keeps.throw_bind _ _) (Keeps.pure_bind (Keeps.bind (h.addressOf _) fun _ =>
    h.getEntry _ _ _))

theorem keeps_setEntryByName (entryName : String) (value : Value)
    (accessMethod : WriteAccessMethod) :
    Keeps P (setEntryByName escape entryName value accessMethod) := by
  refine Keeps.bind Keeps.get fun d => ?_
  dsimp only
  exact Keeps.ite (Keeps.throw_bind _ _) (Keeps.pure_bind (Keeps.bind (h.addressOf _) fun _ =>
    h.setEntry _ _ _ _))

theorem keeps_readEntries : ∀ as, Keeps P (readEntries escape as)
  | [] => Keeps.pure _
  | a::as => Keeps.bind (Keeps.bind (h.entryAt a) fun _ => Keeps.catchSdo
      (Keeps.discard (h.keeps_getEntryByName _ _)) fun _ => h.markDisabled a)
      fun _ => keeps_readEntries as

/-! ## PDO mappings -/

theorem keeps_entryByName (name : String) : Keeps P (entryByName escape name) := by
  refine Keeps.bind Keeps.get fun d => ?_
  dsimp only
  exact Keeps.ite (Keeps.throw_bind _ _) (Keeps.pure_bind (Keeps.bind (h.addressOf _) fun _ =>
    h.entryAt _))

theorem keeps_deliverAt (k : Nat) (data : List UInt8) : Keeps P (deliverAt escape k data) := by
  refine Keeps.bind Keeps.get fun d => ?_
  split
  · next cb _ =>
    cases cb
    · exact h.pdoReceivedCallback _ _
    · exact Keeps.pure _
  · exact Keeps.pure _

theorem keeps_mappingsOf : ∀ is, Keeps P (mappingsOf is)
  | [] => Keeps.pure _
  | _::is => Keeps.bind (h.entryAt _) fun _ => Keeps.bind (keeps_mappingsOf is) fun _ =>
      Keeps.pure _

/-! ## Every call, and every reachable state -/

theorem keeps_exec : ∀ c : Call, Keeps P (c.exec escape)
  | .addEntry .. => h.addEntry _ _ _ _ _
  | .getEntryType .. => Keeps.discard (h.keeps_getEntryType _ _)
  | .getEntryTypeByName .. => Keeps.discard (h.keeps_getEntryTypeByName _)
  | .getEntry .. => Keeps.discard (h.getEntry _ _ _)
  | .getEntryByName .. => Keeps.discard (h.keeps_getEntryByName _ _)
  | .setEntry .. => h.setEntry _ _ _ _
  | .setEntryByName .. => h.keeps_setEntryByName _ _ _
  | .addReceivePdoMapping .. | .addReceivePdoMappingWith .. =>
    Keeps.bind (h.keeps_entryByName _) fun _ => h.bindReceivePdoMapping _ _ _ _ _ _
  | .addReceivePdoMappingAt .. => Keeps.bind (h.entryAt _) fun _ => h.bindReceivePdoMapping _ _ _ _ _ _
  | .addTransmitPdoMapping .. => h.installTransmitPdoMapping _ _ _ _
  | .addTransmitPdoMappingAt .. =>
    Keeps.bind (h.keeps_mappingsOf _) fun _ => h.installTransmitPdoMapping _ _ _ _
  | .deliver .. => h.keeps_deliverAt _ _
  | .readCompleteDictionary => Keeps.bind Keeps.get fun _ => h.keeps_readEntries _
  | .getDeviceProfileNumber =>
    Keeps.discard (keeps_getDeviceProfileNumber escape h.getEntry)
  | .remap r fuel => by
    rw [Call.exec, PdoRemap.run_eq]
    exact Keeps.discard (keeps_mapPdoInDevice escape h.getEntry h.setEntry _ _ _ _ _ _)
  | .requestHeartbeat .. => h.requestHeartbeat _ _ _ _
  | .stopRequestHeartbeat => h.stopRequestHeartbeat
  | .heartbeatTick => h.heartbeatTick
  | .periodicTick k => h.periodicTick k
  | .start => keeps_start escape h.getEntry h.nmtStart

theorem keeps_run : ∀ cs {d : Device}, P d → P (run escape cs d)
  | [], _, hd => hd
  | c::cs, d, hd => keeps_run cs (h.keeps_exec c d hd)

end Accesses

/-- The primitive updates of the state, each keeping `P`: the accesses with the
value-caching functions taken apart into the SDO transfers and an update of one
entry that may also replace its value. -/
structure Primitives (escape : String → String) (P : Device → Prop) : Prop where
  getEntryViaSdo : ∀ index subindex type, Keeps P (getEntryViaSdo index subindex type)
  setEntryViaSdo : ∀ index subindex value, Keeps P (setEntryViaSdo index subindex value)
  send : ∀ m, Keeps P (send m)
  entryAt : ∀ a, Keeps P (entryAt a)
  addressOf : ∀ name, Keeps P (addressOf name)
  modifyEntry : ∀ a (f : Entry → Entry),
    (∀ e, (f e).address = e.address ∧ (f e).type = e.type ∧ e.callbacks <+: (f e).callbacks) →
    Keeps P (modifyEntry a f)
  addEntry : ∀ index subindex name type accessType,
    Keeps P (addEntry escape index subindex name type accessType)
  bindReceivePdoMapping : ∀ cobId name type offset callback recordCobId,
    Keeps P (bindReceivePdoMapping cobId name type offset callback recordCobId)
  transmitPdoMappings : ∀ f : Device → List TransmitPDOMapping,
    Keeps P (modify fun d => { d with transmitPdoMappings := f d })
  requestHeartbeat : ∀ nodeId heartbeatInterval rtr state,
    Keeps P (requestHeartbeat nodeId heartbeatInterval rtr state)
  stopRequestHeartbeat : Keeps P stopRequestHeartbeat

namespace Primitives

variable {escape : String → String} {P : Device → Prop} (h : Primitives escape P)
include h

theorem keeps_runCallbacks : ∀ cbs, Keeps P (runCallbacks escape cbs)
  | [] => Keeps.pure _
  | .sendPdo _ _::cbs => Keeps.bind (Keeps.bind Keeps.get fun _ => h.send _) fun _ =>
      keeps_runCallbacks cbs

theorem keeps_setValue (a : Address) (v : Value) : Keeps P (setValue escape a v) := by
  refine Keeps.bind (h.modifyEntry a _ fun _ => ⟨rfl, rfl, List.prefix_refl _⟩) fun _ =>
    Keeps.bind Keeps.get fun d => ?_
  split
  · exact h.keeps_runCallbacks _
  · exact Keeps.pure _

theorem keeps_getEntry (index : UInt16) (subindex : UInt8) (accessMethod : ReadAccessMethod) :
    Keeps P (getEntry escape index subindex accessMethod) := by
  refine Keeps.bind Keeps.get fun d => ?_
  dsimp only
  refine Keeps.ite (Keeps.throw_bind _ _) (Keeps.pure_bind (Keeps.bind (h.entryAt _) fun e => ?_))
  have hrest : Keeps P (Device.entryAt ⟨index, subindex⟩ >>= fun e => pure e.value) :=
    Keeps.bind (h.entryAt _) fun _ => Keeps.pure _
  exact Keeps.ite (Keeps.bind (h.getEntryViaSdo _ _ _) fun _ =>
    Keeps.bind (h.keeps_setValue _ _) fun _ => hrest) (Keeps.pure_bind hrest)

theorem keeps_setEntry (index : UInt16) (subindex : UInt8) (value : Value)
    (accessMethod : WriteAccessMethod) :
    Keeps P (setEntry escape index subindex value accessMethod) := by
  refine Keeps.bind Keeps.get fun d => ?_
  dsimp only
  refine Keeps.ite (Keeps.throw_bind _ _) (Keeps.pure_bind (Keeps.bind (h.entryAt _) fun e => ?_))
  exact Keeps.ite (Keeps.throw_bind _ _) (Keeps.pure_bind (Keeps.bind (h.keeps_setValue _ _)
    fun _ => Keeps.ite (h.setEntryViaSdo _ _ _) (Keeps.pure _)))

theorem keeps_pdoReceivedCallback (mapping : ReceivePDOMapping) (data : List UInt8) :
    Keeps P (pdoReceivedCallback escape mapping data) := by
  refine Keeps.bind (h.addressOf _) fun a => Keeps.bind (h.entryAt _) fun e => ?_
  dsimp only
  refine Keeps.ite (Keeps.pure_bind (Keeps.pure _)) (Keeps.pure_bind ?_)
  exact Keeps.ite (Keeps.pure_bind (Keeps.pure _)) (Keeps.pure_bind
    (Keeps.bind (Keeps.throwExcept _) fun _ => h.keeps_setValue _ _))

/-- The primitive updates give the accesses. -/
theorem accesses : Accesses escape P where
  getEntry := h.keeps_getEntry
  setEntry := h.keeps_setEntry
  pdoReceivedCallback := h.keeps_pdoReceivedCallback
  installTransmitPdoMapping := keeps_installTransmitPdoMapping escape
    (fun _ _ => h.modifyEntry _ _ fun _ => ⟨rfl, rfl, List.prefix_append _ _⟩) h.transmitPdoMappings
  markDisabled a := h.modifyEntry a _ fun _ => ⟨rfl, rfl, List.prefix_refl _⟩
  heartbeatTick := keeps_heartbeatTick h.send
  periodicTick := keeps_periodicTick escape h.send
  nmtStart := Keeps.bind Keeps.get fun _ => h.send _
  entryAt := h.entryAt
  addressOf := h.addressOf
  addEntry := h.addEntry
  bindReceivePdoMapping := h.bindReceivePdoMapping
  requestHeartbeat := h.requestHeartbeat
  stopRequestHeartbeat := h.stopRequestHeartbeat

theorem keeps_exec (c : Call) : Keeps P (c.exec escape) := h.accesses.keeps_exec c

theorem keeps_run (cs : List Call) {d : Device} (hd : P d) : P (run escape cs d) :=
  h.accesses.keeps_run cs hd

end Primitives

end KaCanOpen.Device
