import KaCanOpen.StdMap
import KaCanOpen.Types
import Mathlib.Data.List.Lex
import Mathlib.Data.Char

/-!
# The state a device acts on

`kaco::Device` together with the parts of the world its methods read and
write: the core's SDO client, PDO callback registry and outbound frames, the
process-wide `Config`, and the EDS library. The SDO server and the EDS library
are external: each request is answered by a reply script indexed by the number
of requests made before it, so every sequence of outcomes is one script.
Methods run in `DeviceM`; a thrown exception keeps every change made before it.
-/

set_option autoImplicit false

namespace KaCanOpen

/-- `kaco::Mapping`: an entry at a byte offset of a transmit PDO. -/
structure Mapping where
  entryName : String
  offset : UInt8
  deriving DecidableEq, Repr

/-- `kaco::MappingByIndex`. -/
structure MappingByIndex where
  entryIndex : UInt16
  entrySubindex : UInt8
  offset : UInt8
  deriving DecidableEq, Repr

/-- `kaco::TransmissionType`. -/
inductive TransmissionType
  | onChange | periodic
  deriving DecidableEq, Repr

/-- `kaco::ReceivePDOMapping`. -/
structure ReceivePDOMapping where
  cobId : UInt16
  entryName : String
  offset : UInt8
  deriving DecidableEq, Repr

/-- `kaco::TransmitPDOMapping`; `runPeriodicTransmitter` is the flag its
periodic sender thread polls. -/
structure TransmitPDOMapping where
  cobId : UInt16
  transmissionType : TransmissionType
  repeatTime : Nat
  mappings : List Mapping
  runPeriodicTransmitter : Bool
  deriving DecidableEq, Repr

/-- A value-changed callback. The only ones a device installs are the closures
of `add_transmit_pdo_mapping` that send an ON_CHANGE transmit PDO. -/
inductive ValueChangedCallback
  | sendPdo (cobId : UInt16) (mappings : List Mapping)
  deriving DecidableEq, Repr

/-- `kaco::Entry` with the fields the device reads or writes. -/
structure Entry where
  index : UInt16
  subindex : UInt8
  name : String
  type : DataType
  accessType : AccessType
  readAccessMethod : ReadAccessMethod
  writeAccessMethod : WriteAccessMethod
  value : Value
  callbacks : List ValueChangedCallback
  disabled : Bool
  deriving DecidableEq, Repr

namespace Entry

/-- Modelled from the spec: `Entry(index, subindex, name, type, access_type)`.
The value is invalid until the first update; reads and writes default to SDO. -/
def make (index : UInt16) (subindex : UInt8) (name : String) (type : DataType)
    (accessType : AccessType) : Entry :=
  ⟨index, subindex, name, type, accessType, .sdo, .sdo, Value.empty, [], false⟩

/-- Modelled from the spec: `Entry()`, what `operator[]` stores under a missing
address. Its name is empty and its type invalid, the state in which
`pdo_received_callback` reports an entry as invalid. -/
def blank : Entry := ⟨0, 0, "", .invalid, .readOnly, .sdo, .sdo, Value.empty, [], false⟩

def address (e : Entry) : Address := ⟨e.index, e.subindex⟩

end Entry

/-- The callback a device hands to `m_core.pdo.add_pdo_received_callback`: its
own `pdo_received_callback` or a caller's function, bound to a mapping. -/
inductive PdoCallback
  | device (mapping : ReceivePDOMapping)
  | user (mapping : ReceivePDOMapping)
  deriving DecidableEq, Repr

/-- `NMT::State`. -/
inductive NmtState
  | initializing | stopped | operational | sleep | standby | preoperational
  deriving DecidableEq, Repr

def NmtState.code : NmtState → UInt8
  | .initializing => 0x00 | .stopped => 0x04 | .operational => 0x05
  | .sleep => 0x50 | .standby => 0x60 | .preoperational => 0x7F

/-- The arguments of the thread `request_heartbeat` starts. -/
structure HeartbeatRequest where
  nodeId : UInt8
  interval : UInt16
  rtr : Bool
  state : NmtState
  deriving DecidableEq, Repr

/-- An SDO access the device completed through `get_entry_via_sdo` or
`set_entry_via_sdo`, with the value read or written. -/
inductive SdoAccess
  | read (index : UInt16) (subindex : UInt8) (value : Value)
  | write (index : UInt16) (subindex : UInt8) (value : Value)
  deriving DecidableEq, Repr

/-- The parts of `kaco::Core` a device uses. -/
structure Core where
  sdoServer : Nat → SdoRequest → SdoReply
  sdoLog : List SdoRequest
  pdoCallbacks : List (UInt16 × PdoCallback)
  sent : List Message

/-- The process-wide `kaco::Config` values the device consults. -/
structure Config where
  repeatsOnSdoTimeout : Nat
  edsLibraryClearDictionary : Bool
  edsReaderJustAddMappings : Bool
  edsReaderMarkEntriesAsGeneric : Bool
  deriving DecidableEq, Repr

/-- The outcome of a call into the EDS library or reader. -/
inductive EdsOutcome
  | returned (ok : Bool)
  | threw (what : String)
  deriving DecidableEq, Repr

/-- The external EDS library and reader: the outcome of each call, indexed by
the number of calls before it, and the most recent EDS file path. -/
structure EdsLibrary where
  outcome : Nat → EdsOutcome
  path : Nat → String
  calls : Nat

/-- A device and the world its methods act on. The name index is keyed by the
characters of a name, ordered as `std::string` compares them. -/
structure Device where
  core : Core
  config : Config
  eds : EdsLibrary
  nodeId : UInt8
  dictionary : StdMap Address Entry
  nameToAddress : StdMap (List Char) Address
  receivePdoMappings : List ReceivePDOMapping
  transmitPdoMappings : List TransmitPDOMapping
  cobIds : List UInt16
  terminating : Bool
  heartbeatThread : Option HeartbeatRequest
  sdoTrace : List SdoAccess

/-- `Device(core, node_id)`: an empty dictionary, no mappings, no heartbeat. -/
def Device.create (core : Core) (config : Config) (eds : EdsLibrary) (nodeId : UInt8) : Device :=
  ⟨core, config, eds, nodeId, StdMap.empty, StdMap.empty, [], [], [], false, none, []⟩

abbrev DeviceM := EStateM Error Device

namespace DeviceM

variable {α β : Type}

@[simp] theorem bind_apply (x : DeviceM α) (f : α → DeviceM β) (d : Device) :
    (x >>= f) d = match x d with
      | .ok a d' => f a d'
      | .error e d' => .error e d' := by
  show EStateM.bind x f d = _
  unfold EStateM.bind
  cases x d <;> rfl

theorem bind_eq_ok {x : DeviceM α} {f : α → DeviceM β} {d d' : Device} {b : β} :
    (x >>= f) d = .ok b d' ↔ ∃ a d₁, x d = .ok a d₁ ∧ f a d₁ = .ok b d' := by
  rw [bind_apply]
  cases x d with
  | ok a d₁ => exact ⟨(fun h => ⟨a, d₁, rfl, h⟩), fun ⟨_, _, h, h'⟩ => by cases h; exact h'⟩
  | error e d₁ => exact ⟨(fun h => by cases h), fun ⟨_, _, h, _⟩ => by cases h⟩

@[simp] theorem pure_apply (a : α) (d : Device) : (pure a : DeviceM α) d = .ok a d := rfl

@[simp] theorem get_apply (d : Device) : (get : DeviceM Device) d = .ok d d := rfl

@[simp] theorem set_apply (d d' : Device) : (set d' : DeviceM PUnit) d = .ok ⟨⟩ d' := rfl

@[simp] theorem modify_apply (f : Device → Device) (d : Device) :
    (modify f : DeviceM PUnit) d = .ok ⟨⟩ (f d) := rfl

@[simp] theorem throw_apply (e : Error) (d : Device) : (throw e : DeviceM α) d = .error e d := rfl

@[simp] theorem map_apply (f : α → β) (x : DeviceM α) (d : Device) :
    (f <$> x) d = match x d with
      | .ok a d' => .ok (f a) d'
      | .error e d' => .error e d' := by
  show EStateM.map f x d = _
  unfold EStateM.map
  cases x d <;> rfl

@[simp] theorem discard_apply (x : DeviceM α) (d : Device) :
    (Functor.discard x) d = match x d with
      | .ok _ d' => .ok () d'
      | .error e d' => .error e d' := by
  show EStateM.map _ x d = _
  unfold EStateM.map
  cases x d <;> rfl

/-- The state a run ends in, whether it returns or throws. -/
def final {ε σ γ : Type} : EStateM.Result ε σ γ → σ
  | .ok _ s => s
  | .error _ s => s

@[simp] theorem final_ok {ε σ γ : Type} (a : γ) (s : σ) :
    final (.ok a s : EStateM.Result ε σ γ) = s := rfl

@[simp] theorem final_error {ε σ γ : Type} (e : ε) (s : σ) :
    final (.error e s : EStateM.Result ε σ γ) = s := rfl

/-- An `Except` value thrown into the device monad. -/
def throwExcept (x : Except Error α) : DeviceM α :=
  match x with
  | .ok a => pure a
  | .error e => throw e

@[simp] theorem throwExcept_ok (a : α) (d : Device) : throwExcept (.ok a) d = .ok a d := rfl

@[simp] theorem throwExcept_error (e : Error) (d : Device) :
    (throwExcept (.error e) : DeviceM α) d = .error e d := rfl

/-- `try { x } catch (const sdo_error& e) { h(e) }`. -/
def catchSdo (x : DeviceM α) (h : SdoError → DeviceM α) : DeviceM α := fun d =>
  match x d with
  | .error (.sdo e) d' => h e d'
  | r => r

end DeviceM

namespace Device

open DeviceM

/-- `m_core.send(message)`. -/
def send (m : Message) : DeviceM Unit :=
  modify fun d => { d with core := { d.core with sent := d.core.sent ++ [m] } }

/-- One SDO transaction: the request is logged and the script answers it. -/
def sdoTransaction (req : SdoRequest) : DeviceM (List UInt8) := fun d =>
  let d' := { d with core := { d.core with sdoLog := d.core.sdoLog ++ [req] } }
  match d.core.sdoServer d.core.sdoLog.length req with
  | .data bytes => .ok bytes d'
  | .failure e => .error (.sdo e) d'

/-- `m_core.sdo.upload(node_id, index, subindex)`. -/
def upload (nodeId : UInt8) (index : UInt16) (subindex : UInt8) : DeviceM (List UInt8) :=
  sdoTransaction (.upload nodeId index subindex)

/-- `m_core.sdo.download(node_id, index, subindex, bytes.size(), bytes)`. -/
def download (nodeId : UInt8) (index : UInt16) (subindex : UInt8) (bytes : List UInt8) :
    DeviceM Unit := do
  let _ ← sdoTransaction (.download nodeId index subindex bytes)
  pure ()

/-- `m_core.pdo.add_pdo_received_callback(cob_id, callback)`: registration order. -/
def addPdoReceivedCallback (cobId : UInt16) (cb : PdoCallback) : DeviceM Unit :=
  modify fun d => { d with core := { d.core with pdoCallbacks := d.core.pdoCallbacks ++ [(cobId, cb)] } }

/-- Modelled from the spec: `m_core.pdo.remove_pdo_received_callback(cob_id)`
unregisters the callbacks of that COB-ID. -/
def removePdoReceivedCallback (cobId : UInt16) : DeviceM Unit :=
  modify fun d => { d with core := { d.core with
    pdoCallbacks := d.core.pdoCallbacks.filter (·.1 != cobId) } }

/-- `m_dictionary[address]`. -/
def entryAt (a : Address) : DeviceM Entry := fun d =>
  let r := d.dictionary.index a Entry.blank
  .ok r.1 { d with dictionary := r.2 }

/-- `m_name_to_address[name]`. -/
def addressOf (name : String) : DeviceM Address := fun d =>
  let r := d.nameToAddress.index name.toList Address.zero
  .ok r.1 { d with nameToAddress := r.2 }

/-- `m_name_to_address.find(name)`. -/
def findAddress (d : Device) (name : String) : Option Address := d.nameToAddress.find? name.toList

/-- Record a completed SDO access. -/
def traceSdo (a : SdoAccess) : DeviceM Unit :=
  modify fun d => { d with sdoTrace := d.sdoTrace ++ [a] }

/-- An entry's update through the reference the dictionary hands out. -/
def modifyEntry (a : Address) (f : Entry → Entry) : DeviceM Unit :=
  modify fun d => { d with dictionary := d.dictionary.modify a f }

end Device

end KaCanOpen
