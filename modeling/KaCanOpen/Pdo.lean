import KaCanOpen.Dictionary

/-!
# Process data objects

The three overloads of `add_receive_pdo_mapping`, the callback a mapping binds,
the core's dispatch of a received frame, and the two overloads of
`add_transmit_pdo_mapping`. The receive overloads share their tail: the size
check, the new mapping, the COB-ID record and the registration. They differ in
how they find the entry, and the overload taking a caller's function records
no COB-ID.
-/

set_option autoImplicit false

namespace KaCanOpen.Device

open DeviceM

variable (escape : String → String)

/-- The tail of the three overloads of `add_receive_pdo_mapping`: the size check
against the entry's type, the mapping pushed to the front of
`m_receive_pdo_mappings`, the COB-ID appended to `cob_ids_` when `recordCobId`,
and the callback registered with the core. -/
def bindReceivePdoMapping (cobId : UInt16) (name : String) (type : DataType) (offset : UInt8)
    (callback : ReceivePDOMapping → PdoCallback) (recordCobId : Bool) : DeviceM Unit := do
  let typeSize := getTypeSize type
  if offset.toNat+typeSize > 8 then
    throw (.dictionary ⟨.mappingSize, name, "offset (" ++ toString offset.toNat ++
      ") + type_size (" ++ toString typeSize ++ ") > 8."⟩)
  let pdo : ReceivePDOMapping := ⟨cobId, name, offset⟩
  modify fun d => { d with receivePdoMappings := pdo::d.receivePdoMappings }
  if recordCobId then modify fun d => { d with cobIds := d.cobIds ++ [cobId] }
  addPdoReceivedCallback cobId (callback pdo)

/-- `has_entry(name)`, then `m_dictionary[m_name_to_address[name]]`. -/
def entryByName (name : String) : DeviceM Entry := do
  if !hasEntryByName escape (← get) name then throw (unknownEntry name)
  entryAt (← addressOf name)

/-- `Device::add_receive_pdo_mapping(cob_id, entry_name, offset)`. -/
def addReceivePdoMapping (cobId : UInt16) (entryName : String) (offset : UInt8) :
    DeviceM Unit := do
  let name := escape entryName
  let entry ← entryByName escape name
  bindReceivePdoMapping cobId name entry.type offset .device true

/-- `Device::add_receive_pdo_mapping(cob_id, entry_name, offset, funtion)`. -/
def addReceivePdoMappingWith (cobId : UInt16) (entryName : String) (offset : UInt8) :
    DeviceM Unit := do
  let name := escape entryName
  let entry ← entryByName escape name
  bindReceivePdoMapping cobId name entry.type offset .user false

/-- `Device::add_receive_pdo_mapping(cob_id, entry_index, entry_subindex, offset)`:
`m_dictionary[address]` without an existence check, and the entry's own name. -/
def addReceivePdoMappingAt (cobId entryIndex : UInt16) (entrySubindex offset : UInt8) :
    DeviceM Unit := do
  let entry ← entryAt ⟨entryIndex, entrySubindex⟩
  bindReceivePdoMapping cobId entry.name entry.type offset .device true

/-- `Device::pdo_received_callback`. -/
def pdoReceivedCallback (mapping : ReceivePDOMapping) (data : List UInt8) : DeviceM Unit := do
  let entryName := escape mapping.entryName
  let address ← addressOf entryName
  let entry ← entryAt address
  let offset := mapping.offset.toNat
  let typeSize := getTypeSize entry.type
  if entry.type = .invalid then return
  if data.length < offset+typeSize then return
  let bytes := (data.drop offset).take typeSize
  setValue escape address (← throwExcept (Value.ofBytes entry.type bytes))

/-- A payload handed to one registered callback. What a caller's function does
is left out: it runs here as a no-op, and a frame's dispatch is specified only
for COB-IDs that no such function is bound to. -/
def deliver (callback : PdoCallback) (data : List UInt8) : DeviceM Unit :=
  match callback with
  | .device mapping => pdoReceivedCallback escape mapping data
  | .user _ => pure ()

def deliverAll (data : List UInt8) : List PdoCallback → DeviceM Unit
  | [] => pure ()
  | cb::cbs => do deliver escape cb data; deliverAll data cbs

/-- Modelled from the spec: the core's PDO engine, on a frame for `cobId`,
invokes the callbacks registered for it in registration order, after
releasing the registry. -/
def processPdo (cobId : UInt16) (data : List UInt8) : DeviceM Unit := do
  let callbacks := (← get).core.pdoCallbacks.filter (·.1 == cobId)
  deliverAll escape data (callbacks.map (·.2))

/-- The overlap error of the transmit mapping check. -/
def mappingSizeError (name : String) : Error := .dictionary ⟨.mappingSize, name, ""⟩

/-- Modelled from the spec: the check of the `TransmitPDOMapping` constructor.
Every mapped entry exists and has a fixed-width type, fits in the 8 bytes of
the frame, and overlaps no byte `used` by the mappings before it. -/
def checkMappings (d : Device) : List Mapping → List Nat → Except Error Unit
  | [], _ => .ok ()
  | m::ms, used =>
    match lookup d (escape m.entryName) with
    | none => .error (unknownEntry (escape m.entryName))
    | some e =>
      let bytes := List.range' m.offset.toNat (getTypeSize e.type)
      if getTypeSize e.type = 0 then .error (.dictionary ⟨.wrongType, m.entryName, ""⟩)
      else if m.offset.toNat+getTypeSize e.type > 8 then .error (mappingSizeError m.entryName)
      else if bytes.any (· ∈ used) then .error (mappingSizeError m.entryName)
      else checkMappings d ms (used ++ bytes)

/-- `m_name_to_address.at(name)`. -/
def atName (name : String) : DeviceM Address := fun d =>
  match findAddress d name with
  | some a => .ok a d
  | none => .error .outOfRange d

/-- `m_dictionary.at(address)`. -/
def atEntry (a : Address) : DeviceM Entry := fun d =>
  match d.dictionary.find? a with
  | some e => .ok e d
  | none => .error .outOfRange d

/-- The ON_CHANGE loop: every mapped entry gets the closure sending `pdo`. -/
def addSendCallbacks (pdo : TransmitPDOMapping) : List Mapping → DeviceM Unit
  | [] => pure ()
  | m::ms => do
    let address ← atName (escape m.entryName)
    discard <| atEntry address
    modifyEntry address fun e =>
      { e with callbacks := e.callbacks ++ [.sendPdo pdo.cobId pdo.mappings] }
    addSendCallbacks pdo ms

/-- The part the two overloads of `add_transmit_pdo_mapping` share: the mapping
is constructed in place (its check may throw), then either every mapped entry
sends it on change or its periodic transmitter is started. -/
def installTransmitPdoMapping (cobId : UInt16) (mappings : List Mapping)
    (transmissionType : TransmissionType) (repeatTime : Nat) : DeviceM Unit := do
  throwExcept (checkMappings escape (← get) mappings [])
  let pdo : TransmitPDOMapping := ⟨cobId, transmissionType, repeatTime, mappings, false⟩
  match transmissionType with
  | .onChange =>
    modify fun d => { d with transmitPdoMappings := pdo::d.transmitPdoMappings }
    addSendCallbacks escape pdo pdo.mappings
  | .periodic =>
    modify fun d => { d with transmitPdoMappings :=
      { pdo with runPeriodicTransmitter := true }::d.transmitPdoMappings }

/-- `Device::add_transmit_pdo_mapping(cob_id, mappings, transmission_type, repeat_time)`. -/
def addTransmitPdoMapping (cobId : UInt16) (mappings : List Mapping)
    (transmissionType : TransmissionType) (repeatTime : Nat) : DeviceM Unit :=
  installTransmitPdoMapping escape cobId mappings transmissionType repeatTime

/-- The wrapping loop of the by-index overload: `m_dictionary[address]` for each
mapping, whose entry's name goes into the `Mapping`. -/
def mappingsOf : List MappingByIndex → DeviceM (List Mapping)
  | [] => pure []
  | i::is => do
    let entry ← entryAt ⟨i.entryIndex, i.entrySubindex⟩
    let rest ← mappingsOf is
    pure (⟨entry.name, i.offset⟩::rest)

/-- `Device::add_transmit_pdo_mapping(cob_id, mappings_by_index, ...)`. -/
def addTransmitPdoMappingAt (cobId : UInt16) (mappingsByIndex : List MappingByIndex)
    (transmissionType : TransmissionType) (repeatTime : Nat) : DeviceM Unit := do
  installTransmitPdoMapping escape cobId (← mappingsOf mappingsByIndex) transmissionType repeatTime

end KaCanOpen.Device
