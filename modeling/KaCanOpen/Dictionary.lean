import KaCanOpen.Sdo

/-!
# Dictionary access

`has_entry`, `get_entry_type`, `get_entry`, `set_entry` and `add_entry` in their
name and address forms, and `read_complete_dictionary`. A name is escaped
before it is looked up; the name forms resolve it through `m_name_to_address`
and call the address forms. `Entry::set_value` caches the value and runs the
entry's value-changed callbacks, which send the ON_CHANGE transmit PDOs.
`Utils::escape` is not in the source and is a parameter.
-/

set_option autoImplicit false

namespace KaCanOpen.Device

open DeviceM

variable (escape : String → String)

/-- `bytes` written over `frame` from position `offset`. -/
def writeAt (frame : List UInt8) (offset : Nat) (bytes : List UInt8) : List UInt8 :=
  (List.range frame.length).map fun i =>
    if offset ≤ i ∧ i-offset < bytes.length then bytes.getD (i-offset) 0 else frame.getD i 0

/-- The entry a name resolves to, without inserting anything. -/
def lookup (d : Device) (name : String) : Option Entry :=
  (findAddress d name).bind d.dictionary.find?

/-- One mapped entry's current bytes, written over the frame at its offset. -/
def writeMapping (d : Device) (frame : List UInt8) (m : Mapping) : List UInt8 :=
  match lookup d (escape m.entryName) with
  | some e => writeAt frame m.offset.toNat e.value.bytes
  | none => frame

/-- Modelled from the spec: the 8-byte frame `TransmitPDOMapping::send`
assembles, each mapped entry's current bytes at its offset and gaps zero. -/
def pdoFrame (d : Device) (mappings : List Mapping) : List UInt8 :=
  mappings.foldl (writeMapping escape d) (List.replicate 8 0)

/-- Modelled from the spec: `TransmitPDOMapping::send`. -/
def sendPdo (cobId : UInt16) (mappings : List Mapping) : DeviceM Unit := do
  send ⟨cobId, false, 8, pdoFrame escape (← get) mappings⟩

/-- The value-changed callbacks of an entry, in registration order. -/
def runCallbacks : List ValueChangedCallback → DeviceM Unit
  | [] => pure ()
  | .sendPdo cobId mappings::cbs => do
    sendPdo escape cobId mappings
    runCallbacks cbs

/-- Modelled from the spec: `Entry::set_value` on the entry at `a` caches the
value, then notifies the entry's value-changed callbacks. -/
def setValue (a : Address) (v : Value) : DeviceM Unit := do
  modifyEntry a fun e => { e with value := v }
  match (← get).dictionary.find? a with
  | some e => runCallbacks escape e.callbacks
  | none => pure ()

/-- `Device::has_entry(index, subindex)`. -/
def hasEntry (d : Device) (index : UInt16) (subindex : UInt8) : Bool :=
  d.dictionary.contains ⟨index, subindex⟩

/-- `Device::has_entry(entry_name)`. -/
def hasEntryByName (d : Device) (entryName : String) : Bool :=
  match findAddress d (escape entryName) with
  | some a => hasEntry d a.index a.subindex
  | none => false

/-- `std::to_string(index) + "sub" + std::to_string(subindex)`. -/
def indexString (index : UInt16) (subindex : UInt8) : String :=
  toString index.toNat ++ "sub" ++ toString subindex.toNat

def unknownEntry (name : String) : Error := .dictionary ⟨.unknownEntry, name, ""⟩

/-- `Device::get_entry_type(index, subindex)`. -/
def getEntryType (index : UInt16) (subindex : UInt8) : DeviceM DataType := do
  if !hasEntry (← get) index subindex then throw (unknownEntry (indexString index subindex))
  let entry ← entryAt ⟨index, subindex⟩
  pure entry.type

/-- `Device::get_entry_type(entry_name)`. -/
def getEntryTypeByName (entryName : String) : DeviceM DataType := do
  let name := escape entryName
  if !hasEntryByName escape (← get) name then throw (unknownEntry name)
  let entry ← entryAt (← addressOf name)
  pure entry.type

/-- `Device::get_entry(index, subindex, access_method)`. -/
def getEntry (index : UInt16) (subindex : UInt8) (accessMethod : ReadAccessMethod) :
    DeviceM Value := do
  if !hasEntry (← get) index subindex then throw (unknownEntry (indexString index subindex))
  let entry ← entryAt ⟨index, subindex⟩
  if accessMethod = .sdo ∨ accessMethod = .useDefault ∧ entry.readAccessMethod = .sdo then
    setValue escape ⟨index, subindex⟩ (← getEntryViaSdo entry.index entry.subindex entry.type)
  pure (← entryAt ⟨index, subindex⟩).value

/-- `Device::get_entry(entry_name, access_method)`. -/
def getEntryByName (entryName : String) (accessMethod : ReadAccessMethod) : DeviceM Value := do
  let name := escape entryName
  if !hasEntryByName escape (← get) name then throw (unknownEntry name)
  let address ← addressOf name
  getEntry escape address.index address.subindex accessMethod

/-- `Device::set_entry(index, subindex, value, access_method)`. -/
def setEntry (index : UInt16) (subindex : UInt8) (value : Value)
    (accessMethod : WriteAccessMethod) : DeviceM Unit := do
  let indexString := indexString index subindex
  if !hasEntry (← get) index subindex then throw (unknownEntry indexString)
  let entry ← entryAt ⟨index, subindex⟩
  if value.type ≠ entry.type then
    throw (.dictionary ⟨.wrongType, indexString, "Entry type: " ++ typeToString entry.type ++
      ", given type: " ++ typeToString value.type⟩)
  setValue escape ⟨index, subindex⟩ value
  if accessMethod = .sdo ∨ accessMethod = .useDefault ∧ entry.writeAccessMethod = .sdo then
    setEntryViaSdo entry.index entry.subindex value

/-- `Device::set_entry(entry_name, value, access_method)`. -/
def setEntryByName (entryName : String) (value : Value) (accessMethod : WriteAccessMethod) :
    DeviceM Unit := do
  let name := escape entryName
  if !hasEntryByName escape (← get) name then throw (unknownEntry name)
  let address ← addressOf name
  setEntry escape address.index address.subindex value accessMethod

/-- `Device::add_entry`. -/
def addEntry (index : UInt16) (subindex : UInt8) (name : String) (type : DataType)
    (accessType : AccessType) : DeviceM Unit := do
  let entryName := escape name
  let d ← get
  if d.nameToAddress.contains entryName.toList then
    throw (.canopen ("[Device::add_entry] Entry with name \"" ++ entryName ++
      "\" already exists."))
  if hasEntry d index subindex then
    throw (.canopen ("[Device::add_entry] Entry with index " ++ toString index.toNat ++
      "sub" ++ toString subindex.toNat ++ " already exists."))
  set { d with
    dictionary := d.dictionary.insert ⟨index, subindex⟩
      (Entry.make index subindex entryName type accessType)
    nameToAddress := d.nameToAddress.insert entryName.toList ⟨index, subindex⟩ }

/-- The body of the loop of `read_complete_dictionary`: the entry at `a` is read
by name with its default method, and an `sdo_error` disables it. -/
def readEntry (a : Address) : DeviceM Unit := do
  let entry ← entryAt a
  catchSdo (discard <| getEntryByName escape entry.name .useDefault)
    (fun _ => modifyEntry a fun e => { e with disabled := true })

/-- The loop of `read_complete_dictionary` over the given keys. -/
def readEntries : List Address → DeviceM Unit
  | [] => pure ()
  | a::as => do
    readEntry escape a
    readEntries as

/-- `Device::read_complete_dictionary`. The loop runs over the live map; its
body inserts no key, so it visits the keys the map has on entry. -/
def readCompleteDictionary : DeviceM Unit := do
  readEntries escape (← get).dictionary.keys

/-- `Device::get_device_profile_number`: `get_entry(0x1000)` with the header's
defaults (subindex 0, `use_default`), read as `uint32_t`, low 16 bits. -/
def getDeviceProfileNumber : DeviceM UInt16 := do
  let deviceType ← throwExcept (← getEntry escape 0x1000 0 .useDefault).toUInt32
  pure (deviceType &&& 0xFFFF).toUInt16

end KaCanOpen.Device
