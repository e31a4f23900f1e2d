import KaCanOpen.Dictionary

/-!
# Loading the dictionary from EDS files

`load_dictionary_from_library`, `load_cia_dictionary` and
`load_dictionary_from_eds` steer the external EDS library and reader through
three process-wide flags of `Config`, each set around the calls it concerns and
cleared after them. The library and the reader are external: each call's
outcome (returned true, returned false, or threw) comes from their script, and
the entries they load are not modelled.
-/

set_option autoImplicit false

namespace KaCanOpen.Device

open DeviceM

variable (escape : String → String)

/-- A call into the EDS library or reader, answered by its script. -/
def edsCall : DeviceM Bool := fun d =>
  let d' := { d with eds := { d.eds with calls := d.eds.calls+1 } }
  match d.eds.outcome d.eds.calls with
  | .returned ok => .ok ok d'
  | .threw what => .error (.canopen what) d'

/-- `m_eds_library.get_most_recent_eds_file_path()`. -/
def mostRecentEdsFilePath : DeviceM String := fun d => .ok (d.eds.path d.eds.calls) d

def setConfig (f : Config → Config) : DeviceM Unit :=
  modify fun d => { d with config := f d.config }

def setClearDictionary (b : Bool) : DeviceM Unit :=
  setConfig fun c => { c with edsLibraryClearDictionary := b }

def setJustAddMappings (b : Bool) : DeviceM Unit :=
  setConfig fun c => { c with edsReaderJustAddMappings := b }

def setMarkEntriesAsGeneric (b : Bool) : DeviceM Unit :=
  setConfig fun c => { c with edsReaderMarkEntriesAsGeneric := b }

/-- `Device::load_cia_dictionary`; `load_default_eds(profile)` and
`load_mandatory_entries()` are library calls. -/
def loadCiaDictionary : DeviceM Unit := do
  setMarkEntriesAsGeneric true
  discard <| getDeviceProfileNumber escape
  if !(← edsCall) then
    setClearDictionary false
    if !(← edsCall) then
      throw (.canopen ("Could not load mandatory CiA 301 dictionary entries for device with ID " ++
        toString (← get).nodeId.toNat ++ ". This can break various parts of KaCanOpen!"))
  setMarkEntriesAsGeneric false

/-- `Device::load_dictionary_from_library`; `ready()` and
`load_manufacturer_eds(*this)` are library calls. -/
def loadDictionaryFromLibrary : DeviceM String := do
  if !(← edsCall) then
    throw (.canopen "[Device::load_dictionary_from_library] EDS library is not available.")
  setClearDictionary true
  let success ← edsCall
  setClearDictionary false
  let edsPath ← if success then do
      let path ← mostRecentEdsFilePath
      setJustAddMappings true
      pure path
    else do
      setJustAddMappings false
      pure ""
  loadCiaDictionary escape
  let edsPath ← if edsPath.isEmpty then mostRecentEdsFilePath else pure edsPath
  setJustAddMappings false
  pure edsPath

/-- `Device::load_dictionary_from_eds`; `reset_dictionary()`, the reader's
`load_file(path)` and `import_entries()`, and `ready()` are library calls. -/
def loadDictionaryFromEds (path : String) : DeviceM Unit := do
  discard edsCall
  setJustAddMappings false
  setMarkEntriesAsGeneric false
  if !(← edsCall) then
    throw (.canopen ("[EDSLibrary::load_dictionary_from_eds] Loading file not successful: " ++ path))
  if !(← edsCall) then
    throw (.canopen ("[EDSLibrary::load_dictionary_from_eds] Importing entries failed for file " ++
      path))
  if ← edsCall then
    if !hasEntry (← get) 0x1000 0 then
      addEntry escape 0x1000 0 "device_type" .uint32 .readOnly
    setJustAddMappings true
    loadCiaDictionary escape
    setJustAddMappings false

/-- `Device::load_default_eds_files`; `lookup_library()` and
`load_mandatory_entries()` are library calls. -/
def loadDefaultEdsFiles : DeviceM Unit := do
  if !(← edsCall) then
    throw (.canopen ("[Device::start] EDS library not found. If and only if you make sure " ++
      "for yourself, that mandatory" ++
      " entries and operations are available, you can catch this error and " ++ "go on."))
  if !(← edsCall) then
    throw (.canopen ("[Device::start] Could not load mandatory dictionary entries." ++
      " If and only if you make sure for yourself, that mandatory" ++
      " entries and operations are available, you can catch this error and " ++ "go on."))

/-- `load_default_eds_files` returns exactly when both library calls return true. -/
theorem loadDefaultEdsFiles_ok_iff (d : Device) :
    (∃ d', loadDefaultEdsFiles d = .ok () d') ↔
      d.eds.outcome d.eds.calls = .returned true ∧ d.eds.outcome (d.eds.calls+1) = .returned true := by
  simp only [loadDefaultEdsFiles, edsCall, bind_apply]
  cases d.eds.outcome d.eds.calls with
  | threw what => simp
  | returned ok₁ =>
    cases ok₁
    · simp
    · cases h₂ : d.eds.outcome (d.eds.calls+1) with
      | threw what => simp [edsCall, h₂]
      | returned ok₂ => cases ok₂ <;> simp [edsCall, h₂]

end KaCanOpen.Device
