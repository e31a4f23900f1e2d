import KaCanOpen.ReceiveMappings
import KaCanOpen.Eds

/-!
# The process-wide EDS flags

`Config::eds_library_clear_dictionary`, `eds_reader_just_add_mappings` and
`eds_reader_mark_entries_as_generic` are set around the library calls of the
three loaders and cleared after them. Nothing else writes them, and every
normal return of a loader leaves all three false. An exception skips the
clearing: `load_cia_dictionary` sets the generic mark before reading the device
type, and a read that throws leaves it set for every later load.
-/

set_option autoImplicit false

namespace KaCanOpen.Device

open DeviceM

variable (escape : String → String)

/-- `eds_library_clear_dictionary` is false and `eds_reader_just_add_mappings`
is `just`: the flags `load_cia_dictionary` leaves to its callers. -/
def MappingFlags (just : Bool) (c : Config) : Prop :=
  c.edsLibraryClearDictionary = false ∧ c.edsReaderJustAddMappings = just

/-- The three process-wide EDS flags are all false. -/
def FlagsClear (c : Config) : Prop :=
  MappingFlags false c ∧ c.edsReaderMarkEntriesAsGeneric = false

/-! ## Only the loaders write the flags -/

theorem getEntry_config (index : UInt16) (subindex : UInt8) (accessMethod : ReadAccessMethod)
    (d : Device) : (final (getEntry escape index subindex accessMethod d)).config = d.config := by
  rw [getEntry_eq]
  split
  · rfl
  · rename_i e _
    obtain ⟨log, trace, h⟩ := getEntryViaSdo_frame e.index e.subindex e.type d
    split
    · split <;> rename_i hr <;> rw [hr] at h <;> simp only [final_ok, final_error] at h ⊢ <;>
        subst h <;> rfl
    · rfl

theorem keeps_config_getEntry (Q : Config → Prop) (index : UInt16) (subindex : UInt8)
    (accessMethod : ReadAccessMethod) :
    Keeps (fun d => Q d.config) (getEntry escape index subindex accessMethod) := by
  intro d hd
  rwa [getEntry_config]

theorem keeps_config_getDeviceProfileNumber (Q : Config → Prop) :
    Keeps (fun d => Q d.config) (getDeviceProfileNumber escape) :=
  Keeps.bind (keeps_config_getEntry escape Q _ _ _) fun _ =>
    Keeps.bind (Keeps.throwExcept _) fun _ => Keeps.pure _

theorem keeps_config_edsCall (Q : Config → Prop) : Keeps (fun d => Q d.config) edsCall := by
  intro d hd
  simp only [edsCall]
  split <;> exact hd

theorem keeps_config_addEntry (Q : Config → Prop) (index : UInt16) (subindex : UInt8) (name : String)
    (type : DataType) (accessType : AccessType) :
    Keeps (fun d => Q d.config) (addEntry escape index subindex name type accessType) := by
  intro d hd
  simp only [addEntry, bind_apply, get_apply]
  split_ifs <;> exact hd

/-! ## A load that throws leaves a flag set -/

/-- `load_cia_dictionary` sets `eds_reader_mark_entries_as_generic` and then
reads the device type; when that read throws, the exception leaves the load with
the flag still set. -/
theorem load_cia_dictionary_leaves_mark_set {d d₁ : Device} {e : Error}
    (h : getDeviceProfileNumber escape
      { d with config := { d.config with edsReaderMarkEntriesAsGeneric := true } } = .error e d₁) :
    loadCiaDictionary escape d = .error e d₁ ∧ d₁.config.edsReaderMarkEntriesAsGeneric = true := by
  refine ⟨by simp only [loadCiaDictionary, bind_apply, setMarkEntriesAsGeneric, setConfig,
    modify_apply, discard_apply, h], ?_⟩
  have hc : (final (getDeviceProfileNumber escape { d with config :=
      { d.config with edsReaderMarkEntriesAsGeneric := true } })).config.edsReaderMarkEntriesAsGeneric =
      true := keeps_config_getDeviceProfileNumber escape (·.edsReaderMarkEntriesAsGeneric = true) _ rfl
  rwa [h] at hc

theorem load_cia_dictionary_leaves_mark_set_empty :
    FlagsClear emptyDevice.config ∧ ∃ e d₁, loadCiaDictionary id emptyDevice = .error e d₁ ∧
      d₁.config.edsReaderMarkEntriesAsGeneric = true :=
  ⟨⟨⟨rfl, rfl⟩, rfl⟩, _, _, load_cia_dictionary_leaves_mark_set id rfl⟩

/-! ## Normal returns clear the flags -/

theorem returns_loadCiaDictionary (just : Bool) :
    Returns (fun d => MappingFlags just d.config) (loadCiaDictionary escape)
      (fun d => MappingFlags just d.config ∧ d.config.edsReaderMarkEntriesAsGeneric = false) := by
  have last : Returns (fun d => MappingFlags just d.config) (setMarkEntriesAsGeneric false)
      (fun d => MappingFlags just d.config ∧ d.config.edsReaderMarkEntriesAsGeneric = false) :=
    Returns.modify fun _ h => ⟨h, rfl⟩
  refine Returns.bind (Returns.of_keeps (Keeps.modify fun _ h => h)) fun _ => Returns.bind (Returns.discard
    (Returns.of_keeps (keeps_config_getDeviceProfileNumber escape _))) fun _ =>
    Returns.bind (Returns.of_keeps (keeps_config_edsCall _)) fun a => ?_
  dsimp only
  refine Returns.ite (Returns.bind (Returns.of_keeps (Keeps.modify fun _ h => ⟨rfl, h.2⟩)) fun _ =>
    Returns.bind (Returns.of_keeps (keeps_config_edsCall _)) fun _ => Returns.ite ?_ ?_) ?_
  · exact Returns.bind (Returns.of_keeps Keeps.get) fun _ => Returns.bind (Returns.throw _) fun _ => last
  all_goals exact Returns.bind (Returns.pure fun _ h => h) fun _ => last

theorem returns_loadDictionaryFromLibrary :
    Returns (fun _ => True) (loadDictionaryFromLibrary escape) (fun d => FlagsClear d.config) := by
  have tail : ∀ (just : Bool) (path : String), Returns (fun d => MappingFlags just d.config)
      (do loadCiaDictionary escape
          if path.isEmpty then do
            let y ← mostRecentEdsFilePath; setJustAddMappings false; pure y
          else do
            let y ← pure path; setJustAddMappings false; pure y)
      (fun d => FlagsClear d.config) := fun just path =>
    have last : ∀ y : String, Returns
        (fun d => MappingFlags just d.config ∧ d.config.edsReaderMarkEntriesAsGeneric = false)
        (do setJustAddMappings false; pure y) (fun d => FlagsClear d.config) := fun _ =>
      Returns.bind (Returns.modify fun _ h => ⟨⟨h.1.1, rfl⟩, h.2⟩) fun _ => Returns.pure fun _ h => h
    Returns.bind (returns_loadCiaDictionary escape just) fun _ =>
      Returns.ite (Returns.bind (Returns.of_keeps fun _ h => h) last)
        (Returns.bind (Returns.pure fun _ h => h) last)
  have off : Returns (fun _ => True) (setClearDictionary false)
      (fun d => d.config.edsLibraryClearDictionary = false) := Returns.modify fun _ _ => rfl
  refine Returns.bind (Returns.of_keeps fun _ h => h) fun a => ?_
  refine Returns.ite (Returns.throw_bind _ _) (Returns.bind (Returns.pure fun _ h => h) fun _ =>
    Returns.bind (Returns.of_keeps fun _ h => h) fun _ => Returns.bind (Returns.of_keeps fun _ h => h)
      fun _ => Returns.bind off fun _ => ?_)
  refine Returns.ite (Returns.bind (Returns.of_keeps fun _ h => h) fun _ =>
    Returns.bind ?_ fun _ => Returns.bind (Returns.pure fun _ h => h) (tail true))
    (Returns.bind ?_ fun _ => Returns.bind (Returns.pure fun _ h => h) (tail false))
  all_goals exact Returns.modify fun _ h => ⟨h, rfl⟩

theorem returns_loadDictionaryFromEds (path : String) :
    Returns (fun d => d.config.edsLibraryClearDictionary = false) (loadDictionaryFromEds escape path)
      (fun d => FlagsClear d.config) := by
  have justOff : Returns (fun d => d.config.edsLibraryClearDictionary = false)
      (setJustAddMappings false) (fun d => MappingFlags false d.config) :=
    Returns.modify fun _ h => ⟨h, rfl⟩
  have markOff : Returns (fun d => MappingFlags false d.config) (setMarkEntriesAsGeneric false)
      (fun d => FlagsClear d.config) := Returns.modify fun _ h => ⟨h, rfl⟩
  have call := Returns.of_keeps (keeps_config_edsCall FlagsClear)
  refine Returns.bind (Returns.discard (Returns.of_keeps
    (keeps_config_edsCall (·.edsLibraryClearDictionary = false)))) fun _ =>
    Returns.bind justOff fun _ => Returns.bind markOff fun _ => Returns.bind call fun _ => ?_
  have tail : Returns (fun d => FlagsClear d.config)
      (do setJustAddMappings true; loadCiaDictionary escape; setJustAddMappings false)
      (fun d => FlagsClear d.config) :=
    have justOn : Returns (fun d => FlagsClear d.config) (setJustAddMappings true)
        (fun d => MappingFlags true d.config) := Returns.modify fun _ h => ⟨h.1.1, rfl⟩
    Returns.bind justOn fun _ => Returns.bind (returns_loadCiaDictionary escape true) fun _ =>
      Returns.modify fun _ h => ⟨⟨h.1.1, rfl⟩, h.2⟩
  dsimp only
  refine Returns.ite (Returns.throw_bind _ _) (Returns.bind (Returns.pure fun _ h => h) fun _ =>
    Returns.bind call fun _ => Returns.ite (Returns.throw_bind _ _) (Returns.bind
      (Returns.pure fun _ h => h) fun _ => Returns.bind call fun _ =>
        Returns.ite ?_ (Returns.pure fun _ h => h)))
  exact Returns.bind (Returns.of_keeps Keeps.get) fun _ => Returns.ite
    (Returns.bind (Returns.of_keeps (keeps_config_addEntry escape FlagsClear _ _ _ _ _)) fun _ => tail)
    (Returns.bind (Returns.pure fun _ h => h) fun _ => tail)

/-- Whatever the EDS library and reader answer, a loader that returns leaves the
three flags false: `load_dictionary_from_library` from any state, the two others
from a state where they were false. -/
theorem loaders_return_with_flags_clear (path : String) :
    Returns (fun d => FlagsClear d.config) (loadCiaDictionary escape) (fun d => FlagsClear d.config) ∧
      Returns (fun _ => True) (loadDictionaryFromLibrary escape) (fun d => FlagsClear d.config) ∧
      Returns (fun d => FlagsClear d.config) (loadDictionaryFromEds escape path)
        (fun d => FlagsClear d.config) :=
  ⟨Returns.conseq (fun _ h => h.1) (returns_loadCiaDictionary escape false) fun _ h => h,
    returns_loadDictionaryFromLibrary escape,
    Returns.conseq (fun _ h => h.1.1) (returns_loadDictionaryFromEds escape path) fun _ h => h⟩

/-- A device whose EDS library and reader answer true to every call but the
fourth, whose node answers every upload with four bytes, and that has
`device_type`. -/
def edsReadyDevice : Device :=
  final (addEntry id 0x1000 0 "device_type" .uint32 .readOnly
    (Device.create ⟨fun _ _ => .data [0x92, 0x01, 0x02, 0x00], [], [], []⟩ ⟨0, false, false, false⟩
      ⟨fun n => .returned (n != 3), fun _ => "", 0⟩ 1))

theorem loaders_return_with_flags_clear_x :
    FlagsClear edsReadyDevice.config ∧
      (∃ d', loadCiaDictionary id edsReadyDevice = .ok () d' ∧ FlagsClear d'.config) ∧
      (∃ p d', loadDictionaryFromLibrary id edsReadyDevice = .ok p d' ∧ FlagsClear d'.config) ∧
      ∃ d', loadDictionaryFromEds id "device.eds" edsReadyDevice = .ok () d' ∧ FlagsClear d'.config :=
  have hc : FlagsClear edsReadyDevice.config := ⟨⟨rfl, rfl⟩, rfl⟩
  have h := loaders_return_with_flags_clear id "device.eds"
  ⟨hc, ⟨_, rfl, h.1 _ _ _ hc rfl⟩, ⟨"", _, rfl, h.2.1 edsReadyDevice _ _ trivial rfl⟩, ⟨_, rfl, h.2.2 _ _ _ hc rfl⟩⟩

end KaCanOpen.Device
