import KaCanOpen.Names
import KaCanOpen.RetryLaw

/-!
# Calls that throw

A dictionary access, an `add_entry` or an added PDO mapping that throws has, on
a consistent dictionary, checked before it changed anything: its state is the
one it started from, but for the SDO requests it sent. The exception is
`set_entry`, which caches the value and runs the entry's value-changed
callbacks before its SDO download, so a download that fails after all retries
leaves the new value cached and the ON_CHANGE frames sent.
-/

set_option autoImplicit false

namespace KaCanOpen.Device

open DeviceM

variable (escape : String → String)

/-- `d'` is `d` with more requests in the SDO log and nothing else changed. -/
def OnlyLogged (d d' : Device) : Prop :=
  d' = { d with core := { d.core with sdoLog := d'.core.sdoLog } }

theorem OnlyLogged.refl (d : Device) : OnlyLogged d d := rfl

theorem onlyLogged_logged (d : Device) (req : SdoRequest) (m : Nat) :
    OnlyLogged d (logged d req m) := rfl

theorem getEntryViaSdo_error {index : UInt16} {subindex : UInt8} {type : DataType} {d d' : Device}
    {e : Error} (h : getEntryViaSdo index subindex type d = .error e d') : OnlyLogged d d' := by
  rw [getEntryViaSdo_eq] at h
  dsimp only at h
  generalize retry _ _ _ = r at h
  rcases r with ⟨m, last | bs⟩
  · cases h; exact onlyLogged_logged _ _ _
  · dsimp only at h
    split at h <;> cases h
    exact onlyLogged_logged _ _ _

theorem setEntryViaSdo_error {index : UInt16} {subindex : UInt8} {value : Value} {d d' : Device}
    {e : Error} (h : setEntryViaSdo index subindex value d = .error e d') :
    (∃ x, e = .sdo x) ∧ OnlyLogged d d' := by
  rw [setEntryViaSdo_eq] at h
  dsimp only at h
  generalize retry _ _ _ = r at h
  rcases r with ⟨m, last | bs⟩ <;> cases h
  exact ⟨⟨_, rfl⟩, onlyLogged_logged _ _ _⟩

theorem getEntry_error {index : UInt16} {subindex : UInt8} {accessMethod : ReadAccessMethod}
    {d d' : Device} {e : Error} (h : getEntry escape index subindex accessMethod d = .error e d') :
    OnlyLogged d d' := by
  rw [getEntry_eq] at h
  split at h
  · cases h; rfl
  · split_ifs at h
    split at h
    · cases h
    · next hv => cases h; exact getEntryViaSdo_error hv

/-- `set_entry` on an address throws before it changes anything, or when its SDO
download fails, after it cached the value and sent its callbacks' frames. -/
theorem setEntry_error {index : UInt16} {subindex : UInt8} {value : Value}
    {accessMethod : WriteAccessMethod} {d d' : Device} {err : Error}
    (h : setEntry escape index subindex value accessMethod d = .error err d') :
    OnlyLogged d d' ∨ (∃ x, err = .sdo x) ∧ ∃ e, d.dictionary.find? ⟨index, subindex⟩ = some e ∧
      OnlyLogged (sending (withValue d ⟨index, subindex⟩ value)
        (callbackFrames escape (withValue d ⟨index, subindex⟩ value) e.callbacks)) d' := by
  rw [setEntry_eq] at h
  split at h
  · cases h; exact .inl rfl
  · next e he =>
    dsimp only at h
    split_ifs at h
    · cases h; exact .inl rfl
    · obtain ⟨hx, hl⟩ := setEntryViaSdo_error h
      exact .inr ⟨hx, e, he, hl⟩

theorem getEntryType_error {index : UInt16} {subindex : UInt8} {d d' : Device} {err : Error}
    (h : getEntryType index subindex d = .error err d') : d' = d := by
  simp only [getEntryType, bind_apply, get_apply] at h
  split_ifs at h <;> simp only [bind_apply, throw_apply, pure_apply, entryAt, reduceCtorEq] at h
  cases h; rfl

theorem checkMappings_lookup {d : Device} :
    ∀ {ms : List Mapping} {used : List Nat}, checkMappings escape d ms used = .ok () →
      ∀ m ∈ ms, (lookup d (escape m.entryName)).isSome
  | [], _, _ => fun _ h => by cases h
  | m::ms, used, h => by
    unfold checkMappings at h
    split at h
    · cases h
    · next e he =>
      dsimp only at h
      split_ifs at h
      intro m' hm'
      rcases List.mem_cons.1 hm' with rfl | hm'
      · rw [he]; rfl
      · exact checkMappings_lookup h m' hm'

/-- The ON_CHANGE loop never throws when every mapped name resolves to an entry. -/
theorem addSendCallbacks_ok (pdo : TransmitPDOMapping) :
    ∀ {ms : List Mapping} {s : Device}, (∀ m ∈ ms, (lookup s (escape m.entryName)).isSome) →
      ∃ s', addSendCallbacks escape pdo ms s = .ok () s'
  | [], s, _ => ⟨s, rfl⟩
  | m::ms, s, h => by
    obtain ⟨e, he⟩ := Option.isSome_iff_exists.1 (h m (List.mem_cons_self _ _))
    obtain ⟨a, ha, hea⟩ := Option.bind_eq_some.1 he
    have hrest : ∀ m' ∈ ms, (lookup { s with dictionary := s.dictionary.modify a fun e =>
        { e with callbacks := e.callbacks ++ [.sendPdo pdo.cobId pdo.mappings] } }
        (escape m'.entryName)).isSome := by
      intro m' hm'
      have := h m' (List.mem_cons_of_mem _ hm')
      simp only [lookup, findAddress] at this ⊢
      cases hb : s.nameToAddress.find? (escape m'.entryName).toList <;> rw [hb] at this
      · exact this
      · simpa only [Option.some_bind, StdMap.isSome_find?_modify] using this
    obtain ⟨s', hs'⟩ := addSendCallbacks_ok pdo hrest
    exact ⟨s', by simp [addSendCallbacks, atName, atEntry, ha, hea, modifyEntry, hs']⟩

/-- The transmit mapping's constructor check is the only way the shared part of
`add_transmit_pdo_mapping` throws, and it throws before anything is changed. -/
theorem installTransmitPdoMapping_error {cobId : UInt16} {mappings : List Mapping}
    {transmissionType : TransmissionType} {repeatTime : Nat} {d d' : Device} {err : Error}
    (h : installTransmitPdoMapping escape cobId mappings transmissionType repeatTime d = .error err d') :
    d' = d := by
  simp only [installTransmitPdoMapping, bind_apply, get_apply] at h
  cases hc : checkMappings escape d mappings [] with
  | error e => rw [hc] at h; cases h; rfl
  | ok u =>
    rw [hc] at h
    cases transmissionType with
    | periodic => cases h
    | onChange =>
      let pdo : TransmitPDOMapping := ⟨cobId, .onChange, repeatTime, mappings, false⟩
      have hl₀ := checkMappings_lookup escape hc
      have hl : ∀ m ∈ mappings, (lookup { d with transmitPdoMappings := pdo::d.transmitPdoMappings }
          (escape m.entryName)).isSome := hl₀
      obtain ⟨s', hs'⟩ := addSendCallbacks_ok escape pdo hl
      simp only [throwExcept_ok, bind_apply, modify_apply] at h
      rw [hs'] at h
      cases h

theorem mappingsOf_ok {d : Device} :
    ∀ {is : List MappingByIndex}, (∀ i ∈ is, d.dictionary.contains ⟨i.entryIndex, i.entrySubindex⟩) →
      ∃ ms, mappingsOf is d = .ok ms d
  | [], _ => ⟨[], rfl⟩
  | i::is, h => by
    obtain ⟨e, he⟩ := Option.isSome_iff_exists.1 (h i (List.mem_cons_self _ _))
    obtain ⟨ms, hms⟩ := mappingsOf_ok fun i' hi' => h i' (List.mem_cons_of_mem _ hi')
    exact ⟨⟨e.name, i.offset⟩::ms, by simp only [mappingsOf, bind_apply, entryAt_of_find he, hms,
      pure_apply]⟩

theorem bindReceivePdoMapping_error {cobId : UInt16} {name : String} {type : DataType}
    {offset : UInt8} {callback : ReceivePDOMapping → PdoCallback} {recordCobId : Bool}
    {d d' : Device} {err : Error}
    (h : bindReceivePdoMapping cobId name type offset callback recordCobId d = .error err d') :
    d' = d := by
  rw [bindReceivePdoMapping_eq] at h
  split_ifs at h
  cases h; rfl

/-- The by-name receive mappings throw before they change anything. -/
theorem addReceivePdoMapping_error {escape} (hid : Idempotent escape) {d d' : Device}
    (hd : Consistent d) {cobId : UInt16} {entryName : String} {offset : UInt8} {err : Error}
    (h : addReceivePdoMapping escape cobId entryName offset d = .error err d') : d' = d := by
  simp only [addReceivePdoMapping, bind_apply, entryByName_escape hid hd] at h
  cases hl : lookup d (escape entryName) <;> simp only [hl] at h
  · cases h; rfl
  · exact bindReceivePdoMapping_error h

theorem addReceivePdoMappingWith_error {escape} (hid : Idempotent escape) {d d' : Device}
    (hd : Consistent d) {cobId : UInt16} {entryName : String} {offset : UInt8} {err : Error}
    (h : addReceivePdoMappingWith escape cobId entryName offset d = .error err d') : d' = d := by
  simp only [addReceivePdoMappingWith, bind_apply, entryByName_escape hid hd] at h
  cases hl : lookup d (escape entryName) <;> simp only [hl] at h
  · cases h; rfl
  · exact bindReceivePdoMapping_error h

/-- The by-index overloads, on addresses that hold an entry, throw before they
change anything. -/
theorem addReceivePdoMappingAt_error {cobId entryIndex : UInt16} {entrySubindex offset : UInt8}
    {d d' : Device} {err : Error} (hc : d.dictionary.contains ⟨entryIndex, entrySubindex⟩ = true)
    (h : addReceivePdoMappingAt cobId entryIndex entrySubindex offset d = .error err d') : d' = d := by
  obtain ⟨e, he⟩ := Option.isSome_iff_exists.1 hc
  simp only [addReceivePdoMappingAt, bind_apply, entryAt_of_find he] at h
  exact bindReceivePdoMapping_error h

theorem addTransmitPdoMappingAt_error {cobId : UInt16} {mappingsByIndex : List MappingByIndex}
    {transmissionType : TransmissionType} {repeatTime : Nat} {d d' : Device} {err : Error}
    (hc : ∀ i ∈ mappingsByIndex, d.dictionary.contains ⟨i.entryIndex, i.entrySubindex⟩ = true)
    (h : addTransmitPdoMappingAt escape cobId mappingsByIndex transmissionType repeatTime d =
      .error err d') : d' = d := by
  obtain ⟨ms, hms⟩ := mappingsOf_ok hc
  simp only [addTransmitPdoMappingAt, bind_apply, hms] at h
  exact installTransmitPdoMapping_error escape h

theorem error_of_discard {α : Type} {x : DeviceM α} {d d' : Device} {err : Error}
    (h : Functor.discard x d = .error err d') : x d = .error err d' := by
  cases hx : x d <;> rw [discard_apply, hx] at h <;> cases h
  rfl

/-- The calls the failure law covers: the overloads by index only on addresses
that hold an entry. -/
def Call.Covered (d : Device) : Call → Prop
  | .getEntryType .. | .getEntryTypeByName .. | .getEntry .. | .getEntryByName .. | .setEntry ..
  | .setEntryByName .. | .addEntry .. | .addReceivePdoMapping .. | .addReceivePdoMappingWith ..
  | .addTransmitPdoMapping .. => True
  | .addReceivePdoMappingAt _ i s _ => d.dictionary.contains ⟨i, s⟩ = true
  | .addTransmitPdoMappingAt _ is _ _ =>
    ∀ i ∈ is, d.dictionary.contains ⟨i.entryIndex, i.entrySubindex⟩ = true
  | _ => False

/-- `c` is a `set_entry` of `v` that resolves to the address `a`. -/
def Call.SetsAt (d : Device) : Call → Address → Value → Prop
  | .setEntry i s v _, a, w => a = ⟨i, s⟩ ∧ w = v
  | .setEntryByName n v _, a, w => findAddress d (escape n) = some a ∧ w = v
  | _, _, _ => False

/-- A covered call that throws on a consistent dictionary has changed nothing but
the SDO log, except a `set_entry` whose SDO download failed after all retries:
that one has cached the value and sent its callbacks' frames first. -/
theorem failed_call_changes_nothing (hid : Idempotent escape) {d d' : Device} {err : Error}
    (hd : Consistent d) (c : Call) (hc : c.Covered d) (h : c.exec escape d = .error err d') :
    OnlyLogged d d' ∨ (∃ x, err = .sdo x) ∧ ∃ a v e, c.SetsAt escape d a v ∧
      d.dictionary.find? a = some e ∧
      OnlyLogged (sending (withValue d a v) (callbackFrames escape (withValue d a v) e.callbacks)) d' := by
  have unchanged : d' = d → OnlyLogged d d' := fun h => h ▸ rfl
  cases c with
  | addEntry => exact .inl (unchanged (addEntry_error escape h))
  | getEntryType => exact .inl (unchanged (getEntryType_error (error_of_discard h)))
  | getEntryTypeByName n =>
    have h := error_of_discard h
    rw [getEntryTypeByName_eq hid hd] at h
    split at h <;> cases h
    exact .inl rfl
  | getEntry => exact .inl (getEntry_error escape (error_of_discard h))
  | getEntryByName n m =>
    have h := error_of_discard h
    rw [getEntryByName_eq hid hd] at h
    split at h
    · cases h; exact .inl rfl
    · exact .inl (getEntry_error escape h)
  | setEntry i s v m =>
    refine (setEntry_error escape h).imp_right fun ⟨hx, e, he, hl⟩ => ⟨hx, _, v, e, ⟨rfl, rfl⟩, he, hl⟩
  | setEntryByName n v m =>
    simp only [Call.exec] at h
    rw [setEntryByName_eq hid hd] at h
    split at h
    · cases h; exact .inl rfl
    · next a ha =>
      exact (setEntry_error escape h).imp_right fun ⟨hx, e, he, hl⟩ => ⟨hx, a, v, e, ⟨ha, rfl⟩, he, hl⟩
  | addReceivePdoMapping => exact .inl (unchanged (addReceivePdoMapping_error hid hd h))
  | addReceivePdoMappingWith => exact .inl (unchanged (addReceivePdoMappingWith_error hid hd h))
  | addReceivePdoMappingAt => exact .inl (unchanged (addReceivePdoMappingAt_error hc h))
  | addTransmitPdoMapping => exact .inl (unchanged (installTransmitPdoMapping_error escape h))
  | addTransmitPdoMappingAt => exact .inl (unchanged (addTransmitPdoMappingAt_error escape hc h))
  | _ => exact hc.elim

/-- A node that aborts every SDO request, with the `uint8_t` entry `x` at
`0x6000sub0`, whose writes default to SDO. -/
def abortingDeviceWithX : Device := final (addEntry id 0x6000 0 "x" .uint8 .readWrite abortingDevice)

theorem failed_call_changes_nothing_set_entry :
    ∃ err d', (Call.setEntry 0x6000 0 ⟨.uint8, [5]⟩ .useDefault).exec id abortingDeviceWithX =
      .error err d' ∧ (OnlyLogged abortingDeviceWithX d' ∨ (∃ x, err = .sdo x) ∧ ∃ a v e,
        (Call.setEntry 0x6000 0 ⟨.uint8, [5]⟩ .useDefault).SetsAt id abortingDeviceWithX a v ∧
        abortingDeviceWithX.dictionary.find? a = some e ∧
        OnlyLogged (sending (withValue abortingDeviceWithX a v)
          (callbackFrames id (withValue abortingDeviceWithX a v) e.callbacks)) d') :=
  ⟨_, _, rfl, failed_call_changes_nothing id (fun _ => rfl)
    (Wf.keeps_addEntry (fun _ => rfl) _ _ _ _ _ _ (wf_create _ _ _ _ _)).toConsistent _ trivial rfl⟩

/-- `set_entry` caches the value before its SDO download, which then fails. -/
theorem set_entry_caches_before_failed_download :
    Consistent abortingDeviceWithX ∧ ∃ err d',
      setEntry id 0x6000 0 ⟨.uint8, [5]⟩ .useDefault abortingDeviceWithX = .error err d' ∧
      (abortingDeviceWithX.dictionary.find? ⟨0x6000, 0⟩).map Entry.value = some Value.empty ∧
      (d'.dictionary.find? ⟨0x6000, 0⟩).map Entry.value = some ⟨.uint8, [5]⟩ :=
  ⟨(Wf.keeps_addEntry (fun _ => rfl) _ _ _ _ _ _ (wf_create _ _ _ _ _)).toConsistent, _, _, rfl, rfl,
    rfl⟩

end KaCanOpen.Device
