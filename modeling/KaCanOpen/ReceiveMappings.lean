import KaCanOpen.Access
import KaCanOpen.Addressed

/-!
# Receive PDO mappings and the callback registry

The three overloads of `add_receive_pdo_mapping` push a mapping, register a
callback with the core under its COB-ID and, for the two that bind the device's
own callback, record the COB-ID in `cob_ids_`, the list `~Device` unregisters.
The overload by index reads `m_dictionary[address]` without an existence check,
and the overload taking a caller's function records nothing.
-/

set_option autoImplicit false

namespace KaCanOpen.Device

open DeviceM

variable (escape : String → String)

/-- `d` after a receive mapping was pushed, its COB-ID recorded when `recordCobId`,
and its callback registered. -/
def withReceiveMapping (d : Device) (pdo : ReceivePDOMapping) (callback : PdoCallback)
    (recordCobId : Bool) : Device :=
  { d with
    receivePdoMappings := pdo::d.receivePdoMappings
    cobIds := if recordCobId then d.cobIds ++ [pdo.cobId] else d.cobIds
    core := { d.core with pdoCallbacks := d.core.pdoCallbacks ++ [(pdo.cobId, callback)] } }

theorem bindReceivePdoMapping_eq (cobId : UInt16) (name : String) (type : DataType) (offset : UInt8)
    (callback : ReceivePDOMapping → PdoCallback) (recordCobId : Bool) (d : Device) :
    bindReceivePdoMapping cobId name type offset callback recordCobId d =
      if offset.toNat+getTypeSize type > 8 then
        .error (.dictionary ⟨.mappingSize, name, "offset (" ++ toString offset.toNat ++
          ") + type_size (" ++ toString (getTypeSize type) ++ ") > 8."⟩) d
      else .ok () (withReceiveMapping d ⟨cobId, name, offset⟩ (callback ⟨cobId, name, offset⟩)
        recordCobId) := by
  by_cases h : offset.toNat+getTypeSize type > 8 <;> cases recordCobId <;>
    simp [bindReceivePdoMapping, h, addPdoReceivedCallback, withReceiveMapping]

/-- `has_entry(name)`, then `m_dictionary[m_name_to_address[name]]`, as it
changes the maps: the name and the address are inserted when missing. -/
theorem entryByName_frame {name : String} {d d' : Device} {e : Entry}
    (h : entryByName escape name d = .ok e d') :
    d'.cobIds = d.cobIds ∧ d'.core = d.core ∧ d'.receivePdoMappings = d.receivePdoMappings := by
  simp only [entryByName, bind_apply, get_apply] at h
  split_ifs at h
  · cases h
  · cases h
    exact ⟨rfl, rfl, rfl⟩

theorem addReceivePdoMappingAt_eq (cobId entryIndex : UInt16) (entrySubindex offset : UInt8)
    (d : Device) :
    addReceivePdoMappingAt cobId entryIndex entrySubindex offset d =
      let r := d.dictionary.index ⟨entryIndex, entrySubindex⟩ Entry.blank
      bindReceivePdoMapping cobId r.1.name r.1.type offset .device true
        { d with dictionary := r.2 } := rfl

/-- The by-index overload on an address nobody added leaves a dictionary that
is not consistent: `operator[]` stores a default entry there, with address
`0sub0` and the empty name. -/
theorem receive_mapping_at_breaks_consistency {d : Device} {cobId entryIndex : UInt16}
    {entrySubindex offset : UInt8} (ha : d.dictionary.find? ⟨entryIndex, entrySubindex⟩ = none)
    (h0 : (⟨entryIndex, entrySubindex⟩ : Address) ≠ Address.zero) :
    ¬ Consistent (final (addReceivePdoMappingAt cobId entryIndex entrySubindex offset d)) := by
  intro hc
  have hfind : (final (addReceivePdoMappingAt cobId entryIndex entrySubindex offset d)).dictionary.find?
      ⟨entryIndex, entrySubindex⟩ = some Entry.blank := by
    rw [addReceivePdoMappingAt_eq, StdMap.index_of_find?_none _ _ ha]
    dsimp only
    rw [bindReceivePdoMapping_eq]
    split_ifs <;> exact StdMap.find?_insert_self _ _ ha
  exact h0 (hc.entries_named _ _ hfind).1.symm

/-- A freshly created device with an empty dictionary, node ID 1. -/
def emptyDevice : Device :=
  Device.create ⟨fun _ _ => .data [], [], [], []⟩ ⟨0, false, false, false⟩
    ⟨fun _ => .returned false, fun _ => "", 0⟩ 1

theorem receive_mapping_at_breaks_consistency_empty :
    Consistent emptyDevice ∧ ¬ Consistent (final (addReceivePdoMappingAt 0x181 0x6000 0 0 emptyDevice)) :=
  ⟨consistent_create _ _ _ _, receive_mapping_at_breaks_consistency rfl (by decide)⟩

/-- The by-index overload on an address nobody added records a mapping whose
name, the empty one, does not resolve after escaping, for an entry of type
`invalid`, whose width is 0. -/
theorem receive_mapping_at_unresolved {d : Device} {cobId entryIndex : UInt16}
    {entrySubindex offset : UInt8} (ha : d.dictionary.find? ⟨entryIndex, entrySubindex⟩ = none)
    (hname : findAddress d (escape "") = none) (hoff : offset.toNat ≤ 8) :
    ∃ d', addReceivePdoMappingAt cobId entryIndex entrySubindex offset d = .ok () d' ∧
      ⟨cobId, "", offset⟩ ∈ d'.receivePdoMappings ∧ findAddress d' (escape "") = none ∧
      (d'.dictionary.find? ⟨entryIndex, entrySubindex⟩).map (fun e => getTypeSize e.type) = some 0 := by
  rw [addReceivePdoMappingAt_eq, StdMap.index_of_find?_none _ _ ha]
  dsimp only
  rw [bindReceivePdoMapping_eq, if_neg (by simpa [Entry.blank, getTypeSize] using hoff)]
  exact ⟨_, rfl, List.mem_cons_self _ _, hname, by
    simp [withReceiveMapping, StdMap.find?_insert_self _ _ ha, Entry.blank, getTypeSize]⟩

theorem receive_mapping_at_unresolved_empty :
    ∃ d', addReceivePdoMappingAt 0x181 0x6000 0 0 emptyDevice = .ok () d' ∧
      ⟨0x181, "", 0⟩ ∈ d'.receivePdoMappings ∧ findAddress d' (id "") = none ∧
      (d'.dictionary.find? ⟨0x6000, 0⟩).map (fun e => getTypeSize e.type) = some 0 :=
  receive_mapping_at_unresolved id rfl rfl (by decide)

theorem removePdoReceivedCallbacks_eq (cobIds : List UInt16) (d : Device) :
    removePdoReceivedCallbacks cobIds d = .ok () { d with core := { d.core with
      pdoCallbacks := d.core.pdoCallbacks.filter fun p => !cobIds.contains p.1 } } := by
  induction cobIds generalizing d with
  | nil => simp [removePdoReceivedCallbacks]
  | cons c cs ih =>
    simp only [removePdoReceivedCallbacks, removePdoReceivedCallback, bind_apply, modify_apply, ih,
      List.filter_filter]
    congr 4
    funext p
    simp only [List.contains_cons, Bool.not_or, bne, Bool.and_comm]

/-- `~Device` unregisters exactly the callbacks whose COB-ID is in `cob_ids_`. -/
theorem destroy_callbacks (d : Device) :
    (final (destroy d)).core.pdoCallbacks = d.core.pdoCallbacks.filter fun p => !d.cobIds.contains p.1 := by
  simp [destroy, removePdoReceivedCallbacks_eq, stopRequestHeartbeat]

/-- A callback registered through the overload taking a caller's function, under
a COB-ID not in `cob_ids_`, is still registered after `~Device`. -/
theorem user_callback_survives_destroy {d d₁ : Device} {cobId : UInt16} {entryName : String}
    {offset : UInt8} (hcob : cobId ∉ d.cobIds)
    (h : addReceivePdoMappingWith escape cobId entryName offset d = .ok () d₁) :
    (cobId, PdoCallback.user ⟨cobId, escape entryName, offset⟩) ∈ (final (destroy d₁)).core.pdoCallbacks := by
  obtain ⟨e, d', h₁, h₂⟩ := bind_eq_ok.1 h
  obtain ⟨hc, hcore, -⟩ := entryByName_frame escape h₁
  rw [bindReceivePdoMapping_eq] at h₂
  split_ifs at h₂
  cases h₂
  rw [destroy_callbacks]
  simp [withReceiveMapping, hc, hcob]

/-- A device whose dictionary holds the `uint8_t` entry `x` at `0x6000sub0`. -/
def deviceWithX : Device :=
  final (addEntry id 0x6000 0 "x" .uint8 .readWrite emptyDevice)

theorem user_callback_survives_destroy_x :
    0x181 ∉ deviceWithX.cobIds ∧
      addReceivePdoMappingWith id 0x181 "x" 0 deviceWithX =
        .ok () (final (addReceivePdoMappingWith id 0x181 "x" 0 deviceWithX)) ∧
      (0x181, PdoCallback.user ⟨0x181, "x", 0⟩) ∈
        (final (destroy (final (addReceivePdoMappingWith id 0x181 "x" 0 deviceWithX)))).core.pdoCallbacks :=
  ⟨by decide, rfl, user_callback_survives_destroy id
    (show (0x181 : UInt16) ∉ deviceWithX.cobIds by decide) rfl⟩

/-! ## The registry of the device's own callbacks -/

/-- Every callback bound to this device is registered under a COB-ID that
`cob_ids_` holds, so that `~Device` unregisters it. -/
def Recorded (d : Device) : Prop :=
  ∀ c m, (c, PdoCallback.device m) ∈ d.core.pdoCallbacks → c ∈ d.cobIds

theorem recorded_bindReceivePdoMapping (cobId : UInt16) (name : String) (type : DataType)
    (offset : UInt8) {callback : ReceivePDOMapping → PdoCallback} {recordCobId : Bool}
    (hcb : ∀ p m, callback p = .device m → recordCobId = true) :
    Keeps Recorded (bindReceivePdoMapping cobId name type offset callback recordCobId) := by
  intro d hd
  rw [bindReceivePdoMapping_eq]
  split_ifs
  · exact hd
  · intro c m hm
    simp only [final, withReceiveMapping, List.mem_append, List.mem_singleton, Prod.mk.injEq] at hm ⊢
    rcases hm with hm | ⟨rfl, hm⟩
    · cases recordCobId <;> simp [hd c m hm]
    · simp [hcb _ _ hm.symm]

theorem recorded_entryByName (name : String) : Keeps Recorded (entryByName escape name) := by
  intro d hd
  cases h : entryByName escape name d with
  | ok e d' =>
    obtain ⟨hc, hcore, -⟩ := entryByName_frame escape h
    simpa only [final, Recorded, hc, hcore] using hd
  | error e d' =>
    simp only [entryByName, bind_apply, get_apply] at h
    split_ifs at h
    · cases h; exact hd
    · cases h

/-- The calls that register a PDO callback with the core. -/
def Call.addsReceiveMapping : Call → Bool
  | .addReceivePdoMapping .. | .addReceivePdoMappingWith .. | .addReceivePdoMappingAt .. => true
  | _ => false

theorem recorded_exec_receive_mapping : ∀ c : Call, c.addsReceiveMapping →
    Keeps Recorded (c.exec escape)
  | .addReceivePdoMapping .., _ => Keeps.bind (recorded_entryByName escape _) fun _ =>
      recorded_bindReceivePdoMapping _ _ _ _ fun _ _ _ => rfl
  | .addReceivePdoMappingWith .., _ => Keeps.bind (recorded_entryByName escape _) fun _ =>
      recorded_bindReceivePdoMapping _ _ _ _ fun _ _ h => by cases h
  | .addReceivePdoMappingAt .., _ => Keeps.bind (fun _ h => h) fun _ =>
      recorded_bindReceivePdoMapping _ _ _ _ fun _ _ _ => rfl

theorem recorded_run (cs : List Call) (hcs : ∀ c ∈ cs, c.addsReceiveMapping) {d : Device}
    (hd : Recorded d) : Recorded (run escape cs d) := by
  induction cs generalizing d with
  | nil => exact hd
  | cons c cs ih =>
    exact ih (fun c' h => hcs c' (List.mem_cons_of_mem _ h))
      (recorded_exec_receive_mapping escape c (hcs c (List.mem_cons_self _ _)) d hd)

/-- Whatever receive mappings were added, with or without a caller's function,
`~Device` leaves no callback bound to the device registered with the core. -/
theorem destroy_unregisters_device_callbacks (cs : List Call)
    (hcs : ∀ c ∈ cs, c.addsReceiveMapping) {d : Device} (hd : Recorded d) (c : UInt16)
    (m : ReceivePDOMapping) :
    (c, PdoCallback.device m) ∉ (final (destroy (run escape cs d))).core.pdoCallbacks := by
  rw [destroy_callbacks]
  simp only [List.mem_filter, Bool.not_eq_true', not_and, Bool.not_eq_false]
  intro h
  simpa using recorded_run escape cs hcs hd c m h

theorem destroy_unregisters_device_callbacks_x :
    (∀ c ∈ [Call.addReceivePdoMapping 0x181 "x" 0, .addReceivePdoMappingAt 0x182 0x6000 0 1],
      c.addsReceiveMapping) ∧ Recorded deviceWithX ∧
    (0x181, PdoCallback.device ⟨0x181, "x", 0⟩) ∉ (final (destroy (run id
      [.addReceivePdoMapping 0x181 "x" 0, .addReceivePdoMappingAt 0x182 0x6000 0 1]
      deviceWithX))).core.pdoCallbacks :=
  have hcs : ∀ c ∈ [Call.addReceivePdoMapping 0x181 "x" 0, .addReceivePdoMappingAt 0x182 0x6000 0 1],
      c.addsReceiveMapping := by decide
  have hd : Recorded deviceWithX := fun _ _ h => by cases h
  ⟨hcs, hd, destroy_unregisters_device_callbacks id _ hcs hd _ _⟩

end KaCanOpen.Device
