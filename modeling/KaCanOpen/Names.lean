import KaCanOpen.ReceiveMappings

/-!
# Escaped names

The name forms of the dictionary accesses escape the name, check it with
`has_entry`, which escapes it again, and then read `m_name_to_address[name]`. On
a consistent dictionary and with an idempotent `Utils::escape` they are the
address forms at the address the escaped name maps to. A dictionary is well
formed when it is consistent and its entries carry escaped names, as `add_entry`
stores them; on such a dictionary the address form of `add_receive_pdo_mapping`,
at an address holding an entry, is the name form with the entry's name. The
address form of `add_transmit_pdo_mapping` is, on addresses holding entries,
the name form with the entries' names on any dictionary.
-/

set_option autoImplicit false

namespace KaCanOpen.Device

open DeviceM

variable (escape : String → String)

/-- `Utils::escape` leaves an escaped name as it is. -/
def Idempotent : Prop := ∀ s, escape (escape s) = escape s

/-- A consistent dictionary whose entries carry escaped names, as `add_entry`
stores them. -/
structure Wf (d : Device) extends Consistent d : Prop where
  names_escaped : ∀ a e, d.dictionary.find? a = some e → escape e.name = e.name

theorem addressOf_of_find {d : Device} {name : String} {a : Address}
    (h : findAddress d name = some a) : addressOf name d = .ok a d := by
  simp only [addressOf, StdMap.index_of_find?_some _ _ h]

section Resolve

variable {escape} (hid : Idempotent escape) {d : Device} (hd : Consistent d)
include hid hd

theorem hasEntryByName_escape (entryName : String) :
    hasEntryByName escape d (escape entryName) = (findAddress d (escape entryName)).isSome := by
  unfold hasEntryByName
  rw [hid]
  cases h : findAddress d (escape entryName) with
  | none => rfl
  | some a => exact hd.names_resolve _ a h

/-- `get_entry(name)` is `get_entry` on the address the escaped name maps to. -/
theorem getEntryByName_eq (entryName : String) (accessMethod : ReadAccessMethod) :
    getEntryByName escape entryName accessMethod d =
      match findAddress d (escape entryName) with
      | none => .error (unknownEntry (escape entryName)) d
      | some a => getEntry escape a.index a.subindex accessMethod d := by
  simp only [getEntryByName, bind_apply, get_apply, hasEntryByName_escape hid hd]
  cases h : findAddress d (escape entryName) with
  | none => rfl
  | some a => simp [addressOf_of_find h]

theorem setEntryByName_eq (entryName : String) (value : Value) (accessMethod : WriteAccessMethod) :
    setEntryByName escape entryName value accessMethod d =
      match findAddress d (escape entryName) with
      | none => .error (unknownEntry (escape entryName)) d
      | some a => setEntry escape a.index a.subindex value accessMethod d := by
  simp only [setEntryByName, bind_apply, get_apply, hasEntryByName_escape hid hd]
  cases h : findAddress d (escape entryName) with
  | none => rfl
  | some a => simp [addressOf_of_find h]

theorem getEntryTypeByName_eq (entryName : String) :
    getEntryTypeByName escape entryName d =
      match lookup d (escape entryName) with
      | none => .error (unknownEntry (escape entryName)) d
      | some e => .ok e.type d := by
  simp only [getEntryTypeByName, bind_apply, get_apply, hasEntryByName_escape hid hd, lookup]
  cases h : findAddress d (escape entryName) with
  | none => rfl
  | some a =>
    obtain ⟨e, he⟩ := Option.isSome_iff_exists.1 (hd.names_resolve _ a h)
    simp [addressOf_of_find h, entryAt_of_find he, he]

/-- `has_entry(name)`, then `m_dictionary[m_name_to_address[name]]`, on an escaped name. -/
theorem entryByName_escape (entryName : String) :
    entryByName escape (escape entryName) d =
      match lookup d (escape entryName) with
      | none => .error (unknownEntry (escape entryName)) d
      | some e => .ok e d := by
  simp only [entryByName, bind_apply, get_apply, hasEntryByName_escape hid hd, lookup]
  cases h : findAddress d (escape entryName) with
  | none => rfl
  | some a =>
    obtain ⟨e, he⟩ := Option.isSome_iff_exists.1 (hd.names_resolve _ a h)
    simp [addressOf_of_find h, entryAt_of_find he, he]

end Resolve

/-- `add_entry` returns only for an escaped name and an address nobody has, and
then inserts both. -/
theorem addEntry_ok {index : UInt16} {subindex : UInt8} {name : String} {type : DataType}
    {accessType : AccessType} {d d' : Device}
    (h : addEntry escape index subindex name type accessType d = .ok () d') :
    d.nameToAddress.find? (escape name).toList = none ∧ d.dictionary.find? ⟨index, subindex⟩ = none ∧
      d' = { d with
        dictionary := d.dictionary.insert ⟨index, subindex⟩
          (Entry.make index subindex (escape name) type accessType)
        nameToAddress := d.nameToAddress.insert (escape name).toList ⟨index, subindex⟩ } := by
  simp only [addEntry, bind_apply, get_apply] at h
  split_ifs at h <;> simp only [bind_apply, throw_apply, pure_apply, set_apply, reduceCtorEq] at h
  cases h
  exact ⟨by simpa [StdMap.contains] using ‹¬d.nameToAddress.contains _ = true›,
    by simpa [hasEntry, StdMap.contains] using ‹¬d.hasEntry index subindex = true›, rfl⟩

theorem addEntry_error {index : UInt16} {subindex : UInt8} {name : String} {type : DataType}
    {accessType : AccessType} {d d' : Device} {err : Error}
    (h : addEntry escape index subindex name type accessType d = .error err d') : d' = d := by
  simp only [addEntry, bind_apply, get_apply] at h
  split_ifs at h <;> simp only [bind_apply, throw_apply, pure_apply, set_apply, reduceCtorEq] at h <;>
    cases h <;> rfl

/-- A property that reads neither the dictionary nor the name index is kept by
`add_entry`, whether it returns or throws. -/
theorem keeps_addEntry_of_maps {P : Device → Prop}
    (hP : ∀ d dictionary nameToAddress, P d →
      P { d with dictionary := dictionary, nameToAddress := nameToAddress })
    (index : UInt16) (subindex : UInt8) (name : String) (type : DataType) (accessType : AccessType) :
    Keeps P (addEntry escape index subindex name type accessType) := by
  intro d hd
  cases h : addEntry escape index subindex name type accessType d with
  | ok _ d' =>
    obtain ⟨-, -, rfl⟩ := addEntry_ok escape h
    exact hP _ _ _ hd
  | error _ d' =>
    obtain rfl := addEntry_error escape h
    exact hd

/-- `add_entry` inserts an entry under an escaped name nobody has, at an address
nobody has, so it keeps the dictionary well formed. -/
theorem Wf.of_addEntry {escape} (hid : Idempotent escape) {d d' : Device} (hd : Wf escape d)
    {index : UInt16} {subindex : UInt8} {name : String} {type : DataType} {accessType : AccessType}
    (h : addEntry escape index subindex name type accessType d = .ok () d') : Wf escape d' := by
  obtain ⟨hn', ha', rfl⟩ := addEntry_ok escape h
  refine ⟨⟨fun n b hb => ?_, fun b e hb => ?_⟩, fun b e hb => ?_⟩
  · simp only [StdMap.contains, StdMap.find?_insert _ _ _ _ ha', StdMap.find?_insert _ _ _ _ hn',
      apply_ite Option.isSome] at hb ⊢
    by_cases h₁ : n = (escape name).toList
    · rw [if_pos h₁] at hb; cases hb; simp
    · rw [if_neg h₁] at hb
      split_ifs
      · rfl
      · exact hd.names_resolve n b hb
  · simp only [StdMap.find?_insert _ _ _ _ ha', StdMap.find?_insert _ _ _ _ hn'] at hb ⊢
    split_ifs at hb with h₁
    · cases hb; subst h₁; simp [Entry.make, Entry.address]
    · obtain ⟨h₂, h₃⟩ := hd.entries_named b e hb
      have h₄ : e.name.toList ≠ (escape name).toList := fun h₄ => by
        rw [h₄, hn'] at h₃; cases h₃
      exact ⟨h₂, by rw [if_neg h₄, h₃]⟩
  · simp only [StdMap.find?_insert _ _ _ _ ha'] at hb
    split_ifs at hb
    · cases hb; exact hid name
    · exact hd.names_escaped b e hb

theorem Wf.keeps_addEntry {escape} (hid : Idempotent escape) (index : UInt16) (subindex : UInt8)
    (name : String) (type : DataType) (accessType : AccessType) :
    Keeps (Wf escape) (addEntry escape index subindex name type accessType) := by
  intro d hd
  cases h : addEntry escape index subindex name type accessType d with
  | ok _ d' => exact hd.of_addEntry hid h
  | error e d' => rw [final_error, addEntry_error escape h]; exact hd

theorem wf_create (escape : String → String) (core : Core) (config : Config) (eds : EdsLibrary)
    (nodeId : UInt8) : Wf escape (Device.create core config eds nodeId) :=
  ⟨consistent_create _ _ _ _, fun _ _ h => by cases h⟩

/-- On a well-formed dictionary, `add_receive_pdo_mapping` by index and subindex
at an address holding an entry does what `add_receive_pdo_mapping` by name does
with the entry's name: the same result or exception, and the same state. -/
theorem receive_mapping_at_is_by_name {escape} (hid : Idempotent escape) {d : Device} (hd : Wf escape d)
    {a : Address} {e : Entry} (he : d.dictionary.find? a = some e) (cobId : UInt16) (offset : UInt8) :
    addReceivePdoMappingAt cobId a.index a.subindex offset d = addReceivePdoMapping escape cobId e.name offset d := by
  have hname : escape e.name = e.name := hd.names_escaped a e he
  have hl : lookup d (escape e.name) = some e := by
    rw [hname]
    exact Option.bind_eq_some.2 ⟨a, (hd.entries_named a e he).2, he⟩
  simp only [addReceivePdoMappingAt, addReceivePdoMapping, bind_apply, entryAt_of_find he]
  rw [entryByName_escape hid hd.toConsistent, hl, hname]

theorem receive_mapping_at_is_by_name_x :
    Idempotent id ∧ Wf id deviceWithX ∧
      deviceWithX.dictionary.find? ⟨0x6000, 0⟩ = some (Entry.make 0x6000 0 "x" .uint8 .readWrite) ∧
      addReceivePdoMappingAt 0x181 0x6000 0 0 deviceWithX = addReceivePdoMapping id 0x181 "x" 0 deviceWithX :=
  have hd : Wf id deviceWithX :=
    Wf.keeps_addEntry (fun _ => rfl) 0x6000 0 "x" .uint8 .readWrite emptyDevice (wf_create id _ _ _ _)
  ⟨fun _ => rfl, hd, rfl, @receive_mapping_at_is_by_name id (fun _ => rfl) deviceWithX hd ⟨0x6000, 0⟩
    (Entry.make 0x6000 0 "x" .uint8 .readWrite) rfl 0x181 0⟩

/-- The wrapping loop of the by-index `add_transmit_pdo_mapping`, over
addresses that hold the entries `es`, changes nothing and pairs each entry's
name with its mapping's offset. -/
theorem mappingsOf_of_find {d : Device} {is : List MappingByIndex} {es : List Entry}
    (h : List.Forall₂ (fun i e => d.dictionary.find? ⟨i.entryIndex, i.entrySubindex⟩ = some e) is es) :
    mappingsOf is d = .ok (List.zipWith (fun i e => ⟨e.name, i.offset⟩) is es) d := by
  induction h with
  | nil => rfl
  | cons he _ ih => simp only [mappingsOf, bind_apply, entryAt_of_find he, ih, pure_apply, List.zipWith_cons_cons]

/-- `add_transmit_pdo_mapping` by index and subindex, on addresses that hold
entries, does what `add_transmit_pdo_mapping` by name does with the entries'
names and the same offsets: the same result or exception, and the same state. -/
theorem transmit_mapping_at_is_by_name (cobId : UInt16) {is : List MappingByIndex} {es : List Entry}
    {d : Device} (h : List.Forall₂ (fun i e => d.dictionary.find? ⟨i.entryIndex, i.entrySubindex⟩ = some e) is es)
    (transmissionType : TransmissionType) (repeatTime : Nat) :
    addTransmitPdoMappingAt escape cobId is transmissionType repeatTime d =
      addTransmitPdoMapping escape cobId (List.zipWith (fun i e => ⟨e.name, i.offset⟩) is es) transmissionType
        repeatTime d := by
  simp only [addTransmitPdoMappingAt, bind_apply, mappingsOf_of_find h]
  rfl

/-- An `escape` that lower-cases the one name `X`, and is idempotent. -/
def lowerX (s : String) : String := if s = "X" then "x" else s

theorem lowerX_idempotent : Idempotent lowerX := by
  intro s
  unfold lowerX
  split_ifs with h <;> simp [h]

end KaCanOpen.Device
