import KaCanOpen.Primitives

/-!
# Entries sit at their own address

Every entry of `m_dictionary` carries the index and subindex it is stored
under, except the entries `operator[]` default-constructs, which have address
`0sub0` and type `invalid`. Every call keeps this, whatever its arguments and
whether it returns or throws, so it holds in every state the calls reach from a
consistent dictionary. `set_entry` and `get_entry` address the SDO transfer by
the entry's own fields, so this is what makes them reach the object asked for.
-/

set_option autoImplicit false

namespace KaCanOpen.Device

open DeviceM

/-- Every entry sits at its own address, or has type `invalid`. -/
def Addressed (d : Device) : Prop :=
  ∀ a e, d.dictionary.find? a = some e → e.address = a ∨ e.type = .invalid

/-- The consistency of `m_dictionary` and `m_name_to_address`: every address a
name maps to holds an entry, and every entry sits at its own address under a
name that maps to it. -/
structure Consistent (d : Device) : Prop where
  names_resolve : ∀ n a, d.nameToAddress.find? n = some a → d.dictionary.contains a = true
  entries_named : ∀ a e, d.dictionary.find? a = some e →
    e.address = a ∧ d.nameToAddress.find? e.name.toList = some a

theorem Consistent.addressed {d : Device} (h : Consistent d) : Addressed d :=
  fun a e he => .inl (h.entries_named a e he).1

theorem consistent_create (core : Core) (config : Config) (eds : EdsLibrary) (nodeId : UInt8) :
    Consistent (Device.create core config eds nodeId) :=
  ⟨(fun _ _ h => by cases h), fun _ _ h => by cases h⟩

namespace Addressed

variable (escape : String → String)

/-! ## The primitives -/

theorem keeps_entryAt (a : Address) : Keeps Addressed (entryAt a) := by
  intro d hd a' e' he
  rcases StdMap.find?_index_eq_some _ he with h | rfl
  · exact hd a' e' h
  · exact .inr rfl

/-- An update through the dictionary's reference that keeps the entry's address
and type. -/
theorem keeps_modifyEntry (a : Address) {f : Entry → Entry}
    (hf : ∀ e, (f e).address = e.address ∧ (f e).type = e.type) :
    Keeps Addressed (modifyEntry a f) := by
  intro d hd a' e' he
  simp only [modifyEntry, modify_apply, final_ok, StdMap.find?_modify] at he
  split_ifs at he with h
  · subst h
    obtain ⟨e, he0, rfl⟩ := Option.map_eq_some'.1 he
    rw [(hf e).1, (hf e).2]
    exact hd _ e he0
  · exact hd a' e' he

theorem keeps_addEntry (index : UInt16) (subindex : UInt8) (name : String) (type : DataType)
    (accessType : AccessType) :
    Keeps Addressed (addEntry escape index subindex name type accessType) := by
  intro d hd
  simp only [addEntry, bind_apply, get_apply]
  split_ifs <;> simp only [bind_apply, pure_apply, set_apply, throw_apply, final_ok, final_error]
    <;> try exact hd
  rename_i h2
  intro a e he
  have hnone : d.dictionary.find? ⟨index, subindex⟩ = none := by
    simpa [hasEntry, StdMap.contains] using h2
  rw [StdMap.find?_insert _ _ _ _ hnone] at he
  split_ifs at he with ha
  · cases he; exact .inl ha.symm
  · exact hd a e he

theorem keeps_bindReceivePdoMapping (cobId : UInt16) (name : String) (type : DataType)
    (offset : UInt8) (callback : ReceivePDOMapping → PdoCallback) (recordCobId : Bool) :
    Keeps Addressed (bindReceivePdoMapping cobId name type offset callback recordCobId) := by
  refine Keeps.ite (Keeps.throw_bind _ _) (Keeps.pure_bind ?_)
  refine Keeps.bind (Keeps.modify fun _ h => h) fun _ => ?_
  dsimp only
  exact Keeps.ite (Keeps.bind (Keeps.modify fun _ h => h) fun _ => Keeps.modify fun _ h => h)
    (Keeps.pure_bind (Keeps.modify fun _ h => h))

theorem keeps_requestHeartbeat (nodeId : UInt8) (heartbeatInterval : UInt16) (rtr : Bool)
    (state : NmtState) : Keeps Addressed (requestHeartbeat nodeId heartbeatInterval rtr state) :=
  Keeps.ite (Keeps.bind Keeps.get fun _ => Keeps.ite (Keeps.modify fun _ h => h) (Keeps.pure _))
    (Keeps.pure _)

/-- Every primitive update keeps the entries at their own address. -/
theorem primitives : Primitives escape Addressed where
  getEntryViaSdo := keeps_getEntryViaSdo (keeps_sdoTransaction fun _ _ h => h)
    fun _ => Keeps.modify fun _ h => h
  setEntryViaSdo := keeps_setEntryViaSdo (keeps_sdoTransaction fun _ _ h => h)
    fun _ => Keeps.modify fun _ h => h
  send _ := Keeps.modify fun _ h => h
  entryAt := keeps_entryAt
  addressOf _ := fun _ h => h
  modifyEntry a _ hf := keeps_modifyEntry a fun e => ⟨(hf e).1, (hf e).2.1⟩
  addEntry := keeps_addEntry escape
  bindReceivePdoMapping := keeps_bindReceivePdoMapping
  transmitPdoMappings _ := Keeps.modify fun _ h => h
  requestHeartbeat := keeps_requestHeartbeat
  stopRequestHeartbeat := Keeps.modify fun _ h => h

theorem keeps_getEntry (index : UInt16) (subindex : UInt8) (accessMethod : ReadAccessMethod) :
    Keeps Addressed (getEntry escape index subindex accessMethod) :=
  (primitives escape).keeps_getEntry index subindex accessMethod

theorem keeps_setEntry (index : UInt16) (subindex : UInt8) (value : Value)
    (accessMethod : WriteAccessMethod) :
    Keeps Addressed (setEntry escape index subindex value accessMethod) :=
  (primitives escape).keeps_setEntry index subindex value accessMethod

end Addressed

variable (escape : String → String)

/-- Every state the calls reach from states whose entries sit at their own
address has its entries at their own address. -/
theorem addressed_of_reachable {init : Device → Prop} (hinit : ∀ d, init d → Addressed d)
    {d : Device} (h : Reachable escape init d) : Addressed d := by
  induction h with
  | base hd => exact hinit _ hd
  | step c _ ih => exact (Addressed.primitives escape).keeps_exec c _ ih

end KaCanOpen.Device
