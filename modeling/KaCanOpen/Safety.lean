import KaCanOpen.Names

/-!
# What no run of calls does

No run takes back a frame, an SDO request, a callback, an entry or a name, and
every SDO request goes to the device's own node, `m_node_id`.
-/

set_option autoImplicit false

namespace KaCanOpen.Device

open DeviceM

variable (escape : String → String)

/-- The parts of `d'` that calls only add to extend those of `d`. -/
structure Extends (d d' : Device) : Prop where
  sent : d.core.sent <+: d'.core.sent
  sdoLog : d.core.sdoLog <+: d'.core.sdoLog
  pdoCallbacks : d.core.pdoCallbacks <+: d'.core.pdoCallbacks
  cobIds : d.cobIds <+: d'.cobIds
  receivePdoMappings : d.receivePdoMappings <:+ d'.receivePdoMappings
  entries : ∀ a e, d.dictionary.find? a = some e →
    ∃ e', d'.dictionary.find? a = some e' ∧ e'.type = e.type ∧ e.callbacks <+: e'.callbacks
  names : ∀ n a, d.nameToAddress.find? n = some a → d'.nameToAddress.find? n = some a

namespace Extends

theorem refl (d : Device) : Extends d d :=
  ⟨List.prefix_refl _, List.prefix_refl _, List.prefix_refl _, List.prefix_refl _,
    List.suffix_refl _, fun _ e he => ⟨e, he, rfl, List.prefix_refl _⟩, fun _ _ h => h⟩

theorem trans {d₁ d₂ d₃ : Device} (h₁ : Extends d₁ d₂) (h₂ : Extends d₂ d₃) : Extends d₁ d₃ where
  sent := h₁.sent.trans h₂.sent
  sdoLog := h₁.sdoLog.trans h₂.sdoLog
  pdoCallbacks := h₁.pdoCallbacks.trans h₂.pdoCallbacks
  cobIds := h₁.cobIds.trans h₂.cobIds
  receivePdoMappings := h₁.receivePdoMappings.trans h₂.receivePdoMappings
  entries a e he := by
    obtain ⟨e₂, he₂, ht₂, hp₂⟩ := h₁.entries a e he
    obtain ⟨e₃, he₃, ht₃, hp₃⟩ := h₂.entries a e₂ he₂
    exact ⟨e₃, he₃, ht₃.trans ht₂, hp₂.trans hp₃⟩
  names n a h := h₂.names n a (h₁.names n a h)

theorem lookup {d d' : Device} (h : Extends d d') {name : String} {e : Entry}
    (hl : Device.lookup d name = some e) :
    ∃ e', Device.lookup d' name = some e' ∧ e'.type = e.type ∧ e.callbacks <+: e'.callbacks := by
  obtain ⟨a, ha, he⟩ := Option.bind_eq_some.1 hl
  obtain ⟨e', he', hrest⟩ := h.entries a e he
  exact ⟨e', Option.bind_eq_some.2 ⟨a, h.names _ a ha, he'⟩, hrest⟩

theorem of_maps {d₀ d : Device} (h : Extends d₀ d) {dictionary : StdMap Address Entry}
    {nameToAddress : StdMap (List Char) Address}
    (hdict : ∀ a e, d.dictionary.find? a = some e → dictionary.find? a = some e)
    (hnames : ∀ n a, d.nameToAddress.find? n = some a → nameToAddress.find? n = some a) :
    Extends d₀ { d with dictionary := dictionary, nameToAddress := nameToAddress } :=
  { h with
    entries := fun a e he => by
      obtain ⟨e', he', hrest⟩ := h.entries a e he
      exact ⟨e', hdict a e' he', hrest⟩
    names := fun n a hn => hnames n a (h.names n a hn) }

end Extends

variable (d₀ : Device)

theorem extends_sdoTransaction (req : SdoRequest) : Keeps (Extends d₀) (sdoTransaction req) := by
  intro d hd
  simp only [sdoTransaction]
  split <;> exact { hd with sdoLog := hd.sdoLog.trans (List.prefix_append _ _) }

theorem extends_primitives : Primitives escape (Extends d₀) where
  getEntryViaSdo :=
    keeps_getEntryViaSdo (extends_sdoTransaction d₀) fun _ => Keeps.modify fun _ h => { h with }
  setEntryViaSdo :=
    keeps_setEntryViaSdo (extends_sdoTransaction d₀) fun _ => Keeps.modify fun _ h => { h with }
  send _ := Keeps.modify fun _ h => { h with sent := h.sent.trans (List.prefix_append _ _) }
  entryAt a d h := h.of_maps (fun _ _ => StdMap.find?_index_of_some _ a _) fun _ _ h => h
  addressOf name d h := h.of_maps (fun _ _ h => h) fun _ _ => StdMap.find?_index_of_some _ name.toList _
  modifyEntry a f hf := Keeps.modify fun d h => { h with
    entries := fun a' e he => by
      obtain ⟨e', he', ht, hp⟩ := h.entries a' e he
      simp only [StdMap.find?_modify]
      split_ifs with ha
      · subst ha
        rw [he']
        exact ⟨f e', rfl, (hf e').2.1.trans ht, hp.trans (hf e').2.2⟩
      · exact ⟨e', he', ht, hp⟩ }
  addEntry index subindex name type accessType d hd := by
    cases h : addEntry escape index subindex name type accessType d with
    | ok _ d' =>
      obtain ⟨-, -, rfl⟩ := addEntry_ok escape h
      exact hd.of_maps (fun _ _ => StdMap.find?_insert_of_some _ _ _)
        fun _ _ => StdMap.find?_insert_of_some _ _ _
    | error _ d' =>
      obtain rfl := addEntry_error escape h
      exact hd
  bindReceivePdoMapping cobId name type offset callback recordCobId d hd := by
    rw [bindReceivePdoMapping_eq]
    split_ifs
    · exact hd
    · refine { hd with
        pdoCallbacks := hd.pdoCallbacks.trans (List.prefix_append _ _)
        cobIds := ?_
        receivePdoMappings := hd.receivePdoMappings.trans (List.suffix_cons _ _) }
      cases recordCobId
      · exact hd.cobIds
      · exact hd.cobIds.trans (List.prefix_append _ _)
  transmitPdoMappings _ := Keeps.modify fun _ h => { h with }
  requestHeartbeat _ _ _ _ := Keeps.ite (Keeps.bind Keeps.get fun _ =>
    Keeps.ite (Keeps.modify fun _ h => { h with }) (Keeps.pure _)) (Keeps.pure _)
  stopRequestHeartbeat := Keeps.modify fun _ h => { h with }

/-- No run of calls removes or reorders a sent frame, an SDO request, a PDO
callback registered with the core, a recorded COB-ID or a receive mapping;
drops an entry, changes its type or removes one of its value-changed callbacks;
or drops a name from the name index or moves it to another address. -/
theorem run_only_extends (cs : List Call) (d : Device) : Extends d (run escape cs d) :=
  (extends_primitives escape d).keeps_run cs (Extends.refl d)

/-! ## SDO goes to the device's own node -/

/-- The node an SDO request is addressed to. -/
def sdoNode : SdoRequest → UInt8
  | .upload node .. | .download node .. => node

/-- `d` has `d₀`'s node ID, and its SDO log is `d₀`'s followed by requests to
that node. -/
def SdoToOwnNode (d₀ d : Device) : Prop :=
  d.nodeId = d₀.nodeId ∧
    ∃ new, d.core.sdoLog = d₀.core.sdoLog ++ new ∧ ∀ req ∈ new, sdoNode req = d₀.nodeId

theorem sdoToOwnNode_logged {d : Device} (hd : SdoToOwnNode d₀ d) {req : SdoRequest}
    (hreq : sdoNode req = d.nodeId) (m : Nat) : SdoToOwnNode d₀ (logged d req m) := by
  obtain ⟨hnode, new, hlog, hnew⟩ := hd
  refine ⟨hnode, new ++ List.replicate m req, by simp only [logged, hlog, List.append_assoc], ?_⟩
  intro r hr
  rcases List.mem_append.1 hr with hr | hr
  · exact hnew r hr
  · rw [List.eq_of_mem_replicate hr, hreq, hnode]

theorem sdoToOwnNode_primitives : Primitives escape (SdoToOwnNode d₀) where
  getEntryViaSdo index subindex type d hd := by
    rw [getEntryViaSdo_eq]
    dsimp only
    generalize retry _ _ _ = r
    rcases r with ⟨m, last | bs⟩
    · exact sdoToOwnNode_logged d₀ hd (by rfl) m
    · dsimp only
      cases Value.ofBytes type bs <;> exact sdoToOwnNode_logged d₀ hd (by rfl) m
  setEntryViaSdo index subindex value d hd := by
    rw [setEntryViaSdo_eq]
    dsimp only
    generalize retry _ _ _ = r
    rcases r with ⟨m, last | bs⟩ <;> exact sdoToOwnNode_logged d₀ hd (by rfl) m
  send _ := Keeps.modify fun _ h => h
  entryAt _ _ h := h
  addressOf _ _ h := h
  modifyEntry _ _ _ := Keeps.modify fun _ h => h
  addEntry := keeps_addEntry_of_maps escape fun _ _ _ h => h
  bindReceivePdoMapping _ _ _ _ _ _ d hd := by
    rw [bindReceivePdoMapping_eq]
    split_ifs <;> exact hd
  transmitPdoMappings _ := Keeps.modify fun _ h => h
  requestHeartbeat _ _ _ _ := Keeps.ite (Keeps.bind Keeps.get fun _ =>
    Keeps.ite (Keeps.modify fun _ h => h) (Keeps.pure _)) (Keeps.pure _)
  stopRequestHeartbeat := Keeps.modify fun _ h => h

/-- Every SDO request a run of calls makes is addressed to the device's own node. -/
theorem run_sdo_requests_own_node (cs : List Call) (d : Device) :
    ∃ new, (run escape cs d).core.sdoLog = d.core.sdoLog ++ new ∧
      ∀ req ∈ new, sdoNode req = d.nodeId :=
  ((sdoToOwnNode_primitives escape d).keeps_run cs
    ⟨rfl, [], (List.append_nil _).symm, fun _ h => absurd h (List.not_mem_nil _)⟩).2

end KaCanOpen.Device
