import KaCanOpen.LastWriter
import KaCanOpen.Failures

/-!
# The dictionary invariant over every run

`add_entry` is the one call that adds names and entries, and it keeps the
dictionary consistent. The by-index overloads of `add_receive_pdo_mapping` and
`add_transmit_pdo_mapping` index `m_dictionary` with `operator[]`, which stores a
default entry at an address nobody added. Every other call, returning or
throwing, leaves the names, each entry's name and address and the callbacks
registered with the core as they were, and the receive mappings register only
callbacks whose names resolve. So, with `Utils::escape` idempotent, a consistent
dictionary with escaped names whose device callbacks name entries stays so over
every run in which the by-index overloads name addresses that hold an entry.
-/

set_option autoImplicit false

namespace KaCanOpen.Device

open DeviceM

variable (escape : String → String)

/-- A consistent dictionary with escaped names, whose callbacks bound to the
device name entries. -/
structure Sound (d : Device) extends Wf escape d : Prop where
  bound : Bound escape d

/-- `s'` has the shape of `s`, and the core holds the callbacks it held. -/
structure Steady (s s' : Device) extends SameShape s s' : Prop where
  callbacks : s'.core.pdoCallbacks = s.core.pdoCallbacks

theorem Steady.refl (s : Device) : Steady s s := ⟨SameShape.refl s, rfl⟩

theorem Steady.trans {s₁ s₂ s₃ : Device} (h₁ : Steady s₁ s₂) (h₂ : Steady s₂ s₃) : Steady s₁ s₃ :=
  ⟨h₁.toSameShape.trans h₂.toSameShape, h₂.callbacks.trans h₁.callbacks⟩

theorem Sound.of_steady {escape} {s s' : Device} (hs : Sound escape s) (h : Steady s s') :
    Sound escape s' :=
  ⟨hs.toWf.of_sameShape h.toSameShape, hs.bound.of_sameShape h.toSameShape h.callbacks⟩

/-- A call ends in a sound state when each of its outcomes does. -/
theorem Sound.of_outcomes {escape} {α : Type} {x : DeviceM α} {d : Device}
    (hok : ∀ a d', x d = .ok a d' → Sound escape d')
    (herr : ∀ e d', x d = .error e d' → Sound escape d') : Sound escape (final (x d)) := by
  cases h : x d with
  | ok a d' => exact hok a d' h
  | error e d' => exact herr e d' h

/-! ## Accesses that keep the shape -/

theorem steady_sending_withValue (s : Device) (a : Address) (v : Value) (ms : List Message) :
    Steady s (sending (withValue s a v) ms) :=
  ⟨(sameShape_withValue s a v).trans (sameShape_sending _ ms), rfl⟩

theorem steady_getEntryViaSdo (index : UInt16) (subindex : UInt8) (type : DataType) (d : Device) :
    Steady d (final (getEntryViaSdo index subindex type d)) := by
  obtain ⟨log, trace, h⟩ := getEntryViaSdo_frame index subindex type d
  rw [h]
  exact ⟨⟨rfl, fun _ => rfl⟩, rfl⟩

theorem steady_setEntryViaSdo (index : UInt16) (subindex : UInt8) (value : Value) (d : Device) :
    Steady d (final (setEntryViaSdo index subindex value d)) := by
  rw [setEntryViaSdo_eq]
  dsimp only
  rcases retry _ _ _ with ⟨m, last | bs⟩ <;> exact ⟨⟨rfl, fun _ => rfl⟩, rfl⟩

theorem steady_getEntry (index : UInt16) (subindex : UInt8) (accessMethod : ReadAccessMethod)
    (d : Device) : Steady d (final (getEntry escape index subindex accessMethod d)) := by
  rw [getEntry_eq]
  split
  · exact Steady.refl d
  · next e he =>
    split_ifs
    · have h := steady_getEntryViaSdo e.index e.subindex e.type d
      split
      · next v d₁ hv => rw [hv] at h; exact h.trans (steady_sending_withValue _ _ _ _)
      · next x d₁ hv => rw [hv] at h; exact h
    · exact Steady.refl d

theorem steady_setEntry (index : UInt16) (subindex : UInt8) (value : Value)
    (accessMethod : WriteAccessMethod) (d : Device) :
    Steady d (final (setEntry escape index subindex value accessMethod d)) := by
  rw [setEntry_eq]
  split
  · exact Steady.refl d
  · dsimp only
    split_ifs
    · exact Steady.refl d
    · exact (steady_sending_withValue _ _ _ _).trans (steady_setEntryViaSdo _ _ _ _)
    · exact steady_sending_withValue _ _ _ _

theorem getEntryType_final (index : UInt16) (subindex : UInt8) (d : Device) :
    final (getEntryType index subindex d) = d := by
  cases h : d.dictionary.find? ⟨index, subindex⟩ with
  | none => simp [getEntryType, hasEntry_of_find_none h]
  | some e => simp [getEntryType, hasEntry_of_find h, entryAt_of_find h]

section ByName

variable {escape} (hid : Idempotent escape) {d : Device} (hd : Consistent d)
include hid hd

theorem steady_getEntryByName (entryName : String) (accessMethod : ReadAccessMethod) :
    Steady d (final (getEntryByName escape entryName accessMethod d)) := by
  rw [getEntryByName_eq hid hd]
  split
  · exact Steady.refl d
  · exact steady_getEntry escape _ _ _ d

theorem steady_setEntryByName (entryName : String) (value : Value)
    (accessMethod : WriteAccessMethod) :
    Steady d (final (setEntryByName escape entryName value accessMethod d)) := by
  rw [setEntryByName_eq hid hd]
  split
  · exact Steady.refl d
  · exact steady_setEntry escape _ _ _ _ d

theorem getEntryTypeByName_final (entryName : String) :
    final (getEntryTypeByName escape entryName d) = d := by
  rw [getEntryTypeByName_eq hid hd]
  split <;> rfl

end ByName

/-! ## Computations that keep the shape of an earlier state

`Shaped d₀` holds of the sound states with the shape of `d₀`. A computation
that keeps it for every `d₀` keeps soundness and the shape, so the combinators
of `Keeps` carry both through the composite functions. -/

/-- Sound, with the shape of `d₀`. -/
def Shaped (d₀ d : Device) : Prop := Sound escape d ∧ Steady d₀ d

theorem keeps_shaped {α : Type} {x : DeviceM α} (h : ∀ d, Sound escape d → Steady d (final (x d)))
    (d₀ : Device) : Keeps (Shaped escape d₀) x :=
  fun d ⟨hs, h₀⟩ => ⟨hs.of_steady (h d hs), h₀.trans (h d hs)⟩

/-- An update of fields the invariant does not read. -/
theorem keeps_shaped_modify (d₀ : Device) {f : Device → Device} (hf : ∀ d, Steady d (f d)) :
    Keeps (Shaped escape d₀) (modify f) :=
  Keeps.modify fun d hd => ⟨hd.1.of_steady (hf d), hd.2.trans (hf d)⟩

theorem keeps_shaped_send (d₀ : Device) (m : Message) : Keeps (Shaped escape d₀) (send m) :=
  keeps_shaped_modify escape d₀ fun _ => ⟨⟨rfl, fun _ => rfl⟩, rfl⟩

theorem keeps_shaped_getEntry (d₀ : Device) (index : UInt16) (subindex : UInt8)
    (accessMethod : ReadAccessMethod) :
    Keeps (Shaped escape d₀) (getEntry escape index subindex accessMethod) :=
  keeps_shaped escape (fun d _ => steady_getEntry escape index subindex accessMethod d) d₀

theorem keeps_shaped_setEntry (d₀ : Device) (index : UInt16) (subindex : UInt8) (value : Value)
    (accessMethod : WriteAccessMethod) :
    Keeps (Shaped escape d₀) (setEntry escape index subindex value accessMethod) :=
  keeps_shaped escape (fun d _ => steady_setEntry escape index subindex value accessMethod d) d₀

theorem keeps_shaped_modifyEntry (d₀ : Device) (a : Address) {f : Entry → Entry}
    (hf : ∀ e, (f e).name = e.name ∧ (f e).address = e.address) :
    Keeps (Shaped escape d₀) (modifyEntry a f) :=
  keeps_shaped_modify escape d₀ fun d => ⟨sameShape_modify d a hf, rfl⟩

/-- The body of the loop of `read_complete_dictionary`, at a key of `d₀`. -/
theorem keeps_shaped_readEntry {escape} (hid : Idempotent escape) {d₀ : Device} {a : Address}
    (ha : d₀.dictionary.contains a = true) : Keeps (Shaped escape d₀) (readEntry escape a) := by
  refine Keeps.bind (fun d hd => ?_) fun e => Keeps.catchSdo (Keeps.discard
    (keeps_shaped escape (fun d hd => steady_getEntryByName hid hd.toConsistent _ _) d₀))
    fun _ => keeps_shaped_modifyEntry escape d₀ a fun _ => ⟨rfl, rfl⟩
  have hc : d.dictionary.contains a = true := (hd.2.contains a).trans ha
  obtain ⟨e, he⟩ := Option.isSome_iff_exists.1 hc
  rw [entryAt_of_find he]
  exact hd

theorem keeps_shaped_readEntries {escape} (hid : Idempotent escape) {d₀ : Device} :
    ∀ {as : List Address}, (∀ a ∈ as, d₀.dictionary.contains a = true) →
      Keeps (Shaped escape d₀) (readEntries escape as)
  | [], _ => Keeps.pure _
  | a::_, h => Keeps.bind (keeps_shaped_readEntry hid (h a (List.mem_cons_self _ _))) fun _ =>
      keeps_shaped_readEntries hid fun b hb => h b (List.mem_cons_of_mem _ hb)

theorem steady_readCompleteDictionary {escape} (hid : Idempotent escape) {d : Device}
    (hd : Sound escape d) : Steady d (final (readCompleteDictionary escape d)) := by
  simp only [readCompleteDictionary, bind_apply, get_apply]
  exact (keeps_shaped_readEntries hid (fun a ha => (StdMap.mem_keys _ a).1 ha) d
    ⟨hd, Steady.refl d⟩).2

theorem keeps_shaped_installTransmitPdoMapping (d₀ : Device) (cobId : UInt16)
    (mappings : List Mapping) (transmissionType : TransmissionType) (repeatTime : Nat) :
    Keeps (Shaped escape d₀)
      (installTransmitPdoMapping escape cobId mappings transmissionType repeatTime) :=
  keeps_installTransmitPdoMapping escape (fun _ _ => keeps_shaped_modifyEntry escape d₀ _ fun _ => ⟨rfl, rfl⟩)
    (fun _ => keeps_shaped_modify escape d₀ fun _ => ⟨⟨rfl, fun _ => rfl⟩, rfl⟩) _ _ _ _

theorem keeps_shaped_requestHeartbeat (d₀ : Device) (nodeId : UInt8) (heartbeatInterval : UInt16)
    (rtr : Bool) (state : NmtState) :
    Keeps (Shaped escape d₀) (requestHeartbeat nodeId heartbeatInterval rtr state) :=
  Keeps.ite (Keeps.bind Keeps.get fun _ => Keeps.ite
    (keeps_shaped_modify escape d₀ fun _ => ⟨⟨rfl, fun _ => rfl⟩, rfl⟩) (Keeps.pure _)) (Keeps.pure _)

theorem keeps_shaped_heartbeatTick (d₀ : Device) : Keeps (Shaped escape d₀) heartbeatTick :=
  keeps_heartbeatTick (keeps_shaped_send escape d₀)

theorem keeps_shaped_periodicTick (d₀ : Device) (k : Nat) :
    Keeps (Shaped escape d₀) (periodicTick escape k) :=
  keeps_periodicTick escape (keeps_shaped_send escape d₀) k

/-! ## Every call, and every run -/

theorem Bound.of_addEntry {escape} {d d' : Device} (hb : Bound escape d) {index : UInt16}
    {subindex : UInt8} {name : String} {type : DataType} {accessType : AccessType}
    (h : addEntry escape index subindex name type accessType d = .ok () d') : Bound escape d' := by
  obtain ⟨hn, -, rfl⟩ := addEntry_ok escape h
  intro c m hm
  simp only [findAddress, StdMap.find?_insert _ _ _ _ hn]
  split_ifs
  · rfl
  · exact hb c m hm


/-- The calls that index `m_dictionary` only where it holds an entry: the
by-index overloads of the PDO mappings on addresses that hold one, and every
other call. -/
def Call.OnEntries (d : Device) : Call → Prop
  | .addReceivePdoMappingAt _ i s _ => d.dictionary.contains ⟨i, s⟩ = true
  | .addTransmitPdoMappingAt _ is _ _ =>
    ∀ i ∈ is, d.dictionary.contains ⟨i.entryIndex, i.entrySubindex⟩ = true
  | _ => True

/-- One call from a sound state, on entries, ends in a sound state, whether it
returns or throws. -/
theorem Sound.exec {escape} (hid : Idempotent escape) {d : Device} (hd : Sound escape d)
    (c : Call) (hc : c.OnEntries d) : Sound escape (final (c.exec escape d)) := by
  have shaped : ∀ {α : Type} {x : DeviceM α}, (∀ d₀, Keeps (Shaped escape d₀) x) →
      Sound escape (final (x d)) := fun h => (h d d ⟨hd, Steady.refl d⟩).1
  cases c with
  | addEntry =>
    refine Sound.of_outcomes (fun _ _ h => ⟨hd.toWf.of_addEntry hid h, hd.bound.of_addEntry h⟩)
      fun _ _ h => ?_
    rw [addEntry_error escape h]
    exact hd
  | getEntryType =>
    exact shaped fun d₀ => Keeps.discard (keeps_shaped escape
      (fun d' _ => by rw [getEntryType_final]; exact Steady.refl d') d₀)
  | getEntryTypeByName =>
    exact shaped fun d₀ => Keeps.discard (keeps_shaped escape
      (fun d' hd' => by rw [getEntryTypeByName_final hid hd'.toConsistent]; exact Steady.refl d') d₀)
  | getEntry => exact shaped fun d₀ => Keeps.discard (keeps_shaped_getEntry escape d₀ _ _ _)
  | getEntryByName =>
    exact shaped fun d₀ => Keeps.discard
      (keeps_shaped escape (fun d' hd' => steady_getEntryByName hid hd'.toConsistent _ _) d₀)
  | setEntry => exact shaped fun d₀ => keeps_shaped_setEntry escape d₀ _ _ _ _
  | setEntryByName =>
    exact shaped (keeps_shaped escape fun d' hd' => steady_setEntryByName hid hd'.toConsistent _ _ _)
  | addReceivePdoMapping =>
    refine Sound.of_outcomes (fun _ _ h => ?_)
      fun _ _ h => addReceivePdoMapping_error hid hd.toConsistent h ▸ hd
    obtain ⟨h₁, -, h₃⟩ := addReceivePdoMapping_value hid hd.toWf hd.bound h
    exact ⟨hd.toWf.of_sameShape h₁, h₃⟩
  | addReceivePdoMappingWith =>
    refine Sound.of_outcomes (fun _ _ h => ?_)
      fun _ _ h => addReceivePdoMappingWith_error hid hd.toConsistent h ▸ hd
    obtain ⟨h₁, -, h₃⟩ := addReceivePdoMappingWith_value hid hd.toWf hd.bound h
    exact ⟨hd.toWf.of_sameShape h₁, h₃⟩
  | addReceivePdoMappingAt =>
    refine Sound.of_outcomes (fun _ _ h => ?_) fun _ _ h => addReceivePdoMappingAt_error hc h ▸ hd
    obtain ⟨h₁, -, h₃⟩ := addReceivePdoMappingAt_value hd.toWf hd.bound hc h
    exact ⟨hd.toWf.of_sameShape h₁, h₃⟩
  | addTransmitPdoMapping =>
    exact shaped fun d₀ => keeps_shaped_installTransmitPdoMapping escape d₀ _ _ _ _
  | addTransmitPdoMappingAt c is t r =>
    obtain ⟨ms, hms⟩ := mappingsOf_ok hc
    simp only [Call.exec, addTransmitPdoMappingAt, bind_apply, hms]
    exact shaped fun d₀ => keeps_shaped_installTransmitPdoMapping escape d₀ _ _ _ _
  | deliver k data =>
    obtain ⟨d', h, h₁, -, h₃⟩ := deliverAt_value escape k data hd.toConsistent hd.bound
    show Sound escape (final (deliverAt escape k data d))
    rw [h]
    exact hd.of_steady ⟨h₁, h₃⟩
  | readCompleteDictionary => exact hd.of_steady (steady_readCompleteDictionary hid hd)
  | getDeviceProfileNumber =>
    exact shaped fun d₀ => Keeps.discard
      (keeps_getDeviceProfileNumber escape (keeps_shaped_getEntry escape d₀))
  | remap r fuel =>
    rw [Call.exec, PdoRemap.run_eq]
    exact shaped fun d₀ => Keeps.discard (keeps_mapPdoInDevice escape
      (keeps_shaped_getEntry escape d₀) (keeps_shaped_setEntry escape d₀) _ _ _ _ _ _)
  | requestHeartbeat => exact shaped fun d₀ => keeps_shaped_requestHeartbeat escape d₀ _ _ _ _
  | stopRequestHeartbeat =>
    exact shaped fun d₀ => keeps_shaped_modify escape d₀ fun _ => ⟨⟨rfl, fun _ => rfl⟩, rfl⟩
  | heartbeatTick => exact shaped (keeps_shaped_heartbeatTick escape)
  | periodicTick k => exact shaped fun d₀ => keeps_shaped_periodicTick escape d₀ k
  | start =>
    exact shaped fun d₀ => keeps_start escape (keeps_shaped_getEntry escape d₀)
      (Keeps.bind Keeps.get fun _ => keeps_shaped_send escape d₀ _)

/-- A run of calls, each on entries in the state it starts from. -/
def OnEntries : List Call → Device → Prop
  | [], _ => True
  | c::cs, d => c.OnEntries d ∧ OnEntries cs (final (c.exec escape d))

/-- The dictionary invariant is kept by every run whose by-index PDO mappings
name addresses that hold an entry, whether its calls return or throw. -/
theorem run_on_entries_stays_sound (hid : Idempotent escape) {cs : List Call} {d : Device}
    (hd : Sound escape d) (hcs : OnEntries escape cs d) : Sound escape (run escape cs d) := by
  induction cs generalizing d with
  | nil => exact hd
  | cons c cs ih => exact ih (hd.exec hid c hcs.1) hcs.2

/-- The entry `x`, a receive mapping on its address, and a payload for it. -/
def onEntriesRun : List Call :=
  [.addEntry 0x6000 0 "x" .uint8 .readWrite, .addReceivePdoMappingAt 0x181 0x6000 0 0, .deliver 0 [7]]

theorem run_on_entries_stays_sound_x : Sound id (run id onEntriesRun emptyDevice) :=
  run_on_entries_stays_sound id (fun _ => rfl) ⟨wf_create _ _ _ _ _, fun _ _ h => by cases h⟩
    ⟨trivial, rfl, trivial, trivial⟩

end KaCanOpen.Device
