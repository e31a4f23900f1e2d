import KaCanOpen.LastWriter

/-!
# The cache holds values of the entries' types

The three functions that cache a value cache one of the entry's type, and every
other update keeps values and types: no run leaves a value of another type.
-/

set_option autoImplicit false

namespace KaCanOpen

/-- The entry's cached value is empty or of the entry's type. -/
def Entry.Typed (e : Entry) : Prop := e.value = Value.empty ∨ e.value.type = e.type

end KaCanOpen

namespace KaCanOpen.Device

open DeviceM

variable (escape : String → String)

/-- Every entry of the dictionary caches a value of its own type, or none. -/
def CacheTyped (d : Device) : Prop := ∀ a e, d.dictionary.find? a = some e → e.Typed

theorem CacheTyped.of_dictionary {d d' : Device} (hd : CacheTyped d)
    (h : d'.dictionary = d.dictionary) : CacheTyped d' := fun a e he => hd a e (h ▸ he)

theorem CacheTyped.withValue {d : Device} (hd : CacheTyped d) {a : Address} {e : Entry}
    (he : d.dictionary.find? a = some e) {v : Value} (hv : v.type = e.type) :
    CacheTyped (withValue d a v) := by
  intro a' e' he'
  rw [find?_withValue] at he'
  split_ifs at he' with ha
  · subst ha
    rw [he, Option.map_some', Option.some_inj] at he'
    subst he'
    exact .inr hv
  · exact hd a' e' he'

/-! ## The three functions that cache a value -/

section Caching

variable {P : Device → Prop}

/-- `P` survives `Entry::set_value` of a value of the entry's type: the value
cached at an address holding the entry and the frames of its callbacks sent. -/
def KeptByCaching (P : Device → Prop) : Prop :=
  ∀ d a e v, P d → d.dictionary.find? a = some e → v.type = e.type →
    P (sending (withValue d a v) (callbackFrames escape (withValue d a v) e.callbacks))

theorem keeps_getEntry_of_caching
    (hsdo : ∀ index subindex type, Keeps P (getEntryViaSdo index subindex type))
    (hcache : KeptByCaching escape P) (index : UInt16) (subindex : UInt8)
    (accessMethod : ReadAccessMethod) : Keeps P (getEntry escape index subindex accessMethod) := by
  intro d hd
  rw [getEntry_eq]
  split
  · exact hd
  · next e he =>
    split_ifs
    · cases hv : getEntryViaSdo e.index e.subindex e.type d with
      | ok v d₁ =>
        -- the upload builds the value from the entry's type and leaves the dictionary
        obtain ⟨log, trace, hf⟩ := getEntryViaSdo_frame e.index e.subindex e.type d
        rw [hv, final_ok] at hf
        exact hcache d₁ _ e v ((hsdo _ _ _).of_ok hd hv) (by rw [hf]; exact he) (getEntryViaSdo_ok hv).1
      | error x d₁ =>
        have hd₁ := hsdo e.index e.subindex e.type d hd
        rw [hv] at hd₁
        exact hd₁
    · exact hd

theorem keeps_setEntry_of_caching
    (hsdo : ∀ index subindex value, Keeps P (setEntryViaSdo index subindex value))
    (hcache : KeptByCaching escape P) (index : UInt16) (subindex : UInt8) (value : Value)
    (accessMethod : WriteAccessMethod) : Keeps P (setEntry escape index subindex value accessMethod) := by
  intro d hd
  rw [setEntry_eq]
  split
  · exact hd
  · next e he =>
    split_ifs with ht
    · exact hd
    -- `set_entry` has checked the value's type against the entry's
    all_goals have hd₁ := hcache d _ e value hd he (not_not.1 ht)
    · exact hsdo _ _ _ _ hd₁
    · exact hd₁

theorem entryAt_ok {a : Address} {d d' : Device} {e : Entry} (h : entryAt a d = .ok e d') :
    d'.dictionary.find? a = some e ∧ d'.nameToAddress = d.nameToAddress ∧
      ∀ a' e', d'.dictionary.find? a' = some e' → d.dictionary.find? a' = some e' ∨ e' = Entry.blank := by
  simp only [entryAt, EStateM.Result.ok.injEq] at h
  obtain ⟨rfl, rfl⟩ := h
  exact ⟨StdMap.find?_index_self _ _ _, rfl, fun _ _ => StdMap.find?_index_eq_some _⟩

theorem addressOf_ok {name : String} {d d' : Device} {a : Address} (h : addressOf name d = .ok a d') :
    findAddress d' name = some a ∧ d'.dictionary = d.dictionary := by
  simp only [addressOf, EStateM.Result.ok.injEq] at h
  obtain ⟨rfl, rfl⟩ := h
  exact ⟨StdMap.find?_index_self _ _ _, rfl⟩

theorem addEntry_entries {index : UInt16} {subindex : UInt8} {name : String} {type : DataType}
    {accessType : AccessType} {d d' : Device}
    (h : addEntry escape index subindex name type accessType d = .ok () d') (a : Address) (e : Entry)
    (he : d'.dictionary.find? a = some e) :
    d.dictionary.find? a = some e ∨ e = Entry.make index subindex (escape name) type accessType := by
  obtain ⟨-, -, rfl⟩ := addEntry_ok escape h
  simp only [StdMap.find?_insert_eq_orElse] at he
  cases hf : d.dictionary.find? a with
  | some e' => rw [hf] at he; exact .inl he
  | none =>
    rw [hf] at he
    split_ifs at he <;> cases he
    exact .inr rfl

theorem pdoReceivedCallback_lookups (mapping : ReceivePDOMapping) (data : List UInt8) (d : Device) :
    ∃ a s₁ e s, addressOf (escape mapping.entryName) d = .ok a s₁ ∧ entryAt a s₁ = .ok e s ∧
      findAddress s (escape mapping.entryName) = some a ∧ s.dictionary.find? a = some e ∧
      pdoReceivedCallback escape mapping data d = pdoReceivedCallback escape mapping data s := by
  obtain ⟨a, s₁, h₁⟩ : ∃ a s₁, addressOf (escape mapping.entryName) d = .ok a s₁ := ⟨_, _, rfl⟩
  obtain ⟨e, s, h₂⟩ : ∃ e s, entryAt a s₁ = .ok e s := ⟨_, _, rfl⟩
  obtain ⟨he, hnames, -⟩ := entryAt_ok h₂
  have ha : findAddress s (escape mapping.entryName) = some a := by
    rw [findAddress, hnames]; exact (addressOf_ok h₁).1
  refine ⟨a, s₁, e, s, h₁, h₂, ha, he, ?_⟩
  simp only [pdoReceivedCallback, bind_apply, h₁, h₂, addressOf_of_find ha, entryAt_of_find he]

theorem keeps_pdoReceivedCallback_of_caching (haddr : ∀ name, Keeps P (addressOf name))
    (hentry : ∀ a, Keeps P (entryAt a)) (hcache : KeptByCaching escape P)
    (mapping : ReceivePDOMapping) (data : List UInt8) :
    Keeps P (pdoReceivedCallback escape mapping data) := by
  intro d hd
  obtain ⟨a, s₁, e, s, h₁, h₂, ha, he, hcall⟩ := pdoReceivedCallback_lookups escape mapping data d
  have hs : P s := (hentry a).of_ok ((haddr _).of_ok hd h₁) h₂
  rw [hcall, pdoReceivedCallback_eq escape ha he]
  split_ifs
  · exact hcache s a e _ hs he rfl
  · exact hs

end Caching

/-! ## The cache stays typed -/

theorem cacheTyped_caching : KeptByCaching escape CacheTyped :=
  fun _ _ _ _ hd he hv => (hd.withValue he hv).of_dictionary rfl

theorem cacheTyped_entryAt (a : Address) : Keeps CacheTyped (entryAt a) := fun d hd a' e' he' => by
  rcases (@entryAt_ok a d _ _ rfl).2.2 a' e' he' with he | rfl
  · exact hd a' e' he
  · exact .inl rfl

theorem cacheTyped_addressOf (name : String) : Keeps CacheTyped (addressOf name) :=
  fun d hd => hd.of_dictionary (@addressOf_ok name d _ _ rfl).2

theorem cacheTyped_modifyEntry (a : Address) {f : Entry → Entry}
    (hf : ∀ e, (f e).type = e.type ∧ (f e).value = e.value) : Keeps CacheTyped (modifyEntry a f) :=
  Keeps.modify fun d hd a' e' he' => by
    rw [StdMap.find?_modify] at he'
    split_ifs at he'
    · obtain ⟨e, he, rfl⟩ := Option.map_eq_some'.1 he'
      unfold Entry.Typed
      rw [(hf e).1, (hf e).2]
      exact hd _ e he
    · exact hd a' e' he'

theorem cacheTyped_accesses : Accesses escape CacheTyped where
  getEntry := keeps_getEntry_of_caching escape
    (keeps_getEntryViaSdo (keeps_sdoTransaction fun _ _ h => h) fun _ => Keeps.modify fun _ h => h)
    (cacheTyped_caching escape)
  setEntry := keeps_setEntry_of_caching escape
    (keeps_setEntryViaSdo (keeps_sdoTransaction fun _ _ h => h) fun _ => Keeps.modify fun _ h => h)
    (cacheTyped_caching escape)
  pdoReceivedCallback := keeps_pdoReceivedCallback_of_caching escape cacheTyped_addressOf
    cacheTyped_entryAt (cacheTyped_caching escape)
  installTransmitPdoMapping := keeps_installTransmitPdoMapping escape
    (fun _ a => cacheTyped_modifyEntry a fun _ => ⟨rfl, rfl⟩) fun _ => Keeps.modify fun _ h => h
  markDisabled a := cacheTyped_modifyEntry a fun _ => ⟨rfl, rfl⟩
  heartbeatTick := keeps_heartbeatTick fun _ => Keeps.modify fun _ h => h
  periodicTick := keeps_periodicTick escape fun _ => Keeps.modify fun _ h => h
  nmtStart := Keeps.bind Keeps.get fun _ => Keeps.modify fun _ h => h
  entryAt := cacheTyped_entryAt
  addressOf := cacheTyped_addressOf
  addEntry index subindex name type accessType d hd := by
    cases h : addEntry escape index subindex name type accessType d with
    | ok _ d' =>
      intro a e he
      rcases addEntry_entries escape h a e he with he | rfl
      · exact hd a e he
      · exact .inl rfl
    | error _ d' =>
      obtain rfl := addEntry_error escape h
      exact hd
  bindReceivePdoMapping _ _ _ _ _ _ d hd := by
    rw [bindReceivePdoMapping_eq]
    split_ifs <;> exact hd
  requestHeartbeat _ _ _ _ := Keeps.ite (Keeps.bind Keeps.get fun _ =>
    Keeps.ite (Keeps.modify fun _ h => h) (Keeps.pure _)) (Keeps.pure _)
  stopRequestHeartbeat := Keeps.modify fun _ h => h

/-- No run of calls, returning or throwing, leaves an entry caching a value of
a type other than the entry's own. -/
theorem run_caches_only_typed_values (cs : List Call) {d : Device} (hd : CacheTyped d) :
    CacheTyped (run escape cs d) :=
  (cacheTyped_accesses escape).keeps_run cs hd

theorem run_caches_only_typed_values_x :
    CacheTyped emptyDevice ∧
      CacheTyped (run id [.addEntry 0x6000 0 "x" .uint8 .readWrite, .setEntry 0x6000 0 ⟨.uint8, [3]⟩ .pdo,
        .addReceivePdoMapping 0x181 "x" 0, .deliver 0 [7]] emptyDevice) :=
  ⟨(fun _ _ h => nomatch h), run_caches_only_typed_values id _ fun _ _ h => nomatch h⟩

end KaCanOpen.Device
