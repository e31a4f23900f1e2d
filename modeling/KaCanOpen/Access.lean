import KaCanOpen.Dictionary

/-!
# What the dictionary accesses do

One equation for each access, from which later proofs never unfold it:
`Entry::set_value` caches the value and sends the frames of the entry's
callbacks; `get_entry` and `set_entry` on an address are unknown, rejected, or
such a write around an SDO transfer addressed by the entry's own fields; the
name forms resolve the escaped name first.
-/

set_option autoImplicit false

namespace KaCanOpen.Device

open DeviceM

variable (escape : String → String)

/-- `d` with `v` cached in the entry at `a`. -/
def withValue (d : Device) (a : Address) (v : Value) : Device :=
  { d with dictionary := d.dictionary.modify a fun e => { e with value := v } }

/-- `d` after the frames `ms` were sent. -/
def sending (d : Device) (ms : List Message) : Device :=
  { d with core := { d.core with sent := d.core.sent ++ ms } }

/-- The frames the value-changed callbacks `cbs` send from `d`. -/
def callbackFrames (d : Device) (cbs : List ValueChangedCallback) : List Message :=
  cbs.map fun | .sendPdo cobId mappings => ⟨cobId, false, 8, pdoFrame escape d mappings⟩

theorem callbackFrames_sending (d : Device) (ms : List Message) (cbs : List ValueChangedCallback) :
    callbackFrames escape (sending d ms) cbs = callbackFrames escape d cbs := rfl

theorem sending_append (d : Device) (ms ms' : List Message) :
    sending (sending d ms) ms' = sending d (ms ++ ms') := by
  simp [sending]

theorem runCallbacks_eq (cbs : List ValueChangedCallback) (d : Device) :
    runCallbacks escape cbs d = .ok () (sending d (callbackFrames escape d cbs)) := by
  induction cbs generalizing d with
  | nil => simp [runCallbacks, sending, callbackFrames]
  | cons cb cbs ih =>
    cases cb
    simp only [runCallbacks, sendPdo, send, bind_apply, get_apply, modify_apply]
    exact (ih (sending d _)).trans (by rw [callbackFrames_sending, sending_append]; rfl)

theorem entryAt_of_find {d : Device} {a : Address} {e : Entry} (h : d.dictionary.find? a = some e) :
    entryAt a d = .ok e d := by
  simp only [entryAt, StdMap.index_of_find?_some _ _ h]

/-- `Entry::set_value` on an entry of the dictionary. -/
theorem setValue_eq {d : Device} {a : Address} {e : Entry} (v : Value)
    (h : d.dictionary.find? a = some e) :
    setValue escape a v d = .ok () (sending (withValue d a v)
      (callbackFrames escape (withValue d a v) e.callbacks)) := by
  have h' : (withValue d a v).dictionary.find? a = some { e with value := v } := by
    simp [withValue, h]
  simp only [setValue, modifyEntry, bind_apply, modify_apply, get_apply]
  change (match (withValue d a v).dictionary.find? a with
    | some e => runCallbacks escape e.callbacks
    | none => pure ()) (withValue d a v) = _
  rw [h']
  exact runCallbacks_eq escape _ _

theorem find?_withValue (d : Device) (a a' : Address) (v : Value) :
    (withValue d a v).dictionary.find? a' =
      if a' = a then (d.dictionary.find? a).map fun e => { e with value := v }
      else d.dictionary.find? a' := by
  simp [withValue]

theorem getEntryViaSdo_frame (index : UInt16) (subindex : UInt8) (type : DataType) (d : Device) :
    ∃ log trace, final (getEntryViaSdo index subindex type d) =
      { d with core := { d.core with sdoLog := log }, sdoTrace := trace } := by
  rw [getEntryViaSdo_eq]
  dsimp only
  rcases retry _ _ _ with ⟨m, last | bs⟩
  · exact ⟨_, _, rfl⟩
  · dsimp only; cases Value.ofBytes type bs <;> exact ⟨_, _, rfl⟩

theorem hasEntry_of_find {d : Device} {index : UInt16} {subindex : UInt8} {e : Entry}
    (h : d.dictionary.find? ⟨index, subindex⟩ = some e) : hasEntry d index subindex = true := by
  simp [hasEntry, StdMap.contains, h]

theorem hasEntry_of_find_none {d : Device} {index : UInt16} {subindex : UInt8}
    (h : d.dictionary.find? ⟨index, subindex⟩ = none) : hasEntry d index subindex = false := by
  simp [hasEntry, StdMap.contains, h]

/-- `get_entry` on an address: unknown, the cached value, or an SDO read that
is cached. -/
theorem getEntry_eq (index : UInt16) (subindex : UInt8) (accessMethod : ReadAccessMethod)
    (d : Device) :
    getEntry escape index subindex accessMethod d =
      match d.dictionary.find? ⟨index, subindex⟩ with
      | none => .error (unknownEntry (indexString index subindex)) d
      | some e =>
        if accessMethod = .sdo ∨ accessMethod = .useDefault ∧ e.readAccessMethod = .sdo then
          match getEntryViaSdo e.index e.subindex e.type d with
          | .ok v d1 => .ok v (sending (withValue d1 ⟨index, subindex⟩ v)
              (callbackFrames escape (withValue d1 ⟨index, subindex⟩ v) e.callbacks))
          | .error x d1 => .error x d1
        else .ok e.value d := by
  cases h : d.dictionary.find? ⟨index, subindex⟩ with
  | none => simp [getEntry, hasEntry_of_find_none h]
  | some e =>
    simp only [getEntry, bind_apply, get_apply, hasEntry_of_find h, Bool.not_true, Bool.false_eq_true,
      ↓reduceIte, pure_apply, entryAt_of_find h]
    split_ifs with hm
    · cases hv : getEntryViaSdo e.index e.subindex e.type d with
      | ok v d1 =>
        have hd1 : d1.dictionary.find? ⟨index, subindex⟩ = some e := by
          obtain ⟨log, trace, hf⟩ := getEntryViaSdo_frame e.index e.subindex e.type d
          rw [hv] at hf; rw [final_ok] at hf; rw [hf]; exact h
        have hd2 : (sending (withValue d1 ⟨index, subindex⟩ v) (callbackFrames escape
            (withValue d1 ⟨index, subindex⟩ v) e.callbacks)).dictionary.find? ⟨index, subindex⟩ =
            some { e with value := v } := by
          simp [sending, find?_withValue, hd1]
        simp [hv, setValue_eq escape v hd1, entryAt_of_find hd2]
      | error x d1 => simp [hv]
    · simp [entryAt_of_find h]

/-- `set_entry` on an address: unknown, a wrong type, or the value cached, its
callbacks sending, and then written over SDO when the method asks for it. -/
theorem setEntry_eq (index : UInt16) (subindex : UInt8) (value : Value)
    (accessMethod : WriteAccessMethod) (d : Device) :
    setEntry escape index subindex value accessMethod d =
      match d.dictionary.find? ⟨index, subindex⟩ with
      | none => .error (unknownEntry (indexString index subindex)) d
      | some e =>
        if value.type ≠ e.type then
          .error (.dictionary ⟨.wrongType, indexString index subindex, "Entry type: " ++
            typeToString e.type ++ ", given type: " ++ typeToString value.type⟩) d
        else
          let d1 := sending (withValue d ⟨index, subindex⟩ value)
            (callbackFrames escape (withValue d ⟨index, subindex⟩ value) e.callbacks)
          if accessMethod = .sdo ∨ accessMethod = .useDefault ∧ e.writeAccessMethod = .sdo then
            setEntryViaSdo e.index e.subindex value d1
          else .ok () d1 := by
  cases h : d.dictionary.find? ⟨index, subindex⟩ with
  | none => simp [setEntry, hasEntry_of_find_none h]
  | some e =>
    simp only [setEntry, bind_apply, get_apply, hasEntry_of_find h, Bool.not_true,
      Bool.false_eq_true, ↓reduceIte, pure_apply, entryAt_of_find h]
    split_ifs <;> simp [setValue_eq escape value h]

theorem getEntryViaSdo_ok {index : UInt16} {subindex : UInt8} {type : DataType} {d d' : Device}
    {v : Value} (h : getEntryViaSdo index subindex type d = .ok v d') :
    v.type = type ∧ d'.sdoTrace = d.sdoTrace ++ [.read index subindex v] := by
  rw [getEntryViaSdo_eq] at h
  dsimp only at h
  generalize retry _ _ _ = r at h
  rcases r with ⟨m, last | bs⟩
  · cases h
  · dsimp only at h
    cases hv : Value.ofBytes type bs with
    | error e => rw [hv] at h; cases h
    | ok w =>
      rw [hv] at h
      cases h
      exact ⟨by rw [Value.ofBytes_eq_ok hv], rfl⟩

theorem setEntryViaSdo_ok {index : UInt16} {subindex : UInt8} {value : Value} {d d' : Device}
    (h : setEntryViaSdo index subindex value d = .ok () d') :
    d'.sdoTrace = d.sdoTrace ++ [.write index subindex value] := by
  rw [setEntryViaSdo_eq] at h
  dsimp only at h
  generalize retry _ _ _ = r at h
  rcases r with ⟨m, last | bs⟩ <;> cases h
  rfl

end KaCanOpen.Device
