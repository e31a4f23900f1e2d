import KaCanOpen.Sdo

/-!
# The SDO retry law

`get_entry_via_sdo` and `set_entry_via_sdo` make at most
`repeats_on_sdo_timeout + 1` attempts and stop at the first one that returns
data. Every `sdo_error` is caught and retried, an abort as much as a timeout,
and when all attempts failed the error thrown is a `response_timeout` whose
message carries the last error.
-/

set_option autoImplicit false

namespace KaCanOpen.Device

open DeviceM

/-- The first reply carrying data, after failures only, ends the loop. -/
theorem retry_first_data {bs : List UInt8} :
    ∀ (reply : Nat → SdoReply) {n j : Nat} (last : SdoError), j < n →
      (∀ i < j, ∃ e, reply i = .failure e) → reply j = .data bs →
      retry reply n last = (j+1, .ok bs)
  | _, 0, _, _, hj, _, _ => absurd hj (Nat.not_lt_zero _)
  | reply, n+1, 0, _, _, _, hdata => by simp [retry, hdata]
  | reply, n+1, j+1, _, hj, hfail, hdata => by
    obtain ⟨e, he⟩ := hfail 0 (Nat.succ_pos j)
    have hrest := retry_first_data (fun i => reply (i+1)) e (Nat.lt_of_succ_lt_succ hj)
      (fun i hi => hfail (i+1) (Nat.succ_lt_succ hi)) hdata
    simp [retry, he, hrest]

/-- When every attempt fails, all of them are made and the last error is kept. -/
theorem retry_all_failures (es : Nat → SdoError) :
    ∀ (reply : Nat → SdoReply) (n : Nat) (last : SdoError),
      (∀ i < n+1, reply i = .failure (es i)) → retry reply (n+1) last = (n+1, .error (es n))
  | reply, 0, _, h => by simp [retry, h 0 (Nat.succ_pos 0)]
  | reply, n+1, _, h => by
    have hrest := retry_all_failures (fun i => es (i+1)) (fun i => reply (i+1)) n (es 0)
      (fun i hi => h (i+1) (Nat.succ_lt_succ hi))
    rw [retry.eq_2, h 0 (Nat.succ_pos _)]
    simp only [hrest]

/-- The retry law of both SDO accesses, over the reply `replies d req j` to the
`j`-th attempt. The first reply with data ends the loop after `j + 1` attempts,
with the value built from it (or the error of building it). When all
`repeats_on_sdo_timeout + 1` replies are errors, of whatever kind, a
`response_timeout` carrying the last of them is thrown after all attempts. -/
theorem sdo_access_retry_law (d : Device) (index : UInt16) (subindex : UInt8) (type : DataType)
    (value : Value) :
    let r := d.config.repeatsOnSdoTimeout
    let up := SdoRequest.upload d.nodeId index subindex
    let down := SdoRequest.download d.nodeId index subindex value.bytes
    (∀ j bs v, j < r+1 → (∀ i < j, ∃ e, replies d up i = .failure e) →
      replies d up j = .data bs → Value.ofBytes type bs = .ok v →
      getEntryViaSdo index subindex type d =
        .ok v (traced (logged d up (j+1)) (.read index subindex v))) ∧
    (∀ j bs e, j < r+1 → (∀ i < j, ∃ e, replies d up i = .failure e) →
      replies d up j = .data bs → Value.ofBytes type bs = .error e →
      getEntryViaSdo index subindex type d = .error e (logged d up (j+1))) ∧
    (∀ es : Nat → SdoError, (∀ i < r+1, replies d up i = .failure (es i)) →
      getEntryViaSdo index subindex type d =
        .error (.sdo (responseTimeout "Device::get_entry_via_sdo()" d.nodeId (r+1) (es r)))
          (logged d up (r+1))) ∧
    (∀ j bs, j < r+1 → (∀ i < j, ∃ e, replies d down i = .failure e) →
      replies d down j = .data bs →
      setEntryViaSdo index subindex value d =
        .ok () (traced (logged d down (j+1)) (.write index subindex value))) ∧
    (∀ es : Nat → SdoError, (∀ i < r+1, replies d down i = .failure (es i)) →
      setEntryViaSdo index subindex value d =
        .error (.sdo (responseTimeout "Device::set_entry_via_sdo()" d.nodeId (r+1) (es r)))
          (logged d down (r+1))) := by
  refine ⟨fun j bs v hj hf hd hv => ?_, fun j bs e hj hf hd he => ?_, fun es h => ?_,
    fun j bs hj hf hd => ?_, fun es h => ?_⟩
  · simp only [getEntryViaSdo_eq, retry_first_data _ _ hj hf hd, hv]
  · simp only [getEntryViaSdo_eq, retry_first_data _ _ hj hf hd, he]
  · simp only [getEntryViaSdo_eq, retry_all_failures es _ _ _ h]
  · simp only [setEntryViaSdo_eq, retry_first_data _ _ hj hf hd]
  · simp only [setEntryViaSdo_eq, retry_all_failures es _ _ _ h]

/-- A node that answers every request with the abort `0x06020000`, behind a
master configured for one repetition. -/
def abortingDevice : Device :=
  Device.create ⟨fun _ _ => .failure ⟨.abort 0x06020000, "abort"⟩, [], [], []⟩
    ⟨1, false, false, false⟩ ⟨fun _ => .returned false, fun _ => "", 0⟩ 2

/-- An abort is retried, and what reaches the caller is a `response_timeout`
after two uploads. -/
theorem get_entry_via_sdo_retries_abort :
    ∃ e d', getEntryViaSdo 0x1000 0 .uint32 abortingDevice = .error (.sdo e) d' ∧
      e.kind = .responseTimeout ∧ d'.core.sdoLog.length = 2 := by
  rw [getEntryViaSdo_eq]
  exact ⟨_, _, rfl, rfl, rfl⟩

end KaCanOpen.Device
