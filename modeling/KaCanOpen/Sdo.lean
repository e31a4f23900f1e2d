import KaCanOpen.Device

/-!
# SDO access with retries

`get_entry_via_sdo` and `set_entry_via_sdo` share one loop: up to
`repeats_on_sdo_timeout + 1` attempts, every `sdo_error` caught and kept as the
last error, and after the last failed attempt a `response_timeout` whose text
ends with the last error's. The loop's meaning is `retry`, the reply stream cut
at its first reply with data.
-/

set_option autoImplicit false

namespace KaCanOpen.Device

open DeviceM

variable {α : Type}

/-- The loop shared by the two functions: `n` more attempts of `attempt`, each
`sdo_error` caught and kept as `last_error`. -/
def retrySdo (attempt : DeviceM α) : Nat → SdoError → DeviceM (Except SdoError α)
  | 0, last => pure (.error last)
  | n+1, _ => catchSdo (do let a ← attempt; pure (.ok a)) (retrySdo attempt n)

/-- `sdo_error last_error(sdo_error::type::unknown)`. -/
def unknownSdoError : SdoError := ⟨.unknown, ""⟩

/-- The `response_timeout` thrown after the loop, naming the caller, the node,
the number of attempts and the last error. -/
def responseTimeout (caller : String) (nodeId : UInt8) (repeats : Nat) (last : SdoError) :
    SdoError :=
  ⟨.responseTimeout, caller ++ " device " ++ toString nodeId.toNat ++ " failed after " ++
    toString repeats ++ " repeats. Last error: " ++ last.what⟩

/-- The common body: `repeats_on_sdo_timeout + 1` attempts, then the timeout. -/
def viaSdo (caller : String) (attempt : UInt8 → DeviceM α) : DeviceM α := do
  let d ← get
  let repeats := d.config.repeatsOnSdoTimeout+1
  match ← retrySdo (attempt d.nodeId) repeats unknownSdoError with
  | .ok a => pure a
  | .error last => throw (.sdo (responseTimeout caller d.nodeId repeats last))

/-- `Device::get_entry_via_sdo`. -/
def getEntryViaSdo (index : UInt16) (subindex : UInt8) (type : DataType) : DeviceM Value := do
  let v ← viaSdo "Device::get_entry_via_sdo()" fun nodeId => do
    let data ← upload nodeId index subindex
    throwExcept (Value.ofBytes type data)
  traceSdo (.read index subindex v)
  pure v

/-- `Device::set_entry_via_sdo`. -/
def setEntryViaSdo (index : UInt16) (subindex : UInt8) (value : Value) : DeviceM Unit := do
  viaSdo "Device::set_entry_via_sdo()" fun nodeId => download nodeId index subindex value.bytes
  traceSdo (.write index subindex value)

/-- The loop's meaning against the replies `reply 0, reply 1, …`: the number of
attempts made, and the data of the first reply carrying some or the last failure. -/
def retry (reply : Nat → SdoReply) : Nat → SdoError → Nat × Except SdoError (List UInt8)
  | 0, last => (0, .error last)
  | n+1, _ =>
    match reply 0 with
    | .data bs => (1, .ok bs)
    | .failure e => let r := retry (fun j => reply (j+1)) n e; (r.1+1, r.2)

/-- `d` after `m` more requests `req` on the bus. -/
def logged (d : Device) (req : SdoRequest) (m : Nat) : Device :=
  { d with core := { d.core with sdoLog := d.core.sdoLog ++ List.replicate m req } }

/-- The reply script as the loop sees it, from the next request on. -/
def replies (d : Device) (req : SdoRequest) (j : Nat) : SdoReply :=
  d.core.sdoServer (d.core.sdoLog.length+j) req

theorem logged_zero (d : Device) (req : SdoRequest) : logged d req 0 = d := by
  simp [logged]

theorem logged_succ (d : Device) (req : SdoRequest) (m : Nat) :
    logged d req (m+1) =
      logged { d with core := { d.core with sdoLog := d.core.sdoLog ++ [req] } } req m := by
  simp [logged, List.replicate_succ]

theorem replies_succ (d : Device) (req : SdoRequest) :
    replies { d with core := { d.core with sdoLog := d.core.sdoLog ++ [req] } } req =
      fun j => replies d req (j+1) := by
  funext j
  simp [replies, Nat.add_assoc, Nat.add_comm 1]

/-- The loop over one transaction `req` followed by a continuation `k` that
throws no `sdo_error` is `retry` on the script. -/
theorem retrySdo_transaction (req : SdoRequest) (k : List UInt8 → Except Error α)
    (hk : ∀ bs e, k bs ≠ .error (.sdo e)) (n : Nat) (last : SdoError) (d : Device) :
    retrySdo (do let bs ← sdoTransaction req; throwExcept (k bs)) n last d =
      match retry (replies d req) n last with
      | (m, .ok bs) =>
        match k bs with
        | .ok a => .ok (.ok a) (logged d req m)
        | .error e => .error e (logged d req m)
      | (m, .error e) => .ok (.error e) (logged d req m) := by
  induction n generalizing d last with
  | zero => simp [retrySdo, retry, logged_zero]
  | succ n ih =>
    have h0 : d.core.sdoServer d.core.sdoLog.length req = replies d req 0 := by simp [replies]
    simp only [retrySdo, retry, catchSdo, bind_apply, sdoTransaction, h0]
    cases replies d req 0 with
    | data bs =>
      simp only [logged_succ, logged_zero]
      cases hkb : k bs with
      | ok a => simp
      | error e => cases e <;> simp [hk bs] at hkb ⊢
    | failure e =>
      simp only [ih, replies_succ]
      rcases retry (fun j => replies d req (j+1)) n e with ⟨m, _ | bs⟩ <;> simp [logged_succ]

end KaCanOpen.Device

namespace KaCanOpen.Device

open DeviceM

/-- `d` after the access `a` has been traced. -/
def traced (d : Device) (a : SdoAccess) : Device := { d with sdoTrace := d.sdoTrace ++ [a] }

theorem ofBytes_ne_sdo (type : DataType) (bs : List UInt8) (e : SdoError) :
    Value.ofBytes type bs ≠ .error (.sdo e) := by
  unfold Value.ofBytes; split <;> simp

/-- `get_entry_via_sdo` is `retry` on the replies to its upload. -/
theorem getEntryViaSdo_eq (index : UInt16) (subindex : UInt8) (type : DataType) (d : Device) :
    getEntryViaSdo index subindex type d =
      let req := SdoRequest.upload d.nodeId index subindex
      let repeats := d.config.repeatsOnSdoTimeout+1
      match retry (replies d req) repeats unknownSdoError with
      | (m, .ok bs) =>
        match Value.ofBytes type bs with
        | .ok v => .ok v (traced (logged d req m) (.read index subindex v))
        | .error e => .error e (logged d req m)
      | (m, .error last) =>
        .error (.sdo (responseTimeout "Device::get_entry_via_sdo()" d.nodeId repeats last))
          (logged d req m) := by
  simp only [getEntryViaSdo, viaSdo, upload, bind_apply, get_apply,
    retrySdo_transaction _ _ (ofBytes_ne_sdo type)]
  rcases retry _ _ _ with ⟨m, last | bs⟩
  · rfl
  · dsimp only; cases Value.ofBytes type bs <;> rfl

/-- `set_entry_via_sdo` is `retry` on the replies to its download. -/
theorem setEntryViaSdo_eq (index : UInt16) (subindex : UInt8) (value : Value) (d : Device) :
    setEntryViaSdo index subindex value d =
      let req := SdoRequest.download d.nodeId index subindex value.bytes
      let repeats := d.config.repeatsOnSdoTimeout+1
      match retry (replies d req) repeats unknownSdoError with
      | (m, .ok _) => .ok () (traced (logged d req m) (.write index subindex value))
      | (m, .error last) =>
        .error (.sdo (responseTimeout "Device::set_entry_via_sdo()" d.nodeId repeats last))
          (logged d req m) := by
  have h := retrySdo_transaction (SdoRequest.download d.nodeId index subindex value.bytes)
    (fun _ => (.ok () : Except Error Unit)) (by simp)
  simp only [setEntryViaSdo, viaSdo, download, bind_apply, get_apply]
  erw [h]
  rcases retry _ _ _ with ⟨m, last | bs⟩ <;> rfl

end KaCanOpen.Device
