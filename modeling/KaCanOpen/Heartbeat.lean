import KaCanOpen.Names

/-!
# The heartbeat over whole runs

The heartbeat thread's loop reads two fields: the arguments `request_heartbeat`
started it with and `terminating_`. `request_heartbeat` starts a thread only
when none runs, and `stop_request_heartbeat` sets `terminating_`, which no
function of the device clears. No other primitive update writes either field,
so a property of the two fields is kept by every call as soon as these two
functions keep it. Two such properties settle what the thread sends over any
run: after a stop, nothing; after the first accepted request, that request's
frame and no other.
-/

set_option autoImplicit false

namespace KaCanOpen.Device

open DeviceM

variable (escape : String → String)

/-! ## One turn of the loop -/

theorem heartbeatTick_of_terminating {d : Device} (h : d.terminating = true) :
    heartbeatTick d = .ok () d := by
  simp only [heartbeatTick, bind_apply, get_apply, h, Bool.not_true, Bool.false_eq_true, if_false]
  cases d.heartbeatThread <;> rfl

theorem heartbeatTick_of_thread {d : Device} {hb : HeartbeatRequest}
    (h : d.heartbeatThread = some hb) :
    heartbeatTick d = if d.terminating then .ok () d else send (heartbeatMessage hb) d := by
  simp only [heartbeatTick, bind_apply, get_apply, h]
  cases d.terminating <;> rfl

/-! ## Properties of the heartbeat's fields -/

section Fields

variable (Q : Option HeartbeatRequest → Bool → Prop)

/-- A property of the heartbeat thread and `terminating_` is kept by every
primitive update once `request_heartbeat` and `stop_request_heartbeat` keep it. -/
theorem heartbeat_primitives
    (hreq : ∀ nodeId heartbeatInterval rtr state, Keeps (fun d => Q d.heartbeatThread d.terminating)
      (requestHeartbeat nodeId heartbeatInterval rtr state))
    (hstop : Keeps (fun d => Q d.heartbeatThread d.terminating) stopRequestHeartbeat) :
    Primitives escape fun d => Q d.heartbeatThread d.terminating where
  getEntryViaSdo := keeps_getEntryViaSdo (keeps_sdoTransaction fun _ _ h => h)
    fun _ => Keeps.modify fun _ h => h
  setEntryViaSdo := keeps_setEntryViaSdo (keeps_sdoTransaction fun _ _ h => h)
    fun _ => Keeps.modify fun _ h => h
  send _ := Keeps.modify fun _ h => h
  entryAt _ _ h := h
  addressOf _ _ h := h
  modifyEntry _ _ _ := Keeps.modify fun _ h => h
  addEntry := keeps_addEntry_of_maps escape fun _ _ _ h => h
  bindReceivePdoMapping _ _ _ _ _ _ d hd := by
    rw [bindReceivePdoMapping_eq]
    split_ifs <;> exact hd
  transmitPdoMappings _ := Keeps.modify fun _ h => h
  requestHeartbeat := hreq
  stopRequestHeartbeat := hstop

end Fields

/-- No call clears `terminating_`. -/
theorem terminating_primitives : Primitives escape fun d => d.terminating = true :=
  heartbeat_primitives escape (fun _ t => t = true)
    (fun _ _ _ _ => Keeps.ite (Keeps.bind Keeps.get fun _ =>
      Keeps.ite (Keeps.modify fun _ h => h) (Keeps.pure _)) (Keeps.pure _))
    (Keeps.modify fun _ _ => rfl)

/-- No call replaces a running heartbeat thread's arguments. -/
theorem thread_primitives (hb : HeartbeatRequest) :
    Primitives escape fun d => d.heartbeatThread = some hb :=
  heartbeat_primitives escape (fun h _ => h = some hb)
    (fun _ _ _ _ d (hd : d.heartbeatThread = some hb) => by
      unfold requestHeartbeat
      split_ifs <;> simp [hd])
    (Keeps.modify fun _ h => h)

theorem requestHeartbeat_thread {d : Device} (hd : d.heartbeatThread = none) (nodeId : UInt8)
    {heartbeatInterval : UInt16} (rtr : Bool) (state : NmtState) (hi : heartbeatInterval ≠ 0) :
    (final (requestHeartbeat nodeId heartbeatInterval rtr state d)).heartbeatThread =
      some ⟨nodeId, heartbeatInterval, rtr, state⟩ := by
  simp [requestHeartbeat, hd, hi]

/-! ## What the thread sends over a run -/

/-- After `stop_request_heartbeat`, whatever calls follow, a turn of the
heartbeat loop sends nothing. -/
theorem heartbeat_silent_after_stop (cs : List Call) (d : Device) :
    heartbeatTick (run escape cs (final (stopRequestHeartbeat d))) =
      .ok () (run escape cs (final (stopRequestHeartbeat d))) :=
  heartbeatTick_of_terminating ((terminating_primitives escape).keeps_run cs rfl)

/-- The first `request_heartbeat` with a nonzero interval fixes the heartbeat:
after any calls, a turn of the loop sends that request's frame, unless
`stop_request_heartbeat` was called. -/
theorem heartbeat_frame_of_first_request (cs : List Call) {d : Device} (hd : d.heartbeatThread = none)
    (nodeId : UInt8) {heartbeatInterval : UInt16} (rtr : Bool) (state : NmtState)
    (hi : heartbeatInterval ≠ 0) :
    let d' := run escape cs (final (requestHeartbeat nodeId heartbeatInterval rtr state d))
    heartbeatTick d' =
      if d'.terminating then .ok () d' else send (heartbeatMessage ⟨nodeId, heartbeatInterval, rtr, state⟩) d' :=
  heartbeatTick_of_thread ((thread_primitives escape _).keeps_run cs
    (requestHeartbeat_thread hd nodeId rtr state hi))

theorem heartbeat_frame_of_first_request_x :
    emptyDevice.heartbeatThread = none ∧ (100 : UInt16) ≠ 0 ∧
    let d' := run id [.requestHeartbeat 7 20 false .stopped, .heartbeatTick]
      (final (requestHeartbeat 5 100 true .operational emptyDevice))
    heartbeatTick d' =
      if d'.terminating then .ok () d' else send (heartbeatMessage ⟨5, 100, true, .operational⟩) d' :=
  ⟨rfl, by decide, heartbeat_frame_of_first_request id _ rfl 5 true .operational (by decide)⟩

end KaCanOpen.Device
