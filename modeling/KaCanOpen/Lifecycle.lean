import KaCanOpen.Dictionary

/-!
# NMT commands, heartbeats, start and destruction

`request_heartbeat` starts at most one thread, which sends the node's state on
`0x700 + node_id` until `stop_request_heartbeat` sets `terminating_`; the
thread's loop is `heartbeatTick`, one turn of it, as `periodicTick` is one turn
of the thread of a PERIODIC transmit mapping. `start` reads the device
profile number twice (for the operation and constant tables, which are not in
the source) and starts the node. `~Device` unregisters the COB-IDs recorded in
`cob_ids_` and stops the heartbeat.
-/

set_option autoImplicit false

namespace KaCanOpen.Device

open DeviceM

variable (escape : String → String)

/-- `NMT::Command`. -/
inductive NmtCommand
  | startNode | stopNode | enterPreoperational | resetNode | resetCommunication
  deriving DecidableEq, Repr

def NmtCommand.code : NmtCommand → UInt8
  | .startNode => 0x01 | .stopNode => 0x02 | .enterPreoperational => 0x80
  | .resetNode => 0x81 | .resetCommunication => 0x82

/-- Modelled from the spec: `NMT::send_nmt_message`, `[cmd, node_id]` on COB-ID 0. -/
def sendNmtMessage (nodeId : UInt8) (cmd : NmtCommand) : DeviceM Unit :=
  send ⟨0, false, 2, [cmd.code, nodeId]⟩

/-- The frame of `Device::send_heartbeat`. -/
def heartbeatMessage (h : HeartbeatRequest) : Message :=
  ⟨0x700+h.nodeId.toUInt16, h.rtr, 0x01, [h.state.code]⟩

/-- One turn of the loop of `Device::send_heartbeat`, run by its thread. -/
def heartbeatTick : DeviceM Unit := do
  let d ← get
  match d.heartbeatThread with
  | some h => if !d.terminating then send (heartbeatMessage h)
  | none => pure ()

/-- One turn of the loop of the thread `add_transmit_pdo_mapping` starts for a
`PERIODIC` mapping, the `k`-th of `m_transmit_pdo_mappings`: while
`run_periodic_transmitter` is set, `pdo.send()`. -/
def periodicTick (k : Nat) : DeviceM Unit := do
  match (← get).transmitPdoMappings[k]? with
  | some pdo => if pdo.runPeriodicTransmitter then sendPdo escape pdo.cobId pdo.mappings
  | none => pure ()

/-- `Device::request_heartbeat`. -/
def requestHeartbeat (nodeId : UInt8) (heartbeatInterval : UInt16) (rtr : Bool)
    (state : NmtState) : DeviceM Unit := do
  if heartbeatInterval ≠ 0 then
    if (← get).heartbeatThread.isNone then
      modify fun d => { d with heartbeatThread := some ⟨nodeId, heartbeatInterval, rtr, state⟩ }

/-- `Device::stop_request_heartbeat`; the join returns once the thread has
seen `terminating_`. -/
def stopRequestHeartbeat : DeviceM Unit :=
  modify fun d => { d with terminating := true }

/-- `Device::send_consumer_heartbeat`. -/
def sendConsumerHeartbeat (nodeId : UInt8) (heartbeatInterval : UInt16) (rtr : Bool)
    (state : NmtState) : DeviceM Unit :=
  requestHeartbeat nodeId heartbeatInterval rtr state

/-- `Device::stop_send_consumer_heartbeat`. -/
def stopSendConsumerHeartbeat : DeviceM Unit :=
  stopRequestHeartbeat

/-- `Device::start`: `load_operations` and `load_constants` each read the
profile number, then the node is started. -/
def start : DeviceM Unit := do
  discard <| getDeviceProfileNumber escape
  discard <| getDeviceProfileNumber escape
  sendNmtMessage (← get).nodeId .startNode

def removePdoReceivedCallbacks : List UInt16 → DeviceM Unit
  | [] => pure ()
  | cobId::cobIds => do
    removePdoReceivedCallback cobId
    removePdoReceivedCallbacks cobIds

/-- `Device::~Device`. -/
def destroy : DeviceM Unit := do
  removePdoReceivedCallbacks (← get).cobIds
  stopRequestHeartbeat

end KaCanOpen.Device
