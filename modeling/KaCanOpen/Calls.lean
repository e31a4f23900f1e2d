import KaCanOpen.Pdo
import KaCanOpen.Remap
import KaCanOpen.Lifecycle

/-!
# The device as a state machine

A `Call` is one call of the device's public interface, or the core handing a
payload to one of the receive callbacks registered with it. A call either
returns or throws, and in both cases the device goes on from the state the call
left. The EDS loaders are not calls here: the entries the EDS library and
reader add are not modelled.
-/

set_option autoImplicit false

namespace KaCanOpen.Device

open DeviceM

variable (escape : String → String)

/-- The device's public operations, with their arguments. -/
inductive Call
  | addEntry (index : UInt16) (subindex : UInt8) (name : String) (type : DataType)
      (accessType : AccessType)
  | getEntryType (index : UInt16) (subindex : UInt8)
  | getEntryTypeByName (entryName : String)
  | getEntry (index : UInt16) (subindex : UInt8) (accessMethod : ReadAccessMethod)
  | getEntryByName (entryName : String) (accessMethod : ReadAccessMethod)
  | setEntry (index : UInt16) (subindex : UInt8) (value : Value) (accessMethod : WriteAccessMethod)
  | setEntryByName (entryName : String) (value : Value) (accessMethod : WriteAccessMethod)
  | addReceivePdoMapping (cobId : UInt16) (entryName : String) (offset : UInt8)
  | addReceivePdoMappingWith (cobId : UInt16) (entryName : String) (offset : UInt8)
  | addReceivePdoMappingAt (cobId entryIndex : UInt16) (entrySubindex offset : UInt8)
  | addTransmitPdoMapping (cobId : UInt16) (mappings : List Mapping)
      (transmissionType : TransmissionType) (repeatTime : Nat)
  | addTransmitPdoMappingAt (cobId : UInt16) (mappingsByIndex : List MappingByIndex)
      (transmissionType : TransmissionType) (repeatTime : Nat)
  /-- The core hands `data` to the `k`-th callback registered with it. -/
  | deliver (k : Nat) (data : List UInt8)
  | readCompleteDictionary
  | getDeviceProfileNumber
  | remap (r : PdoRemap) (fuel : Nat)
  | requestHeartbeat (nodeId : UInt8) (heartbeatInterval : UInt16) (rtr : Bool) (state : NmtState)
  | stopRequestHeartbeat
  | heartbeatTick
  /-- The periodic transmitter of the `k`-th transmit mapping takes a turn. -/
  | periodicTick (k : Nat)
  | start

/-- The `k`-th callback of the core's registry, handed `data`. -/
def deliverAt (k : Nat) (data : List UInt8) : DeviceM Unit := do
  match (← get).core.pdoCallbacks[k]? with
  | some (_, cb) => deliver escape cb data
  | none => pure ()

namespace Call

def exec : Call → DeviceM Unit
  | addEntry i s n t a => Device.addEntry escape i s n t a
  | getEntryType i s => discard <| Device.getEntryType i s
  | getEntryTypeByName n => discard <| Device.getEntryTypeByName escape n
  | getEntry i s m => discard <| Device.getEntry escape i s m
  | getEntryByName n m => discard <| Device.getEntryByName escape n m
  | setEntry i s v m => Device.setEntry escape i s v m
  | setEntryByName n v m => Device.setEntryByName escape n v m
  | addReceivePdoMapping c n o => Device.addReceivePdoMapping escape c n o
  | addReceivePdoMappingWith c n o => Device.addReceivePdoMappingWith escape c n o
  | addReceivePdoMappingAt c i s o => Device.addReceivePdoMappingAt c i s o
  | addTransmitPdoMapping c ms t r => Device.addTransmitPdoMapping escape c ms t r
  | addTransmitPdoMappingAt c ms t r => Device.addTransmitPdoMappingAt escape c ms t r
  | deliver k data => deliverAt escape k data
  | readCompleteDictionary => Device.readCompleteDictionary escape
  | getDeviceProfileNumber => discard <| Device.getDeviceProfileNumber escape
  | remap r fuel => discard <| r.run escape fuel
  | requestHeartbeat n i r s => Device.requestHeartbeat n i r s
  | stopRequestHeartbeat => Device.stopRequestHeartbeat
  | heartbeatTick => Device.heartbeatTick
  | periodicTick k => Device.periodicTick escape k
  | start => Device.start escape

end Call

/-- The state after the calls `cs`, each of which returns or throws. -/
def run : List Call → Device → Device
  | [], d => d
  | c::cs, d => run cs (final (c.exec escape d))

/-- The states that calls reach from a state satisfying `init`. -/
inductive Reachable (init : Device → Prop) : Device → Prop
  | base {d : Device} : init d → Reachable init d
  | step {d : Device} (c : Call) : Reachable init d → Reachable init (final (c.exec escape d))

theorem reachable_run {init : Device → Prop} {d : Device} (hd : Reachable escape init d) :
    ∀ cs, Reachable escape init (run escape cs d) := by
  intro cs
  induction cs generalizing d with
  | nil => exact hd
  | cons c cs ih => exact ih (hd.step c)

end KaCanOpen.Device
