import KaCanOpen.Dictionary

/-!
# Remapping PDOs on the remote device

`map_tpdo_in_device` (three overloads) and `map_rpdo_in_device` disable the PDO
through bit 31 of its COB-ID, clear the mapping count, write the mapping words
through `write_entry`, write the count and the communication parameters, and
enable the PDO again. `write_entry` counts in `uint8_t`; the model runs its
loop for at most `fuel` iterations and reports whether the loop ended.
-/

set_option autoImplicit false

namespace KaCanOpen.Device

open DeviceM

variable (escape : String → String)

/-- `kaco::TPDO_NO`. -/
inductive TpdoNo
  | tpdo1 | tpdo2 | tpdo3 | tpdo4
  deriving DecidableEq, Repr

/-- `kaco::RPDO_NO`. -/
inductive RpdoNo
  | rpdo1 | rpdo2 | rpdo3 | rpdo4
  deriving DecidableEq, Repr

/-- The `n` of `TPDO_n`. -/
def TpdoNo.number : TpdoNo → Nat
  | .tpdo1 => 1 | .tpdo2 => 2 | .tpdo3 => 3 | .tpdo4 => 4

/-- The `n` of `RPDO_n`. -/
def RpdoNo.number : RpdoNo → Nat
  | .rpdo1 => 1 | .rpdo2 => 2 | .rpdo3 => 3 | .rpdo4 => 4

/-- `Device::get_tpdo_indexes`; its `default` branch has no enumerator left. -/
def getTpdoIndexes : TpdoNo → UInt16 × UInt16
  | .tpdo1 => (0x1800, 0x1A00)
  | .tpdo2 => (0x1801, 0x1A01)
  | .tpdo3 => (0x1802, 0x1A02)
  | .tpdo4 => (0x1803, 0x1A03)

/-- `Device::get_rpdo_indexes`. -/
def getRpdoIndexes : RpdoNo → UInt16 × UInt16
  | .rpdo1 => (0x1400, 0x1600)
  | .rpdo2 => (0x1401, 0x1601)
  | .rpdo3 => (0x1402, 0x1602)
  | .rpdo4 => (0x1403, 0x1603)

/-- The loop of `write_entry` at counter `i` and subindex `offset`, both
`uint8_t`, for at most `fuel` more iterations: `true` once it has ended. -/
def writeEntryLoop (index : UInt16) (entries : List UInt32) : Nat → UInt8 → UInt8 → DeviceM Bool
  | 0, _, _ => pure false
  | fuel+1, i, offset =>
    if i.toNat < entries.length then do
      setEntry escape index (offset+1) (Value.ofUInt32 (entries.getD i.toNat 0)) .sdo
      writeEntryLoop index entries fuel (i+1) (offset+1)
    else pure true

/-- `Device::write_entry`. -/
def writeEntry (index : UInt16) (entries : List UInt32) (fuel : Nat) : DeviceM Bool :=
  writeEntryLoop escape index entries fuel 0 0

/-- `cob_id ^= (-1 ^ cob_id) & (1UL << 31)`, with `-1` converted to `uint32_t`. -/
def disableBit (cobId : UInt32) : UInt32 := cobId ^^^ (((0xFFFFFFFF : UInt32) ^^^ cobId) &&& ((1 : UInt32) <<< 31))

/-- `cob_id ^= (0 ^ cob_id) & (1UL << 31)`. -/
def enableBit (cobId : UInt32) : UInt32 := cobId ^^^ (((0 : UInt32) ^^^ cobId) &&& ((1 : UInt32) <<< 31))

theorem toBitVec_xor (a b : UInt32) : (a ^^^ b).toBitVec = a.toBitVec ^^^ b.toBitVec := rfl

theorem toBitVec_and (a b : UInt32) : (a &&& b).toBitVec = a.toBitVec &&& b.toBitVec := rfl

theorem toBitVec_or (a b : UInt32) : (a ||| b).toBitVec = a.toBitVec ||| b.toBitVec := rfl

/-- The XOR idiom sets bit 31 and keeps bits 0 to 30. -/
theorem disableBit_eq (c : UInt32) : disableBit c = c ||| 0x80000000 := by
  apply UInt32.eq_of_toBitVec_eq
  have hb : ∀ i : Fin 32, (0xFFFFFFFF : UInt32).toBitVec.getLsbD i = true ∧
      ((1 : UInt32) <<< 31).toBitVec.getLsbD i = (0x80000000 : UInt32).toBitVec.getLsbD i := by
    decide
  ext i
  simp only [disableBit, toBitVec_xor, toBitVec_and, toBitVec_or, BitVec.getLsbD_xor,
    BitVec.getLsbD_and, BitVec.getLsbD_or, (hb i).1, (hb i).2]
  cases c.toBitVec.getLsbD i <;> simp

/-- The XOR idiom clears bit 31 and keeps bits 0 to 30. -/
theorem enableBit_eq (c : UInt32) : enableBit c = c &&& 0x7FFFFFFF := by
  apply UInt32.eq_of_toBitVec_eq
  have hb : ∀ i : Fin 32, (0 : UInt32).toBitVec.getLsbD i = false ∧
      ((1 : UInt32) <<< 31).toBitVec.getLsbD i = !(0x7FFFFFFF : UInt32).toBitVec.getLsbD i := by
    decide
  ext i
  simp only [enableBit, toBitVec_xor, toBitVec_and, BitVec.getLsbD_xor,
    BitVec.getLsbD_and, (hb i).1, (hb i).2]
  cases c.toBitVec.getLsbD i <;> simp

theorem enableBit_disableBit (c : UInt32) : enableBit (disableBit c) = c &&& 0x7FFFFFFF := by
  rw [enableBit_eq, disableBit_eq]
  apply UInt32.eq_of_toBitVec_eq
  have hb : ∀ i : Fin 32, (0x80000000 : UInt32).toBitVec.getLsbD i = !(0x7FFFFFFF : UInt32).toBitVec.getLsbD i := by
    decide
  ext i
  simp only [toBitVec_and, toBitVec_or, BitVec.getLsbD_and, BitVec.getLsbD_or, hb i]
  cases c.toBitVec.getLsbD i <;> cases (0x7FFFFFFF : UInt32).toBitVec.getLsbD i <;> rfl

/-- Writes at further subindexes of the communication parameter. -/
def setEntries (index : UInt16) : List (UInt8 × Value) → DeviceM Unit
  | [] => pure ()
  | (subindex, v)::rest => do
    setEntry escape index subindex v .sdo
    setEntries index rest

/-- The sequence the four remapping functions share, with the communication
and mapping parameter indexes and the extra communication writes of each. -/
def mapPdoInDevice (commParamIdx mappParamIdx : UInt16) (entriesToBeMapped : List UInt32)
    (transmitType : UInt8) (extra : List (UInt8 × Value)) (fuel : Nat) : DeviceM Bool := do
  let cobId ← throwExcept (← getEntry escape commParamIdx 0x01 .sdo).toUInt32
  setEntry escape commParamIdx 0x01 (Value.ofUInt32 (disableBit cobId)) .sdo
  setEntry escape mappParamIdx 0x00 (Value.ofUInt8 0) .sdo
  if !(← writeEntry escape mappParamIdx entriesToBeMapped fuel) then return false
  setEntry escape mappParamIdx 0x00 (Value.ofUInt8 entriesToBeMapped.length.toUInt8) .sdo
  setEntry escape commParamIdx 0x02 (Value.ofUInt8 transmitType) .sdo
  setEntries escape commParamIdx extra
  setEntry escape commParamIdx 0x01 (Value.ofUInt32 (enableBit (disableBit cobId))) .sdo
  pure true

/-- `Device::map_tpdo_in_device(tpdo_no, entries_to_be_mapped, transmit_type)`. -/
def mapTpdoInDevice3 (tpdoNo : TpdoNo) (entriesToBeMapped : List UInt32) (transmitType : UInt8)
    (fuel : Nat) : DeviceM Bool :=
  mapPdoInDevice escape (getTpdoIndexes tpdoNo).1 (getTpdoIndexes tpdoNo).2 entriesToBeMapped
    transmitType [] fuel

/-- `Device::map_tpdo_in_device(tpdo_no, entries_to_be_mapped, transmit_type, inhibit_time)`. -/
def mapTpdoInDevice4 (tpdoNo : TpdoNo) (entriesToBeMapped : List UInt32) (transmitType : UInt8)
    (inhibitTime : UInt16) (fuel : Nat) : DeviceM Bool :=
  mapPdoInDevice escape (getTpdoIndexes tpdoNo).1 (getTpdoIndexes tpdoNo).2 entriesToBeMapped
    transmitType [(0x03, Value.ofUInt16 inhibitTime)] fuel

/-- `Device::map_tpdo_in_device(tpdo_no, entries_to_be_mapped, transmit_type,
inhibit_time, event_timer)`. -/
def mapTpdoInDevice5 (tpdoNo : TpdoNo) (entriesToBeMapped : List UInt32) (transmitType : UInt8)
    (inhibitTime eventTimer : UInt16) (fuel : Nat) : DeviceM Bool :=
  mapPdoInDevice escape (getTpdoIndexes tpdoNo).1 (getTpdoIndexes tpdoNo).2 entriesToBeMapped
    transmitType [(0x03, Value.ofUInt16 inhibitTime), (0x05, Value.ofUInt16 eventTimer)] fuel

/-- `Device::map_rpdo_in_device`. -/
def mapRpdoInDevice (rpdoNo : RpdoNo) (entriesToBeMapped : List UInt32) (transmitType : UInt8)
    (fuel : Nat) : DeviceM Bool :=
  mapPdoInDevice escape (getRpdoIndexes rpdoNo).1 (getRpdoIndexes rpdoNo).2 entriesToBeMapped
    transmitType [] fuel

/-- A call of one of the four remapping functions, with its arguments. -/
inductive PdoRemap
  | tpdo (n : TpdoNo) (entries : List UInt32) (transmitType : UInt8)
  | tpdoInhibit (n : TpdoNo) (entries : List UInt32) (transmitType : UInt8) (inhibitTime : UInt16)
  | tpdoInhibitEvent (n : TpdoNo) (entries : List UInt32) (transmitType : UInt8)
      (inhibitTime eventTimer : UInt16)
  | rpdo (n : RpdoNo) (entries : List UInt32) (transmitType : UInt8)
  deriving DecidableEq, Repr

namespace PdoRemap

def run : PdoRemap → Nat → DeviceM Bool
  | tpdo n w t => mapTpdoInDevice3 escape n w t
  | tpdoInhibit n w t h => mapTpdoInDevice4 escape n w t h
  | tpdoInhibitEvent n w t h e => mapTpdoInDevice5 escape n w t h e
  | rpdo n w t => mapRpdoInDevice escape n w t

/-- The communication and mapping parameter indexes. -/
def indexes : PdoRemap → UInt16 × UInt16
  | tpdo n .. | tpdoInhibit n .. | tpdoInhibitEvent n .. => getTpdoIndexes n
  | rpdo n .. => getRpdoIndexes n

/-- The PDO's number. -/
def number : PdoRemap → Nat
  | tpdo n .. | tpdoInhibit n .. | tpdoInhibitEvent n .. => n.number
  | rpdo n .. => n.number

/-- Whether the PDO is a receive PDO. -/
def receive : PdoRemap → Bool
  | rpdo .. => true
  | _ => false

/-- The indexes of CiA 301: `0x1800 + n - 1` and `0x1A00 + n - 1` for TPDO `n`,
`0x1400 + n - 1` and `0x1600 + n - 1` for RPDO `n`. -/
theorem indexes_cia301 (r : PdoRemap) :
    1 ≤ r.number ∧ r.number ≤ 4 ∧
      r.indexes.1.toNat = (if r.receive then 0x1400 else 0x1800) + r.number - 1 ∧
      r.indexes.2.toNat = (if r.receive then 0x1600 else 0x1A00) + r.number - 1 := by
  rcases r with ⟨n⟩ | ⟨n⟩ | ⟨n⟩ | ⟨n⟩ <;> cases n <;>
    exact ⟨Nat.le_of_ble_eq_true rfl, Nat.le_of_ble_eq_true rfl, rfl, rfl⟩

def entries : PdoRemap → List UInt32
  | tpdo _ w _ | tpdoInhibit _ w _ _ | tpdoInhibitEvent _ w _ _ _ | rpdo _ w _ => w

def transmitType : PdoRemap → UInt8
  | tpdo _ _ t | tpdoInhibit _ _ t _ | tpdoInhibitEvent _ _ t _ _ | rpdo _ _ t => t

/-- The writes after the transmit type: the inhibit time at subindex 3 and the
event timer at subindex 5, for the overloads that take them. -/
def extra : PdoRemap → List (UInt8 × Value)
  | tpdo .. | rpdo .. => []
  | tpdoInhibit _ _ _ h => [(0x03, Value.ofUInt16 h)]
  | tpdoInhibitEvent _ _ _ h e => [(0x03, Value.ofUInt16 h), (0x05, Value.ofUInt16 e)]

theorem run_eq (r : PdoRemap) (fuel : Nat) :
    r.run escape fuel = mapPdoInDevice escape r.indexes.1 r.indexes.2 r.entries r.transmitType
      r.extra fuel := by
  cases r <;> rfl

end PdoRemap

end KaCanOpen.Device
