import Mathlib.Order.Basic
import Mathlib.Order.Lattice

/-!
# Types, values, addresses and errors

The vocabulary of `device.cpp`: dictionary addresses, CANopen data types and
values, the frames and SDO requests the core carries, and the errors a device
throws. The headers declaring them are not part of the source; where their
bodies matter they are modelled from the spec, and each such definition says so.
-/

set_option autoImplicit false

namespace KaCanOpen

/-- `kaco::Type`, with the types the spec lists. -/
inductive DataType
  | boolean | int8 | int16 | int32 | uint8 | uint16 | uint32 | real32
  | string | octetString | invalid
  deriving DecidableEq, Repr

/-- Modelled from the spec: `Utils::get_type_size` is not in the source. Each
fixed-width type has its byte width; string, octet_string and invalid have no
fixed width, which the helper reports as 0. -/
def getTypeSize : DataType → Nat
  | .boolean | .int8 | .uint8 => 1
  | .int16 | .uint16 => 2
  | .int32 | .uint32 | .real32 => 4
  | .string | .octetString | .invalid => 0

/-- Modelled from the source's enumerator names: `Utils::type_to_string`. -/
def typeToString : DataType → String
  | .boolean => "boolean" | .int8 => "int8" | .int16 => "int16" | .int32 => "int32"
  | .uint8 => "uint8" | .uint16 => "uint16" | .uint32 => "uint32" | .real32 => "real32"
  | .string => "string" | .octetString => "octet_string" | .invalid => "invalid"

theorem getTypeSize_le_four (t : DataType) : getTypeSize t ≤ 4 := by
  cases t <;> decide

/-- A dictionary address, ordered lexicographically by index and subindex. -/
structure Address where
  index : UInt16
  subindex : UInt8
  deriving DecidableEq, Repr

namespace Address

def key (a : Address) : Nat := a.index.toNat*256+a.subindex.toNat

theorem key_injective : Function.Injective key := by
  rintro ⟨i, s⟩ ⟨i', s'⟩ h
  have hs := s.toNat_lt_size
  have hs' := s'.toNat_lt_size
  simp only [key, UInt8.size] at h hs hs'
  have hi : i.toNat = i'.toNat := by omega
  have hss : s.toNat = s'.toNat := by omega
  rw [UInt16.toNat.inj hi, UInt8.toNat.inj hss]

instance : LinearOrder Address := LinearOrder.lift' key key_injective

/-- `Address{}`: the value-initialised address that `operator[]` inserts. -/
def zero : Address := ⟨0, 0⟩

end Address

/-- `kaco::AccessType`. -/
inductive AccessType
  | readOnly | writeOnly | readWrite | constant
  deriving DecidableEq, Repr

/-- `kaco::ReadAccessMethod`. -/
inductive ReadAccessMethod
  | sdo | pdo | pdoRequestAndWait | useDefault
  deriving DecidableEq, Repr

/-- `kaco::WriteAccessMethod`. -/
inductive WriteAccessMethod
  | sdo | pdo | pdoRequestAndWait | useDefault
  deriving DecidableEq, Repr

/-- `kaco::Value`: a type tag and its little-endian payload. -/
structure Value where
  type : DataType
  bytes : List UInt8
  deriving DecidableEq, Repr

/-- `kaco::dictionary_error::type`. -/
inductive DictionaryErrorKind
  | unknownEntry | unknownOperation | unknownConstant | wrongType | mappingSize
  deriving DecidableEq, Repr

/-- `dictionary_error(type, name, extra)`. -/
structure DictionaryError where
  kind : DictionaryErrorKind
  name : String
  extra : String
  deriving DecidableEq, Repr

/-- `kaco::sdo_error::type`; an abort carries its 32-bit abort code. -/
inductive SdoErrorKind
  | responseTimeout | abort (code : UInt32) | malformed | unknown
  deriving DecidableEq, Repr

/-- `sdo_error(type, what)`. -/
structure SdoError where
  kind : SdoErrorKind
  what : String
  deriving DecidableEq, Repr

/-- What a device operation throws. `badValue` stands for the error of a value
conversion or construction that does not fit the type (not an `sdo_error`). -/
inductive Error
  | dictionary (e : DictionaryError)
  | canopen (what : String)
  | sdo (e : SdoError)
  | outOfRange
  | badValue (type : DataType)
  deriving DecidableEq, Repr

namespace Value

/-- `Value()`: the invalid value an entry holds before its first update. -/
def empty : Value := ⟨.invalid, []⟩

/-- Modelled from the spec: `Value(type, bytes)` validates the payload width
against the type. A type without fixed width accepts any payload. -/
def ofBytes (type : DataType) (data : List UInt8) : Except Error Value :=
  if getTypeSize type = 0 ∨ data.length = getTypeSize type then .ok ⟨type, data⟩
  else .error (.badValue type)

/-- `Value(uint8_t)`. -/
def ofUInt8 (x : UInt8) : Value := ⟨.uint8, [x]⟩

/-- `Value(uint16_t)`. -/
def ofUInt16 (x : UInt16) : Value := ⟨.uint16, [x.toUInt8, (x >>> 8).toUInt8]⟩

/-- `Value(uint32_t)`. -/
def ofUInt32 (x : UInt32) : Value :=
  ⟨.uint32, [x.toUInt8, (x >>> 8).toUInt8, (x >>> 16).toUInt8, (x >>> 24).toUInt8]⟩

/-- Modelled from the spec: the conversion `operator uint32_t()`, which reads a
`uint32` payload little-endian and rejects any other value. -/
def toUInt32 (v : Value) : Except Error UInt32 :=
  match v.type, v.bytes with
  | .uint32, [b0, b1, b2, b3] =>
    .ok (b0.toUInt32 ||| b1.toUInt32 <<< 8 ||| b2.toUInt32 <<< 16 ||| b3.toUInt32 <<< 24)
  | _, _ => .error (.badValue v.type)

theorem ofBytes_eq_ok {type : DataType} {data : List UInt8} {v : Value}
    (h : ofBytes type data = .ok v) : v = ⟨type, data⟩ := by
  unfold ofBytes at h
  split_ifs at h
  cases h; rfl

theorem ofBytes_of_length {type : DataType} {data : List UInt8}
    (h : data.length = getTypeSize type) : ofBytes type data = .ok ⟨type, data⟩ := by
  simp [ofBytes, h]

theorem toUInt32_type {v : Value} {c : UInt32} (h : v.toUInt32 = .ok c) : v.type = .uint32 := by
  unfold toUInt32 at h
  split at h
  · assumption
  · cases h

end Value

/-- `kaco::Message`: a CAN frame. -/
structure Message where
  cobId : UInt16
  rtr : Bool
  len : UInt8
  data : List UInt8
  deriving DecidableEq, Repr

/-- A request the core's SDO client puts on the bus for node `node`. -/
inductive SdoRequest
  | upload (node : UInt8) (index : UInt16) (subindex : UInt8)
  | download (node : UInt8) (index : UInt16) (subindex : UInt8) (bytes : List UInt8)
  deriving DecidableEq, Repr

/-- The outcome of one SDO transaction: the uploaded data (empty for a
download) or the `sdo_error` it ends with. -/
inductive SdoReply
  | data (bytes : List UInt8)
  | failure (e : SdoError)
  deriving DecidableEq, Repr

end KaCanOpen
