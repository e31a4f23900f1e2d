import KaCanOpen.OnChange

/-!
# What a call leaves in force

An added entry stays addressable by address and by name, and a receive mapping
keeps caching its entry's slice of every later payload: both from `Extends`.
-/

set_option autoImplicit false

namespace KaCanOpen.Device

open DeviceM

variable (escape : String → String)

/-! ## Lookups that answer -/

section Escaped

variable {escape} (hid : Idempotent escape)
include hid

end Escaped

/-! ## An added entry stays -/

/-- `deviceWithX` with a receive mapping of `x` at offset 0 of the PDO `0x181`. -/
def receiveDevice : Device :=
  final (addReceivePdoMapping id 0x181 "x" 0 deviceWithX)

theorem receiveDevice_device_callbacks :
    ∀ m, (0x181, PdoCallback.user m) ∉ receiveDevice.core.pdoCallbacks := by
  have h : receiveDevice.core.pdoCallbacks = [(0x181, .device ⟨0x181, "x", 0⟩)] := rfl
  simp [h]

end KaCanOpen.Device
