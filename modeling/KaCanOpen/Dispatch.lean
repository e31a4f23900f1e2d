import KaCanOpen.Persistence
import KaCanOpen.TypedCache
import KaCanOpen.RemapLaw

/-!
# The core hands a received PDO to the device

On a COB-ID bound only to `pdo_received_callback`, never to a caller's function,
the dispatch of a frame returns and caches, in registration order, the slice
each callback cuts from the payload.
-/

set_option autoImplicit false

namespace KaCanOpen.Device

open DeviceM

variable (escape : String → String)

/-! ## No callback throws -/

theorem pdoReceivedCallback_ok (mapping : ReceivePDOMapping) (data : List UInt8) (d : Device) :
    ∃ d', pdoReceivedCallback escape mapping data d = .ok () d' := by
  obtain ⟨a, -, e, s, -, -, ha, he, hcall⟩ := pdoReceivedCallback_lookups escape mapping data d
  rw [hcall, pdoReceivedCallback_eq escape ha he]
  split_ifs <;> exact ⟨_, rfl⟩

theorem deliverAll_ok (data : List UInt8) : ∀ (cbs : List PdoCallback), (∀ m, .user m ∉ cbs) →
    ∀ d, ∃ d', deliverAll escape data cbs d = .ok () d'
  | [], _, d => ⟨d, rfl⟩
  | cb::cbs, hu, d => by
    obtain ⟨d₁, h₁⟩ : ∃ d₁, deliver escape cb data d = .ok () d₁ := by
      cases cb with
      | device m => exact pdoReceivedCallback_ok escape m data d
      | user m => exact absurd (List.mem_cons_self _ _) (hu m)
    obtain ⟨d', h'⟩ := deliverAll_ok data cbs (fun m hm => hu m (List.mem_cons_of_mem _ hm)) d₁
    exact ⟨d', by rw [deliverAll, bind_apply, h₁]; exact h'⟩

theorem processPdo_eq (cobId : UInt16) (data : List UInt8) (d : Device) :
    processPdo escape cobId data d =
      deliverAll escape data ((d.core.pdoCallbacks.filter (·.1 == cobId)).map (·.2)) d := rfl

theorem mem_pdoCallbacks_of_dispatched {d : Device} {cobId : UInt16} {cb : PdoCallback}
    (h : cb ∈ (d.core.pdoCallbacks.filter (·.1 == cobId)).map (·.2)) : (cobId, cb) ∈ d.core.pdoCallbacks := by
  obtain ⟨⟨c, _⟩, hp, rfl⟩ := List.mem_map.1 h
  obtain ⟨hm, hc⟩ := List.mem_filter.1 hp
  rwa [← beq_iff_eq.1 hc]

/-- A frame for a COB-ID that no caller's function is bound to returns, whatever
the device's state: no callback of the device throws. -/
theorem received_frame_never_throws (cobId : UInt16) (data : List UInt8) (d : Device)
    (hu : ∀ m, (cobId, PdoCallback.user m) ∉ d.core.pdoCallbacks) :
    ∃ d', processPdo escape cobId data d = .ok () d' := by
  rw [processPdo_eq]
  exact deliverAll_ok escape data _ (fun m hm => hu m (mem_pdoCallbacks_of_dispatched hm)) d

theorem received_frame_never_throws_x :
    (∀ m, (0x181, PdoCallback.user m) ∉ receiveDevice.core.pdoCallbacks) ∧
      ∃ d', processPdo id 0x181 [9, 1] receiveDevice = .ok () d' :=
  ⟨receiveDevice_device_callbacks, received_frame_never_throws id 0x181 [9, 1] receiveDevice
    receiveDevice_device_callbacks⟩

/-! ## What a frame caches -/

/-- What one callback caches from a payload, read in the state `d`. -/
def callbackWrite (d : Device) (data : List UInt8) : PdoCallback → Option (Address × Value)
  | .device m =>
    (findAddress d (escape m.entryName)).bind fun a =>
      (typeAt d a).bind fun type =>
        if type ≠ .invalid ∧ m.offset.toNat + getTypeSize type ≤ data.length then
          some (a, ⟨type, (data.drop m.offset.toNat).take (getTypeSize type)⟩)
        else none
  | .user _ => none

theorem callbackWrite_congr {d d' : Device} (hn : d'.nameToAddress = d.nameToAddress)
    (ht : typeAt d' = typeAt d) (data : List UInt8) : callbackWrite escape d' data = callbackWrite escape d data := by
  funext cb
  cases cb <;> simp only [callbackWrite, findAddress, hn, ht]

def CallbackBound (d : Device) (cb : PdoCallback) : Prop :=
  ∃ m, cb = .device m ∧ (findAddress d (escape m.entryName)).isSome

theorem deliver_value (data : List UInt8) {cb : PdoCallback} {s : Device} (hs : Consistent s)
    (hcb : CallbackBound escape s cb) :
    ∃ s', deliver escape cb data s = .ok () s' ∧ SameShape s s' ∧ typeAt s' = typeAt s ∧
      s'.core.pdoCallbacks = s.core.pdoCallbacks ∧
      values s' = applyWrites (callbackWrite escape s data cb).toList (values s) := by
  obtain ⟨m, rfl, hm⟩ := hcb
  obtain ⟨a, ha⟩ := Option.isSome_iff_exists.1 hm
  obtain ⟨e, he⟩ := Option.isSome_iff_exists.1 (hs.names_resolve _ a ha)
  have ht : typeAt s a = some e.type := by simp [typeAt, he]
  simp only [deliver, pdoReceivedCallback_eq escape ha he, callbackWrite, ha, ht, Option.some_bind]
  split_ifs
  · exact ⟨_, rfl, (sameShape_withValue _ _ _).trans (sameShape_sending _ _), typeAt_sending_withValue _ _ _ _,
      rfl, values_withValue _ he⟩
  · exact ⟨s, rfl, SameShape.refl _, rfl, rfl, rfl⟩

theorem deliverAll_value (data : List UInt8) : ∀ (cbs : List PdoCallback) {s : Device}, Wf escape s →
    (∀ cb ∈ cbs, CallbackBound escape s cb) →
    ∃ s', deliverAll escape data cbs s = .ok () s' ∧ SameShape s s' ∧ typeAt s' = typeAt s ∧
      values s' = applyWrites (cbs.filterMap (callbackWrite escape s data)) (values s)
  | [], s, _, _ => ⟨s, rfl, SameShape.refl _, rfl, rfl⟩
  | cb::cbs, s, hs, hcb => by
    obtain ⟨s₁, h₁, hsh₁, ht₁, -, hv₁⟩ := deliver_value escape data hs.toConsistent (hcb cb (List.mem_cons_self _ _))
    have hcb₁ : ∀ cb' ∈ cbs, CallbackBound escape s₁ cb' := fun cb' hm => by
      simpa only [CallbackBound, findAddress, hsh₁.names] using hcb cb' (List.mem_cons_of_mem _ hm)
    obtain ⟨s', h', hsh', ht', hv'⟩ := deliverAll_value data cbs (hs.of_sameShape hsh₁) hcb₁
    refine ⟨s', by rw [deliverAll, bind_apply, h₁]; exact h', hsh₁.trans hsh', ht'.trans ht₁, ?_⟩
    rw [hv', callbackWrite_congr escape hsh₁.names ht₁, hv₁, ← applyWrites_append, List.filterMap_cons]
    cases callbackWrite escape s data cb <;> rfl

/-- On a well-formed dictionary whose device callbacks name entries, the dispatch
of a frame for a COB-ID that no caller's function is bound to changes no name,
entry or type, and caches in registration order what each callback cuts from the
payload, as read in the state the frame arrives in. -/
theorem received_frame_caches_slices {s : Device} (hs : Wf escape s) (hb : Bound escape s)
    (cobId : UInt16) (data : List UInt8) (hu : ∀ m, (cobId, PdoCallback.user m) ∉ s.core.pdoCallbacks) :
    ∃ s', processPdo escape cobId data s = .ok () s' ∧ SameShape s s' ∧ typeAt s' = typeAt s ∧
      values s' = applyWrites
        (((s.core.pdoCallbacks.filter (·.1 == cobId)).map (·.2)).filterMap (callbackWrite escape s data))
        (values s) := by
  rw [processPdo_eq]
  refine deliverAll_value escape data _ hs fun cb hcb => ?_
  have hmem := mem_pdoCallbacks_of_dispatched hcb
  cases cb with
  | device m => exact ⟨m, rfl, hb cobId m hmem⟩
  | user m => exact absurd hmem (hu m)

theorem received_frame_caches_slices_x :
    Wf id receiveDevice ∧ Bound id receiveDevice ∧
      (∀ m, (0x181, PdoCallback.user m) ∉ receiveDevice.core.pdoCallbacks) ∧
      ∃ s', processPdo id 0x181 [9, 1] receiveDevice = .ok () s' ∧ SameShape receiveDevice s' ∧
        typeAt s' = typeAt receiveDevice ∧
        values s' = applyWrites [(⟨0x6000, 0⟩, ⟨.uint8, [9]⟩)] (values receiveDevice) := by
  have hx : Wf id deviceWithX :=
    Wf.keeps_addEntry (fun _ => rfl) 0x6000 0 "x" .uint8 .readWrite emptyDevice (wf_create id _ _ _ _)
  obtain ⟨hsh, -, hb⟩ := addReceivePdoMapping_value (fun _ => rfl) hx (fun _ _ h => by cases h)
    (show addReceivePdoMapping id 0x181 "x" 0 deviceWithX = .ok () receiveDevice from rfl)
  have hs : Wf id receiveDevice := hx.of_sameShape hsh
  exact ⟨hs, hb, receiveDevice_device_callbacks,
    received_frame_caches_slices id hs hb 0x181 [9, 1] receiveDevice_device_callbacks⟩

end KaCanOpen.Device
