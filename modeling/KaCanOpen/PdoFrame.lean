import KaCanOpen.LastWriter

/-!
# Transmit frames read back by receive mappings

`TransmitPDOMapping::send` writes each mapped entry's current bytes into an
8-byte frame at the mapping's offset, and `pdo_received_callback` on the
receiving side caches the slice of its entry's width at its offset. The check
the transmit mapping makes when `add_transmit_pdo_mapping` constructs it (every
entry exists, has a fixed width, fits in the frame, and overlaps no mapping
before it) is what makes the two sides agree: each mapping's slice of a sent
frame holds exactly the bytes written there, so a receive mapping at the same
offset, on an entry of the same type, caches the transmitted bytes.
-/

set_option autoImplicit false

namespace KaCanOpen.Device

variable (escape : String → String)

/-! ## Writing bytes into a frame -/

theorem length_writeAt (frame : List UInt8) (offset : Nat) (bytes : List UInt8) :
    (writeAt frame offset bytes).length = frame.length := by
  simp [writeAt]

/-- Indexes outside the written bytes keep their byte. -/
theorem writeAt_frame {frame : List UInt8} {offset : Nat} {bytes : List UInt8} {i : Nat}
    (outside : i < offset ∨ offset + bytes.length ≤ i) :
    (writeAt frame offset bytes)[i]? = frame[i]? := by
  by_cases hi : i < frame.length
  · simp only [writeAt, List.getElem?_map, List.getElem?_range hi, Option.map_some']
    rw [if_neg (by omega), List.getD_eq_getElem?_getD, List.getElem?_eq_getElem hi]
    rfl
  · rw [List.getElem?_eq_none (by rw [length_writeAt]; omega), List.getElem?_eq_none (by omega)]

theorem writeAt_lane {frame : List UInt8} {offset : Nat} {bytes : List UInt8} {j : Nat}
    (room : offset + bytes.length ≤ frame.length) (bound : j < bytes.length) :
    (writeAt frame offset bytes)[offset + j]? = bytes[j]? := by
  simp only [writeAt, List.getElem?_map, List.getElem?_range (by omega : offset + j < frame.length),
    Option.map_some']
  rw [if_pos (by omega), Nat.add_sub_cancel_left, List.getD_eq_getElem?_getD,
    List.getElem?_eq_getElem bound]
  rfl

theorem length_writeMapping (d : Device) (frame : List UInt8) (m : Mapping) :
    (writeMapping escape d frame m).length = frame.length := by
  unfold writeMapping
  split
  · exact length_writeAt _ _ _
  · rfl

theorem length_pdoFrame (d : Device) (ms : List Mapping) : (pdoFrame escape d ms).length = 8 := by
  suffices h : ∀ frame : List UInt8, (ms.foldl (writeMapping escape d) frame).length = frame.length
    from h _
  induction ms with
  | nil => exact fun _ => rfl
  | cons m ms ih => exact fun frame => (ih _).trans (length_writeMapping escape d frame m)

/-! ## What the check guarantees -/

/-- Every mapped entry holds bytes of its type's width. -/
def FullWidth (d : Device) (ms : List Mapping) : Prop :=
  ∀ m ∈ ms, ∀ e, lookup d (escape m.entryName) = some e → e.value.bytes.length = getTypeSize e.type

/-- Every mapped entry holds at most its type's width of bytes, as the empty
value of an entry never written does. -/
def Narrow (d : Device) (ms : List Mapping) : Prop :=
  ∀ m ∈ ms, ∀ e, lookup d (escape m.entryName) = some e → e.value.bytes.length ≤ getTypeSize e.type

theorem FullWidth.narrow {escape} {d : Device} {ms : List Mapping} (h : FullWidth escape d ms) :
    Narrow escape d ms :=
  fun m hm e he => (h m hm e he).le

theorem Narrow.tail {escape} {d : Device} {m : Mapping} {ms : List Mapping}
    (h : Narrow escape d (m::ms)) : Narrow escape d ms :=
  fun m' hm' => h m' (List.mem_cons_of_mem _ hm')

/-- The check of the first mapping: an entry of fixed width, inside the frame,
on no byte already used; the rest is checked with its bytes used. -/
theorem checkMappings_cons {d : Device} {m : Mapping} {ms : List Mapping} {used : List Nat}
    (h : checkMappings escape d (m::ms) used = .ok ()) :
    ∃ e, lookup d (escape m.entryName) = some e ∧ 0 < getTypeSize e.type ∧
      m.offset.toNat + getTypeSize e.type ≤ 8 ∧
      (∀ i, m.offset.toNat ≤ i → i < m.offset.toNat + getTypeSize e.type → i ∉ used) ∧
      checkMappings escape d ms (used ++ List.range' m.offset.toNat (getTypeSize e.type)) = .ok () := by
  unfold checkMappings at h
  split at h
  · cases h
  · next e he =>
    dsimp only at h
    split_ifs at h with h0 h8 hu
    refine ⟨e, he, Nat.pos_of_ne_zero h0, by omega, fun i hi₁ hi₂ hi => hu ?_, h⟩
    exact List.any_eq_true.2 ⟨i, List.mem_range'_1.2 ⟨hi₁, hi₂⟩, decide_eq_true hi⟩

theorem checkMappings_mem {d : Device} :
    ∀ {ms : List Mapping} {used : List Nat}, checkMappings escape d ms used = .ok () →
      ∀ m ∈ ms, ∀ e, lookup d (escape m.entryName) = some e →
        0 < getTypeSize e.type ∧ m.offset.toNat + getTypeSize e.type ≤ 8
  | [], _, _ => fun _ hm => absurd hm (List.not_mem_nil _)
  | m::_, _, hc => by
    obtain ⟨e, he, hpos, hroom, -, hc'⟩ := checkMappings_cons escape hc
    intro m' hm' e' he'
    rcases List.mem_cons.1 hm' with rfl | hm'
    · rw [he] at he'
      cases he'
      exact ⟨hpos, hroom⟩
    · exact checkMappings_mem hc' m' hm' e' he'

/-! ## The frame -/

/-- The bytes in `used` are not written by mappings the check accepts with them used. -/
theorem foldl_writeMapping_used {d : Device} :
    ∀ {ms : List Mapping} {used : List Nat} {frame : List UInt8},
      checkMappings escape d ms used = .ok () → Narrow escape d ms →
      ∀ i ∈ used, (ms.foldl (writeMapping escape d) frame)[i]? = frame[i]?
  | [], _, _, _, _, _, _ => rfl
  | m::_, _, _, hc, hw, i, hi => by
    obtain ⟨e, he, -, -, hfree, hc'⟩ := checkMappings_cons escape hc
    rw [List.foldl_cons, foldl_writeMapping_used hc' hw.tail i (List.mem_append_left _ hi)]
    simp only [writeMapping, he]
    refine writeAt_frame ?_
    have hle := hw m (List.mem_cons_self _ _) e he
    by_contra hin
    exact hfree i (by omega) (by omega) hi

/-- Each accepted mapping's bytes stand at its offset in the frame. -/
theorem foldl_writeMapping_lane {d : Device} :
    ∀ {ms : List Mapping} {used : List Nat} {frame : List UInt8},
      checkMappings escape d ms used = .ok () → Narrow escape d ms → frame.length = 8 →
      ∀ m ∈ ms, ∀ e, lookup d (escape m.entryName) = some e → ∀ j < e.value.bytes.length,
        (ms.foldl (writeMapping escape d) frame)[m.offset.toNat + j]? = e.value.bytes[j]?
  | [], _, _, _, _, _ => fun _ hm => absurd hm (List.not_mem_nil _)
  | m::_, _, frame, hc, hw, h8 => by
    obtain ⟨e, he, -, hroom, -, hc'⟩ := checkMappings_cons escape hc
    intro m' hm' e' he' j hj
    rw [List.foldl_cons]
    rcases List.mem_cons.1 hm' with rfl | hm'
    · rw [he] at he'
      cases he'
      have hwidth := hw _ (List.mem_cons_self _ _) _ he
      rw [foldl_writeMapping_used escape hc' hw.tail _
        (List.mem_append_right _ (List.mem_range'_1.2 ⟨by omega, by omega⟩))]
      simp only [writeMapping, he]
      exact writeAt_lane (by omega) (by omega)
    · exact foldl_writeMapping_lane hc' hw.tail (by rw [length_writeMapping, h8]) m' hm' e' he' j hj

/-- Each accepted mapping's slice of the frame is its entry's bytes. -/
theorem pdoFrame_slice {d : Device} {ms : List Mapping} (hc : checkMappings escape d ms [] = .ok ())
    (hw : Narrow escape d ms) {m : Mapping} (hm : m ∈ ms) {e : Entry}
    (he : lookup d (escape m.entryName) = some e) :
    ((pdoFrame escape d ms).drop m.offset.toNat).take e.value.bytes.length = e.value.bytes := by
  apply List.ext_getElem?
  intro j
  by_cases hj : j < e.value.bytes.length
  · rw [List.getElem?_take_of_lt hj, List.getElem?_drop]
    exact foldl_writeMapping_lane escape hc hw (List.length_replicate _ _) m hm e he j hj
  · rw [List.getElem?_eq_none (by simp only [List.length_take]; omega),
      List.getElem?_eq_none (by omega)]

/-- A frame sent for an accepted transmit mapping, handed on another device to a
receive mapping at the same offset whose entry has the transmitted entry's type,
caches there the transmitted bytes. -/
theorem transmitted_bytes_received {d s : Device} {ms : List Mapping} {m : Mapping} {e e' : Entry}
    {rm : ReceivePDOMapping} {a : Address} (hc : checkMappings escape d ms [] = .ok ())
    (hw : FullWidth escape d ms) (hm : m ∈ ms) (he : lookup d (escape m.entryName) = some e)
    (ha : findAddress s (escape rm.entryName) = some a) (he' : s.dictionary.find? a = some e')
    (hoff : rm.offset = m.offset) (htype : e'.type = e.type) :
    pdoReceivedCallback escape rm (pdoFrame escape d ms) s =
      .ok () (sending (withValue s a ⟨e.type, e.value.bytes⟩)
        (callbackFrames escape (withValue s a ⟨e.type, e.value.bytes⟩) e'.callbacks)) := by
  obtain ⟨hpos, hroom⟩ := checkMappings_mem escape hc m hm e he
  have hvalid : e'.type ≠ .invalid := fun h => by rw [← htype, h] at hpos; cases hpos
  rw [pdoReceivedCallback_eq escape ha he',
    if_pos ⟨hvalid, by rw [hoff, htype, length_pdoFrame]; exact hroom⟩]
  simp only [hoff, htype, ← hw m hm e he, pdoFrame_slice escape hc hw.narrow hm he]

/-- The entry `x` of `deviceWithX` holding `5`. -/
def sentDevice : Device := DeviceM.final (setEntry id 0x6000 0 ⟨.uint8, [5]⟩ .pdo deviceWithX)

theorem transmitted_bytes_received_x :
    pdoReceivedCallback id ⟨0x181, "x", 2⟩ (pdoFrame id sentDevice [⟨"x", 2⟩]) deviceWithX =
      .ok () (sending (withValue deviceWithX ⟨0x6000, 0⟩ ⟨.uint8, [5]⟩)
        (callbackFrames id (withValue deviceWithX ⟨0x6000, 0⟩ ⟨.uint8, [5]⟩) [])) := by
  have he : lookup sentDevice "x" =
      some { Entry.make 0x6000 0 "x" .uint8 .readWrite with value := ⟨.uint8, [5]⟩ } := rfl
  exact @transmitted_bytes_received id sentDevice deviceWithX [⟨"x", 2⟩] ⟨"x", 2⟩
    { Entry.make 0x6000 0 "x" .uint8 .readWrite with value := ⟨.uint8, [5]⟩ }
    (Entry.make 0x6000 0 "x" .uint8 .readWrite) ⟨0x181, "x", 2⟩ ⟨0x6000, 0⟩ rfl
    (fun m hm e h => by rcases List.mem_singleton.1 hm with rfl; cases he.symm.trans h; rfl)
    (List.mem_singleton_self _) he rfl rfl rfl rfl

end KaCanOpen.Device
