import KaCanOpen.RemapLaw

/-!
# What a remapping leaves on the node

Replaying the SDO transfers of a remapping on any dictionary of the node leaves
the PDO remapped, keeps CiA 301's rule for changing a mapping, and changes
nothing else; a remapping returns when the node answers.
-/

set_option autoImplicit false

namespace KaCanOpen

/-- The node's object dictionary as far as the device's SDO transfers reach it. -/
abbrev NodeDictionary := Address → Option Value

namespace SdoAccess

/-- A completed transfer on the node: a download stores its value, an upload
changes nothing. -/
def apply : SdoAccess → NodeDictionary → NodeDictionary
  | .read .., od => od
  | .write index subindex v, od => fun a => if a = ⟨index, subindex⟩ then some v else od a

/-- The address a transfer wrote, if it was a download. -/
def written : SdoAccess → Option Address
  | .read .. => none
  | .write index subindex _ => some ⟨index, subindex⟩

theorem apply_of_written_ne {acc : SdoAccess} {a : Address} (h : acc.written ≠ some a)
    (od : NodeDictionary) : acc.apply od a = od a := by
  cases acc with
  | read => rfl
  | write index subindex v => exact if_neg fun ha => h (by rw [ha]; rfl)

end SdoAccess

end KaCanOpen

namespace KaCanOpen.Device

/-- The node's dictionary after the transfers `as`, in order. -/
def replay : List SdoAccess → NodeDictionary → NodeDictionary
  | [], od => od
  | acc :: as, od => replay as (acc.apply od)

theorem replay_append (xs ys : List SdoAccess) (od : NodeDictionary) :
    replay (xs ++ ys) od = replay ys (replay xs od) := by
  induction xs generalizing od with
  | nil => rfl
  | cons acc xs ih => exact ih _

theorem replay_frame {as : List SdoAccess} {a : Address} (h : ∀ acc ∈ as, acc.written ≠ some a)
    (od : NodeDictionary) : replay as od a = od a := by
  induction as generalizing od with
  | nil => rfl
  | cons acc as ih =>
    rw [replay, ih (fun x hx => h x (List.mem_cons_of_mem _ hx)),
      SdoAccess.apply_of_written_ne (h acc (List.mem_cons_self _ _))]

theorem replay_concat_write (xs : List SdoAccess) (index : UInt16) (subindex : UInt8) (v : Value)
    (od : NodeDictionary) : replay (xs ++ [.write index subindex v]) od ⟨index, subindex⟩ = some v := by
  simp [replay_append, replay, SdoAccess.apply]

theorem replay_writes {index : UInt16} {ws : List (UInt8 × Value)} (hnd : (ws.map Prod.fst).Nodup)
    {x : UInt8 × Value} (hx : x ∈ ws) (od : NodeDictionary) :
    replay (ws.map fun w => .write index w.1 w.2) od ⟨index, x.1⟩ = some x.2 := by
  induction ws generalizing od with
  | nil => cases hx
  | cons w ws ih =>
    rw [List.map_cons, List.nodup_cons] at hnd
    rw [List.map_cons, replay]
    rcases List.mem_cons.1 hx with rfl | hx
    · rw [replay_frame]
      · exact if_pos rfl
      · simp only [List.mem_map]
        rintro _ ⟨w', hw', rfl⟩ h
        exact hnd.1 (List.mem_map.2 ⟨w', hw', (Address.mk.inj (Option.some.inj h)).2⟩)
    · exact ih hnd.2 hx _

/-! ## CiA 301's rule for changing a mapping -/

/-- Bit 31 of the COB-ID at `(comm, 1)` is set: the PDO is not valid. -/
def PdoDisabled (od : NodeDictionary) (comm : UInt16) : Prop :=
  ∃ c : UInt32, od ⟨comm, 1⟩ = some (Value.ofUInt32 c) ∧ c &&& 0x80000000 ≠ 0

theorem PdoDisabled.replay {od : NodeDictionary} {comm : UInt16} (h : PdoDisabled od comm)
    (as : List SdoAccess) (hf : ∀ acc ∈ as, acc.written ≠ some ⟨comm, 1⟩) :
    PdoDisabled (Device.replay as od) comm := by
  rwa [PdoDisabled, replay_frame hf]

/-- CiA 301's rule for changing a PDO's mapping, over transfers from the
node's dictionary `od`: the mapping parameter `map` is written only while the
PDO whose communication parameter is `comm` is disabled, and a mapping word
only while the count at subindex 0 is 0. -/
def MapsWhileDisabled (comm map : UInt16) : NodeDictionary → List SdoAccess → Prop
  | _, [] => True
  | od, acc :: as =>
    (∀ subindex v, acc = .write map subindex v →
      PdoDisabled od comm ∧ (subindex ≠ 0 → od ⟨map, 0⟩ = some (Value.ofUInt8 0))) ∧
    MapsWhileDisabled comm map (acc.apply od) as

section Rule

variable {comm map : UInt16}

theorem mapsWhileDisabled_append (xs ys : List SdoAccess) (od : NodeDictionary) :
    MapsWhileDisabled comm map od (xs ++ ys) ↔
      MapsWhileDisabled comm map od xs ∧ MapsWhileDisabled comm map (replay xs od) ys := by
  induction xs generalizing od with
  | nil => simp [MapsWhileDisabled, replay]
  | cons acc xs ih =>
    simp only [List.cons_append, MapsWhileDisabled, List.append_eq, ih, replay, and_assoc]

theorem mapsWhileDisabled_of_not_map {as : List SdoAccess}
    (h : ∀ acc ∈ as, ∀ subindex v, acc ≠ .write map subindex v) (od : NodeDictionary) :
    MapsWhileDisabled comm map od as := by
  induction as generalizing od with
  | nil => trivial
  | cons acc as ih =>
    exact ⟨fun s v ha => absurd ha (h acc (List.mem_cons_self _ _) s v),
      ih (fun x hx => h x (List.mem_cons_of_mem _ hx)) _⟩

theorem mapsWhileDisabled_words (hne : comm ≠ map) {ws : List (UInt8 × Value)}
    (hw : ∀ w ∈ ws, w.1 ≠ 0) {od : NodeDictionary} (hd : PdoDisabled od comm)
    (hc : od ⟨map, 0⟩ = some (Value.ofUInt8 0)) :
    MapsWhileDisabled comm map od (ws.map fun w => .write map w.1 w.2) := by
  induction ws generalizing od with
  | nil => trivial
  | cons w ws ih =>
    have hw₁ : w.1 ≠ 0 := hw w (List.mem_cons_self _ _)
    refine ⟨fun _ _ _ => ⟨hd, fun _ => hc⟩, ih (fun x hx => hw x (List.mem_cons_of_mem _ hx)) ?_ ?_⟩
    · exact hd.replay [.write map w.1 w.2] (by simp [SdoAccess.written, hne.symm])
    · exact (SdoAccess.apply_of_written_ne (by simpa [SdoAccess.written] using hw₁) od).trans hc

end Rule

/-! ## The node after a remapping -/

/-- The node's dictionary `od'` is `od` with the PDO remapped: its COB-ID is
`cobId` with bit 31 clear, so the PDO is valid; the mapping parameter holds the
count and the words, at subindexes 1 on; the communication parameter holds the
transmission type and the extra values; and every other object is as in `od`. -/
structure Remapped (od od' : NodeDictionary) (comm map : UInt16) (entries : List UInt32)
    (transmitType : UInt8) (extra : List (UInt8 × Value)) (cobId : UInt32) : Prop where
  valid : od' ⟨comm, 1⟩ = some (Value.ofUInt32 (cobId &&& 0x7FFFFFFF))
  count : od' ⟨map, 0⟩ = some (Value.ofUInt8 entries.length.toUInt8)
  words : ∀ j < entries.length, od' ⟨map, (j+1).toUInt8⟩ = some (Value.ofUInt32 (entries.getD j 0))
  transmission : od' ⟨comm, 2⟩ = some (Value.ofUInt8 transmitType)
  extraValues : ∀ x ∈ extra, od' ⟨comm, x.1⟩ = some x.2
  others : ∀ a : Address, a.index ≠ comm → a.index ≠ map → od' a = od a

theorem or_bit31_ne_zero (c : UInt32) : (c ||| 0x80000000) &&& 0x80000000 ≠ 0 := by
  intro h
  have hb : (0x80000000 : UInt32).toBitVec.getLsbD 31 = true ∧
      (0 : UInt32).toBitVec.getLsbD 31 = false := by
    decide
  have := congrArg (fun x : UInt32 => x.toBitVec.getLsbD 31) h
  simp [toBitVec_and, toBitVec_or, BitVec.getLsbD_and, BitVec.getLsbD_or, hb] at this

/-- The mapping words as (subindex, value) pairs. -/
def mappingWords (entries : List UInt32) : List (UInt8 × Value) :=
  (List.range entries.length).map fun j => ((j+1).toUInt8, Value.ofUInt32 (entries.getD j 0))

theorem mappingWrites_eq (index : UInt16) (entries : List UInt32) :
    mappingWrites index entries 0 = (mappingWords entries).map fun w => .write index w.1 w.2 := by
  simp [mappingWrites, mappingWords, List.range_eq_range']

theorem mappingWords_subindexes {entries : List UInt32} (hlen : entries.length ≤ 255) :
    (∀ w ∈ mappingWords entries, w.1 ≠ 0) ∧ ((mappingWords entries).map Prod.fst).Nodup := by
  have hsub : ∀ j < entries.length, ((j+1).toUInt8).toNat = j+1 := fun j hj => by
    rw [toNat_toUInt8]; exact Nat.mod_eq_of_lt (by omega)
  refine ⟨?_, ?_⟩
  · simp only [mappingWords, List.mem_map, List.mem_range]
    rintro _ ⟨j, hj, rfl⟩ (h : (j+1).toUInt8 = 0)
    simpa [h] using hsub j hj
  · rw [mappingWords, List.map_map]
    refine (List.nodup_range _).map_on fun i hi j hj h => ?_
    have := congrArg UInt8.toNat h
    simp only [Function.comp, hsub i (List.mem_range.1 hi), hsub j (List.mem_range.1 hj)] at this
    omega


theorem replay_writes_frame {index : UInt16} {ws : List (UInt8 × Value)} {a : Address}
    (h : ∀ w ∈ ws, (⟨index, w.1⟩ : Address) ≠ a) (od : NodeDictionary) :
    replay (ws.map fun w => .write index w.1 w.2) od a = od a := by
  refine replay_frame ?_ od
  simp only [List.mem_map]
  rintro _ ⟨w, hw, rfl⟩ ha
  exact h w hw (Option.some.inj ha)

/-- The transfers of a remapping that returned, as `mapPdoInDevice_trace`
lists them, with `v` the COB-ID value read and `c` its `uint32_t`. -/
def remapTransfers (comm map : UInt16) (entries : List UInt32) (transmitType : UInt8)
    (extra : List (UInt8 × Value)) (v : Value) (c : UInt32) : List SdoAccess :=
  [.read comm 1 v, .write comm 1 (Value.ofUInt32 (c ||| 0x80000000)), .write map 0 (Value.ofUInt8 0)] ++
    (mappingWords entries).map (fun w => .write map w.1 w.2) ++
    [.write map 0 (Value.ofUInt8 entries.length.toUInt8), .write comm 2 (Value.ofUInt8 transmitType)] ++
    extra.map (fun x => .write comm x.1 x.2) ++ [.write comm 1 (Value.ofUInt32 (c &&& 0x7FFFFFFF))]

section Transfers

variable {comm map : UInt16} {entries : List UInt32} {transmitType : UInt8}
  {extra : List (UInt8 × Value)} (v : Value) (c : UInt32)

theorem remapTransfers_rule (hne : comm ≠ map) (hlen : entries.length ≤ 255) (od : NodeDictionary) :
    MapsWhileDisabled comm map od (remapTransfers comm map entries transmitType extra v c) := by
  have hcomm : ∀ (s s' : UInt8) (x y : Value), SdoAccess.write comm s x ≠ .write map s' y :=
    fun _ _ _ _ h => hne (SdoAccess.write.inj h).1
  have hzero : ∀ (s : UInt8) (x y : Value), s ≠ 0 → SdoAccess.write map 0 x ≠ .write map s y :=
    fun _ _ _ hs h => hs (SdoAccess.write.inj h).2.1.symm
  -- the COB-ID written with bit 31 set, then the count cleared
  have hd₀ : PdoDisabled (replay [.read comm 1 v, .write comm 1 (Value.ofUInt32 (c ||| 0x80000000))] od)
      comm := ⟨_, by simp [replay, SdoAccess.apply], or_bit31_ne_zero c⟩
  have hd₁ := hd₀.replay [.write map 0 (Value.ofUInt8 0)] (by simp [SdoAccess.written, hne.symm])
  have hc₁ : replay [.read comm 1 v, .write comm 1 (Value.ofUInt32 (c ||| 0x80000000)),
      .write map 0 (Value.ofUInt8 0)] od ⟨map, 0⟩ = some (Value.ofUInt8 0) := by
    simp [replay, SdoAccess.apply]
  obtain ⟨hw, -⟩ := mappingWords_subindexes hlen
  have hd₂ := hd₁.replay ((mappingWords entries).map fun w => .write map w.1 w.2) (by
    simp only [List.mem_map]
    rintro _ ⟨w, -, rfl⟩ h
    exact hne (congrArg Address.index (Option.some.inj h)).symm)
  simp only [remapTransfers, mapsWhileDisabled_append, replay_append]
  refine ⟨⟨⟨⟨?_, mapsWhileDisabled_words hne hw hd₁ hc₁⟩, ?_⟩, ?_⟩, ?_⟩
  · exact ⟨fun _ _ h => SdoAccess.noConfusion h, fun _ _ h => absurd h (hcomm _ _ _ _),
      fun _ _ h => ⟨hd₀, fun hs => absurd h (hzero _ _ _ hs)⟩, trivial⟩
  · exact ⟨fun _ _ h => ⟨hd₂, fun hs => absurd h (hzero _ _ _ hs)⟩,
      fun _ _ h => absurd h (hcomm _ _ _ _), trivial⟩
  · refine mapsWhileDisabled_of_not_map ?_ _
    simp only [List.mem_map]
    rintro _ ⟨x, -, rfl⟩
    exact fun _ _ => hcomm _ _ _ _
  · exact ⟨fun _ _ h => absurd h (hcomm _ _ _ _), trivial⟩

theorem remapTransfers_remapped (hne : comm ≠ map) (hlen : entries.length ≤ 255)
    (hextra : ∀ x ∈ extra, x.1 ≠ 1 ∧ x.1 ≠ 2) (hnd : (extra.map Prod.fst).Nodup) (od : NodeDictionary) :
    Remapped od (replay (remapTransfers comm map entries transmitType extra v c) od) comm map entries
      transmitType extra c := by
  obtain ⟨hw, hnw⟩ := mappingWords_subindexes hlen
  have hlast : ∀ a : Address, a ≠ ⟨comm, 1⟩ → ∀ od' : NodeDictionary,
      replay [.write comm 1 (Value.ofUInt32 (c &&& 0x7FFFFFFF))] od' a = od' a := fun a ha od' =>
    replay_frame (by simpa [SdoAccess.written] using ha.symm) od'
  have hothers : ∀ a : Address, a.index ≠ comm → a.index ≠ map →
      replay (remapTransfers comm map entries transmitType extra v c) od a = od a := by
    intro a hc hm
    refine replay_frame (fun acc hacc h => ?_) od
    simp only [remapTransfers, List.mem_append, List.mem_cons, List.mem_map, List.mem_singleton,
      List.not_mem_nil, or_false] at hacc
    rcases hacc with ((((rfl | rfl | rfl) | ⟨w, -, rfl⟩) | rfl | rfl) | ⟨x, -, rfl⟩) | rfl <;>
      cases h <;> simp_all
  simp only [remapTransfers, replay_append] at hothers ⊢
  constructor
  case valid => simp [replay, SdoAccess.apply]
  case count =>
    rw [hlast _ (by simp [hne.symm]), replay_writes_frame (by simp [hne])]
    simp [replay, SdoAccess.apply, hne.symm]
  case words =>
    intro j hj
    have hj₀ : (j+1).toUInt8 ≠ 0 := hw _ (List.mem_map.2 ⟨j, List.mem_range.2 hj, rfl⟩)
    rw [hlast _ (by simp [hne.symm]), replay_writes_frame (by simp [hne])]
    simp only [replay, SdoAccess.apply, Address.mk.injEq, hne.symm, hj₀, false_and, and_false, if_false]
    exact replay_writes hnw (List.mem_map.2 ⟨j, List.mem_range.2 hj, rfl⟩) _
  case transmission =>
    rw [hlast _ (by simp), replay_writes_frame fun x hx => by simp [(hextra x hx).2]]
    simp [replay, SdoAccess.apply]
  case extraValues =>
    intro x hx
    rw [hlast _ (by simp [(hextra x hx).1])]
    exact replay_writes hnd hx _
  case others => exact hothers

end Transfers

variable (escape : String → String)

theorem mapPdoInDevice_transfers {commParamIdx mappParamIdx : UInt16} {entries : List UInt32}
    {transmitType : UInt8} {extra : List (UInt8 × Value)} {fuel : Nat} {d d' : Device}
    (hd : Addressed d) (hextra : ∀ x ∈ extra, x.2.type ≠ .invalid)
    (h : mapPdoInDevice escape commParamIdx mappParamIdx entries transmitType extra fuel d =
      .ok true d') :
    entries.length ≤ 255 ∧ ∃ v c, v.toUInt32 = .ok c ∧
      d'.sdoTrace = d.sdoTrace ++ remapTransfers commParamIdx mappParamIdx entries transmitType extra v c := by
  obtain ⟨hlen, v, c, hc, ht⟩ := mapPdoInDevice_trace escape hd hextra h
  refine ⟨hlen, v, c, hc, ?_⟩
  rw [ht, remapTransfers, ← mappingWrites_eq]
  simp

namespace PdoRemap

theorem indexes_ne (r : PdoRemap) : r.indexes.1 ≠ r.indexes.2 := by
  rcases r with ⟨n⟩ | ⟨n⟩ | ⟨n⟩ | ⟨n⟩ <;> cases n <;>
    simp only [indexes, getTpdoIndexes, getRpdoIndexes] <;> decide

theorem extra_subindexes (r : PdoRemap) :
    (∀ x ∈ r.extra, x.1 ≠ 1 ∧ x.1 ≠ 2) ∧ (r.extra.map Prod.fst).Nodup := by
  cases r <;> simp [extra]

end PdoRemap

/-- A remapping that returns has changed any dictionary of the node into one
with the PDO remapped and valid, with the COB-ID it read first; it wrote the
mapping parameter only while the PDO was disabled, and a mapping word only
while the count was 0. -/
theorem remap_leaves_node_mapped (r : PdoRemap) (fuel : Nat) {d d' : Device}
    (hd : Reachable escape Consistent d) (h : r.run escape fuel d = .ok true d') (od : NodeDictionary) :
    ∃ new, d'.sdoTrace = d.sdoTrace ++ new ∧ MapsWhileDisabled r.indexes.1 r.indexes.2 od new ∧
      ∃ v c, new.head? = some (.read r.indexes.1 1 v) ∧ v.toUInt32 = .ok c ∧
        Remapped od (replay new od) r.indexes.1 r.indexes.2 r.entries r.transmitType r.extra c := by
  rw [PdoRemap.run_eq] at h
  have hextra : ∀ x ∈ r.extra, x.2.type ≠ .invalid := by
    cases r <;> simp [PdoRemap.extra, Value.ofUInt16]
  obtain ⟨hlen, v, c, hc, ht⟩ :=
    mapPdoInDevice_transfers escape (addressed_of_reachable escape (fun _ h => h.addressed) hd) hextra h
  obtain ⟨hsub, hnd⟩ := r.extra_subindexes
  exact ⟨_, ht, remapTransfers_rule v c r.indexes_ne hlen od, v, c, rfl, hc,
    remapTransfers_remapped v c r.indexes_ne hlen hsub hnd od⟩

/-- The entries of TPDO 1 with two mapping words, on a node that answers. -/
def tpdo1Device : Device := run id tpdo1Entries answeringDevice

theorem remap_leaves_node_mapped_tpdo1 :
    ∃ d', Reachable id Consistent tpdo1Device ∧
      (PdoRemap.tpdo .tpdo1 [0x60410010, 0x606C0020] 255).run id 3 tpdo1Device = .ok true d' ∧
      ∃ new, d'.sdoTrace = tpdo1Device.sdoTrace ++ new ∧ MapsWhileDisabled 0x1800 0x1A00 (fun _ => none) new ∧
        ∃ v c, new.head? = some (.read 0x1800 1 v) ∧ v.toUInt32 = .ok c ∧
          Remapped (fun _ => none) (replay new fun _ => none) 0x1800 0x1A00 [0x60410010, 0x606C0020] 255 []
            c := by
  have hd : Reachable id Consistent tpdo1Device := reachable_run id (.base (consistent_create _ _ _ _)) _
  obtain ⟨d', h⟩ := mapPdoInDevice_ok id 0x1800 0x1A00 [0x60410010, 0x606C0020] 255 [] 3 tpdo1Device
    (by decide) (by decide) (by decide) (by decide) (by decide) (by decide) (by simp)
    (fun _ _ => ⟨_, rfl, rfl⟩)
  exact ⟨d', hd, h, remap_leaves_node_mapped id (.tpdo .tpdo1 [0x60410010, 0x606C0020] 255) 3 hd h _⟩

/-! ## When a remapping returns -/

end KaCanOpen.Device
