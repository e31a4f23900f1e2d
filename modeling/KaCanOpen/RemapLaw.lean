import KaCanOpen.Access
import KaCanOpen.Addressed
import KaCanOpen.RetryLaw

/-!
# Remapping a PDO on the node

`map_tpdo_in_device` and `map_rpdo_in_device` talk to the node through
`get_entry` and `set_entry` with SDO access, which address the transfer by the
entry's own index and subindex. In every state the calls reach, entries sit at
their own address, so a remapping that returns has read the COB-ID once and
written exactly the CiA 301 sequence. `write_entry` counts in `uint8_t`: with
fewer than 256 words its loop ends, with 256 or more it wraps around and, on a
mapping parameter whose 256 subindexes all accept a word, never ends.
-/

set_option autoImplicit false

namespace KaCanOpen.Device

open DeviceM

variable (escape : String → String)

/-! ## What a remapping that returns did -/

theorem address_of_addressed {d : Device} {index : UInt16} {subindex : UInt8} {e : Entry}
    (hd : Addressed d) (he : d.dictionary.find? ⟨index, subindex⟩ = some e)
    (ht : e.type ≠ .invalid) : e.index = index ∧ e.subindex = subindex := by
  rcases hd _ e he with h | h
  · exact ⟨congrArg Address.index h, congrArg Address.subindex h⟩
  · exact absurd h ht

theorem setEntry_sdo_trace {index : UInt16} {subindex : UInt8} {value : Value} {d d' : Device}
    (hd : Addressed d) (hv : value.type ≠ .invalid)
    (h : setEntry escape index subindex value .sdo d = .ok () d') :
    d'.sdoTrace = d.sdoTrace ++ [.write index subindex value] := by
  rw [setEntry_eq] at h
  cases he : d.dictionary.find? ⟨index, subindex⟩ with
  | none => rw [he] at h; cases h
  | some e =>
    rw [he] at h
    simp only [true_or, ↓reduceIte] at h
    split_ifs at h with ht
    · obtain ⟨hi, hs⟩ := address_of_addressed hd he (by rwa [← not_not.1 ht])
      rw [setEntryViaSdo_ok h, hi, hs]
      rfl

theorem getEntry_sdo_trace {index : UInt16} {subindex : UInt8} {v : Value} {d d' : Device}
    (hd : Addressed d) (hv : v.type ≠ .invalid)
    (h : getEntry escape index subindex .sdo d = .ok v d') :
    d'.sdoTrace = d.sdoTrace ++ [.read index subindex v] := by
  rw [getEntry_eq] at h
  cases he : d.dictionary.find? ⟨index, subindex⟩ with
  | none => rw [he] at h; cases h
  | some e =>
    rw [he] at h
    simp only [true_or, ↓reduceIte] at h
    cases hr : getEntryViaSdo e.index e.subindex e.type d with
    | error x d1 => rw [hr] at h; cases h
    | ok w d1 =>
      rw [hr] at h
      cases h
      obtain ⟨hw, ht⟩ := getEntryViaSdo_ok hr
      obtain ⟨hi, hs⟩ := address_of_addressed hd he (hw ▸ hv)
      rw [← hi, ← hs]
      exact ht

theorem UInt8.toNat_add_one (i : UInt8) : (i + 1).toNat = (i.toNat + 1) % 256 := by
  show (i.toBitVec + 1).toNat = _
  rw [BitVec.toNat_add]
  rfl

theorem UInt8.add_one_eq (i : UInt8) : i + 1 = (i.toNat + 1).toUInt8 :=
  UInt8.toNat.inj ((UInt8.toNat_add_one i).trans rfl)

/-- The writes of `write_entry` from word `i` on: word `j` as `uint32_t` at
subindex `j + 1`. -/
def mappingWrites (index : UInt16) (entries : List UInt32) (i : Nat) : List SdoAccess :=
  (List.range' i (entries.length - i)).map fun j =>
    .write index (j+1).toUInt8 (Value.ofUInt32 (entries.getD j 0))

theorem mappingWrites_of_lt {index : UInt16} {entries : List UInt32} {i : Nat}
    (h : i < entries.length) :
    mappingWrites index entries i = .write index (i+1).toUInt8 (Value.ofUInt32 (entries.getD i 0)) ::
      mappingWrites index entries (i+1) := by
  rw [mappingWrites, show entries.length - i = (entries.length - (i+1)) + 1 by omega]
  rfl

/-- A loop of `write_entry` that ends has written every remaining word, and
there are fewer than 256 of them. -/
theorem writeEntryLoop_trace (index : UInt16) (entries : List UInt32) :
    ∀ fuel (i : UInt8) {d d' : Device}, Addressed d → i.toNat ≤ entries.length →
      writeEntryLoop escape index entries fuel i i d = .ok true d' →
      entries.length ≤ 255 ∧ d'.sdoTrace = d.sdoTrace ++ mappingWrites index entries i.toNat
  | 0, _, _, _, _, _, h => by cases h
  | fuel+1, i, d, d', hd, hi, h => by
    rw [writeEntryLoop] at h
    split_ifs at h with hlt
    · obtain ⟨_, d₁, h₁, h₂⟩ := bind_eq_ok.1 h
      have ht₁ := setEntry_sdo_trace escape hd (by simp [Value.ofUInt32]) h₁
      have hd₁ := Keeps.of_ok (Addressed.keeps_setEntry escape _ _ _ _) hd h₁
      have hsucc : (i+1).toNat = i.toNat+1 ∨ i.toNat = 255 := by
        have : i.toNat < 256 := i.toNat_lt_size
        rw [UInt8.toNat_add_one]; omega
      rcases hsucc with hsucc | h255
      · obtain ⟨hlen, ht₂⟩ := writeEntryLoop_trace index entries fuel (i+1) hd₁ (by omega) h₂
        refine ⟨hlen, ?_⟩
        rw [ht₂, ht₁, hsucc, mappingWrites_of_lt hlt, UInt8.add_one_eq]
        simp
      · have h0 : (i+1).toNat = 0 := by rw [UInt8.toNat_add_one, h255]
        have := (writeEntryLoop_trace index entries fuel (i+1) hd₁ (by omega) h₂).1
        omega
    · cases h
      have hlen : i.toNat = entries.length := by omega
      refine ⟨hlen ▸ Nat.le_of_lt_succ i.toNat_lt_size, ?_⟩
      simp [mappingWrites, hlen]

theorem setEntries_trace (index : UInt16) :
    ∀ extra {d d' : Device}, Addressed d → (∀ x ∈ extra, x.2.type ≠ .invalid) →
      setEntries escape index extra d = .ok () d' →
      d'.sdoTrace = d.sdoTrace ++ extra.map fun x => .write index x.1 x.2
  | [], _, _, _, _, h => by cases h; simp
  | (s, v)::extra, d, d', hd, hv, h => by
    obtain ⟨_, d₁, h₁, h₂⟩ := bind_eq_ok.1 h
    have hd₁ := Keeps.of_ok (Addressed.keeps_setEntry escape _ _ _ _) hd h₁
    rw [setEntries_trace index extra hd₁ (fun x hx => hv x (List.mem_cons_of_mem _ hx)) h₂,
      setEntry_sdo_trace escape hd (hv _ (List.mem_cons_self _ _)) h₁]
    simp

theorem mapPdoInDevice_trace {commParamIdx mappParamIdx : UInt16} {entries : List UInt32}
    {transmitType : UInt8} {extra : List (UInt8 × Value)} {fuel : Nat} {d d' : Device}
    (hd : Addressed d) (hextra : ∀ x ∈ extra, x.2.type ≠ .invalid)
    (h : mapPdoInDevice escape commParamIdx mappParamIdx entries transmitType extra fuel d =
      .ok true d') :
    entries.length ≤ 255 ∧ ∃ v c, v.toUInt32 = .ok c ∧
      d'.sdoTrace = d.sdoTrace ++ .read commParamIdx 1 v ::
        .write commParamIdx 1 (Value.ofUInt32 (c ||| 0x80000000)) ::
        .write mappParamIdx 0 (Value.ofUInt8 0) :: mappingWrites mappParamIdx entries 0 ++
        .write mappParamIdx 0 (Value.ofUInt8 entries.length.toUInt8) ::
        .write commParamIdx 2 (Value.ofUInt8 transmitType) ::
        extra.map (fun x => .write commParamIdx x.1 x.2) ++
        [.write commParamIdx 1 (Value.ofUInt32 (c &&& 0x7FFFFFFF))] := by
  rw [mapPdoInDevice] at h
  obtain ⟨v, d₁, h₁, k₁⟩ := bind_eq_ok.1 h
  obtain ⟨c, d₂, h₂, k₂⟩ := bind_eq_ok.1 k₁
  obtain ⟨hc, rfl⟩ : v.toUInt32 = .ok c ∧ d₂ = d₁ := by
    cases hv : v.toUInt32 <;> rw [hv] at h₂ <;> cases h₂; exact ⟨rfl, rfl⟩
  obtain ⟨_, d₃, h₃, k₃⟩ := bind_eq_ok.1 k₂
  obtain ⟨_, d₄, h₄, k₄⟩ := bind_eq_ok.1 k₃
  obtain ⟨b, d₅, h₅, k₅⟩ := bind_eq_ok.1 k₄
  cases b
  · cases k₅
  obtain ⟨_, _, hp, k₅⟩ := bind_eq_ok.1 k₅
  cases hp
  obtain ⟨_, d₆, h₆, k₆⟩ := bind_eq_ok.1 k₅
  obtain ⟨_, d₇, h₇, k₇⟩ := bind_eq_ok.1 k₆
  obtain ⟨_, d₈, h₈, k₈⟩ := bind_eq_ok.1 k₇
  obtain ⟨_, d₉, h₉, k₉⟩ := bind_eq_ok.1 k₈
  cases k₉
  have hd₁ := Keeps.of_ok (Addressed.keeps_getEntry escape _ _ _) hd h₁
  have hd₃ := Keeps.of_ok (Addressed.keeps_setEntry escape _ _ _ _) hd₁ h₃
  have hd₄ := Keeps.of_ok (Addressed.keeps_setEntry escape _ _ _ _) hd₃ h₄
  have hd₅ := Keeps.of_ok
    (keeps_writeEntryLoop escape (Addressed.keeps_setEntry escape) _ _ _ _ _) hd₄ h₅
  have hd₆ := Keeps.of_ok (Addressed.keeps_setEntry escape _ _ _ _) hd₅ h₆
  have hd₇ := Keeps.of_ok (Addressed.keeps_setEntry escape _ _ _ _) hd₆ h₇
  have hd₈ := Keeps.of_ok (keeps_setEntries escape (Addressed.keeps_setEntry escape) _ _) hd₇ h₈
  have hu32 : ∀ x, (Value.ofUInt32 x).type ≠ .invalid := by simp [Value.ofUInt32]
  have hu8 : ∀ x, (Value.ofUInt8 x).type ≠ .invalid := by simp [Value.ofUInt8]
  obtain ⟨hlen, ht₅⟩ := writeEntryLoop_trace escape _ _ _ 0 hd₄ (Nat.zero_le _) h₅
  refine ⟨hlen, v, c, hc, ?_⟩
  rw [setEntry_sdo_trace escape hd₈ (hu32 _) h₉, setEntries_trace escape _ _ hd₇ hextra h₈,
    setEntry_sdo_trace escape hd₆ (hu8 _) h₇, setEntry_sdo_trace escape hd₅ (hu8 _) h₆, ht₅,
    setEntry_sdo_trace escape hd₃ (hu8 _) h₄, setEntry_sdo_trace escape hd₁ (hu32 _) h₃,
    getEntry_sdo_trace escape hd (by rw [Value.toUInt32_type hc]; decide) h₁,
    enableBit_disableBit, disableBit_eq]
  simp

/-- A remapping of PDO `n` works on the CiA 301 parameters of `n`; when it
returns it has read `(comm, 1)` over SDO and then written, in order: the COB-ID
with bit 31 set, count 0, the mapping words, the count, the transmission type,
the overload's extra parameters, and the COB-ID with bit 31 cleared. -/
theorem remap_sdo_accesses (r : PdoRemap) (fuel : Nat) {d d' : Device}
    (hd : Reachable escape Consistent d) (h : r.run escape fuel d = .ok true d') :
    (1 ≤ r.number ∧ r.number ≤ 4 ∧
      r.indexes.1.toNat = (if r.receive then 0x1400 else 0x1800) + r.number - 1 ∧
      r.indexes.2.toNat = (if r.receive then 0x1600 else 0x1A00) + r.number - 1) ∧
    r.entries.length ≤ 255 ∧ ∃ v c, v.toUInt32 = .ok c ∧
      d'.sdoTrace = d.sdoTrace ++ .read r.indexes.1 1 v ::
        .write r.indexes.1 1 (Value.ofUInt32 (c ||| 0x80000000)) ::
        .write r.indexes.2 0 (Value.ofUInt8 0) :: mappingWrites r.indexes.2 r.entries 0 ++
        .write r.indexes.2 0 (Value.ofUInt8 r.entries.length.toUInt8) ::
        .write r.indexes.1 2 (Value.ofUInt8 r.transmitType) ::
        r.extra.map (fun x => .write r.indexes.1 x.1 x.2) ++
        [.write r.indexes.1 1 (Value.ofUInt32 (c &&& 0x7FFFFFFF))] := by
  refine ⟨r.indexes_cia301, ?_⟩
  rw [PdoRemap.run_eq] at h
  refine mapPdoInDevice_trace escape (addressed_of_reachable escape (fun _ h => h.addressed) hd)
    ?_ h
  cases r <;> simp [PdoRemap.extra, Value.ofUInt16]

/-! ## When a remapping returns -/

/-- The type of the entry at each address. -/
def typeAt (d : Device) (a : Address) : Option DataType := (d.dictionary.find? a).map Entry.type

/-- The node answers every SDO request with four bytes. -/
def Answering (d : Device) : Prop := ∀ k req, ∃ bs, d.core.sdoServer k req = .data bs ∧ bs.length = 4

theorem typeAt_sending_withValue (d : Device) (a : Address) (v : Value) (ms : List Message) :
    typeAt (sending (withValue d a v) ms) = typeAt d := by
  funext a'
  simp only [typeAt, sending, find?_withValue]
  split_ifs with h
  · subst h; cases d.dictionary.find? a' <;> rfl
  · rfl

theorem typeAt_logged (d : Device) (req : SdoRequest) (m : Nat) : typeAt (logged d req m) = typeAt d := rfl

theorem typeAt_traced (d : Device) (a : SdoAccess) : typeAt (traced d a) = typeAt d := rfl

/-- A `set_entry` over SDO of a value of the entry's type, to a node that
answers, returns; it changes no type and not the node. -/
theorem setEntry_sdo_ok (index : UInt16) (subindex : UInt8) (value : Value) {d : Device}
    (he : typeAt d ⟨index, subindex⟩ = some value.type) (hs : Answering d) :
    ∃ d', setEntry escape index subindex value .sdo d = .ok () d' ∧ typeAt d' = typeAt d ∧
      d'.core.sdoServer = d.core.sdoServer := by
  obtain ⟨e, he', ht⟩ := Option.map_eq_some'.1 he
  set d₁ := sending (withValue d ⟨index, subindex⟩ value)
    (callbackFrames escape (withValue d ⟨index, subindex⟩ value) e.callbacks)
  have h₁ : typeAt d₁ = typeAt d := typeAt_sending_withValue _ _ _ _
  obtain ⟨bs, hbs, -⟩ := hs (d₁.core.sdoLog.length+0) (.download d₁.nodeId e.index e.subindex value.bytes)
  have hr := retry_first_data (replies d₁ (.download d₁.nodeId e.index e.subindex value.bytes))
    unknownSdoError (Nat.zero_lt_succ _ : 0 < d₁.config.repeatsOnSdoTimeout+1)
    (fun _ h => absurd h (Nat.not_lt_zero _)) hbs
  refine ⟨traced (logged d₁ (.download d₁.nodeId e.index e.subindex value.bytes) 1)
    (.write e.index e.subindex value), ?_, h₁, rfl⟩
  rw [setEntry_eq, he']
  simp only [ht, ne_eq, not_true_eq_false, ↓reduceIte, true_or]
  rw [setEntryViaSdo_eq]
  simp only [hr]

theorem answering_of_server {d d' : Device} (hs : Answering d)
    (h : d'.core.sdoServer = d.core.sdoServer) : Answering d' := by
  intro k req; rw [h]; exact hs k req

/-- A `get_entry` over SDO of a `uint32_t` entry from a node that answers
returns a `uint32_t`; it changes no type and not the node. -/
theorem getEntry_sdo_ok {index : UInt16} {subindex : UInt8} {d : Device}
    (he : typeAt d ⟨index, subindex⟩ = some .uint32) (hs : Answering d) :
    ∃ v c d', getEntry escape index subindex .sdo d = .ok v d' ∧ v.toUInt32 = .ok c ∧
      typeAt d' = typeAt d ∧ d'.core.sdoServer = d.core.sdoServer := by
  obtain ⟨e, he', ht⟩ := Option.map_eq_some'.1 he
  obtain ⟨bs, hbs, hlen⟩ := hs (d.core.sdoLog.length+0) (.upload d.nodeId e.index e.subindex)
  have hr := retry_first_data (replies d (.upload d.nodeId e.index e.subindex))
    unknownSdoError (Nat.zero_lt_succ _ : 0 < d.config.repeatsOnSdoTimeout+1)
    (fun _ h => absurd h (Nat.not_lt_zero _)) hbs
  match bs, hlen with
  | [b₀, b₁, b₂, b₃], _ =>
    let v : Value := ⟨.uint32, [b₀, b₁, b₂, b₃]⟩
    let d₁ := traced (logged d (.upload d.nodeId e.index e.subindex) 1) (.read e.index e.subindex v)
    refine ⟨v, _, sending (withValue d₁ ⟨index, subindex⟩ v)
      (callbackFrames escape (withValue d₁ ⟨index, subindex⟩ v) e.callbacks), ?_, rfl,
      typeAt_sending_withValue _ _ _ _, rfl⟩
    rw [getEntry_eq, he']
    simp only [true_or, ↓reduceIte]
    rw [getEntryViaSdo_eq]
    simp only [hr, ht, Value.ofBytes_of_length (by rfl : [b₀, b₁, b₂, b₃].length = getTypeSize .uint32)]

/-- With fewer than 256 words, each mapped to a `uint32_t` entry of a node that
answers, and enough iterations, the loop of `write_entry` ends. -/
theorem writeEntryLoop_ok (index : UInt16) (entries : List UInt32) (hlen : entries.length ≤ 255) :
    ∀ fuel (i : UInt8) (d : Device), entries.length - i.toNat < fuel →
      (∀ j, i.toNat ≤ j → j < entries.length → typeAt d ⟨index, (j+1).toUInt8⟩ = some .uint32) →
      Answering d → ∃ d', writeEntryLoop escape index entries fuel i i d = .ok true d' ∧
        typeAt d' = typeAt d ∧ d'.core.sdoServer = d.core.sdoServer
  | 0, _, _, hfuel, _, _ => absurd hfuel (Nat.not_lt_zero _)
  | fuel+1, i, d, hfuel, htype, hs => by
    rw [writeEntryLoop]
    split_ifs with hlt
    · have hi : (i+1).toNat = i.toNat+1 := by rw [UInt8.toNat_add_one]; omega
      obtain ⟨d₁, h₁, ht₁, hs₁⟩ := setEntry_sdo_ok escape index (i+1)
        (Value.ofUInt32 (entries.getD i.toNat 0))
        (by rw [UInt8.add_one_eq]; exact htype _ le_rfl hlt) hs
      obtain ⟨d', h', ht', hs'⟩ := writeEntryLoop_ok index entries hlen fuel (i+1) d₁ (by omega)
        (fun j hj hj' => ht₁ ▸ htype j (by omega) hj') (answering_of_server hs hs₁)
      exact ⟨d', by rw [bind_apply, h₁]; exact h', ht'.trans ht₁, hs'.trans hs₁⟩
    · exact ⟨d, rfl, rfl, rfl⟩

/-- With 256 words or more, a loop of `write_entry` over a mapping parameter
whose 256 subindexes are `uint32_t` entries of a node that answers never ends:
its `uint8_t` counter wraps around before it reaches the number of words. -/
theorem writeEntryLoop_never_ends (index : UInt16) (entries : List UInt32)
    (hlen : 256 ≤ entries.length) :
    ∀ fuel (i : UInt8) (d : Device), (∀ s : UInt8, typeAt d ⟨index, s⟩ = some .uint32) →
      Answering d → ∃ d', writeEntryLoop escape index entries fuel i i d = .ok false d'
  | 0, _, d, _, _ => ⟨d, rfl⟩
  | fuel+1, i, d, htype, hs => by
    have hlt : i.toNat < entries.length := by have := i.toNat_lt_size; simp only [UInt8.size] at this; omega
    obtain ⟨d₁, h₁, ht₁, hs₁⟩ := setEntry_sdo_ok escape index (i+1)
      (Value.ofUInt32 (entries.getD i.toNat 0)) (htype _) hs
    obtain ⟨d', h'⟩ := writeEntryLoop_never_ends index entries hlen fuel (i+1) d₁
      (fun s => ht₁ ▸ htype s) (answering_of_server hs hs₁)
    exact ⟨d', by rw [writeEntryLoop, if_pos hlt, bind_apply, h₁]; exact h'⟩

theorem setEntries_ok (index : UInt16) :
    ∀ (extra : List (UInt8 × Value)) (d : Device), (∀ x ∈ extra, typeAt d ⟨index, x.1⟩ = some x.2.type) →
      Answering d → ∃ d', setEntries escape index extra d = .ok () d' ∧ typeAt d' = typeAt d ∧
        d'.core.sdoServer = d.core.sdoServer
  | [], d, _, _ => ⟨d, rfl, rfl, rfl⟩
  | x::extra, d, htype, hs => by
    obtain ⟨d₁, h₁, ht₁, hs₁⟩ := setEntry_sdo_ok escape _ _ _ (htype x (List.mem_cons_self _ _)) hs
    obtain ⟨d', h', ht', hs'⟩ := setEntries_ok index extra d₁
      (fun y hy => ht₁ ▸ htype y (List.mem_cons_of_mem _ hy)) (answering_of_server hs hs₁)
    exact ⟨d', by rw [setEntries, bind_apply, h₁]; exact h', ht'.trans ht₁, hs'.trans hs₁⟩

/-- Remapping returns when the parameters it writes are entries of their types,
the node answers, and there are fewer than 256 words. -/
theorem mapPdoInDevice_ok (commParamIdx mappParamIdx : UInt16) (entries : List UInt32)
    (transmitType : UInt8) (extra : List (UInt8 × Value)) (fuel : Nat) (d : Device)
    (hlen : entries.length ≤ 255) (hfuel : entries.length < fuel)
    (hcob : typeAt d ⟨commParamIdx, 1⟩ = some .uint32)
    (htt : typeAt d ⟨commParamIdx, 2⟩ = some .uint8)
    (hcount : typeAt d ⟨mappParamIdx, 0⟩ = some .uint8)
    (hwords : ∀ j < entries.length, typeAt d ⟨mappParamIdx, (j+1).toUInt8⟩ = some .uint32)
    (hextra : ∀ x ∈ extra, typeAt d ⟨commParamIdx, x.1⟩ = some x.2.type) (hs : Answering d) :
    ∃ d', mapPdoInDevice escape commParamIdx mappParamIdx entries transmitType extra fuel d =
      .ok true d' := by
  obtain ⟨v, c, d₁, h₁, hc, t₁, s₁⟩ := getEntry_sdo_ok escape hcob hs
  obtain ⟨d₂, h₂, t₂, s₂⟩ := setEntry_sdo_ok escape commParamIdx 1 (Value.ofUInt32 (disableBit c))
    (t₁ ▸ hcob) (answering_of_server hs s₁)
  obtain ⟨d₃, h₃, t₃, s₃⟩ := setEntry_sdo_ok escape mappParamIdx 0 (Value.ofUInt8 0)
    (t₂ ▸ t₁ ▸ hcount) (answering_of_server hs (s₂.trans s₁))
  obtain ⟨d₄, h₄, t₄, s₄⟩ := writeEntryLoop_ok escape mappParamIdx entries hlen fuel 0 d₃
    (by simpa using hfuel) (fun j _ hj => t₃ ▸ t₂ ▸ t₁ ▸ hwords j hj)
    (answering_of_server hs (s₃.trans (s₂.trans s₁)))
  have s₄' := s₄.trans (s₃.trans (s₂.trans s₁))
  obtain ⟨d₅, h₅, t₅, s₅⟩ := setEntry_sdo_ok escape mappParamIdx 0 (Value.ofUInt8 entries.length.toUInt8)
    (t₄ ▸ t₃ ▸ t₂ ▸ t₁ ▸ hcount) (answering_of_server hs s₄')
  obtain ⟨d₆, h₆, t₆, s₆⟩ := setEntry_sdo_ok escape commParamIdx 2 (Value.ofUInt8 transmitType)
    (t₅ ▸ t₄ ▸ t₃ ▸ t₂ ▸ t₁ ▸ htt) (answering_of_server hs (s₅.trans s₄'))
  obtain ⟨d₇, h₇, t₇, s₇⟩ := setEntries_ok escape commParamIdx extra d₆
    (fun x hx => t₆ ▸ t₅ ▸ t₄ ▸ t₃ ▸ t₂ ▸ t₁ ▸ hextra x hx)
    (answering_of_server hs (s₆.trans (s₅.trans s₄')))
  obtain ⟨d₈, h₈, -, -⟩ := setEntry_sdo_ok escape commParamIdx 1 (Value.ofUInt32 (enableBit (disableBit c)))
    (t₇ ▸ t₆ ▸ t₅ ▸ t₄ ▸ t₃ ▸ t₂ ▸ t₁ ▸ hcob)
    (answering_of_server hs (s₇.trans (s₆.trans (s₅.trans s₄'))))
  refine ⟨d₈, ?_⟩
  simp only [mapPdoInDevice, bind_apply, h₁, hc, throwExcept_ok, h₂, h₃, writeEntry, h₄, h₅, h₆, h₇,
    h₈, Bool.not_true, Bool.false_eq_true, ↓reduceIte, pure_apply]

/-- A node that answers every request with the bytes `81 01 00 00`. -/
def answeringDevice : Device :=
  Device.create ⟨fun _ _ => .data [0x81, 0x01, 0, 0], [], [], []⟩ ⟨0, false, false, false⟩
    ⟨fun _ => .returned false, fun _ => "", 0⟩ 1

/-- The entries of TPDO 1 with two mapping words. -/
def tpdo1Entries : List Call :=
  [.addEntry 0x1800 1 "cob_id" .uint32 .readWrite,
   .addEntry 0x1800 2 "transmission_type" .uint8 .readWrite,
   .addEntry 0x1A00 0 "number_of_entries" .uint8 .readWrite,
   .addEntry 0x1A00 1 "mapping_1" .uint32 .readWrite,
   .addEntry 0x1A00 2 "mapping_2" .uint32 .readWrite]

/-- The entries of RPDO 2 with one mapping word. -/
def rpdo2Entries : List Call :=
  [.addEntry 0x1401 1 "cob_id" .uint32 .readWrite,
   .addEntry 0x1401 2 "transmission_type" .uint8 .readWrite,
   .addEntry 0x1601 0 "number_of_entries" .uint8 .readWrite,
   .addEntry 0x1601 1 "mapping_1" .uint32 .readWrite]

theorem remap_sdo_accesses_tpdo1_rpdo2 :
    (∃ d d', Reachable id Consistent d ∧
      (PdoRemap.tpdo .tpdo1 [0x60410010, 0x606C0020] 255).run id 3 d = .ok true d' ∧
      (PdoRemap.tpdo .tpdo1 [0x60410010, 0x606C0020] 255).indexes.1.toNat = 0x1800 ∧
      [0x60410010, 0x606C0020].length ≤ 255) ∧
    ∃ d d', Reachable id Consistent d ∧
      (PdoRemap.rpdo .rpdo2 [0x60400010] 1).run id 2 d = .ok true d' ∧
      (PdoRemap.rpdo .rpdo2 [0x60400010] 1).indexes.2.toNat = 0x1601 ∧ [0x60400010].length ≤ 255 := by
  have hd₁ : Reachable id Consistent (run id tpdo1Entries answeringDevice) :=
    reachable_run id (.base (consistent_create _ _ _ _)) _
  have hd₂ : Reachable id Consistent (run id rpdo2Entries answeringDevice) :=
    reachable_run id (.base (consistent_create _ _ _ _)) _
  obtain ⟨d₁, h₁⟩ := mapPdoInDevice_ok id 0x1800 0x1A00 [0x60410010, 0x606C0020] 255 [] 3
    (run id tpdo1Entries answeringDevice)
    (by decide) (by decide) (by decide) (by decide) (by decide) (by decide) (by simp)
    (fun _ _ => ⟨_, rfl, rfl⟩)
  obtain ⟨d₂, h₂⟩ := mapPdoInDevice_ok id 0x1401 0x1601 [0x60400010] 1 [] 2
    (run id rpdo2Entries answeringDevice)
    (by decide) (by decide) (by decide) (by decide) (by decide) (by decide) (by simp)
    (fun _ _ => ⟨_, rfl, rfl⟩)
  have k₁ := remap_sdo_accesses id (.tpdo .tpdo1 [0x60410010, 0x606C0020] 255) 3 hd₁ h₁
  have k₂ := remap_sdo_accesses id (.rpdo .rpdo2 [0x60400010] 1) 2 hd₂ h₂
  exact ⟨⟨_, d₁, hd₁, h₁, k₁.1.2.2.1, k₁.2.1⟩, _, d₂, hd₂, h₂, k₂.1.2.2.2, k₂.2.1⟩

/-! ## The `uint8_t` counter of `write_entry` -/

/-- A mapping parameter `0x1A00` whose 256 subindexes are all `uint32_t`
entries. -/
def fullMapping : List (Address × Entry) :=
  (List.range 256).map fun j => (⟨0x1A00, j.toUInt8⟩, Entry.make 0x1A00 j.toUInt8 "" .uint32 .readWrite)

theorem toNat_toUInt8 (j : Nat) : (j.toUInt8).toNat = j % 256 := by
  show (BitVec.ofNat 8 j).toNat = _
  simp

theorem toUInt8_toNat (s : UInt8) : s.toNat.toUInt8 = s := by
  apply UInt8.toNat.inj
  rw [toNat_toUInt8]
  exact Nat.mod_eq_of_lt s.toNat_lt_size

theorem fullMapping_sorted : (fullMapping.map Prod.fst).Sorted (· < ·) := by
  simp only [fullMapping, List.map_map, Function.comp_def]
  refine List.pairwise_map.2 ((List.pairwise_lt_range 256).imp_of_mem fun ha hb hab => ?_)
  show Address.key _ < Address.key _
  simp only [Address.key, toNat_toUInt8]
  rw [List.mem_range] at ha hb
  omega

/-- A node accepting every transfer, with the 256 entries of `fullMapping`. -/
def fullMappingDevice : Device :=
  { Device.create ⟨fun _ _ => .data [0, 0, 0, 0], [], [], []⟩ ⟨0, false, false, false⟩
      ⟨fun _ => .returned false, fun _ => "", 0⟩ 1 with
    dictionary := ⟨fullMapping, fullMapping_sorted⟩ }

theorem fullMappingDevice_types (s : UInt8) : typeAt fullMappingDevice ⟨0x1A00, s⟩ = some .uint32 := by
  have h : fullMappingDevice.dictionary.find? ⟨0x1A00, s⟩ =
      some (Entry.make 0x1A00 s "" .uint32 .readWrite) := by
    rw [StdMap.find?_eq_some_iff]
    exact List.mem_map.2 ⟨s.toNat, List.mem_range.2 s.toNat_lt_size, by rw [toUInt8_toNat]⟩
  simp [typeAt, h, Entry.make]

/-- `write_entry` of 256 words on `fullMappingDevice` never ends: whatever the
number of iterations allowed, it has not returned. -/
theorem write_entry_wraps_around (fuel : Nat) :
    ∃ d', writeEntry escape 0x1A00 (List.replicate 256 0) fuel fullMappingDevice = .ok false d' :=
  writeEntryLoop_never_ends escape _ _ (List.length_replicate _ _).symm.le fuel 0 _
    fullMappingDevice_types
    (fun _ _ => ⟨_, rfl, rfl⟩)

end KaCanOpen.Device
