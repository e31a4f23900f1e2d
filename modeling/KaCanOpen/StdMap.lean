import Mathlib.Data.List.Sort

/-!
# `std::map` as a sorted association list

A device keeps its dictionary and its name index in `std::map`s. A map is its
list of bindings, strictly increasing in key, so keys are unique and iteration
visits them in key order. `insert` keeps an existing binding, as
`std::map::insert` does, and `index` is `operator[]`: it inserts the default
value under a missing key and returns the stored value otherwise.
-/

set_option autoImplicit false

namespace KaCanOpen

/-- A `std::map`: its bindings, strictly sorted by key. -/
structure StdMap (κ ν : Type) [LinearOrder κ] where
  entries : List (κ × ν)
  sorted : (entries.map Prod.fst).Sorted (· < ·)

namespace StdMap

variable {κ ν : Type} [LinearOrder κ]

def findAux (k : κ) : List (κ × ν) → Option ν
  | [] => none
  | (k', v)::l => if k = k' then some v else findAux k l

def insertAux (k : κ) (v : ν) : List (κ × ν) → List (κ × ν)
  | [] => [(k, v)]
  | (k', v')::l =>
    if k < k' then (k, v)::(k', v')::l
    else if k = k' then (k', v')::l
    else (k', v')::insertAux k v l

def modifyAux (k : κ) (f : ν → ν) : List (κ × ν) → List (κ × ν)
  | [] => []
  | (k', v)::l => if k = k' then (k', f v)::l else (k', v)::modifyAux k f l

theorem insertAux_keys (k : κ) (v : ν) (l : List (κ × ν)) :
    ∀ x ∈ (insertAux k v l).map Prod.fst, x = k ∨ x ∈ l.map Prod.fst := by
  induction l with
  | nil => simp [insertAux]
  | cons p l ih =>
    obtain ⟨k', v'⟩ := p
    intro x hx
    simp only [insertAux] at hx
    split_ifs at hx <;> simp only [List.map_cons, List.mem_cons] at hx ⊢
    · tauto
    · tauto
    · rcases hx with rfl | hx
      · exact .inr (.inl rfl)
      · rcases ih x hx with h | h <;> tauto

theorem insertAux_sorted (k : κ) (v : ν) (l : List (κ × ν))
    (hl : (l.map Prod.fst).Sorted (· < ·)) :
    ((insertAux k v l).map Prod.fst).Sorted (· < ·) := by
  induction l with
  | nil => simp [insertAux]
  | cons p l ih =>
    obtain ⟨k', v'⟩ := p
    rw [List.map_cons, List.sorted_cons] at hl
    simp only [insertAux]
    split_ifs with hlt heq
    · simp only [List.map_cons, List.sorted_cons, List.mem_cons]
      exact ⟨fun b hb => hb.elim (· ▸ hlt) (fun hb => hlt.trans (hl.1 b hb)), hl.1, hl.2⟩
    · simpa using hl
    · have hgt : k' < k := lt_of_le_of_ne (not_lt.mp hlt) (Ne.symm heq)
      rw [List.map_cons, List.sorted_cons]
      refine ⟨fun b hb => ?_, ih hl.2⟩
      rcases insertAux_keys k v l b hb with rfl | hb
      · exact hgt
      · exact hl.1 b hb

@[simp] theorem modifyAux_keys (k : κ) (f : ν → ν) (l : List (κ × ν)) :
    (modifyAux k f l).map Prod.fst = l.map Prod.fst := by
  induction l with
  | nil => rfl
  | cons p l ih => obtain ⟨k', v⟩ := p; simp only [modifyAux]; split_ifs <;> simp [ih]

def empty : StdMap κ ν := ⟨[], List.sorted_nil⟩

def find? (m : StdMap κ ν) (k : κ) : Option ν := findAux k m.entries

def contains (m : StdMap κ ν) (k : κ) : Bool := (m.find? k).isSome

def keys (m : StdMap κ ν) : List κ := m.entries.map Prod.fst

/-- `std::map::insert`: an existing binding is kept. -/
def insert (m : StdMap κ ν) (k : κ) (v : ν) : StdMap κ ν :=
  ⟨insertAux k v m.entries, insertAux_sorted k v _ m.sorted⟩

/-- Update of the value bound to `k`, through a reference into the map. -/
def modify (m : StdMap κ ν) (k : κ) (f : ν → ν) : StdMap κ ν :=
  ⟨modifyAux k f m.entries, by rw [modifyAux_keys]; exact m.sorted⟩

/-- `operator[]`: the stored value, after inserting `d` under a missing key. -/
def index (m : StdMap κ ν) (k : κ) (d : ν) : ν × StdMap κ ν :=
  match m.find? k with
  | some v => (v, m)
  | none => (d, m.insert k d)

@[simp] theorem find?_empty (k : κ) : (empty : StdMap κ ν).find? k = none := rfl

theorem find?_insert_of_ne (m : StdMap κ ν) {k k' : κ} (v : ν) (h : k' ≠ k) :
    (m.insert k v).find? k' = m.find? k' := by
  obtain ⟨l, hl⟩ := m
  simp only [find?, insert]
  clear hl
  induction l with
  | nil => simp [insertAux, findAux, h]
  | cons p l ih =>
    obtain ⟨k₁, v₁⟩ := p
    simp only [insertAux]
    split_ifs <;> simp [findAux, h, ih]

theorem find?_insert_self (m : StdMap κ ν) {k : κ} (v : ν) (h : m.find? k = none) :
    (m.insert k v).find? k = some v := by
  obtain ⟨l, hl⟩ := m
  simp only [find?, insert] at h ⊢
  clear hl
  induction l with
  | nil => simp [insertAux, findAux]
  | cons p l ih =>
    obtain ⟨k₁, v₁⟩ := p
    simp only [findAux] at h
    split_ifs at h with hk
    simp only [insertAux, if_neg hk]
    split_ifs <;> simp [findAux, hk, ih h]

theorem find?_insert (m : StdMap κ ν) (k k' : κ) (v : ν) (h : m.find? k = none) :
    (m.insert k v).find? k' = if k' = k then some v else m.find? k' := by
  split_ifs with hk
  · subst hk; exact find?_insert_self m v h
  · exact find?_insert_of_ne m v hk

@[simp] theorem find?_modify (m : StdMap κ ν) (k k' : κ) (f : ν → ν) :
    (m.modify k f).find? k' = if k' = k then (m.find? k).map f else m.find? k' := by
  obtain ⟨l, hl⟩ := m
  simp only [find?, modify]
  clear hl
  induction l with
  | nil => simp [modifyAux, findAux]
  | cons p l ih =>
    obtain ⟨k₁, v₁⟩ := p
    simp only [modifyAux]
    by_cases h1 : k = k₁ <;> by_cases h2 : k' = k <;> simp_all [findAux]

theorem findAux_eq_some_iff (k : κ) (v : ν) (l : List (κ × ν)) (hl : (l.map Prod.fst).Nodup) :
    findAux k l = some v ↔ (k, v) ∈ l := by
  induction l with
  | nil => simp [findAux]
  | cons p l ih =>
    obtain ⟨k₁, v₁⟩ := p
    simp only [List.map_cons, List.nodup_cons] at hl
    simp only [findAux, List.mem_cons, Prod.mk.injEq]
    by_cases hk : k = k₁
    · subst hk
      have : (k, v) ∉ l := fun hm => hl.1 (List.mem_map_of_mem Prod.fst hm)
      simp [this, eq_comm]
    · simp [hk, ih hl.2]

@[simp] theorem isSome_find?_modify (m : StdMap κ ν) (k k' : κ) (f : ν → ν) :
    ((m.modify k f).find? k').isSome = (m.find? k').isSome := by
  rw [find?_modify]
  split_ifs with h <;> simp [h]

theorem find?_eq_some_iff (m : StdMap κ ν) (k : κ) (v : ν) :
    m.find? k = some v ↔ (k, v) ∈ m.entries :=
  findAux_eq_some_iff k v _ (m.sorted.nodup)

theorem keys_nodup (m : StdMap κ ν) : m.keys.Nodup := m.sorted.nodup

theorem mem_keys (m : StdMap κ ν) (k : κ) : k ∈ m.keys ↔ (m.find? k).isSome := by
  simp only [keys, List.mem_map, Option.isSome_iff_exists, find?_eq_some_iff]
  constructor
  · rintro ⟨⟨k', v⟩, hm, rfl⟩; exact ⟨v, hm⟩
  · rintro ⟨v, hm⟩; exact ⟨(k, v), hm, rfl⟩

@[simp] theorem keys_modify (m : StdMap κ ν) (k : κ) (f : ν → ν) :
    (m.modify k f).keys = m.keys := modifyAux_keys k f _

theorem index_of_find?_some (m : StdMap κ ν) {k : κ} {v : ν} (d : ν) (h : m.find? k = some v) :
    m.index k d = (v, m) := by
  simp [index, h]

theorem index_of_find?_none (m : StdMap κ ν) {k : κ} (d : ν) (h : m.find? k = none) :
    m.index k d = (d, m.insert k d) := by
  simp [index, h]

/-- `operator[]` leaves what it returns under its key. -/
theorem find?_index_self (m : StdMap κ ν) (k : κ) (d : ν) :
    (m.index k d).2.find? k = some (m.index k d).1 := by
  cases hk : m.find? k with
  | some v => rw [index_of_find?_some m d hk]; exact hk
  | none => rw [index_of_find?_none m d hk]; exact find?_insert_self m d hk

/-- What `operator[]` leaves under a key: what was there, or the default. -/
theorem find?_index_eq_some (m : StdMap κ ν) {k k' : κ} {d v : ν}
    (h : (m.index k d).2.find? k' = some v) : m.find? k' = some v ∨ v = d := by
  cases hk : m.find? k with
  | some w => rw [index_of_find?_some m d hk] at h; exact .inl h
  | none =>
    rw [index_of_find?_none m d hk, find?_insert _ _ _ _ hk] at h
    split_ifs at h
    · exact .inr (Option.some.inj h).symm
    · exact .inl h

/-! ## Assignment and range insertion -/

/-- `m[k] = v`: `operator[]` binds a default value under a missing key and the
assignment through the reference replaces it. The default is never seen, so
the binding is made with `v` directly. -/
def assign (m : StdMap κ ν) (k : κ) (v : ν) : StdMap κ ν := (m.insert k v).modify k fun _ => v

/-- `std::map::insert(first, last)`: each binding in turn, an existing key kept. -/
def insertAll (m : StdMap κ ν) (l : List (κ × ν)) : StdMap κ ν :=
  l.foldl (fun m p => m.insert p.1 p.2) m

theorem insertAux_of_mem {k : κ} (v : ν) :
    ∀ {l : List (κ × ν)}, (l.map Prod.fst).Sorted (· < ·) → k ∈ l.map Prod.fst → insertAux k v l = l
  | [], _, h => absurd h (List.not_mem_nil _)
  | (k₁, v₁)::l, hl, h => by
    rw [List.map_cons, List.sorted_cons] at hl
    rw [List.map_cons, List.mem_cons] at h
    simp only [insertAux]
    split_ifs with hlt heq
    · rcases h with rfl | h
      · exact absurd hlt (lt_irrefl _)
      · exact absurd (hl.1 k h) (lt_asymm hlt)
    · rfl
    · rw [insertAux_of_mem v hl.2 (h.resolve_left heq)]

/-- Inserting under a bound key changes nothing. -/
theorem insert_of_isSome (m : StdMap κ ν) {k : κ} (v : ν) (h : (m.find? k).isSome) :
    m.insert k v = m := by
  obtain ⟨l, hl⟩ := m
  simp only [insert, mk.injEq]
  exact insertAux_of_mem v hl ((mem_keys ⟨l, hl⟩ k).2 h)

theorem find?_insert_eq_orElse (m : StdMap κ ν) (k k' : κ) (v : ν) :
    (m.insert k v).find? k' = (m.find? k').orElse fun _ => if k' = k then some v else none := by
  cases hk : m.find? k with
  | some w =>
    rw [insert_of_isSome m v (by rw [hk]; rfl)]
    split_ifs with h
    · subst h; rw [hk]; rfl
    · cases m.find? k' <;> rfl
  | none =>
    rw [find?_insert m k k' v hk]
    split_ifs with h
    · subst h; rw [hk]; rfl
    · cases m.find? k' <;> rfl

/-- `insert` never changes a bound key. -/
theorem find?_insert_of_some (m : StdMap κ ν) (k : κ) (v : ν) {k' : κ} {w : ν}
    (h : m.find? k' = some w) : (m.insert k v).find? k' = some w := by
  rw [find?_insert_eq_orElse, h]
  rfl

/-- Nor does `operator[]`. -/
theorem find?_index_of_some (m : StdMap κ ν) (k : κ) (d : ν) {k' : κ} {w : ν}
    (h : m.find? k' = some w) : (m.index k d).2.find? k' = some w := by
  cases hk : m.find? k with
  | some v => rwa [index_of_find?_some m d hk]
  | none => rw [index_of_find?_none m d hk]; exact find?_insert_of_some m k d h

theorem find?_assign (m : StdMap κ ν) (k k' : κ) (v : ν) :
    (m.assign k v).find? k' = if k' = k then some v else m.find? k' := by
  rw [assign, find?_modify]
  split_ifs with h
  · rw [find?_insert_eq_orElse, if_pos rfl]
    cases m.find? k <;> rfl
  · exact find?_insert_of_ne m v h

/-- After a range insertion a key holds what it held, or else its first binding in the range. -/
theorem find?_insertAll (k : κ) :
    ∀ (m : StdMap κ ν) (l : List (κ × ν)),
      (m.insertAll l).find? k = (m.find? k).orElse fun _ => findAux k l
  | m, [] => by
    show m.find? k = _
    cases m.find? k <;> rfl
  | m, (k₁, v₁)::l => by
    rw [insertAll, List.foldl_cons, ← insertAll, find?_insertAll k _ l, find?_insert_eq_orElse, findAux]
    cases m.find? k <;> split_ifs <;> rfl

end StdMap

end KaCanOpen
