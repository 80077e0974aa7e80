import Mathlib.Data.List.Basic

/-!
# Concurrent hash maps

`github.com/cornelk/hashmap` as the list of its entries in iteration order.
Each method the forwarder calls is one atomic step. The iteration order of
the library is not specified; every result proved about an iteration below
holds for any order of the entries.
-/

namespace Skewer.Go

abbrev HashMap (κ ν : Type) := List (κ × ν)

namespace HashMap

variable {κ ν : Type} [DecidableEq κ]

/-- `GetUintKey`: the stored value, present or not. -/
def get? : HashMap κ ν → κ → Option ν
  | [], _ => none
  | (k, v) :: rest, key => if k = key then some v else get? rest key

/-- `Set`: replace the value of a present key, otherwise add the entry. -/
def set : HashMap κ ν → κ → ν → HashMap κ ν
  | [], key, value => [(key, value)]
  | (k, v) :: rest, key, value =>
      if k = key then (key, value) :: rest else (k, v) :: set rest key value

/-- `Del`. -/
def del : HashMap κ ν → κ → HashMap κ ν
  | [], _ => []
  | (k, v) :: rest, key => if k = key then del rest key else (k, v) :: del rest key

def keys (m : HashMap κ ν) : List κ := m.map Prod.fst

@[simp]
theorem get?_nil (key : κ) : get? ([] : HashMap κ ν) key = none := rfl

theorem get?_eq_none_iff {m : HashMap κ ν} {key : κ} : get? m key = none ↔ key ∉ m.keys := by
  induction m with
  | nil => simp [keys]
  | cons head rest ih => by_cases h : head.1 = key <;> simp_all [get?, keys, eq_comm]

theorem mem_of_get? {m : HashMap κ ν} {key : κ} {value : ν} (found : get? m key = some value) :
    (key, value) ∈ m := by
  induction m with
  | nil => simp at found
  | cons head rest ih =>
      obtain ⟨k, v⟩ := head
      by_cases h : k = key <;> simp_all [get?]

@[simp]
theorem get?_set_self (m : HashMap κ ν) (key : κ) (value : ν) :
    get? (set m key value) key = some value := by
  induction m with
  | nil => simp [set, get?]
  | cons head rest ih => by_cases h : head.1 = key <;> simp_all [set, get?]

@[simp]
theorem get?_set_other (m : HashMap κ ν) {key other : κ} (value : ν) (ne : other ≠ key) :
    get? (set m key value) other = get? m other := by
  induction m with
  | nil => simp [set, get?, Ne.symm ne]
  | cons head rest ih =>
      by_cases h : head.1 = key
      · have : head.1 ≠ other := h ▸ ne.symm
        simp [set, get?, h, this, Ne.symm ne]
      · simp [set, get?, h, ih]

@[simp]
theorem get?_del_self (m : HashMap κ ν) (key : κ) : get? (del m key) key = none := by
  induction m with
  | nil => rfl
  | cons head rest ih => by_cases h : head.1 = key <;> simp_all [del, get?]

@[simp]
theorem get?_del_other (m : HashMap κ ν) {key other : κ} (ne : other ≠ key) :
    get? (del m key) other = get? m other := by
  induction m with
  | nil => rfl
  | cons head rest ih =>
      by_cases h : head.1 = key
      · simp [del, get?, h, ih, Ne.symm ne]
      · simp [del, get?, h, ih]

/-- Setting a key and then deleting it is deleting it. -/
theorem del_set (m : HashMap κ ν) (key : κ) (value : ν) :
    del (set m key value) key = del m key := by
  induction m with
  | nil => simp [set, del]
  | cons head rest ih => by_cases h : head.1 = key <;> simp_all [set, del]

theorem set_of_not_mem_keys {m : HashMap κ ν} {key : κ} (value : ν) (absent : key ∉ m.keys) :
    set m key value = m ++ [(key, value)] := by
  induction m with
  | nil => rfl
  | cons head rest ih =>
      have : head.1 ≠ key := fun h => absent (by simp [keys, ← h])
      simp_all [set, keys]

theorem mem_set {m : HashMap κ ν} {key : κ} {value : ν} {entry : κ × ν}
    (mem : entry ∈ set m key value) : entry = (key, value) ∨ entry ∈ m := by
  induction m with
  | nil => simpa [set] using mem
  | cons head rest ih =>
      by_cases h : head.1 = key
      · simp only [set, h, if_true, List.mem_cons] at mem
        exact mem.imp id (List.mem_cons_of_mem _)
      · simp only [set, h, if_false, List.mem_cons] at mem
        rcases mem with rfl | mem
        · exact .inr (List.mem_cons_self _ _)
        · exact (ih mem).imp id (List.mem_cons_of_mem _)

theorem mem_set_self (m : HashMap κ ν) (key : κ) (value : ν) : (key, value) ∈ set m key value := by
  induction m with
  | nil => simp [set]
  | cons head rest ih => by_cases h : head.1 = key <;> simp [set, h, ih]

theorem mem_set_of_ne {m : HashMap κ ν} {key : κ} (value : ν) {entry : κ × ν} (mem : entry ∈ m)
    (ne : entry.1 ≠ key) : entry ∈ set m key value := by
  induction m with
  | nil => simp at mem
  | cons head rest ih =>
      rcases List.mem_cons.1 mem with rfl | mem
      · simp [set, ne]
      · by_cases h : head.1 = key <;> simp [set, h, mem, ih mem]

theorem mem_del {m : HashMap κ ν} {key : κ} {entry : κ × ν} :
    entry ∈ del m key ↔ entry ∈ m ∧ entry.1 ≠ key := by
  induction m with
  | nil => simp [del]
  | cons head rest ih =>
      by_cases h : head.1 = key
      · simp only [del, h, if_true, ih, List.mem_cons]
        constructor
        · exact fun ⟨mem, ne⟩ => ⟨.inr mem, ne⟩
        · rintro ⟨rfl | mem, ne⟩
          · exact absurd h ne
          · exact ⟨mem, ne⟩
      · simp only [del, h, if_false, List.mem_cons, ih]
        constructor
        · rintro (rfl | ⟨mem, ne⟩)
          · exact ⟨.inl rfl, h⟩
          · exact ⟨.inr mem, ne⟩
        · rintro ⟨rfl | mem, ne⟩
          · exact .inl rfl
          · exact .inr ⟨mem, ne⟩

theorem mem_keys_del {m : HashMap κ ν} {key other : κ} :
    other ∈ (del m key).keys ↔ other ∈ m.keys ∧ other ≠ key := by
  simp only [keys, List.mem_map, mem_del]
  constructor
  · rintro ⟨e, ⟨mem, ne⟩, rfl⟩
    exact ⟨⟨e, mem, rfl⟩, ne⟩
  · rintro ⟨⟨e, mem, rfl⟩, ne⟩
    exact ⟨e, ⟨mem, ne⟩, rfl⟩

theorem mem_keys_set {m : HashMap κ ν} {key other : κ} {value : ν} :
    other ∈ (set m key value).keys ↔ other = key ∨ other ∈ m.keys := by
  simp only [keys, List.mem_map]
  constructor
  · rintro ⟨e, mem, rfl⟩
    rcases mem_set mem with rfl | old
    · exact .inl rfl
    · exact .inr ⟨e, old, rfl⟩
  · rintro (rfl | ⟨e, mem, rfl⟩)
    · exact ⟨_, mem_set_self m _ value, rfl⟩
    · by_cases same : e.1 = key
      · exact ⟨_, mem_set_self m key value, same.symm⟩
      · exact ⟨e, mem_set_of_ne value mem same, rfl⟩

theorem length_del_le (m : HashMap κ ν) (key : κ) : (del m key).length ≤ m.length := by
  induction m with
  | nil => simp [del]
  | cons head rest ih => by_cases h : head.1 = key <;> simp [del, h] <;> omega

theorem length_del_lt {m : HashMap κ ν} {key : κ} {value : ν} (mem : (key, value) ∈ m) :
    (del m key).length < m.length := by
  induction m with
  | nil => simp at mem
  | cons head rest ih =>
      by_cases h : head.1 = key
      · simpa [del, h] using Nat.lt_succ_of_le (length_del_le rest key)
      · have : (key, value) ∈ rest := by
          rcases List.mem_cons.1 mem with rfl | mem
          · exact absurd rfl h
          · exact mem
        simpa [del, h] using ih this

theorem del_of_get?_eq_none {m : HashMap κ ν} {key : κ} (absent : get? m key = none) :
    del m key = m := by
  induction m with
  | nil => rfl
  | cons head rest ih => by_cases h : head.1 = key <;> simp_all [get?, del]

theorem del_sublist (m : HashMap κ ν) (key : κ) : (del m key).Sublist m := by
  induction m with
  | nil => exact List.Sublist.slnil
  | cons head rest ih =>
      obtain ⟨k, v⟩ := head
      by_cases h : k = key
      · simpa [del, h] using ih.cons (k, v)
      · simpa [del, h] using ih.cons₂ (k, v)

theorem keys_set_nodup {m : HashMap κ ν} (nodup : m.keys.Nodup) (key : κ) (value : ν) :
    (set m key value).keys.Nodup := by
  induction m with
  | nil => simp [set, keys]
  | cons head rest ih =>
      obtain ⟨k, v⟩ := head
      simp only [keys, List.map_cons, List.nodup_cons] at nodup
      by_cases h : k = key
      · subst h
        simpa [set, keys] using nodup
      · simp only [set, h, if_false, keys, List.map_cons, List.nodup_cons]
        refine ⟨fun mem => ?_, ih nodup.2⟩
        obtain ⟨e, mem, same⟩ := List.mem_map.1 mem
        rcases mem_set mem with rfl | old
        · exact h same.symm
        · exact nodup.1 (same ▸ List.mem_map_of_mem _ old)

theorem get?_of_mem {m : HashMap κ ν} (nodup : m.keys.Nodup) {key : κ} {value : ν}
    (mem : (key, value) ∈ m) : get? m key = some value := by
  induction m with
  | nil => simp at mem
  | cons head rest ih =>
      obtain ⟨k, v⟩ := head
      simp only [keys, List.map_cons, List.nodup_cons] at nodup
      rcases List.mem_cons.1 mem with same | mem
      · cases same
        simp [get?]
      · have : k ≠ key := fun same => nodup.1 (same ▸ List.mem_map_of_mem Prod.fst mem)
        simpa [get?, this] using ih nodup.2 mem

end HashMap

end Skewer.Go
