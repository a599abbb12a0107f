import Mathlib.Data.List.Basic
import Mathlib.Data.List.Nodup

/-! Go maps. A `map[K]V` is a finite set of entries with no key twice; the
order of `entries` is one iteration order, of which Go promises none, so a
result proved for every `GoMap` holds whatever order `range` visits. The
operations are the ones the image-scan code uses: lookup with `ok`,
assignment, `delete`, `len`, `lo.Keys`, `lo.Values`, and a `range` loop that
rewrites or deletes each entry in place. -/
namespace ImageScan

/-- A Go `map[K]V`: its entries, each key at most once. -/
structure GoMap (K V : Type) [DecidableEq K] where
  entries : List (K × V)
  nodup : (entries.map Prod.fst).Nodup

namespace GoMap

variable {K V : Type} [DecidableEq K]

/-- A fresh map, `map[K]V{}` or `make(map[K]V)`. -/
def empty : GoMap K V := ⟨[], List.nodup_nil⟩

/-- `v, ok := m[k]`. -/
def get? (m : GoMap K V) (k : K) : Option V := (m.entries.find? (·.1 = k)).map Prod.snd

/-- `m[k] = v`. -/
def insert (m : GoMap K V) (k : K) (v : V) : GoMap K V :=
  ⟨(k, v) :: m.entries.filter (·.1 ≠ k), by
    refine List.nodup_cons.2 ⟨by simp, ?_⟩
    exact ((List.filter_sublist _).map Prod.fst).nodup m.nodup⟩

/-- `delete(m, k)`. -/
def erase (m : GoMap K V) (k : K) : GoMap K V :=
  ⟨m.entries.filter (·.1 ≠ k), ((List.filter_sublist _).map Prod.fst).nodup m.nodup⟩

omit [DecidableEq K] in
private theorem keys_filterMap_sublist (f : K → V → Option V) (l : List (K × V)) :
    List.Sublist ((l.filterMap fun e => (f e.1 e.2).map (e.1, ·)).map Prod.fst)
      (l.map Prod.fst) := by
  induction l with
  | nil => simp
  | cons e l ih => cases h : f e.1 e.2 <;> simp [h, ih]

/-- `for k, v := range m { ... }` where the body rewrites the entry to
`f k v`, or deletes it when that is `none`. -/
def filterMap (f : K → V → Option V) (m : GoMap K V) : GoMap K V :=
  ⟨m.entries.filterMap fun e => (f e.1 e.2).map (e.1, ·),
    (keys_filterMap_sublist f m.entries).nodup m.nodup⟩

/-- Maps compare by their entries in iteration order. -/
instance instDecidableEqGoMap [DecidableEq V] : DecidableEq (GoMap K V) := fun a b =>
  decidable_of_iff (a.entries = b.entries) ⟨fun same => by cases a; cases b; cases same; rfl, fun same => same ▸ rfl⟩

instance instReprGoMap [Repr K] [Repr V] : Repr (GoMap K V) := ⟨fun m prec => reprPrec m.entries prec⟩

/-- `lo.Keys(m)`. -/
def keys (m : GoMap K V) : List K := m.entries.map Prod.fst

/-- `lo.Values(m)`. -/
def values (m : GoMap K V) : List V := m.entries.map Prod.snd

/-- `len(m)`. -/
def size (m : GoMap K V) : Nat := m.entries.length

variable {m m' : GoMap K V} {k k' : K} {v : V}

theorem get?_eq_some_iff : m.get? k = some v ↔ (k, v) ∈ m.entries := by
  constructor
  · intro h
    obtain ⟨⟨k₀, w⟩, found, rfl⟩ := Option.map_eq_some'.1 h
    obtain rfl : k₀ = k := by simpa using List.find?_some found
    exact List.mem_of_find?_eq_some found
  · intro mem
    obtain ⟨e, found⟩ := Option.isSome_iff_exists.1
      ((List.find?_isSome (p := fun e : K × V => decide (e.1 = k))).2 ⟨_, mem, by simp⟩)
    have same : e = (k, v) := List.inj_on_of_nodup_map m.nodup
      (List.mem_of_find?_eq_some found) mem (by simpa using List.find?_some found)
    simp [get?, found, same]

theorem get?_eq_none_iff : m.get? k = none ↔ ∀ v, (k, v) ∉ m.entries := by
  simp only [← get?_eq_some_iff]
  cases m.get? k <;> simp

/-- Two lookups agree when the same values sit under the two keys. -/
theorem get?_eq_of_mem_iff (same : ∀ v, (k, v) ∈ m.entries ↔ (k', v) ∈ m'.entries) :
    m.get? k = m'.get? k' :=
  Option.ext fun v => by simp only [Option.mem_def, get?_eq_some_iff, same]

@[simp] theorem get?_empty (k : K) : (empty : GoMap K V).get? k = none := rfl

@[simp] theorem get?_insert (m : GoMap K V) (k k' : K) (v : V) :
    (m.insert k v).get? k' = if k' = k then some v else m.get? k' := by
  split
  · subst k'; exact get?_eq_some_iff.2 (List.mem_cons_self _ _)
  · rename_i other
    exact get?_eq_of_mem_iff fun w => by simp [insert, other]

@[simp] theorem get?_erase (m : GoMap K V) (k k' : K) :
    (m.erase k).get? k' = if k' = k then none else m.get? k' := by
  split
  · subst k'; exact get?_eq_none_iff.2 fun w => by simp [erase]
  · rename_i other
    exact get?_eq_of_mem_iff fun w => by simp [erase, other]

@[simp] theorem get?_filterMap (f : K → V → Option V) (m : GoMap K V) (k : K) :
    (m.filterMap f).get? k = (m.get? k).bind (f k) := by
  refine Option.ext fun w => ?_
  simp only [Option.mem_def, get?_eq_some_iff, Option.bind_eq_some, filterMap, List.mem_filterMap,
    Option.map_eq_some', Prod.mk.injEq, Prod.exists]
  constructor
  · rintro ⟨k₀, v₀, mem, w₀, found, rfl, rfl⟩; exact ⟨v₀, mem, found⟩
  · rintro ⟨v₀, mem, found⟩; exact ⟨k, v₀, mem, w, found, rfl, rfl⟩

theorem mem_keys : k ∈ m.keys ↔ ∃ v, m.get? k = some v := by
  simp [keys, get?_eq_some_iff]

theorem mem_values : v ∈ m.values ↔ ∃ k, m.get? k = some v := by
  simp [values, get?_eq_some_iff]

theorem mem_keys_insert (m : GoMap K V) (k k' : K) (v : V) :
    k' ∈ (m.insert k v).keys ↔ k' = k ∨ k' ∈ m.keys := by
  simp only [mem_keys, get?_insert]
  split <;> simp [*]

theorem mem_keys_erase (m : GoMap K V) (k k' : K) :
    k' ∈ (m.erase k).keys ↔ k' ≠ k ∧ k' ∈ m.keys := by
  simp only [mem_keys, get?_erase]
  split <;> simp [*]

/-- Writing under a key already present keeps the key set. -/
theorem mem_keys_insert_of_mem {m : GoMap K V} {k k' : K} {v : V} (present : k ∈ m.keys) :
    k' ∈ (m.insert k v).keys ↔ k' ∈ m.keys := by
  rw [mem_keys_insert]
  exact ⟨fun h => h.elim (· ▸ present) id, .inr⟩

theorem mem_keys_empty (k : K) : k ∉ (empty : GoMap K V).keys := by simp [mem_keys]

/-- `len(m) == 0` is a map with no key. -/
theorem size_eq_zero_iff : m.size = 0 ↔ ∀ k, m.get? k = none := by
  simp only [size, List.length_eq_zero, get?_eq_none_iff]
  refine ⟨fun empty k v => by simp [empty], fun none => ?_⟩
  cases h : m.entries with
  | nil => rfl
  | cons e l => exact absurd (h ▸ List.mem_cons_self e l) (none e.1 e.2)

/-- `len(m)` counts keys without repetition: two different keys make a size
of at least two. -/
theorem two_le_size {a b : K} (ne : a ≠ b) (ha : a ∈ m.keys) (hb : b ∈ m.keys) : 2 ≤ m.size := by
  have pair : [a, b].Nodup := List.nodup_cons.2 ⟨by simpa using ne, List.nodup_singleton b⟩
  have sub := (List.subperm_of_subset pair (by simp [ha, hb] : [a, b] ⊆ m.keys)).length_le
  rwa [keys, List.length_map] at sub

end GoMap

end ImageScan
