import RevPilot.Library.Dict

/-! Stores of records that carry their own tenant and identifier. `RecordStore`
is the contract of a repository port whose single calls are atomic; `Shelves` is
the dictionary of dictionaries that keeps one shelf of records for each tenant,
and its fields make a record under a foreign key impossible. -/
namespace RevPilot.Library

/-- What a repository port promises: `save` of a record not there yet and
`update` of one already there store it, and neither touches another key. -/
structure RecordStore (S T I R : Type) (tenantOf : R → T) (idOf : R → I) where
  empty : S
  get : S → T → I → Option R
  save : S → R → S
  update : S → R → S
  get_empty : ∀ t i, get empty t i = none
  get_keyed : ∀ {s t i r}, get s t i = some r → tenantOf r = t ∧ idOf r = i
  get_save_self : ∀ s r, get s (tenantOf r) (idOf r) = none →
    get (save s r) (tenantOf r) (idOf r) = some r
  get_save_other : ∀ s r t i, ¬ (t = tenantOf r ∧ i = idOf r) → get (save s r) t i = get s t i
  get_update_self : ∀ s r, get s (tenantOf r) (idOf r) ≠ none →
    get (update s r) (tenantOf r) (idOf r) = some r
  get_update_other : ∀ s r t i, ¬ (t = tenantOf r ∧ i = idOf r) → get (update s r) t i = get s t i

structure Shelves (T I R : Type) [DecidableEq T] [DecidableEq I] (tenantOf : R → T) (idOf : R → I) where
  storage : Dict T (Dict I R)
  keyed : ∀ t shelf, storage.get? t = some shelf →
    ∀ i r, shelf.get? i = some r → tenantOf r = t ∧ idOf r = i

namespace Shelves
variable {T I R : Type} [DecidableEq T] [DecidableEq I] {tenantOf : R → T} {idOf : R → I}

def empty : Shelves T I R tenantOf idOf := ⟨.empty,by simp⟩

/-- `self._storage.get(t_key, {})`. -/
def shelf (s : Shelves T I R tenantOf idOf) (t : T) : Dict I R := (s.storage.get? t).getD .empty

def find (s : Shelves T I R tenantOf idOf) (t : T) (i : I) : Option R := (s.shelf t).get? i

theorem find_keyed {s : Shelves T I R tenantOf idOf} {t : T} {i : I} {r : R}
    (found : s.find t i = some r) : tenantOf r = t ∧ idOf r = i := by
  simp only [find,shelf] at found
  cases stored : s.storage.get? t with
  | none => simp [stored] at found
  | some shelf =>
    rw [stored] at found
    exact s.keyed t shelf stored i r found

/-- `self._storage[t_key][a_key] = record`, with the shelf made on first use. -/
def put (s : Shelves T I R tenantOf idOf) (r : R) : Shelves T I R tenantOf idOf :=
  ⟨s.storage.set (tenantOf r) ((s.shelf (tenantOf r)).set (idOf r) r),by
    intro t shelf stored i found inside
    rw [Dict.get?_set] at stored
    by_cases same : t = tenantOf r
    · subst same
      obtain rfl : (s.shelf (tenantOf r)).set (idOf r) r = shelf := by simpa using stored
      rw [Dict.get?_set] at inside
      by_cases own : i = idOf r
      · subst own
        obtain rfl : r = found := by simpa using inside
        exact ⟨rfl,rfl⟩
      · rw [if_neg own] at inside
        exact find_keyed inside
    · rw [if_neg same] at stored
      exact s.keyed t shelf stored i found inside⟩

@[simp] theorem find_empty (t : T) (i : I) : (empty : Shelves T I R tenantOf idOf).find t i = none := rfl

theorem shelf_put (s : Shelves T I R tenantOf idOf) (r : R) (t : T) :
    (s.put r).shelf t = if t = tenantOf r then (s.shelf t).set (idOf r) r else s.shelf t := by
  simp only [shelf,put,Dict.get?_set]
  by_cases same : t = tenantOf r
  · subst same
    simp
  · simp [same]

theorem find_put (s : Shelves T I R tenantOf idOf) (r : R) (t : T) (i : I) :
    (s.put r).find t i = if t = tenantOf r ∧ i = idOf r then some r else s.find t i := by
  simp only [find,shelf_put]
  by_cases same : t = tenantOf r
  · by_cases own : i = idOf r <;> simp [same,own]
  · simp [same]

/-- `self._storage.get(t_key, {}).values()`. -/
def records (s : Shelves T I R tenantOf idOf) (t : T) : List R := (s.shelf t).values

theorem mem_records (s : Shelves T I R tenantOf idOf) (t : T) (r : R) :
    r ∈ s.records t ↔ s.find t (idOf r) = some r := by
  simp only [records,Dict.mem_values_iff]
  constructor
  · rintro ⟨i,found⟩
    have own := (find_keyed (s := s) (t := t) found).2
    rw [own]
    exact found
  · intro found
    exact ⟨idOf r,found⟩

theorem records_nodup (s : Shelves T I R tenantOf idOf) (t : T) : ((s.records t).map idOf).Nodup := by
  have keys : (s.records t).map idOf = (s.shelf t).keys := by
    simp only [records,Dict.values,Dict.keys,List.map_map]
    apply List.map_congr_left
    rintro ⟨i,r⟩ inside
    exact (find_keyed (s := s) (t := t) (((s.shelf t).mem_entries_iff i r).mp inside)).2
  rw [keys]
  exact (s.shelf t).distinct

/-- The shelves meet the contract of a repository port. -/
def store : RecordStore (Shelves T I R tenantOf idOf) T I R tenantOf idOf where
  empty := empty
  get := find
  save := put
  update := put
  get_empty := find_empty
  get_keyed := find_keyed
  get_save_self s r _ := by simp [find_put]
  get_save_other s r t i other := by rw [find_put,if_neg other]
  get_update_self s r _ := by simp [find_put]
  get_update_other s r t i other := by rw [find_put,if_neg other]

end Shelves
end RevPilot.Library
