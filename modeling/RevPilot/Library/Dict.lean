import Mathlib.Algebra.BigOperators.Group.List.Basic
import Mathlib.Data.List.Induction
import Mathlib.Data.List.Nodup
import Mathlib.Tactic.Abel

/-! Insertion-ordered dictionaries: an assignment to a present key keeps the
key's place, a new key goes to the end. Distinctness of the keys is carried by
the structure, so every dictionary that can be built is well formed. -/
namespace RevPilot.Library

universe u v

structure Dict (K : Type u) (V : Type v) where
  entries : List (K × V)
  distinct : (entries.map Prod.fst).Nodup

namespace Dict
variable {K : Type u} {V : Type v}

def empty : Dict K V := ⟨[],List.nodup_nil⟩

instance : Inhabited (Dict K V) := ⟨empty⟩

def keys (d : Dict K V) : List K := d.entries.map Prod.fst

def values (d : Dict K V) : List V := d.entries.map Prod.snd

variable [DecidableEq K]

def get? (d : Dict K V) (k : K) : Option V := (d.entries.find? (fun e => e.1 = k)).map Prod.snd

/-- The entries after `d[k] = v`. -/
def assign : List (K × V) → K → V → List (K × V)
  | [], k, v => [(k,v)]
  | (j,w) :: rest, k, v => if j = k then (j,v) :: rest else (j,w) :: assign rest k v

theorem assign_keys_mem (es : List (K × V)) (k j : K) (v : V) :
    j ∈ (assign es k v).map Prod.fst ↔ j = k ∨ j ∈ es.map Prod.fst := by
  induction es with
  | nil => simp [assign]
  | cons e es ih =>
    obtain ⟨i,w⟩ := e
    simp only [assign]
    split
    next same => subst same; simp
    next other =>
      simp only [List.map_cons,List.mem_cons,ih]
      tauto

theorem assign_distinct (es : List (K × V)) (k : K) (v : V) (distinct : (es.map Prod.fst).Nodup) :
    ((assign es k v).map Prod.fst).Nodup := by
  induction es with
  | nil => simp [assign]
  | cons e es ih =>
    obtain ⟨i,w⟩ := e
    obtain ⟨absent,rest⟩ := List.nodup_cons.mp (show (i :: es.map Prod.fst).Nodup from distinct)
    simp only [assign]
    split
    next same => exact List.nodup_cons.mpr ⟨absent,rest⟩
    next other =>
      refine List.nodup_cons.mpr ⟨?_,ih rest⟩
      rw [assign_keys_mem]
      rintro (same | inside)
      · exact other same
      · exact absent inside

def set (d : Dict K V) (k : K) (v : V) : Dict K V :=
  ⟨assign d.entries k v,assign_distinct d.entries k v d.distinct⟩

/-- `d.pop(k, None)`. -/
def erase (d : Dict K V) (k : K) : Dict K V :=
  ⟨d.entries.filter (fun e => e.1 ≠ k),
    List.Nodup.sublist (List.Sublist.map Prod.fst List.filter_sublist) d.distinct⟩

instance (d : Dict K V) (k : K) : Decidable (k ∈ d.keys) := inferInstanceAs (Decidable (k ∈ List.map _ _))

@[simp] theorem get?_empty (k : K) : (empty : Dict K V).get? k = none := rfl

theorem get?_assign (es : List (K × V)) (k j : K) (v : V) :
    ((assign es k v).find? (fun e => e.1 = j)).map Prod.snd =
      if j = k then some v else (es.find? (fun e => e.1 = j)).map Prod.snd := by
  induction es with
  | nil => by_cases same : k = j <;> simp [assign,same,eq_comm]
  | cons e es ih =>
    obtain ⟨i,w⟩ := e
    simp only [assign]
    by_cases here : i = k
    · subst here
      by_cases asked : i = j
      · simp [asked]
      · simp [asked,Ne.symm asked]
    · simp only [here,if_false]
      by_cases asked : i = j
      · subst asked
        simp [here]
      · simp only [List.find?_cons,asked,decide_false]
        exact ih

theorem get?_set (d : Dict K V) (k j : K) (v : V) :
    (d.set k v).get? j = if j = k then some v else d.get? j := get?_assign d.entries k j v

@[simp] theorem get?_set_self (d : Dict K V) (k : K) (v : V) : (d.set k v).get? k = some v := by
  simp [get?_set]

@[simp] theorem get?_set_ne (d : Dict K V) {k j : K} (v : V) (other : j ≠ k) :
    (d.set k v).get? j = d.get? j := by
  simp [get?_set,other]

/-- Of the entries that were stored one after the other, the last one of a key stays. -/
theorem get?_foldl_set {A : Type*} (name : A → K) (value : A → V) (xs : List A) (d : Dict K V) (k : K) :
    (xs.foldl (fun d x => d.set (name x) (value x)) d).get? k =
      ((xs.reverse.find? (fun x => name x = k)).map value).or (d.get? k) := by
  induction xs using List.reverseRecOn with
  | nil => simp
  | append_singleton xs x ih =>
    rw [List.foldl_append,List.reverse_append]
    simp only [List.foldl_cons,List.foldl_nil,List.reverse_singleton,List.singleton_append,List.find?_cons,get?_set,ih]
    by_cases same : k = name x
    · simp [same]
    · simp [same,Ne.symm same]

theorem assign_same {es : List (K × V)} {k : K} {v : V}
    (stored : (es.find? (fun e => e.1 = k)).map Prod.snd = some v) : assign es k v = es := by
  induction es with
  | nil => cases stored
  | cons e es ih =>
    obtain ⟨i,w⟩ := e
    simp only [assign]
    by_cases here : i = k
    · have same : w = v := by simpa [here] using stored
      rw [if_pos here,same]
    · rw [if_neg here,ih (by simpa [here] using stored)]

theorem assign_absent {es : List (K × V)} {k : K} (absent : k ∉ es.map Prod.fst) (v : V) :
    assign es k v = es ++ [(k,v)] := by
  induction es with
  | nil => rfl
  | cons e es ih =>
    obtain ⟨j,w⟩ := e
    have apart : j ≠ k := by
      intro same
      exact absent (List.mem_cons.mpr (.inl same.symm))
    rw [assign,if_neg apart,ih (fun inside => absent (List.mem_cons_of_mem _ inside)),List.cons_append]

/-- Writing what is there changes nothing. -/
theorem set_same {d : Dict K V} {k : K} {v : V} (stored : d.get? k = some v) : d.set k v = d := by
  obtain ⟨es,distinct⟩ := d
  simp only [set,assign_same stored]

/-- An assignment to a present key leaves the keys alone. -/
theorem keys_set_of_mem {d : Dict K V} {k : K} {v w : V} (stored : d.get? k = some v) : (d.set k w).keys = d.keys := by
  obtain ⟨es,distinct⟩ := d
  simp only [get?,set,keys] at stored ⊢
  clear distinct
  induction es with
  | nil => cases stored
  | cons e es ih =>
    obtain ⟨j,x⟩ := e
    unfold assign
    by_cases here : j = k
    · rw [if_pos here]
      rfl
    · rw [if_neg here,List.map_cons,ih]
      · rfl
      · simpa [here] using stored

theorem mem_entries_iff (d : Dict K V) (k : K) (v : V) : (k,v) ∈ d.entries ↔ d.get? k = some v := by
  obtain ⟨es,distinct⟩ := d
  simp only [get?]
  induction es with
  | nil => simp
  | cons e es ih =>
    obtain ⟨i,w⟩ := e
    obtain ⟨absent,rest⟩ := List.nodup_cons.mp (show (i :: es.map Prod.fst).Nodup from distinct)
    by_cases here : i = k
    · subst here
      simp only [List.mem_cons,Prod.mk.injEq,true_and,List.find?_cons,decide_true,Option.map_some,
        Option.some.injEq]
      constructor
      · rintro (same | inside)
        · exact same.symm
        · exact absurd (List.mem_map.mpr ⟨(i,v),inside,rfl⟩) absent
      · intro same
        exact .inl same.symm
    · simp only [List.mem_cons,Prod.mk.injEq,Ne.symm here,false_and,false_or,List.find?_cons,here,
        decide_false]
      exact ih rest

theorem mem_values_iff (d : Dict K V) (v : V) : v ∈ d.values ↔ ∃ k, d.get? k = some v := by
  simp only [values,List.mem_map,Prod.exists,exists_eq_right,mem_entries_iff]

theorem mem_keys_iff (d : Dict K V) (k : K) : k ∈ d.keys ↔ d.get? k ≠ none := by
  rw [Option.ne_none_iff_exists']
  simp only [keys,List.mem_map,Prod.exists,exists_and_right,exists_eq_right,mem_entries_iff]

/-- A new key goes to the end. -/
theorem entries_set_absent (d : Dict K V) {k : K} (absent : k ∉ d.keys) (v : V) :
    (d.set k v).entries = d.entries ++ [(k,v)] := assign_absent absent v

theorem get?_erase (d : Dict K V) (k j : K) :
    (d.erase k).get? j = if j = k then none else d.get? j := by
  have spec (v : V) : (d.erase k).get? j = some v ↔ j ≠ k ∧ d.get? j = some v := by
    rw [← mem_entries_iff,← mem_entries_iff]
    simp [erase,and_comm]
  by_cases same : j = k
  · rw [if_pos same]
    by_contra found
    obtain ⟨v,here⟩ := Option.ne_none_iff_exists'.mp found
    exact ((spec v).mp here).1 same
  · rw [if_neg same]
    apply Option.ext
    intro v
    rw [spec v]
    simp [same]

/-- The sum of a weight over the values. -/
def total {M : Type*} [AddCommMonoid M] (weight : V → M) (d : Dict K V) : M := (d.values.map weight).sum

/-- An assignment takes the weight of the old value off and puts the new one on. -/
theorem total_set {M : Type*} [AddCommGroup M] (weight : V → M) (d : Dict K V) (k : K) (v : V) :
    (d.set k v).total weight = d.total weight - (d.get? k).elim 0 weight + weight v := by
  obtain ⟨es,distinct⟩ := d
  simp only [total,values,set,get?]
  clear distinct
  induction es with
  | nil => simp [assign]
  | cons e es ih =>
    obtain ⟨j,w⟩ := e
    simp only [assign]
    by_cases here : j = k
    · simp only [here,if_true,List.map_cons,List.sum_cons,List.find?_cons,decide_true,Option.map_some,Option.elim_some]
      abel
    · simp only [here,if_false,List.map_cons,List.sum_cons,List.find?_cons,decide_false,ih]
      abel

end Dict
end RevPilot.Library

/-! Tables: dictionaries whose rows meet a condition under their keys and of which no two rows are
in conflict. One write keeps a table exactly if the new row fits its key and the rows of the other
keys. -/
namespace RevPilot.Library

universe u v

structure Table {K : Type u} {V : Type v} [DecidableEq K] (fits : K → V → Prop) (conflict : V → V → Prop)
    (d : Dict K V) : Prop where
  fit : ∀ k v, d.get? k = some v → fits k v
  apart : ∀ k v j w, k ≠ j → d.get? k = some v → d.get? j = some w → ¬ conflict v w

namespace Table
variable {K : Type u} {V : Type v} [DecidableEq K] {fits : K → V → Prop} {conflict : V → V → Prop} {d : Dict K V}

theorem empty : Table fits conflict (.empty : Dict K V) where
  fit k v stored := by cases stored
  apart k v j w other stored := by cases stored

theorem set_iff (symm : ∀ v w, conflict v w → conflict w v) (table : Table fits conflict d) (k : K) (v : V) :
    Table fits conflict (d.set k v) ↔ fits k v ∧ ∀ j w, j ≠ k → d.get? j = some w → ¬ conflict v w := by
  constructor
  · intro written
    refine ⟨written.fit k v (Dict.get?_set_self d k v),?_⟩
    intro j w other stored
    apply written.apart k v j w (Ne.symm other) (Dict.get?_set_self d k v)
    rwa [Dict.get?_set_ne d v other]
  · rintro ⟨fit,free⟩
    constructor
    · intro j w stored
      by_cases own : j = k
      · subst own
        obtain rfl : v = w := by simpa using stored
        exact fit
      · rw [Dict.get?_set_ne d v own] at stored
        exact table.fit j w stored
    · intro i x j w other first second
      by_cases own : i = k
      · subst own
        obtain rfl : v = x := by simpa using first
        rw [Dict.get?_set_ne d v (Ne.symm other)] at second
        exact free j w (Ne.symm other) second
      · rw [Dict.get?_set_ne d v own] at first
        by_cases again : j = k
        · subst again
          obtain rfl : v = w := by simpa using second
          exact fun clash => free i x own first (symm x v clash)
        · rw [Dict.get?_set_ne d v again] at second
          exact table.apart i x j w other first second

end Table
end RevPilot.Library

/-! Dictionaries of counts, `defaultdict(int)` in the source. -/
namespace RevPilot.Library.Dict
variable {K : Type*} [DecidableEq K]

def count (d : Dict K Nat) (k : K) : Nat := (d.get? k).getD 0

/-- `d[k] += 1`. -/
def increment (d : Dict K Nat) (k : K) : Dict K Nat := d.set k (d.count k + 1)

/-- The sum of the counts whose keys meet a condition. -/
def countWhere (p : K → Bool) (d : Dict K Nat) : Nat := (d.entries.map (fun e => if p e.1 then e.2 else 0)).sum

@[simp] theorem count_empty (k : K) : (empty : Dict K Nat).count k = 0 := rfl

omit [DecidableEq K] in
@[simp] theorem countWhere_empty (p : K → Bool) : (empty : Dict K Nat).countWhere p = 0 := rfl

theorem count_increment (d : Dict K Nat) (k j : K) :
    (d.increment k).count j = d.count j + if j = k then 1 else 0 := by
  unfold count increment
  rw [get?_set]
  by_cases same : j = k
  · rw [if_pos same,if_pos same,same]
    rfl
  · rw [if_neg same,if_neg same,Nat.add_zero]

theorem mem_keys_set {V : Type*} (d : Dict K V) (k j : K) (v : V) : j ∈ (d.set k v).keys ↔ j = k ∨ j ∈ d.keys :=
  assign_keys_mem d.entries k j v

theorem mem_keys_increment (d : Dict K Nat) (k j : K) : j ∈ (d.increment k).keys ↔ j = k ∨ j ∈ d.keys :=
  mem_keys_set d k j _

/-- The old count goes out of the sum and the new one comes in. -/
theorem sum_assign (p : K → Bool) (es : List (K × Nat)) (k : K) (v : Nat) :
    ((assign es k v).map (fun e => if p e.1 then e.2 else 0)).sum +
        (if p k then ((es.find? (fun e => e.1 = k)).map Prod.snd).getD 0 else 0) =
      (es.map (fun e => if p e.1 then e.2 else 0)).sum + if p k then v else 0 := by
  induction es with
  | nil => simp [assign]
  | cons e es ih =>
    obtain ⟨j,w⟩ := e
    simp only [assign]
    by_cases same : j = k
    · subst same
      simp only [if_true,List.map_cons,List.sum_cons,List.find?_cons,decide_true,Option.map_some,Option.getD_some]
      omega
    · rw [if_neg same]
      simp only [List.map_cons,List.sum_cons,List.find?_cons,decide_eq_false same]
      omega

theorem countWhere_increment (p : K → Bool) (d : Dict K Nat) (k : K) :
    (d.increment k).countWhere p = d.countWhere p + if p k then 1 else 0 := by
  have swapped := sum_assign p d.entries k (d.count k + 1)
  have old : ((d.entries.find? (fun e => e.1 = k)).map Prod.snd).getD 0 = d.count k := rfl
  rw [old] at swapped
  change ((assign d.entries k (d.count k + 1)).map (fun e => if p e.1 then e.2 else 0)).sum = _
  unfold countWhere
  cases accepted : p k with
  | true =>
    simp only [accepted,if_true] at swapped ⊢
    omega
  | false =>
    simp only [accepted,Bool.false_eq_true,if_false] at swapped ⊢
    omega

end RevPilot.Library.Dict

/-! Lists under keys, `defaultdict(list)` in the source. -/
namespace RevPilot.Library.Dict
variable {K V : Type*} [DecidableEq K]

/-- `d[key(x)].append(x)`. -/
def push (key : V → K) (d : Dict K (List V)) (x : V) : Dict K (List V) :=
  d.set (key x) ((d.get? (key x)).getD [] ++ [x])

def groupBy (key : V → K) (xs : List V) : Dict K (List V) := xs.foldl (push key) .empty

/-- A group holds the elements of its key, in their order, and no group is empty. -/
theorem get?_groupBy (key : V → K) (xs : List V) (k : K) : (groupBy key xs).get? k =
    if xs.filter (fun x => key x = k) = [] then none else some (xs.filter (fun x => key x = k)) := by
  unfold groupBy
  induction xs using List.reverseRecOn with
  | nil => rfl
  | append_singleton xs x ih =>
    rw [List.foldl_append,List.foldl_cons,List.foldl_nil,push,get?_set,List.filter_append]
    by_cases same : k = key x
    · subst same
      rw [if_pos rfl,ih]
      split
      next empty => simp [empty]
      next => simp
    · have other : [x].filter (fun x => key x = k) = [] := by simp [Ne.symm same]
      rw [if_neg same,ih,other,List.append_nil]

theorem mem_groupBy {key : V → K} {xs : List V} {k : K} {group : List V} :
    (k,group) ∈ (groupBy key xs).entries ↔ group = xs.filter (fun x => key x = k) ∧ group ≠ [] := by
  rw [mem_entries_iff,get?_groupBy]
  split
  next empty =>
    rw [empty]
    constructor
    · intro none
      cases none
    · rintro ⟨rfl,filled⟩
      exact absurd rfl filled
  next filled =>
    rw [Option.some.injEq]
    constructor
    · rintro rfl
      exact ⟨rfl,filled⟩
    · exact fun same => same.1.symm

end RevPilot.Library.Dict

/-! Counts by groups. -/
namespace RevPilot.Library
variable {A B : Type*}

/-- Where every element has one value at most, the groups of some values hold their elements once. -/
theorem sum_countP_groups [DecidableEq B] {groups : List B} (distinct : groups.Nodup) {values : A → List B} {xs : List A}
    (single : ∀ x ∈ xs, (values x).length ≤ 1) (p : A → Bool) :
    (groups.map (fun g => xs.countP (fun x => p x && (values x).contains g))).sum =
      xs.countP (fun x => p x && (values x).any groups.contains) := by
  induction xs with
  | nil => simp
  | cons x xs ih =>
    obtain ⟨here,rest⟩ := List.forall_mem_cons.mp single
    have counted : (groups.map (fun g => if (p x && (values x).contains g) = true then 1 else 0)).sum =
        if (p x && (values x).any groups.contains) = true then 1 else 0 := by
      cases known : values x with
      | nil => simp
      | cons b more =>
        rw [known,List.length_cons] at here
        obtain rfl : more = [] := List.length_eq_zero_iff.mp (by omega)
        rw [List.sum_map_eq_nsmul_single b _ (fun g other _ => by simp [other])]
        cases p x <;> simp [List.Nodup.count,distinct]
    simp only [List.countP_cons,List.sum_map_add,ih rest,counted]

/-- A further condition leaves a count as it is if it holds of all that is counted. -/
theorem countP_and_eq_iff (p q : A → Bool) (xs : List A) :
    xs.countP (fun x => p x && q x) = xs.countP p ↔ ∀ x ∈ xs, p x = true → q x = true := by
  simp only [Bool.and_comm (p _)]
  rw [← List.countP_filter,List.countP_eq_length_filter (l := xs),List.countP_eq_length]
  simp only [List.mem_filter,and_imp]

end RevPilot.Library
