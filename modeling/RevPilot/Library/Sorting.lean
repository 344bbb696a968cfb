import Mathlib.Data.List.MinMax
import Mathlib.Data.List.Sort
import Mathlib.Data.List.TakeWhile
import Mathlib.Data.Prod.Lex

/-! `sorted(xs, key=...)` for keys of a linear order: stable, led by the first
element with the least key, and, for keys that tell the elements apart,
independent of the order in which they come. -/
namespace RevPilot.Library

universe u v
variable {α : Type u} {κ : Type v} [LinearOrder κ] (key : α → κ)

def sortedBy (xs : List α) : List α := xs.insertionSort (fun a b => key a ≤ key b)

theorem sortedBy_perm (xs : List α) : (sortedBy key xs).Perm xs := xs.perm_insertionSort _

theorem mem_sortedBy (xs : List α) (x : α) : x ∈ sortedBy key xs ↔ x ∈ xs := (sortedBy_perm key xs).mem_iff

theorem sortedBy_pairwise (xs : List α) : (sortedBy key xs).Pairwise (fun a b => key a ≤ key b) := by
  have total : Std.Total (fun a b => key a ≤ key b) := ⟨fun a b => le_total (key a) (key b)⟩
  have trans : IsTrans α (fun a b => key a ≤ key b) := ⟨fun _ _ _ => le_trans⟩
  exact xs.pairwise_insertionSort _

/-- A lower key stands at a lower index. -/
theorem sortedBy_index {xs : List α} {i j : Nat} {x y : α} (first : (sortedBy key xs)[i]? = some x)
    (second : (sortedBy key xs)[j]? = some y) (below : key x < key y) : i < j := by
  obtain ⟨inside,rfl⟩ := List.getElem?_eq_some_iff.mp first
  obtain ⟨inside',rfl⟩ := List.getElem?_eq_some_iff.mp second
  rcases lt_trichotomy i j with before | rfl | after
  · exact before
  · exact absurd below (lt_irrefl _)
  · exact absurd below (List.pairwise_iff_getElem.mp (sortedBy_pairwise key xs) j i inside' inside after).not_gt

theorem head_sortedBy (xs : List α) : (sortedBy key xs).head? = xs.argmin key := by
  induction xs with
  | nil => rfl
  | cons x xs ih =>
    rw [List.argmin_cons,← ih]
    unfold sortedBy
    rw [List.insertionSort_cons]
    cases xs.insertionSort (fun a b => key a ≤ key b) with
    | nil => rfl
    | cons y ys =>
      by_cases least : key x ≤ key y
      · simp [least,not_lt.mpr least]
      · simp [least,not_le.mp least]

theorem sortedBy_congr {xs ys : List α} (perm : xs.Perm ys)
    (apart : ∀ x ∈ xs, ∀ y ∈ xs, key x = key y → x = y) : sortedBy key xs = sortedBy key ys := by
  have both : (sortedBy key xs).Perm (sortedBy key ys) :=
    (sortedBy_perm key xs).trans (perm.trans (sortedBy_perm key ys).symm)
  refine List.Perm.eq_of_pairwise ?_ (sortedBy_pairwise key xs) (sortedBy_pairwise key ys) both
  intro x y first second below above
  have inside : y ∈ xs := perm.mem_iff.mpr ((mem_sortedBy key ys y).mp second)
  exact apart x ((mem_sortedBy key xs x).mp first) y inside (le_antisymm below above)

/-- Two elements of one key that come first stay neighbours, in their order. -/
theorem sortedBy_tied (k : κ) (rest : List α) : ∃ before after, ∀ x y, key x = k → key y = k →
    sortedBy key (x :: y :: rest) = before ++ x :: y :: after := by
  let lower (z : α) : Bool := decide (¬ k ≤ key z)
  refine ⟨(sortedBy key rest).takeWhile lower,(sortedBy key rest).dropWhile lower,?_⟩
  intro x y first second
  have inserted (z : α) (here : key z = k) (xs : List α) : xs.orderedInsert (fun a b => key a ≤ key b) z =
      xs.takeWhile lower ++ z :: xs.dropWhile lower := by
    subst here
    exact List.orderedInsert_eq_take_drop ..
  have below : ∀ z ∈ (sortedBy key rest).takeWhile lower, lower z = true := fun _ => List.mem_takeWhile_imp
  have stop : lower y = false := by simp [lower,second]
  unfold sortedBy at below ⊢
  rw [List.insertionSort_cons,List.insertionSort_cons,inserted y second,inserted x first,
    List.takeWhile_append_of_pos below,List.dropWhile_append_of_pos below,List.takeWhile_cons,List.dropWhile_cons,stop]
  simp

section places

/-- Elements with their indices, ordered by key and, for equal keys, by index. -/
def placeKey (p : α × Nat) : κ ×ₗ Nat := toLex (key p.1,p.2)

theorem orderedInsert_placed (x : α) (start : Nat) (ps : List (α × Nat)) (later : ∀ p ∈ ps, start < p.2) :
    (ps.orderedInsert (fun a b => placeKey key a ≤ placeKey key b) (x,start)).map Prod.fst =
      (ps.map Prod.fst).orderedInsert (fun a b => key a ≤ key b) x := by
  induction ps with
  | nil => rfl
  | cons p ps ih =>
    have same : placeKey key (x,start) ≤ placeKey key p ↔ key x ≤ key p.1 := by
      have before := later p (List.mem_cons_self ..)
      rw [placeKey,placeKey,Prod.Lex.toLex_le_toLex]
      exact (or_congr_right (and_iff_left before.le)).trans le_iff_lt_or_eq.symm
    rw [List.map_cons,List.orderedInsert_cons,List.orderedInsert_cons]
    by_cases least : key x ≤ key p.1
    · rw [if_pos (same.mpr least),if_pos least]
      rfl
    · rw [if_neg (mt same.mp least),if_neg least,List.map_cons,
        ih (fun q inside => later q (List.mem_cons_of_mem _ inside))]

/-- The sort is stable: its elements stand in the order of their keys and indices. -/
theorem sortedBy_placed (xs : List α) (start : Nat) :
    (sortedBy (placeKey key) (xs.zipIdx start)).map Prod.fst = sortedBy key xs := by
  induction xs generalizing start with
  | nil => rfl
  | cons x xs ih =>
    have later : ∀ p ∈ sortedBy (placeKey key) (xs.zipIdx (start + 1)), start < p.2 := by
      intro p inside
      rw [mem_sortedBy] at inside
      exact (List.mk_mem_zipIdx_iff_le_and_getElem?_sub.mp inside).1
    have inserted := orderedInsert_placed key x start _ later
    rw [ih] at inserted
    rw [List.zipIdx_cons]
    exact inserted

theorem placed_strictly (xs : List α) :
    (sortedBy (placeKey key) xs.zipIdx).Pairwise fun a b => placeKey key a < placeKey key b := by
  have distinct : (sortedBy (placeKey key) xs.zipIdx).Nodup := by
    refine (sortedBy_perm _ _).nodup_iff.mpr (List.Nodup.of_map Prod.snd ?_)
    rw [List.zipIdx_map_snd]
    exact List.nodup_range'
  refine (distinct.and (sortedBy_pairwise (placeKey key) xs.zipIdx)).imp_of_mem ?_
  intro a b inside inside' apart
  refine lt_of_le_of_ne apart.2 ?_
  intro same
  rw [mem_sortedBy] at inside inside'
  have index : a.2 = b.2 := (Prod.mk.inj (toLex.injective same)).2
  have found := (List.mk_mem_zipIdx_iff_getElem?.mp inside).symm
  rw [index,List.mk_mem_zipIdx_iff_getElem?.mp inside'] at found
  exact apart.1 (Prod.ext (Option.some.inj found) index)

end places

/-- In a strictly sorted list two elements stand side by side iff no third one is between them. -/
theorem sideBySide_iff {xs : List α} (sorted : xs.Pairwise fun a b => key a < key b) {i j : Nat} {x y : α}
    (first : xs[i]? = some x) (second : xs[j]? = some y) :
    j = i + 1 ↔ key x < key y ∧ ∀ z ∈ xs, ¬ (key x < key z ∧ key z < key y) := by
  have ordered {i j : Nat} {x y : α} (first : xs[i]? = some x) (second : xs[j]? = some y) : key x < key y ↔ i < j := by
    obtain ⟨inside,rfl⟩ := List.getElem?_eq_some_iff.mp first
    obtain ⟨inside',rfl⟩ := List.getElem?_eq_some_iff.mp second
    have before {i j : Nat} (inside : i < xs.length) (inside' : j < xs.length) (less : i < j) : key xs[i] < key xs[j] :=
      List.pairwise_iff_getElem.mp sorted i j inside inside' less
    refine ⟨fun below => ?_,before inside inside'⟩
    rcases lt_trichotomy i j with less | rfl | more
    · exact less
    · exact absurd below (lt_irrefl _)
    · exact absurd below (before inside' inside more).not_gt
  rw [ordered first second]
  constructor
  · rintro rfl
    refine ⟨Nat.lt_succ_self i,?_⟩
    intro z inside between
    obtain ⟨k,found⟩ := List.mem_iff_getElem?.mp inside
    rw [ordered first found,ordered found second] at between
    omega
  · rintro ⟨less,free⟩
    by_contra apart
    have inside : i + 1 < xs.length := by
      have := (List.getElem?_eq_some_iff.mp second).1
      omega
    have found : xs[i + 1]? = some xs[i + 1] := List.getElem?_eq_getElem inside
    refine free _ (List.getElem_mem inside) ⟨(ordered first found).mpr (Nat.lt_succ_self i),?_⟩
    exact (ordered found second).mpr (by omega)

end RevPilot.Library
