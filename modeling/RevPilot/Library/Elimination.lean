import Mathlib.Algebra.BigOperators.Group.Finset.Basic
import Mathlib.Algebra.BigOperators.Group.List.Basic
import Mathlib.Algebra.BigOperators.Intervals
import Mathlib.Algebra.Module.BigOperators
import Mathlib.Algebra.Module.LinearMap.Defs
import Mathlib.Algebra.Order.Field.Basic
import Mathlib.Data.List.GetD
import Mathlib.Data.List.Induction
import Mathlib.Tactic.Linarith

/-! Gaussian elimination with partial pivoting, with right-hand sides in a module. What is
done to them depends on the coefficients alone, so a linear map of the right-hand sides
is one of the solution. No division is one by zero, and where no column is tiny the
result solves the system. -/
namespace RevPilot.Library.Elimination

universe u v w
variable {K : Type u} [Field K] [LinearOrder K]

abbrev Row (K : Type u) (V : Type v) := List K × V

section algorithm
variable {V : Type v} [AddCommGroup V] [Module K V] (tolerance jitter : K) (rows : List (Row K V))

def rowAt (k : Nat) : Row K V := rows.getD k ([],0)

def cell (k j : Nat) : K := (rowAt rows k).1.getD j 0

/-- The row from `i` on with the greatest entry in column `i`, the first of several. -/
def pivotRow (i : Nat) : Nat :=
  (List.range' (i + 1) (rows.length - (i + 1))).foldl
    (fun best k => if |cell rows best i| < |cell rows k i| then k else best) i

/-- A column whose entries are all tiny gets the jitter on its diagonal. -/
def jittered (i : Nat) : List (Row K V) :=
  if |cell rows (pivotRow rows i) i| < tolerance then
    rows.mapIdx (fun k row => if k = i then (row.1.modify i (· + jitter),row.2) else row)
  else rows

def swapped (i r : Nat) : List (Row K V) :=
  rows.mapIdx (fun k row => if k = i then rowAt rows r else if k = r then rowAt rows i else row)

/-- The rows below the pivot's lose their multiple of it. -/
def reduced (i : Nat) : List (Row K V) :=
  rows.mapIdx (fun k row =>
    if i < k then
      let factor := cell rows k i / cell rows i i
      (row.1.mapIdx (fun j m => if i ≤ j then m - factor * cell rows i j else m),row.2 - factor • (rowAt rows i).2)
    else row)

/-- The rows when the pivot of a column is in its place. -/
def pivoted (i : Nat) : List (Row K V) := swapped (jittered tolerance jitter rows i) i (pivotRow rows i)

def eliminateColumn (i : Nat) : List (Row K V) := reduced (pivoted tolerance jitter rows i) i

def eliminate : List (Row K V) := (List.range rows.length).foldl (eliminateColumn tolerance jitter) rows

/-- The unknowns from the last to the first. -/
def backSubstitute : List V :=
  rows.zipIdx.foldr (fun p xs =>
    (p.1.1.getD p.2 0)⁻¹ • (p.1.2 - (List.zipWith (· • ·) (p.1.1.drop (p.2 + 1)) xs).sum) :: xs) []

def solve (A : List (List K)) (b : List V) : List V := backSubstitute (eliminate tolerance jitter (A.zip b))

/-- The rows after the first `m` columns. -/
def reached (m : Nat) : List (Row K V) := (List.range m).foldl (eliminateColumn tolerance jitter) rows

/-! The same run with its divisions, each of which may fail. -/

def divide? (a b : K) : Option K := if b = 0 then none else some (a / b)

def reduced? (i : Nat) : Option (List (Row K V)) :=
  rows.zipIdx.mapM (fun p =>
    if i < p.2 then
      (divide? (cell rows p.2 i) (cell rows i i)).map (fun factor =>
        (p.1.1.mapIdx (fun j m => if i ≤ j then m - factor * cell rows i j else m),p.1.2 - factor • (rowAt rows i).2))
    else some p.1)

def eliminate? : Option (List (Row K V)) :=
  (List.range rows.length).foldlM (fun rows i => reduced? (pivoted tolerance jitter rows i) i) rows

def backSubstitute? : Option (List V) :=
  rows.zipIdx.foldrM (fun p xs => (divide? 1 (p.1.1.getD p.2 0)).map (fun inverse =>
    inverse • (p.1.2 - (List.zipWith (· • ·) (p.1.1.drop (p.2 + 1)) xs).sum) :: xs)) []

def solve? (A : List (List K)) (b : List V) : Option (List V) :=
  (eliminate? tolerance jitter (A.zip b)).bind backSubstitute?

end algorithm

section pivots
variable {V : Type v} [AddCommGroup V] [Module K V] {tolerance jitter : K} {rows : List (Row K V)} {i : Nat}

omit [Field K] [LinearOrder K] [Module K V] in
theorem rowAt_mapIdx (g : Nat → Row K V → Row K V) {k : Nat} (inside : k < rows.length) :
    rowAt (rows.mapIdx g) k = g k (rowAt rows k) := by
  rw [rowAt,rowAt,List.getD_eq_getElem rows _ inside,List.getD_eq_getElem _ _ (by rwa [List.length_mapIdx]),
    List.getElem_mapIdx]

omit [Module K V] in
/-- The row found is the pivot's own, or one below it with a greater entry. -/
theorem pivotRow_cases (rows : List (Row K V)) (i : Nat) : pivotRow rows i = i ∨
    (i < pivotRow rows i ∧ pivotRow rows i < rows.length ∧ |cell rows i i| < |cell rows (pivotRow rows i) i|) := by
  unfold pivotRow
  have below : ∀ k ∈ List.range' (i + 1) (rows.length - (i + 1)), i < k ∧ k < rows.length := by
    intro k inside
    rw [List.mem_range'_1] at inside
    omega
  generalize List.range' (i + 1) (rows.length - (i + 1)) = others at below
  induction others using List.reverseRecOn with
  | nil => exact .inl rfl
  | append_singleton others k ih =>
    have before := ih (fun k inside => below k (List.mem_append_left _ inside))
    have last := below k (List.mem_append_right _ (List.mem_singleton_self k))
    rw [List.foldl_append,List.foldl_cons,List.foldl_nil]
    generalize others.foldl _ i = best at before ⊢
    split
    next greater =>
      refine .inr ⟨last.1,last.2,?_⟩
      rcases before with rfl | ⟨_,_,less⟩
      · exact greater
      · exact less.trans greater
    next => exact before

omit [Field K] [LinearOrder K] [Module K V] in
theorem swapped_rowAt (inside : i < rows.length) (r : Nat) : rowAt (swapped rows i r) i = rowAt rows r := by
  rw [swapped,rowAt_mapIdx _ inside,if_pos rfl]

variable (tolerance jitter rows i) in
omit [Module K V] in
theorem jittered_length : (jittered tolerance jitter rows i).length = rows.length := by
  unfold jittered
  split
  · exact List.length_mapIdx
  · rfl

variable [IsStrictOrderedRing K]

omit [Module K V] in
/-- No column is left with a zero in the place of its pivot. -/
theorem pivot_ne_zero (inside : i < rows.length) (wide : i < (rowAt rows i).1.length) (positive : 0 < tolerance)
    (covers : tolerance ≤ jitter) : cell (pivoted tolerance jitter rows i) i i ≠ 0 := by
  rw [cell,pivoted,swapped_rowAt (by rwa [jittered_length])]
  unfold jittered
  split
  next tiny =>
    rcases pivotRow_cases rows i with own | ⟨below,bound,greater⟩
    · rw [own] at tiny ⊢
      have lifted : 0 < cell rows i i + jitter := by
        have above := (abs_lt.mp tiny).1
        linarith
      rw [cell,List.getD_eq_getElem _ _ wide] at lifted
      rw [rowAt_mapIdx _ inside,if_pos rfl,List.getD_eq_getElem _ _ (by rwa [List.length_modify]),
        List.getElem_modify_eq]
      exact lifted.ne'
    · rw [rowAt_mapIdx _ bound,if_neg below.ne']
      exact abs_pos.mp ((abs_nonneg _).trans_lt greater)
  next large => exact abs_pos.mp (positive.trans_le (not_lt.mp large))

/-- Every row has as many coefficients as there are unknowns. -/
def Wide (n : Nat) (rows : List (Row K V)) : Prop := ∀ k < rows.length, (rowAt rows k).1.length = n

omit [IsStrictOrderedRing K] [Module K V] in
theorem pivotRow_lt (inside : i < rows.length) : pivotRow rows i < rows.length := by
  rcases pivotRow_cases rows i with own | ⟨_,bound,_⟩
  · rwa [own]
  · exact bound

variable (tolerance jitter rows i) in
omit [IsStrictOrderedRing K] [Module K V] in
theorem pivoted_length : (pivoted tolerance jitter rows i).length = rows.length := by
  rw [pivoted,swapped,List.length_mapIdx,jittered_length]

variable (tolerance jitter rows i) in
omit [IsStrictOrderedRing K] in
theorem eliminateColumn_length : (eliminateColumn tolerance jitter rows i).length = rows.length := by
  rw [eliminateColumn,reduced,List.length_mapIdx,pivoted_length]

variable (tolerance jitter i) in
omit [IsStrictOrderedRing K] [Module K V] in
theorem wide_jittered {n : Nat} (wide : Wide n rows) : Wide n (jittered tolerance jitter rows i) := by
  unfold jittered
  split
  · intro k inside
    rw [List.length_mapIdx] at inside
    rw [rowAt_mapIdx _ inside]
    split
    · rw [List.length_modify,wide k inside]
    · exact wide k inside
  · exact wide

variable (tolerance jitter) in
omit [IsStrictOrderedRing K] [Module K V] in
theorem wide_pivoted {n : Nat} (inside : i < rows.length) (wide : Wide n rows) :
    Wide n (pivoted tolerance jitter rows i) := by
  have first := wide_jittered tolerance jitter i wide
  intro k bound
  rw [pivoted_length,← jittered_length tolerance jitter rows i] at bound
  rw [pivoted,swapped,rowAt_mapIdx _ bound]
  split
  · exact first _ (by rw [jittered_length]; exact pivotRow_lt inside)
  · split
    · exact first i (by rwa [jittered_length])
    · exact first k bound

omit [IsStrictOrderedRing K] in
theorem wide_eliminateColumn {n : Nat} (inside : i < rows.length) (wide : Wide n rows) :
    Wide n (eliminateColumn tolerance jitter rows i) := by
  have swapped := wide_pivoted tolerance jitter inside wide
  intro k bound
  rw [eliminateColumn_length,← pivoted_length tolerance jitter rows i] at bound
  rw [eliminateColumn,reduced,rowAt_mapIdx _ bound]
  split
  · rw [List.length_mapIdx,swapped k bound]
  · exact swapped k bound

omit [IsStrictOrderedRing K] in
/-- A column leaves the rows above its pivot alone. -/
theorem eliminateColumn_above {k : Nat} (above : k < i) (inside : i < rows.length) :
    rowAt (eliminateColumn tolerance jitter rows i) k = rowAt rows k := by
  have bound : k < (pivoted tolerance jitter rows i).length := (pivoted_length tolerance jitter rows i).symm ▸ above.trans inside
  have other : k ≠ pivotRow rows i := by
    rcases pivotRow_cases rows i with own | ⟨below,_,_⟩ <;> omega
  have bound' : k < (jittered tolerance jitter rows i).length := by
    rw [jittered_length]
    exact above.trans inside
  rw [eliminateColumn,reduced,rowAt_mapIdx _ bound,if_neg above.not_gt,pivoted,swapped,rowAt_mapIdx _ bound',
    if_neg above.ne,if_neg other]
  unfold jittered
  split
  · rw [rowAt_mapIdx _ (above.trans inside),if_neg above.ne]
  · rfl

variable (tolerance jitter rows) in
omit [IsStrictOrderedRing K] in
theorem reached_succ (m : Nat) :
    reached tolerance jitter rows (m + 1) = eliminateColumn tolerance jitter (reached tolerance jitter rows m) m := by
  rw [reached,List.range_succ,List.foldl_append]
  rfl

variable (tolerance jitter rows) in
omit [IsStrictOrderedRing K] in
theorem reached_length (m : Nat) : (reached tolerance jitter rows m).length = rows.length := by
  induction m with
  | zero => rfl
  | succ m ih => rw [reached_succ,eliminateColumn_length,ih]

omit [IsStrictOrderedRing K] in
theorem reached_wide (square : Wide rows.length rows) {m : Nat} (within : m ≤ rows.length) :
    Wide rows.length (reached tolerance jitter rows m) := by
  induction m with
  | zero => exact square
  | succ m ih =>
    rw [reached_succ]
    exact wide_eliminateColumn (by rwa [reached_length]) (ih (Nat.le_of_succ_le within))

/-- No turn divides by zero. -/
theorem reached_pivot (square : Wide rows.length rows) (positive : 0 < tolerance) (covers : tolerance ≤ jitter)
    {m : Nat} (inside : m < rows.length) :
    cell (pivoted tolerance jitter (reached tolerance jitter rows m) m) m m ≠ 0 := by
  have bound : m < (reached tolerance jitter rows m).length := by rwa [reached_length]
  refine pivot_ne_zero bound ?_ positive covers
  rwa [reached_wide square inside.le m bound]

omit [IsStrictOrderedRing K] in
theorem eliminateColumn_own (inside : i < rows.length) :
    rowAt (eliminateColumn tolerance jitter rows i) i = rowAt (pivoted tolerance jitter rows i) i := by
  rw [eliminateColumn,reduced,rowAt_mapIdx _ (by rwa [pivoted_length]),if_neg (lt_irrefl i)]

theorem reached_diagonal (square : Wide rows.length rows) (positive : 0 < tolerance) (covers : tolerance ≤ jitter)
    {m : Nat} (within : m ≤ rows.length) : ∀ k < m, cell (reached tolerance jitter rows m) k k ≠ 0 := by
  induction m with
  | zero => exact fun k none => absurd none (Nat.not_lt_zero k)
  | succ m ih =>
    intro k bound
    have inside : m < (reached tolerance jitter rows m).length := by rwa [reached_length]
    rw [reached_succ,cell]
    rcases Nat.lt_succ_iff_lt_or_eq.mp bound with above | rfl
    · rw [eliminateColumn_above above inside]
      exact ih (Nat.le_of_succ_le within) k above
    · rw [eliminateColumn_own inside]
      exact reached_pivot square positive covers within

/-- Back substitution divides by no zero. -/
theorem diagonal_ne_zero (square : Wide rows.length rows) (positive : 0 < tolerance) (covers : tolerance ≤ jitter) :
    ∀ k < rows.length, cell (eliminate tolerance jitter rows) k k ≠ 0 :=
  reached_diagonal square positive covers le_rfl

variable (tolerance jitter rows) in
omit [IsStrictOrderedRing K] in
theorem eliminate_length : (eliminate tolerance jitter rows).length = rows.length :=
  reached_length tolerance jitter rows rows.length

omit [LinearOrder K] [IsStrictOrderedRing K] in
theorem backSubstitute_length (rows : List (Row K V)) : (backSubstitute rows).length = rows.length := by
  unfold backSubstitute
  rw [← List.length_zipIdx (l := rows)]
  induction rows.zipIdx with
  | nil => rfl
  | cons p rest ih => rw [List.foldr_cons,List.length_cons,ih,List.length_cons]

omit [IsStrictOrderedRing K] in
theorem solve_length (A : List (List K)) (b : List V) : (solve tolerance jitter A b).length = min A.length b.length := by
  rw [solve,backSubstitute_length,eliminate_length,List.length_zip]

omit [IsStrictOrderedRing K] in
theorem reduced?_eq (pivot : cell rows i i ≠ 0) : reduced? rows i = some (reduced rows i) := by
  have divided (k : Nat) : divide? (cell rows k i) (cell rows i i) = some (cell rows k i / cell rows i i) := if_neg pivot
  have turns : reduced? rows i = rows.zipIdx.mapM (fun p => some (if i < p.2 then
      let factor := cell rows p.2 i / cell rows i i
      (p.1.1.mapIdx (fun j m => if i ≤ j then m - factor * cell rows i j else m),p.1.2 - factor • (rowAt rows i).2)
    else p.1)) := by
    unfold reduced?
    congr 1
    funext p
    rw [divided]
    split <;> rfl
  rw [turns,reduced,List.mapIdx_eq_zipIdx_map]
  exact List.mapM_pure

omit [IsStrictOrderedRing K] in
theorem backSubstitute?_eq (pivots : ∀ k < rows.length, cell rows k k ≠ 0) :
    backSubstitute? rows = some (backSubstitute rows) := by
  have diagonal : ∀ p ∈ rows.zipIdx, p.1.1.getD p.2 0 ≠ 0 := by
    intro p inside
    have found := List.mk_mem_zipIdx_iff_getElem?.mp inside
    obtain ⟨bound,same⟩ := List.getElem?_eq_some_iff.mp found
    have nonzero := pivots p.2 bound
    rwa [cell,rowAt,List.getD_eq_getElem rows _ bound,same] at nonzero
  unfold backSubstitute? backSubstitute
  generalize rows.zipIdx = ps at diagonal ⊢
  induction ps with
  | nil => rfl
  | cons p rest ih =>
    have head : divide? 1 (p.1.1.getD p.2 0) = some (p.1.1.getD p.2 0)⁻¹ := by
      rw [divide?,if_neg (diagonal p List.mem_cons_self),one_div]
    rw [List.foldrM_cons,ih (fun q inside => diagonal q (List.mem_cons_of_mem p inside)),List.foldr_cons]
    change (divide? 1 (p.1.1.getD p.2 0)).map _ = _
    rw [head]
    rfl

theorem eliminate?_eq (square : Wide rows.length rows) (positive : 0 < tolerance) (covers : tolerance ≤ jitter) :
    eliminate? tolerance jitter rows = some (eliminate tolerance jitter rows) := by
  have turns {m : Nat} (within : m ≤ rows.length) :
      (List.range m).foldlM (fun rows i => reduced? (pivoted tolerance jitter rows i) i) rows =
        some (reached tolerance jitter rows m) := by
    induction m with
    | zero => rfl
    | succ m ih =>
      rw [List.range_succ,List.foldlM_append,ih (Nat.le_of_succ_le within),reached_succ,eliminateColumn,
        ← reduced?_eq (reached_pivot square positive covers within)]
      exact bind_pure (m := Option) _
  exact turns le_rfl

/-- Nothing is ever divided by zero. -/
theorem solve?_eq {A : List (List K)} {b : List V} (square : Wide (A.zip b).length (A.zip b)) (positive : 0 < tolerance)
    (covers : tolerance ≤ jitter) : solve? tolerance jitter A b = some (solve tolerance jitter A b) := by
  rw [solve?,eliminate?_eq square positive covers,Option.bind_some]
  refine backSubstitute?_eq ?_
  rw [eliminate_length]
  exact diagonal_ne_zero square positive covers

end pivots

section linear
variable {V : Type v} {W : Type w} [AddCommGroup V] [Module K V] [AddCommGroup W] [Module K W] (f : V →ₗ[K] W)
  (tolerance jitter : K) (rows : List (Row K V))

def push (rows : List (Row K V)) : List (Row K W) := rows.map (Prod.map id f)

omit [LinearOrder K] in
theorem push_length : (push f rows).length = rows.length := List.length_map ..

omit [LinearOrder K] in
theorem rowAt_push (k : Nat) : rowAt (push f rows) k = Prod.map id f (rowAt rows k) := by
  have none : Prod.map id f (([],0) : Row K V) = ([],0) := Prod.ext rfl (map_zero f)
  rw [rowAt,rowAt,← none]
  exact List.getD_map ..

omit [LinearOrder K] in
theorem cell_push (k j : Nat) : cell (push f rows) k j = cell rows k j := by
  rw [cell,cell,rowAt_push]
  rfl

omit [LinearOrder K] in
/-- What is done to each row may be done before the map or after it. -/
theorem mapIdx_push {g : Nat → Row K V → Row K V} {h : Nat → Row K W → Row K W}
    (same : ∀ k row, Prod.map id f (g k row) = h k (Prod.map id f row)) :
    (push f rows).mapIdx h = push f (rows.mapIdx g) := by
  apply List.ext_getElem?
  intro k
  simp only [push,List.getElem?_mapIdx,List.getElem?_map,Option.map_map]
  congr 1
  funext row
  exact (same k row).symm

theorem pivotRow_push (i : Nat) : pivotRow (push f rows) i = pivotRow rows i := by
  unfold pivotRow
  simp only [cell_push,push_length]

theorem jittered_push (i : Nat) : jittered tolerance jitter (push f rows) i = push f (jittered tolerance jitter rows i) := by
  unfold jittered
  rw [pivotRow_push,cell_push]
  split
  · refine mapIdx_push f rows ?_
    intro k row
    split <;> rfl
  · rfl

omit [LinearOrder K] in
theorem swapped_push (i r : Nat) : swapped (push f rows) i r = push f (swapped rows i r) := by
  refine mapIdx_push f rows ?_
  intro k row
  simp only [rowAt_push]
  split
  · rfl
  · split <;> rfl

omit [LinearOrder K] in
theorem reduced_push (i : Nat) : reduced (push f rows) i = push f (reduced rows i) := by
  refine mapIdx_push f rows ?_
  intro k row
  simp only [cell_push,rowAt_push]
  split
  · refine Prod.ext rfl ?_
    simp only [Prod.map_snd,map_sub,map_smul]
  · rfl

theorem eliminateColumn_push (i : Nat) : eliminateColumn tolerance jitter (push f rows) i =
    push f (eliminateColumn tolerance jitter rows i) := by
  unfold eliminateColumn pivoted
  rw [jittered_push,pivotRow_push,swapped_push,reduced_push]

theorem eliminate_push : eliminate tolerance jitter (push f rows) = push f (eliminate tolerance jitter rows) := by
  unfold eliminate
  rw [push_length]
  induction List.range rows.length generalizing rows with
  | nil => rfl
  | cons i columns ih =>
    rw [List.foldl_cons,List.foldl_cons,eliminateColumn_push]
    exact ih _

omit [LinearOrder K] in
theorem backSubstitute_push : backSubstitute (push f rows) = (backSubstitute rows).map f := by
  unfold backSubstitute push
  rw [List.zipIdx_map]
  induction rows.zipIdx with
  | nil => rfl
  | cons p rest ih =>
    rw [List.map_cons,List.foldr_cons,List.foldr_cons,ih,List.map_cons]
    congr 1
    have terms (coefficients : List K) (xs : List V) :
        (List.zipWith (· • ·) coefficients (xs.map f)).sum = f (List.zipWith (· • ·) coefficients xs).sum := by
      rw [List.zipWith_map_right,map_list_sum,List.map_zipWith]
      simp only [map_smul]
    change (p.1.1.getD p.2 0)⁻¹ • (f p.1.2 - _) = f _
    rw [terms,map_smul,map_sub]
    rfl

/-- The solution of a system is linear in the right-hand sides. -/
theorem solve_map (A : List (List K)) (b : List V) :
    solve tolerance jitter A (b.map f) = (solve tolerance jitter A b).map f := by
  have zipped : A.zip (b.map f) = push f (A.zip b) := by
    rw [List.zip_map_right]
    rfl
  rw [solve,zipped,eliminate_push,backSubstitute_push]
  rfl

end linear

section solution
open Finset
variable {V : Type v} [AddCommGroup V] [Module K V] {tolerance jitter : K} {rows : List (Row K V)} {i n : Nat} {xs : List V}

omit [LinearOrder K] in
/-- A row against the unknowns, as a sum over the columns. -/
theorem zipWith_eq_sum {row : List K} (same : row.length = xs.length) :
    (List.zipWith (· • ·) row xs).sum = ∑ j ∈ range xs.length, row.getD j 0 • xs.getD j 0 := by
  induction row generalizing xs with
  | nil =>
    obtain rfl := List.length_eq_zero_iff.mp same.symm
    rfl
  | cons c row ih =>
    cases xs with
    | nil => cases same
    | cons x xs =>
      rw [List.zipWith_cons_cons,List.sum_cons,ih (Nat.succ.inj same),List.length_cons,sum_range_succ',add_comm]
      rfl

/-- The unknowns meet a row. -/
def Meets (xs : List V) (rows : List (Row K V)) (k : Nat) : Prop :=
  ∑ j ∈ range xs.length, cell rows k j • xs.getD j 0 = (rowAt rows k).2

def Solves (xs : List V) (rows : List (Row K V)) : Prop := ∀ k < rows.length, Meets xs rows k

/-- The columns before the `m`-th are zero below the diagonal. -/
def Cleared (m : Nat) (rows : List (Row K V)) : Prop := ∀ j < m, ∀ k, j < k → k < rows.length → cell rows k j = 0

/-- From the diagonal down a column has an entry that is not tiny. -/
def Sizeable (tolerance : K) (rows : List (Row K V)) (i : Nat) : Prop :=
  ∃ k, i ≤ k ∧ k < rows.length ∧ tolerance ≤ |cell rows k i|

omit [Module K V] in
theorem le_pivotRow {k : Nat} (below : i ≤ k) (inside : k < rows.length) :
    |cell rows k i| ≤ |cell rows (pivotRow rows i) i| := by
  -- the search never goes back to a smaller entry, and it passes every row
  have passed (ks : List Nat) : ∀ j ∈ i :: ks, |cell rows j i| ≤ |cell rows (ks.foldl
      (fun best k => if |cell rows best i| < |cell rows k i| then k else best) i) i| := by
    induction ks using List.reverseRecOn with
    | nil => exact fun j own => (List.mem_singleton.mp own ▸ le_rfl)
    | append_singleton ks last ih =>
      intro j member
      rw [List.foldl_append,List.foldl_cons,List.foldl_nil]
      rw [← List.cons_append,List.mem_append,List.mem_singleton] at member
      split
      next greater =>
        rcases member with earlier | rfl
        · exact (ih j earlier).trans greater.le
        · exact le_rfl
      next least =>
        rcases member with earlier | rfl
        · exact ih j earlier
        · exact not_lt.mp least
  refine passed _ k ?_
  rw [List.mem_cons,List.mem_range'_1]
  omega

omit [Module K V] in
/-- A column with such an entry gets no jitter. -/
theorem pivoted_sizeable (sizeable : Sizeable tolerance rows i) :
    pivoted tolerance jitter rows i = swapped rows i (pivotRow rows i) := by
  obtain ⟨k,below,inside,large⟩ := sizeable
  have enough := large.trans (le_pivotRow below inside)
  rw [pivoted,jittered,if_neg (not_lt.mpr enough)]

omit [Field K] [LinearOrder K] [Module K V] in
/-- Each row of the swap is one of the rows, and each of these is in it. -/
theorem swapped_row {r : Nat} (low : i < rows.length) (high : r < rows.length) (ordered : i ≤ r) {k : Nat}
    (inside : k < rows.length) :
    ∃ l < rows.length, (i ≤ k → i ≤ l) ∧ (k < i → l = k) ∧ rowAt (swapped rows i r) k = rowAt rows l ∧
      rowAt (swapped rows i r) l = rowAt rows k := by
  rcases eq_or_ne k i with rfl | other
  · refine ⟨r,high,fun _ => ordered,by omega,swapped_rowAt low r,?_⟩
    rw [swapped,rowAt_mapIdx _ high]
    split
    next same => rw [same]
    next => rw [if_pos rfl]
  · rcases eq_or_ne k r with rfl | apart
    · refine ⟨i,low,fun _ => le_rfl,by omega,?_,swapped_rowAt low k⟩
      rw [swapped,rowAt_mapIdx _ inside,if_neg other,if_pos rfl]
    · refine ⟨k,inside,id,fun _ => rfl,?_,?_⟩ <;> rw [swapped,rowAt_mapIdx _ inside,if_neg other,if_neg apart]

omit [LinearOrder K] in
theorem swapped_solves {r : Nat} (low : i < rows.length) (high : r < rows.length) (ordered : i ≤ r)
    (solves : Solves xs (swapped rows i r)) : Solves xs rows := by
  intro k inside
  obtain ⟨l,bound,-,-,-,moved⟩ := swapped_row low high ordered inside
  have met := solves l (by rwa [swapped,List.length_mapIdx])
  unfold Meets cell at met ⊢
  rwa [moved] at met

omit [LinearOrder K] [Module K V] in
theorem swapped_cleared {r : Nat} (low : i < rows.length) (high : r < rows.length) (ordered : i ≤ r)
    (cleared : Cleared i rows) : Cleared i (swapped rows i r) := by
  intro j before k below inside
  rw [swapped,List.length_mapIdx] at inside
  obtain ⟨l,bound,later,earlier,same,-⟩ := swapped_row low high ordered inside
  rw [cell,same]
  refine cleared j before l ?_ bound
  by_cases above : k < i
  · rwa [earlier above]
  · exact before.trans_le (later (not_lt.mp above))

omit [LinearOrder K] in
theorem reduced_below (wide : Wide n rows) (cleared : Cleared i rows) (inside : i < rows.length) {k j : Nat}
    (below : i < k) (bound : k < rows.length) (column : j < n) :
    cell (reduced rows i) k j = cell rows k j - cell rows k i / cell rows i i * cell rows i j := by
  have long : j < (rowAt rows k).1.length := by rwa [wide k bound]
  rw [cell,reduced,rowAt_mapIdx _ bound,if_pos below]
  dsimp only
  rw [List.getD_eq_getElem _ _ (by rwa [List.length_mapIdx]),List.getElem_mapIdx,← List.getD_eq_getElem _ 0 long]
  split
  next => rfl
  next before => rw [cleared j (not_le.mp before) i (not_le.mp before) inside,mul_zero,sub_zero]; rfl

omit [LinearOrder K] in
theorem reduced_rowAt {k : Nat} (upto : k ≤ i) (bound : k < rows.length) : rowAt (reduced rows i) k = rowAt rows k := by
  rw [reduced,rowAt_mapIdx _ bound,if_neg (not_lt.mpr upto)]

omit [LinearOrder K] in
/-- The reduced rows have no solution that the rows do not have. -/
theorem reduced_solves (wide : Wide xs.length rows) (cleared : Cleared i rows) (inside : i < rows.length)
    (solves : Solves xs (reduced rows i)) : Solves xs rows := by
  have size : (reduced rows i).length = rows.length := List.length_mapIdx
  have kept {k : Nat} (upto : k ≤ i) (bound : k < rows.length) : Meets xs rows k := by
    have met := solves k (by rwa [size])
    unfold Meets cell at met ⊢
    rwa [reduced_rowAt upto bound] at met
  intro k bound
  rcases Nat.lt_or_ge i k with below | upto
  · have own : ∑ j ∈ range xs.length, cell rows i j • xs.getD j 0 = (rowAt rows i).2 := kept le_rfl inside
    have met : ∑ j ∈ range xs.length, cell (reduced rows i) k j • xs.getD j 0 =
        (rowAt rows k).2 - (cell rows k i / cell rows i i) • (rowAt rows i).2 := by
      have met := solves k (by rwa [size])
      unfold Meets at met
      rw [met,reduced,rowAt_mapIdx _ bound,if_pos below]
    have split : ∑ j ∈ range xs.length, cell (reduced rows i) k j • xs.getD j 0 =
        ∑ j ∈ range xs.length, cell rows k j • xs.getD j 0 -
          (cell rows k i / cell rows i i) • ∑ j ∈ range xs.length, cell rows i j • xs.getD j 0 := by
      rw [smul_sum,← sum_sub_distrib]
      refine sum_congr rfl ?_
      intro j column
      rw [reduced_below wide cleared inside below bound (mem_range.mp column),sub_smul,mul_smul]
    rw [split,own] at met
    exact sub_left_injective met
  · exact kept upto bound

omit [LinearOrder K] in
/-- A column with a pivot is cleared below it, and the columns before it stay so. -/
theorem reduced_cleared (wide : Wide n rows) (cleared : Cleared i rows) (inside : i < rows.length) (column : i < n)
    (pivot : cell rows i i ≠ 0) : Cleared (i + 1) (reduced rows i) := by
  intro j before k below bound
  rw [reduced,List.length_mapIdx] at bound
  rcases Nat.lt_or_ge i k with under | upto
  · rw [reduced_below wide cleared inside under bound (by omega)]
    rcases Nat.lt_succ_iff_lt_or_eq.mp before with earlier | rfl
    · rw [cleared j earlier k below bound,cleared j earlier i earlier inside,mul_zero,sub_zero]
    · rw [div_mul_cancel₀ _ pivot,sub_self]
  · rw [cell,reduced_rowAt upto bound]
    exact cleared j (below.trans_le upto) k below bound

omit [LinearOrder K] in
/-- The rows from the `s`-th on against the unknowns that were found for them. -/
theorem foldr_meets (rest : List (Row K V)) (s : Nat) :
    let found := (rest.zipIdx s).foldr (fun p xs =>
      (p.1.1.getD p.2 0)⁻¹ • (p.1.2 - (List.zipWith (· • ·) (p.1.1.drop (p.2 + 1)) xs).sum) :: xs) ([] : List V)
    found.length = rest.length ∧ ∀ t < rest.length, cell rest t (s + t) ≠ 0 →
      cell rest t (s + t) • found.getD t 0 +
        (List.zipWith (· • ·) ((rowAt rest t).1.drop (s + t + 1)) (found.drop (t + 1))).sum = (rowAt rest t).2 := by
  induction rest generalizing s with
  | nil => exact ⟨rfl,fun t none => absurd none (Nat.not_lt_zero t)⟩
  | cons row rest ih =>
    obtain ⟨size,met⟩ := ih (s + 1)
    rw [List.zipIdx_cons,List.foldr_cons]
    refine ⟨congrArg Nat.succ size,?_⟩
    intro t bound pivot
    cases t with
    | zero =>
      change row.1.getD s 0 ≠ 0 at pivot
      change row.1.getD s 0 • ((row.1.getD s 0)⁻¹ • (row.2 - _)) + _ = row.2
      rw [smul_inv_smul₀ pivot]
      exact sub_add_cancel ..
    | succ t =>
      have shift : s + (t + 1) = s + 1 + t := by omega
      rw [shift] at pivot ⊢
      exact met t (Nat.lt_of_succ_lt_succ bound) pivot

omit [LinearOrder K] in
/-- Back substitution solves rows that are zero below a diagonal without zeros. -/
theorem backSubstitute_solves (square : Wide rows.length rows) (cleared : Cleared rows.length rows)
    (pivots : ∀ k < rows.length, cell rows k k ≠ 0) : Solves (backSubstitute rows) rows := by
  intro k inside
  obtain ⟨size,met⟩ := foldr_meets rows 0
  have own := met k inside
  rw [Nat.zero_add] at own
  replace own := own (pivots k inside)
  change (backSubstitute rows).length = rows.length at size
  change cell rows k k • (backSubstitute rows).getD k 0 +
    (List.zipWith (· • ·) ((rowAt rows k).1.drop (k + 1)) ((backSubstitute rows).drop (k + 1))).sum = _ at own
  have tail : (List.zipWith (· • ·) ((rowAt rows k).1.drop (k + 1)) ((backSubstitute rows).drop (k + 1))).sum =
      ∑ j ∈ range (rows.length - (k + 1)), cell rows k (k + 1 + j) • (backSubstitute rows).getD (k + 1 + j) 0 := by
    rw [zipWith_eq_sum (by rw [List.length_drop,List.length_drop,square k inside,size]),List.length_drop,size]
    simp only [cell,List.getD_eq_getElem?_getD,List.getElem?_drop]
  have head : ∑ j ∈ range k, cell rows k j • (backSubstitute rows).getD j 0 = 0 := by
    refine sum_eq_zero ?_
    intro j before
    rw [cleared j ((mem_range.mp before).trans inside) k (mem_range.mp before) inside,zero_smul]
  rw [Meets,size,show rows.length = k + 1 + (rows.length - (k + 1)) by omega,sum_range_add,sum_range_succ,head,zero_add,
    ← tail,own]

omit [Field K] [LinearOrder K] [Module K V] in
theorem rowAt_zip {A : List (List K)} {b : List V} {k : Nat} (inside : k < A.length) (inside' : k < b.length) :
    rowAt (A.zip b) k = (A[k],b[k]) := by
  rw [rowAt,List.getD_eq_getElem _ _ (by rw [List.length_zip]; omega),List.getElem_zip]

omit [LinearOrder K] in
/-- The unknowns times the matrix are the right-hand sides. -/
theorem Solves.product {A : List (List K)} {b : List V} (solves : Solves xs (A.zip b)) (sized : b.length = A.length)
    (wide : ∀ row ∈ A, row.length = xs.length) : A.map (fun row => (List.zipWith (· • ·) row xs).sum) = b := by
  apply List.ext_getElem
  · rw [List.length_map,sized]
  · intro k left right
    rw [List.length_map] at left
    have met := solves k (by rw [List.length_zip]; omega)
    unfold Meets cell at met
    rw [rowAt_zip left right] at met
    rw [List.getElem_map,zipWith_eq_sum (wide _ (List.getElem_mem left)),met]

section runs
variable [IsStrictOrderedRing K]

/-- One column: it is cleared, and no solution is added. -/
theorem eliminateColumn_step (wide : Wide rows.length rows) (cleared : Cleared i rows) (inside : i < rows.length)
    (positive : 0 < tolerance) (sizeable : Sizeable tolerance rows i) :
    Cleared (i + 1) (eliminateColumn tolerance jitter rows i) ∧
      ∀ xs : List V, xs.length = rows.length → Solves xs (eliminateColumn tolerance jitter rows i) → Solves xs rows := by
  have high : pivotRow rows i < rows.length := pivotRow_lt inside
  have ordered : i ≤ pivotRow rows i := by
    rcases pivotRow_cases rows i with own | ⟨below,-,-⟩
    · exact own.ge
    · exact below.le
  have moved : Wide rows.length (swapped rows i (pivotRow rows i)) := by
    have turned := wide_pivoted tolerance jitter inside wide
    rwa [pivoted_sizeable sizeable] at turned
  have size : (swapped rows i (pivotRow rows i)).length = rows.length := List.length_mapIdx
  have low : i < (swapped rows i (pivotRow rows i)).length := by rwa [size]
  have kept := swapped_cleared inside high ordered cleared
  have pivot : cell (swapped rows i (pivotRow rows i)) i i ≠ 0 := by
    obtain ⟨k,below,bound,large⟩ := sizeable
    rw [cell,swapped_rowAt inside]
    exact abs_pos.mp (positive.trans_le (large.trans (le_pivotRow below bound)))
  rw [eliminateColumn,pivoted_sizeable sizeable]
  refine ⟨reduced_cleared moved kept low inside pivot,?_⟩
  intro xs full solves
  rw [← full] at moved
  exact swapped_solves inside high ordered (reduced_solves moved kept low solves)

/-- All columns so far. -/
theorem reached_solves (square : Wide rows.length rows) (positive : 0 < tolerance)
    (sizeable : ∀ i < rows.length, Sizeable tolerance (reached tolerance jitter rows i) i) {m : Nat}
    (within : m ≤ rows.length) :
    Cleared m (reached tolerance jitter rows m) ∧
      ∀ xs : List V, xs.length = rows.length → Solves xs (reached tolerance jitter rows m) → Solves xs rows := by
  induction m with
  | zero => exact ⟨fun j none => absurd none (Nat.not_lt_zero j),fun _ _ solves => solves⟩
  | succ m ih =>
    obtain ⟨cleared,before⟩ := ih (Nat.le_of_succ_le within)
    have size := reached_length tolerance jitter rows m
    have wide : Wide rows.length (reached tolerance jitter rows m) := reached_wide square (Nat.le_of_succ_le within)
    rw [← size] at wide
    rw [reached_succ]
    obtain ⟨next,kept⟩ := eliminateColumn_step wide cleared (by rwa [size]) positive (sizeable m within)
    refine ⟨next,?_⟩
    intro xs full solves
    exact before xs full (kept xs (by rw [full,size]) solves)

/-- Where every column has an entry that is not tiny, the result solves the system. -/
theorem solve_solves {A : List (List K)} {b : List V} (square : Wide (A.zip b).length (A.zip b)) (positive : 0 < tolerance)
    (covers : tolerance ≤ jitter)
    (sizeable : ∀ i < (A.zip b).length, Sizeable tolerance (reached tolerance jitter (A.zip b) i) i) :
    Solves (solve tolerance jitter A b) (A.zip b) := by
  have size := eliminate_length tolerance jitter (A.zip b)
  obtain ⟨cleared,kept⟩ := reached_solves square positive sizeable le_rfl
  refine kept _ ?_ (backSubstitute_solves ?_ ?_ ?_)
  · exact (backSubstitute_length _).trans size
  · rw [size]
    exact reached_wide square le_rfl
  · rw [size]
    exact cleared
  · rw [size]
    exact diagonal_ne_zero square positive covers

end runs
end solution
end RevPilot.Library.Elimination
