import RevPilot.Library.Statistics
import Mathlib.Data.Rat.Floor

/-! The area under the precision-recall curve, read off a ranking by probability. Observations of
equal probability are ranked one after the other, in the order in which they come. -/
namespace RevPilot.Fairness
open Library Statistics

variable {K : Type*} [Field K] [LinearOrder K]

/-- The running counts of the loop, and what it has added up. -/
structure Ranking (K : Type*) where
  tp : Nat
  fp : Nat
  prevRecall : K
  ap : K

def Ranking.next (totalPositives : ℤ) (s : Ranking K) (y : ℤ) : Ranking K :=
  let tp := if y = 1 then s.tp + 1 else s.tp
  let fp := if y = 1 then s.fp else s.fp + 1
  let currentRecall : K := tp / totalPositives
  let precision : K := tp / (tp + fp)
  let deltaRecall := currentRecall - s.prevRecall
  if 0 < deltaRecall then { tp := tp, fp := fp, prevRecall := currentRecall, ap := s.ap + precision * deltaRecall }
  else { s with tp := tp, fp := fp }

/-- `sorted(zip(predicted_probs, actuals), key=lambda x: x[0], reverse=True)`. -/
def paired (actuals : List ℤ) (predictedProbs : List K) : List (K × ℤ) :=
  sortedBy (fun p => OrderDual.toDual p.1) (predictedProbs.zip actuals)

/-- The area before it is rounded. -/
def averagePrecision (actuals : List ℤ) (predictedProbs : List K) : K :=
  if actuals.length = 0 ∨ actuals.sum = 0 then 0
  else (((paired actuals predictedProbs).map Prod.snd).foldl (Ranking.next actuals.sum) ⟨0,0,0,0⟩).ap

def computePrAuc [FloorRing K] (actuals : List ℤ) (predictedProbs : List K) : K :=
  roundTo 4 (averagePrecision actuals predictedProbs)

section precision

/-- The precisions at the positive labels of a ranking, after so many labels of either kind. -/
def gain (tp fp : Nat) : List ℤ → K
  | [] => 0
  | y :: ys => if y = 1 then ((tp + 1 : Nat) : K) / ((tp + 1 : Nat) + fp) + gain (tp + 1) fp ys else gain tp (fp + 1) ys

def positives (ys : List ℤ) : Nat := ys.countP (· = 1)

def negatives (ys : List ℤ) : Nat := ys.countP (· ≠ 1)

omit [LinearOrder K] in
theorem gain_append (tp fp : Nat) (xs ys : List ℤ) :
    gain (K := K) tp fp (xs ++ ys) = gain tp fp xs + gain (tp + positives xs) (fp + negatives xs) ys := by
  induction xs generalizing tp fp with
  | nil => exact (zero_add _).symm
  | cons x xs ih =>
    unfold positives negatives at ih ⊢
    rw [List.cons_append,gain,gain]
    split
    next one => simp [ih,one,add_assoc,add_comm,add_left_comm]
    next other => simp [ih,other,add_assoc,add_comm]

variable [IsStrictOrderedRing K]

/-- The loop adds the precision at each positive label, over the number of positives. -/
theorem foldl_next {total : ℤ} (positive : 0 < total) (ys : List ℤ) (tp fp : Nat) (ap : K) :
    (ys.foldl (Ranking.next total) (⟨tp,fp,tp / total,ap⟩ : Ranking K)).ap = ap + gain tp fp ys / total := by
  have total_pos : (0 : K) < total := Int.cast_pos.mpr positive
  induction ys generalizing tp fp ap with
  | nil => simp [gain]
  | cons y ys ih =>
    rw [List.foldl_cons,gain]
    by_cases one : y = 1
    · have more : ((tp + 1 : Nat) : K) / total - tp / total = 1 / total := by
        rw [← sub_div]
        push_cast
        rw [add_sub_cancel_left]
      simp only [Ranking.next,if_pos one,more,if_pos (one_div_pos.mpr total_pos)]
      rw [ih]
      ring
    · simp only [Ranking.next,if_neg one,sub_self,lt_irrefl,if_false]
      exact ih tp (fp + 1) ap

theorem gain_between (tp fp : Nat) (ys : List ℤ) : 0 ≤ gain (K := K) tp fp ys ∧ gain (K := K) tp fp ys ≤ positives ys := by
  induction ys generalizing tp fp with
  | nil => exact ⟨le_rfl,by simp [gain,positives]⟩
  | cons y ys ih =>
    rw [gain]
    unfold positives at ih ⊢
    by_cases one : y = 1
    · obtain ⟨low,high⟩ := ih (tp + 1) fp
      have precision : ((tp + 1 : Nat) : K) / ((tp + 1 : Nat) + fp) ≤ 1 :=
        div_le_one_of_le₀ (by simp) (by positivity)
      rw [if_pos one,List.countP_cons_of_pos (by simpa using one)]
      push_cast
      exact ⟨add_nonneg (by positivity) low,by push_cast at precision; linarith⟩
    · rw [if_neg one,List.countP_cons_of_neg (by simpa using one)]
      exact ih tp (fp + 1)

/-- A positive label is worth more before a negative one than after it. -/
theorem gain_swap (xs ys : List ℤ) : gain (K := K) 0 0 (xs ++ 0 :: 1 :: ys) < gain 0 0 (xs ++ 1 :: 0 :: ys) := by
  rw [gain_append,gain_append]
  generalize 0 + positives xs = tp
  generalize 0 + negatives xs = fp
  have later : ((tp + 1 : Nat) : K) / ((tp + 1 : Nat) + (fp + 1 : Nat)) < ((tp + 1 : Nat) : K) / ((tp + 1 : Nat) + fp) := by
    refine div_lt_div_of_pos_left (by positivity) (by positivity) ?_
    push_cast
    linarith
  simp only [gain,zero_ne_one,if_true,if_false]
  linarith

end precision

section order
variable {pairs pairs' : List (ℤ × K)}

/-- The call for a list of labels with their probabilities. -/
def prAuc [FloorRing K] (pairs : List (ℤ × K)) : K := computePrAuc (pairs.map Prod.fst) (pairs.map Prod.snd)

def exactPrAuc (pairs : List (ℤ × K)) : K := averagePrecision (pairs.map Prod.fst) (pairs.map Prod.snd)

def ranking (pairs : List (ℤ × K)) : List ℤ := (sortedBy (fun p => OrderDual.toDual p.2) pairs).map Prod.fst

def Binary (pairs : List (ℤ × K)) : Prop := ∀ p ∈ pairs, p.1 = 0 ∨ p.1 = 1

def TiesAgree (pairs : List (ℤ × K)) : Prop := ∀ p ∈ pairs, ∀ q ∈ pairs, p.2 = q.2 → p.1 = q.1

omit [Field K] in
theorem paired_ranking (pairs : List (ℤ × K)) :
    (paired (pairs.map Prod.fst) (pairs.map Prod.snd)).map Prod.snd = ranking pairs := by
  have swapped : (pairs.map Prod.snd).zip (pairs.map Prod.fst) = pairs.map Prod.swap := List.zip_map'
  rw [paired,swapped,ranking,sortedBy,sortedBy,
    ← List.map_insertionSort (fun p q => OrderDual.toDual p.2 ≤ OrderDual.toDual q.2)
      (fun p q => OrderDual.toDual p.1 ≤ OrderDual.toDual q.1) Prod.swap pairs (fun _ _ _ _ => Iff.rfl),List.map_map]
  rfl

omit [Field K] in
theorem ranking_perm (pairs : List (ℤ × K)) : (ranking pairs).Perm (pairs.map Prod.fst) :=
  (sortedBy_perm _ pairs).map Prod.fst

theorem sum_positives {ys : List ℤ} (binary : ∀ y ∈ ys, y = 0 ∨ y = 1) : ys.sum = positives ys := by
  unfold positives
  induction ys with
  | nil => rfl
  | cons y ys ih =>
    rw [List.sum_cons,ih (fun z inside => binary z (List.mem_cons_of_mem _ inside))]
    rcases binary y List.mem_cons_self with rfl | rfl
    · simp
    · simp [add_comm]

variable [IsStrictOrderedRing K]

/-- The area under the curve of binary labels is the mean precision at the positive ones. -/
theorem exactPrAuc_eq (binary : Binary pairs) :
    exactPrAuc pairs = gain 0 0 (ranking pairs) / positives (pairs.map Prod.fst) := by
  have total : (pairs.map Prod.fst).sum = positives (pairs.map Prod.fst) := by
    refine sum_positives ?_
    intro y inside
    obtain ⟨p,member,rfl⟩ := List.mem_map.mp inside
    exact binary p member
  unfold exactPrAuc averagePrecision
  rw [paired_ranking,total]
  split
  next none =>
    have no : positives (pairs.map Prod.fst) = 0 := by
      rcases none with empty | zero
      · rw [List.length_eq_zero_iff] at empty
        rw [empty]
        rfl
      · exact_mod_cast zero
    rw [no,Nat.cast_zero,div_zero]
  next some =>
    have positive : (0 : ℤ) < positives (pairs.map Prod.fst) := by
      rw [not_or] at some
      omega
    have run := foldl_next (K := K) positive (ranking pairs) 0 0 0
    rw [Nat.cast_zero,zero_div,zero_add] at run
    rw [run,Int.cast_natCast]

theorem exactPrAuc_between (binary : Binary pairs) : 0 ≤ exactPrAuc pairs ∧ exactPrAuc pairs ≤ 1 := by
  obtain ⟨low,high⟩ := gain_between (K := K) 0 0 (ranking pairs)
  have same : positives (ranking pairs) = positives (pairs.map Prod.fst) := (ranking_perm pairs).countP_eq _
  rw [exactPrAuc_eq binary,← same]
  exact ⟨div_nonneg low (Nat.cast_nonneg _),div_le_one_of_le₀ high (Nat.cast_nonneg _)⟩

omit [Field K] [IsStrictOrderedRing K] in
theorem ranking_congr (agree : TiesAgree pairs) (perm : pairs.Perm pairs') : ranking pairs = ranking pairs' := by
  unfold ranking
  rw [sortedBy_congr _ perm]
  intro p first q second same
  exact Prod.ext (agree p first q second same) same

/-- A tie of different labels ranks better with the positive one first. -/
theorem exists_reordered (binary : Binary pairs) {p q : ℤ × K} (first : p ∈ pairs) (second : q ∈ pairs)
    (tied : p.2 = q.2) (positive : p.1 = 1) (negative : q.1 = 0) :
    ∃ better worse, pairs.Perm better ∧ pairs.Perm worse ∧ exactPrAuc worse < exactPrAuc better := by
  classical
  have other : q ≠ p := by
    rintro rfl
    rw [positive] at negative
    exact one_ne_zero negative
  have better : pairs.Perm (p :: q :: (pairs.erase p).erase q) :=
    (List.perm_cons_erase first).trans
      ((List.perm_cons_erase ((List.mem_erase_of_ne other).mpr second)).cons p)
  have worse := better.trans (List.Perm.swap q p _)
  generalize (pairs.erase p).erase q = rest at better worse
  refine ⟨_,_,better,worse,?_⟩
  obtain ⟨before,after,neighbours⟩ := sortedBy_tied (fun p : ℤ × K => OrderDual.toDual p.2) (OrderDual.toDual q.2) rest
  have kept {others : List (ℤ × K)} (perm : pairs.Perm others) : Binary others :=
    fun r member => binary r (perm.mem_iff.mpr member)
  have count : positives ((q :: p :: rest).map Prod.fst) = positives ((p :: q :: rest).map Prod.fst) :=
    (((List.Perm.swap q p rest).symm).map Prod.fst).countP_eq _
  have some : 0 < positives ((p :: q :: rest).map Prod.fst) := by
    rw [positives,List.map_cons,List.countP_cons_of_pos (by simpa using positive)]
    exact Nat.succ_pos _
  rw [exactPrAuc_eq (kept better),exactPrAuc_eq (kept worse),count]
  refine div_lt_div_of_pos_right ?_ (Nat.cast_pos.mpr some)
  rw [ranking,ranking,neighbours p q (congrArg _ tied) rfl,neighbours q p rfl (congrArg _ tied)]
  simp only [List.map_append,List.map_cons,positive,negative]
  exact gain_swap _ _

/-- Two orders of the same pairs can have different areas exactly when a probability has both labels. -/
theorem exactPrAuc_order_free_iff (binary : Binary pairs) :
    (∀ pairs', pairs.Perm pairs' → exactPrAuc pairs' = exactPrAuc pairs) ↔ TiesAgree pairs := by
  constructor
  · intro free p first q second tied
    by_contra differ
    have reordered {p q : ℤ × K} (first : p ∈ pairs) (second : q ∈ pairs) (tied : p.2 = q.2) (positive : p.1 = 1)
        (negative : q.1 = 0) : False := by
      obtain ⟨_,_,better,worse,less⟩ := exists_reordered binary first second tied positive negative
      rw [free _ better,free _ worse] at less
      exact lt_irrefl _ less
    rcases binary p first with zero | one
    · rcases binary q second with zero' | one'
      · exact differ (zero.trans zero'.symm)
      · exact reordered second first tied.symm one' zero
    · rcases binary q second with zero' | one'
      · exact reordered first second tied one zero'
      · exact differ (one.trans one'.symm)
  · intro agree pairs' perm
    rw [exactPrAuc_eq binary,exactPrAuc_eq (fun p member => binary p (perm.mem_iff.mpr member)),
      ranking_congr agree perm]
    have same : positives (pairs'.map Prod.fst) = positives (pairs.map Prod.fst) := (perm.symm.map Prod.fst).countP_eq _
    rw [same]

/-- The area does not depend on the order of pairs whose ties agree, in exact arithmetic of no others, and it is
never out of bounds. -/
theorem prAuc_order_free [FloorRing K] (binary : Binary pairs) :
    (TiesAgree pairs → ∀ pairs', pairs.Perm pairs' → prAuc pairs' = prAuc pairs) ∧
    ((∀ pairs', pairs.Perm pairs' → exactPrAuc pairs' = exactPrAuc pairs) ↔ TiesAgree pairs) ∧
    0 ≤ prAuc pairs ∧ prAuc pairs ≤ 1 := by
  refine ⟨?_,exactPrAuc_order_free_iff binary,?_,?_⟩
  · intro agree pairs' perm
    exact congrArg (roundTo 4) ((exactPrAuc_order_free_iff binary).mpr agree pairs' perm)
  · have zero : roundTo 4 (0 : K) = 0 := roundTo_exact (n := 0) (by norm_num)
    exact zero ▸ roundTo_mono (exactPrAuc_between binary).1
  · have one : roundTo 4 (1 : K) = 1 := roundTo_exact (n := 10 ^ 4) (by norm_num)
    exact one ▸ roundTo_mono (exactPrAuc_between binary).2

end order

theorem coin_depends_on_order : prAuc ([(0,1 / 2),(1,1 / 2)] : List (ℤ × ℚ)) ≠ prAuc [(1,1 / 2),(0,1 / 2)] := by
  decide +kernel

theorem separated_order_free :
    prAuc ([(0,1 / 3),(1,1 / 2)] : List (ℤ × ℚ)) = prAuc [(1,1 / 2),(0,1 / 3)] ∧
      prAuc ([(0,1 / 3),(1,1 / 2)] : List (ℤ × ℚ)) ≤ 1 := by
  have binary : Binary ([(1,1 / 2),(0,1 / 3)] : List (ℤ × ℚ)) := by
    unfold Binary
    decide
  have order := prAuc_order_free binary
  have agree : TiesAgree ([(1,1 / 2),(0,1 / 3)] : List (ℤ × ℚ)) := by
    unfold TiesAgree
    decide +kernel
  have same := order.1 agree [(0,1 / 3),(1,1 / 2)] (List.Perm.swap ..)
  exact ⟨same,same.trans_le order.2.2.2⟩

end RevPilot.Fairness
