import RevPilot.Library.Elimination
import RevPilot.Library.Outcome
import RevPilot.Library.Statistics
import Mathlib.Algebra.Module.Prod
import Mathlib.Data.Rat.Floor
import Mathlib.LinearAlgebra.Prod

/-! The doubly robust estimator: a ridge regression of the outcomes in either cohort, and the
mean of what the propensities correct them by. Outcomes lie in a module over the field of the
covariates: the regressions do the same to them whatever they are. -/
namespace RevPilot.Causal
open Library
open scoped Statistics

inductive EstimationError where
  | causalInference (code message : String)
  | indexError
  deriving DecidableEq, Repr

def insufficientSample : EstimationError :=
  .causalInference "ERR_INSUFFICIENT_SAMPLE" "At least 4 samples required for AIPW estimation"

def overlapViolation : EstimationError :=
  .causalInference "ERR_OVERLAP_VIOLATION" "Both treated and control cohorts required for AIPW estimation"

def sizeMismatch (rows targets : Nat) : EstimationError :=
  .causalInference "ERR_INVALID_SAMPLE_DATA" s!"Sample size mismatch: X has {rows} rows, Y has {targets} targets"

universe u
variable {K V : Type u} [Field K] [LinearOrder K] [AddCommGroup V] [Module K V]

/-- `_solve_linear_system`. -/
def solveLinearSystem (A : List (List K)) (b : List V) : List V :=
  Elimination.solve (1 / 10 ^ 12) (1 / 10 ^ 6) A b

/-- The same, with no value where it divides by zero. -/
def solveLinearSystem? (A : List (List K)) (b : List V) : Option (List V) :=
  Elimination.solve? (1 / 10 ^ 12) (1 / 10 ^ 6) A b

/-- The rows at the start of the turn of column `i`. -/
def reachedRows (A : List (List K)) (b : List V) (i : Nat) : List (Elimination.Row K V) :=
  Elimination.reached (1 / 10 ^ 12) (1 / 10 ^ 6) (A.zip b) i

/-- The matrix of the normal equations for the first `p` covariates, with the ridge on all but the intercept. -/
def normalMatrix (lambdaRidge : K) (p : Nat) (X : List (List K)) : List (List K) :=
  (List.range (p + 1)).map (fun j => (List.range (p + 1)).map (fun k =>
    (X.map (fun x => (1 :: x).getD j 0 * (1 :: x).getD k 0)).sum + if j = k ∧ 0 < j then lambdaRidge else 0))

def normalTarget (p : Nat) (rows : List (List K × V)) : List V :=
  (List.range (p + 1)).map (fun j => (rows.map (fun r => (1 :: r.1).getD j 0 • r.2)).sum)

def fitted (lambdaRidge : K) (p : Nat) (rows : List (List K × V)) : List V :=
  solveLinearSystem (normalMatrix lambdaRidge p (rows.map Prod.fst)) (normalTarget p rows)

/-- The number of covariates is read off the first row. -/
def width (X : List (List K)) : Nat := (X.headD []).length

def fitRidgeLinearRegression (X : List (List K)) (Y : List V) (lambdaRidge : K := 1 / 100) :
    Except EstimationError (List V) :=
  if X.length = 0 ∨ Y.length ≠ X.length then .error (sizeMismatch X.length Y.length)
  else if ∀ x ∈ X, width X ≤ x.length then .ok (fitted lambdaRidge (width X) (X.zip Y))
  else .error .indexError

def predicted (beta : List V) (row : List K) : V := beta.headD 0 + (List.zipWith (· • ·) row beta.tail).sum

def predictLinear (X : List (List K)) (beta : List V) : Except EstimationError (List V) :=
  if ∀ x ∈ X, beta.length - 1 ≤ x.length then .ok (X.map (predicted beta)) else .error .indexError

/-- `X_treated` and `Y_treated` for the label 1, `X_control` and `Y_control` for 0. -/
def cohort (label : ℤ) : List (List K) → List ℤ → List V → Except EstimationError (List (List K × V))
  | [],_,_ => .ok []
  | _ :: _,[],_ => .error .indexError
  | x :: X,t :: T,Y =>
    if t = label then
      match Y with
      | [] => .error .indexError
      | y :: Y => return (x,y) :: (← cohort label X T Y)
    else cohort label X T Y.tail

def clipped (minPropensity maxPropensity e : K) : K := max minPropensity (min maxPropensity e)

/-- The score of a unit, with its clipped propensity and what the two models predict of it. -/
def score (e : K) (t : ℤ) (y m1 m0 : V) : V :=
  (m1 - m0) + ((t : K) / e) • (y - m1) - ((1 - (t : K)) / (1 - e)) • (y - m0)

def psi (clip : K → K) : List (V × V) → List ℤ → List V → List K → Except EstimationError (List V)
  | [],_,_,_ => .ok []
  | (m1,m0) :: mu,t :: T,y :: Y,e :: E => return score (clip e) t y m1 m0 :: (← psi clip mu T Y E)
  | _,_,_,_ => .error .indexError

/-- The scores of `estimate_aipw_ate` for given propensities. -/
def influence (X : List (List K)) (T : List ℤ) (Y : List V) (propensityScores : List K)
    (minPropensity : K := 1 / 20) (maxPropensity : K := 19 / 20) : Except EstimationError (List V) := do
  if X.length < 4 then throw insufficientSample
  let treated ← cohort 1 X T Y
  let control ← cohort 0 X T Y
  if treated.isEmpty || control.isEmpty then throw overlapViolation
  let beta1 ← fitRidgeLinearRegression (treated.map Prod.fst) (treated.map Prod.snd)
  let beta0 ← fitRidgeLinearRegression (control.map Prod.fst) (control.map Prod.snd)
  let mu1 ← predictLinear X beta1
  let mu0 ← predictLinear X beta0
  psi (clipped minPropensity maxPropensity) (mu1.zip mu0) T Y propensityScores

def ate (n : Nat) (psi : List V) : V := (n : K)⁻¹ • psi.sum

/-- The point estimate before it is rounded. -/
def aipwPointEstimate (X : List (List K)) (T : List ℤ) (Y : List V) (propensityScores : List K)
    (minPropensity : K := 1 / 20) (maxPropensity : K := 19 / 20) : Except EstimationError V :=
  (influence X T Y propensityScores minPropensity maxPropensity).map (ate (K := K) X.length)

/-- `compute_p_value_two_tailed`, with the square root and the error function of the platform. -/
def computePValueTwoTailed [FloorRing K] (sqrt erf : K → K) (z : K) : K :=
  max 0 (min 1 (Statistics.roundTo 6 (1 - erf (|z| / sqrt 2))))

structure AipwEstimate (K : Type u) where
  pointEstimate : K
  standardError : K
  confidenceInterval : K × K
  pValue : K

def estimateAipwAte [FloorRing K] (sqrt erf : K → K) (X : List (List K)) (T : List ℤ) (Y propensityScores : List K)
    (minPropensity : K := 1 / 20) (maxPropensity : K := 19 / 20) : Except EstimationError (AipwEstimate K) := do
  let psi ← influence X T Y propensityScores minPropensity maxPropensity
  let n : K := X.length
  let ate := ate (K := K) X.length psi
  let se := sqrt (max 0 ((psi.map (fun score => (score - ate) ^ 2)).sum / (n * (n - 1))))
  let zCrit := 195996 / 100000
  let zStat := if 1 / 10 ^ 9 < se then ate / se else 0
  return { pointEstimate := Statistics.roundTo 4 ate, standardError := Statistics.roundTo 4 se
           confidenceInterval := (Statistics.roundTo 4 (ate - zCrit * se),Statistics.roundTo 4 (ate + zCrit * se))
           pValue := Statistics.roundTo 6 (computePValueTwoTailed sqrt erf zStat) }

/-- The first number reported is the rounded point estimate. -/
theorem estimateAipwAte_pointEstimate [FloorRing K] (sqrt erf : K → K) (X : List (List K)) (T : List ℤ)
    (Y propensityScores : List K) : (estimateAipwAte sqrt erf X T Y propensityScores).map AipwEstimate.pointEstimate =
      (aipwPointEstimate X T Y propensityScores).map (Statistics.roundTo 4) := by
  unfold estimateAipwAte aipwPointEstimate
  cases influence X T Y propensityScores with
  | error e => rfl
  | ok psi => rfl

section systems
variable [IsStrictOrderedRing K]

omit [Field K] [LinearOrder K] [Module K V] [IsStrictOrderedRing K] in
theorem wide_zip {A : List (List K)} {b : List V} (square : ∀ row ∈ A, row.length = A.length)
    (sized : b.length = A.length) : Elimination.Wide (A.zip b).length (A.zip b) := by
  have rows : (A.zip b).length = A.length := by rw [List.length_zip,sized,min_self]
  intro k inside
  rw [rows] at inside ⊢
  rw [Elimination.rowAt_zip inside (by rwa [sized])]
  exact square _ (List.getElem_mem inside)

/-- On a square system nothing is divided by zero, and if no column starts out tiny, the result solves it. -/
theorem solveLinearSystem_sound (A : List (List K)) (b : List V) (square : ∀ row ∈ A, row.length = A.length)
    (sized : b.length = A.length) :
    solveLinearSystem? A b = some (solveLinearSystem A b) ∧
    ((∀ i < A.length, ∃ k, i ≤ k ∧ k < A.length ∧ 1 / 10 ^ 12 ≤ |Elimination.cell (reachedRows A b i) k i|) →
      A.map (fun row => (List.zipWith (· • ·) row (solveLinearSystem A b)).sum) = b) := by
  have positive : (0 : K) < 1 / 10 ^ 12 := by positivity
  have covers : (1 / 10 ^ 12 : K) ≤ 1 / 10 ^ 6 :=
    one_div_le_one_div_of_le (by positivity) (pow_le_pow_right₀ (by norm_num) (by norm_num))
  have rows : (A.zip b).length = A.length := by rw [List.length_zip,sized,min_self]
  have wide := wide_zip square sized
  refine ⟨Elimination.solve?_eq wide positive covers,?_⟩
  intro large
  have solves : Elimination.Solves (solveLinearSystem A b) (A.zip b) := by
    refine Elimination.solve_solves wide positive covers ?_
    intro i inside
    rw [rows] at inside
    obtain ⟨k,below,bound,enough⟩ := large i inside
    exact ⟨k,below,by rwa [Elimination.reached_length,rows],enough⟩
  refine solves.product sized ?_
  intro row inside
  rw [square row inside,solveLinearSystem,Elimination.solve_length,sized,min_self]

/-- A system whose first pivot is below the diagonal. -/
def crossed : List (List ℚ) := [[0,2],[1,1]]

def crossedTargets : List ℚ := [4,3]

theorem crossed_sound :
    solveLinearSystem? crossed crossedTargets = some (solveLinearSystem crossed crossedTargets) ∧
    crossed.map (fun row => (List.zipWith (· • ·) row (solveLinearSystem crossed crossedTargets)).sum) = crossedTargets := by
  obtain ⟨total,solved⟩ := solveLinearSystem_sound crossed crossedTargets (by decide) (by decide)
  refine ⟨total,solved ?_⟩
  intro i inside
  obtain rfl | rfl : i = 0 ∨ i = 1 := by
    change i < 2 at inside
    omega
  · exact ⟨1,by decide,by decide,by decide +kernel⟩
  · exact ⟨1,by decide,by decide,by decide +kernel⟩

end systems

section linear
variable {W : Type u} [AddCommGroup W] [Module K W] (f : V →ₗ[K] W)

omit [LinearOrder K] in
theorem cohort_map (label : ℤ) (X : List (List K)) (T : List ℤ) (Y : List V) :
    cohort label X T (Y.map f) = List.map (Prod.map id f) <$> cohort label X T Y := by
  induction X generalizing T Y with
  | nil => rfl
  | cons x X ih =>
    cases T with
    | nil => rfl
    | cons t T =>
      unfold cohort
      split
      · cases Y with
        | nil => rfl
        | cons y Y =>
          simp only [List.map_cons]
          rw [ih]
          cases cohort label X T Y <;> rfl
      · rw [← List.map_tail]
        exact ih T Y.tail

omit [LinearOrder K] in
theorem normalTarget_map (p : Nat) (X : List (List K)) (Y : List V) :
    normalTarget p (X.zip (Y.map f)) = (normalTarget p (X.zip Y)).map f := by
  unfold normalTarget
  rw [List.map_map]
  refine List.map_congr_left ?_
  intro j _
  rw [Function.comp,map_list_sum,List.zip_map_right,List.map_map,List.map_map]
  congr 2
  funext r
  exact (map_smul f _ _).symm

theorem fitRidgeLinearRegression_map (X : List (List K)) (Y : List V) (lambdaRidge : K) :
    fitRidgeLinearRegression X (Y.map f) lambdaRidge = List.map f <$> fitRidgeLinearRegression X Y lambdaRidge := by
  unfold fitRidgeLinearRegression
  rw [List.length_map]
  split
  · rfl
  split
  · have covariates : (X.zip (Y.map f)).map Prod.fst = (X.zip Y).map Prod.fst := by
      rw [List.zip_map_right,List.map_map]
      rfl
    rw [fitted,covariates,normalTarget_map,solveLinearSystem,Elimination.solve_map]
    rfl
  · rfl

omit [LinearOrder K] in
theorem predicted_map (beta : List V) (row : List K) : predicted (beta.map f) row = f (predicted beta row) := by
  unfold predicted
  have slopes : (List.zipWith (· • ·) row (beta.map f).tail).sum = f (List.zipWith (· • ·) row beta.tail).sum := by
    rw [← List.map_tail,List.zipWith_map_right,map_list_sum,List.map_zipWith]
    simp only [map_smul]
  rw [slopes,map_add]
  cases beta with
  | nil => rw [List.map_nil,List.headD_nil,List.headD_nil,map_zero]
  | cons intercept beta => rfl

omit [LinearOrder K] in
theorem predictLinear_map (X : List (List K)) (beta : List V) :
    predictLinear X (beta.map f) = List.map f <$> predictLinear X beta := by
  unfold predictLinear
  rw [List.length_map]
  split
  · rw [funext (predicted_map f beta)]
    exact congrArg Except.ok (List.map_map ..).symm
  · rfl

omit [LinearOrder K] in
theorem score_map (e : K) (t : ℤ) (y m1 m0 : V) : score e t (f y) (f m1) (f m0) = f (score e t y m1 m0) := by
  simp only [score,map_add,map_sub,map_smul]

omit [LinearOrder K] in
theorem psi_map (clip : K → K) (mu : List (V × V)) (T : List ℤ) (Y : List V) (E : List K) :
    psi clip (mu.map (Prod.map f f)) T (Y.map f) E = List.map f <$> psi clip mu T Y E := by
  induction mu generalizing T Y E with
  | nil => rfl
  | cons m mu ih =>
    cases T with
    | nil => rfl
    | cons t T =>
      cases Y with
      | nil => rfl
      | cons y Y =>
        cases E with
        | nil => rfl
        | cons e E =>
          simp only [List.map_cons,psi,Prod.map]
          rw [ih,score_map]
          cases psi clip mu T Y E <;> rfl

/-- A linear map of the outcomes is one of the scores. -/
theorem influence_map (X : List (List K)) (T : List ℤ) (Y : List V) (E : List K) (low high : K) :
    influence X T (Y.map f) E low high = List.map f <$> influence X T Y E low high := by
  have parts (rows : List (List K × V)) : (rows.map (Prod.map id f)).map Prod.fst = rows.map Prod.fst ∧
      (rows.map (Prod.map id f)).map Prod.snd = (rows.map Prod.snd).map f := by
    simp only [List.map_map]
    exact ⟨rfl,rfl⟩
  unfold influence
  simp only [cohort_map,fitRidgeLinearRegression_map,predictLinear_map,bind_map_left,List.isEmpty_map,parts]
  split
  · rfl
  simp only [List.zip_map,psi_map,map_bind]
  refine bind_congr (m := Except EstimationError) fun treated => bind_congr (m := Except EstimationError) fun control => ?_
  split
  · rfl
  · simp only [map_bind]

theorem aipwPointEstimate_map (X : List (List K)) (T : List ℤ) (Y : List V) (E : List K) (low high : K) :
    aipwPointEstimate X T (Y.map f) E low high = f <$> aipwPointEstimate X T Y E low high := by
  unfold aipwPointEstimate
  rw [influence_map]
  cases influence X T Y E low high with
  | error e => rfl
  | ok scores =>
    refine congrArg Except.ok ?_
    rw [ate,← map_list_sum,← map_smul]
    rfl

end linear

section flip

omit [Field K] [LinearOrder K] [AddCommGroup V] [Module K V] in
theorem cohort_error {label : ℤ} {X : List (List K)} {T : List ℤ} {Y : List V} {e : EstimationError}
    (raised : cohort label X T Y = .error e) : e = .indexError := by
  induction X generalizing T Y with
  | nil => cases raised
  | cons x X ih =>
    cases T with
    | nil => exact (Except.error.inj raised).symm
    | cons t T =>
      unfold cohort at raised
      split at raised
      · cases Y with
        | nil => exact (Except.error.inj raised).symm
        | cons y Y =>
          simp only at raised
          cases rest : cohort label X T Y with
          | error e' =>
            rw [rest] at raised
            cases raised
            exact ih rest
          | ok rows =>
            rw [rest] at raised
            cases raised
      · exact ih raised

theorem fitRidgeLinearRegression_error {rows : List (List K × V)} (filled : rows ≠ []) {lambdaRidge : K}
    {e : EstimationError}
    (raised : fitRidgeLinearRegression (rows.map Prod.fst) (rows.map Prod.snd) lambdaRidge = .error e) :
    e = .indexError := by
  unfold fitRidgeLinearRegression at raised
  rw [List.length_map,List.length_map,if_neg (by simp [filled])] at raised
  split at raised
  · cases raised
  · exact (Except.error.inj raised).symm

omit [LinearOrder K] in
theorem predictLinear_error {X : List (List K)} {beta : List V} {e : EstimationError}
    (raised : predictLinear X beta = .error e) : e = .indexError := by
  unfold predictLinear at raised
  split at raised
  · cases raised
  · exact (Except.error.inj raised).symm

omit [Field K] [LinearOrder K] [AddCommGroup V] [Module K V] in
theorem cohort_flip (label : ℤ) (X : List (List K)) (T : List ℤ) (Y : List V) :
    cohort label X (T.map (1 - ·)) Y = cohort (1 - label) X T Y := by
  induction X generalizing T Y with
  | nil => rfl
  | cons x X ih =>
    cases T with
    | nil => rfl
    | cons t T =>
      have same : 1 - t = label ↔ t = 1 - label := by omega
      simp only [List.map_cons,cohort,same,ih]

variable [IsStrictOrderedRing K]

/-- The default bounds lie evenly about a half. -/
theorem clipped_flip (e : K) : clipped (1 / 20) (19 / 20) (1 - e) = 1 - clipped (1 / 20) (19 / 20) e := by
  simp only [clipped,max_def,min_def]
  split_ifs <;> linarith

/-- No score divides by zero. -/
theorem clipped_between (e : K) : 0 < clipped (1 / 20) (19 / 20) e ∧ clipped (1 / 20) (19 / 20) e < 1 := by
  unfold clipped
  constructor
  · exact lt_max_of_lt_left (by norm_num)
  · exact max_lt (by norm_num) (min_lt_of_left_lt (by norm_num))

/-- No regression divides by zero. -/
theorem normal_diagonal (lambdaRidge : K) (p : Nat) (rows : List (List K × V)) : ∀ k < p + 1,
    Elimination.cell (Elimination.eliminate (1 / 10 ^ 12) (1 / 10 ^ 6)
      ((normalMatrix lambdaRidge p (rows.map Prod.fst)).zip (normalTarget p rows))) k k ≠ 0 := by
  let system := (normalMatrix lambdaRidge p (rows.map Prod.fst)).zip (normalTarget p rows)
  have size : system.length = p + 1 := by simp [system,normalMatrix,normalTarget]
  have square : Elimination.Wide system.length system := by
    intro k inside
    rw [Elimination.rowAt,List.getD_eq_getElem system _ inside,size]
    simp [system,normalMatrix]
  have positive : (0 : K) < 1 / 10 ^ 12 := by positivity
  have covers : (1 / 10 ^ 12 : K) ≤ 1 / 10 ^ 6 := by norm_num
  have pivots := Elimination.diagonal_ne_zero square positive covers
  rwa [size] at pivots

omit [LinearOrder K] [IsStrictOrderedRing K] in
theorem score_flip (e : K) (t : ℤ) (y m1 m0 : V) : score (1 - e) (1 - t) y m0 m1 = -score e t y m1 m0 := by
  unfold score
  push_cast
  rw [sub_sub_cancel,sub_sub_cancel]
  abel

omit [LinearOrder K] [IsStrictOrderedRing K] in
theorem psi_flip {clip : K → K} (even : ∀ e, clip (1 - e) = 1 - clip e) (mu : List (V × V)) (T : List ℤ) (Y : List V)
    (E : List K) : psi clip (mu.map Prod.swap) (T.map (1 - ·)) Y (E.map (1 - ·)) = List.map (- ·) <$> psi clip mu T Y E := by
  induction mu generalizing T Y E with
  | nil => rfl
  | cons m mu ih =>
    cases T with
    | nil => rfl
    | cons t T =>
      cases Y with
      | nil => rfl
      | cons y Y =>
        cases E with
        | nil => rfl
        | cons e E =>
          simp only [List.map_cons,psi,Prod.fst_swap,Prod.snd_swap]
          rw [ih,even,score_flip]
          cases psi clip mu T Y E <;> rfl

theorem influence_flip (X : List (List K)) (T : List ℤ) (Y : List V) (E : List K) :
    influence X (T.map (1 - ·)) Y (E.map (1 - ·)) = List.map (- ·) <$> influence X T Y E := by
  unfold influence
  rw [cohort_flip,cohort_flip,sub_self,sub_zero]
  split
  · rfl
  rw [Outcome.bind_comm (fun _ => cohort_error) (fun _ => cohort_error)]
  simp only [map_bind]
  refine bind_congr (m := Except EstimationError) fun treated => bind_congr (m := Except EstimationError) fun control => ?_
  rw [Bool.or_comm]
  split
  · rfl
  next filled =>
  simp only [Bool.or_eq_true,not_or,List.isEmpty_iff] at filled
  rw [Outcome.bind_comm (fun _ => fitRidgeLinearRegression_error filled.2) (fun _ => fitRidgeLinearRegression_error filled.1)]
  simp only [map_bind]
  refine bind_congr (m := Except EstimationError) fun beta1 => bind_congr (m := Except EstimationError) fun beta0 => ?_
  rw [Outcome.bind_comm (fun _ => predictLinear_error) (fun _ => predictLinear_error)]
  refine bind_congr (m := Except EstimationError) fun mu1 => bind_congr (m := Except EstimationError) fun mu0 => ?_
  rw [← List.zip_swap]
  exact psi_flip clipped_flip _ _ _ _

end flip

/-- A unit of the sample: a row of each of the four lists. -/
structure Subject (K V : Type u) where
  covariates : List K
  label : ℤ
  outcome : V
  propensity : K

section units
variable {units units' : List (Subject K V)}

def pointEstimateOf (units : List (Subject K V)) : Except EstimationError V :=
  aipwPointEstimate (units.map Subject.covariates) (units.map Subject.label) (units.map Subject.outcome)
    (units.map Subject.propensity)

def members (label : ℤ) (units : List (Subject K V)) : List (List K × V) :=
  (units.filter (fun u => u.label = label)).map (fun u => (u.covariates,u.outcome))

def model (label : ℤ) (p : Nat) (units : List (Subject K V)) : List V := fitted (1 / 100) p (members label units)

def cohortWidth (label : ℤ) (units : List (Subject K V)) : Nat := width ((members label units).map Prod.fst)

def scoreOf (beta1 beta0 : List V) (u : Subject K V) : V :=
  score (clipped (1 / 20) (19 / 20) u.propensity) u.label u.outcome (predicted beta1 u.covariates)
    (predicted beta0 u.covariates)

/-- The mean score under models with so many covariates. -/
def meanScore (p1 p0 : Nat) (units : List (Subject K V)) : V :=
  ate (K := K) units.length (units.map (scoreOf (model 1 p1 units) (model 0 p0 units)))

omit [Field K] [LinearOrder K] [AddCommGroup V] [Module K V] in
theorem cohort_members (label : ℤ) (units : List (Subject K V)) :
    cohort label (units.map Subject.covariates) (units.map Subject.label) (units.map Subject.outcome) =
      .ok (members label units) := by
  induction units with
  | nil => rfl
  | cons u units ih =>
    simp only [List.map_cons,cohort,List.tail_cons,ih,members,List.filter_cons,decide_eq_true_eq]
    split <;> rfl

omit [LinearOrder K] in
theorem psi_map_units (clip : K → K) (g h : Subject K V → V) (units : List (Subject K V)) :
    psi clip ((units.map g).zip (units.map h)) (units.map Subject.label) (units.map Subject.outcome)
      (units.map Subject.propensity) =
      .ok (units.map (fun u => score (clip u.propensity) u.label u.outcome (g u) (h u))) := by
  induction units with
  | nil => rfl
  | cons u units ih =>
    simp only [List.map_cons,List.zip_cons_cons,psi,ih]
    rfl

theorem model_length (label : ℤ) (p : Nat) (units : List (Subject K V)) : (model label p units).length = p + 1 := by
  simp [model,fitted,solveLinearSystem,Elimination.solve_length,normalMatrix,normalTarget]

theorem fit_members {label : ℤ} (filled : members label units ≠ []) :
    fitRidgeLinearRegression ((members label units).map Prod.fst) ((members label units).map Prod.snd) =
      if ∀ x ∈ (members label units).map Prod.fst, cohortWidth label units ≤ x.length then
        .ok (model label (cohortWidth label units) units)
      else .error .indexError := by
  have paired : ((members label units).map Prod.fst).zip ((members label units).map Prod.snd) = members label units := by
    rw [← List.unzip_fst,← List.unzip_snd,List.zip_unzip]
  unfold fitRidgeLinearRegression
  rw [List.length_map,List.length_map,if_neg (by simp [filled]),paired]
  rfl

theorem predict_units (label : ℤ) (p : Nat) (units : List (Subject K V)) :
    predictLinear (units.map Subject.covariates) (model label p units) =
      if ∀ u ∈ units, p ≤ u.covariates.length then
        .ok (units.map (fun u => predicted (model label p units) u.covariates))
      else .error .indexError := by
  unfold predictLinear
  simp only [model_length,Nat.add_sub_cancel,List.forall_mem_map,List.map_map]
  rfl

omit [Field K] [LinearOrder K] [AddCommGroup V] [Module K V] in
theorem length_of_member {label : ℤ} {P : List K → Prop} (every : ∀ u ∈ units, P u.covariates) :
    ∀ x ∈ (members label units).map Prod.fst, P x := by
  intro x inside
  simp only [members,List.map_map,List.mem_map,List.mem_filter] at inside
  obtain ⟨u,⟨member,_⟩,rfl⟩ := inside
  exact every u member

/-- The estimate of a sample, or what is wrong with it. -/
theorem pointEstimateOf_eq (units : List (Subject K V)) : pointEstimateOf units =
    if units.length < 4 then .error insufficientSample
    else if members 1 units = [] ∨ members 0 units = [] then .error overlapViolation
    else if ∀ u ∈ units, cohortWidth 1 units ≤ u.covariates.length ∧ cohortWidth 0 units ≤ u.covariates.length then
      .ok (meanScore (cohortWidth 1 units) (cohortWidth 0 units) units)
    else .error .indexError := by
  unfold pointEstimateOf aipwPointEstimate influence
  rw [List.length_map,cohort_members,cohort_members]
  by_cases few : units.length < 4
  · rw [if_pos few,if_pos few]
    rfl
  rw [if_neg few,if_neg few]
  change Except.map _ (if (members 1 units).isEmpty || (members 0 units).isEmpty then _ else _) = _
  by_cases lacking : members 1 units = [] ∨ members 0 units = []
  · rw [if_pos lacking,if_pos (by simpa using lacking)]
    rfl
  rw [if_neg lacking,if_neg (by simpa using lacking)]
  obtain ⟨treated,control⟩ := not_or.mp lacking
  rw [fit_members treated,fit_members control]
  by_cases wide : ∀ u ∈ units, cohortWidth 1 units ≤ u.covariates.length ∧ cohortWidth 0 units ≤ u.covariates.length
  · have wide1 : ∀ u ∈ units, cohortWidth 1 units ≤ u.covariates.length := fun u member => (wide u member).1
    have wide0 : ∀ u ∈ units, cohortWidth 0 units ≤ u.covariates.length := fun u member => (wide u member).2
    rw [if_pos wide,if_pos (length_of_member wide1),if_pos (length_of_member wide0)]
    change Except.map _ (predictLinear _ _ >>= fun mu1 => predictLinear _ _ >>= fun mu0 => _) = _
    rw [predict_units,predict_units,if_pos wide1,if_pos wide0]
    change Except.map _ (psi _ _ _ _ _) = _
    rw [psi_map_units]
    rfl
  · rw [if_neg wide]
    split
    · split
      · change Except.map _ (predictLinear _ _ >>= fun mu1 => predictLinear _ _ >>= fun mu0 => _) = _
        rw [predict_units,predict_units]
        split
        next wide1 =>
          rw [if_neg (fun wide0 => wide (fun u member => ⟨wide1 u member,wide0 u member⟩))]
          rfl
        · rfl
      · rfl
    · rfl

section permuted
variable (perm : units.Perm units')
include perm

omit [Field K] [LinearOrder K] [AddCommGroup V] [Module K V] in
theorem members_perm (label : ℤ) : (members label units).Perm (members label units') :=
  (perm.filter _).map _

theorem model_perm (label : ℤ) (p : Nat) : model label p units = model label p units' := by
  have same := members_perm perm label
  unfold model fitted normalMatrix normalTarget
  congr 1
  · refine List.map_congr_left fun j _ => List.map_congr_left fun k _ => ?_
    congr 1
    exact ((same.map Prod.fst).map _).sum_eq
  · exact List.map_congr_left fun j _ => (same.map _).sum_eq

theorem meanScore_perm (p1 p0 : Nat) : meanScore p1 p0 units = meanScore p1 p0 units' := by
  unfold meanScore ate
  rw [perm.length_eq,model_perm perm,model_perm perm,(perm.map _).sum_eq]

omit [Field K] [LinearOrder K] [AddCommGroup V] [Module K V] in
/-- The width of a cohort is that of a unit, in whatever order. -/
theorem cohortWidth_mem {label : ℤ} (filled : members label units ≠ []) :
    ∃ u ∈ units', cohortWidth label units = u.covariates.length := by
  obtain ⟨row,rest,same⟩ := List.exists_cons_of_ne_nil filled
  have inside : row ∈ members label units := same ▸ List.mem_cons_self
  simp only [members,List.mem_map,List.mem_filter] at inside
  obtain ⟨u,⟨member,_⟩,rfl⟩ := inside
  refine ⟨u,perm.mem_iff.mp member,?_⟩
  rw [cohortWidth,same]
  rfl

omit perm in
theorem pointEstimateOf_ok {a : V} (ok : pointEstimateOf units = .ok a) :
    members 1 units ≠ [] ∧ members 0 units ≠ [] ∧
    (∀ u ∈ units, cohortWidth 1 units ≤ u.covariates.length ∧ cohortWidth 0 units ≤ u.covariates.length) ∧
    a = meanScore (cohortWidth 1 units) (cohortWidth 0 units) units := by
  rw [pointEstimateOf_eq] at ok
  split at ok
  · cases ok
  split at ok
  · cases ok
  next both =>
  split at ok
  next wide =>
    obtain ⟨treated,control⟩ := not_or.mp both
    exact ⟨treated,control,wide,(Except.ok.inj ok).symm⟩
  · cases ok

/-- Two estimates of one sample agree: either was made with the least width there is. -/
theorem pointEstimateOf_agree {a a' : V} (ok : pointEstimateOf units = .ok a) (ok' : pointEstimateOf units' = .ok a') :
    a = a' := by
  obtain ⟨treated,control,wide,rfl⟩ := pointEstimateOf_ok ok
  obtain ⟨treated',control',wide',rfl⟩ := pointEstimateOf_ok ok'
  have widths1 : cohortWidth 1 units = cohortWidth 1 units' := by
    obtain ⟨u,member,same⟩ := cohortWidth_mem perm treated
    obtain ⟨u',member',same'⟩ := cohortWidth_mem perm.symm treated'
    exact le_antisymm (same' ▸ (wide u' member').1) (same ▸ (wide' u member).1)
  have widths0 : cohortWidth 0 units = cohortWidth 0 units' := by
    obtain ⟨u,member,same⟩ := cohortWidth_mem perm control
    obtain ⟨u',member',same'⟩ := cohortWidth_mem perm.symm control'
    exact le_antisymm (same' ▸ (wide u' member').2) (same ▸ (wide' u member).2)
  rw [widths1,widths0]
  exact meanScore_perm perm _ _

end permuted

/-- A sample of units with equally many covariates has an estimate when it has both cohorts. -/
theorem pointEstimateOf_even {width : Nat} (even : ∀ u ∈ units, u.covariates.length = width) :
    pointEstimateOf units = if units.length < 4 then .error insufficientSample
    else if members 1 units = [] ∨ members 0 units = [] then .error overlapViolation
    else .ok (meanScore width width units) := by
  rw [pointEstimateOf_eq]
  split
  · rfl
  split
  · rfl
  next both =>
  obtain ⟨treated,control⟩ := not_or.mp both
  have widths {label : ℤ} (filled : members label units ≠ []) : cohortWidth label units = width := by
    obtain ⟨u,member,same⟩ := cohortWidth_mem (List.Perm.refl units) filled
    exact same.trans (even u member)
  rw [widths treated,widths control,if_pos]
  intro u member
  exact ⟨(even u member).ge,(even u member).ge⟩

/-- Their order matters to nothing. -/
theorem pointEstimateOf_perm {width : Nat} (perm : units.Perm units')
    (even : ∀ u ∈ units, u.covariates.length = width) : pointEstimateOf units = pointEstimateOf units' := by
  have lacking (label : ℤ) : members label units = [] ↔ members label units' = [] := by
    rw [← List.length_eq_zero_iff,← List.length_eq_zero_iff,(members_perm perm label).length_eq]
  rw [pointEstimateOf_even even,pointEstimateOf_even (fun u member => even u (perm.mem_iff.mpr member)),
    meanScore_perm perm]
  simp only [perm.length_eq,lacking]

end units

/-- The estimate of labels and propensities that change sides is the opposite; that of a rearranged sample is the
same, with the same complaint if the rows have one length; that of a combination of outcomes is the combination of
the estimates. -/
theorem aipwPointEstimate_laws [IsStrictOrderedRing K] :
    (∀ (X : List (List K)) (T : List ℤ) (Y E : List K), aipwPointEstimate X (T.map (1 - ·)) Y (E.map (1 - ·)) =
      (aipwPointEstimate X T Y E).map (- ·)) ∧
    (∀ units units' : List (Subject K K), units.Perm units' →
      (∀ a a', pointEstimateOf units = .ok a → pointEstimateOf units' = .ok a' → a = a') ∧
      ∀ width, (∀ u ∈ units, u.covariates.length = width) →
        pointEstimateOf units = pointEstimateOf units' ∧
        (4 ≤ units.length → (∃ u ∈ units, u.label = 1) → (∃ u ∈ units, u.label = 0) →
          ∃ a, pointEstimateOf units = .ok a)) ∧
    ∀ (X : List (List K)) (T : List ℤ) (Y Y' E : List K) (a b : K), Y.length = Y'.length →
      aipwPointEstimate X T (List.zipWith (fun y y' => a * y + b * y') Y Y') E = do
        let estimate ← aipwPointEstimate X T Y E
        let estimate' ← aipwPointEstimate X T Y' E
        return a * estimate + b * estimate' := by
  refine ⟨?_,?_,?_⟩
  · intro X T Y E
    unfold aipwPointEstimate
    rw [influence_flip]
    cases influence X T Y E with
    | error e => rfl
    | ok scores =>
      refine congrArg Except.ok ?_
      have opposite : (scores.map (- ·)).sum = -scores.sum := by
        rw [List.sum_neg]
      rw [ate,ate,opposite,smul_neg]
  · intro units units' perm
    refine ⟨fun a a' => pointEstimateOf_agree perm,?_⟩
    intro width even
    refine ⟨pointEstimateOf_perm perm even,?_⟩
    intro enough treated control
    have filled {label : ℤ} (some : ∃ u ∈ units, u.label = label) : members label units ≠ [] := by
      obtain ⟨u,member,labelled⟩ := some
      simp only [members,ne_eq,List.map_eq_nil_iff,List.filter_eq_nil_iff,not_forall]
      exact ⟨u,member,by simpa using labelled⟩
    refine ⟨meanScore width width units,?_⟩
    rw [pointEstimateOf_even even,if_neg enough.not_gt,if_neg (not_or.mpr ⟨filled treated,filled control⟩)]
  · intro X T Y Y' E a b equal
    -- the three outcome vectors are images of the vector of pairs
    have first : Y = (Y.zip Y').map (LinearMap.fst K K K) := (List.map_fst_zip equal.le).symm
    have second : Y' = (Y.zip Y').map (LinearMap.snd K K K) := (List.map_snd_zip equal.ge).symm
    have combined : List.zipWith (fun y y' => a * y + b * y') Y Y' =
        (Y.zip Y').map (a • LinearMap.fst K K K + b • LinearMap.snd K K K) := by
      rw [List.map_zip_eq_zipWith]
      rfl
    rw [combined,aipwPointEstimate_map]
    nth_rewrite 2 [first]
    nth_rewrite 3 [second]
    rw [aipwPointEstimate_map,aipwPointEstimate_map]
    cases aipwPointEstimate X T (Y.zip Y') E <;> rfl

def trial : List (Subject ℚ ℚ) :=
  [⟨[0],1,3,1 / 2⟩,⟨[1],0,1,1 / 2⟩,⟨[1],1,4,1 / 4⟩,⟨[0],0,2,3 / 4⟩]

theorem trial_laws :
    let X := trial.map Subject.covariates
    let T := trial.map Subject.label
    let Y := trial.map Subject.outcome
    let E := trial.map Subject.propensity
    (∃ a, pointEstimateOf trial = .ok a ∧ pointEstimateOf trial.reverse = .ok a ∧
      aipwPointEstimate X (T.map (1 - ·)) Y (E.map (1 - ·)) = .ok (-a)) ∧
    aipwPointEstimate X T (List.zipWith (fun y y' => 2 * y + 3 * y') Y [1,1,0,5]) E = do
      let estimate ← aipwPointEstimate X T Y E
      let estimate' ← aipwPointEstimate X T [1,1,0,5] E
      return 2 * estimate + 3 * estimate' := by
  obtain ⟨opposite,permuted,combined⟩ := aipwPointEstimate_laws (K := ℚ)
  obtain ⟨_,even⟩ := permuted trial trial.reverse (List.reverse_perm trial).symm
  obtain ⟨same,returns⟩ := even 1 (by decide)
  obtain ⟨a,estimate⟩ := returns (by decide) (by decide) (by decide)
  refine ⟨⟨a,estimate,same ▸ estimate,?_⟩,combined _ _ _ _ _ 2 3 rfl⟩
  rw [opposite]
  exact congrArg (Except.map (- ·)) estimate

end RevPilot.Causal
