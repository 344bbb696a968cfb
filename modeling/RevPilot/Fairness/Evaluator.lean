import RevPilot.Fairness.PrAuc
import RevPilot.Library.Dict
import RevPilot.Library.Lists
import Mathlib.Data.Prod.Lex
import Mathlib.Data.String.Basic

/-! The audit of model and policy across operational slices: the metrics of each slice, the
disparities between the slices of a dimension, and the verdict. -/
namespace RevPilot.Fairness
open Library Statistics

/-- What the audit reads of a single observation. -/
structure SliceObservation (K : Type*) [Zero K] [One K] [LE K] where
  sliceDimension : String
  sliceValue : String
  actualChurn : Nat
  predictedProb : K
  cateEstimate : K
  isRecommended : Bool
  churn_le : actualChurn ≤ 1
  prob_nonneg : 0 ≤ predictedProb
  prob_le : predictedProb ≤ 1

inductive EvaluationStatus where
  | evaluated | insufficientSample | suppressed
  deriving DecidableEq, Repr

inductive GovernanceStatus where
  | pass | needsReview | insufficientData
  deriving DecidableEq, Repr

structure SliceMetric (K : Type*) where
  sliceDimension : String
  sliceValue : String
  sampleSize : Nat
  isStatisticallyReliable : Bool
  prAuc : Option K
  ece : Option K
  meanUpliftCate : Option K
  treatmentRecommendationRate : Option K
  evaluationStatus : EvaluationStatus

/-- The report without its identifiers, its clock reading and its digest. -/
structure DisparityAudit (K : Type*) where
  evaluatedSlices : List (SliceMetric K)
  maxCalibrationDisparity : K
  maxAllocationDisparityRatio : K
  governanceStatus : GovernanceStatus

structure FairnessError where
  code : String
  message : String
  retryable : Bool := false
  deriving DecidableEq, Repr

variable {K : Type*} [Field K] [LinearOrder K]

section metrics
variable [FloorRing K]

def binIndex (numBins : Nat) (p : K) : Nat := min ⌊p * numBins⌋.toNat (numBins - 1)

/-- The share of a bin times the distance of its mean label from its mean probability. -/
def binError (n : Nat) (bin : List (ℤ × K)) : K :=
  if bin.isEmpty then 0
  else bin.length / n * |((bin.map Prod.fst).sum : K) / bin.length - (bin.map Prod.snd).sum / bin.length|

def computeExpectedCalibrationError (actuals : List ℤ) (predictedProbs : List K) (numBins : Nat := 10) : K :=
  if actuals.length = 0 then 0
  else
    let clipped := (actuals.zip predictedProbs).map (fun p => (p.1,max 0 (min 1 p.2)))
    roundTo 4 ((List.range numBins).map (fun b =>
      binError actuals.length (clipped.filter (fun p => binIndex numBins p.2 = b)))).sum

def recommendationRate (items : List (SliceObservation K)) : K :=
  roundTo 4 ((items.countP (fun it => it.isRecommended) : K) / items.length)

def sliceEce (items : List (SliceObservation K)) : K :=
  computeExpectedCalibrationError (items.map (fun it => (it.actualChurn : ℤ))) (items.map (fun it => it.predictedProb))

/-- The metrics of a slice, suppressed for one that is too small. -/
def sliceMetric (minSampleSize : ℤ) (key : String × String) (items : List (SliceObservation K)) : SliceMetric K :=
  if items.length < minSampleSize then
    { sliceDimension := key.1, sliceValue := key.2, sampleSize := items.length, isStatisticallyReliable := false
      prAuc := none, ece := none, meanUpliftCate := none, treatmentRecommendationRate := none
      evaluationStatus := .insufficientSample }
  else
    { sliceDimension := key.1, sliceValue := key.2, sampleSize := items.length, isStatisticallyReliable := true
      prAuc := some (computePrAuc (items.map (fun it => (it.actualChurn : ℤ))) (items.map (fun it => it.predictedProb)))
      ece := some (sliceEce items)
      meanUpliftCate := some (roundTo 4 ((items.map (fun it => it.cateEstimate)).sum / items.length))
      treatmentRecommendationRate := some (recommendationRate items), evaluationStatus := .evaluated }

end metrics

section disparity

/-- The greatest disparities met so far. -/
structure Disparity (K : Type*) where
  maxCalib : K
  maxAlloc : K
  minAlloc : K

def Disparity.calibration (d : Disparity K) (ece1 ece2 : Option K) : Disparity K :=
  match ece1,ece2 with
  | some e1,some e2 => if d.maxCalib < |e1 - e2| then { d with maxCalib := |e1 - e2| } else d
  | _,_ => d

def Disparity.ratio (d : Disparity K) (r1 r2 : K) : Disparity K :=
  if 0 < r2 then { d with maxAlloc := max d.maxAlloc (r1 / r2), minAlloc := min d.minAlloc (r1 / r2) } else d

def Disparity.allocation (d : Disparity K) (rate1 rate2 : Option K) : Disparity K :=
  match rate1,rate2 with
  | some r1,some r2 => (d.ratio r1 r2).ratio r2 r1
  | _,_ => d

def Disparity.compare (d : Disparity K) (p : SliceMetric K × SliceMetric K) : Disparity K :=
  (d.calibration p.1.ece p.2.ece).allocation p.1.treatmentRecommendationRate p.2.treatmentRecommendationRate

/-- The pairs of the slices of one dimension, for every dimension with two of them. -/
def comparedPairs (dimensionSlices : Dict String (List (SliceMetric K))) : List (SliceMetric K × SliceMetric K) :=
  dimensionSlices.values.flatMap (fun relSlices => if 2 ≤ relSlices.length then pairsOf relSlices else [])

def disparities (dimensionSlices : Dict String (List (SliceMetric K))) : Disparity K :=
  (comparedPairs dimensionSlices).foldl Disparity.compare ⟨0,1,1⟩

end disparity

section audit
variable [FloorRing K]

def SliceObservation.key (obs : SliceObservation K) : String × String := (obs.sliceDimension,obs.sliceValue)

def evaluatedSlices (minSampleSize : ℤ) (observations : List (SliceObservation K)) : List (SliceMetric K) :=
  let grouped := Dict.groupBy SliceObservation.key observations
  (sortedBy (fun e => toLex e.1) grouped.entries).map (fun e => sliceMetric minSampleSize e.1 e.2)

def dimensionSlices (slices : List (SliceMetric K)) : Dict String (List (SliceMetric K)) :=
  Dict.groupBy SliceMetric.sliceDimension (slices.filter (fun m => m.isStatisticallyReliable))

/-- The verdict, with the smallest ratio as it is and the two greatest values rounded. -/
def governanceStatus (slices : List (SliceMetric K)) (d : Disparity K) : GovernanceStatus :=
  if slices.countP (fun m => m.isStatisticallyReliable) = 0 then .insufficientData
  else if 3 / 100 < roundTo 4 d.maxCalib ∨ 5 / 4 < roundTo 4 d.maxAlloc ∨ d.minAlloc < 4 / 5 then .needsReview
  else .pass

def evaluateFairnessSlices (observations : List (SliceObservation K)) (minSampleSize : ℤ := 50) :
    Except FairnessError (DisparityAudit K) :=
  if observations.isEmpty then
    .error ⟨"ERR_EMPTY_OBSERVATIONS","Cannot evaluate fairness slices on empty observation dataset",false⟩
  else
    let slices := evaluatedSlices minSampleSize observations
    let d := disparities (dimensionSlices slices)
    .ok { evaluatedSlices := slices, maxCalibrationDisparity := roundTo 4 d.maxCalib
          maxAllocationDisparityRatio := roundTo 4 d.maxAlloc, governanceStatus := governanceStatus slices d }

end audit

section bounds

/-- A ratio of rates that is taken lies within its bounds. -/
def RatioWithin (hi lo r1 r2 : K) : Prop := 0 < r2 → r1 / r2 ≤ hi ∧ lo ≤ r1 / r2

def PairWithin (c hi lo : K) (p : SliceMetric K × SliceMetric K) : Prop :=
  (∀ e1 ∈ p.1.ece, ∀ e2 ∈ p.2.ece, |e1 - e2| ≤ c) ∧
  ∀ r1 ∈ p.1.treatmentRecommendationRate, ∀ r2 ∈ p.2.treatmentRecommendationRate,
    RatioWithin hi lo r1 r2 ∧ RatioWithin hi lo r2 r1

def Disparity.Within (c hi lo : K) (d : Disparity K) : Prop := d.maxCalib ≤ c ∧ d.maxAlloc ≤ hi ∧ lo ≤ d.minAlloc

variable {c hi lo : K} {d : Disparity K}

theorem within_calibration (ece1 ece2 : Option K) : (d.calibration ece1 ece2).Within c hi lo ↔
    d.Within c hi lo ∧ ∀ e1 ∈ ece1, ∀ e2 ∈ ece2, |e1 - e2| ≤ c := by
  cases ece1 with
  | none => exact (and_iff_left (fun _ none => by cases none)).symm
  | some e1 =>
    cases ece2 with
    | none => exact (and_iff_left (fun _ _ _ none => by cases none)).symm
    | some e2 =>
      simp only [Disparity.calibration,Disparity.Within,Option.mem_some_iff,forall_eq']
      split
      next more =>
        constructor
        · exact fun within => ⟨⟨more.le.trans within.1,within.2⟩,within.1⟩
        · exact fun within => ⟨within.2,within.1.2⟩
      next less => exact (and_iff_left_of_imp fun within => (not_lt.mp less).trans within.1).symm

theorem within_ratio (r1 r2 : K) : (d.ratio r1 r2).Within c hi lo ↔ d.Within c hi lo ∧ RatioWithin hi lo r1 r2 := by
  unfold Disparity.ratio RatioWithin Disparity.Within
  split
  next positive =>
    simp only [positive,max_le_iff,le_min_iff,forall_const]
    tauto
  next other => exact (and_iff_left fun positive => absurd positive other).symm

theorem within_allocation (rate1 rate2 : Option K) : (d.allocation rate1 rate2).Within c hi lo ↔
    d.Within c hi lo ∧ ∀ r1 ∈ rate1, ∀ r2 ∈ rate2, RatioWithin hi lo r1 r2 ∧ RatioWithin hi lo r2 r1 := by
  cases rate1 with
  | none => exact (and_iff_left (fun _ none => by cases none)).symm
  | some r1 =>
    cases rate2 with
    | none => exact (and_iff_left (fun _ _ _ none => by cases none)).symm
    | some r2 =>
      simp only [Disparity.allocation,within_ratio,Option.mem_some_iff,forall_eq']
      exact and_assoc

/-- The disparities found are within bounds exactly if those of every pair are. -/
theorem within_compared (pairs : List (SliceMetric K × SliceMetric K)) :
    (pairs.foldl Disparity.compare d).Within c hi lo ↔ d.Within c hi lo ∧ ∀ p ∈ pairs, PairWithin c hi lo p := by
  induction pairs generalizing d with
  | nil => exact (and_iff_left fun _ none => by cases none).symm
  | cons p pairs ih =>
    rw [List.foldl_cons,ih,List.forall_mem_cons,Disparity.compare,within_allocation,within_calibration,PairWithin]
    tauto

/-- Calibration errors of four digits have differences of four digits. -/
theorem maxCalib_whole [IsStrictOrderedRing K] {pairs : List (SliceMetric K × SliceMetric K)}
    (digits : ∀ p ∈ pairs, ∀ e, e ∈ p.1.ece ∨ e ∈ p.2.ece → ∃ n : ℤ, e * 10 ^ 4 = n)
    (start : ∃ n : ℤ, d.maxCalib * 10 ^ 4 = n) : ∃ n : ℤ, (pairs.foldl Disparity.compare d).maxCalib * 10 ^ 4 = n := by
  induction pairs generalizing d with
  | nil => exact start
  | cons p pairs ih =>
    refine ih (fun q member => digits q (List.mem_cons_of_mem _ member)) ?_
    have kept (d : Disparity K) (rate1 rate2 : Option K) : (d.allocation rate1 rate2).maxCalib = d.maxCalib := by
      cases rate1 with
      | none => rfl
      | some r1 =>
        cases rate2 with
        | none => rfl
        | some r2 =>
          simp only [Disparity.allocation,Disparity.ratio]
          split_ifs <;> rfl
    have own := digits p List.mem_cons_self
    rw [Disparity.compare,kept]
    generalize p.1.ece = ece1 at own ⊢
    generalize p.2.ece = ece2 at own ⊢
    cases ece1 with
    | none => exact start
    | some e1 =>
      cases ece2 with
      | none => exact start
      | some e2 =>
        unfold Disparity.calibration
        simp only
        split
        · obtain ⟨n1,whole1⟩ := own e1 (.inl rfl)
          obtain ⟨n2,whole2⟩ := own e2 (.inr rfl)
          refine ⟨|n1 - n2|,?_⟩
          rw [Int.cast_abs,Int.cast_sub,← whole1,← whole2,← sub_mul,abs_mul,abs_of_pos (by positivity : (0 : K) < 10 ^ 4)]
        · exact start

end bounds

section slices
variable {minSampleSize : ℤ} {observations : List (SliceObservation K)}

def slice (observations : List (SliceObservation K)) (key : String × String) : List (SliceObservation K) :=
  observations.filter (fun obs => obs.key = key)

def Large (minSampleSize : ℤ) (observations : List (SliceObservation K)) (key : String × String) : Prop :=
  slice observations key ≠ [] ∧ minSampleSize ≤ (slice observations key).length

theorem mem_evaluatedSlices [FloorRing K] {m : SliceMetric K} : m ∈ evaluatedSlices minSampleSize observations ↔
    ∃ key, slice observations key ≠ [] ∧ m = sliceMetric minSampleSize key (slice observations key) := by
  simp only [evaluatedSlices,List.mem_map,mem_sortedBy,Prod.exists,Dict.mem_groupBy]
  constructor
  · rintro ⟨dimension,value,_,⟨rfl,filled⟩,rfl⟩
    exact ⟨dimension,value,filled,rfl⟩
  · rintro ⟨dimension,value,filled,rfl⟩
    exact ⟨dimension,value,_,⟨rfl,filled⟩,rfl⟩

/-- The slices that have metrics are the large ones. -/
theorem reliable_iff [FloorRing K] {m : SliceMetric K} :
    m ∈ evaluatedSlices minSampleSize observations ∧ m.isStatisticallyReliable = true ↔
      ∃ key, Large minSampleSize observations key ∧ m = sliceMetric minSampleSize key (slice observations key) := by
  have large (key : String × String) (items : List (SliceObservation K)) :
      (sliceMetric minSampleSize key items).isStatisticallyReliable = true ↔ minSampleSize ≤ items.length := by
    unfold sliceMetric
    split
    next small => simpa using small
    next enough => simpa using enough
  rw [mem_evaluatedSlices]
  constructor
  · rintro ⟨⟨key,filled,rfl⟩,reliable⟩
    exact ⟨key,⟨filled,(large ..).mp reliable⟩,rfl⟩
  · rintro ⟨key,⟨filled,enough⟩,rfl⟩
    exact ⟨⟨key,filled,rfl⟩,(large ..).mpr enough⟩

theorem sliceMetric_large [FloorRing K] {key : String × String} {items : List (SliceObservation K)}
    (enough : minSampleSize ≤ items.length) : sliceMetric minSampleSize key items =
    { sliceDimension := key.1, sliceValue := key.2, sampleSize := items.length, isStatisticallyReliable := true
      prAuc := some (computePrAuc (items.map (fun it => (it.actualChurn : ℤ))) (items.map (fun it => it.predictedProb)))
      ece := some (sliceEce items)
      meanUpliftCate := some (roundTo 4 ((items.map (fun it => it.cateEstimate)).sum / items.length))
      treatmentRecommendationRate := some (recommendationRate items), evaluationStatus := .evaluated } :=
  if_neg enough.not_gt

variable (minSampleSize) in
theorem sliceMetric_key [FloorRing K] (key : String × String) (items : List (SliceObservation K)) :
    (sliceMetric minSampleSize key items).sliceDimension = key.1 ∧ (sliceMetric minSampleSize key items).sliceValue = key.2 := by
  unfold sliceMetric
  split <;> exact ⟨rfl,rfl⟩

omit [Field K] [LinearOrder K] in
/-- The pairs compared are those of different large slices of one dimension, in one order. -/
theorem mem_comparedPairs {slices : List (SliceMetric K)} {p : SliceMetric K × SliceMetric K} :
    (p ∈ comparedPairs (dimensionSlices slices) → (p.1 ∈ slices ∧ p.1.isStatisticallyReliable = true) ∧
      (p.2 ∈ slices ∧ p.2.isStatisticallyReliable = true) ∧ p.1.sliceDimension = p.2.sliceDimension) ∧
    ((p.1 ∈ slices ∧ p.1.isStatisticallyReliable = true) → (p.2 ∈ slices ∧ p.2.isStatisticallyReliable = true) →
      p.1.sliceDimension = p.2.sliceDimension → p.1 ≠ p.2 →
      p ∈ comparedPairs (dimensionSlices slices) ∨ p.swap ∈ comparedPairs (dimensionSlices slices)) := by
  have groups (q : SliceMetric K × SliceMetric K) : q ∈ comparedPairs (dimensionSlices slices) ↔
      ∃ dimension, q ∈ pairsOf ((slices.filter (fun m => m.isStatisticallyReliable)).filter
        (fun m => m.sliceDimension = dimension)) := by
    have short (relSlices : List (SliceMetric K)) :
        (if 2 ≤ relSlices.length then pairsOf relSlices else []) = pairsOf relSlices := by
      cases relSlices with
      | nil => rfl
      | cons m others => cases others <;> rfl
    simp only [comparedPairs,dimensionSlices,short,List.mem_flatMap,Dict.mem_values_iff,Dict.get?_groupBy]
    constructor
    · rintro ⟨group,⟨dimension,found⟩,inside⟩
      split at found
      · cases found
      · cases found
        exact ⟨dimension,inside⟩
    · rintro ⟨dimension,inside⟩
      refine ⟨_,⟨dimension,if_neg ?_⟩,inside⟩
      intro empty
      rw [empty] at inside
      cases inside
  have member (dimension : String) (m : SliceMetric K) :
      m ∈ (slices.filter (fun m => m.isStatisticallyReliable)).filter (fun m => m.sliceDimension = dimension) ↔
        (m ∈ slices ∧ m.isStatisticallyReliable = true) ∧ m.sliceDimension = dimension := by
    rw [List.mem_filter,List.mem_filter,decide_eq_true_eq]
  simp only [groups]
  constructor
  · rintro ⟨dimension,inside⟩
    obtain ⟨first,second⟩ := mem_of_mem_pairsOf inside
    rw [member] at first second
    exact ⟨first.1,second.1,first.2.trans second.2.symm⟩
  · intro first second same apart
    have pair := pairsOf_of_ne ((member _ p.1).mpr ⟨first,same⟩) ((member _ p.2).mpr ⟨second,rfl⟩) apart
    exact pair.imp (fun inside => ⟨_,inside⟩) (fun inside => ⟨_,inside⟩)

end slices

section verdict
variable [IsStrictOrderedRing K] [FloorRing K] {minSampleSize : ℤ} {observations : List (SliceObservation K)}

def Equitable (xs ys : List (SliceObservation K)) : Prop :=
  |sliceEce xs - sliceEce ys| ≤ 3 / 100 ∧
  ((recommendationRate xs = 0 ∧ recommendationRate ys = 0) ∨
    (recommendationRate ys ≠ 0 ∧ 4 / 5 ≤ recommendationRate xs / recommendationRate ys ∧
      recommendationRate xs / recommendationRate ys ≤ 5 / 4))

theorem recommendationRate_nonneg (items : List (SliceObservation K)) : 0 ≤ recommendationRate items := by
  have zero : roundTo 4 (0 : K) = 0 := roundTo_exact (n := 0) (by norm_num)
  rw [← zero]
  exact roundTo_mono (by positivity)

theorem sliceEce_whole (items : List (SliceObservation K)) : ∃ n : ℤ, sliceEce items * 10 ^ 4 = n := by
  unfold sliceEce computeExpectedCalibrationError
  split
  · exact ⟨0,by norm_num⟩
  · exact roundTo_whole 4 _

omit [FloorRing K] in
/-- For rates that are not negative, the lower bound of the ratios in both directions is the upper one too. -/
theorem ratios_iff {r1 r2 hi : K} (first : 0 ≤ r1) (second : 0 ≤ r2) (high : 5 / 4 ≤ hi) :
    RatioWithin hi (4 / 5) r1 r2 ∧ RatioWithin hi (4 / 5) r2 r1 ↔
      (r1 = 0 ∧ r2 = 0) ∨ (r2 ≠ 0 ∧ 4 / 5 ≤ r1 / r2 ∧ r1 / r2 ≤ 5 / 4) := by
  unfold RatioWithin
  rcases first.eq_or_lt with rfl | positive1
  · rcases second.eq_or_lt with rfl | positive2
    · simp
    · have none : ¬ ((4 : K) / 5 ≤ 0) := by norm_num
      simp [positive2,positive2.ne',none]
  · rcases second.eq_or_lt with rfl | positive2
    · have none : ¬ ((4 : K) / 5 ≤ 0) := by norm_num
      simp [positive1,positive1.ne',none]
    · simp only [positive1,positive2,forall_const,positive1.ne',positive2.ne',ne_eq,not_false_eq_true,true_and,
        false_and,false_or,le_div_iff₀,div_le_iff₀]
      constructor
      · rintro ⟨⟨_,low⟩,_,low'⟩
        exact ⟨low,by linarith⟩
      · rintro ⟨low,up⟩
        refine ⟨⟨by nlinarith,low⟩,by nlinarith,by linarith⟩

theorem pairWithin_iff {hi : K} (high : 5 / 4 ≤ hi) {key key' : String × String} {xs ys : List (SliceObservation K)}
    (first : minSampleSize ≤ xs.length) (second : minSampleSize ≤ ys.length) :
    PairWithin (3 / 100) hi (4 / 5) (sliceMetric minSampleSize key xs,sliceMetric minSampleSize key' ys) ↔
      Equitable xs ys := by
  simp only [PairWithin,sliceMetric_large first,sliceMetric_large second,Option.mem_some_iff,forall_eq']
  exact and_congr_right' (ratios_iff (recommendationRate_nonneg xs) (recommendationRate_nonneg ys) high)

theorem equitable_iff (xs ys : List (SliceObservation K)) : Equitable xs ys ↔ |sliceEce xs - sliceEce ys| ≤ 3 / 100 ∧
    RatioWithin (5 / 4) (4 / 5) (recommendationRate xs) (recommendationRate ys) ∧
    RatioWithin (5 / 4) (4 / 5) (recommendationRate ys) (recommendationRate xs) :=
  and_congr_right' (ratios_iff (recommendationRate_nonneg xs) (recommendationRate_nonneg ys) le_rfl).symm

theorem equitable_symm {xs ys : List (SliceObservation K)} (equitable : Equitable xs ys) : Equitable ys xs := by
  rw [equitable_iff] at equitable ⊢
  rw [abs_sub_comm]
  exact ⟨equitable.1,equitable.2.symm⟩

theorem equitable_self (xs : List (SliceObservation K)) : Equitable xs xs := by
  have one : RatioWithin (5 / 4) (4 / 5) (recommendationRate xs) (recommendationRate xs) := by
    intro positive
    rw [div_self positive.ne']
    norm_num
  rw [equitable_iff,sub_self,abs_zero]
  exact ⟨by norm_num,one,one⟩

def AllEquitable (minSampleSize : ℤ) (observations : List (SliceObservation K)) : Prop :=
  ∀ dimension value value', Large minSampleSize observations (dimension,value) →
    Large minSampleSize observations (dimension,value') →
    Equitable (slice observations (dimension,value)) (slice observations (dimension,value'))

def auditDisparities (minSampleSize : ℤ) (observations : List (SliceObservation K)) : Disparity K :=
  disparities (dimensionSlices (evaluatedSlices minSampleSize observations))

theorem within_iff {hi : K} (high : 5 / 4 ≤ hi) :
    (auditDisparities minSampleSize observations).Within (3 / 100) hi (4 / 5) ↔ AllEquitable minSampleSize observations := by
  have start : Disparity.Within (3 / 100) hi (4 / 5) (⟨0,1,1⟩ : Disparity K) :=
    ⟨by norm_num,le_trans (by norm_num) high,by norm_num⟩
  rw [auditDisparities,disparities,within_compared,and_iff_right start]
  constructor
  · intro pairs dimension value value' large large'
    by_cases same : value = value'
    · rw [same]
      exact equitable_self _
    have metric := reliable_iff.mpr ⟨_,large,rfl⟩
    have metric' := reliable_iff.mpr ⟨_,large',rfl⟩
    have named := sliceMetric_key minSampleSize (dimension,value) (slice observations (dimension,value))
    have named' := sliceMetric_key minSampleSize (dimension,value')
      (slice observations (dimension,value'))
    have apart : sliceMetric minSampleSize (dimension,value) (slice observations (dimension,value)) ≠
        sliceMetric minSampleSize (dimension,value') (slice observations (dimension,value')) :=
      fun equal => same (named.2.symm.trans ((congrArg SliceMetric.sliceValue equal).trans named'.2))
    rcases (mem_comparedPairs (p := (_,_))).2 metric metric' (named.1.trans named'.1.symm) apart with inside | inside
    · exact (pairWithin_iff high large.2 large'.2).mp (pairs _ inside)
    · exact equitable_symm ((pairWithin_iff high large'.2 large.2).mp (pairs _ inside))
  · rintro all ⟨m,m'⟩ inside
    obtain ⟨first,second,same⟩ := mem_comparedPairs.1 inside
    obtain ⟨⟨dimension,value⟩,large,rfl⟩ := reliable_iff.mp first
    obtain ⟨⟨dimension',value'⟩,large',rfl⟩ := reliable_iff.mp second
    rw [(sliceMetric_key _ _ _).1,(sliceMetric_key _ _ _).1] at same
    cases same
    exact (pairWithin_iff high large.2 large'.2).mpr (all dimension value value' large large')

variable (minSampleSize observations) in
omit [IsStrictOrderedRing K] in
theorem no_reliable_iff : (evaluatedSlices minSampleSize observations).countP (fun m => m.isStatisticallyReliable) = 0 ↔
    ¬ ∃ key, Large minSampleSize observations key := by
  rw [List.countP_eq_zero]
  constructor
  · rintro none ⟨key,large⟩
    have metric := reliable_iff.mpr ⟨key,large,rfl⟩
    exact none _ metric.1 metric.2
  · intro none m inside reliable
    obtain ⟨key,large,_⟩ := reliable_iff.mp ⟨inside,reliable⟩
    exact none ⟨key,large⟩

variable (minSampleSize observations) in
/-- Rounding changes nothing about the verdict. -/
theorem status_iff : (3 / 100 < roundTo 4 (auditDisparities minSampleSize observations).maxCalib ∨
      5 / 4 < roundTo 4 (auditDisparities minSampleSize observations).maxAlloc ∨
      (auditDisparities minSampleSize observations).minAlloc < 4 / 5) ↔ ¬ AllEquitable minSampleSize observations := by
  have exact : roundTo 4 (auditDisparities minSampleSize observations).maxCalib =
      (auditDisparities minSampleSize observations).maxCalib := by
    obtain ⟨n,whole⟩ : ∃ n : ℤ, (auditDisparities minSampleSize observations).maxCalib * 10 ^ 4 = n := by
      refine maxCalib_whole ?_ ⟨0,by norm_num⟩
      intro p inside e found
      obtain ⟨first,second,_⟩ := mem_comparedPairs.1 inside
      obtain ⟨_,large,same⟩ := reliable_iff.mp first
      obtain ⟨_,large',same'⟩ := reliable_iff.mp second
      rw [same,same',sliceMetric_large large.2,sliceMetric_large large'.2] at found
      rcases found with found | found
      · exact Option.some.inj found ▸ sliceEce_whole _
      · exact Option.some.inj found ▸ sliceEce_whole _
    exact roundTo_exact whole
  have bound : roundTo 4 (5 / 4 : K) = 5 / 4 := roundTo_exact (n := 12500) (by norm_num)
  rw [exact,← not_iff_not,not_not,not_or,not_or,not_lt,not_lt,not_lt]
  constructor
  · rintro ⟨calib,_,alloc⟩
    exact (within_iff (le_max_left _ (auditDisparities minSampleSize observations).maxAlloc)).mp
      ⟨calib,le_max_right _ _,alloc⟩
  · intro all
    obtain ⟨calib,high,low⟩ := (within_iff le_rfl).mpr all
    exact ⟨calib,bound ▸ roundTo_mono high,low⟩

/-- The observations of the large slices. -/
def largeObservations (minSampleSize : ℤ) (observations : List (SliceObservation K)) : List (SliceObservation K) :=
  observations.filter (fun obs => minSampleSize ≤ (slice observations obs.key).length)

omit [IsStrictOrderedRing K] [FloorRing K] in
theorem slice_largeObservations (key : String × String) : slice (largeObservations minSampleSize observations) key =
    if minSampleSize ≤ (slice observations key).length then slice observations key else [] := by
  unfold largeObservations
  rw [slice,List.filter_filter]
  split
  next enough =>
    refine List.filter_congr ?_
    intro obs _
    by_cases here : obs.key = key <;> simp [here,enough]
  next small =>
    rw [List.filter_eq_nil_iff]
    intro obs _ both
    simp only [Bool.and_eq_true,decide_eq_true_eq] at both
    exact small (both.1 ▸ both.2)

omit [IsStrictOrderedRing K] [FloorRing K] in
theorem large_iff (key : String × String) : Large minSampleSize observations key ↔
    slice (largeObservations minSampleSize observations) key ≠ [] := by
  rw [slice_largeObservations]
  split
  next enough => exact and_iff_left enough
  next small => simp [Large,small]

omit [IsStrictOrderedRing K] [FloorRing K] in
theorem slice_of_large {key : String × String} (large : Large minSampleSize observations key) :
    slice observations key = slice (largeObservations minSampleSize observations) key := by
  rw [slice_largeObservations,if_pos large.2]

variable (minSampleSize) in
/-- The audit of some observations passes exactly if a slice is large and every two large ones of a dimension are close
to each other, and has too few data exactly if none is large. -/
theorem governanceStatus_iff (some : observations ≠ []) :
    ∃ audit, evaluateFairnessSlices observations minSampleSize = .ok audit ∧
      (audit.governanceStatus = .pass ↔
        (∃ key, Large minSampleSize observations key) ∧ AllEquitable minSampleSize observations) ∧
      (audit.governanceStatus = .insufficientData ↔ ¬ ∃ key, Large minSampleSize observations key) := by
  refine ⟨_,if_neg (by simpa using some),?_⟩
  have reliable := no_reliable_iff minSampleSize observations
  have status := status_iff minSampleSize observations
  unfold auditDisparities at status
  simp only [governanceStatus]
  split
  next none =>
    have none := reliable.mp none
    exact ⟨iff_of_false (by simp) (fun both => none both.1),iff_of_true rfl none⟩
  next some =>
    have large := not_not.mp (mt reliable.mpr some)
    split
    next differ =>
      have differ := status.mp differ
      exact ⟨iff_of_false (by simp) (fun both => differ both.2),iff_of_false (by simp) (not_not.mpr large)⟩
    next close =>
      have all := not_not.mp (mt status.mpr close)
      exact ⟨iff_of_true rfl ⟨large,all⟩,iff_of_false (by simp) (not_not.mpr large)⟩

theorem GovernanceStatus.eq_of_iff {s s' : GovernanceStatus} (pass : s = .pass ↔ s' = .pass)
    (insufficient : s = .insufficientData ↔ s' = .insufficientData) : s = s' := by
  cases s <;> cases s' <;> simp_all

variable (minSampleSize) in
/-- The verdict heeds no observation of the smaller slices. -/
theorem evaluateFairnessSlices_status (some : observations ≠ []) :
    ∃ audit, evaluateFairnessSlices observations minSampleSize = .ok audit ∧
      (audit.governanceStatus = .pass ↔
        (∃ key, Large minSampleSize observations key) ∧ AllEquitable minSampleSize observations) ∧
      (audit.governanceStatus = .insufficientData ↔ ¬ ∃ key, Large minSampleSize observations key) ∧
      ∀ observations', observations' ≠ [] →
        largeObservations minSampleSize observations' = largeObservations minSampleSize observations →
        ∃ audit', evaluateFairnessSlices observations' minSampleSize = .ok audit' ∧
          audit'.governanceStatus = audit.governanceStatus := by
  obtain ⟨audit,evaluated,pass,insufficient⟩ := governanceStatus_iff minSampleSize some
  refine ⟨audit,evaluated,pass,insufficient,?_⟩
  intro observations' some' same
  obtain ⟨audit',evaluated',pass',insufficient'⟩ := governanceStatus_iff minSampleSize some'
  have large (key : String × String) : Large minSampleSize observations' key ↔ Large minSampleSize observations key := by
    rw [large_iff,large_iff,same]
  have all : AllEquitable minSampleSize observations' ↔ AllEquitable minSampleSize observations := by
    refine forall_congr' fun dimension => forall_congr' fun value => forall_congr' fun value' => ?_
    rw [large,large]
    refine forall_congr' fun first => forall_congr' fun second => ?_
    rw [slice_of_large first,slice_of_large second,slice_of_large ((large _).mpr first),
      slice_of_large ((large _).mpr second),same]
  refine ⟨audit',evaluated',GovernanceStatus.eq_of_iff ?_ ?_⟩
  · rw [pass,pass',all]
    simp only [large]
  · rw [insufficient,insufficient']
    simp only [large]

end verdict

def tier (value : String) (recommended others : Nat) : List (SliceObservation ℚ) :=
  let observation (isRecommended : Bool) : SliceObservation ℚ :=
    { sliceDimension := "tier", sliceValue := value, actualChurn := 0, predictedProb := 0, cateEstimate := 0
      isRecommended := isRecommended, churn_le := Nat.zero_le 1, prob_nonneg := le_rfl, prob_le := zero_le_one }
  List.replicate recommended (observation true) ++ List.replicate others (observation false)

/-- An empty audit raises, and the bounds are those of the rates reported: two thirds against eight fifteenths are five
quarters, and not so when rounded. -/
theorem empty_raises :
    (evaluateFairnessSlices ([] : List (SliceObservation ℚ))).map DisparityAudit.governanceStatus ≠ .ok .insufficientData ∧
    (evaluateFairnessSlices (tier "A" 2 1 ++ tier "B" 8 7) 3).map DisparityAudit.governanceStatus = .ok .needsReview := by
  decide +kernel

theorem tiers_audited :
    ∃ audit, evaluateFairnessSlices (tier "A" 2 1 ++ tier "B" 1 0) 3 = .ok audit ∧
      (audit.governanceStatus = .pass ↔
        (∃ key, Large 3 (tier "A" 2 1 ++ tier "B" 1 0) key) ∧ AllEquitable 3 (tier "A" 2 1 ++ tier "B" 1 0)) ∧
      (audit.governanceStatus = .insufficientData ↔ ¬ ∃ key, Large 3 (tier "A" 2 1 ++ tier "B" 1 0) key) ∧
      ∃ audit', evaluateFairnessSlices (tier "A" 2 1) 3 = .ok audit' ∧
        audit'.governanceStatus = audit.governanceStatus := by
  have some : tier "A" 2 1 ++ tier "B" 1 0 ≠ [] := by decide
  obtain ⟨audit,evaluated,pass,insufficient,heeds⟩ := evaluateFairnessSlices_status 3 some
  exact ⟨audit,evaluated,pass,insufficient,heeds (tier "A" 2 1) (by decide) rfl⟩

end RevPilot.Fairness
