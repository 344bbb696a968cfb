import RevPilot.Library.Statistics
import Mathlib.Data.Rat.Floor

/-! The residual detector: the last point of a series against what the trend and the
season of the points before it forecast. -/
namespace RevPilot.Analytics
open Library Statistics

structure DetectionResult (K : Type*) where
  isAnomaly : Bool
  anomalyScore : K
  expectedValue : K
  expectedInterval : K × K
  deviationSigma : K
  detectorId : String := "DET-STL-RESIDUAL-001"
  detectorVersion : String := "1.0.0"

structure StlResidualDetector (K : Type*) [Field K] [LinearOrder K] where
  seasonalPeriod : Nat := 7
  sigmaThreshold : K := 3
  periodic : 0 < seasonalPeriod
  positive : 0 < sigmaThreshold

/-- What the points before the last one say of it. -/
structure Forecast (K : Type*) where
  expected : K
  effectiveSigma : K

/-- The verdict on the last point, before its numbers are rounded. -/
structure Assessment (K : Type*) where
  isAnomaly : Bool := false
  deviation : K
  expected : K
  lower : K
  upper : K

namespace StlResidualDetector
variable {K : Type*} [Field K] [LinearOrder K] (d : StlResidualDetector K)

/-- The standard deviation of a sample, with the square root of the platform. -/
def stdev (sqrt : K → K) (xs : List K) : K := sqrt (variance xs)

/-- The forecast of a series of less than two periods. -/
def shortForecast (sqrt : K → K) (history : List K) : Forecast K where
  expected := mean history
  effectiveSigma := max (if 1 < history.length then stdev sqrt history else 0) (1 / 10000)

def trendWindowLen : Nat := max (d.seasonalPeriod * 3) 21

/-- `history[w_start : i + 1]`. -/
def trendWindow (history : List K) (i : Nat) : List K := (history.take (i + 1)).drop (i + 1 - d.trendWindowLen)

def trends (history : List K) : List K :=
  (List.range history.length).map (fun i => median (d.trendWindow history i))

def detrended (history : List K) : List K := List.zipWith (· - ·) history (d.trends history)

def phaseBucket (history : List K) (phase : Nat) : List K :=
  ((d.detrended history).zipIdx.filter (fun p => p.2 % d.seasonalPeriod = phase)).map Prod.fst

def phaseMedians (history : List K) : List K :=
  (List.range d.seasonalPeriod).map (fun phase =>
    let bucket := d.phaseBucket history phase
    if bucket.isEmpty then 0 else median bucket)

def seasonals (history : List K) : List K :=
  (d.phaseMedians history).map (fun m => m - median (d.phaseMedians history))

def residuals (history : List K) : List K :=
  ((history.zip (d.trends history)).zipIdx).map (fun p =>
    p.1.1 - (p.1.2 + (d.seasonals history).getD (p.2 % d.seasonalPeriod) 0))

/-- The deviation of the residuals without their outliers. -/
def robustSigma (sqrt : K → K) (residuals : List K) : K :=
  let sortedRes := sorted residuals
  let half := sortedRes.length / 2
  let q1 := if 0 < half then median (sortedRes.take half) else sortedRes.getD 0 0
  let q3 := if 0 < half then median (sortedRes.drop (sortedRes.length - half))
    else sortedRes.getD (sortedRes.length - 1) 0
  let iqr := max (q3 - q1) (1 / 500)
  let cleanRes := residuals.filter (fun r => q1 - 3 / 2 * iqr ≤ r ∧ r ≤ q3 + 3 / 2 * iqr)
  max (if 1 < cleanRes.length then stdev sqrt cleanRes else 1 / 200) (1 / 500)

/-- The points that carry the trend on. -/
def extrapolated (history : List K) : List K :=
  if d.trendWindowLen ≤ history.length then history.drop (history.length - d.trendWindowLen) else history

def robustForecast (sqrt : K → K) (history : List K) : Forecast K where
  expected := median (d.extrapolated history) + (d.seasonals history).getD (history.length % d.seasonalPeriod) 0
  effectiveSigma := robustSigma sqrt (d.residuals history)

def forecast (sqrt : K → K) (history : List K) : Forecast K :=
  if history.length + 1 < 2 * d.seasonalPeriod then shortForecast sqrt history else d.robustForecast sqrt history

/-- The target against its forecast. -/
def compare (target : K) (f : Forecast K) : Assessment K :=
  let deviation := |target - f.expected| / f.effectiveSigma
  let margin := d.sigmaThreshold * f.effectiveSigma
  { isAnomaly := decide (d.sigmaThreshold < deviation), deviation := deviation, expected := f.expected
    lower := f.expected - margin, upper := f.expected + margin }

/-- The unrounded part of `detect`. No median or mean in it is of an empty list, on which the library raises. -/
def assess (sqrt : K → K) (series : List K) : Assessment K :=
  match series with
  | [] => { deviation := 0, expected := 0, lower := 0, upper := 0 }
  | [value] => { deviation := 0, expected := value, lower := value, upper := value }
  | series => d.compare (series.getLastD 0) (d.forecast sqrt series.dropLast)

def detect [FloorRing K] (sqrt : K → K) (series : List K) : DetectionResult K :=
  let a := d.assess sqrt series
  if series.length < 2 then
    { isAnomaly := a.isAnomaly, anomalyScore := 0, expectedValue := a.expected, expectedInterval := (a.lower,a.upper)
      deviationSigma := a.deviation }
  else
    { isAnomaly := a.isAnomaly, anomalyScore := min 1 (roundTo 4 (a.deviation / (d.sigmaThreshold * (3 / 2))))
      expectedValue := roundTo 4 a.expected, expectedInterval := (roundTo 4 a.lower,roundTo 4 a.upper)
      deviationSigma := roundTo 2 a.deviation }

section shift
variable [IsStrictOrderedRing K] {sqrt : K → K} {history : List K} {shift : K}

theorem stdev_shift (xs : List K) : stdev sqrt (xs.map (· + shift)) = stdev sqrt xs := by
  rw [stdev,stdev,variance_shift]

theorem shortForecast_shift (filled : history ≠ []) : shortForecast sqrt (history.map (· + shift)) =
    { shortForecast sqrt history with expected := (shortForecast sqrt history).expected + shift } := by
  unfold shortForecast
  rw [mean_shift filled,List.length_map,stdev_shift]

omit [IsStrictOrderedRing K] in
theorem trendWindowLen_pos : 0 < d.trendWindowLen := by
  unfold trendWindowLen
  omega

omit [IsStrictOrderedRing K] in
/-- The window of a point holds the point. -/
theorem trendWindow_filled {i : Nat} (inside : i < history.length) : d.trendWindow history i ≠ [] := by
  have wide := d.trendWindowLen_pos
  rw [trendWindow,← List.length_pos_iff,List.length_drop,List.length_take]
  omega

theorem trends_shift : d.trends (history.map (· + shift)) = (d.trends history).map (· + shift) := by
  unfold trends
  rw [List.length_map,List.map_map]
  refine List.map_congr_left ?_
  intro i inside
  have window : d.trendWindow (history.map (· + shift)) i = (d.trendWindow history i).map (· + shift) := by
    rw [trendWindow,trendWindow,List.map_drop,List.map_take]
  rw [window,median_shift (d.trendWindow_filled (List.mem_range.mp inside))]
  rfl

theorem detrended_shift : d.detrended (history.map (· + shift)) = d.detrended history := by
  unfold detrended
  rw [trends_shift,List.zipWith_map]
  congr 1
  funext y t
  exact add_sub_add_right_eq_sub y t shift

theorem seasonals_shift : d.seasonals (history.map (· + shift)) = d.seasonals history := by
  unfold seasonals phaseMedians phaseBucket
  rw [detrended_shift]

theorem residuals_shift : d.residuals (history.map (· + shift)) = d.residuals history := by
  unfold residuals
  rw [trends_shift,seasonals_shift,List.zip_map,List.zipIdx_map,List.map_map]
  refine List.map_congr_left ?_
  intro p _
  have cancel (season : K) : p.1.1 + shift - (p.1.2 + shift + season) = p.1.1 - (p.1.2 + season) := by ring
  exact cancel _

omit [IsStrictOrderedRing K] in
theorem extrapolated_shift : d.extrapolated (history.map (· + shift)) = (d.extrapolated history).map (· + shift) := by
  unfold extrapolated
  rw [List.length_map]
  split
  · rw [List.map_drop]
  · rfl

omit [IsStrictOrderedRing K] in
theorem extrapolated_filled (filled : history ≠ []) : d.extrapolated history ≠ [] := by
  have wide := d.trendWindowLen_pos
  unfold extrapolated
  split
  · rw [← List.length_pos_iff,List.length_drop]
    omega
  · exact filled

theorem robustForecast_shift (filled : history ≠ []) : d.robustForecast sqrt (history.map (· + shift)) =
    { d.robustForecast sqrt history with expected := (d.robustForecast sqrt history).expected + shift } := by
  unfold robustForecast
  rw [extrapolated_shift,median_shift (d.extrapolated_filled filled),seasonals_shift,residuals_shift,List.length_map,
    add_right_comm]

theorem forecast_shift (filled : history ≠ []) : d.forecast sqrt (history.map (· + shift)) =
    { d.forecast sqrt history with expected := (d.forecast sqrt history).expected + shift } := by
  unfold forecast
  rw [List.length_map]
  split
  · exact shortForecast_shift filled
  · exact d.robustForecast_shift filled

/-- The scale of a forecast has a positive floor. -/
theorem forecast_sigma_pos (sqrt : K → K) (history : List K) : 0 < (d.forecast sqrt history).effectiveSigma := by
  unfold forecast
  split
  · exact lt_max_of_lt_right (by positivity)
  · exact lt_max_of_lt_right (by positivity)

omit [IsStrictOrderedRing K] in
theorem compare_shift (target : K) (f : Forecast K) : d.compare (target + shift) { f with expected := f.expected + shift } =
    { d.compare target f with
      expected := (d.compare target f).expected + shift, lower := (d.compare target f).lower + shift
      upper := (d.compare target f).upper + shift } := by
  unfold compare
  simp only [add_sub_add_right_eq_sub]
  rw [add_sub_right_comm,add_right_comm]

theorem compare_iff {f : Forecast K} (positive : 0 < f.effectiveSigma) (target : K) :
    (d.compare target f).isAnomaly = true ↔
      ¬ ((d.compare target f).lower ≤ target ∧ target ≤ (d.compare target f).upper) := by
  unfold compare
  simp only [decide_eq_true_eq]
  rw [lt_div_iff₀ positive,← not_le,abs_le]
  refine not_congr (and_congr ?_ ?_)
  · rw [neg_le_sub_iff_le_add,sub_le_iff_le_add]
  · rw [sub_le_iff_le_add']

omit [IsStrictOrderedRing K] in
/-- A later series, from its last point and those before it. -/
theorem assess_concat (filled : history ≠ []) (target : K) :
    d.assess sqrt (history ++ [target]) = d.compare target (d.forecast sqrt history) := by
  obtain ⟨x,rest,rfl⟩ := List.exists_cons_of_ne_nil filled
  cases rest with
  | nil => rfl
  | cons y rest =>
    change d.compare ((x :: y :: (rest ++ [target])).getLastD 0) (d.forecast sqrt (x :: y :: (rest ++ [target])).dropLast) = _
    rw [← List.cons_append,← List.cons_append,List.dropLast_concat,List.getLastD_concat]

omit [IsStrictOrderedRing K] in
theorem detect_isAnomaly [FloorRing K] (sqrt : K → K) (series : List K) :
    (d.detect sqrt series).isAnomaly = (d.assess sqrt series).isAnomaly := by
  unfold detect
  split <;> rfl

end shift

section results
variable [IsStrictOrderedRing K]

theorem assess_shift (sqrt : K → K) {series : List K} (filled : series ≠ []) (shift : K) :
    d.assess sqrt (series.map (· + shift)) =
      { d.assess sqrt series with
        expected := (d.assess sqrt series).expected + shift, lower := (d.assess sqrt series).lower + shift
        upper := (d.assess sqrt series).upper + shift } := by
  rcases List.eq_nil_or_concat series with rfl | ⟨history,target,rfl⟩
  · exact absurd rfl filled
  · rw [List.concat_eq_append]
    by_cases before : history = []
    · rw [before]
      rfl
    · rw [List.map_append,List.map_singleton,d.assess_concat before,d.assess_concat (mt List.map_eq_nil_iff.mp before),
        d.forecast_shift before,d.compare_shift]

theorem isAnomaly_iff [FloorRing K] (sqrt : K → K) {series : List K} (filled : series ≠ []) :
    (d.detect sqrt series).isAnomaly = true ↔
      ¬ ((d.assess sqrt series).lower ≤ series.getLast filled ∧ series.getLast filled ≤ (d.assess sqrt series).upper) := by
  rw [detect_isAnomaly]
  rcases List.eq_nil_or_concat series with rfl | ⟨history,target,rfl⟩
  · exact absurd rfl filled
  · simp only [List.concat_eq_append,List.getLast_append_singleton]
    by_cases before : history = []
    · rw [before]
      exact iff_of_false Bool.false_ne_true (not_not_intro ⟨le_rfl,le_rfl⟩)
    · rw [d.assess_concat before]
      exact d.compare_iff (d.forecast_sigma_pos sqrt history) target

theorem detect_shift_invariant [FloorRing K] (sqrt : K → K) (series : List K) (filled : series ≠ []) (shift : K) :
    (d.detect sqrt (series.map (· + shift))).isAnomaly = (d.detect sqrt series).isAnomaly ∧
      (d.assess sqrt (series.map (· + shift))).deviation = (d.assess sqrt series).deviation ∧
      (d.assess sqrt (series.map (· + shift))).expected = (d.assess sqrt series).expected + shift ∧
      ((d.detect sqrt series).isAnomaly = true ↔ ¬ ((d.assess sqrt series).lower ≤ series.getLast filled ∧
        series.getLast filled ≤ (d.assess sqrt series).upper)) := by
  refine ⟨?_,?_,?_,d.isAnomaly_iff sqrt filled⟩
  · rw [detect_isAnomaly,detect_isAnomaly,d.assess_shift sqrt filled]
  · rw [d.assess_shift sqrt filled]
  · rw [d.assess_shift sqrt filled]

end results

section samples

def pointwise : StlResidualDetector ℚ where
  seasonalPeriod := 1
  sigmaThreshold := 3
  periodic := by decide
  positive := by norm_num

theorem pointwise_shift_invariant :
    (pointwise.detect id ([2,2,9].map (· + 5))).isAnomaly = (pointwise.detect id [2,2,9]).isAnomaly ∧
      (pointwise.assess id ([2,2,9].map (· + 5))).deviation = (pointwise.assess id [2,2,9]).deviation ∧
      (pointwise.assess id ([2,2,9].map (· + 5))).expected = (pointwise.assess id [2,2,9]).expected + 5 ∧
      ((pointwise.detect id [2,2,9]).isAnomaly = true ↔ ¬ ((pointwise.assess id [2,2,9]).lower ≤ 9 ∧
        9 ≤ (pointwise.assess id [2,2,9]).upper)) :=
  pointwise.detect_shift_invariant id [2,2,9] (by decide) 5

/-- The expected value of an empty series is zero whatever is added to its points. -/
theorem empty_not_shifted :
    (pointwise.assess id ([].map (· + 1))).expected ≠ (pointwise.assess id []).expected + 1 := by
  change (0 : ℚ) ≠ 0 + 1
  norm_num

end samples

end StlResidualDetector
end RevPilot.Analytics
