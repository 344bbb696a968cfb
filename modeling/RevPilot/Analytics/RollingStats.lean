import RevPilot.Library.PyValue
import RevPilot.Library.Statistics

/-! The rolling baseline: the median of a trailing window between bounds that are drawn
from its quartiles. -/
namespace RevPilot.Analytics
open Library JsonText Statistics

@[ext]
structure BaselinePrediction (K : Type*) where
  pointEstimate : K
  lowerBound : K
  upperBound : K
  baselineId : String
  baselineVersion : String

def BaselinePrediction.map {K : Type*} (f : K → K) (p : BaselinePrediction K) : BaselinePrediction K :=
  { p with pointEstimate := f p.pointEstimate, lowerBound := f p.lowerBound, upperBound := f p.upperBound }

structure InsufficientHistoryError where
  code : String := "INSUFFICIENT_HISTORY"
  message : String
  httpStatus : Nat := 422
  details : List (PyKey × PyValue)

structure RollingStatsBaseline (K : Type*) [Field K] [LinearOrder K] where
  windowSize : Nat := 14
  iqrMultiplier : K := 3 / 2
  sized : 0 < windowSize
  nonnegative : 0 ≤ iqrMultiplier

namespace RollingStatsBaseline
variable {K : Type*} [Field K] [LinearOrder K]

def baselineId : String := "BASE-ROLLING-STATS-001"

def baselineVersion : String := "1.0.0"

/-- `_percentile`. -/
def percentile [FloorRing K] (data : List K) (p : K) : K :=
  match data with
  | [] => 0
  | [x] => x
  | data => interpolate data (((data.length : K) - 1) * p)

/-- `series[-window_size:]` of a series that is long enough. -/
def window (b : RollingStatsBaseline K) (series : List K) : List K := series.drop (series.length - b.windowSize)

def q1 [FloorRing K] (b : RollingStatsBaseline K) (series : List K) : K :=
  percentile (sorted (b.window series)) (1 / 4)

def q3 [FloorRing K] (b : RollingStatsBaseline K) (series : List K) : K :=
  percentile (sorted (b.window series)) (3 / 4)

/-- The prediction from the window. -/
def prediction [FloorRing K] (b : RollingStatsBaseline K) (series : List K) : BaselinePrediction K :=
  let iqr := b.q3 series - b.q1 series
  { pointEstimate := median (sorted (b.window series)), lowerBound := b.q1 series - b.iqrMultiplier * iqr
    upperBound := b.q3 series + b.iqrMultiplier * iqr, baselineId := baselineId, baselineVersion := baselineVersion }

def predict [FloorRing K] (b : RollingStatsBaseline K) (series : List K) :
    Except InsufficientHistoryError (BaselinePrediction K) :=
  let n := series.length
  if n = 0 then
    .ok { pointEstimate := 0, lowerBound := 0, upperBound := 0, baselineId := baselineId
          baselineVersion := baselineVersion }
  else if n < b.windowSize then
    .error { message := s!"Series length ({n}) is less than required window_size ({b.windowSize})"
             details := [(.str "series_length",.int n),(.str "required_window",.int b.windowSize)] }
  else .ok (b.prediction series)

section windows
variable {b : RollingStatsBaseline K} {series : List K}

theorem window_length (long : b.windowSize ≤ series.length) : (b.window series).length = b.windowSize := by
  rw [window,List.length_drop]
  omega

theorem window_filled (long : b.windowSize ≤ series.length) : b.window series ≠ [] :=
  List.length_pos_iff.mp (window_length long ▸ b.sized)

theorem window_map (f : K → K) : b.window (series.map f) = (b.window series).map f := by
  rw [window,window,List.map_drop,List.length_map]

variable [FloorRing K]

theorem predict_eq (long : b.windowSize ≤ series.length) : b.predict series = .ok (b.prediction series) := by
  have sized := b.sized
  unfold predict
  dsimp only
  rw [if_neg (by omega),if_neg (by omega)]

/-- Only the values in the window count, not their order. -/
theorem prediction_congr {other : List K} (same : (b.window other).Perm (b.window series)) :
    b.prediction other = b.prediction series := by
  unfold prediction q1 q3
  rw [sorted_congr same]

end windows

section quartiles
variable [IsStrictOrderedRing K] [FloorRing K] {data : List K}

theorem percentile_eq (filled : data ≠ []) (p : K) :
    percentile data p = interpolate data (((data.length : K) - 1) * p) := by
  rcases data with _ | ⟨x,_ | ⟨y,data⟩⟩
  · exact absurd rfl filled
  · have rank : ((([x] : List K).length : K) - 1) * p = ((0 : ℤ) : K) := by simp
    rw [rank,interpolate_eq,Int.fract_intCast,zero_mul,add_zero,Int.floor_intCast]
    rfl
  · rfl

/-- The rank of a quantile. -/
theorem inRange_quantile (filled : data ≠ []) {p : K} (low : 0 ≤ p) (high : p ≤ 1) :
    InRange data (((data.length : K) - 1) * p) := by
  have some : (0 : K) ≤ data.length - 1 := by
    have one : 1 ≤ data.length := List.length_pos_iff.mpr filled
    exact sub_nonneg.mpr (by exact_mod_cast one)
  exact ⟨mul_nonneg some low,mul_le_of_le_one_right some high⟩

theorem percentile_mono (ascending : data.Pairwise (· ≤ ·)) (filled : data ≠ []) {p q : K} (low : 0 ≤ p) (le : p ≤ q)
    (high : q ≤ 1) : percentile data p ≤ percentile data q := by
  have first := inRange_quantile filled low (le.trans high)
  have last := inRange_quantile filled (low.trans le) high
  have some : (0 : K) ≤ data.length - 1 := (inRange_quantile filled zero_le_one le_rfl).start.trans_eq (mul_one _)
  rw [percentile_eq filled,percentile_eq filled]
  exact interpolate_mono ascending first.start (mul_le_mul_of_nonneg_left le some) last.stop

theorem median_sorted (filled : data ≠ []) : median (sorted data) = percentile (sorted data) (1 / 2) := by
  rw [median_congr (sorted_perm data),median_eq filled,percentile_eq (sorted_filled filled),sorted_length,mul_one_div]

theorem percentile_rescale (filled : data ≠ []) {p : K} (low : 0 ≤ p) (high : p ≤ 1) (scale shift : K) :
    percentile (data.map (rescale scale shift)) p = rescale scale shift (percentile data p) := by
  rw [percentile_eq (mt List.map_eq_nil_iff.mp filled),percentile_eq filled,List.length_map,
    interpolate_rescale (inRange_quantile filled low high)]

end quartiles

section laws
variable [IsStrictOrderedRing K] [FloorRing K] {b : RollingStatsBaseline K} {series : List K}

theorem q1_le_point (long : b.windowSize ≤ series.length) : b.q1 series ≤ (b.prediction series).pointEstimate := by
  have filled := window_filled long
  have point : (b.prediction series).pointEstimate = _ := median_sorted filled
  rw [point]
  refine percentile_mono (sorted_pairwise _) (sorted_filled filled) ?_ ?_ ?_ <;> norm_num

theorem point_le_q3 (long : b.windowSize ≤ series.length) : (b.prediction series).pointEstimate ≤ b.q3 series := by
  have filled := window_filled long
  have point : (b.prediction series).pointEstimate = _ := median_sorted filled
  rw [point]
  refine percentile_mono (sorted_pairwise _) (sorted_filled filled) ?_ ?_ ?_ <;> norm_num

theorem bounds_outside (long : b.windowSize ≤ series.length) :
    (b.prediction series).lowerBound ≤ b.q1 series ∧ b.q3 series ≤ (b.prediction series).upperBound := by
  have range := sub_nonneg.mpr ((q1_le_point long).trans (point_le_q3 long))
  have wide := mul_nonneg b.nonnegative range
  exact ⟨sub_le_self _ wide,le_add_of_nonneg_right wide⟩

theorem prediction_rescale (long : b.windowSize ≤ series.length) {scale : K} (positive : 0 < scale) (shift : K) :
    b.prediction (series.map (rescale scale shift)) = (b.prediction series).map (rescale scale shift) := by
  have filled := window_filled long
  have ordered : sorted (b.window (series.map (rescale scale shift))) =
      (sorted (b.window series)).map (rescale scale shift) := by
    rw [window_map,sorted_map (rescale_strictMono positive shift)]
  have first : b.q1 (series.map (rescale scale shift)) = rescale scale shift (b.q1 series) := by
    rw [q1,ordered]
    exact percentile_rescale (sorted_filled filled) (by norm_num) (by norm_num) scale shift
  have third : b.q3 (series.map (rescale scale shift)) = rescale scale shift (b.q3 series) := by
    rw [q3,ordered]
    exact percentile_rescale (sorted_filled filled) (by norm_num) (by norm_num) scale shift
  apply BaselinePrediction.ext
  · change median _ = rescale scale shift (median _)
    rw [ordered,median_rescale positive (sorted_filled filled)]
  · change b.q1 _ - b.iqrMultiplier * (b.q3 _ - b.q1 _) = rescale scale shift (b.q1 series - _)
    rw [first,third]
    unfold rescale
    ring
  · change b.q3 _ + b.iqrMultiplier * (b.q3 _ - b.q1 _) = rescale scale shift (b.q3 series + _)
    rw [first,third]
    unfold rescale
    ring
  · rfl
  · rfl

end laws

section results
variable [IsStrictOrderedRing K] [FloorRing K]

theorem predict_laws (b : RollingStatsBaseline K) (series : List K) (long : b.windowSize ≤ series.length) :
    ∃ p, b.predict series = .ok p ∧
      (p.lowerBound ≤ b.q1 series ∧ b.q1 series ≤ p.pointEstimate ∧ p.pointEstimate ≤ b.q3 series ∧
        b.q3 series ≤ p.upperBound) ∧
      (∀ other, b.windowSize ≤ other.length → (b.window other).Perm (b.window series) → b.predict other = .ok p) ∧
      (∀ shift, b.predict (series.map (· + shift)) = .ok (p.map (· + shift))) ∧
      ∀ scale, 0 < scale → b.predict (series.map (scale * ·)) = .ok (p.map (scale * ·)) := by
  have rescaled {scale : K} (positive : 0 < scale) (shift : K) :
      b.predict (series.map (rescale scale shift)) = .ok ((b.prediction series).map (rescale scale shift)) := by
    rw [predict_eq (by rwa [List.length_map]),prediction_rescale long positive shift]
  refine ⟨b.prediction series,predict_eq long,?_,?_,?_,?_⟩
  · exact ⟨(bounds_outside long).1,q1_le_point long,point_le_q3 long,(bounds_outside long).2⟩
  · intro other long' same
    rw [predict_eq long',prediction_congr same]
  · intro shift
    rw [← rescale_one shift]
    exact rescaled one_pos shift
  · intro scale positive
    have plain : rescale scale 0 = (scale * ·) := by
      funext x
      exact add_zero _
    rw [← plain]
    exact rescaled positive 0

end results

/-- The last four of five points. -/
def quarterly : RollingStatsBaseline ℚ where
  windowSize := 4
  sized := by decide
  nonnegative := by norm_num

theorem quarterly_laws : ∃ p, quarterly.predict [9,4,1,3,2] = .ok p ∧
    (p.lowerBound ≤ quarterly.q1 [9,4,1,3,2] ∧ quarterly.q1 [9,4,1,3,2] ≤ p.pointEstimate ∧
      p.pointEstimate ≤ quarterly.q3 [9,4,1,3,2] ∧ quarterly.q3 [9,4,1,3,2] ≤ p.upperBound) ∧
    (∀ other, quarterly.windowSize ≤ other.length → (quarterly.window other).Perm (quarterly.window [9,4,1,3,2]) →
      quarterly.predict other = .ok p) ∧
    (∀ shift, quarterly.predict ([9,4,1,3,2].map (· + shift)) = .ok (p.map (· + shift))) ∧
    ∀ scale, 0 < scale → quarterly.predict ([9,4,1,3,2].map (scale * ·)) = .ok (p.map (scale * ·)) :=
  predict_laws quarterly [9,4,1,3,2] (by decide)

end RollingStatsBaseline
end RevPilot.Analytics
