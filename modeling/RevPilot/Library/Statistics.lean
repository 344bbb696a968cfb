import RevPilot.Library.Sorting
import Mathlib.Algebra.BigOperators.Group.List.Basic
import Mathlib.Algebra.BigOperators.Ring.List
import Mathlib.Algebra.Order.Floor.Ring
import Mathlib.Algebra.Ring.Parity
import Mathlib.Data.List.GetD
import Mathlib.Tactic.FieldSimp
import Mathlib.Tactic.Linarith
import Mathlib.Tactic.Positivity
import Mathlib.Tactic.Ring

/-! Means, deviations, medians and quantiles of samples in an ordered field, and how a
shift or a change of scale of the sample moves them. -/
namespace RevPilot.Library.Statistics

/-! The numerals of the statistics, which have one name in every field. -/

scoped instance two : Nat.AtLeastTwo 2 := ⟨by decide⟩

scoped instance three : Nat.AtLeastTwo 3 := ⟨by decide⟩

scoped instance four : Nat.AtLeastTwo 4 := ⟨by decide⟩

scoped instance five : Nat.AtLeastTwo 5 := ⟨by decide⟩

scoped instance ten : Nat.AtLeastTwo 10 := ⟨by decide⟩

scoped instance nineteen : Nat.AtLeastTwo 19 := ⟨by decide⟩

scoped instance twenty : Nat.AtLeastTwo 20 := ⟨by decide⟩

scoped instance hundred : Nat.AtLeastTwo 100 := ⟨by decide⟩

section order
variable {K : Type*} [LinearOrder K]

def sorted (xs : List K) : List K := sortedBy id xs

theorem sorted_perm (xs : List K) : (sorted xs).Perm xs := sortedBy_perm id xs

theorem sorted_length (xs : List K) : (sorted xs).length = xs.length := (sorted_perm xs).length_eq

theorem sorted_filled {data : List K} (filled : data ≠ []) : sorted data ≠ [] := by
  rwa [Ne,← List.length_eq_zero_iff,sorted_length,List.length_eq_zero_iff]

theorem sorted_pairwise (xs : List K) : (sorted xs).Pairwise (· ≤ ·) := sortedBy_pairwise id xs

theorem sorted_congr {xs ys : List K} (perm : xs.Perm ys) : sorted xs = sorted ys :=
  sortedBy_congr id perm (fun _ _ _ _ same => same)

theorem sorted_map {f : K → K} (mono : StrictMono f) (xs : List K) : sorted (xs.map f) = (sorted xs).map f := by
  symm
  refine List.map_insertionSort (fun a b => id a ≤ id b) (fun a b => id a ≤ id b) f xs ?_
  intro a _ b _
  exact mono.le_iff_le.symm

/-- In a sorted sample a greater rank has a greater value. -/
theorem getD_le {data : List K} (ascending : data.Pairwise (· ≤ ·)) {i j : Nat} (before : i ≤ j)
    (inside : j < data.length) (d : K) : data.getD i d ≤ data.getD j d := by
  rw [List.getD_eq_getElem data d inside,List.getD_eq_getElem data d (before.trans_lt inside)]
  rcases before.eq_or_lt with rfl | less
  · exact le_rfl
  · exact List.pairwise_iff_getElem.mp ascending i j _ inside less

end order

variable {K : Type*} [Field K] [LinearOrder K]

def mean (xs : List K) : K := xs.sum / xs.length

def variance (xs : List K) : K := (xs.map (fun x => (x - mean xs) ^ 2)).sum / (xs.length - 1)

/-- The middle of a sample that is not empty, or the mean of its two middles. -/
def median (xs : List K) : K :=
  let data := sorted xs
  let half := data.length / 2
  if data.length % 2 = 1 then data.getD half 0 else (data.getD (half - 1) 0 + data.getD half 0) / 2

theorem median_congr {xs ys : List K} (perm : xs.Perm ys) : median xs = median ys := by
  rw [median,median,sorted_congr perm]

/-- A sample read at a rank, linearly between the two ranks around it. -/
def interpolate [FloorRing K] (data : List K) (rank : K) : K :=
  if ⌊rank⌋ = ⌈rank⌉ then data.getD ⌊rank⌋.toNat 0
  else data.getD ⌊rank⌋.toNat 0 * (⌈rank⌉ - rank) + data.getD ⌈rank⌉.toNat 0 * (rank - ⌊rank⌋)

/-- The nearest multiple of a negative power of ten, a tie to the even one. -/
def roundTo [FloorRing K] (digits : Nat) (x : K) : K :=
  let scaled := x * 10 ^ digits
  let whole := ⌊scaled⌋
  let rest := scaled - whole
  (if rest < 1 / 2 ∨ (rest = 1 / 2 ∧ Even whole) then whole else whole + 1 : ℤ) / 10 ^ digits

section rounding
variable [IsStrictOrderedRing K] [FloorRing K] {digits : Nat}

/-- A value with so few digits is its own rounding. -/
theorem roundTo_exact {x : K} {n : ℤ} (whole : x * 10 ^ digits = n) : roundTo digits x = x := by
  have scale : (10 ^ digits : K) ≠ 0 := by positivity
  have rest : (n : K) - (⌊(n : K)⌋ : ℤ) < 1 / 2 := by
    rw [Int.floor_intCast,sub_self]
    norm_num
  unfold roundTo
  simp only [whole]
  rw [if_pos (.inl rest),Int.floor_intCast,div_eq_iff scale,whole]

/-- A rounded value has so few digits. -/
theorem roundTo_whole (digits : Nat) (x : K) : ∃ n : ℤ, roundTo digits x * 10 ^ digits = n := by
  refine ⟨_,div_mul_cancel₀ _ ?_⟩
  positivity

theorem roundTo_mono {x y : K} (le : x ≤ y) : roundTo digits x ≤ roundTo digits y := by
  have scaled : x * 10 ^ digits ≤ y * 10 ^ digits := mul_le_mul_of_nonneg_right le (by positivity)
  unfold roundTo
  generalize x * 10 ^ digits = a at scaled ⊢
  generalize y * 10 ^ digits = b at scaled ⊢
  refine div_le_div_of_nonneg_right (Int.cast_le.mpr ?_) (by positivity)
  rcases (Int.floor_le_floor scaled).eq_or_lt with same | less
  · rw [same]
    split
    · split <;> omega
    next up =>
      -- what rounds the smaller one up rounds the greater one up
      rw [if_neg]
      rintro (low | ⟨tie,even⟩)
      · exact up (.inl (by linarith))
      · rcases scaled.eq_or_lt with equal | below
        · exact up (.inr ⟨by rw [equal,tie],even⟩)
        · exact up (.inl (by linarith))
  · split <;> split <;> omega

end rounding

section ranks
variable [IsStrictOrderedRing K] [FloorRing K] {data : List K} {rank : K}

/-- A rank of a sample. -/
structure InRange (data : List K) (rank : K) : Prop where
  start : 0 ≤ rank
  stop : rank ≤ (data.length : K) - 1

omit [IsStrictOrderedRing K] in
theorem InRange.ceil (inside : InRange data rank) : ⌈rank⌉.toNat < data.length := by
  have upper : ⌈rank⌉ ≤ (data.length : ℤ) - 1 := by
    rw [Int.ceil_le]
    push_cast
    exact inside.stop
  have lower : 0 ≤ ⌈rank⌉ := Int.ceil_nonneg inside.start
  omega

theorem InRange.floor (inside : InRange data rank) : ⌊rank⌋.toNat < data.length :=
  (Int.toNat_le_toNat (Int.floor_le_ceil rank)).trans_lt inside.ceil

theorem ceil_of_broken (broken : Int.fract rank ≠ 0) : ⌈rank⌉ = ⌊rank⌋ + 1 :=
  (Int.ceil_eq_floor_add_one_iff_notMem rank).mpr (fun whole => broken (Int.fract_eq_zero_iff.mpr whole))

/-- One formula for both cases. -/
theorem interpolate_eq (data : List K) (rank : K) : interpolate data rank =
    data.getD ⌊rank⌋.toNat 0 + Int.fract rank * (data.getD ⌈rank⌉.toNat 0 - data.getD ⌊rank⌋.toNat 0) := by
  unfold interpolate
  split
  next whole => rw [← whole,sub_self,mul_zero,add_zero]
  next between =>
    have broken : Int.fract rank ≠ 0 := by
      intro whole
      obtain ⟨n,rfl⟩ := Int.fract_eq_zero_iff.mp whole
      exact between (by rw [Int.floor_intCast,Int.ceil_intCast])
    rw [Int.ceil_eq_add_one_sub_fract broken,← Int.self_sub_floor]
    ring

theorem interpolate_between (ascending : data.Pairwise (· ≤ ·)) (inside : InRange data rank) :
    data.getD ⌊rank⌋.toNat 0 ≤ interpolate data rank ∧ interpolate data rank ≤ data.getD ⌈rank⌉.toNat 0 := by
  have step := sub_nonneg.mpr (getD_le ascending (Int.toNat_le_toNat (Int.floor_le_ceil rank)) inside.ceil 0)
  have part := mul_le_mul_of_nonneg_right (Int.fract_lt_one rank).le step
  rw [interpolate_eq]
  constructor
  · exact le_add_of_nonneg_right (mul_nonneg (Int.fract_nonneg rank) step)
  · linarith

theorem interpolate_mono (ascending : data.Pairwise (· ≤ ·)) {low high : K} (start : 0 ≤ low) (le : low ≤ high)
    (stop : high ≤ (data.length : K) - 1) : interpolate data low ≤ interpolate data high := by
  have insideLow : InRange data low := ⟨start,le.trans stop⟩
  have insideHigh : InRange data high := ⟨start.trans le,stop⟩
  rcases (Int.floor_le_floor le).eq_or_lt with same | less
  · have fraction : Int.fract low ≤ Int.fract high := by
      rw [← Int.self_sub_floor,← Int.self_sub_floor,same]
      exact sub_le_sub_right le _
    by_cases whole : Int.fract low = 0
    · -- a whole rank is the lower end of every rank above it
      rw [interpolate_eq data low,whole,zero_mul,add_zero,same]
      exact (interpolate_between ascending insideHigh).1
    · have broken : Int.fract high ≠ 0 := by
        intro none
        exact whole (le_antisymm (fraction.trans none.le) (Int.fract_nonneg low))
      rw [interpolate_eq data low,interpolate_eq data high,ceil_of_broken whole,ceil_of_broken broken,same,
        ← ceil_of_broken broken]
      have step := getD_le ascending (Int.toNat_le_toNat (Int.floor_le_ceil high)) insideHigh.ceil 0
      exact add_le_add_right (mul_le_mul_of_nonneg_right fraction (sub_nonneg.mpr step)) _
  · have apart : ⌈low⌉ ≤ ⌊high⌋ := by
      have next : ⌊low⌋ + 1 ≤ ⌊high⌋ := less
      rw [Int.ceil_le]
      calc low
          ≤ ⌊low⌋ + 1 := (Int.lt_floor_add_one low).le
        _ = ((⌊low⌋ + 1 : ℤ) : K) := by push_cast; rfl
        _ ≤ ⌊high⌋ := Int.cast_le.mpr next
    calc interpolate data low
        ≤ data.getD ⌈low⌉.toNat 0 := (interpolate_between ascending insideLow).2
      _ ≤ data.getD ⌊high⌋.toNat 0 := getD_le ascending (Int.toNat_le_toNat apart) insideHigh.floor 0
      _ ≤ interpolate data high := (interpolate_between ascending insideHigh).1

/-- The median is the value at the middle rank. -/
theorem median_eq {xs : List K} (filled : xs ≠ []) :
    median xs = interpolate (sorted xs) (((xs.length : K) - 1) / 2) := by
  have positive : 0 < xs.length := List.length_pos_iff.mpr filled
  simp only [median,sorted_length]
  generalize sorted xs = data
  split
  next odd =>
    obtain ⟨m,whole⟩ : ∃ m, xs.length = 2 * m + 1 := ⟨xs.length / 2,by omega⟩
    have rank : ((xs.length : K) - 1) / 2 = ((m : ℤ) : K) := by
      rw [whole]
      push_cast
      ring
    rw [interpolate_eq,rank,Int.fract_intCast,zero_mul,add_zero,Int.floor_intCast,Int.toNat_natCast,
      show xs.length / 2 = m by omega]
  next even =>
    obtain ⟨m,whole⟩ : ∃ m, xs.length = 2 * m + 2 := ⟨xs.length / 2 - 1,by omega⟩
    have rank : ((xs.length : K) - 1) / 2 = ((m : ℤ) : K) + 1 / 2 := by
      rw [whole]
      push_cast
      ring
    have inside : (0 : K) ≤ 1 / 2 ∧ (1 / 2 : K) < 1 := ⟨by positivity,one_half_lt_one⟩
    have floor : ⌊((xs.length : K) - 1) / 2⌋ = m := by
      rw [rank,Int.floor_intCast_add,Int.floor_eq_zero_iff.mpr inside,add_zero]
    have broken : Int.fract (((xs.length : K) - 1) / 2) = 1 / 2 := by
      rw [rank,Int.fract_intCast_add,Int.fract_eq_self.mpr inside]
    have ceil : ⌈((xs.length : K) - 1) / 2⌉ = ((m + 1 : ℕ) : ℤ) := by
      rw [ceil_of_broken (by rw [broken]; positivity),floor]
      rfl
    rw [interpolate_eq,ceil,floor,broken,Int.toNat_natCast,Int.toNat_natCast,show xs.length / 2 = m + 1 by omega,
      Nat.add_sub_cancel]
    ring

end ranks

section rescale
variable {data : List K} {scale shift : K}

def rescale (scale shift x : K) : K := scale * x + shift

omit [LinearOrder K] in
theorem rescale_one (shift : K) : rescale 1 shift = (· + shift) := by
  funext x
  rw [rescale,one_mul]

omit [LinearOrder K] in
theorem getD_rescale {i : Nat} (inside : i < data.length) :
    (data.map (rescale scale shift)).getD i 0 = rescale scale shift (data.getD i 0) := by
  rw [List.getD_eq_getElem data 0 inside,List.getD_eq_getElem _ 0 (by rwa [List.length_map]),List.getElem_map]

theorem interpolate_rescale [IsStrictOrderedRing K] [FloorRing K] {rank : K} (inside : InRange data rank) :
    interpolate (data.map (rescale scale shift)) rank = rescale scale shift (interpolate data rank) := by
  rw [interpolate_eq,interpolate_eq,getD_rescale inside.floor,getD_rescale inside.ceil]
  unfold rescale
  ring

section ordered
variable [IsStrictOrderedRing K] {xs : List K}

theorem rescale_strictMono (positive : 0 < scale) (shift : K) : StrictMono (rescale scale shift) := by
  intro a b less
  exact add_lt_add_left (mul_lt_mul_of_pos_left less positive) shift

theorem median_rescale (positive : 0 < scale) (filled : xs ≠ []) :
    median (xs.map (rescale scale shift)) = rescale scale shift (median xs) := by
  have some : 0 < xs.length := List.length_pos_iff.mpr filled
  simp only [median,sorted_map (rescale_strictMono positive shift),List.length_map,sorted_length]
  rw [getD_rescale (by rw [sorted_length]; omega),getD_rescale (by rw [sorted_length]; omega)]
  split
  · rfl
  · unfold rescale
    ring

theorem median_shift (filled : xs ≠ []) (shift : K) : median (xs.map (· + shift)) = median xs + shift := by
  rw [← rescale_one shift,median_rescale one_pos filled]
  exact congrFun (rescale_one shift) _

theorem mean_shift (filled : xs ≠ []) (shift : K) : mean (xs.map (· + shift)) = mean xs + shift := by
  have some : (xs.length : K) ≠ 0 := Nat.cast_ne_zero.mpr (List.length_pos_iff.mpr filled).ne'
  rw [mean,List.length_map,List.sum_map_add,List.map_id',List.map_const',List.sum_replicate,nsmul_eq_mul,add_div,
    mul_div_cancel_left₀ shift some]
  rfl

theorem variance_shift (xs : List K) (shift : K) : variance (xs.map (· + shift)) = variance xs := by
  by_cases filled : xs = []
  · rw [filled,List.map_nil]
  · rw [variance,mean_shift filled,List.map_map,List.length_map]
    have same : (fun x => (x - (mean xs + shift)) ^ 2) ∘ (· + shift) = fun x => (x - mean xs) ^ 2 := by
      funext x
      rw [Function.comp_apply,add_sub_add_right_eq_sub]
    rw [same]
    rfl

end ordered
end rescale
end RevPilot.Library.Statistics
