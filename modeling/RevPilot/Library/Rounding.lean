import Mathlib.Algebra.Group.Int.Even
import Mathlib.Algebra.Order.Floor.Ring
import Mathlib.Data.Int.Log
import Mathlib.Data.Rat.Floor

/-! Rounding to the nearest integer with ties to the even one, and with it to
the nearest binary floating-point number of 53 digits. -/
namespace RevPilot.Library

/-- `n / d` rounded to the nearest integer, a tie to the even one. -/
def halfEven (n d : Nat) : Nat :=
  let q := n / d
  let twice := 2 * (n % d)
  if twice < d ∨ (twice = d ∧ q % 2 = 0) then q else q + 1

/-- The double nearest to a number in the range of the normal doubles. -/
def toDouble (x : ℚ) : ℚ :=
  if x = 0 then 0
  else
    let scale := (2 : ℚ) ^ (Int.log 2 |x| - 52)
    let shifted := |x| / scale
    (if x < 0 then -1 else 1) * halfEven shifted.num.natAbs shifted.den * scale

/-- A power of two is a double. -/
theorem toDouble_two_pow (n : Nat) : toDouble (2 ^ n) = 2 ^ n := by
  have positive : (0 : ℚ) < 2 ^ n := by positivity
  have exponent : Int.log 2 ((2 : ℚ) ^ n) = n := by
    rw [← zpow_natCast]
    exact Int.log_zpow one_lt_two n
  have shifted : (2 : ℚ) ^ n / 2 ^ ((n : Int) - 52) = ((2 ^ 52 : Nat) : ℚ) := by
    rw [← zpow_natCast,← zpow_sub₀ two_ne_zero]
    norm_num
  have nearest : halfEven ((2 ^ 52 : Nat) : ℚ).num.natAbs ((2 ^ 52 : Nat) : ℚ).den = 2 ^ 52 := by
    rw [Rat.num_natCast,Rat.den_natCast,Int.natAbs_natCast]
    simp [halfEven]
  have scaled : ((2 ^ 52 : Nat) : ℚ) * 2 ^ ((n : Int) - 52) = 2 ^ n := by
    rw [← shifted]
    exact div_mul_cancel₀ _ (zpow_ne_zero _ two_ne_zero)
  rw [toDouble,if_neg positive.ne']
  simp only [abs_of_pos positive,if_neg (not_lt.mpr positive.le),one_mul]
  rw [exponent,shifted,nearest,scaled]

/-- What is rounded is above `k` from the half-way point on, which itself goes to its even side. -/
theorem lt_halfEven_iff (n k : Nat) {d : Nat} (positive : 0 < d) :
    k < halfEven n d ↔ 2 * k * d + d < 2 * n ∨ (2 * k * d + d = 2 * n ∧ Odd k) := by
  have parts : d * (n / d) + n % d = n := Nat.div_add_mod n d
  have small : n % d < d := Nat.mod_lt n positive
  unfold halfEven
  generalize n / d = q at *
  generalize n % d = r at *
  rcases lt_trichotomy k q with below | rfl | above
  · have room : d * (k + 1) ≤ d * q := Nat.mul_le_mul_left d below
    have out : 2 * k * d + d < 2 * n := by nlinarith
    simp only [out,true_or,iff_true]
    split <;> omega
  · have twice : 2 * k * d + 2 * r = 2 * n := by
      rw [← parts]
      ring
    rw [Nat.odd_iff]
    dsimp only
    split <;> omega
  · have room : d * (q + 1) ≤ d * k := Nat.mul_le_mul_left d above
    have out : 2 * n < 2 * k * d + d := by nlinarith
    dsimp only
    split <;> omega

/-- `n / d` rounded to the nearest integer, a tie up. -/
def halfUp (n d : Nat) : Nat := (2 * n + d) / (2 * d)

theorem lt_halfUp_iff (n k : Nat) {d : Nat} (positive : 0 < d) : k < halfUp n d ↔ (2 * k + 1) * d ≤ 2 * n := by
  have same : (k + 1) * (2 * d) = (2 * k + 1) * d + d := by ring
  rw [halfUp,Nat.lt_iff_add_one_le,Nat.le_div_iff_mul_le (by omega),same]
  omega

theorem halfUp_one (n : Nat) : halfUp n 1 = n := by
  unfold halfUp
  omega

theorem halfUp_le (n : Nat) {d : Nat} (positive : 0 < d) : halfUp n d ≤ n := by
  by_contra above
  rw [not_le,lt_halfUp_iff n n positive] at above
  have wide : 2 * n + 1 ≤ (2 * n + 1) * d := Nat.le_mul_of_pos_right _ positive
  omega

theorem halfUp_scale (n d : Nat) {s : Nat} (positive : 0 < s) : halfUp (s * n) (s * d) = halfUp n d := by
  have top : 2 * (s * n) + s * d = s * (2 * n + d) := by ring
  have bottom : 2 * (s * d) = s * (2 * d) := by ring
  rw [halfUp,halfUp,top,bottom,Nat.mul_div_mul_left _ _ positive]

theorem halfEven_le (n : Nat) {d b : Nat} (positive : 0 < d) (below : n < b * d) : halfEven n d ≤ b := by
  by_contra above
  rw [not_le,lt_halfEven_iff n b positive] at above
  have twice : 2 * b * d = 2 * (b * d) := by ring
  omega

theorem le_halfEven {n d b : Nat} (positive : 0 < d) (above : b * d ≤ n) : b ≤ halfEven n d := by
  cases b with
  | zero => exact Nat.zero_le _
  | succ b =>
    refine (lt_halfEven_iff n b positive).mpr (.inl ?_)
    nlinarith

/-- Ties to the even number and ties up differ on the half-way points above an even number. -/
theorem halfEven_eq_halfUp_iff (n : Nat) {d : Nat} (positive : 0 < d) :
    halfEven n d = halfUp n d ↔ ¬ ∃ m, (2 * m + 1) * d = 2 * n ∧ Even m := by
  have even (m : Nat) : m < halfEven n d ↔ (2 * m + 1) * d < 2 * n ∨ ((2 * m + 1) * d = 2 * n ∧ Odd m) := by
    have same : 2 * m * d + d = (2 * m + 1) * d := by ring
    rw [lt_halfEven_iff n m positive,same]
  constructor
  · rintro same ⟨m,tie,sign⟩
    have up : m < halfUp n d := (lt_halfUp_iff n m positive).mpr tie.le
    rw [← same,even m] at up
    rcases up with below | ⟨-,odd⟩
    · exact below.ne tie
    · exact Nat.not_odd_iff_even.mpr sign odd
  · intro none
    refine eq_of_forall_lt_iff ?_
    intro m
    rw [even m,lt_halfUp_iff n m positive,le_iff_lt_or_eq]
    refine or_congr_right ?_
    constructor
    · exact And.left
    · intro tie
      refine ⟨tie,Nat.not_even_iff_odd.mp ?_⟩
      exact fun sign => none ⟨m,tie,sign⟩

/-- A first rounding to the even number leads a second one up where it reaches a half-way point from below. -/
theorem halfUp_halfEven_iff (n : Nat) {d e : Nat} (positive : 0 < d) (positive' : 0 < e) :
    halfUp (halfEven n d) (2 * e) = halfUp n (d * (2 * e)) ↔
      ¬ ∃ m, 2 * n < (2 * m + 1) * (d * (2 * e)) ∧
        ((2 * m + 1) * (d * (2 * e)) < 2 * n + d ∨ ((2 * m + 1) * (d * (2 * e)) = 2 * n + d ∧ Even e)) := by
  have once (m : Nat) : m < halfUp n (d * (2 * e)) ↔ (2 * m + 1) * (d * (2 * e)) ≤ 2 * n :=
    lt_halfUp_iff n m (by positivity)
  have twice (m : Nat) : m < halfUp (halfEven n d) (2 * e) ↔
      (2 * m + 1) * (d * (2 * e)) < 2 * n + d ∨ ((2 * m + 1) * (d * (2 * e)) = 2 * n + d ∧ Even e) := by
    obtain ⟨j,point⟩ : ∃ j, (2 * m + 1) * e = j + 1 := ⟨(2 * m + 1) * e - 1,by
      have : 0 < (2 * m + 1) * e := by positivity
      omega⟩
    have reached : (2 * m + 1) * (2 * e) ≤ 2 * halfEven n d ↔ j < halfEven n d := by
      rw [show (2 * m + 1) * (2 * e) = 2 * ((2 * m + 1) * e) by ring,point]
      omega
    have place : (2 * m + 1) * (d * (2 * e)) = 2 * j * d + d + d := by
      rw [show (2 * m + 1) * (d * (2 * e)) = 2 * ((2 * m + 1) * e) * d by ring,point]
      ring
    have parity : Odd j ↔ Even e := by
      have odd : Odd (2 * m + 1) := ⟨m,rfl⟩
      have product : Even ((2 * m + 1) * e) ↔ Even e := by
        rw [Nat.even_mul]
        exact or_iff_right (Nat.not_even_iff_odd.mpr odd)
      rw [← product,point,Nat.even_add_one,Nat.not_even_iff_odd]
    rw [lt_halfUp_iff _ m (by positivity),reached,lt_halfEven_iff n j positive,place,parity]
    exact or_congr (by omega) (and_congr_left' (by omega))
  constructor
  · rintro same ⟨m,below,up⟩
    have reached := (twice m).mpr up
    rw [same,once] at reached
    omega
  · intro none
    refine eq_of_forall_lt_iff ?_
    intro m
    rw [twice,once]
    constructor
    · intro up
      by_contra below
      exact none ⟨m,not_le.mp below,up⟩
    · intro le
      exact .inl (by omega)

/-- The nearest integer, a tie to the even one. -/
def nearest (x : ℚ) : Int := (if x < 0 then -1 else 1) * (halfEven |x|.num.natAbs |x|.den : Int)

theorem lt_halfEven_abs (x : ℚ) (k : Nat) :
    k < halfEven |x|.num.natAbs |x|.den ↔ (k : ℚ) + 1 / 2 < |x| ∨ ((k : ℚ) + 1 / 2 = |x| ∧ Odd k) := by
  have positive : (0 : ℚ) < |x|.den := by exact_mod_cast |x|.den_pos
  have whole : (|x|.num.natAbs : ℚ) = |x| * |x|.den := by
    rw [Nat.cast_natAbs,abs_of_nonneg (Rat.num_nonneg.mpr (abs_nonneg x))]
    exact (Rat.mul_den_eq_num |x|).symm
  have below : 2 * k * |x|.den + |x|.den < 2 * |x|.num.natAbs ↔ (k : ℚ) + 1 / 2 < |x| := by
    rw [← @Nat.cast_lt ℚ]
    push_cast
    rw [whole,show (2 : ℚ) * k * |x|.den + |x|.den = ((k : ℚ) + 1 / 2) * (2 * |x|.den) by ring,
      show (2 : ℚ) * (|x| * |x|.den) = |x| * (2 * |x|.den) by ring]
    exact mul_lt_mul_iff_left₀ (by linarith)
  have at_half : 2 * k * |x|.den + |x|.den = 2 * |x|.num.natAbs ↔ (k : ℚ) + 1 / 2 = |x| := by
    rw [← @Nat.cast_inj ℚ]
    push_cast
    rw [whole,show (2 : ℚ) * k * |x|.den + |x|.den = ((k : ℚ) + 1 / 2) * (2 * |x|.den) by ring,
      show (2 : ℚ) * (|x| * |x|.den) = |x| * (2 * |x|.den) by ring]
    exact mul_left_inj' (by linarith)
  rw [lt_halfEven_iff _ _ |x|.den_pos,below,at_half]

theorem lt_nearest_iff (x : ℚ) (k : Int) : k < nearest x ↔ (k : ℚ) + 1 / 2 < x ∨ ((k : ℚ) + 1 / 2 = x ∧ Odd k) := by
  unfold nearest
  by_cases negative : x < 0
  · rw [if_pos negative]
    by_cases sign : k < 0
    · obtain ⟨j,rfl⟩ : ∃ j : Nat, k = -(j : Int) - 1 := ⟨(-k - 1).toNat,by omega⟩
      have other : -(j : Int) - 1 < -1 * (halfEven |x|.num.natAbs |x|.den : Int) ↔
          ¬ j < halfEven |x|.num.natAbs |x|.den := by omega
      have parity : Odd (-(j : Int) - 1) ↔ ¬ Odd j := by
        rw [Int.odd_iff,Nat.odd_iff]
        omega
      rw [other,lt_halfEven_abs,abs_of_neg negative,parity]
      push_cast
      constructor
      · intro out
        rw [not_or,not_and] at out
        rcases (not_lt.mp out.1).lt_or_eq with apart | tie
        · exact .inl (by linarith)
        · exact .inr ⟨by linarith,out.2 tie.symm⟩
      · rintro (apart | ⟨tie,even⟩) (apart' | ⟨tie',odd⟩)
        all_goals first | linarith | exact even odd
    · have above : (0 : ℚ) ≤ k := by exact_mod_cast not_lt.mp sign
      constructor
      · intro inside
        omega
      · rintro (apart | ⟨tie,_⟩) <;> linarith
  · rw [if_neg negative,one_mul]
    by_cases sign : k < 0
    · have below : (k : ℚ) ≤ -1 := by exact_mod_cast Int.le_sub_one_of_lt sign
      exact iff_of_true (by omega) (.inl (by linarith [not_lt.mp negative]))
    · obtain ⟨j,rfl⟩ : ∃ j : Nat, k = j := ⟨k.toNat,by omega⟩
      rw [Nat.cast_lt,lt_halfEven_abs,abs_of_nonneg (not_lt.mp negative),Int.odd_coe_nat]
      push_cast
      rfl

/-- One number is rounded below another iff a half-way point lies between them, each at the point itself counted to
its even side. -/
theorem nearest_lt_nearest_iff (x y : ℚ) : nearest x < nearest y ↔
    ∃ k : Int, (x < (k : ℚ) + 1 / 2 ∨ (x = (k : ℚ) + 1 / 2 ∧ Even k)) ∧
      ((k : ℚ) + 1 / 2 < y ∨ ((k : ℚ) + 1 / 2 = y ∧ Odd k)) := by
  have upto (k : Int) : ¬ k < nearest x ↔ (x < (k : ℚ) + 1 / 2 ∨ (x = (k : ℚ) + 1 / 2 ∧ Even k)) := by
    rw [lt_nearest_iff,not_or,not_and,Int.not_odd_iff_even,not_lt]
    constructor
    · rintro ⟨le,tie⟩
      exact le.lt_or_eq.imp_right (fun same => ⟨same,tie same.symm⟩)
    · rintro (apart | ⟨same,even⟩)
      · exact ⟨apart.le,fun tie => absurd tie.symm apart.ne⟩
      · exact ⟨same.le,fun _ => even⟩
  simp only [← upto,← lt_nearest_iff]
  constructor
  · intro apart
    exact ⟨nearest x,lt_irrefl _,apart⟩
  · rintro ⟨k,above,below⟩
    exact (not_lt.mp above).trans_lt below

end RevPilot.Library
