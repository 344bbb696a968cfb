import RevPilot.Library.Decimal
import RevPilot.Library.Rounding
import Mathlib.Tactic.FieldSimp
import Mathlib.Tactic.Linarith

/-! Sums and comparisons of decimal numbers in the default context: 28 digits,
rounding half to even, with traps for invalid operations and overflow. A sum
whose exact coefficient fits the precision is exact. -/
namespace RevPilot.Library

namespace Decimal

/-- The trapped signals of the default context. -/
inductive Signal : Type
  | invalidOperation | overflow
  deriving DecidableEq

def precision : Nat := 28

/-- The exponents of the smallest subnormal and of the largest coefficient. -/
def etiny : Int := -1000026

def etop : Int := 999972

def digits (n : Nat) : Nat := (Nat.toDigits 10 n).length

/-- `_fix`: rounds a coefficient to the precision of the context. -/
def fix (negative : Bool) (coefficient : Nat) (exponent : Int) : Except Signal Decimal :=
  if coefficient = 0 then .ok (.finite negative 0 (min (max exponent etiny) 999999))
  else
    let least := digits coefficient + exponent - precision
    if etop < least then .error .overflow
    else
      let least := max least etiny
      if exponent < least then
        let rounded := halfEven coefficient (10 ^ (least - exponent).toNat)
        -- a carry into one digit more moves the exponent
        let carried := precision < digits rounded
        let exponent := if carried then least + 1 else least
        if etop < exponent then .error .overflow
        else .ok (.finite negative (if carried then rounded / 10 else rounded) exponent)
      else .ok (.finite negative coefficient exponent)

/-- A coefficient with its sign, moved to a lower exponent. -/
def signedAt (low : Int) (negative : Bool) (coefficient : Nat) (exponent : Int) : Int :=
  (if negative then -1 else 1) * (coefficient * 10 ^ (exponent - low).toNat : Nat)

/-- `a + b`. -/
def add : Decimal → Decimal → Except Signal Decimal
  | .snan, _ => .error .invalidOperation
  | _, .snan => .error .invalidOperation
  | .nan, _ => .ok .nan
  | _, .nan => .ok .nan
  | .infinite n, .infinite m => if n = m then .ok (.infinite n) else .error .invalidOperation
  | .infinite n, .finite .. => .ok (.infinite n)
  | .finite .., .infinite m => .ok (.infinite m)
  | .finite n c e, .finite m d f =>
    let low := min e f
    let sum := signedAt low n c e + signedAt low m d f
    fix (if sum = 0 then n && m else decide (sum < 0)) sum.natAbs low

def neg : Decimal → Decimal
  | .finite negative c e => .finite (!negative) c e
  | .infinite negative => .infinite (!negative)
  | .nan => .nan
  | .snan => .snan

/-- `a - b`. -/
def sub (a b : Decimal) : Except Signal Decimal := a.add b.neg

/-- `abs(d)` of what an operation returned. -/
def abs : Decimal → Decimal
  | .finite _ c e => .finite false c e
  | .infinite _ => .infinite false
  | .nan => .nan
  | .snan => .snan

/-- `d == Decimal("0.00")`, quiet on NaN. -/
def isZero : Decimal → Bool
  | .finite _ c _ => c == 0
  | _ => false

/-- Trailing zeros go while the exponent is below its ideal, `room` steps away. -/
def trimZeros : Nat → Nat → Int → Nat × Int
  | 0, c, e => (c,e)
  | room + 1, c, e => if c % 10 = 0 then trimZeros room (c / 10) (e + 1) else (c,e)

/-- `a / b` for a number `b` other than zero: one digit more than the precision,
made sticky for the rounding, or the exact quotient near its ideal exponent. -/
def div : Decimal → Decimal → Except Signal Decimal
  | .snan, _ => .error .invalidOperation
  | _, .snan => .error .invalidOperation
  | .nan, _ => .ok .nan
  | _, .nan => .ok .nan
  | .infinite _, .infinite _ => .error .invalidOperation
  | .infinite n, .finite m _ _ => .ok (.infinite (n != m))
  | .finite n _ _, .infinite m => .ok (.finite (n != m) 0 etiny)
  | .finite n c e, .finite m d f =>
    if d = 0 then .error .invalidOperation
    else if c = 0 then fix (n != m) 0 (e - f)
    else
      let shift : Int := (digits d : Int) - digits c + precision + 1
      let dividend := if 0 ≤ shift then c * 10 ^ shift.toNat else c
      let divisor := if 0 ≤ shift then d else d * 10 ^ (-shift).toNat
      let quotient := dividend / divisor
      if dividend % divisor ≠ 0 then fix (n != m) (if quotient % 5 = 0 then quotient + 1 else quotient) (e - f - shift)
      else
        let trimmed := trimZeros shift.toNat quotient (e - f - shift)
        fix (n != m) trimmed.1 trimmed.2

/-- `a * b`. -/
def mul : Decimal → Decimal → Except Signal Decimal
  | .snan, _ => .error .invalidOperation
  | _, .snan => .error .invalidOperation
  | .nan, _ => .ok .nan
  | _, .nan => .ok .nan
  | .infinite n, .infinite m => .ok (.infinite (n != m))
  | .infinite n, .finite m d _ => if d = 0 then .error .invalidOperation else .ok (.infinite (n != m))
  | .finite n c _, .infinite m => if c = 0 then .error .invalidOperation else .ok (.infinite (n != m))
  | .finite n c e, .finite m d f => fix (n != m) (c * d) (e + f)

/-- A coefficient moved to another exponent, a tie rounded away from zero. -/
def rescaled (exp : Int) (coefficient : Nat) (exponent : Int) : Nat :=
  if exp ≤ exponent then coefficient * 10 ^ (exponent - exp).toNat
  else halfUp coefficient (10 ^ (exp - exponent).toNat)

/-- `d.quantize(q, rounding=ROUND_HALF_UP)` for a number `q` with the exponent `exp`. -/
def quantizeHalfUp (exp : Int) : Decimal → Except Signal Decimal
  | .snan => .error .invalidOperation
  | .nan => .ok .nan
  | .infinite _ => .error .invalidOperation
  | .finite n c e =>
    if c = 0 then .ok (.finite n 0 exp)
    else if 999999 < (digits c : Int) + e - 1 ∨ precision < digits c + e - exp then .error .invalidOperation
    else if precision < digits (rescaled exp c e) then .error .invalidOperation
    else .ok (.finite n (rescaled exp c e) exp)

/-- `format(d, ".2f")`. -/
def toFixed2 : Decimal → String
  | .nan => "NaN"
  | .snan => "sNaN"
  | .infinite negative => (if negative then "-" else "") ++ "Infinity"
  | .finite negative coefficient exponent =>
    let cents :=
      if -2 ≤ exponent then coefficient * 10 ^ (exponent + 2).toNat
      else halfEven coefficient (10 ^ (-2 - exponent).toNat)
    (if negative then "-" else "") ++ (cents / 100).repr ++ "." ++ (cents / 10 % 10).repr ++ (cents % 10).repr

/-- `a < b`. -/
def lt (a b : Decimal) : Except Signal Bool :=
  match b.gt a with
  | some answer => .ok answer
  | none => .error .invalidOperation

/-- `min(a, b)`, which keeps the first argument unless the second is smaller. -/
def least (a b : Decimal) : Except Signal Decimal :=
  match b.lt a with
  | .ok smaller => .ok (if smaller then b else a)
  | .error signal => .error signal

/-- The number, if it is one. -/
def value : Decimal → Option ℚ
  | .finite negative c e => some (finiteValue negative c e)
  | _ => none

@[simp] theorem ofCents_zero_value : (ofCents 0).value = some 0 := by
  simp [ofCents,value,finiteValue]

theorem finite_of_value {x : Decimal} {a : ℚ} (number : x.value = some a) :
    ∃ n c e, x = .finite n c e ∧ finiteValue n c e = a := by
  cases x with
  | finite n c e => exact ⟨n,c,e,rfl,Option.some.inj number⟩
  | infinite n => cases number
  | nan => cases number
  | snan => cases number

@[simp] theorem neg_value (x : Decimal) : x.neg.value = x.value.map (fun a => -a) := by
  cases x with
  | finite n c e => cases n <;> simp [neg,value,finiteValue]
  | infinite n => rfl
  | nan => rfl
  | snan => rfl

theorem lt_value {x y : Decimal} {a b : ℚ} (left : x.value = some a) (right : y.value = some b) :
    x.lt y = .ok (decide (a < b)) := by
  obtain ⟨n,c,e,rfl,rfl⟩ := finite_of_value left
  obtain ⟨m,d,f,rfl,rfl⟩ := finite_of_value right
  rfl

theorem nonNegative_value {x : Decimal} (accepted : x.nonNegative = true) : ∃ a, x.value = some a ∧ 0 ≤ a := by
  cases x with
  | finite n c e =>
    refine ⟨_,rfl,?_⟩
    cases n with
    | false =>
      have scale : (0 : ℚ) ≤ 10 ^ e := zpow_nonneg (by norm_num) e
      simp only [finiteValue,Bool.false_eq_true,if_false,one_mul]
      exact mul_nonneg (Nat.cast_nonneg c) scale
    | true =>
      have zero : c = 0 := by simpa [nonNegative] using accepted
      simp [finiteValue,zero]
  | infinite n => cases accepted
  | nan => cases accepted
  | snan => cases accepted

/-- `low ≤ x`, which positive infinity meets. -/
def AtLeast (low : ℚ) : Decimal → Prop
  | .finite negative c e => low ≤ finiteValue negative c e
  | .infinite negative => negative = false
  | _ => False

instance (low : ℚ) : (x : Decimal) → Decidable (AtLeast low x)
  | .finite negative c e => inferInstanceAs (Decidable (low ≤ finiteValue negative c e))
  | .infinite negative => inferInstanceAs (Decidable (negative = false))
  | .nan => inferInstanceAs (Decidable False)
  | .snan => inferInstanceAs (Decidable False)

theorem atLeast_iff {low a : ℚ} {x : Decimal} (number : x.value = some a) : AtLeast low x ↔ low ≤ a := by
  obtain ⟨n,c,e,rfl,rfl⟩ := finite_of_value number
  rfl

theorem least_value {x y z : Decimal} {a b : ℚ} (left : x.value = some a) (right : y.value = some b)
    (ok : x.least y = .ok z) : z.value = some (min a b) := by
  simp only [least,lt_value right left,Except.ok.injEq] at ok
  subst ok
  by_cases below : b < a
  · simp [below,right,min_eq_right below.le]
  · simp [below,left,min_eq_left (not_lt.mp below)]

/-- A number and what is none add up to no number. -/
theorem add_not_number {x y z : Decimal} {a : ℚ} (left : x.value = some a) (right : y.value = none)
    (ok : x.add y = .ok z) : z.value = none := by
  obtain ⟨n,c,e,rfl,_⟩ := finite_of_value left
  cases y with
  | finite m d f => cases right
  | infinite m =>
    cases ok
    rfl
  | nan =>
    cases ok
    rfl
  | snan => cases ok

/-- No rounding happens in `a + b`. -/
def AddsExactly (x y : Decimal) : Prop :=
  match x.value, y.value, x.add y with
  | some a, some b, .ok z => z.value = some (a + b)
  | _, _, _ => True

instance (x y : Decimal) : Decidable (AddsExactly x y) := by
  delta AddsExactly
  exact match x.value, y.value, x.add y with
    | some a, some b, .ok z => inferInstanceAs (Decidable (z.value = some (a + b)))
    | none, _, _ => .isTrue trivial
    | some _, none, _ => .isTrue trivial
    | some _, some _, .error _ => .isTrue trivial

/-- The second number is rounded away in `a + b`. -/
def Absorbs (x y : Decimal) : Prop :=
  match x.value, x.add y with
  | some a, .ok z => z.value = some a
  | _, _ => True

instance (x y : Decimal) : Decidable (Absorbs x y) := by
  delta Absorbs
  exact match x.value, x.add y with
    | some a, .ok z => inferInstanceAs (Decidable (z.value = some a))
    | none, _ => .isTrue trivial
    | some _, .error _ => .isTrue trivial

theorem addsExactly_iff {x y z : Decimal} {a b : ℚ} (left : x.value = some a) (right : y.value = some b)
    (ok : x.add y = .ok z) : AddsExactly x y ↔ z.value = some (a + b) := by
  rw [AddsExactly,left,right,ok]

theorem absorbs_iff {x y z : Decimal} {a : ℚ} (left : x.value = some a) (ok : x.add y = .ok z) :
    Absorbs x y ↔ z.value = some a := by
  rw [Absorbs,left,ok]

theorem add_exact {x y z : Decimal} {a b : ℚ} (exact : AddsExactly x y) (left : x.value = some a)
    (right : y.value = some b) (ok : x.add y = .ok z) : z.value = some (a + b) :=
  (addsExactly_iff left right ok).mp exact

theorem sub_exact {x y z : Decimal} {a b : ℚ} (exact : AddsExactly x y.neg) (left : x.value = some a)
    (right : y.value = some b) (ok : x.sub y = .ok z) : z.value = some (a - b) := by
  have negated : y.neg.value = some (-b) := by simp [right]
  rw [sub_eq_add_neg]
  exact add_exact exact left negated ok

/-- A coefficient that fits the precision is kept. -/
theorem fix_short {n : Bool} {c : Nat} {e : Int} (short : digits c ≤ precision) (low : etiny ≤ e) (high : e ≤ etop) :
    fix n c e = .ok (.finite n c e) := by
  unfold fix etiny etop at *
  by_cases zero : c = 0
  · have kept : min (max e (-1000026)) 999999 = e := by omega
    rw [if_pos zero,kept,zero]
  · have fits : ¬ (999972 : Int) < (digits c : Int) + e - precision := by omega
    have least : ¬ e < max ((digits c : Int) + e - precision) (-1000026) := by omega
    rw [if_neg zero]
    simp only [fits,least,if_false]

theorem digits_le {n k : Nat} (positive : 0 < k) : digits n ≤ k ↔ n < 10 ^ k :=
  Nat.length_toDigits_le_iff (by omega) positive

theorem lt_digits {n k : Nat} (above : 10 ^ k ≤ n) : k < digits n := by
  by_contra short
  have below := (digits_le (Nat.succ_pos k)).mp ((not_lt.mp short).trans (Nat.le_succ k))
  cases k with
  | zero =>
    have positive : 0 < digits n := Nat.length_toDigits_pos
    omega
  | succ k => exact absurd ((digits_le (Nat.succ_pos k)).mp (not_lt.mp short)) (not_lt.mpr above)

theorem lt_pow_digits (n : Nat) : n < 10 ^ digits n := (digits_le Nat.length_toDigits_pos).mp le_rfl

/-- The digits that the precision of the context cuts off. -/
def excess (coefficient : Nat) : Nat := digits coefficient - precision

/-- The rounding to the precision of the context carries a number of `D` more digits than are kept to the other side of
a half-way point, or onto one. -/
def DoublyRounded (coefficient D : Nat) : Prop :=
  0 < excess coefficient ∧
    ((D = excess coefficient ∧ ∃ m, (2 * m + 1) * 10 ^ D = 2 * coefficient ∧ Even m) ∨
    (excess coefficient < D ∧ ∃ m, 2 * coefficient < (2 * m + 1) * 10 ^ D ∧
      ((2 * m + 1) * 10 ^ D < 2 * coefficient + 10 ^ excess coefficient ∨
        ((2 * m + 1) * 10 ^ D = 2 * coefficient + 10 ^ excess coefficient ∧ excess coefficient + 1 < D))))

section quantized
variable {n : Bool} {c k : Nat} {e exp : Int}

/-- A coefficient that loses `k` digits. -/
theorem fix_cut (positive : c ≠ 0) (cut : 0 < k) (place : e + k = max ((digits c : Int) + e - precision) etiny) :
    (∃ r ex, fix n c e = .ok (.finite n r ex) ∧ digits r ≤ precision ∧
      ((ex = e + k ∧ r = halfEven c (10 ^ k)) ∨ (ex = e + k + 1 ∧ 10 * r = halfEven c (10 ^ k) ∧ 10 ^ precision = 10 * r))) ∨
    (etop ≤ e + k ∧ fix n c e = .error .overflow) := by
  have steps : (max ((digits c : Int) + e - precision) etiny - e).toNat = k := by omega
  have moved : e < max ((digits c : Int) + e - precision) etiny := by omega
  have most : halfEven c (10 ^ k) ≤ 10 ^ precision := by
    refine halfEven_le c (by positivity) ?_
    rw [← pow_add]
    exact (lt_pow_digits c).trans_le (Nat.pow_le_pow_right (by decide) (by omega))
  unfold fix
  rw [if_neg positive]
  dsimp only
  by_cases large : etop < (digits c : Int) + e - precision
  · rw [if_pos large]
    exact .inr ⟨by omega,rfl⟩
  · rw [if_neg large,if_pos moved,steps,← place]
    by_cases carried : precision < digits (halfEven c (10 ^ k))
    · have full : halfEven c (10 ^ k) = 10 ^ precision := by
        refine le_antisymm most (not_lt.mp ?_)
        intro small
        exact carried.not_ge ((digits_le (by decide)).mpr small)
      rw [if_pos carried,if_pos carried,full]
      by_cases above : etop < e + k + 1
      · rw [if_pos above]
        exact .inr ⟨by omega,rfl⟩
      · rw [if_neg above]
        exact .inl ⟨_,_,rfl,by decide,.inr ⟨rfl,by decide,by decide⟩⟩
    · rw [if_neg carried,if_neg carried]
      by_cases above : etop < e + k
      · rw [if_pos above]
        exact .inr ⟨by omega,rfl⟩
      · rw [if_neg above]
        exact .inl ⟨_,_,rfl,not_lt.mp carried,.inl ⟨rfl,rfl⟩⟩

theorem digits_mono {a b : Nat} (le : a ≤ b) : digits a ≤ digits b :=
  (digits_le Nat.length_toDigits_pos).mpr (le.trans_lt (lt_pow_digits b))

theorem quantize_finite (n : Bool) (c : Nat) (e exp : Int) : quantizeHalfUp exp (.finite n c e) =
    if c = 0 then .ok (.finite n 0 exp)
    else if 999999 < (digits c : Int) + e - 1 ∨ precision < digits c + e - exp then .error .invalidOperation
    else if precision < digits (rescaled exp c e) then .error .invalidOperation
    else .ok (.finite n (rescaled exp c e) exp) := rfl

theorem rescaled_zero (exp e : Int) : rescaled exp 0 e = 0 := by
  unfold rescaled
  split
  · exact Nat.zero_mul _
  · exact Nat.eq_zero_of_le_zero (halfUp_le 0 (by positivity))

theorem rescaled_low (low : e ≤ exp) : rescaled exp c e = halfUp c (10 ^ (exp - e).toNat) := by
  unfold rescaled
  split
  next least =>
    obtain rfl := Int.le_antisymm low least
    rw [Int.sub_self,Int.toNat_zero,pow_zero,Nat.mul_one,halfUp_one]
  next => rfl

/-- What has no more than the precision, below the exponent, is quantized. -/
theorem quantize_fits (short : digits c ≤ precision) (low : e ≤ exp) (high : exp ≤ 0) :
    quantizeHalfUp exp (.finite n c e) = .ok (.finite n (halfUp c (10 ^ (exp - e).toNat)) exp) := by
  have kept : digits (rescaled exp c e) ≤ precision := by
    rw [rescaled_low low]
    exact (digits_mono (halfUp_le c (by positivity))).trans short
  rw [← rescaled_low low,quantize_finite]
  unfold precision at short kept ⊢
  split
  next zero =>
    subst zero
    rw [rescaled_zero]
  next => rw [if_neg (by omega),if_neg (not_lt.mpr kept)]

theorem quantize_wide (positive : c ≠ 0) (wide : (precision : Int) < digits c + e - exp) :
    quantizeHalfUp exp (.finite n c e) = .error .invalidOperation := by
  rw [quantize_finite,if_neg positive,if_pos (.inr wide)]

/-- What is quantized has the sign and the rounded coefficient. -/
theorem quantize_ok {w : Decimal} (ok : quantizeHalfUp exp (.finite n c e) = .ok w) : w = .finite n (rescaled exp c e) exp := by
  rw [quantize_finite] at ok
  split at ok
  next zero =>
    cases ok
    rw [zero,rescaled_zero]
  next =>
    split at ok
    next => cases ok
    next =>
      split at ok
      next => cases ok
      next => cases ok; rfl

/-- With no digit cut off, the one rounding is that of the quantization. -/
theorem fix_kept (kept : c = 0 ∨ (digits c ≤ precision ∧ etiny ≤ e)) {w : Decimal}
    (ok : (fix n c e).bind (quantizeHalfUp exp) = .ok w) : w = .finite n (rescaled exp c e) exp := by
  by_cases zero : c = 0
  · subst zero
    rw [rescaled_zero]
    cases ok
    rfl
  · obtain ⟨short,low⟩ := kept.resolve_left zero
    unfold fix at ok
    rw [if_neg zero] at ok
    dsimp only at ok
    split at ok
    next => cases ok
    next =>
      rw [if_neg (by omega)] at ok
      exact quantize_ok ok

theorem halfUp_eq_zero {a d : Nat} (below : 2 * a < d) : halfUp a d = 0 := by
  refine Nat.eq_zero_of_not_pos ?_
  rw [lt_halfUp_iff a 0 (by omega)]
  omega

theorem halfEven_excess (small : c < 10 ^ (precision + k)) : halfEven c (10 ^ k) ≤ 10 ^ precision :=
  halfEven_le c (by positivity) (by rwa [← pow_add])

/-- Two roundings in a row are one, but for the numbers that are doubly rounded. -/
theorem doublyRounded_iff {D : Nat} (size : excess c = k) (cut : 0 < k) (deep : k ≤ D) :
    DoublyRounded c D ↔ halfUp (halfEven c (10 ^ k)) (10 ^ (D - k)) ≠ halfUp c (10 ^ D) := by
  rw [DoublyRounded,size,and_iff_right cut]
  rcases deep.eq_or_lt with rfl | further
  · rw [Nat.sub_self,pow_zero,halfUp_one,Ne,halfEven_eq_halfUp_iff c (by positivity),not_not]
    constructor
    · rintro (⟨-,tie⟩ | ⟨less,-⟩)
      · exact tie
      · exact absurd less (lt_irrefl k)
    · exact fun tie => .inl ⟨rfl,tie⟩
  · have parts : 10 ^ (D - k) = 2 * (5 * 10 ^ (D - k - 1)) := by
      obtain ⟨j,rest⟩ : ∃ j, D - k = j + 1 := ⟨D - k - 1,by omega⟩
      rw [rest,Nat.add_sub_cancel,pow_succ]
      ring
    have whole : 10 ^ k * (2 * (5 * 10 ^ (D - k - 1))) = 10 ^ D := by
      rw [← parts,← pow_add,Nat.add_sub_cancel' deep]
    have even : Even (5 * 10 ^ (D - k - 1)) ↔ k + 1 < D := by
      rw [Nat.even_mul,Nat.even_pow]
      have five : ¬ Even 5 := by decide
      have ten : Even 10 := by decide
      rw [or_iff_right five,and_iff_right ten]
      omega
    have two := halfUp_halfEven_iff c (d := 10 ^ k) (e := 5 * 10 ^ (D - k - 1)) (by positivity) (by positivity)
    rw [whole,even] at two
    rw [parts,Ne,two,not_not]
    constructor
    · rintro (⟨rfl,-⟩ | ⟨-,near⟩)
      · exact absurd further (lt_irrefl _)
      · exact near
    · exact fun near => .inr ⟨further,near⟩

/-- A number far below the last digit kept is rounded to zero however often it is rounded. -/
theorem not_doublyRounded {D : Nat} (small : c < 10 ^ (precision + k)) (size : excess c ≤ k) (deep : k + 29 ≤ D) :
    ¬ DoublyRounded c D ∧ halfUp (halfEven c (10 ^ k)) (10 ^ (D - k)) = halfUp c (10 ^ D) := by
  have room : 3 * 10 ^ (precision + k) < 10 ^ D := by
    calc 3 * 10 ^ (precision + k) < 10 * 10 ^ (precision + k) := Nat.mul_lt_mul_of_pos_right (by decide) (by positivity)
      _ = 10 ^ (precision + k + 1) := by rw [pow_succ,Nat.mul_comm]
      _ ≤ 10 ^ D := Nat.pow_le_pow_right (by decide) (by unfold precision; omega)
  have unit : 10 ^ excess c ≤ 10 ^ (precision + k) := Nat.pow_le_pow_right (by decide) (by omega)
  constructor
  · rintro ⟨-,⟨same,-⟩ | ⟨-,m,-,up⟩⟩
    · omega
    · have least : 10 ^ D ≤ (2 * m + 1) * 10 ^ D := Nat.le_mul_of_pos_left _ (by omega)
      omega
  · have rest : 2 * 10 ^ precision < 10 ^ (D - k) := by
      calc 2 * 10 ^ precision < 10 ^ 29 := by decide
        _ ≤ 10 ^ (D - k) := Nat.pow_le_pow_right (by decide) (by omega)
    have first := halfEven_excess small
    rw [halfUp_eq_zero (by omega),halfUp_eq_zero (by omega)]

/-- A coefficient cut above the exponent has too many digits for it. -/
theorem fix_wide (positive : c ≠ 0) (cut : 0 < k) (place : e + k = (digits c : Int) + e - precision) (low : etiny ≤ e + k)
    (shallow : exp < e + k) (w : Decimal) : (fix n c e).bind (quantizeHalfUp exp) ≠ .ok w := by
  have size : digits c = precision + k := by omega
  have least : 10 ^ 27 ≤ halfEven c (10 ^ k) := by
    refine le_halfEven (by positivity) (not_lt.mp ?_)
    intro small
    rw [← pow_add] at small
    have short := (digits_le (by omega)).mpr small
    rw [size] at short
    unfold precision at short
    omega
  have place' : e + k = max ((digits c : Int) + e - precision) etiny := by omega
  rcases fix_cut positive cut place' with ⟨r,ex,fixed,-,shape⟩ | ⟨-,overflow⟩
  · have large : 10 ^ 27 ≤ r := by
      rcases shape with ⟨-,rfl⟩ | ⟨-,-,full⟩
      · exact least
      · unfold precision at full
        omega
    have wide := lt_digits large
    have raised : quantizeHalfUp exp (.finite n r ex) = .error .invalidOperation := by
      refine quantize_wide (by omega) ?_
      unfold precision
      rcases shape with ⟨rfl,-⟩ | ⟨rfl,-⟩ <;> omega
    rw [fixed]
    change quantizeHalfUp exp (.finite n r ex) ≠ .ok w
    rw [raised]
    intro ok
    cases ok
  · rw [overflow]
    intro ok
    cases ok

/-- A carry into one digit more is the same with ties up. -/
theorem carried_at (small : c < 10 ^ (precision + k)) (carried : halfEven c (10 ^ k) = 10 ^ precision) :
    halfEven c (10 ^ k) = halfUp c (10 ^ k) := by
  refine (halfEven_eq_halfUp_iff c (by positivity)).mpr ?_
  rintro ⟨m,tie,even⟩
  have below : m < halfEven c (10 ^ k) := by
    rw [carried]
    by_contra above
    have more := Nat.mul_le_mul_right (10 ^ k) (not_lt.mp above)
    rw [← pow_add] at more
    have unit : 0 < 10 ^ k := by positivity
    linarith
  have parts : 2 * m * 10 ^ k + 10 ^ k = (2 * m + 1) * 10 ^ k := by ring
  rw [lt_halfEven_iff c m (by positivity),parts] at below
  rcases below with less | ⟨-,odd⟩
  · exact less.ne tie
  · exact Nat.not_odd_iff_even.mpr even odd

/-- The quantization of a result that was rounded to the precision is the exact one, if it is not doubly rounded. -/
theorem fix_quantize_iff (low : etiny + 29 ≤ exp) (high : exp ≤ 0) :
    (∀ w, (fix n c e).bind (quantizeHalfUp exp) = .ok w → w = .finite n (rescaled exp c e) exp) ↔
      ¬ DoublyRounded c (exp - e).toNat := by
  by_cases kept : c = 0 ∨ (digits c ≤ precision ∧ etiny ≤ e)
  · refine iff_of_true (fun w ok => fix_kept kept ok) ?_
    rintro ⟨cut,-⟩
    rcases kept with rfl | ⟨short,-⟩
    · exact absurd cut (by decide)
    · unfold excess at cut
      omega
  · obtain ⟨positive,lost⟩ := not_or.mp kept
    obtain ⟨k,cut,place⟩ : ∃ k : Nat, 0 < k ∧ e + k = max ((digits c : Int) + e - precision) etiny :=
      ⟨(max ((digits c : Int) + e - precision) etiny - e).toNat,by omega,by omega⟩
    have small : c < 10 ^ (precision + k) :=
      (lt_pow_digits c).trans_le (Nat.pow_le_pow_right (by decide) (by omega))
    have size : excess c ≤ k := by
      unfold excess
      omega
    by_cases deep : e + k ≤ exp
    · have verdict : halfUp (halfEven c (10 ^ k)) (10 ^ ((exp - e).toNat - k)) = halfUp c (10 ^ (exp - e).toNat) ↔
          ¬ DoublyRounded c (exp - e).toNat := by
        rcases size.eq_or_lt with same | less
        · rw [doublyRounded_iff same cut (by omega),not_not]
        · obtain ⟨single,zero⟩ := not_doublyRounded (D := (exp - e).toNat) small size (by unfold excess at less; omega)
          exact iff_of_true zero single
      rcases fix_cut positive cut place with ⟨r,ex,fixed,short,shape⟩ | ⟨far,-⟩
      · rw [fixed,rescaled_low (by omega)]
        change (∀ w, quantizeHalfUp exp (.finite n r ex) = .ok w → _) ↔ _
        by_cases fits : ex ≤ exp
        · have value : halfUp r (10 ^ (exp - ex).toNat) = halfUp (halfEven c (10 ^ k)) (10 ^ ((exp - e).toNat - k)) := by
            rcases shape with ⟨rfl,rfl⟩ | ⟨rfl,ten,-⟩
            · rw [show (exp - (e + k)).toNat = (exp - e).toNat - k by omega]
            · rw [← ten,show (exp - e).toNat - k = (exp - (e + k + 1)).toNat + 1 by omega,pow_succ,Nat.mul_comm (10 ^ _) 10,
                halfUp_scale _ _ (by decide)]
          rw [quantize_fits short fits high,← verdict,← value]
          constructor
          · intro each
            exact (Decimal.finite.inj (each _ rfl)).2.1
          · intro same w ok
            cases ok
            rw [same]
        · rcases shape with ⟨rfl,-⟩ | ⟨rfl,ten,full⟩
          · exact absurd deep fits
          · have large : 10 ^ 27 ≤ r := by
              unfold precision at full
              omega
            have wide := lt_digits large
            have raised : quantizeHalfUp exp (.finite n r (e + k + 1)) = .error .invalidOperation := by
              refine quantize_wide (by omega) ?_
              unfold precision
              omega
            refine iff_of_true ?_ (verdict.mp ?_)
            · intro w ok
              cases raised.symm.trans ok
            · rw [show (exp - e).toNat = k by omega,Nat.sub_self,pow_zero,halfUp_one]
              exact carried_at small (ten.symm.trans full.symm)
      · unfold etop at far
        omega
    · have exact : e + k = (digits c : Int) + e - precision := by omega
      refine iff_of_true ?_ ?_
      · intro w ok
        exact absurd ok (fix_wide positive cut exact (by omega) (not_le.mp deep) w)
      · rintro ⟨-,⟨same,-⟩ | ⟨less,-⟩⟩ <;> unfold excess at * <;> omega

theorem fix_finite {z : Decimal} (ok : fix n c e = .ok z) : ∃ r ex, z = .finite n r ex := by
  unfold fix at ok
  dsimp only at ok
  repeat' split at ok
  all_goals cases ok
  all_goals exact ⟨_,_,rfl⟩

theorem finiteValue_inj {r s : Nat} (same : finiteValue n r e = finiteValue n s e) : r = s := by
  have scale : (10 : ℚ) ^ e ≠ 0 := zpow_ne_zero e (by norm_num)
  have sign : (if n then (-1 : ℚ) else 1) ≠ 0 := by cases n <;> norm_num
  exact_mod_cast mul_left_cancel₀ sign (mul_right_cancel₀ scale same)

theorem mul_value (n m : Bool) (c d : Nat) (e f : Int) :
    finiteValue (n != m) (c * d) (e + f) = finiteValue n c e * finiteValue m d f := by
  have scale : (10 : ℚ) ^ (e + f) = 10 ^ e * 10 ^ f := zpow_add₀ (by norm_num) e f
  unfold finiteValue
  rw [scale,Nat.cast_mul]
  cases n <;> cases m <;> simp <;> ring

/-- A number rounded to so many digits behind the point, a tie away from zero. -/
def roundHalfUp (digits : Nat) (x : ℚ) : ℚ := (if x < 0 then -1 else 1) * ⌊|x| * 10 ^ digits + 1 / 2⌋ / 10 ^ digits

theorem magnitude_nonneg (c : Nat) (e : Int) : (0 : ℚ) ≤ c * 10 ^ e :=
  mul_nonneg (Nat.cast_nonneg c) (zpow_nonneg (by norm_num) e)

theorem finiteValue_neg_iff : finiteValue n c e < 0 ↔ n = true ∧ c ≠ 0 := by
  have scale : (0 : ℚ) < 10 ^ e := zpow_pos (by norm_num) e
  cases n with
  | false =>
    rw [finiteValue,if_neg (by decide),one_mul]
    exact iff_of_false (magnitude_nonneg c e).not_gt (by simp)
  | true =>
    rw [finiteValue,if_pos rfl,neg_one_mul,neg_mul,neg_lt_zero,mul_pos_iff_of_pos_right scale,Nat.cast_pos,
      Nat.pos_iff_ne_zero]
    exact (and_iff_right rfl).symm

theorem abs_finiteValue (n : Bool) (c : Nat) (e : Int) : |finiteValue n c e| = c * 10 ^ e := by
  have size := abs_of_nonneg (magnitude_nonneg c e)
  cases n with
  | false => rwa [finiteValue,if_neg (by decide),one_mul]
  | true => rwa [finiteValue,if_pos rfl,neg_one_mul,neg_mul,abs_neg]

/-- Moving a coefficient to the exponent `-digits` is rounding the number to so many digits. -/
theorem rescaled_value (places : Nat) : finiteValue n (rescaled (-places) c e) (-places) = roundHalfUp places (finiteValue n c e) := by
  have whole : ⌊(c : ℚ) * 10 ^ e * 10 ^ places + 1 / 2⌋ = (rescaled (-places) c e : Int) := by
    rw [mul_assoc,← zpow_natCast,← zpow_add₀ (by norm_num)]
    unfold rescaled
    split
    next least =>
      obtain ⟨k,up⟩ : ∃ k : Nat, e + places = k := ⟨(e + places).toNat,by omega⟩
      have half : ⌊(1 / 2 : ℚ)⌋ = 0 := by norm_num
      rw [up,zpow_natCast,show (e - -(places : Int)).toNat = k by omega]
      calc ⌊(c : ℚ) * 10 ^ k + 1 / 2⌋ = ⌊(((c * 10 ^ k : Nat) : Int) : ℚ) + 1 / 2⌋ := by push_cast; rfl
        _ = ((c * 10 ^ k : Nat) : Int) := by rw [Int.floor_intCast_add,half,add_zero]
    next below =>
      obtain ⟨k,down⟩ : ∃ k : Nat, -(places : Int) - e = k := ⟨(-(places : Int) - e).toNat,by omega⟩
      rw [show e + (places : Int) = -(k : Int) by omega,zpow_neg,zpow_natCast,down,Int.toNat_natCast]
      have unit : (10 : ℚ) ^ k ≠ 0 := by positivity
      calc ⌊(c : ℚ) * (10 ^ k)⁻¹ + 1 / 2⌋ = ⌊((2 * c + 10 ^ k : Nat) : ℚ) / ((2 * 10 ^ k : Nat) : ℚ)⌋ := by
            congr 1
            push_cast
            field_simp
        _ = (halfUp c (10 ^ k) : Int) := by rw [Rat.floor_natCast_div_natCast]; rfl
  rw [roundHalfUp,abs_finiteValue,whole]
  by_cases zero : c = 0
  · simp [zero,rescaled_zero,finiteValue]
  · have sign : (if finiteValue n c e < 0 then (-1 : ℚ) else 1) = if n then -1 else 1 := by
      simp [finiteValue_neg_iff,zero]
    rw [sign,finiteValue,zpow_neg,zpow_natCast,Int.cast_natCast]
    rfl

/-- The quantized result is the exact one rounded half up, if it is not doubly rounded. -/
theorem fix_quantize_value_iff (places : Nat) (low : etiny + 29 ≤ -(places : Int)) :
    (∀ w, (fix n c e).bind (quantizeHalfUp (-places)) = .ok w → w.value = some (roundHalfUp places (finiteValue n c e))) ↔
      ¬ DoublyRounded c (-places - e).toNat := by
  rw [← fix_quantize_iff low (by omega)]
  refine forall_congr' (fun w => imp_congr_right ?_)
  intro ok
  rw [← rescaled_value]
  constructor
  · intro same
    cases fixed : fix n c e with
    | error signal =>
      rw [fixed] at ok
      cases ok
    | ok z =>
      obtain ⟨r,ex,rfl⟩ := fix_finite fixed
      rw [fixed] at ok
      have shape := quantize_ok ok
      rw [shape] at same ⊢
      rw [finiteValue_inj (Option.some.inj same)]
  · rintro rfl
    rfl

theorem signedAt_self (n : Bool) (c : Nat) (e : Int) : finiteValue n c e = (signedAt e n c e : ℚ) * 10 ^ e := by
  unfold finiteValue signedAt
  rw [Int.sub_self,Int.toNat_zero,pow_zero,Nat.mul_one]
  cases n <;> simp

/-- An integer as a sign and a coefficient; the sign of zero is free. -/
theorem finiteValue_natAbs (sum : Int) (zero : Bool) (e : Int) :
    finiteValue (if sum = 0 then zero else decide (sum < 0)) sum.natAbs e = sum * 10 ^ e := by
  unfold finiteValue
  rcases lt_trichotomy sum 0 with negative | rfl | positive
  · have size : (sum.natAbs : ℚ) = -sum := by
      rw [Nat.cast_natAbs,abs_of_neg negative,Int.cast_neg]
    rw [if_neg negative.ne,decide_eq_true negative,if_pos rfl,size]
    ring
  · simp
  · have size : (sum.natAbs : ℚ) = sum := by rw [Nat.cast_natAbs,abs_of_pos positive]
    rw [if_neg positive.ne',decide_eq_false positive.not_gt,if_neg (by decide),size,one_mul]

/-- Numbers with so many places are not rounded. -/
theorem roundHalfUp_exact (places : Nat) : roundHalfUp places (finiteValue n c (-places)) = finiteValue n c (-places) := by
  rw [← rescaled_value,rescaled_low le_rfl,Int.sub_self,Int.toNat_zero,pow_zero,halfUp_one]

theorem add_finite (n m : Bool) (c d : Nat) (e f : Int) : (Decimal.finite n c e).add (.finite m d f) =
    fix (if signedAt (min e f) n c e + signedAt (min e f) m d f = 0 then n && m
      else decide (signedAt (min e f) n c e + signedAt (min e f) m d f < 0))
      (signedAt (min e f) n c e + signedAt (min e f) m d f).natAbs (min e f) := rfl

/-- A sum of two numbers with the places of the quantization is exact, if it is returned. -/
theorem add_quantize_value (places : Nat) (low : etiny + 29 ≤ -(places : Int)) {m : Bool} {d : Nat} {w : Decimal}
    (ok : ((Decimal.finite n c (-places)).add (.finite m d (-places))).bind (quantizeHalfUp (-places)) = .ok w) :
    w.value = some (finiteValue n c (-places) + finiteValue m d (-places)) := by
  have sum : finiteValue n c (-places) + finiteValue m d (-places) = finiteValue
      (if signedAt (-places) n c (-places) + signedAt (-places) m d (-places) = 0 then n && m
        else decide (signedAt (-places) n c (-places) + signedAt (-places) m d (-places) < 0))
      (signedAt (-places) n c (-places) + signedAt (-places) m d (-places)).natAbs (-places) := by
    rw [finiteValue_natAbs,signedAt_self n,signedAt_self m]
    push_cast
    ring
  rw [sum,← roundHalfUp_exact]
  refine (fix_quantize_value_iff places low).mpr ?_ w ?_
  · rintro ⟨cut,⟨same,-⟩ | ⟨less,-⟩⟩ <;> omega
  · rwa [add_finite,min_self] at ok

end quantized

/-- Amounts in cents add up in cents. -/
theorem ofCents_add {a b : Nat} (short : a + b < 10 ^ precision) : (ofCents a).add (ofCents b) = .ok (ofCents (a + b)) := by
  have sum : signedAt (-2) false a (-2) + signedAt (-2) false b (-2) = ((a + b : Nat) : Int) := by
    simp [signedAt]
  have sign : (if ((a + b : Nat) : Int) = 0 then false && false else decide (((a + b : Nat) : Int) < 0)) = false := by
    split
    · rfl
    · exact decide_eq_false (Int.natCast_nonneg _).not_gt
  have kept := @fix_short false (a + b) (-2) ((digits_le (by decide)).mpr short) (by decide) (by decide)
  calc (ofCents a).add (ofCents b)
      = fix (if signedAt (-2) false a (-2) + signedAt (-2) false b (-2) = 0 then false && false
          else decide (signedAt (-2) false a (-2) + signedAt (-2) false b (-2) < 0))
          (signedAt (-2) false a (-2) + signedAt (-2) false b (-2)).natAbs (-2) := rfl
    _ = .ok (ofCents (a + b)) := by rw [sum,sign,Int.natAbs_natCast,kept,ofCents]

theorem ofCents_lt (a b : Nat) : (ofCents a).lt (ofCents b) = .ok (decide (a < b)) := by
  rw [lt_value rfl rfl]
  simp [finiteValue]

/-- What a limit lets pass, it lets pass in any smaller amount. -/
theorem within_ofCents {limit : Decimal} {a b : Nat} (less : a ≤ b) (passes : limit.lt (ofCents b) = .ok false) :
    limit.lt (ofCents a) = .ok false := by
  cases limit with
  | finite n c e =>
    rw [lt_value rfl rfl] at passes ⊢
    simp only [Except.ok.injEq,decide_eq_false_iff_not,not_lt] at passes ⊢
    refine le_trans ?_ passes
    have scale : (0 : ℚ) ≤ (10 : ℚ) ^ (-2 : Int) := by positivity
    simp only [finiteValue,Bool.false_eq_true,if_false,one_mul]
    exact mul_le_mul_of_nonneg_right (Nat.cast_le.mpr less) scale
  | infinite n => exact passes
  | nan => exact passes
  | snan => exact passes

end Decimal
end RevPilot.Library
