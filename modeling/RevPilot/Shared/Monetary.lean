import RevPilot.Canonical.Records
import RevPilot.Library.DecimalArithmetic
import RevPilot.Library.Outcome

/-! `Money`: an amount of one currency with four decimals. -/
namespace RevPilot.Shared
open Library Canonical

inductive MoneyError : Type
  | valueError (text : String)
  | signal (signal : Decimal.Signal)
  deriving DecidableEq

/-- The exponent of `Decimal("0.0001")`. -/
def precisionExponent : Int := -4

/-- What the quantization of an amount returns. -/
def Quantized : Decimal → Prop
  | .finite _ c e => Decimal.digits c ≤ Decimal.precision ∧ e = precisionExponent
  | .nan => True
  | _ => False

theorem quantized_of_ok {amount q : Decimal} (ok : amount.quantizeHalfUp precisionExponent = .ok q) : Quantized q := by
  cases amount with
  | finite n c e =>
    rw [Decimal.quantize_finite] at ok
    split at ok
    next =>
      cases ok
      exact ⟨by decide,rfl⟩
    next =>
      split at ok
      next => cases ok
      next =>
        split at ok
        next => cases ok
        next short =>
          cases ok
          exact ⟨not_lt.mp short,rfl⟩
  | infinite n => cases ok
  | nan =>
    cases ok
    trivial
  | snan => cases ok

structure Money where
  amount : Decimal
  currency : Currency
  quantized : Quantized amount

namespace Money

/-- `Money(amount, currency)` for a decimal. -/
def ofDecimal (amount : Decimal) (currency : Currency) : Except MoneyError Money :=
  match ok : amount.quantizeHalfUp precisionExponent with
  | .error signal => .error (.signal signal)
  | .ok quantized => .ok ⟨quantized,currency,quantized_of_ok ok⟩

def add (a b : Money) : Except MoneyError Money := do
  if a.currency ≠ b.currency then
    throw (.valueError ("Currency mismatch: cannot add " ++ a.currency.value ++ " and " ++ b.currency.value))
  let sum ← (a.amount.add b.amount).mapError .signal
  ofDecimal sum a.currency

def subtract (a b : Money) : Except MoneyError Money := do
  if a.currency ≠ b.currency then
    throw (.valueError ("Currency mismatch: cannot subtract " ++ b.currency.value ++ " from " ++ a.currency.value))
  let difference ← (a.amount.sub b.amount).mapError .signal
  ofDecimal difference a.currency

/-- The factor as a decimal: `Decimal(str(d))` is `d`. -/
def multiply (a : Money) (factor : Decimal) : Except MoneyError Money := do
  let product ← (a.amount.mul factor).mapError .signal
  ofDecimal product a.currency

section results
variable {a b m : Money} {factor : Decimal} {x y f : ℚ} {Q : Decimal → Prop}

theorem ofDecimal_cases (amount : Decimal) (currency : Currency) :
    (∃ m, amount.quantizeHalfUp precisionExponent = .ok m.amount ∧ ofDecimal amount currency = .ok m) ∨
    ∃ signal, amount.quantizeHalfUp precisionExponent = .error signal ∧ ofDecimal amount currency = .error (.signal signal) := by
  unfold ofDecimal
  split
  next signal raised => exact .inr ⟨signal,raised,rfl⟩
  next w ok => exact .inl ⟨⟨w,currency,quantized_of_ok ok⟩,ok,rfl⟩

/-- What holds of each amount that is returned holds of each result that is quantized. -/
theorem returned_iff (result : Except Decimal.Signal Decimal) (currency : Currency) :
    (∀ m, (result.mapError MoneyError.signal >>= fun d => ofDecimal d currency) = .ok m → Q m.amount) ↔
      ∀ w, result.bind (Decimal.quantizeHalfUp precisionExponent) = .ok w → Q w := by
  cases result with
  | error signal => exact iff_of_true (fun m ok => by cases ok) (fun w ok => by cases ok)
  | ok d =>
    change (∀ m, ofDecimal d currency = .ok m → Q m.amount) ↔ ∀ w, d.quantizeHalfUp precisionExponent = .ok w → Q w
    rcases ofDecimal_cases d currency with ⟨m,ok,returned⟩ | ⟨signal,raised,refused⟩
    · rw [ok,returned]
      constructor
      · intro each w same
        cases same
        exact each m rfl
      · intro each m' same
        cases same
        exact each m.amount rfl
    · rw [raised,refused]
      exact iff_of_true (fun m ok => by cases ok) (fun w ok => by cases ok)

/-- The coefficient and the exponent of a number. -/
def coefficient : Decimal → Nat
  | .finite _ c _ => c
  | _ => 0

def exponent : Decimal → Int
  | .finite _ _ e => e
  | _ => 0

/-- The product is the exact one rounded half up, if it is not doubly rounded. -/
theorem multiply_iff (first : a.amount.value = some x) (third : factor.value = some f) :
    (∀ m, a.multiply factor = .ok m → m.amount.value = some (Decimal.roundHalfUp 4 (x * f))) ↔
      ¬ Decimal.DoublyRounded (coefficient a.amount * coefficient factor) (-exponent factor).toNat := by
  obtain ⟨n,c,e,shape,rfl⟩ := Decimal.finite_of_value first
  obtain ⟨m,d,k,rfl,rfl⟩ := Decimal.finite_of_value third
  have four : e = -4 := by
    have quantized := a.quantized
    rw [shape] at quantized
    exact quantized.2
  subst four
  have product := Decimal.fix_quantize_value_iff (n := n != m) (c := c * d) (e := -4 + k) 4 (by decide)
  rw [Decimal.mul_value,show -((4 : Nat) : Int) - (-4 + k) = -k by omega] at product
  unfold multiply
  rw [shape]
  exact (returned_iff (Q := fun w => w.value = some _) _ _).trans product

theorem quantized_finite {amount : Decimal} (quantized : Quantized amount) (number : amount.value = some x) :
    ∃ n c, amount = .finite n c precisionExponent ∧ Decimal.finiteValue n c precisionExponent = x := by
  obtain ⟨n,c,e,rfl,rfl⟩ := Decimal.finite_of_value number
  obtain ⟨-,rfl⟩ := quantized
  exact ⟨n,c,rfl,rfl⟩

theorem add_exact (first : a.amount.value = some x) (second : b.amount.value = some y) (ok : a.add b = .ok m) :
    m.amount.value = some (x + y) := by
  obtain ⟨n,c,left,rfl⟩ := quantized_finite a.quantized first
  obtain ⟨k,d,right,rfl⟩ := quantized_finite b.quantized second
  obtain ⟨-,summed⟩ := Outcome.guard_eq_ok.mp ok
  refine (returned_iff (Q := fun w => w.value = some _) _ _).mpr ?_ m summed
  intro w sum
  rw [left,right] at sum
  exact Decimal.add_quantize_value 4 (by decide) sum

theorem subtract_exact (first : a.amount.value = some x) (second : b.amount.value = some y) (ok : a.subtract b = .ok m) :
    m.amount.value = some (x - y) := by
  obtain ⟨n,c,left,rfl⟩ := quantized_finite a.quantized first
  obtain ⟨k,d,right,rfl⟩ := quantized_finite b.quantized second
  obtain ⟨-,summed⟩ := Outcome.guard_eq_ok.mp ok
  have negated : Decimal.finiteValue (!k) d precisionExponent = -Decimal.finiteValue k d precisionExponent := by
    unfold Decimal.finiteValue
    cases k <;> simp
  refine (returned_iff (Q := fun w => w.value = some _) _ _).mpr ?_ m summed
  intro w difference
  rw [left,right] at difference
  have exact := Decimal.add_quantize_value 4 (by decide) difference
  change w.value = some (_ + Decimal.finiteValue (!k) d precisionExponent) at exact
  rwa [negated,← sub_eq_add_neg] at exact

/-- Sums and differences that are returned are exact; a product is rounded half up once, unless it is doubly rounded. -/
theorem arithmetic_iff (a b : Money) (factor : Decimal) {x y f : ℚ} (first : a.amount.value = some x)
    (second : b.amount.value = some y) (third : factor.value = some f) :
    ((∀ m, a.multiply factor = .ok m → m.amount.value = some (Decimal.roundHalfUp 4 (x * f))) ∧
      (∀ m, a.add b = .ok m → m.amount.value = some (x + y)) ∧
      ∀ m, a.subtract b = .ok m → m.amount.value = some (x - y)) ↔
    ¬ Decimal.DoublyRounded (coefficient a.amount * coefficient factor) (-exponent factor).toNat := by
  rw [multiply_iff first third]
  exact and_iff_left ⟨fun _ => add_exact first second,fun _ => subtract_exact first second⟩

end results

/-- The amount 0.0001. -/
def least : Money := ⟨.finite false 1 (-4),.usd,by decide,rfl⟩

/-- The factor 0.49999999999999999999999999999, with 29 digits. -/
def nearlyHalf : Decimal := .finite false 49999999999999999999999999999 (-29)

/-- Less than half of the last place becomes the last place. -/
theorem least_nearlyHalf : ¬ ∀ m, least.multiply nearlyHalf = .ok m →
    m.amount.value = some (Decimal.roundHalfUp 4 (1 / 10000 * (49999999999999999999999999999 / 10 ^ 29))) := by
  intro rounded
  have returned : ∃ m, least.multiply nearlyHalf = .ok m ∧ m.amount = .finite false 1 (-4) := ⟨_,rfl,rfl⟩
  obtain ⟨m,ok,amount⟩ := returned
  have exact := rounded m ok
  rw [amount] at exact
  exact absurd exact (by decide +kernel)

/-- The amount 2.5000. -/
def fee : Money := ⟨.finite false 25000 (-4),.usd,by decide,rfl⟩

theorem fee_arithmetic :
    ((∀ m, fee.multiply (.finite true 15 (-1)) = .ok m → m.amount.value =
        some (Decimal.roundHalfUp 4 (Decimal.finiteValue false 25000 (-4) * Decimal.finiteValue true 15 (-1)))) ∧
      (∀ m, fee.add least = .ok m → m.amount.value =
        some (Decimal.finiteValue false 25000 (-4) + Decimal.finiteValue false 1 (-4))) ∧
      ∀ m, fee.subtract least = .ok m → m.amount.value =
        some (Decimal.finiteValue false 25000 (-4) - Decimal.finiteValue false 1 (-4))) ↔
    ¬ Decimal.DoublyRounded (25000 * 15) 1 :=
  arithmetic_iff fee least (.finite true 15 (-1)) rfl rfl rfl

end Money
end RevPilot.Shared
