import Mathlib.Data.Rat.Defs
import Mathlib.Algebra.Order.Field.Rat
import Mathlib.Tactic.NormNum
import Mathlib.Tactic.Ring

/-! Decimal numbers with their sign, coefficient and exponent, so that the text
of a number is a function of it, and the ordering that signals on NaN. -/
namespace RevPilot.Library

inductive Decimal : Type
  | finite (negative : Bool) (coefficient : Nat) (exponent : Int)
  | infinite (negative : Bool)
  | nan
  | snan
  deriving DecidableEq

namespace Decimal

/-- The literal `Decimal("units.hundredths")` of an amount in cents. -/
def ofCents (cents : Nat) : Decimal := .finite false cents (-2)

def finiteValue (negative : Bool) (coefficient : Nat) (exponent : Int) : ℚ :=
  (if negative then -1 else 1) * coefficient * (10 : ℚ) ^ exponent

/-- `a > b`; no answer (the `InvalidOperation` signal) when a side is NaN, quiet or signalling. -/
def gt : Decimal → Decimal → Option Bool
  | .nan, _ => none
  | .snan, _ => none
  | _, .nan => none
  | _, .snan => none
  | .finite n c e, .finite m d f => some (decide (finiteValue m d f < finiteValue n c e))
  | .infinite n, .infinite m => some (!n && m)
  | .infinite n, .finite .. => some (!n)
  | .finite .., .infinite m => some m

/-- What a field `ge=Decimal("0.0")` accepts: a finite number that is not below zero. -/
def nonNegative : Decimal → Bool
  | .finite negative coefficient _ => !negative || coefficient == 0
  | _ => false

/-- `str(d)`: plain notation unless the exponent is positive or far below zero. -/
def toText : Decimal → String
  | .nan => "NaN"
  | .snan => "sNaN"
  | .infinite negative => (if negative then "-" else "") ++ "Infinity"
  | .finite negative coefficient exponent =>
    let digits := (Nat.toDigits 10 coefficient)
    let length : Int := digits.length
    let left := exponent + length
    let dot := if exponent ≤ 0 ∧ -6 < left then left else 1
    let body :=
      if dot ≤ 0 then '0' :: '.' :: (List.replicate (-dot).toNat '0' ++ digits)
      else if length ≤ dot then digits ++ List.replicate (dot - length).toNat '0'
      else digits.take dot.toNat ++ '.' :: digits.drop dot.toNat
    let tail :=
      if left = dot then []
      else 'E' :: ((if 0 ≤ left - dot then ['+'] else []) ++ (left - dot).repr.toList)
    String.ofList ((if negative then ['-'] else []) ++ body ++ tail)

end Decimal
end RevPilot.Library
