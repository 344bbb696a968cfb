import RevPilot.Library.Decimal
import RevPilot.Library.Rounding
import RevPilot.Library.Text

/-! Binary floating-point numbers by value and by text: every comparison of the
models is with a constant, so the value is all that decides it. -/
namespace RevPilot.Library

inductive FloatValue : Type
  | finite (value : ℚ)
  | infinite (negative : Bool)
  | nan
  deriving DecidableEq

namespace FloatValue

/-- `x > limit`; NaN is not above anything. -/
def above (x : FloatValue) (limit : ℚ) : Bool :=
  match x with
  | .finite value => decide (limit < value)
  | .infinite negative => !negative
  | .nan => false

theorem above_mono {x : FloatValue} {low high : ℚ} (order : low ≤ high) (exceeded : x.above high = true) :
    x.above low = true := by
  cases x with
  | finite value =>
    simp only [above,decide_eq_true_eq] at exceeded ⊢
    exact lt_of_le_of_lt order exceeded
  | infinite negative => exact exceeded
  | nan => exact exceeded

end FloatValue

namespace FloatValue

/-- The float nearest to a number: subnormal below the normal doubles, infinite from
halfway past the greatest one. -/
def nearest (x : ℚ) : FloatValue :=
  if (2 : ℚ) ^ 1024 - 2 ^ 970 ≤ |x| then .infinite (decide (x < 0))
  else if |x| < 1 / 2 ^ 1022 then
    let units := |x| * 2 ^ 1074
    .finite ((if x < 0 then -1 else 1) * halfEven units.num.natAbs units.den / 2 ^ 1074)
  else .finite (toDouble x)

/-- `x <= limit`. -/
def atMost (x : FloatValue) (limit : ℚ) : Bool :=
  match x with
  | .finite value => decide (value ≤ limit)
  | .infinite negative => negative
  | .nan => false

/-- `x + y`. -/
def add : FloatValue → FloatValue → FloatValue
  | .nan, _ => .nan
  | _, .nan => .nan
  | .finite x, .finite y => nearest (x + y)
  | .infinite negative, .finite _ => .infinite negative
  | .finite _, .infinite negative => .infinite negative
  | .infinite negative, .infinite other => if negative = other then .infinite negative else .nan

/-- `-x`. -/
def neg : FloatValue → FloatValue
  | .finite value => .finite (-value)
  | .infinite negative => .infinite !negative
  | .nan => .nan

/-- `float(i)`; without a result it is an `OverflowError`. -/
def ofInt? (i : Int) : Option FloatValue :=
  match nearest i with
  | .finite value => some (.finite value)
  | _ => none

/-- `x * 100`. -/
def percent : FloatValue → FloatValue
  | .finite value => nearest (value * 100)
  | x => x

/-- `f"{x:.2f}"` of a float that is not negative. -/
def toFixed2 : FloatValue → String
  | .finite value =>
    let cents := halfEven (value * 100).num.natAbs (value * 100).den
    (cents / 100).repr ++ "." ++ (cents / 10 % 10).repr ++ (cents % 10).repr
  | .infinite _ => "inf"
  | .nan => "nan"

end FloatValue

/-- `float(d)` of a decimal that does not signal. -/
def Decimal.toFloat : Decimal → FloatValue
  | .finite negative coefficient exponent => .nearest (finiteValue negative coefficient exponent)
  | .infinite negative => .infinite negative
  | .nan => .nan
  | .snan => .nan

/-- A float with the text that `str` gives it. -/
structure PyFloat where
  value : FloatValue
  text : String

/-- `bool(x)`. -/
def PyFloat.truthy (x : PyFloat) : Bool := x.value != .finite 0

/-- The decimal and the float are the same number. -/
def Decimal.Same : Decimal → FloatValue → Prop
  | .finite negative coefficient exponent, .finite value => finiteValue negative coefficient exponent = value
  | .infinite negative, .infinite sign => negative = sign
  | .nan, .nan => True
  | _, _ => False

theorem Decimal.gt_ofCents {d : Decimal} {x : FloatValue} (same : d.Same x) (cents : Nat) :
    d.gt (.ofCents cents) = if x = .nan then none else some (x.above (cents / 100)) := by
  have limit : finiteValue false cents (-2) = (cents : ℚ) / 100 := by
    norm_num [finiteValue]
    ring
  cases d with
  | finite negative coefficient exponent =>
    cases x with
    | finite value => simp [ofCents,gt,FloatValue.above,limit,show finiteValue _ _ _ = value from same]
    | infinite sign => exact same.elim
    | nan => exact same.elim
  | infinite negative =>
    cases x with
    | finite value => exact same.elim
    | infinite sign => simp [ofCents,gt,FloatValue.above,show negative = sign from same]
    | nan => exact same.elim
  | nan =>
    cases x with
    | finite value => exact same.elim
    | infinite sign => exact same.elim
    | nan => rfl
  | snan => cases x <;> exact same.elim

end RevPilot.Library

/-! `float(text)`: the number that a text spells, and the double nearest to it. -/
namespace RevPilot.Library.FloatText

/-- The zeros of the decimal digits. -/
def zeros : List Nat :=
  [0x30,0x660,0x6f0,0x7c0,0x966,0x9e6,0xa66,0xae6,0xb66,0xbe6,0xc66,0xce6,0xd66,0xde6,0xe50,0xed0,0xf20,0x1040,0x1090,
    0x17e0,0x1810,0x1946,0x19d0,0x1a80,0x1a90,0x1b50,0x1bb0,0x1c40,0x1c50,0xa620,0xa8d0,0xa900,0xa9d0,0xa9f0,0xaa50,
    0xabf0,0xff10,0x104a0,0x10d30,0x11066,0x110f0,0x11136,0x111d0,0x112f0,0x11450,0x114d0,0x11650,0x116c0,0x11730,
    0x118e0,0x11950,0x11c50,0x11d50,0x11da0,0x11f50,0x16a60,0x16ac0,0x16b50,0x1d7ce,0x1d7d8,0x1d7e2,0x1d7ec,0x1d7f6,
    0x1e140,0x1e2f0,0x1e4f0,0x1e950,0x1fbf0]

/-- The value of a decimal digit of any script. -/
def decimal? (c : Char) : Option Nat :=
  (zeros.find? fun start => decide (start ≤ c.toNat ∧ c.toNat < start + 10)).map (c.toNat - ·)

/-- White space and decimal digits in ASCII, up to the first other character outside it. -/
def toAscii : List Char → List Char
  | [] => []
  | c :: cs =>
    if c.toNat < 128 then c :: toAscii cs
    else if Text.isSpace c then ' ' :: toAscii cs
    else
      match decimal? c with
      | some digit => Char.ofNat (48 + digit) :: toAscii cs
      | none => ['?']

/-- `Py_ISSPACE`. -/
def isBlank (c : Char) : Bool := c = ' ' || (9 ≤ c.toNat && c.toNat ≤ 13)

def trim (cs : List Char) : List Char := ((cs.dropWhile isBlank).reverse.dropWhile isBlank).reverse

/-- The text without its underscores, each of which stands between two digits; `last` is the
character in front. -/
def joined (last : Char) : List Char → Option (List Char)
  | [] => if last = '_' then none else some []
  | c :: cs =>
    if c = '_' then if last.isDigit then joined '_' cs else none
    else if last = '_' && !c.isDigit then none
    else (joined c cs).map (c :: ·)

/-- What a text spells. -/
inductive Numeral : Type
  | number (value : ℚ)
  | infinite (negative : Bool)
  | nan
  deriving DecidableEq

def digits? (ds : List Char) : Option Nat :=
  if ds ≠ [] ∧ ds.all Char.isDigit then some (Nat.ofDigitChars 10 ds 0) else none

def power? : List Char → Option Int
  | [] => some 0
  | e :: cs =>
    if e = 'e' ∨ e = 'E' then
      match cs with
      | '-' :: ds => (digits? ds).map fun n => -(n : Int)
      | '+' :: ds => (digits? ds).map fun n => (n : Int)
      | ds => (digits? ds).map fun n => (n : Int)
    else none

/-- Digits with a point among them, and a power of ten. -/
def decimalNumber? (negative : Bool) (cs : List Char) : Option Numeral :=
  let whole := cs.takeWhile Char.isDigit
  let tail := cs.dropWhile Char.isDigit
  let fraction := if tail.head? = some '.' then tail.tail.takeWhile Char.isDigit else []
  let rest := if tail.head? = some '.' then tail.tail.dropWhile Char.isDigit else tail
  if whole ++ fraction = [] then none
  else (power? rest).map fun power =>
    .number ((if negative then -1 else 1) * (Nat.ofDigitChars 10 (whole ++ fraction) 0 : ℚ) *
      (10 : ℚ) ^ (power - (fraction.length : Int)))

def unsigned? (negative : Bool) (cs : List Char) : Option Numeral :=
  let word := String.ofList (cs.map Char.toLower)
  if word = "inf" ∨ word = "infinity" then some (.infinite negative)
  else if word = "nan" then some .nan
  else decimalNumber? negative cs

def signed? : List Char → Option Numeral
  | '-' :: cs => unsigned? true cs
  | '+' :: cs => unsigned? false cs
  | cs => unsigned? false cs

/-- What `float` reads; no answer is a `ValueError`. -/
def read? (s : String) : Option Numeral :=
  let cs := trim (toAscii s.toList)
  if '_' ∈ cs then (joined (Char.ofNat 0) cs).bind signed? else signed? cs

def Numeral.toFloat : Numeral → FloatValue
  | .number value => .nearest value
  | .infinite negative => .infinite negative
  | .nan => .nan

/-- `float(s)`. -/
def float? (s : String) : Option FloatValue := (read? s).map Numeral.toFloat

example : [" -1_0.5e2\n","+.5","1.","١٢","1__0","_1","1e","NaN","-iNf","0x10","1 0"].map read? =
    [some (.number (-1050)),some (.number (1 / 2)),some (.number 1),some (.number 12),none,none,none,some .nan,
      some (.infinite true),none,none] := by decide +kernel

end RevPilot.Library.FloatText
