import RevPilot.Library.Decimal
import RevPilot.Library.Json
import RevPilot.Library.Separators

/-! The text of a decimal number and what is read back of it: the sign, the digits in
front of the point and behind it, and the power of ten. -/
namespace RevPilot.Library.Decimal

def signText (negative : Bool) : List Char := if negative then ['-'] else []

def pointText (fraction : List Char) : List Char := if fraction = [] then [] else '.' :: fraction

def powerText (power : Int) : List Char :=
  if power = 0 then [] else 'E' :: ((if 0 ≤ power then ['+'] else []) ++ power.repr.toList)

/-- The digits with a point after the first `dot` of them. -/
def bodyText (digits : List Char) (dot : Int) : List Char :=
  if dot ≤ 0 then '0' :: '.' :: (List.replicate (-dot).toNat '0' ++ digits)
  else if digits.length ≤ dot then digits ++ List.replicate (dot - digits.length).toNat '0'
  else digits.take dot.toNat ++ '.' :: digits.drop dot.toNat

/-- The digits of a number in front of the point and behind it. -/
structure Spelled (coefficient : Nat) (whole fraction : List Char) : Prop where
  digits : ∀ d ∈ whole ++ fraction, d.isDigit = true
  filled : whole ≠ []
  number : Nat.ofDigitChars 10 (whole ++ fraction) 0 = coefficient

theorem bodyText_spelled (coefficient : Nat) {dot : Int} (inside : dot ≤ (Nat.toDigits 10 coefficient).length) :
    ∃ whole fraction, bodyText (Nat.toDigits 10 coefficient) dot = whole ++ pointText fraction ∧
      Spelled coefficient whole fraction ∧ (fraction.length : Int) = (Nat.toDigits 10 coefficient).length - dot := by
  have positive : 0 < (Nat.toDigits 10 coefficient).length := Nat.length_toDigits_pos
  have digits : ∀ d ∈ Nat.toDigits 10 coefficient, d.isDigit = true := fun d member =>
    Nat.isDigit_of_mem_toDigits (by omega) (by omega) member
  have number : Nat.ofDigitChars 10 (Nat.toDigits 10 coefficient) 0 = coefficient := Nat.ofDigitChars_ten_toDigits
  generalize Nat.toDigits 10 coefficient = ds at *
  unfold bodyText
  by_cases small : dot ≤ 0
  · refine ⟨['0'],List.replicate (-dot).toNat '0' ++ ds,?_,⟨?_,by simp,?_⟩,?_⟩
    · have some : List.replicate (-dot).toNat '0' ++ ds ≠ [] := by simp [List.ne_nil_of_length_pos positive]
      rw [if_pos small,pointText,if_neg some]
      rfl
    · intro d member
      simp only [List.mem_append,List.mem_singleton,List.mem_replicate] at member
      rcases member with rfl | ⟨_,rfl⟩ | member
      · rfl
      · rfl
      · exact digits d member
    · rw [Nat.ofDigitChars_append,Nat.ofDigitChars_append,Nat.ofDigitChars_replicate_zero]
      simpa [Nat.ofDigitChars_cons] using number
    · simp only [List.length_append,List.length_replicate]
      omega
  · rw [if_neg small]
    by_cases long : (ds.length : Int) ≤ dot
    · refine ⟨ds,[],?_,⟨by simpa using digits,List.ne_nil_of_length_pos positive,by simpa using number⟩,?_⟩
      · have none : (dot - (ds.length : Int)).toNat = 0 := by omega
        rw [if_pos long,none]
        simp [pointText]
      · simp only [List.length_nil]
        omega
    · refine ⟨ds.take dot.toNat,ds.drop dot.toNat,?_,⟨?_,?_,?_⟩,?_⟩
      · have some : ds.drop dot.toNat ≠ [] := by
          rw [Ne,List.drop_eq_nil_iff]
          omega
        rw [if_neg long,pointText,if_neg some]
      · rw [List.take_append_drop]
        exact digits
      · apply List.ne_nil_of_length_pos
        rw [List.length_take]
        omega
      · rw [List.take_append_drop]
        exact number
      · rw [List.length_drop]
        omega

theorem toText_finite (negative : Bool) (coefficient : Nat) (exponent : Int) :
    ∃ whole fraction, Spelled coefficient whole fraction ∧
      (toText (.finite negative coefficient exponent)).toList =
        signText negative ++ (whole ++ (pointText fraction ++ powerText (exponent + fraction.length))) := by
  have positive : 0 < (Nat.toDigits 10 coefficient).length := Nat.length_toDigits_pos
  generalize chosen : (if exponent ≤ 0 ∧ -6 < exponent + ((Nat.toDigits 10 coefficient).length : Int) then
    exponent + ((Nat.toDigits 10 coefficient).length : Int) else 1) = dot
  have inside : dot ≤ (Nat.toDigits 10 coefficient).length := by
    rw [← chosen]
    split <;> omega
  obtain ⟨whole,fraction,body,spelled,places⟩ := bodyText_spelled coefficient inside
  refine ⟨whole,fraction,spelled,?_⟩
  have power : exponent + (fraction.length : Int) = exponent + ((Nat.toDigits 10 coefficient).length : Int) - dot := by
    omega
  rw [power,← List.append_assoc whole,← body]
  simp only [toText,String.toList_ofList,chosen]
  simp only [signText,bodyText,powerText,sub_eq_zero,List.append_assoc]

/-! The parts are found again in the text. -/

theorem powerText_head (power : Int) : ∀ a ∈ (powerText power).head?, a = 'E' := by
  unfold powerText
  split <;> simp

theorem powerText_injective : Function.Injective powerText := by
  intro p q same
  have sign {p q : Int} (same : powerText p = powerText q) : 0 < p → 0 ≤ q := by
    intro positive
    by_contra negative
    obtain ⟨n,rfl⟩ := Int.eq_negSucc_of_lt_zero (not_le.mp negative)
    simp [powerText,positive.ne',positive.le,Int.repr] at same
  have zero {p q : Int} (same : powerText p = powerText q) : p = 0 → q = 0 := by
    rintro rfl
    by_contra other
    simp [powerText,other] at same
  by_cases none : p = 0
  · rw [none,zero same none]
  · have other : q ≠ 0 := fun zero' => none (zero same.symm zero')
    have signs : 0 ≤ p ↔ 0 ≤ q := by
      constructor
      · intro le
        exact sign same (lt_of_le_of_ne le (Ne.symm none))
      · intro le
        exact sign same.symm (lt_of_le_of_ne le (Ne.symm other))
    simp only [powerText,none,other,signs,if_false,List.cons.injEq,true_and,List.append_cancel_left_eq] at same
    exact Int.repr_injective (String.toList_injective same)

theorem pointText_stop (fraction : List Char) (power : Int) :
    ∀ a ∈ (pointText fraction ++ powerText power).head?, a.isDigit = false := by
  unfold pointText
  split
  · intro a head
    rw [powerText_head power a (by simpa using head)]
    rfl
  · intro a head
    obtain rfl : '.' = a := by simpa using head
    rfl

theorem parts_unique {w w' f f' : List Char} {p p' : Int} (digits : ∀ d ∈ w ++ f, d.isDigit = true)
    (digits' : ∀ d ∈ w' ++ f', d.isDigit = true)
    (same : w ++ (pointText f ++ powerText p) = w' ++ (pointText f' ++ powerText p')) : w = w' ∧ f = f' ∧ p = p' := by
  obtain ⟨wholes,fractions⟩ := List.forall_mem_append.mp digits
  obtain ⟨wholes',fractions'⟩ := List.forall_mem_append.mp digits'
  obtain ⟨rfl,rest⟩ := Separators.run_unique wholes wholes' (pointText_stop f p) (pointText_stop f' p') same
  have stop (power : Int) : ∀ a ∈ (powerText power).head?, a.isDigit = false := by
    intro a head
    rw [powerText_head power a head]
    rfl
  have bare {f : List Char} {p p' : Int} (same : powerText p = pointText f ++ powerText p') : f = [] := by
    by_contra some
    have head := powerText_head p
    rw [same,pointText,if_neg some] at head
    exact absurd (head '.' rfl) (by decide)
  by_cases none : f = []
  · subst none
    obtain rfl := bare rest
    exact ⟨rfl,rfl,powerText_injective rest⟩
  · have some : f' ≠ [] := by
      rintro rfl
      exact none (bare rest.symm)
    rw [pointText,if_neg none,pointText,if_neg some] at rest
    obtain ⟨rfl,powers⟩ := Separators.run_unique fractions fractions' (stop p) (stop p') (List.cons.inj rest).2
    exact ⟨rfl,rfl,powerText_injective powers⟩

theorem signed_unique {n n' : Bool} {a b : Char} {r s : List Char} (digit : a.isDigit = true) (digit' : b.isDigit = true)
    (same : signText n ++ a :: r = signText n' ++ b :: s) : n = n' ∧ a :: r = b :: s := by
  cases n with
  | false =>
    cases n' with
    | false => exact ⟨rfl,same⟩
    | true =>
      obtain ⟨rfl,_⟩ := List.cons.inj same
      exact absurd digit (by decide)
  | true =>
    cases n' with
    | false =>
      obtain ⟨rfl,_⟩ := List.cons.inj same
      exact absurd digit' (by decide)
    | true => exact ⟨rfl,(List.cons.inj same).2⟩

theorem finite_unique {n n' : Bool} {c c' : Nat} {e e' : Int}
    (same : toText (.finite n c e) = toText (.finite n' c' e')) : Decimal.finite n c e = .finite n' c' e' := by
  obtain ⟨w,f,spelled,text⟩ := toText_finite n c e
  obtain ⟨w',f',spelled',text'⟩ := toText_finite n' c' e'
  have texts := text.symm.trans ((congrArg String.toList same).trans text')
  obtain ⟨a,r,rfl⟩ := List.exists_cons_of_ne_nil spelled.filled
  obtain ⟨b,s,rfl⟩ := List.exists_cons_of_ne_nil spelled'.filled
  obtain ⟨rfl,parts⟩ := signed_unique (spelled.digits a (by simp)) (spelled'.digits b (by simp)) texts
  obtain ⟨whole,rfl,power⟩ := parts_unique spelled.digits spelled'.digits parts
  have number := spelled'.number
  rw [← whole,spelled.number] at number
  obtain rfl := number
  obtain rfl : e = e' := by omega
  rfl

/-- The text of a finite number begins with a digit behind its sign. -/
theorem finite_lead (n : Bool) (c : Nat) (e : Int) :
    ∃ d r, d.isDigit = true ∧ (toText (.finite n c e)).toList = signText n ++ d :: r := by
  obtain ⟨w,f,spelled,text⟩ := toText_finite n c e
  obtain ⟨d,r,rfl⟩ := List.exists_cons_of_ne_nil spelled.filled
  exact ⟨d,_,spelled.digits d (by simp),text⟩

theorem finite_ne {n : Bool} {c : Nat} {e : Int} {x : Decimal} {l : Char} {r : List Char} {m : Bool}
    (other : l.isDigit = false) (text : x.toText.toList = signText m ++ l :: r) (letter : l ≠ '-') :
    toText (.finite n c e) ≠ x.toText := by
  intro same
  obtain ⟨d,r',digit,lead⟩ := finite_lead n c e
  rw [same,text] at lead
  cases m <;> cases n
  all_goals
    simp only [signText,if_true,Bool.false_eq_true,if_false,List.nil_append,List.cons_append,List.cons.injEq,true_and] at lead
  · rw [lead.1,digit] at other
    cases other
  · exact letter lead.1
  · rw [← lead.1] at digit
    exact absurd digit (by decide)
  · rw [lead.1,digit] at other
    cases other

/-- The text of a decimal tells its sign, its digits and its exponent. -/
theorem toText_injective : Function.Injective toText := by
  have infinite {n m : Bool} {c : Nat} {e : Int} : toText (.finite n c e) ≠ toText (.infinite m) :=
    finite_ne (l := 'I') (m := m) rfl (by cases m <;> rfl) (by decide)
  have nan {n : Bool} {c : Nat} {e : Int} : toText (.finite n c e) ≠ toText .nan :=
    finite_ne (l := 'N') (m := false) rfl rfl (by decide)
  have snan {n : Bool} {c : Nat} {e : Int} : toText (.finite n c e) ≠ toText .snan :=
    finite_ne (l := 's') (m := false) rfl rfl (by decide)
  intro x y same
  cases x with
  | finite n c e =>
    cases y with
    | finite n' c' e' => exact finite_unique same
    | infinite m => exact absurd same infinite
    | nan => exact absurd same nan
    | snan => exact absurd same snan
  | infinite m =>
    cases y with
    | finite n c e => exact absurd same.symm infinite
    | infinite m' => cases m <;> cases m' <;> first | rfl | exact absurd same (by decide)
    | nan => cases m <;> exact absurd same (by decide)
    | snan => cases m <;> exact absurd same (by decide)
  | nan =>
    cases y with
    | finite n c e => exact absurd same.symm nan
    | infinite m => cases m <;> exact absurd same (by decide)
    | nan => rfl
    | snan => exact absurd same (by decide)
  | snan =>
    cases y with
    | finite n c e => exact absurd same.symm snan
    | infinite m => cases m <;> exact absurd same (by decide)
    | nan => exact absurd same (by decide)
    | snan => rfl

end RevPilot.Library.Decimal
