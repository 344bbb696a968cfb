import Mathlib.Algebra.BigOperators.Group.List.Basic
import Mathlib.Data.List.Count
import Mathlib.Tactic.Positivity
import Mathlib.Tactic.Ring

/-! A range of integers cut into closed slices of one length, the last one cut short.
Neighbouring slices share an edge, so what lies on an inner edge is counted twice. -/
namespace RevPilot.Library.Slices

def slices (step : Nat) (last : Int) : Nat → Int → List (Int × Int)
  | 0, _ => []
  | fuel + 1, curr =>
    if curr < last then
      let next := min (curr + step) last
      (curr,next) :: slices step last fuel next
    else []

def within (s : Int × Int) (t : Int) : Bool := decide (s.1 ≤ t) && decide (t ≤ s.2)

section counts

theorem countP_within_split {a b c : Int} (left : a ≤ b) (right : b ≤ c) (ts : List Int) :
    ts.countP (within (a,b)) + ts.countP (within (b,c)) =
      ts.countP (within (a,c)) + ts.countP (fun t => decide (t = b)) := by
  induction ts with
  | nil => rfl
  | cons t ts ih =>
    have here : (if within (a,b) t then 1 else 0) + (if within (b,c) t then 1 else 0) =
        (if within (a,c) t then 1 else 0) + (if decide (t = b) then 1 else 0) := by
      simp only [within,Bool.and_eq_true,decide_eq_true_eq]
      split_ifs <;> omega
    simp only [List.countP_cons]
    omega

variable {step : Nat} (positive : 0 < step) {last : Int}
include positive

theorem mem_slices {fuel : Nat} {curr : Int} (enough : last - curr ≤ fuel) (s : Int × Int) :
    s ∈ slices step last fuel curr ↔
      ∃ k : Nat, s.1 = curr + k * step ∧ s.1 < last ∧ s.2 = min (s.1 + step) last := by
  induction fuel generalizing curr with
  | zero =>
    simp only [slices,List.not_mem_nil,false_iff]
    rintro ⟨k,start,inside,_⟩
    have ahead : (0 : Int) ≤ k * step := by positivity
    push_cast at enough
    omega
  | succ fuel ih =>
    by_cases running : curr < last
    · have next : last - min (curr + step) last ≤ fuel := by
        push_cast at enough
        omega
      simp only [slices,if_pos running,List.mem_cons,ih next]
      constructor
      · rintro (rfl | ⟨k,start,inside,finish⟩)
        · exact ⟨0,by simp,running,rfl⟩
        · have short : curr + step < last := by
            have ahead : (0 : Int) ≤ k * step := by positivity
            omega
          refine ⟨k + 1,?_,inside,finish⟩
          rw [min_eq_left short.le] at start
          rw [start]
          push_cast
          ring
      · rintro ⟨k,start,inside,finish⟩
        cases k with
        | zero =>
          refine .inl (Prod.ext ?_ ?_)
          · simpa using start
          · simpa [start] using finish
        | succ k =>
          have moved : s.1 = curr + step + k * step := by
            rw [start]
            push_cast
            ring
          have ahead : (0 : Int) ≤ k * step := by positivity
          have short : min (curr + step) last = curr + step := min_eq_left (by omega)
          exact .inr ⟨k,by rw [short]; exact moved,inside,finish⟩
    · simp only [slices,if_neg running,List.not_mem_nil,false_iff]
      rintro ⟨k,start,inside,_⟩
      have ahead : (0 : Int) ≤ k * step := by positivity
      omega

/-- The slices after the first start at the inner edges. -/
theorem mem_tail_slices {fuel : Nat} {curr : Int} (enough : last - curr ≤ fuel) (s : Int × Int) :
    s ∈ (slices step last fuel curr).tail ↔
      ∃ k : Nat, 1 ≤ k ∧ s.1 = curr + k * step ∧ s.1 < last ∧ s.2 = min (s.1 + step) last := by
  have beyond (k : Nat) : (0 : Int) ≤ k * step := by positivity
  cases fuel with
  | zero =>
    simp only [slices,List.tail_nil,List.not_mem_nil,false_iff]
    rintro ⟨k,_,start,inside,_⟩
    have ahead := beyond k
    push_cast at enough
    omega
  | succ fuel =>
    by_cases running : curr < last
    · have next : last - min (curr + step) last ≤ fuel := by
        push_cast at enough
        omega
      simp only [slices,if_pos running,List.tail_cons,mem_slices positive next]
      constructor
      · rintro ⟨k,start,inside,finish⟩
        have ahead := beyond k
        have short : min (curr + step) last = curr + step := by omega
        refine ⟨k + 1,by omega,?_,inside,finish⟩
        rw [start,short]
        push_cast
        ring
      · rintro ⟨k,late,start,inside,finish⟩
        obtain ⟨k,rfl⟩ := Nat.exists_eq_add_of_le' late
        have ahead := beyond k
        have moved : s.1 = curr + step + k * step := by
          rw [start]
          push_cast
          ring
        have short : min (curr + step) last = curr + step := by omega
        exact ⟨k,by rw [short]; exact moved,inside,finish⟩
    · simp only [slices,if_neg running,List.tail_nil,List.not_mem_nil,false_iff]
      rintro ⟨k,_,start,inside,_⟩
      have ahead := beyond k
      omega

theorem slices_bounds {fuel : Nat} {curr : Int} (enough : last - curr ≤ fuel) {s : Int × Int}
    (member : s ∈ slices step last fuel curr) : curr ≤ s.1 ∧ s.1 ≤ s.2 ∧ s.2 ≤ last := by
  obtain ⟨k,start,inside,finish⟩ := (mem_slices positive enough s).mp member
  have ahead : (0 : Int) ≤ k * step := by positivity
  omega

/-- A range longer than the step has more than one slice. -/
theorem two_slices {fuel : Nat} {curr : Int} (enough : last - curr ≤ fuel) (long : curr + step < last) :
    2 ≤ (slices step last fuel curr).length := by
  obtain ⟨fuel,rfl⟩ : ∃ n, fuel = n + 2 := ⟨fuel - 2,by omega⟩
  have running : curr < last := by omega
  simp only [slices,if_pos running,min_eq_left long.le,if_pos long,List.length_cons]
  omega

/-- The counts in the slices add up to the count in the range and the counts at the inner edges. -/
theorem sum_countP_within (ts : List Int) {fuel : Nat} {curr : Int} (enough : last - curr ≤ fuel)
    (running : curr < last) :
    ((slices step last fuel curr).map (fun s => ts.countP (within s))).sum =
      ts.countP (within (curr,last)) +
        ((slices step last fuel curr).tail.map (fun s => ts.countP (fun t => decide (t = s.1)))).sum := by
  induction fuel generalizing curr with
  | zero =>
    push_cast at enough
    omega
  | succ fuel ih =>
    have next : last - min (curr + step) last ≤ fuel := by
      push_cast at enough
      omega
    simp only [slices,if_pos running,List.map_cons,List.sum_cons,List.tail_cons]
    by_cases short : curr + step < last
    · have later := ih next (by omega)
      have split := countP_within_split (a := curr) (b := curr + step) (c := last) (by omega) short.le ts
      have first : slices step last fuel (min (curr + step) last) =
          (curr + step,min (curr + step + step) last) ::
            (slices step last fuel (min (curr + step) last)).tail := by
        cases fuel with
        | zero =>
          push_cast at next
          omega
        | succ fuel =>
          rw [min_eq_left short.le,slices]
          simp only [if_pos short,List.tail_cons]
      rw [later,min_eq_left short.le] at *
      rw [first,List.map_cons,List.sum_cons,List.tail_cons]
      dsimp only
      omega
    · have whole : min (curr + step) last = last := min_eq_right (by omega)
      have none_left : slices step last fuel last = [] := by
        cases fuel with
        | zero => rfl
        | succ fuel => simp [slices]
      rw [whole,none_left]
      rfl

end counts
end RevPilot.Library.Slices
