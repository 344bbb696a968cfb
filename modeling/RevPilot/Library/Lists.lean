import Mathlib.Data.List.Basic
import Mathlib.Data.List.Forall2
import Mathlib.Data.List.Infix
import Mathlib.Data.List.Nodup

/-! Texts joined by a separator. A last part without the separator can be taken off
again, so a joined key determines its parts from the right. -/
namespace RevPilot.Library.Keys

universe u
variable {A : Type u}

theorem split_last {sep : A} {a b c d : List A} (clearB : sep ∉ b) (clearD : sep ∉ d)
    (same : a ++ sep :: b = c ++ sep :: d) : a = c ∧ b = d := by
  induction a generalizing c with
  | nil =>
    cases c with
    | nil => exact ⟨rfl,by simpa using same⟩
    | cons x c =>
      obtain ⟨_,rest⟩ := List.cons.inj same
      exact absurd (rest ▸ List.mem_append_right c List.mem_cons_self) clearB
  | cons x a ih =>
    cases c with
    | nil =>
      obtain ⟨_,rest⟩ := List.cons.inj same
      exact absurd (rest ▸ List.mem_append_right a List.mem_cons_self) clearD
    | cons y c =>
      obtain ⟨rfl,rest⟩ := List.cons.inj same
      obtain ⟨rfl,rfl⟩ := ih rest
      exact ⟨rfl,rfl⟩

/-- The rule for texts. -/
theorem split_text {sep : Char} {a b c d : String} (clearB : sep ∉ b.toList) (clearD : sep ∉ d.toList)
    (same : a ++ String.singleton sep ++ b = c ++ String.singleton sep ++ d) : a = c ∧ b = d := by
  have chars : a.toList ++ sep :: b.toList = c.toList ++ sep :: d.toList := by
    have lists := congrArg String.toList same
    simpa using lists
  obtain ⟨left,right⟩ := split_last clearB clearD chars
  exact ⟨String.toList_injective left,String.toList_injective right⟩

/-- The digits of a number contain no other character. -/
theorem not_mem_repr {c : Char} (other : c.isDigit = false) (n : Nat) : c ∉ n.repr.toList := by
  intro inside
  rw [Nat.toList_repr] at inside
  have digit := Nat.isDigit_of_mem_toDigits (by decide) (by decide) inside
  simp [other] at digit

end RevPilot.Library.Keys

/-! Lists that are related entry by entry. -/
namespace RevPilot.Library.Pairing

universe u v
variable {A : Type u} {B : Type v} {R : A → B → Prop} {xs : List A} {ys : List B}

theorem exists_right (paired : List.Forall₂ R xs ys) {x : A} (inside : x ∈ xs) : ∃ y ∈ ys, R x y := by
  induction paired with
  | nil => exact absurd inside List.not_mem_nil
  | @cons x' y xs ys head _ ih =>
    obtain rfl | inside := List.mem_cons.mp inside
    · exact ⟨y,List.mem_cons_self,head⟩
    · obtain ⟨y',member,related⟩ := ih inside
      exact ⟨y',List.mem_cons_of_mem y member,related⟩

theorem exists_left (paired : List.Forall₂ R xs ys) {y : B} (inside : y ∈ ys) : ∃ x ∈ xs, R x y :=
  exists_right paired.flip inside

/-- Two lists beside a third one are beside each other. -/
theorem through {C : Type*} {S : B → C → Prop} {Q : A → C → Prop} {zs : List C} (first : List.Forall₂ R xs ys)
    (second : List.Forall₂ S ys zs) (both : ∀ x ∈ xs, ∀ y ∈ ys, ∀ z, R x y → S y z → Q x z) : List.Forall₂ Q xs zs := by
  induction first generalizing zs with
  | nil =>
    cases second
    exact .nil
  | @cons x y xs ys head _ ih =>
    cases second with
    | cons other rest =>
      refine .cons (both x List.mem_cons_self y List.mem_cons_self _ head other) (ih rest ?_)
      intro x inside y inside' z
      exact both x (List.mem_cons_of_mem _ inside) y (List.mem_cons_of_mem _ inside') z

/-- Two lists beside the same one. -/
theorem zip {C : Type*} {Q : A → C → Prop} {zs : List C} (first : List.Forall₂ R xs ys) (second : List.Forall₂ Q xs zs) :
    List.Forall₂ (fun x p => R x p.1 ∧ Q x p.2) xs (ys.zip zs) := by
  induction first generalizing zs with
  | nil =>
    cases second
    exact .nil
  | cons head _ ih =>
    cases second with
    | cons other rest => exact .cons ⟨head,other⟩ (ih rest)

/-- Where every entry has a partner, there is a list of partners. -/
theorem exists_paired (each : ∀ x ∈ xs, ∃ y, R x y) : ∃ ys, List.Forall₂ R xs ys := by
  induction xs with
  | nil => exact ⟨[],.nil⟩
  | cons x xs ih =>
    obtain ⟨⟨y,head⟩,others⟩ := List.forall_mem_cons.mp each
    obtain ⟨ys,rest⟩ := ih others
    exact ⟨y :: ys,.cons head rest⟩

end RevPilot.Library.Pairing

/-! The items of a list up to the first last one, which is kept. -/
namespace RevPilot.Library

variable {A : Type*} (last : A → Bool)

def upTo : List A → List A
  | [] => []
  | item :: items => if last item then [item] else item :: upTo items

section rules

/-- Nothing after a last item counts. -/
theorem upTo_append_ended {items : List A} (ended : ∃ item ∈ upTo last items, last item = true) (more : List A) :
    upTo last (items ++ more) = upTo last items := by
  induction items with
  | nil =>
    obtain ⟨item,member,_⟩ := ended
    cases member
  | cons item items ih =>
    simp only [List.cons_append,upTo]
    by_cases here : last item = true
    · rw [if_pos here,if_pos here]
    · rw [if_neg here,if_neg here,ih]
      obtain ⟨found,member,isLast⟩ := ended
      simp only [upTo,if_neg here,List.mem_cons] at member
      rcases member with rfl | later
      · exact absurd isLast here
      · exact ⟨found,later,isLast⟩

/-- Without a last item everything counts. -/
theorem upTo_append_open {items : List A} (unended : ∀ item ∈ upTo last items, last item = false) (more : List A) :
    upTo last (items ++ more) = upTo last items ++ upTo last more := by
  induction items with
  | nil => rfl
  | cons item items ih =>
    have here : ¬ last item = true := by
      simp only [Bool.not_eq_true]
      apply unended item
      unfold upTo
      split
      · exact List.mem_singleton_self item
      · exact List.mem_cons_self
    simp only [List.cons_append,upTo,if_neg here] at unended ⊢
    rw [ih (fun found member => unended found (List.mem_cons_of_mem item member))]

@[simp] theorem upTo_singleton (item : A) : upTo last [item] = [item] := by
  simp [upTo]

theorem upTo_subset {items : List A} : upTo last items ⊆ items := by
  induction items with
  | nil => exact List.Subset.refl []
  | cons item items ih =>
    intro found member
    unfold upTo at member
    split at member
    · exact List.mem_cons.mpr (.inl (List.mem_singleton.mp member))
    · exact List.mem_cons.mpr ((List.mem_cons.mp member).imp id (fun later => ih later))

theorem upTo_congr {last' : A → Bool} {items : List A} (same : ∀ item ∈ items, last item = last' item) :
    upTo last items = upTo last' items := by
  induction items with
  | nil => rfl
  | cons item items ih =>
    rw [upTo,upTo,same item List.mem_cons_self,ih (fun other member => same other (List.mem_cons_of_mem item member))]

/-- What stands before an item that counts counts too, and is no last one. -/
theorem upTo_before {items : List A} (distinct : items.Nodup) {x y : A} (inside : y ∈ upTo last items)
    (before : [x,y].Sublist items) : x ∈ upTo last items ∧ last x = false := by
  induction items with
  | nil => cases inside
  | cons z items ih =>
    obtain ⟨fresh,others⟩ := List.nodup_cons.mp distinct
    -- the later of two items is not the first of the list
    have later : y ∈ items := by
      rcases List.sublist_cons_iff.mp before with rest | ⟨_,same,rest⟩
      · exact rest.subset (by simp)
      · cases same
        exact List.singleton_sublist.mp rest
    unfold upTo at inside ⊢
    split at inside
    · exact absurd (List.mem_singleton.mp inside ▸ later) fresh
    next passed =>
      rw [if_neg passed]
      rcases List.mem_cons.mp inside with rfl | counted
      · exact absurd later fresh
      · rcases List.sublist_cons_iff.mp before with rest | ⟨_,same,_⟩
        · exact (ih others counted rest).imp_left (List.mem_cons_of_mem z)
        · cases same
          exact ⟨List.mem_cons_self,by simpa using passed⟩

/-- An item that does not count comes after a last one. -/
theorem upTo_after {items : List A} {y : A} (inside : y ∈ items) (outside : y ∉ upTo last items) :
    ∃ x ∈ upTo last items, last x = true ∧ [x,y].Sublist items := by
  induction items with
  | nil => cases inside
  | cons z items ih =>
    unfold upTo at outside ⊢
    split at outside
    next ends =>
      have later : y ∈ items := (List.mem_cons.mp inside).resolve_left fun same => outside (same ▸ List.mem_singleton_self _)
      rw [if_pos ends]
      exact ⟨z,List.mem_singleton_self z,ends,(List.singleton_sublist.mpr later).cons_cons z⟩
    next passes =>
      rw [List.mem_cons,not_or] at outside
      have later : y ∈ items := (List.mem_cons.mp inside).resolve_left outside.1
      obtain ⟨x,counted,ends,before⟩ := ih later outside.2
      rw [if_neg passes]
      exact ⟨x,List.mem_cons_of_mem z counted,ends,before.cons z⟩

end rules
end RevPilot.Library

/-! `find`, `rfind` and slices on the elements of a sequence. -/
namespace RevPilot.Library.Finding

universe u
variable {α : Type u} [DecidableEq α]

/-- The first place at which the needle begins. -/
def find (needle : List α) : List α → Option Nat
  | [] => if needle = [] then some 0 else none
  | x :: xs => if needle <+: x :: xs then some 0 else (find needle xs).map (· + 1)

/-- The first place from `start` on, for a needle that is not empty. -/
def findFrom (needle xs : List α) (start : Nat) : Option Nat := (find needle (xs.drop start)).map (· + start)

/-- The last place of an element. -/
def lastIndex (x : α) : List α → Option Nat
  | [] => none
  | y :: ys =>
    match lastIndex x ys with
    | some i => some (i + 1)
    | none => if y = x then some 0 else none

/-- `xs[start:stop]` for bounds that are not negative. -/
def slice (xs : List α) (start stop : Nat) : List α := (xs.take stop).drop start

omit [DecidableEq α] in
theorem slice_inside (xs : List α) (start stop : Nat) : slice xs start stop <:+: xs :=
  (List.drop_suffix start (xs.take stop)).isInfix.trans (List.take_prefix stop xs).isInfix

/-- What begins at the place found is the needle. -/
theorem slice_find {needle xs : List α} {i : Nat} (found : find needle xs = some i) :
    i + needle.length ≤ xs.length ∧ slice xs i (i + needle.length) = needle := by
  induction xs generalizing i with
  | nil =>
    rw [find] at found
    split at found
    next bare =>
      cases found
      simp [slice,bare]
    next => cases found
  | cons x xs ih =>
    rw [find] at found
    split at found
    next head =>
      cases found
      have cut := List.prefix_iff_eq_take.mp head
      exact ⟨by simpa using head.length_le,by rw [slice,List.drop_zero,Nat.zero_add,← cut]⟩
    next =>
      obtain ⟨j,later,rfl⟩ := Option.map_eq_some_iff.mp found
      obtain ⟨short,cut⟩ := ih later
      refine ⟨by simp only [List.length_cons]; omega,?_⟩
      rw [slice] at cut ⊢
      rw [Nat.add_right_comm,List.take_succ_cons,List.drop_succ_cons,cut]

theorem find_isSome {needle xs : List α} (inside : needle <:+: xs) : ∃ i, find needle xs = some i := by
  induction xs with
  | nil => exact ⟨0,by simp [find,List.infix_nil.mp inside]⟩
  | cons x xs ih =>
    rw [find]
    split
    next => exact ⟨0,rfl⟩
    next apart =>
      obtain head | tail := List.infix_cons_iff.mp inside
      · exact absurd head apart
      · obtain ⟨i,found⟩ := ih tail
        exact ⟨i + 1,by rw [found]; rfl⟩

end RevPilot.Library.Finding

/-! The pairs of a list, every element with each one after it. -/
namespace RevPilot.Library

universe u
variable {α : Type u}

def pairsOf : List α → List (α × α)
  | [] => []
  | x :: xs => xs.map (x,·) ++ pairsOf xs

theorem mem_of_mem_pairsOf {xs : List α} {p : α × α} (inside : p ∈ pairsOf xs) : p.1 ∈ xs ∧ p.2 ∈ xs := by
  induction xs with
  | nil => cases inside
  | cons x xs ih =>
    rcases List.mem_append.mp inside with first | later
    · obtain ⟨y,member,rfl⟩ := List.mem_map.mp first
      exact ⟨List.mem_cons_self,List.mem_cons_of_mem _ member⟩
    · exact ⟨List.mem_cons_of_mem _ (ih later).1,List.mem_cons_of_mem _ (ih later).2⟩

/-- Two different elements are a pair, in one order or the other. -/
theorem pairsOf_of_ne {xs : List α} {x y : α} (first : x ∈ xs) (second : y ∈ xs) (apart : x ≠ y) :
    (x,y) ∈ pairsOf xs ∨ (y,x) ∈ pairsOf xs := by
  induction xs with
  | nil => cases first
  | cons z xs ih =>
    rw [pairsOf,List.mem_append,List.mem_append,List.mem_map,List.mem_map]
    rcases List.mem_cons.mp first with rfl | before
    · rcases List.mem_cons.mp second with rfl | after
      · exact absurd rfl apart
      · exact .inl (.inl ⟨y,after,rfl⟩)
    · rcases List.mem_cons.mp second with rfl | after
      · exact .inr (.inl ⟨x,before,rfl⟩)
      · exact (ih before after).imp .inr .inr

end RevPilot.Library

/-! The integers from one bound up to, but not including, another. -/
namespace RevPilot.Library

/-- `range(start, stop)`. -/
def pyRange (start stop : Int) : List Int := (List.range (stop - start).toNat).map (fun (k : Nat) => start + k)

variable {start stop n : Int}

theorem mem_pyRange : n ∈ pyRange start stop ↔ start ≤ n ∧ n < stop := by
  simp only [pyRange,List.mem_map,List.mem_range]
  constructor
  · rintro ⟨k,inside,rfl⟩
    omega
  · intro ⟨low,high⟩
    exact ⟨(n - start).toNat,by omega,by omega⟩

theorem pyRange_increasing (start stop : Int) : (pyRange start stop).Pairwise (· < ·) := by
  rw [pyRange,List.pairwise_map]
  exact List.pairwise_lt_range.imp (fun less => by omega)

theorem pyRange_succ (le : start ≤ stop) : pyRange start (stop + 1) = pyRange start stop ++ [stop] := by
  have size : (stop + 1 - start).toNat = (stop - start).toNat + 1 := by omega
  have last : start + ((stop - start).toNat : Int) = stop := by omega
  rw [pyRange,pyRange,size,List.range_succ,List.map_append,List.map_singleton,last]

section tables
variable {K : Type} [DecidableEq K]

/-- A hash with given values on some keys and `other` on the rest. -/
def tabled (other : K → String) (table : List (K × String)) (key : K) : String := (table.lookup key).getD (other key)

theorem tabled_cases (other : K → String) (table : List (K × String)) (key : K) :
    (key,tabled other table key) ∈ table ∨ tabled other table key = other key := by
  unfold tabled
  cases found : table.lookup key with
  | none => exact .inr rfl
  | some value =>
    obtain ⟨before,after,rfl,_⟩ := List.lookup_eq_some_iff.mp found
    exact .inl (by simp)

theorem tabled_injective {other : K → String} {table : List (K × String)}
    (injective : Function.Injective other) (distinct : (table.map Prod.snd).Nodup)
    (apart : ∀ entry ∈ table, ∀ key, other key ≠ entry.2) : Function.Injective (tabled other table) := by
  intro a b same
  rcases tabled_cases other table a with foundA | otherA <;> rcases tabled_cases other table b with foundB | otherB
  · rw [same] at foundA
    exact congrArg Prod.fst (List.inj_on_of_nodup_map distinct foundA foundB rfl)
  · exact absurd (same.trans otherB).symm (apart _ foundA b)
  · exact absurd (same.symm.trans otherA).symm (apart _ foundB a)
  · exact injective (otherA.symm.trans (same.trans otherB))

end tables
end RevPilot.Library
