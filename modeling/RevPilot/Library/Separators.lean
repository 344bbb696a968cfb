import Mathlib.Data.List.Infix
import Mathlib.Data.List.Count

/-! Words between separators. A word that contains no separator is found again in a
joined text, and a tag (a word between two separators) lies on one side of every other
separator. -/
namespace RevPilot.Library.Separators

variable {α : Type*} {d : α}

/-- The text before the first separator. -/
theorem head_unique {x x' y y' : List α} (free : d ∉ x) (free' : d ∉ x') (same : x ++ d :: y = x' ++ d :: y') :
    x = x' ∧ y = y' := by
  induction x generalizing x' with
  | nil =>
    cases x' with
    | nil => exact ⟨rfl,(List.cons.inj same).2⟩
    | cons a x' => exact absurd (List.mem_cons.mpr (.inl (List.cons.inj same).1)) free'
  | cons a x ih =>
    cases x' with
    | nil => exact absurd (List.mem_cons.mpr (.inl (List.cons.inj same).1.symm)) free
    | cons a' x' =>
      obtain ⟨rfl,rest⟩ := List.cons.inj same
      obtain ⟨rfl,rfl⟩ := ih (fun inside => free (List.mem_cons_of_mem _ inside))
        (fun inside => free' (List.mem_cons_of_mem _ inside)) rest
      exact ⟨rfl,rfl⟩

/-- A run of one kind ends where another kind begins. -/
theorem run_unique {p : α → Bool} {x x' y y' : List α} (all : ∀ a ∈ x, p a = true) (all' : ∀ a ∈ x', p a = true)
    (stop : ∀ a ∈ y.head?, p a = false) (stop' : ∀ a ∈ y'.head?, p a = false) (same : x ++ y = x' ++ y') :
    x = x' ∧ y = y' := by
  have taken {x y : List α} (all : ∀ a ∈ x, p a = true) (stop : ∀ a ∈ y.head?, p a = false) :
      (x ++ y).takeWhile p = x := by
    rw [List.takeWhile_append_of_pos all]
    cases y with
    | nil => simp
    | cons a y => simp [stop a rfl]
  obtain rfl : x = x' := by rw [← taken all stop,same,taken all' stop']
  exact ⟨rfl,List.append_cancel_left same⟩

/-- The text after the last separator. -/
theorem last_unique {x x' y y' : List α} (free : d ∉ y) (free' : d ∉ y') (same : x ++ d :: y = x' ++ d :: y') :
    x = x' ∧ y = y' := by
  have turned := congrArg List.reverse same
  simp only [List.reverse_append,List.reverse_cons,List.append_assoc,List.singleton_append] at turned
  obtain ⟨tail,head⟩ := head_unique (by simpa using free) (by simpa using free') turned
  exact ⟨List.reverse_injective head,List.reverse_injective tail⟩

/-- The last field of a text is the last one of what follows any of its separators. -/
theorem last_field {x h z f : List α} (free : d ∉ f) (same : x ++ d :: f = h ++ d :: z) :
    (z = f ∧ x = h) ∨ ∃ z', z = z' ++ d :: f ∧ x = h ++ d :: z' := by
  rcases List.append_eq_append_iff.mp same with ⟨c,rfl,rest⟩ | ⟨c,rfl,rest⟩
  · cases c with
    | nil =>
      left
      simpa using (List.cons.inj rest).2.symm
    | cons a c =>
      obtain ⟨rfl,tail⟩ := List.cons.inj rest
      exact absurd (tail ▸ by simp) free
  · cases c with
    | nil =>
      left
      simpa using (List.cons.inj rest).2
    | cons a c =>
      obtain ⟨rfl,tail⟩ := List.cons.inj rest
      exact .inr ⟨c,tail,rfl⟩

/-- What begins at the head of a text and ends with its first separator does not look
past another one. -/
theorem prefix_split {w x y : List α} (free : d ∉ w) : w ++ [d] <+: x ++ d :: y ↔ w ++ [d] <+: x ++ [d] := by
  constructor
  · intro starts
    obtain ⟨z,same⟩ := starts
    rw [List.append_assoc,List.singleton_append] at same
    rcases List.append_eq_append_iff.mp same with ⟨c,rfl,rest⟩ | ⟨c,rfl,rest⟩
    · cases c with
      | nil => simp
      | cons a c =>
        obtain ⟨rfl,_⟩ := List.cons.inj rest
        exact ⟨c ++ [d],by simp⟩
    · cases c with
      | nil => simp
      | cons a c =>
        obtain ⟨rfl,_⟩ := List.cons.inj rest
        exact absurd (by simp) free
  · intro starts
    have longer : x ++ [d] <+: x ++ d :: y := ⟨y,by simp⟩
    exact starts.trans longer

/-- A word with a separator on either side. -/
def tag (d : α) (w : List α) : List α := d :: (w ++ [d])

theorem tag_length (d : α) (w : List α) : (tag d w).length = w.length + 2 := by simp [tag]

/-- A tag in a text lies on one side of every separator of the text. -/
theorem tag_infix_split {w x y : List α} (free : d ∉ w) :
    tag d w <:+: x ++ d :: y ↔ tag d w <:+: x ++ [d] ∨ tag d w <:+: d :: y := by
  constructor
  · intro inside
    induction x with
    | nil => exact .inr inside
    | cons a x ih =>
      rcases List.infix_cons_iff.mp inside with here | later
      · obtain ⟨rfl,starts⟩ := List.cons_prefix_cons.mp here
        left
        apply List.IsPrefix.isInfix
        exact List.cons_prefix_cons.mpr ⟨rfl,(prefix_split free).mp starts⟩
      · rcases ih later with left | right
        · exact .inl (List.infix_cons left)
        · exact .inr right
  · rintro (left | right)
    · have longer : x ++ [d] <+: x ++ d :: y := ⟨y,by simp⟩
      exact left.trans longer.isInfix
    · have later : d :: y <:+ x ++ d :: y := ⟨x,rfl⟩
      exact right.trans later.isInfix

/-- Between two separators there is one word. -/
theorem tag_infix_field {w t : List α} [DecidableEq α] (free : d ∉ t) (inside : tag d w <:+: d :: (t ++ [d])) :
    w = t ∨ d ∈ w := by
  by_cases bare : d ∈ w
  · exact .inr bare
  · left
    rcases List.infix_cons_iff.mp inside with here | later
    · obtain ⟨_,⟨z,same⟩⟩ := List.cons_prefix_cons.mp here
      rw [List.append_assoc] at same
      exact (head_unique bare free same).1
    · have counts := later.sublist.count_le d
      simp [tag,List.count_eq_zero.mpr free] at counts

/-- The text after a tag is determined by the whole exactly when the tag occurs neither
before nor after its own place. -/
theorem tail_unique_iff {w : List α} (free : d ∉ w) (lead tail : List α) :
    (∀ other, tag d w ++ other <:+ lead ++ tag d w ++ tail → other = tail) ↔
      ¬ tag d w <:+: lead ++ [d] ∧ ¬ tag d w <:+: d :: tail := by
  constructor
  · intro unique
    constructor
    · rintro ⟨u,v,same⟩
      have found : tag d w ++ (v ++ (w ++ d :: tail)) <:+ lead ++ tag d w ++ tail := by
        refine ⟨u,?_⟩
        calc u ++ (tag d w ++ (v ++ (w ++ d :: tail))) = (u ++ tag d w ++ v) ++ (w ++ d :: tail) := by
              simp only [List.append_assoc]
          _ = lead ++ tag d w ++ tail := by rw [same]; simp [tag]
      have lengths := congrArg List.length (unique _ found)
      simp only [List.length_append,List.length_cons] at lengths
      omega
    · rintro ⟨u,v,same⟩
      have found : tag d w ++ v <:+ lead ++ tag d w ++ tail := by
        refine ⟨lead ++ d :: w ++ u,?_⟩
        calc lead ++ d :: w ++ u ++ (tag d w ++ v) = lead ++ d :: w ++ (u ++ tag d w ++ v) := by
              simp only [List.append_assoc]
          _ = lead ++ tag d w ++ tail := by rw [same]; simp [tag]
      have lengths := congrArg List.length same
      rw [unique v found] at lengths
      simp only [List.length_append,List.length_cons,tag_length] at lengths
      omega
  · rintro ⟨notBefore,notAfter⟩ other ⟨q,same⟩
    rw [List.append_assoc lead] at same
    rcases List.append_eq_append_iff.mp same with ⟨c,whole,rest⟩ | ⟨c,whole,rest⟩
    · -- the other tag starts earlier
      cases c with
      | nil => exact List.append_cancel_left rest
      | cons a c =>
        obtain ⟨rfl,inner⟩ := List.cons.inj rest
        have starts : w ++ [d] <+: c ++ d :: (w ++ d :: tail) := ⟨other,by simpa [tag] using inner⟩
        have inside : tag d w <:+: lead ++ [d] := by
          rw [whole,List.append_assoc]
          have here : tag d w <+: d :: (c ++ [d]) := List.cons_prefix_cons.mpr ⟨rfl,(prefix_split free).mp starts⟩
          exact here.isInfix.trans (List.suffix_append q _).isInfix
        exact absurd inside notBefore
    · -- the other tag starts later
      cases c with
      | nil => exact (List.append_cancel_left rest).symm
      | cons a c =>
        obtain ⟨rfl,inner⟩ := List.cons.inj rest
        have found : tag d w <:+: w ++ d :: tail := ⟨c,other,by simpa [tag] using inner.symm⟩
        rcases (tag_infix_split free).mp found with left | right
        · have lengths := left.length_le
          simp only [tag_length,List.length_append,List.length_singleton] at lengths
          omega
        · exact absurd right notAfter

/-- Texts without the separator, none of them empty, are found again in their join. -/
theorem joined_unique {c : Char} {xs ys : List String} (free : ∀ s ∈ xs, s ≠ "" ∧ c ∉ s.toList)
    (free' : ∀ s ∈ ys, s ≠ "" ∧ c ∉ s.toList)
    (same : String.intercalate (String.singleton c) xs = String.intercalate (String.singleton c) ys) : xs = ys := by
  have parts := String.toList_split_intercalate fun s inside => (free s inside).2
  have parts' := String.toList_split_intercalate fun s inside => (free' s inside).2
  rw [same,parts'] at parts
  have bare : ∀ {zs : List String}, (∀ s ∈ zs, s ≠ "" ∧ c ∉ s.toList) → zs ≠ [""] := by
    rintro _ solid rfl
    exact (solid "" List.mem_cons_self).1 rfl
  by_cases none : xs = []
  · by_cases none' : ys = []
    · rw [none,none']
    · rw [if_neg none',if_pos none] at parts
      exact absurd parts (bare free')
  · by_cases none' : ys = []
    · rw [if_pos none',if_neg none] at parts
      exact absurd parts.symm (bare free)
    · rw [if_neg none',if_neg none] at parts
      exact parts.symm

end RevPilot.Library.Separators
