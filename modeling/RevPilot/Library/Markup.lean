import RevPilot.Library.Patterns

/-! Patterns for tags: a mark and a run of text without a further mark. Replacing
such a pattern by a text that starts with an escape makes no new tag, whichever
tags the text around it holds. -/
namespace RevPilot.Library.Markup
open RevPilot.Library.Text RevPilot.Library.Patterns

/-- The positions of a text at which a predicate of the rest holds. -/
def occurrences (P : List Char → Bool) : List Char → Nat
  | [] => 0
  | c :: cs => (if P (c :: cs) then 1 else 0) + occurrences P cs

/-- `len(pattern.findall(text))` for a pattern whose matches do not overlap. -/
def matchCount (p : Pattern) (text : String) : Nat :=
  occurrences (fun cs => (matchHead p cs).isSome) text.toList

theorem occurrences_eq_zero (P : List Char → Bool) (none : P [] = false) (cs : List Char) :
    occurrences P cs = 0 ↔ ∀ rest, rest <:+ cs → P rest = false := by
  induction cs with
  | nil => simp [occurrences,none]
  | cons c cs ih =>
    simp only [occurrences,Nat.add_eq_zero_iff,ih,ite_eq_right_iff,Nat.one_ne_zero,imp_false,
      Bool.not_eq_true,List.suffix_cons_iff]
    constructor
    · rintro ⟨head,tail⟩ rest (rfl | inside)
      · exact head
      · exact tail rest inside
    · intro all
      exact ⟨all (c :: cs) (.inl rfl),fun rest inside => all rest (.inr inside)⟩

theorem occurrences_congr {P Q : List Char → Bool} (same : ∀ cs, P cs = Q cs) (cs : List Char) :
    occurrences P cs = occurrences Q cs := by
  rw [funext same]

section Marked
variable (mark escape : Char)

def plain (c : Char) : Bool := c != mark && c != escape

/-- The text up to the next mark or escape. -/
def run (cs : List Char) : List Char := cs.takeWhile (plain mark escape)

/-- A predicate of texts that looks at the mark at their head and the run after it. -/
structure Local (P : List Char → Bool) : Prop where
  empty : P [] = false
  marked : ∀ c cs, c ≠ mark → P (c :: cs) = false
  run : ∀ cs, P (mark :: cs) = P (mark :: run mark escape cs)

/-- A pattern whose matches are a mark and a run. -/
def Tagged (p : Pattern) : Prop :=
  ∀ read, Accepts p read → ∃ body, read = mark :: body ∧ ∀ c ∈ body, plain mark escape c = true

variable {mark escape}

theorem Local.andNot {P Q : List Char → Bool} (first : Local mark escape P) (second : Local mark escape Q) :
    Local mark escape (fun cs => P cs && !Q cs) where
  empty := by simp [first.empty]
  marked c cs other := by simp [first.marked c cs other]
  run cs := by rw [first.run,second.run]

theorem prefix_run {body cs : List Char} (solid : ∀ c ∈ body, plain mark escape c = true) :
    body <+: run mark escape cs ↔ body <+: cs := by
  constructor
  · intro inside
    exact inside.trans (List.takeWhile_prefix _)
  · rintro ⟨rest,rfl⟩
    rw [run,List.takeWhile_append_of_pos solid]
    exact List.prefix_append _ _

theorem Tagged.local {p : Pattern} (tagged : Tagged mark escape p) :
    Local mark escape (fun cs => (matchHead p cs).isSome) where
  empty := by
    rw [Bool.eq_false_iff,Ne,matchHead_isSome]
    rintro ⟨read,inside,accepted⟩
    obtain ⟨body,rfl,-⟩ := tagged read accepted
    simp at inside
  marked c cs other := by
    rw [Bool.eq_false_iff,Ne,matchHead_isSome]
    rintro ⟨read,inside,accepted⟩
    obtain ⟨body,rfl,-⟩ := tagged read accepted
    exact other (List.cons_prefix_cons.mp inside).1.symm
  run cs := by
    rw [Bool.eq_iff_iff,matchHead_isSome,matchHead_isSome]
    apply exists_congr
    intro read
    apply and_congr_left
    intro accepted
    obtain ⟨body,rfl,solid⟩ := tagged read accepted
    simp only [List.cons_prefix_cons,true_and,prefix_run solid]

/-- A text holds no tag iff it has no part that the pattern accepts. -/
theorem Tagged.occurrences {p : Pattern} (tagged : Tagged mark escape p) (text : List Char) :
    occurrences (fun cs => (matchHead p cs).isSome) text = 0 ↔ ¬∃ read, read <:+: text ∧ Accepts p read := by
  rw [occurrences_eq_zero _ tagged.local.empty]
  constructor
  · rintro never ⟨read,inside,accepted⟩
    obtain ⟨rest,head,tail⟩ := List.infix_iff_prefix_suffix.mp inside
    have found := (matchHead_isSome p rest).mpr ⟨read,head,accepted⟩
    rw [never rest tail] at found
    cases found
  · intro never rest tail
    rw [Bool.eq_false_iff,ne_eq,matchHead_isSome]
    rintro ⟨read,head,accepted⟩
    exact never ⟨read,List.infix_iff_prefix_suffix.mpr ⟨rest,head,tail⟩,accepted⟩

/-- A text without a mark has no occurrence at any of its positions. -/
theorem occurrences_append {P : List Char → Bool} (loc : Local mark escape P) {before : List Char}
    (clear : ∀ c ∈ before, c ≠ mark) (after : List Char) :
    occurrences P (before ++ after) = occurrences P after := by
  induction before with
  | nil => rfl
  | cons c before ih =>
    have other := loc.marked c (before ++ after) (clear c List.mem_cons_self)
    have rest := ih (fun d inside => clear d (List.mem_cons_of_mem c inside))
    rw [List.cons_append,occurrences,other,rest]
    simp

variable {p : Pattern} (tagged : Tagged mark escape p) {new : List Char}

include tagged in
/-- Replacements start with the escape, so the run at the head of a text stays. -/
theorem run_substitute (escaped : ∃ tail, new = escape :: tail) (fuel : Nat) (cs : List Char) :
    run mark escape (substitute (matchHead p) new fuel cs) = run mark escape cs := by
  obtain ⟨tail,rfl⟩ := escaped
  have stops : ∀ rest, run mark escape (escape :: rest) = [] := by
    intro rest
    simp [run,plain]
  induction fuel generalizing cs with
  | zero => rfl
  | succ fuel ih =>
    cases found : matchHead p cs with
    | some rest =>
      obtain ⟨read,split,accepted⟩ := matchHead_accepts found
      obtain ⟨body,rfl,-⟩ := tagged read accepted
      simp only [substitute,found,List.cons_append,stops]
      simp [split,run,plain]
    | none =>
      cases cs with
      | nil => simp [substitute,found]
      | cons c cs =>
        have rest := ih cs
        simp only [substitute,found,run,List.takeWhile_cons] at rest ⊢
        rw [rest]

include tagged in
/-- After the replacement, the occurrences of a local predicate are those of the
text at which the replaced pattern did not match. -/
theorem occurrences_substitute {P : List Char → Bool} (loc : Local mark escape P)
    (escaped : ∃ tail, new = escape :: tail) (clear : ∀ c ∈ new, c ≠ mark) (fuel : Nat) (cs : List Char)
    (enough : cs.length ≤ fuel) :
    occurrences P (substitute (matchHead p) new fuel cs) =
      occurrences (fun rest => P rest && !(matchHead p rest).isSome) cs := by
  induction fuel generalizing cs with
  | zero =>
    obtain rfl := List.eq_nil_of_length_eq_zero (Nat.le_zero.mp enough)
    rfl
  | succ fuel ih =>
    cases found : matchHead p cs with
    | some rest =>
      obtain ⟨read,rfl,accepted⟩ := matchHead_accepts found
      obtain ⟨body,rfl,solid⟩ := tagged read accepted
      have unmarked : ∀ c ∈ body, c ≠ mark := by
        intro c inside
        have good := solid c inside
        simp only [plain,Bool.and_eq_true,bne_iff_ne] at good
        exact good.1
      have short : rest.length ≤ fuel := by
        simp only [List.cons_append,List.length_cons,List.length_append] at enough
        omega
      have counted := occurrences_append (loc.andNot tagged.local) unmarked rest
      simp only [substitute,found]
      rw [occurrences_append loc clear,ih rest short,← counted]
      rw [List.cons_append] at found ⊢
      simp [occurrences,found]
    | none =>
      cases cs with
      | nil => simp [substitute,found,occurrences]
      | cons c cs =>
        have short : cs.length ≤ fuel := by simpa using enough
        have kept : P (c :: substitute (matchHead p) new fuel cs) = P (c :: cs) := by
          by_cases head : c = mark
          · subst c
            rw [loc.run,run_substitute tagged escaped,← loc.run]
          · rw [loc.marked _ _ head,loc.marked _ _ head]
        simp only [substitute,found,occurrences,kept,ih cs short]
        simp

include tagged in
theorem occurrences_sub {P : List Char → Bool} (loc : Local mark escape P) {new : String}
    (escaped : ∃ tail, new.toList = escape :: tail) (clear : ∀ c ∈ new.toList, c ≠ mark) (text : String) :
    occurrences P (sub p new text).toList =
      occurrences (fun rest => P rest && !(matchHead p rest).isSome) text.toList := by
  rw [sub,String.toList_ofList]
  exact occurrences_substitute tagged loc escaped clear _ _ le_rfl

end Marked

/-- A pattern whose matches have a last code point, which is never the given one. -/
def Closes (p : Pattern) (pad : Char) : Prop := ∀ read, Accepts p read → ∃ c, read.getLast? = some c ∧ c ≠ pad

section Padded
variable {mark escape pad : Char} {P : List Char → Bool}

/-- A padding that no match ends with separates a text from a tag after it. -/
theorem occurrences_padded (loc : Local mark escape P) (solid : plain mark escape pad = true)
    (stable : ∀ cs, P (mark :: (cs ++ [pad])) = P (mark :: cs)) (cs after : List Char) :
    occurrences P (cs ++ pad :: mark :: after) = occurrences P cs + occurrences P (mark :: after) := by
  have other : pad ≠ mark := by
    simp only [plain,Bool.and_eq_true,bne_iff_ne] at solid
    exact solid.1
  induction cs with
  | nil =>
    have first := loc.marked pad (mark :: after) other
    simp only [List.nil_append,occurrences,first]
    simp
  | cons c cs ih =>
    have kept : P (c :: (cs ++ pad :: mark :: after)) = P (c :: cs) := by
      by_cases head : c = mark
      · subst c
        have cut : run mark escape (cs ++ pad :: mark :: after) = run mark escape (cs ++ [pad]) := by
          have stop : ∀ tail, run mark escape (pad :: tail) = pad :: run mark escape tail := by
            intro tail
            simp [run,solid]
          have bare : run mark escape (mark :: after) = [] := by simp [run,plain]
          have last : run mark escape [] = [] := rfl
          rw [run,run,List.takeWhile_append,List.takeWhile_append]
          change (if _ then cs ++ run mark escape (pad :: mark :: after) else _) =
            if _ then cs ++ run mark escape [pad] else _
          rw [stop,stop,bare,last]
        rw [loc.run,cut,← loc.run,stable]
      · rw [loc.marked _ _ head,loc.marked _ _ head]
    simp only [List.cons_append,occurrences,kept,ih]
    omega

theorem Closes.stable {p : Pattern} (closes : Closes p pad) (cs : List Char) :
    (matchHead p (cs ++ [pad])).isSome = (matchHead p cs).isSome := by
  rw [Bool.eq_iff_iff,matchHead_isSome,matchHead_isSome]
  apply exists_congr
  intro read
  apply and_congr_left
  intro accepted
  rw [List.prefix_concat_iff]
  constructor
  · rintro (rfl | inside)
    · obtain ⟨c,last,other⟩ := closes _ accepted
      rw [List.getLast?_concat] at last
      exact absurd (Option.some.inj last).symm other
    · exact inside
  · exact .inr

theorem Closes.followed {second : Pattern} (first : Pattern) (closes : Closes second pad) :
    Closes (.followed first second) pad := by
  rintro read ⟨left,right,-,accepted,rfl⟩
  obtain ⟨c,last,other⟩ := closes right accepted
  refine ⟨c,?_,other⟩
  rw [List.getLast?_append,last]
  rfl

theorem closes_last {p : Pattern} (closes : Closes p pad) : Closes (.sequence [p]) pad := by
  rintro read ⟨left,right,accepted,rfl,rfl⟩
  rw [List.append_nil]
  exact closes left accepted

theorem closes_word {literal : String} (some : literal ≠ "") (apart : ∀ l ∈ literal.toList, foldsTo l pad = false) :
    Closes (word literal) pad := by
  intro read accepted
  have agree := (accepts_word literal read).mp accepted
  have long : read ≠ [] := by
    rintro rfl
    have bare := List.forall₂_nil_right_iff.mp agree
    exact some (by simpa using congrArg String.ofList bare)
  refine ⟨read.getLast long,List.getLast?_eq_some_getLast long,?_⟩
  intro last
  obtain ⟨l,inside,folded⟩ := accepted.folded (List.getLast_mem long)
  rw [last,apart l inside] at folded
  exact absurd folded (by simp)

end Padded

/-- A pattern none of whose matches holds the stop. -/
def Stops (p : Pattern) (stop : Char) : Prop := ∀ read, Accepts p read → stop ∉ read

theorem Stops.stable {p : Pattern} {stop : Char} (stops : Stops p stop) (cs after : List Char) :
    (matchHead p (cs ++ stop :: after)).isSome = (matchHead p cs).isSome := by
  rw [Bool.eq_iff_iff,matchHead_isSome,matchHead_isSome]
  apply exists_congr
  intro read
  apply and_congr_left
  intro accepted
  constructor
  · intro inside
    rcases List.prefix_or_prefix_of_prefix inside (List.prefix_append cs _) with before | ⟨tail,rfl⟩
    · exact before
    · cases tail with
      | nil =>
        rw [List.append_nil]
      | cons c tail =>
        obtain rfl := (List.cons_prefix_cons.mp ((List.prefix_append_right_inj cs).mp inside)).1
        exact absurd (List.mem_append_right cs (List.mem_cons_self ..)) (stops _ accepted)
  · intro inside
    exact inside.trans (List.prefix_append _ _)

/-- A stop separates the texts around it. -/
theorem Stops.occurrences {p : Pattern} {stop : Char} (stops : Stops p stop)
    (nonempty : (matchHead p []).isSome = false) (cs after : List Char) :
    occurrences (fun cs => (matchHead p cs).isSome) (cs ++ stop :: after) =
      occurrences (fun cs => (matchHead p cs).isSome) cs + occurrences (fun cs => (matchHead p cs).isSome) after := by
  induction cs with
  | nil =>
    have none := stops.stable [] after
    rw [List.nil_append,nonempty] at none
    simp [Markup.occurrences,none]
  | cons c cs ih =>
    have same := stops.stable (c :: cs) after
    rw [List.cons_append] at same
    rw [List.cons_append,Markup.occurrences,Markup.occurrences,ih,same,Nat.add_assoc]

section Solid
variable (mark escape : Char)

/-- A pattern whose matches hold neither a mark nor an escape. -/
def Solid (p : Pattern) : Prop := ∀ read, Accepts p read → ∀ c ∈ read, plain mark escape c = true

variable {mark escape}

theorem solid_many {accepts : Char → Bool} (marked : accepts mark = false) (escaped : accepts escape = false) :
    Solid mark escape (.many accepts) := by
  intro read all c inside
  have good := all c inside
  simp only [plain,Bool.and_eq_true,bne_iff_ne]
  constructor
  · rintro rfl
    rw [marked] at good
    exact absurd good (by simp)
  · rintro rfl
    rw [escaped] at good
    exact absurd good (by simp)

theorem solid_word {literal : String}
    (apart : ∀ l ∈ literal.toList, foldsTo l mark = false ∧ foldsTo l escape = false) :
    Solid mark escape (word literal) := by
  intro read accepted c inside
  obtain ⟨l,member,folded⟩ := accepted.folded inside
  obtain ⟨marked,escaped⟩ := apart l member
  have kind : Solid mark escape (.many (foldsTo l)) := solid_many marked escaped
  exact kind [c] (by simpa [Accepts] using folded) c List.mem_cons_self

theorem solid_sequence {ps : List Pattern} (all : ∀ p ∈ ps, Solid mark escape p) :
    Solid mark escape (.sequence ps) := by
  induction ps with
  | nil =>
    rintro read rfl c inside
    exact absurd inside (by simp)
  | cons p ps ih =>
    rintro read ⟨left,right,first,rest,rfl⟩ c inside
    obtain inside | inside := List.mem_append.mp inside
    · exact all p List.mem_cons_self left first c inside
    · exact ih (fun q member => all q (List.mem_cons_of_mem p member)) right rest c inside

end Solid

end RevPilot.Library.Markup
