import Mathlib.Data.List.Forall2
import RevPilot.Library.Text

/-! Backtracking patterns over code points, as a regular expression engine tries
them, beside the texts they accept. -/
namespace RevPilot.Library.Patterns
open RevPilot.Library.Text

inductive Pattern where
  | empty
  | one (accepts : Char → Bool)
  | many (accepts : Char → Bool)
  | followed (first second : Pattern)
  | either (first second : Pattern)

/-- The rests of the text after a greedy repetition, the longest read first. -/
def repeats (accepts : Char → Bool) : List Char → List (List Char)
  | [] => [[]]
  | c :: cs => if accepts c then repeats accepts cs ++ [c :: cs] else [c :: cs]

/-- The rests of the text after each way to match at its head, in the order in
which the engine tries them. -/
def ways : Pattern → List Char → List (List Char)
  | .empty, cs => [cs]
  | .one _, [] => []
  | .one accepts, c :: cs => if accepts c then [cs] else []
  | .many accepts, cs => repeats accepts cs
  | .followed first second, cs => (ways first cs).flatMap (ways second)
  | .either first second, cs => ways first cs ++ ways second cs

namespace Pattern

def optional (p : Pattern) : Pattern := .either p .empty

/-- At least one code point of a kind. -/
def several (accepts : Char → Bool) : Pattern := .followed (.one accepts) (.many accepts)

/-- At most so many, as many as there are. -/
def upTo (p : Pattern) : Nat → Pattern
  | 0 => .empty
  | n + 1 => optional (.followed p (upTo p n))

def sequence : List Pattern → Pattern
  | [] => .empty
  | p :: ps => .followed p (sequence ps)

def oneOf : List Pattern → Pattern
  | [] => .one (fun _ => false)
  | [p] => p
  | p :: q :: ps => .either p (oneOf (q :: ps))

end Pattern

/-- Whether a code point matches a literal of a pattern that ignores case: besides
the two ASCII cases, four code points whose case counterpart is an ASCII letter. -/
def foldsTo (literal c : Char) : Bool :=
  c.toLower == literal.toLower ||
    (literal.toLower == 'i' && (c == '\u0130' || c == '\u0131')) ||
    (literal.toLower == 's' && c == '\u017f') ||
    (literal.toLower == 'k' && c == '\u212a')

/-- A literal text under `re.IGNORECASE`. -/
def word (literal : String) : Pattern :=
  Pattern.sequence (literal.toList.map (fun c => .one (foldsTo c)))

/-- `pattern.match(text)`: the text after the match. -/
def matchHead (p : Pattern) (cs : List Char) : Option (List Char) := (ways p cs).head?

/-- `pattern.search(text).group(0)`. -/
def search (p : Pattern) : List Char → Option (List Char)
  | [] => (matchHead p []).map (fun _ => [])
  | c :: cs =>
    match matchHead p (c :: cs) with
    | some rest => some ((c :: cs).take ((c :: cs).length - rest.length))
    | none => search p cs

/-- `re.sub(pattern, new, text)` for a pattern without an empty match. -/
def sub (p : Pattern) (new : String) (text : String) : String :=
  String.ofList (substitute (matchHead p) new.toList text.toList.length text.toList)

/-- The texts that a pattern accepts whole. -/
def Accepts : Pattern → List Char → Prop
  | .empty, read => read = []
  | .one accepts, read => ∃ c, accepts c = true ∧ read = [c]
  | .many accepts, read => ∀ c ∈ read, accepts c = true
  | .followed first second, read => ∃ left right, Accepts first left ∧ Accepts second right ∧ read = left ++ right
  | .either first second, read => Accepts first read ∨ Accepts second read

theorem mem_repeats (accepts : Char → Bool) (cs rest : List Char) :
    rest ∈ repeats accepts cs ↔ ∃ read, cs = read ++ rest ∧ ∀ c ∈ read, accepts c = true := by
  induction cs with
  | nil =>
    simp only [repeats,List.mem_singleton]
    constructor
    · intro whole
      exact ⟨[],by simp [whole],by simp⟩
    · rintro ⟨read,split,-⟩
      exact (List.append_eq_nil_iff.mp split.symm).2
  | cons c cs ih =>
    have stop : rest = c :: cs → ∃ read, c :: cs = read ++ rest ∧ ∀ c ∈ read, accepts c = true := by
      intro whole
      exact ⟨[],by simp [whole],by simp⟩
    cases good : accepts c with
    | false =>
      simp only [repeats,good,Bool.false_eq_true,if_false,List.mem_singleton]
      refine ⟨stop,?_⟩
      rintro ⟨read,split,all⟩
      cases read with
      | nil => exact split.symm
      | cons d read =>
        obtain ⟨rfl,-⟩ := List.cons_eq_cons.mp split
        have bad := all c List.mem_cons_self
        rw [good] at bad
        exact absurd bad (by simp)
    | true =>
      simp only [repeats,good,if_true,List.mem_append,List.mem_singleton,ih]
      constructor
      · rintro (⟨read,split,all⟩ | whole)
        · refine ⟨c :: read,by simp [split],?_⟩
          intro d inside
          obtain rfl | inside := List.mem_cons.mp inside
          · exact good
          · exact all d inside
        · exact stop whole
      · rintro ⟨read,split,all⟩
        cases read with
        | nil => exact .inr split.symm
        | cons d read =>
          obtain ⟨-,split⟩ := List.cons_eq_cons.mp split
          exact .inl ⟨read,split,fun e inside => all e (List.mem_cons_of_mem d inside)⟩

/-- The engine finds a way exactly through every accepted head of the text. -/
theorem mem_ways (p : Pattern) (cs rest : List Char) :
    rest ∈ ways p cs ↔ ∃ read, cs = read ++ rest ∧ Accepts p read := by
  induction p generalizing cs rest with
  | empty =>
    simp only [ways,Accepts,List.mem_singleton]
    constructor
    · intro whole
      exact ⟨[],by simp [whole],rfl⟩
    · rintro ⟨read,split,rfl⟩
      exact split.symm
  | one accepts =>
    cases cs with
    | nil => simp [ways,Accepts]
    | cons c cs =>
      simp only [ways,Accepts]
      constructor
      · intro inside
        split at inside
        · next good =>
          obtain rfl := List.mem_singleton.mp inside
          exact ⟨[c],rfl,c,good,rfl⟩
        · simp at inside
      · rintro ⟨read,split,d,good,rfl⟩
        obtain ⟨rfl,rfl⟩ := List.cons_eq_cons.mp split
        simp [good]
  | many accepts => exact mem_repeats accepts cs rest
  | followed first second left right =>
    simp only [ways,Accepts,List.mem_flatMap,left,right]
    constructor
    · rintro ⟨middle,⟨before,rfl,first⟩,after,rfl,second⟩
      exact ⟨before ++ after,by simp,before,after,first,second,rfl⟩
    · rintro ⟨read,rfl,before,after,first,second,rfl⟩
      exact ⟨after ++ rest,⟨before,by simp,first⟩,after,rfl,second⟩
  | either first second left right =>
    simp only [ways,Accepts,List.mem_append,left,right]
    constructor
    · rintro (⟨read,split,first⟩ | ⟨read,split,second⟩)
      · exact ⟨read,split,.inl first⟩
      · exact ⟨read,split,.inr second⟩
    · rintro ⟨read,split,first | second⟩
      · exact .inl ⟨read,split,first⟩
      · exact .inr ⟨read,split,second⟩

/-- What a match reads is accepted. -/
theorem matchHead_accepts {p : Pattern} {cs rest : List Char} (found : matchHead p cs = some rest) :
    ∃ read, cs = read ++ rest ∧ Accepts p read :=
  (mem_ways p cs rest).mp (List.mem_of_mem_head? found)

/-- A pattern matches at the head of a text iff it accepts some head of it. -/
theorem matchHead_isSome (p : Pattern) (cs : List Char) :
    (matchHead p cs).isSome ↔ ∃ read, read <+: cs ∧ Accepts p read := by
  constructor
  · intro found
    obtain ⟨rest,found⟩ := Option.isSome_iff_exists.mp found
    obtain ⟨read,split,accepted⟩ := matchHead_accepts found
    exact ⟨read,⟨rest,split.symm⟩,accepted⟩
  · rintro ⟨read,⟨rest,split⟩,accepted⟩
    have inside := (mem_ways p cs rest).mpr ⟨read,split.symm,accepted⟩
    rw [matchHead,List.isSome_head?]
    exact List.ne_nil_of_mem inside

/-- A literal text accepts the texts that agree with it letter by letter. -/
theorem accepts_word (literal : String) (read : List Char) :
    Accepts (word literal) read ↔ List.Forall₂ (fun l c => foldsTo l c = true) literal.toList read := by
  rw [word]
  induction literal.toList generalizing read with
  | nil =>
    simp only [List.map_nil,Pattern.sequence,Accepts]
    exact List.forall₂_nil_left_iff.symm
  | cons l ls ih =>
    simp only [List.map_cons,Pattern.sequence,Accepts,ih]
    constructor
    · rintro ⟨_,right,⟨c,good,rfl⟩,rest,rfl⟩
      exact .cons good rest
    · intro agree
      cases agree with
      | cons good rest => exact ⟨_,_,⟨_,good,rfl⟩,rest,rfl⟩

theorem Accepts.folded {literal : String} {read : List Char} (accepted : Accepts (word literal) read) {c : Char}
    (inside : c ∈ read) : ∃ l ∈ literal.toList, foldsTo l c = true := by
  have agree := (accepts_word literal read).mp accepted
  clear accepted
  generalize literal.toList = letters at agree
  induction agree with
  | nil => exact absurd inside (by simp)
  | @cons l d ls ds head _ ih =>
    obtain rfl | inside := List.mem_cons.mp inside
    · exact ⟨l,List.mem_cons_self,head⟩
    · obtain ⟨m,member,folds⟩ := ih inside
      exact ⟨m,List.mem_cons_of_mem l member,folds⟩

private theorem lower_symbol {l c : Char} (small : l.toNat < 65) (same : c.toLower = l) : c = l := by
  obtain ⟨_,_,shifted⟩ | ⟨_,kept⟩ := toLower_cases c
  · rw [same] at shifted
    omega
  · rw [← kept,same]

private theorem lower_uncased {c : Char} (outside : c.toNat < 65 ∨ 90 < c.toNat) : c.toLower = c := by
  obtain ⟨_,_,_⟩ | ⟨_,kept⟩ := toLower_cases c
  · omega
  · exact kept

/-- A literal below the letters stands for itself alone. -/
theorem foldsTo_symbol {l : Char} (small : l.toNat < 65) (c : Char) : foldsTo l c = true ↔ c = l := by
  have apart : ∀ letter : Char, 65 ≤ letter.toNat → (l == letter) = false := by
    intro letter large
    rw [beq_eq_false_iff_ne]
    rintro rfl
    omega
  rw [foldsTo,lower_uncased (.inl small),apart 'i' (by decide),apart 's' (by decide),apart 'k' (by decide)]
  simp only [Bool.false_and,Bool.or_false,beq_iff_eq]
  constructor
  · exact lower_symbol small
  · rintro rfl
    exact lower_uncased (.inl small)

/-- White space matches no literal other than itself, the letters with further
counterparts apart. -/
theorem folds_of_space {l c : Char} (other : l.toLower ≠ 'i' ∧ l.toLower ≠ 's' ∧ l.toLower ≠ 'k')
    (space : isSpace c = true) (folded : foldsTo l c = true) : c = l.toLower := by
  obtain ⟨notI,notS,notK⟩ := other
  have outside : c.toNat < 65 ∨ 90 < c.toNat := by
    simp only [isSpace,Bool.or_eq_true,Bool.and_eq_true,decide_eq_true_eq,beq_iff_eq] at space
    omega
  simpa [foldsTo,notI,notS,notK,lower_uncased outside] using folded

section literals

/-- A literal text, case and all. -/
def literally (literal : String) : Pattern := Pattern.sequence (literal.toList.map (fun l => .one (· == l)))

theorem ways_letters (letters cs : List Char) :
    ways (Pattern.sequence (letters.map (fun l => .one (· == l)))) cs =
      if letters.isPrefixOf cs then [cs.drop letters.length] else [] := by
  induction letters generalizing cs with
  | nil => rfl
  | cons l letters ih =>
    cases cs with
    | nil => rfl
    | cons c cs =>
      rw [List.map_cons,Pattern.sequence,ways,ways,List.isPrefixOf_cons_cons,Bool.beq_comm]
      cases l == c with
      | false => rfl
      | true =>
        rw [if_pos rfl,List.flatMap_singleton,ih,Bool.true_and]
        rfl

theorem matchHead_literally (literal : String) (cs : List Char) :
    matchHead (literally literal) cs =
      if literal.toList.isPrefixOf cs then some (cs.drop literal.toList.length) else none := by
  rw [matchHead,literally,ways_letters]
  split <;> rfl

/-- `str.replace` substitutes the literal. -/
theorem replace_eq_sub (s old new : String) : replace s old new = sub (literally old) new s := by
  rw [replace,sub,← funext (matchHead_literally old)]

theorem accepts_literally (literal : String) (read : List Char) :
    Accepts (literally literal) read ↔ read = literal.toList := by
  rw [literally]
  induction literal.toList generalizing read with
  | nil => exact Iff.rfl
  | cons l letters ih =>
    simp only [List.map_cons,Pattern.sequence,Accepts,ih,beq_iff_eq]
    constructor
    · rintro ⟨_,_,⟨c,rfl,rfl⟩,rfl,rfl⟩
      rfl
    · rintro rfl
      exact ⟨[l],letters,⟨l,rfl,rfl⟩,rfl,rfl⟩

end literals

section rewriting

/-- `\b` between two neighbours, either of which may be missing. -/
def boundary (isWord : Char → Bool) (before after : Option Char) : Bool := before.any isWord != after.any isWord

/-- The code point in front of the rest of a text that `before` stands in front of. -/
def neighbour (before : Option Char) (cs rest : List Char) : Option Char :=
  (cs.take (cs.length - rest.length)).getLast?.or before

/-- `re.sub` for a pattern that looks at the code point in front of it and has no
empty match; `matched` gives the replacement and the text after the match. -/
def rewrite (matched : Option Char → List Char → Option (List Char × List Char)) : Nat → Option Char → List Char → List Char
  | 0, _, cs => cs
  | left + 1, before, cs =>
    match matched before cs, cs with
    | some (new,rest), _ => new ++ rewrite matched left (neighbour before cs rest) rest
    | none, [] => []
    | none, c :: rest => c :: rewrite matched left (some c) rest

/-- A rewritten text is the text itself, or one of the replacements is part of it. -/
theorem rewrite_cases {matched : Option Char → List Char → Option (List Char × List Char)} (left : Nat)
    (before : Option Char) (cs : List Char) :
    rewrite matched left before cs = cs ∨
      ∃ before' cs' new rest, matched before' cs' = some (new,rest) ∧ new <:+: rewrite matched left before cs := by
  induction left generalizing before cs with
  | zero => exact .inl rfl
  | succ left ih =>
    cases found : matched before cs with
    | some result =>
      obtain ⟨new,rest⟩ := result
      refine .inr ⟨before,cs,new,rest,found,?_⟩
      simp only [rewrite,found]
      exact (List.prefix_append new _).isInfix
    | none =>
      cases cs with
      | nil => exact .inl (by simp only [rewrite,found])
      | cons c cs =>
        simp only [rewrite,found]
        rcases ih (some c) cs with same | ⟨before',cs',new,rest,replaced,inside⟩
        · exact .inl (congrArg _ same)
        · exact .inr ⟨before',cs',new,rest,replaced,inside.trans (List.suffix_cons c _).isInfix⟩

end rewriting

end RevPilot.Library.Patterns
