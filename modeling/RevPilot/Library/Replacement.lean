import RevPilot.Library.Text
import Mathlib

/-! Words of a text replaced one after the other by the same marker. The result may
depend on the order of the words, and an earlier marker is read again with what stands
around it; the results here say where neither happens. -/
namespace RevPilot.Library.Replacement
open Text

/-- `text.replace(old, new)` on characters. -/
def replaceAll (old new cs : List Char) : List Char :=
  substitute (fun cs => if old.isPrefixOf cs then some (cs.drop old.length) else none) new cs.length cs

theorem replace_eq (s old new : String) :
    replace s old new = String.ofList (replaceAll old.toList new.toList s.toList) := rfl

/-- `text.count(old)`, where `left` characters of a match are still to pass. -/
def countFrom (old : List Char) : Nat → List Char → Nat
  | _, [] => 0
  | 0, c :: cs => if old.isPrefixOf (c :: cs) then countFrom old (old.length - 1) cs + 1 else countFrom old 0 cs
  | left + 1, _ :: cs => countFrom old left cs

def count (old cs : List Char) : Nat := countFrom old 0 cs

/-- No occurrence of `word` begins in `front` when `rest` follows it. -/
def Passes (word front rest : List Char) : Prop :=
  ∀ tail, tail <:+ front → tail ≠ [] → ¬ word <+: tail ++ rest

instance (word front rest : List Char) : Decidable (Passes word front rest) :=
  decidable_of_iff (∀ tail ∈ front.tails, tail ≠ [] → ¬ word <+: tail ++ rest) (by simp [Passes])

section passes
variable {word new front rest : List Char}

theorem passes_nil : Passes word [] rest := by
  intro tail inside some
  exact absurd (List.suffix_nil.mp inside) some

theorem passes_cons {c : Char} :
    Passes word (c :: front) rest ↔ ¬ word <+: c :: (front ++ rest) ∧ Passes word front rest := by
  constructor
  · intro passes
    exact ⟨passes (c :: front) List.suffix_rfl (List.cons_ne_nil c front),
      fun tail inside => passes tail (inside.trans (List.suffix_cons c front))⟩
  · rintro ⟨first,later⟩ tail inside some
    rcases List.suffix_cons_iff.mp inside with rfl | inside
    · exact first
    · exact later tail inside some

/-- A word that does not meet the marker begins nowhere in it. -/
theorem passes_of_apart (apart : ¬ Meets word new) (rest : List Char) : Passes word new rest := by
  intro tail inside some read
  exact apart (.inr ⟨tail,inside,some,List.prefix_or_prefix_of_prefix (List.prefix_append tail rest) read⟩)

/-- A word that does not meet the marker ends in front of it. -/
theorem prefix_of_apart (apart : ¬ Meets word new) (read : word <+: front ++ (new ++ rest)) : word <+: front := by
  rcases List.prefix_or_prefix_of_prefix read (List.prefix_append front _) with inside | ⟨tail,rfl⟩
  · exact inside
  · by_cases none : tail = []
    · rw [none,List.append_nil]
    · have after := (List.prefix_append_right_inj front).mp read
      have agree := List.prefix_or_prefix_of_prefix after (List.prefix_append new rest)
      exact absurd (.inl ⟨tail,List.suffix_append front tail,none,agree⟩) apart

end passes

section equations
variable {matched : List Char → Option (List Char)} {old new front rest : List Char}

/-- The length of the text is fuel enough. -/
theorem substitute_fuel (shrinks : ∀ cs rest, matched cs = some rest → rest.length < cs.length) (none : matched [] = none)
    (left right : Nat) (cs : List Char) (enough : cs.length ≤ left) (enough' : cs.length ≤ right) :
    substitute matched new left cs = substitute matched new right cs := by
  induction left generalizing right cs with
  | zero =>
    obtain rfl := List.length_eq_zero_iff.mp (Nat.le_zero.mp enough)
    rw [substitute_nil none,substitute_nil none]
  | succ left ih =>
    cases cs with
    | nil => rw [substitute_nil none,substitute_nil none]
    | cons c cs =>
      cases right with
      | zero => exact absurd enough' (Nat.not_succ_le_zero cs.length)
      | succ right =>
        cases found : matched (c :: cs) with
        | some rest =>
          have shorter := shrinks (c :: cs) rest found
          rw [substitute_match found,substitute_match found,ih right rest (by omega) (by omega)]
        | none =>
          rw [substitute_skip found,substitute_skip found,
            ih right cs (Nat.le_of_succ_le_succ enough) (Nat.le_of_succ_le_succ enough')]

@[simp] theorem replaceAll_nil : replaceAll old new [] = [] := rfl

theorem replaceAll_skip {c : Char} {cs : List Char} (other : ¬ old <+: c :: cs) :
    replaceAll old new (c :: cs) = c :: replaceAll old new cs := by
  have none : ¬ old.isPrefixOf (c :: cs) = true := fun lead => other (List.isPrefixOf_iff_prefix.mp lead)
  exact substitute_skip (if_neg none) cs.length

theorem replaceAll_match (solid : old ≠ []) (rest : List Char) :
    replaceAll old new (old ++ rest) = new ++ replaceAll old new rest := by
  have wide : 0 < old.length := List.length_pos_iff.mpr solid
  obtain ⟨left,size⟩ : ∃ left, (old ++ rest).length = left + 1 :=
    ⟨(old ++ rest).length - 1,by rw [List.length_append]; omega⟩
  have lead : old.isPrefixOf (old ++ rest) = true := List.isPrefixOf_iff_prefix.mpr (List.prefix_append old rest)
  rw [replaceAll,size,substitute_match (if_pos lead),List.drop_left,replaceAll]
  congr 1
  apply substitute_fuel
  · exact word_shrinks solid
  · rw [if_neg]
    rw [List.isPrefixOf_iff_prefix,List.prefix_nil]
    exact solid
  · rw [List.length_append] at size
    omega
  · exact le_rfl

theorem countFrom_eq (left : Nat) (cs : List Char) : countFrom old left cs = count old (cs.drop left) := by
  induction cs generalizing left with
  | nil => rw [List.drop_nil,count,countFrom,countFrom]
  | cons c cs ih =>
    cases left with
    | zero => rfl
    | succ left => exact ih left

@[simp] theorem count_nil : count old [] = 0 := by rw [count,countFrom]

theorem count_skip {c : Char} {cs : List Char} (other : ¬ old <+: c :: cs) : count old (c :: cs) = count old cs := by
  have none : ¬ old.isPrefixOf (c :: cs) = true := fun lead => other (List.isPrefixOf_iff_prefix.mp lead)
  rw [count,countFrom,if_neg none,count]

theorem count_match (solid : old ≠ []) (rest : List Char) : count old (old ++ rest) = count old rest + 1 := by
  obtain ⟨c,word,rfl⟩ := List.exists_cons_of_ne_nil solid
  have lead : (c :: word).isPrefixOf (c :: (word ++ rest)) = true :=
    List.isPrefixOf_iff_prefix.mpr (List.prefix_append (c :: word) rest)
  rw [List.cons_append,count,countFrom,if_pos lead,countFrom_eq,List.length_cons,Nat.add_sub_cancel,List.drop_left]

theorem replaceAll_passes (passes : Passes old front rest) :
    replaceAll old new (front ++ rest) = front ++ replaceAll old new rest := by
  induction front with
  | nil => rfl
  | cons c front ih =>
    obtain ⟨other,passes⟩ := passes_cons.mp passes
    rw [List.cons_append,replaceAll_skip other,ih passes,List.cons_append]

theorem count_passes (passes : Passes old front rest) : count old (front ++ rest) = count old rest := by
  induction front with
  | nil => rfl
  | cons c front ih =>
    obtain ⟨other,passes⟩ := passes_cons.mp passes
    rw [List.cons_append,count_skip other,ih passes]

/-- The text up to the first match, and after it. -/
theorem first_match (solid : old ≠ []) {cs : List Char} (inside : old <:+: cs) :
    ∃ front rest, cs = front ++ (old ++ rest) ∧ Passes old front (old ++ rest) := by
  induction cs with
  | nil => exact absurd (List.infix_nil.mp inside) solid
  | cons c cs ih =>
    by_cases lead : old <+: c :: cs
    · obtain ⟨rest,split⟩ := lead
      exact ⟨[],rest,split.symm,passes_nil⟩
    · obtain ⟨front,rest,rfl,passes⟩ := ih ((List.infix_cons_iff.mp inside).resolve_left lead)
      exact ⟨c :: front,rest,rfl,passes_cons.mpr ⟨lead,passes⟩⟩

theorem passes_of_free {cs : List Char} (free : ¬ old <:+: cs) : Passes old cs [] := by
  intro tail inside _ lead
  rw [List.append_nil] at lead
  exact free (lead.isInfix.trans inside.isInfix)

theorem replaceAll_free {cs : List Char} (free : ¬ old <:+: cs) : replaceAll old new cs = cs := by
  have whole := @replaceAll_passes old new cs [] (passes_of_free free)
  rwa [List.append_nil,replaceAll_nil,List.append_nil] at whole

theorem count_free {cs : List Char} (free : ¬ old <:+: cs) : count old cs = 0 := by
  have whole := count_passes (passes_of_free free)
  rwa [List.append_nil,count_nil] at whole

/-- Match by match: a text without the word, or the text up to the first match with
the word and a text for which the statement holds. -/
theorem matches_induction (solid : old ≠ []) {P : List Char → Prop} (free : ∀ cs, ¬ old <:+: cs → P cs)
    (found : ∀ front rest, Passes old front (old ++ rest) → P rest → P (front ++ (old ++ rest))) (cs : List Char) :
    P cs := by
  induction size : cs.length using Nat.strongRecOn generalizing cs with
  | ind n ih =>
    by_cases inside : old <:+: cs
    · obtain ⟨front,rest,rfl,passes⟩ := first_match solid inside
      have wide : 0 < old.length := List.length_pos_iff.mpr solid
      rw [List.length_append,List.length_append] at size
      exact found front rest passes (ih rest.length (by omega) rest rfl)
    · exact free cs inside

theorem replaceAll_found (solid : old ≠ []) (passes : Passes old front (old ++ rest)) :
    replaceAll old new (front ++ (old ++ rest)) = front ++ (new ++ replaceAll old new rest) := by
  rw [replaceAll_passes passes,replaceAll_match solid]

theorem count_found (solid : old ≠ []) (passes : Passes old front (old ++ rest)) :
    count old (front ++ (old ++ rest)) = count old rest + 1 := by
  rw [count_passes passes,count_match solid]

theorem length_replaceAll (solid : old ≠ []) (cs : List Char) :
    (replaceAll old new cs).length + count old cs * old.length = cs.length + count old cs * new.length := by
  induction cs using matches_induction solid with
  | free cs free => rw [replaceAll_free free,count_free free,Nat.zero_mul,Nat.zero_mul]
  | found front rest passes ih =>
    rw [replaceAll_found solid passes,count_found solid passes]
    simp only [List.length_append,Nat.add_mul,Nat.one_mul]
    omega

end equations

/-- Disjoint occurrences of a word, as many as the number says. -/
inductive Packing (word : List Char) : List Char → Nat → Prop
  | none (cs : List Char) : Packing word cs 0
  | next (front : List Char) {rest : List Char} {n : Nat} (later : Packing word rest n) :
      Packing word (front ++ (word ++ rest)) (n + 1)

section packing
variable {word cs : List Char} {n : Nat}

theorem Packing.behind (packing : Packing word cs n) (front : List Char) : Packing word (front ++ cs) n := by
  cases packing with
  | none => exact .none (front ++ cs)
  | next before later =>
    rw [← List.append_assoc]
    exact .next (front ++ before) later

theorem Packing.append {ds : List Char} {m : Nat} (packing : Packing word cs n) (packing' : Packing word ds m) :
    Packing word (cs ++ ds) (n + m) := by
  induction packing with
  | none cs =>
    rw [Nat.zero_add]
    exact packing'.behind cs
  | next front _ ih =>
    rw [List.append_assoc,List.append_assoc,Nat.add_right_comm]
    exact .next front ih

/-- Characters in front of the end of a first occurrence cost that occurrence at most. -/
theorem Packing.drop (packing : Packing word cs (n + 1)) (left : Nat) (short : left ≤ word.length) :
    Packing word (cs.drop left) n := by
  cases packing with
  | next front later =>
    have bound : left ≤ (front ++ word).length := by
      rw [List.length_append]
      omega
    rw [← List.append_assoc,List.drop_append_of_le_length bound]
    exact later.behind ((front ++ word).drop left)

theorem Packing.tail {c : Char} (packing : Packing word (c :: cs) n) (other : ¬ word <+: c :: cs) :
    Packing word cs n := by
  generalize whole : c :: cs = text at packing
  cases packing with
  | none => exact .none cs
  | next front later =>
    cases front with
    | nil => exact absurd ⟨_,whole.symm⟩ other
    | cons d front =>
      obtain ⟨_,rfl⟩ := List.cons.inj whole
      exact .next front later

theorem count_packing (solid : word ≠ []) (cs : List Char) : Packing word cs (count word cs) := by
  induction cs using matches_induction solid with
  | free cs free =>
    rw [count_free free]
    exact .none cs
  | found front rest passes ih =>
    rw [count_found solid passes]
    exact .next front ih

/-- Reading from the left finds as many disjoint occurrences as there can be. -/
theorem packing_le_count (solid : word ≠ []) {cs : List Char} {n : Nat} (packing : Packing word cs n) : n ≤ count word cs := by
  induction size : cs.length using Nat.strongRecOn generalizing cs n with
  | ind k ih =>
    cases n with
    | zero => exact Nat.zero_le (count word cs)
    | succ n =>
      cases cs with
      | nil =>
        generalize empty : ([] : List Char) = text at packing
        cases packing with
        | next front later => exact absurd empty (by simp [solid])
      | cons c cs =>
        by_cases lead : word <+: c :: cs
        · obtain ⟨rest,split⟩ := lead
          rw [← split] at packing size ⊢
          have later := packing.drop word.length le_rfl
          rw [List.drop_left] at later
          have wide : 0 < word.length := List.length_pos_iff.mpr solid
          rw [List.length_append] at size
          rw [count_match solid]
          exact Nat.succ_le_succ (ih rest.length (by omega) later rfl)
        · rw [count_skip lead]
          rw [List.length_cons] at size
          exact ih cs.length (by omega) (packing.tail lead) rfl

theorem count_append_le (solid : word ≠ []) (cs ds : List Char) :
    count word cs + count word ds ≤ count word (cs ++ ds) :=
  packing_le_count solid ((count_packing solid cs).append (count_packing solid ds))

end packing

section counts
variable {word old new front rest : List Char}

theorem passes_found {rest' : List Char} (passes : Passes word front (word ++ rest)) :
    Passes word front (word ++ rest') := by
  intro tail inside some lead
  rw [← List.append_assoc] at lead
  have bound : word.length ≤ (tail ++ word).length := by
    rw [List.length_append]
    omega
  have short := List.prefix_of_prefix_length_le lead (List.prefix_append (tail ++ word) rest') bound
  apply passes tail inside some
  rw [← List.append_assoc]
  exact short.trans (List.prefix_append (tail ++ word) rest)

/-- A word that does not occur in a text begins nowhere in it in front of a marker that it
does not meet. -/
theorem passes_in_front (apart : ¬ Meets word new) (free : ¬ word <:+: front) : Passes word front (new ++ rest) := by
  intro tail inside _ read
  exact free ((prefix_of_apart apart read).isInfix.trans inside.isInfix)

theorem count_around (solid : word ≠ []) (apart : ¬ Meets word new) (front rest : List Char) :
    count word (front ++ (new ++ rest)) = count word front + count word rest := by
  induction front using matches_induction solid with
  | free front free =>
    rw [count_passes (passes_in_front apart free),count_passes (passes_of_apart apart rest),count_free free,Nat.zero_add]
  | found before after passes ih =>
    rw [List.append_assoc,List.append_assoc,count_found solid (passes_found passes),count_found solid passes,ih,
      Nat.add_right_comm]

/-- Where another word goes, the occurrences inside it go as well, and none comes. -/
theorem count_replaceAll_le (solid : word ≠ []) (solid' : old ≠ []) (apart : ¬ Meets word new) (cs : List Char) :
    count word (replaceAll old new cs) + count old cs * count word old ≤ count word cs := by
  induction cs using matches_induction solid' with
  | free cs free =>
    rw [replaceAll_free free,count_free free]
    omega
  | found front rest passes ih =>
    have split := count_append_le solid front (old ++ rest)
    have split' := count_append_le solid old rest
    rw [replaceAll_found solid' passes,count_found solid' passes,count_around solid apart,Nat.add_mul]
    omega

/-- No proper end of the word begins the word. -/
def Unbordered (word : List Char) : Prop := ∀ tail, tail <:+ word → tail ≠ [] → tail <+: word → tail = word

instance (word : List Char) : Decidable (Unbordered word) :=
  decidable_of_iff (∀ tail ∈ word.tails, tail ≠ [] → tail <+: word → tail = word) (by simp [Unbordered])

theorem Unbordered.prefix_of_around (unbordered : Unbordered new) (some : front ≠ []) (read : new <+: front ++ (new ++ rest)) :
    new <+: front := by
  rcases List.prefix_or_prefix_of_prefix read (List.prefix_append front _) with inside | ⟨tail,split⟩
  · exact inside
  · have begins : front ++ tail <+: front ++ (new ++ rest) := by
      rw [split]
      exact read
    have after := (List.prefix_append_right_inj front).mp begins
    have bound : tail.length ≤ new.length := by
      rw [← split,List.length_append]
      omega
    have lead := List.prefix_of_prefix_length_le after (List.prefix_append new rest) bound
    by_cases none : tail = []
    · rw [none,List.append_nil] at split
      exact split ▸ List.prefix_rfl
    · have whole := unbordered tail ⟨front,split⟩ none lead
      rw [whole] at split
      exact absurd (List.append_left_eq_self.mp split) some

theorem count_new_around (unbordered : Unbordered new) (solid : new ≠ []) (front rest : List Char) :
    count new (front ++ (new ++ rest)) = count new front + count new rest + 1 := by
  induction front using matches_induction solid with
  | free front free =>
    have passes : Passes new front (new ++ rest) := by
      intro tail inside some read
      exact free ((unbordered.prefix_of_around some read).isInfix.trans inside.isInfix)
    rw [count_found solid passes,count_free free,Nat.zero_add]
  | found before after passes ih =>
    rw [List.append_assoc,List.append_assoc,count_found solid (passes_found passes),count_found solid passes,ih]
    omega

/-- Every match puts one marker more. -/
theorem count_new_replaceAll (unbordered : Unbordered new) (solid : new ≠ []) (solid' : old ≠ [])
    (apart : ¬ Meets old new) (cs : List Char) :
    count new (replaceAll old new cs) = count new cs + count old cs := by
  induction cs using matches_induction solid' with
  | free cs free => rw [replaceAll_free free,count_free free,Nat.add_zero]
  | found front rest passes ih =>
    rw [replaceAll_found solid' passes,count_found solid' passes,count_new_around unbordered solid,ih,
      count_around solid (fun meets => apart meets.symm)]
    omega

end counts

section free
variable {word old new : List Char}

theorem count_eq_zero_iff (solid : word ≠ []) {cs : List Char} : count word cs = 0 ↔ ¬ word <:+: cs := by
  constructor
  · intro none inside
    obtain ⟨front,rest,rfl,passes⟩ := first_match solid inside
    rw [count_found solid passes] at none
    exact Nat.succ_ne_zero _ none
  · exact count_free

theorem count_self (solid : word ≠ []) : count word word = 1 := by
  have whole := count_match solid []
  rwa [List.append_nil,count_nil] at whole

theorem free_replaceAll_self (solid : word ≠ []) (apart : ¬ Meets word new) (cs : List Char) :
    ¬ word <:+: replaceAll word new cs := by
  have fewer := count_replaceAll_le solid solid apart cs
  rw [count_self solid] at fewer
  rw [← count_eq_zero_iff solid]
  omega

theorem free_replaceAll (solid : word ≠ []) (solid' : old ≠ []) (apart : ¬ Meets word new) {cs : List Char}
    (free : ¬ word <:+: cs) : ¬ word <:+: replaceAll old new cs := by
  have fewer := count_replaceAll_le solid solid' apart cs
  rw [← count_eq_zero_iff solid] at free ⊢
  omega

theorem prefix_of_replaceAll (apart : ¬ Meets word new) {front cs : List Char} (read : word <+: front ++ replaceAll old new cs) :
    word <+: front ++ cs := prefix_of_substitute apart cs.length front cs read

theorem Passes.replaceAll {front cs : List Char} (passes : Passes word front cs) (apart : ¬ Meets word new) :
    Passes word front (replaceAll old new cs) :=
  fun tail inside some read => passes tail inside some (prefix_of_replaceAll apart read)

end free

/-- The words of `order` replaced one after the other. -/
def replaceEach (marker : List Char) (order : List (List Char)) (cs : List Char) : List Char :=
  order.foldl (fun cs word => replaceAll word marker cs) cs

/-- Words that are not empty, each of them once. -/
structure Words (words : List (List Char)) : Prop where
  nodup : words.Nodup
  solid : ∀ word ∈ words, word ≠ []

/-- Every order of the words gives the same text. -/
def Agrees (marker : List Char) (words : List (List Char)) (cs : List Char) : Prop :=
  ∀ order order', order.Perm words → order'.Perm words → replaceEach marker order cs = replaceEach marker order' cs

/-- Whatever the order, no word is left, and the text is the same. -/
structure Cleans (marker : List Char) (words : List (List Char)) (cs : List Char) : Prop where
  free : ∀ order, order.Perm words → ∀ word ∈ words, ¬ word <:+: replaceEach marker order cs
  agrees : Agrees marker words cs

/-- A text read as the words in it and the characters between them. -/
inductive Piece : Type
  | plain (c : Char)
  | word (text : List Char)
  deriving DecidableEq

/-- The piece as it stands once the words of `replaced` have been replaced. -/
def Piece.text (marker : List Char) (replaced : List (List Char)) : Piece → List Char
  | .plain c => [c]
  | .word text => if text ∈ replaced then marker else text

def reading (marker : List Char) (replaced : List (List Char)) (pieces : List Piece) : List Char :=
  pieces.flatMap (Piece.text marker replaced)

/-- A word that is still to be replaced begins in its own pieces only. -/
def Apart (marker : List Char) (words replaced : List (List Char)) : List Piece → Prop
  | [] => True
  | piece :: pieces =>
    (∀ word ∈ words, word ∉ replaced → piece ≠ .word word →
      Passes word (piece.text marker replaced) (reading marker replaced pieces)) ∧
    Apart marker words replaced pieces

/-- The text has its words in pieces, in which they stay while others are replaced, and no
word is left when all of them are. -/
def Settled (marker : List Char) (words : List (List Char)) (cs : List Char) : Prop :=
  ∃ pieces, reading marker [] pieces = cs ∧ (∀ replaced ⊆ words, Apart marker words replaced pieces) ∧
    ∀ word ∈ words, ¬ word <:+: reading marker words pieces

section settled
variable {marker : List Char} {words order replaced : List (List Char)} {cs : List Char} {pieces : List Piece}

theorem reading_congr {replaced' : List (List Char)} (same : ∀ word, word ∈ replaced ↔ word ∈ replaced') (pieces : List Piece) :
    reading marker replaced pieces = reading marker replaced' pieces := by
  have texts : Piece.text marker replaced = Piece.text marker replaced' := by
    funext piece
    cases piece with
    | plain c => rfl
    | word text => simp only [Piece.text,same]
  rw [reading,reading,texts]

/-- One more word replaced. -/
theorem replaceAll_reading {word : List Char} (solid : word ≠ []) (inside : word ∈ words) (later : word ∉ replaced)
    (apart : Apart marker words replaced pieces) :
    replaceAll word marker (reading marker replaced pieces) = reading marker (word :: replaced) pieces := by
  induction pieces with
  | nil => rfl
  | cons piece pieces ih =>
    obtain ⟨passes,apart⟩ := apart
    rw [reading,reading,List.flatMap_cons,List.flatMap_cons,← reading,← reading,← ih apart]
    by_cases own : piece = .word word
    · subst own
      rw [Piece.text,if_neg later,Piece.text,if_pos List.mem_cons_self,replaceAll_match solid]
    · have text : piece.text marker (word :: replaced) = piece.text marker replaced := by
        cases piece with
        | plain c => rfl
        | word other =>
          have differs : other ≠ word := fun same => own (congrArg Piece.word same)
          simp only [Piece.text,List.mem_cons,differs,false_or]
      rw [text,replaceAll_passes (passes word inside later own)]

theorem replaceEach_reading (solid : ∀ word ∈ words, word ≠ []) (apart : ∀ replaced ⊆ words, Apart marker words replaced pieces)
    (nodup : order.Nodup) (inside : order ⊆ words) (inside' : replaced ⊆ words) (disjoint : ∀ word ∈ order, word ∉ replaced) :
    replaceEach marker order (reading marker replaced pieces) = reading marker (order ++ replaced) pieces := by
  induction order generalizing replaced with
  | nil => rfl
  | cons word order ih =>
    obtain ⟨fresh,nodup⟩ := List.nodup_cons.mp nodup
    obtain ⟨known,inside⟩ := List.cons_subset.mp inside
    rw [replaceEach,List.foldl_cons,← replaceEach,
      replaceAll_reading (solid word known) known (disjoint word List.mem_cons_self) (apart replaced inside')]
    rw [ih nodup inside (List.cons_subset.mpr ⟨known,inside'⟩)]
    · apply reading_congr
      intro other
      simp only [List.mem_append,List.mem_cons]
      tauto
    · intro other later
      rw [List.mem_cons,not_or]
      exact ⟨fun same => fresh (same ▸ later),disjoint other (List.mem_cons_of_mem word later)⟩

/-- In a settled text the order of the words does not matter, and no word is left. -/
theorem Settled.cleans (known : Words words) (settled : Settled marker words cs) : Cleans marker words cs := by
  obtain ⟨pieces,rfl,apart,free⟩ := settled
  have final : ∀ order, order.Perm words → replaceEach marker order (reading marker [] pieces) = reading marker words pieces := by
    intro order perm
    rw [replaceEach_reading known.solid apart (perm.nodup_iff.mpr known.nodup) perm.subset (List.nil_subset words)
      (fun word _ => List.not_mem_nil),List.append_nil]
    exact reading_congr (fun word => perm.mem_iff) pieces
  constructor
  · intro order perm
    rw [final order perm]
    exact free
  · intro order order' perm perm'
    rw [final order perm,final order' perm']

theorem reading_plain (replaced : List (List Char)) (front : List Char) (pieces : List Piece) :
    reading marker replaced (front.map .plain ++ pieces) = front ++ reading marker replaced pieces := by
  induction front with
  | nil => rfl
  | cons c front ih =>
    rw [List.map_cons,List.cons_append,reading,List.flatMap_cons,← reading,ih]
    rfl

theorem apart_plain {front : List Char} (apart : Apart marker words replaced pieces)
    (passes : ∀ word ∈ words, word ∉ replaced → Passes word front (reading marker replaced pieces)) :
    Apart marker words replaced (front.map .plain ++ pieces) := by
  induction front with
  | nil => exact apart
  | cons c front ih =>
    refine ⟨fun word inside later _ => ?_,ih (fun word inside later => (passes_cons.mp (passes word inside later)).2)⟩
    change Passes word [c] (reading marker replaced (front.map .plain ++ pieces))
    rw [reading_plain]
    exact passes_cons.mpr ⟨(passes_cons.mp (passes word inside later)).1,passes_nil⟩

/-- A text without any of the words is settled. -/
theorem settled_of_free (free : ∀ word ∈ words, ¬ word <:+: cs) : Settled marker words cs := by
  have text : ∀ replaced, reading marker replaced (cs.map .plain ++ []) = cs := by
    intro replaced
    rw [reading_plain]
    exact List.append_nil cs
  refine ⟨cs.map .plain ++ [],text [],fun replaced _ => ?_,?_⟩
  · exact apart_plain trivial (fun word inside _ => passes_of_free (free word inside))
  · rwa [text]

theorem pieces_of_single {word : List Char} (solid : word ≠ []) (cs : List Char) :
    ∃ pieces, reading marker [] pieces = cs ∧ ∀ replaced ⊆ [word], Apart marker [word] replaced pieces := by
  induction cs using matches_induction solid with
  | free cs free =>
    obtain ⟨pieces,text,apart,_⟩ := @settled_of_free marker [word] cs (by simpa using free)
    exact ⟨pieces,text,apart⟩
  | found front rest passes ih =>
    obtain ⟨pieces,rfl,apart⟩ := ih
    refine ⟨front.map .plain ++ .word word :: pieces,?_,fun replaced known => apart_plain ?_ ?_⟩
    · rw [reading_plain]
      rfl
    · refine ⟨fun other inside _ differs => ?_,apart replaced known⟩
      exact absurd (congrArg Piece.word (List.mem_singleton.mp inside).symm) differs
    · intro other inside later
      obtain rfl := List.mem_singleton.mp inside
      rw [reading,List.flatMap_cons,← reading,Piece.text,if_neg later]
      exact passes_found passes

/-- A single word that is cleaned out of a text is settled in it. -/
theorem Cleans.settled_single {word : List Char} (solid : word ≠ []) (cleans : Cleans marker [word] cs) :
    Settled marker [word] cs := by
  obtain ⟨pieces,rfl,apart⟩ := @pieces_of_single marker word solid cs
  refine ⟨pieces,rfl,apart,?_⟩
  rw [← replaceAll_reading solid List.mem_cons_self List.not_mem_nil (apart [] (List.nil_subset _))]
  exact cleans.free [word] (List.Perm.refl _)

theorem replaceEach_free (free : ∀ word ∈ order, ¬ word <:+: cs) : replaceEach marker order cs = cs := by
  induction order with
  | nil => rfl
  | cons word order ih =>
    rw [replaceEach,List.foldl_cons,replaceAll_free (free word List.mem_cons_self),← replaceEach]
    exact ih (fun later inside => free later (List.mem_cons_of_mem word inside))

/-- A marker that has been put in stays, or another is put over it. -/
theorem marker_inside (solid : ∀ word ∈ order, word ≠ []) (occurs : ∃ word ∈ order, word <:+: cs) :
    marker <:+: replaceEach marker order cs := by
  induction order generalizing cs with
  | nil =>
    obtain ⟨word,inside,_⟩ := occurs
    exact absurd inside List.not_mem_nil
  | cons word order ih =>
    have solid' : ∀ later ∈ order, later ≠ [] := fun later inside => solid later (List.mem_cons_of_mem word inside)
    rw [replaceEach,List.foldl_cons,← replaceEach]
    by_cases first : word <:+: cs
    · have some := solid word List.mem_cons_self
      obtain ⟨front,rest,rfl,passes⟩ := first_match some first
      rw [replaceAll_found some passes]
      by_cases more : ∃ later ∈ order, later <:+: front ++ (marker ++ replaceAll word marker rest)
      · exact ih solid' more
      · rw [replaceEach_free (fun later inside read => more ⟨later,inside,read⟩)]
        exact ⟨front,_,List.append_assoc front marker _⟩
    · rw [replaceAll_free first]
      obtain ⟨later,inside,read⟩ := occurs
      rcases List.mem_cons.mp inside with rfl | inside
      · exact absurd read first
      · exact ih solid' ⟨later,inside,read⟩

end settled

/-- Words that do not meet the marker. -/
structure Clear (marker : List Char) (words : List (List Char)) : Prop extends Words words where
  apart : ∀ word ∈ words, ¬ Meets word marker

/-- Read from the left, a word that begins is the only one to begin until it ends. -/
inductive Separated (words : List (List Char)) : List Char → Prop
  | nil : Separated words []
  | keep {c : Char} {cs : List Char} (other : ∀ word ∈ words, ¬ word <+: c :: cs) (later : Separated words cs) :
      Separated words (c :: cs)
  | cut {word rest : List Char} (inside : word ∈ words) (alone : ∀ other ∈ words, other ≠ word → Passes other word rest)
      (later : Separated words rest) : Separated words (word ++ rest)

section clear
variable {marker : List Char} {words order : List (List Char)} {cs front rest : List Char}

theorem replaceEach_through (apart : ∀ word ∈ order, ¬ Meets word marker) (passes : ∀ word ∈ order, Passes word front rest) :
    replaceEach marker order (front ++ rest) = front ++ replaceEach marker order rest := by
  induction order generalizing rest with
  | nil => rfl
  | cons word order ih =>
    rw [replaceEach,List.foldl_cons,← replaceEach,replaceAll_passes (passes word List.mem_cons_self)]
    apply ih (fun later inside => apart later (List.mem_cons_of_mem word inside))
    intro later inside
    have inside' := List.mem_cons_of_mem word inside
    exact (passes later inside').replaceAll (apart later inside')

theorem replaceEach_cut {word : List Char} (solid : word ≠ []) (apart : ∀ word ∈ order, ¬ Meets word marker)
    (nodup : order.Nodup) (inside : word ∈ order) (alone : ∀ other ∈ order, other ≠ word → Passes other word rest) :
    replaceEach marker order (word ++ rest) = marker ++ replaceEach marker order rest := by
  induction order generalizing rest with
  | nil => exact absurd inside List.not_mem_nil
  | cons first order ih =>
    obtain ⟨fresh,nodup⟩ := List.nodup_cons.mp nodup
    have apart' : ∀ later ∈ order, ¬ Meets later marker := fun later inside => apart later (List.mem_cons_of_mem first inside)
    rw [replaceEach,List.foldl_cons,← replaceEach]
    by_cases same : first = word
    · subst same
      rw [replaceAll_match solid]
      exact replaceEach_through apart' (fun later inside => passes_of_apart (apart' later inside) _)
    · rw [replaceAll_passes (alone first List.mem_cons_self same)]
      apply ih apart' nodup ((List.mem_cons.mp inside).resolve_left (Ne.symm same))
      intro other later differs
      exact (alone other (List.mem_cons_of_mem first later) differs).replaceAll (apart' other later)

/-- The last words to be replaced leave none of the words that went before. -/
theorem free_replaceEach (known : ∀ word ∈ order, word ≠ [] ∧ ¬ Meets word marker) {word : List Char} (solid : word ≠ [])
    (apart : ¬ Meets word marker) (done : word ∈ order ∨ ¬ word <:+: cs) : ¬ word <:+: replaceEach marker order cs := by
  induction order generalizing cs with
  | nil => exact done.resolve_left List.not_mem_nil
  | cons first order ih =>
    rw [replaceEach,List.foldl_cons,← replaceEach]
    apply ih (fun later inside => known later (List.mem_cons_of_mem first inside))
    rcases done with inside | free
    · rcases List.mem_cons.mp inside with rfl | inside
      · exact .inr (free_replaceAll_self solid apart cs)
      · exact .inl inside
    · exact .inr (free_replaceAll solid (known first List.mem_cons_self).1 apart free)

theorem Clear.free (clear : Clear marker words) (perm : order.Perm words) {word : List Char} (inside : word ∈ words)
    (cs : List Char) : ¬ word <:+: replaceEach marker order cs :=
  free_replaceEach (fun _ later => ⟨clear.solid _ (perm.subset later),clear.apart _ (perm.subset later)⟩)
    (clear.solid word inside) (clear.apart word inside) (.inl (perm.mem_iff.mpr inside))

theorem prefix_of_reading {word : List Char} (apart : ¬ Meets word marker) (replaced : List (List Char)) {pieces : List Piece}
    (read : word <+: front ++ reading marker replaced pieces) : word <+: front ++ reading marker [] pieces := by
  induction pieces generalizing front with
  | nil => exact read
  | cons piece pieces ih =>
    rw [reading,List.flatMap_cons,← reading] at read ⊢
    by_cases same : piece.text marker replaced = piece.text marker []
    · rw [same,← List.append_assoc] at read
      rw [← List.append_assoc]
      exact ih read
    · have text : piece.text marker replaced = marker := by
        cases piece with
        | plain c => exact absurd rfl same
        | word text =>
          by_cases inside : text ∈ replaced
          · exact if_pos inside
          · exact absurd (if_neg inside) same
      rw [text] at read
      exact (prefix_of_apart apart read).trans (List.prefix_append front _)

theorem Separated.settled (clear : Clear marker words) (separated : Separated words cs) : Settled marker words cs := by
  have pieces : ∃ pieces, reading marker [] pieces = cs ∧ ∀ replaced ⊆ words, Apart marker words replaced pieces := by
    induction separated with
    | nil => exact ⟨[],rfl,fun _ _ => trivial⟩
    | @keep c cs other _ ih =>
      obtain ⟨pieces,rfl,apart⟩ := ih
      refine ⟨.plain c :: pieces,rfl,fun replaced known => ⟨fun word inside _ _ => ?_,apart replaced known⟩⟩
      refine passes_cons.mpr ⟨fun read => other word inside ?_,passes_nil⟩
      exact @prefix_of_reading marker [c] word (clear.apart word inside) replaced pieces read
    | @cut word rest inside alone _ ih =>
      obtain ⟨pieces,rfl,apart⟩ := ih
      refine ⟨.word word :: pieces,rfl,fun replaced known => ⟨fun other inside' _ differs => ?_,apart replaced known⟩⟩
      have differs' : other ≠ word := fun same => differs (congrArg Piece.word same.symm)
      rw [Piece.text]
      split
      · exact passes_of_apart (clear.apart other inside') _
      · intro tail ending some read
        exact alone other inside' differs' tail ending some (prefix_of_reading (clear.apart other inside') replaced read)
  obtain ⟨pieces,rfl,apart⟩ := pieces
  refine ⟨pieces,rfl,apart,fun word inside => ?_⟩
  have final := replaceEach_reading clear.solid apart clear.nodup (List.Subset.refl words) (List.nil_subset words)
    (fun word _ => List.not_mem_nil)
  rw [List.append_nil] at final
  rw [← final]
  exact clear.free (List.Perm.refl words) inside _

end clear

/-- The weights of all matches, word after word. -/
def tally (weight : List Char → Nat) (marker : List Char) : List (List Char) → List Char → Nat
  | [], _ => 0
  | word :: order, cs => count word cs * weight word + tally weight marker order (replaceAll word marker cs)

/-- The weights of all matches if each word had the text to itself. -/
def tallyAlone (weight : List Char → Nat) (order : List (List Char)) (cs : List Char) : Nat :=
  (order.map (fun word => count word cs * weight word)).sum

section tallies
variable {marker : List Char} {words order replaced : List (List Char)} {cs : List Char} {pieces : List Piece}
variable {weight : List Char → Nat}

theorem count_replaceEach (unbordered : Unbordered marker) (some : marker ≠ [])
    (known : ∀ word ∈ order, word ≠ [] ∧ ¬ Meets word marker) (cs : List Char) :
    count marker (replaceEach marker order cs) = count marker cs + tally (fun _ => 1) marker order cs := by
  induction order generalizing cs with
  | nil => rfl
  | cons word order ih =>
    obtain ⟨solid,apart⟩ := known word List.mem_cons_self
    rw [replaceEach,List.foldl_cons,← replaceEach,ih (fun later inside => known later (List.mem_cons_of_mem word inside)),
      count_new_replaceAll unbordered some solid apart,tally,Nat.mul_one,Nat.add_assoc]

theorem length_replaceEach (solid : ∀ word ∈ order, word ≠ []) (cs : List Char) :
    (replaceEach marker order cs).length + tally List.length marker order cs =
      cs.length + tally (fun _ => 1) marker order cs * marker.length := by
  induction order generalizing cs with
  | nil => simp [replaceEach,tally]
  | cons word order ih =>
    have one := @length_replaceAll word marker (solid word List.mem_cons_self) cs
    have more := ih (fun later inside => solid later (List.mem_cons_of_mem word inside)) (replaceAll word marker cs)
    rw [replaceEach,List.foldl_cons,← replaceEach,tally,tally,Nat.mul_one,Nat.add_mul]
    omega

/-- A word that is still to be replaced is counted by its pieces. -/
theorem count_reading {word : List Char} (solid : word ≠ []) (inside : word ∈ words) (later : word ∉ replaced)
    (apart : Apart marker words replaced pieces) :
    count word (reading marker replaced pieces) = pieces.count (.word word) := by
  induction pieces with
  | nil => exact count_nil
  | cons piece pieces ih =>
    obtain ⟨passes,apart⟩ := apart
    rw [reading,List.flatMap_cons,← reading]
    by_cases own : piece = .word word
    · subst own
      rw [Piece.text,if_neg later,count_match solid,ih apart,List.count_cons_self]
    · rw [count_passes (passes word inside later own),ih apart,List.count_cons_of_ne own]

/-- In a settled text each word has the text to itself. -/
theorem tally_reading (solid : ∀ word ∈ words, word ≠ []) (apart : ∀ replaced ⊆ words, Apart marker words replaced pieces)
    (nodup : order.Nodup) (inside : order ⊆ words) (inside' : replaced ⊆ words) (disjoint : ∀ word ∈ order, word ∉ replaced) :
    tally weight marker order (reading marker replaced pieces) = tallyAlone weight order (reading marker [] pieces) := by
  induction order generalizing replaced with
  | nil => rfl
  | cons word order ih =>
    obtain ⟨fresh,nodup⟩ := List.nodup_cons.mp nodup
    obtain ⟨known,inside⟩ := List.cons_subset.mp inside
    have some := solid word known
    have later := disjoint word List.mem_cons_self
    have now := count_reading some known later (apart replaced inside')
    have before := count_reading some known List.not_mem_nil (apart [] (List.nil_subset words))
    have rest := ih nodup inside (List.cons_subset.mpr ⟨known,inside'⟩) (fun other more => by
      rw [List.mem_cons,not_or]
      exact ⟨fun same => fresh (same ▸ more),disjoint other (List.mem_cons_of_mem word more)⟩)
    rw [tally,replaceAll_reading some known later (apart replaced inside'),now,← before,rest,tallyAlone,tallyAlone,
      List.map_cons,List.sum_cons]

/-- What is replaced before can only take matches away; where the number of matches is
still that of every word alone, each word has all of its own. -/
theorem tally_full (known : ∀ word ∈ order, word ≠ [] ∧ ¬ Meets word marker) {ds : List Char}
    (fewer : ∀ word ∈ order, count word ds ≤ count word cs) :
    tally (fun _ => 1) marker order ds ≤ tallyAlone (fun _ => 1) order cs ∧
      (tallyAlone (fun _ => 1) order cs ≤ tally (fun _ => 1) marker order ds →
        tally weight marker order ds = tallyAlone weight order cs) := by
  induction order generalizing ds with
  | nil => exact ⟨le_rfl,fun _ => rfl⟩
  | cons word order ih =>
    obtain ⟨solid,_⟩ := known word List.mem_cons_self
    have first := fewer word List.mem_cons_self
    have fewer' : ∀ later ∈ order, count later (replaceAll word marker ds) ≤ count later cs := by
      intro later inside
      obtain ⟨some,apart⟩ := known later (List.mem_cons_of_mem word inside)
      have step := count_replaceAll_le some solid apart ds
      have whole := fewer later (List.mem_cons_of_mem word inside)
      omega
    obtain ⟨bound,same⟩ := ih (fun later inside => known later (List.mem_cons_of_mem word inside)) fewer'
    simp only [tallyAlone,List.map_cons,List.sum_cons,tally,Nat.mul_one] at bound same ⊢
    refine ⟨Nat.add_le_add first bound,fun full => ?_⟩
    have all : count word ds = count word cs := by omega
    rw [all,same (by omega)]

end tallies

section agrees
variable {marker : List Char} {words order : List (List Char)} {cs rest : List Char}

theorem Clear.known (clear : Clear marker words) (inside : order ⊆ words) :
    ∀ word ∈ order, word ≠ [] ∧ ¬ Meets word marker :=
  fun word later => ⟨clear.solid word (inside later),clear.apart word (inside later)⟩

theorem Clear.erase (clear : Clear marker words) (word : List Char) : Clear marker (words.erase word) where
  nodup := clear.nodup.erase word
  solid other inside := clear.solid other (List.mem_of_mem_erase inside)
  apart other inside := clear.apart other (List.mem_of_mem_erase inside)

theorem replaceEach_append (order order' : List (List Char)) (cs : List Char) :
    replaceEach marker (order ++ order') cs = replaceEach marker order' (replaceEach marker order cs) :=
  List.foldl_append

/-- A word that holds another one has nothing to do once that one is replaced. -/
theorem Agrees.erase {inner outer : List Char} (clear : Clear marker words) (agrees : Agrees marker words cs)
    (inside : inner ∈ words) (inside' : outer ∈ words) (differs : inner ≠ outer) (nested : inner <:+: outer) :
    Agrees marker (words.erase outer) cs := by
  have last : ∀ order, order.Perm (words.erase outer) →
      (order ++ [outer]).Perm words ∧ replaceEach marker (order ++ [outer]) cs = replaceEach marker order cs := by
    intro order perm
    have whole : (order ++ [outer]).Perm words :=
      (List.perm_append_singleton outer order).trans ((perm.cons outer).trans (List.perm_cons_erase inside').symm)
    have gone := (clear.erase outer).free perm ((List.mem_erase_of_ne differs).mpr inside) cs
    refine ⟨whole,?_⟩
    rw [replaceEach_append]
    exact replaceAll_free (fun read => gone (nested.trans read))
  intro order order' perm perm'
  obtain ⟨whole,same⟩ := last order perm
  obtain ⟨whole',same'⟩ := last order' perm'
  rw [← same,← same']
  exact agrees _ _ whole whole'

/-- Where a word and one that it holds both have something to replace, the orders differ:
the longer word first leaves as many markers only if it does the work of the shorter one,
and then too little text. -/
theorem not_agrees_of_nested {inner outer : List Char} (unbordered : Unbordered marker) (some : marker ≠ [])
    (clear : Clear marker words) (inside : inner ∈ words) (inside' : outer ∈ words) (differs : inner ≠ outer)
    (nested : inner <:+: outer) (occurs : outer <:+: cs) (settled : Settled marker (words.erase outer) cs) :
    ¬ Agrees marker words cs := by
  intro agrees
  have solid := clear.solid inner inside
  have solid' := clear.solid outer inside'
  have inside'' : inner ∈ words.erase outer := (List.mem_erase_of_ne differs).mpr inside
  let rest := (words.erase outer).erase inner
  have perm : (inner :: rest).Perm (words.erase outer) := (List.perm_cons_erase inside'').symm
  have whole : (outer :: inner :: rest).Perm words := (perm.cons outer).trans (List.perm_cons_erase inside').symm
  have whole' : (inner :: rest ++ [outer]).Perm words := (List.perm_append_singleton outer (inner :: rest)).trans whole
  -- The longer word last has nothing to replace.
  have late : replaceEach marker (inner :: rest ++ [outer]) cs = replaceEach marker (inner :: rest) cs := by
    have gone := (clear.erase outer).free perm inside'' cs
    rw [replaceEach_append]
    exact replaceAll_free (fun read => gone (nested.trans read))
  have same := (agrees _ _ whole' whole).symm.trans late
  have known := clear.known whole.subset
  have known' := (clear.erase outer).known perm.subset
  have alone : ∀ weight, tally weight marker (inner :: rest) cs = tallyAlone weight (inner :: rest) cs := by
    intro weight
    obtain ⟨pieces,rfl,apart,_⟩ := settled
    exact tally_reading (clear.erase outer).solid apart (perm.nodup_iff.mpr (clear.erase outer).nodup) perm.subset
      (List.nil_subset _) (fun word _ => List.not_mem_nil)
  have markers := congrArg (count marker) same
  rw [count_replaceEach unbordered some known,count_replaceEach unbordered some known',alone] at markers
  have lengths := congrArg List.length same
  have size := @length_replaceEach marker _ (fun word later => (known word later).1) cs
  have size' := @length_replaceEach marker _ (fun word later => (known' word later).1) cs
  rw [alone,alone] at size'
  -- The matches of the longer word take matches from the shorter one.
  have taken := count_replaceAll_le solid solid' (clear.apart inner inside) cs
  have one : 0 < count inner outer := Nat.pos_of_ne_zero (fun none => (count_eq_zero_iff solid).mp none nested)
  have more : 0 < count outer cs := Nat.pos_of_ne_zero (fun none => (count_eq_zero_iff solid').mp none occurs)
  have taken' : count outer cs ≤ count outer cs * count inner outer := Nat.le_mul_of_pos_right _ one
  have fewer : ∀ word ∈ rest, count word (replaceAll inner marker (replaceAll outer marker cs)) ≤ count word cs := by
    intro word later
    obtain ⟨full,apart⟩ := known word (List.mem_cons_of_mem _ (List.mem_cons_of_mem _ later))
    have first := count_replaceAll_le full solid' apart cs
    have second := count_replaceAll_le full solid apart (replaceAll outer marker cs)
    omega
  have others : ∀ word ∈ rest, word ≠ [] ∧ ¬ Meets word marker :=
    fun word later => known word (List.mem_cons_of_mem _ (List.mem_cons_of_mem _ later))
  have full := (@tally_full marker rest cs List.length others _ fewer).2
  have bound := (@tally_full marker rest cs List.length others _ fewer).1
  simp only [tally,tallyAlone,List.map_cons,List.sum_cons,Nat.mul_one] at markers size size' full bound
  have shared : count inner cs = count outer cs + count inner (replaceAll outer marker cs) := by omega
  have texts := full (by omega)
  have areas : count outer cs * outer.length = count outer cs * inner.length := by
    rw [lengths,Nat.add_left_cancel markers,texts] at size
    rw [shared] at size size'
    rw [Nat.add_mul (count outer cs) _ inner.length] at size'
    omega
  exact differs (nested.eq_of_length (Nat.eq_of_mul_eq_mul_left more areas).symm)

/-- A marker at the front of the result was at the front of the text. -/
theorem marker_prefix (unbordered : Unbordered marker) (known : ∀ word ∈ order, word ≠ [] ∧ ¬ Meets word marker)
    (other : ∀ word ∈ order, ¬ word <+: cs) (read : marker <+: replaceEach marker order cs) : marker <+: cs := by
  induction order generalizing cs with
  | nil => exact read
  | cons word order ih =>
    rw [replaceEach,List.foldl_cons,← replaceEach] at read
    have step : marker <+: replaceAll word marker cs := by
      apply ih (fun later inside => known later (List.mem_cons_of_mem word inside)) _ read
      intro later inside lead
      have inside' := List.mem_cons_of_mem word inside
      exact other later inside' (@prefix_of_replaceAll later word marker (known later inside').2 [] cs lead)
    by_cases inside : word <:+: cs
    · obtain ⟨solid,_⟩ := known word List.mem_cons_self
      obtain ⟨front,rest,rfl,passes⟩ := first_match solid inside
      rw [replaceAll_found solid passes] at step
      have some : front ≠ [] := by
        rintro rfl
        exact other word List.mem_cons_self (List.prefix_append word rest)
      exact (unbordered.prefix_of_around some step).trans (List.prefix_append front _)
    · rwa [replaceAll_free inside] at step

/-- Where a second word begins inside the one in front, the one order puts a marker in
front and the other keeps a character there. -/
theorem not_agrees_of_overlap {word other : List Char} (unbordered : Unbordered marker) (clear : Clear marker words)
    (inside : word ∈ words) (inside' : other ∈ words) (differs : other ≠ word)
    (alone : ∀ second ∈ words, second ≠ word → ¬ second <+: word ++ rest) (meets : ¬ Passes other word rest) :
    ¬ Agrees marker words (word ++ rest) := by
  intro agrees
  have solid := clear.solid word inside
  have solid' := clear.solid other inside'
  have perm := (List.perm_cons_erase inside).symm
  have perm' := (List.perm_cons_erase inside').symm
  -- The word in front goes first.
  have first : marker <+: replaceEach marker (word :: words.erase word) (word ++ rest) := by
    rw [replaceEach,List.foldl_cons,← replaceEach,replaceAll_match solid,replaceEach_through]
    · exact List.prefix_append marker _
    · intro later known
      exact (clear.erase word).apart later known
    · intro later known
      exact passes_of_apart ((clear.erase word).apart later known) _
  rw [agrees _ _ perm perm',replaceEach,List.foldl_cons,← replaceEach] at first
  -- The other word goes first, and what stands before it is kept.
  obtain ⟨tail,⟨start,split⟩,some,read⟩ : ∃ tail, tail <:+ word ∧ tail ≠ [] ∧ other <+: tail ++ rest := by
    simpa [Passes] using meets
  have occurs : other <:+: word ++ rest := by
    rw [← split,List.append_assoc]
    exact read.isInfix.trans (List.suffix_append start _).isInfix
  obtain ⟨front,after,text,passes⟩ := first_match solid' occurs
  have kept : front ≠ [] := by
    rintro rfl
    apply alone other inside' differs
    rw [text]
    exact List.prefix_append other after
  have short : front.length < word.length := by
    by_contra long
    obtain ⟨between,rfl⟩ : word <+: front :=
      List.prefix_of_prefix_length_le (List.prefix_append word rest) (text ▸ List.prefix_append front _) (not_lt.mp long)
    have ending : tail ++ between <:+ word ++ between := ⟨start,by rw [← split,List.append_assoc]⟩
    apply passes (tail ++ between) ending (by simp [some])
    rw [List.append_assoc] at text ⊢
    rwa [← List.append_cancel_left text]
  have lead : front <+: word :=
    List.prefix_of_prefix_length_le (text ▸ List.prefix_append front _) (List.prefix_append word rest) short.le
  rw [text,replaceAll_found solid' passes] at first
  have none : ∀ second ∈ words.erase other, ¬ second <+: front ++ (marker ++ replaceAll other marker after) := by
    intro second known read
    have early := prefix_of_apart ((clear.erase other).apart second known) read
    by_cases same : second = word
    · rw [same] at early
      exact absurd early.length_le (by omega)
    · exact alone second (List.mem_of_mem_erase known) same ((early.trans lead).trans (List.prefix_append word rest))
  have marked := marker_prefix unbordered ((clear.erase other).known (List.Subset.refl _)) none first
  have begins := (unbordered.prefix_of_around kept marked).trans lead
  exact clear.apart word inside (.inl ⟨word,List.suffix_rfl,solid,.inr begins⟩)

theorem Agrees.after_cut {word : List Char} (clear : Clear marker words) (inside : word ∈ words)
    (alone : ∀ other ∈ words, other ≠ word → Passes other word rest) (agrees : Agrees marker words (word ++ rest)) :
    Agrees marker words rest := by
  have cut : ∀ order, order.Perm words → replaceEach marker order (word ++ rest) = marker ++ replaceEach marker order rest := by
    intro order perm
    exact replaceEach_cut (clear.solid word inside) (fun other later => clear.apart other (perm.subset later))
      (perm.nodup_iff.mpr clear.nodup) (perm.mem_iff.mpr inside) (fun other later => alone other (perm.subset later))
  intro order order' perm perm'
  have same := agrees order order' perm perm'
  rw [cut order perm,cut order' perm'] at same
  exact List.append_cancel_left same

theorem Agrees.after_keep {c : Char} (clear : Clear marker words) (other : ∀ word ∈ words, ¬ word <+: c :: cs)
    (agrees : Agrees marker words (c :: cs)) : Agrees marker words cs := by
  have keep : ∀ order, order.Perm words → replaceEach marker order ([c] ++ cs) = [c] ++ replaceEach marker order cs := by
    intro order perm
    exact replaceEach_through (fun word later => clear.apart word (perm.subset later))
      (fun word later => passes_cons.mpr ⟨other word (perm.subset later),passes_nil⟩)
  intro order order' perm perm'
  have same := agrees order order' perm perm'
  rw [← List.singleton_append,keep order perm,keep order' perm'] at same
  exact List.append_cancel_left same

/-- Where the order does not matter, each word stands apart. The outer induction is on the
number of words, for a word inside another one; the inner one on the text. -/
theorem Agrees.separated (unbordered : Unbordered marker) (some : marker ≠ []) (clear : Clear marker words)
    (agrees : Agrees marker words cs) : Separated words cs := by
  induction number : words.length using Nat.strongRecOn generalizing words cs with
  | ind n fewer =>
    induction size : cs.length using Nat.strongRecOn generalizing cs with
    | ind k shorter =>
      by_cases front : ∃ word ∈ words, word <+: cs
      · -- The shortest word at the front.
        obtain ⟨word,⟨inside,lead⟩,least⟩ :=
          (measure List.length).wf.has_min {word : List Char | word ∈ words ∧ word <+: cs} front
        obtain ⟨rest,rfl⟩ := lead
        by_cases alone : ∀ other ∈ words, other ≠ word → Passes other word rest
        · have wide : 0 < word.length := List.length_pos_iff.mpr (clear.solid word inside)
          rw [List.length_append] at size
          exact .cut inside alone (shorter rest.length (by omega) (agrees.after_cut clear inside alone) rfl)
        · push Not at alone
          obtain ⟨other,inside',differs,meets⟩ := alone
          exfalso
          by_cases longer : ∃ outer ∈ words, outer ≠ word ∧ outer <+: word ++ rest
          · obtain ⟨outer,inside'',differs',lead⟩ := longer
            have bound : word.length ≤ outer.length := not_lt.mp (least outer ⟨inside'',lead⟩)
            have nested := (List.prefix_of_prefix_length_le (List.prefix_append word rest) lead bound).isInfix
            have few : (words.erase outer).length < n := by
              have pos := List.length_pos_of_mem inside''
              rw [List.length_erase_of_mem inside'']
              omega
            have agrees' := agrees.erase clear inside inside'' differs'.symm nested
            have separated := fewer _ few (clear.erase outer) agrees' rfl
            exact not_agrees_of_nested unbordered some clear inside inside'' differs'.symm nested lead.isInfix
              (separated.settled (clear.erase outer)) agrees
          · push Not at longer
            exact not_agrees_of_overlap unbordered clear inside inside' differs longer meets agrees
      · push Not at front
        cases cs with
        | nil => exact .nil
        | cons c cs =>
          rw [List.length_cons] at size
          exact .keep front (shorter cs.length (by omega) (agrees.after_keep clear front) rfl)

end agrees

section cleans
variable {marker : List Char} {words : List (List Char)} {cs : List Char}

/-- For words that do not meet the marker. -/
theorem cleans_iff_separated (unbordered : Unbordered marker) (some : marker ≠ []) (clear : Clear marker words) :
    Cleans marker words cs ↔ Separated words cs :=
  ⟨fun cleans => cleans.agrees.separated unbordered some clear,fun separated => (separated.settled clear).cleans clear.toWords⟩

/-- For words of which one lies inside the marker. -/
theorem cleans_iff_free (known : Words words) (within : ∃ word ∈ words, word <:+: marker) :
    Cleans marker words cs ↔ ∀ word ∈ words, ¬ word <:+: cs := by
  constructor
  · intro cleans word inside read
    obtain ⟨part,inside',nested⟩ := within
    have put := @marker_inside marker words cs known.solid ⟨word,inside,read⟩
    exact cleans.free words (List.Perm.refl words) part inside' (nested.trans put)
  · intro free
    exact (settled_of_free free).cleans known

/-- Where no word meets the marker, where one lies inside it and where there is only one,
the words are cleaned out of settled texts only. -/
theorem Cleans.settled (unbordered : Unbordered marker) (some : marker ≠ []) (known : Words words)
    (reach : (∀ word ∈ words, ¬ Meets word marker) ∨ (∃ word ∈ words, word <:+: marker) ∨ ∃ word, words = [word])
    (cleans : Cleans marker words cs) : Settled marker words cs := by
  rcases reach with apart | within | ⟨word,rfl⟩
  · have clear : Clear marker words := { known with apart := apart }
    exact ((cleans_iff_separated unbordered some clear).mp cleans).settled clear
  · exact settled_of_free ((cleans_iff_free known within).mp cleans)
  · exact cleans.settled_single (known.solid word List.mem_cons_self)

end cleans
end RevPilot.Library.Replacement
