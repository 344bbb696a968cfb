import Mathlib.Data.List.DropRight
import Mathlib.Data.List.Infix
import Mathlib.Data.List.TakeWhile

/-! Text operations of Python strings, computed on code points. Case mapping is
a table of the Unicode database: `Casing` carries what every such table does on
ASCII text, and the results over it hold for any table. -/
namespace RevPilot.Library.Text

/-- The code points that `str.isspace` accepts. -/
def isSpace (c : Char) : Bool :=
  let n := c.toNat
  (9 ≤ n && n ≤ 13) || (28 ≤ n && n ≤ 32) || n == 0x85 || n == 0xa0 || n == 0x1680 ||
    (0x2000 ≤ n && n ≤ 0x200a) || n == 0x2028 || n == 0x2029 || n == 0x202f || n == 0x205f ||
    n == 0x3000

def stripChars (cs : List Char) : List Char :=
  ((cs.dropWhile isSpace).reverse.dropWhile isSpace).reverse

/-- `str.strip()`. -/
def strip (s : String) : String := String.ofList (stripChars s.toList)

/-- A test of the characters one by one is a fact about all of them. -/
theorem chars_of_all {cs : List Char} {P : Char → Prop} [DecidablePred P] (tested : cs.all (fun c => decide (P c)) = true) :
    ∀ c ∈ cs, P c := by
  intro c inside
  exact of_decide_eq_true (List.all_eq_true.mp tested c inside)

/-- White space at the end of a solid text is all that `strip` takes off. -/
theorem stripChars_append (body tail : List Char) (solid : ∀ c ∈ body, isSpace c = false)
    (blank : ∀ c ∈ tail, isSpace c = true) : stripChars (body ++ tail) = body := by
  cases body with
  | nil =>
    have gone : tail.dropWhile isSpace = [] := List.dropWhile_eq_nil_iff.mpr blank
    simp [stripChars,gone]
  | cons first body =>
    have head : ((first :: body) ++ tail).dropWhile isSpace = (first :: body) ++ tail := by
      simp [solid first (List.mem_cons_self ..)]
    have last : (tail.reverse ++ (first :: body).reverse).dropWhile isSpace = (first :: body).reverse := by
      rw [List.dropWhile_append_of_pos (by simpa using blank)]
      cases flipped : (first :: body).reverse with
      | nil => simp at flipped
      | cons c cs =>
        have inside : c ∈ first :: body := by
          rw [← List.mem_reverse,flipped]
          exact List.mem_cons_self
        simp [solid c inside]
    rw [stripChars,head,List.reverse_append,last,List.reverse_reverse]

/-- Text without white space is its own `strip`. -/
theorem strip_eq_self (s : String) (solid : ∀ c ∈ s.toList, isSpace c = false) : strip s = s := by
  have whole := stripChars_append s.toList [] solid (by simp)
  rw [List.append_nil] at whole
  rw [strip,whole,String.ofList_toList]

theorem dropWhile_stripChars (cs : List Char) : (stripChars cs).dropWhile isSpace = stripChars cs := by
  have front : stripChars cs <+: cs.dropWhile isSpace := List.rdropWhile_prefix isSpace (cs.dropWhile isSpace)
  rw [List.dropWhile_eq_self_iff]
  intro bound
  rw [front.getElem bound]
  exact List.dropWhile_get_zero_not isSpace cs (Nat.lt_of_lt_of_le bound front.length_le)

/-- `strip` takes nothing more off a stripped text. -/
@[simp] theorem strip_strip (s : String) : strip (strip s) = strip s := by
  have again : stripChars (stripChars s.toList) = stripChars s.toList := by
    rw [stripChars,dropWhile_stripChars]
    exact List.rdropWhile_idempotent isSpace (s.toList.dropWhile isSpace)
  simp only [strip,String.toList_ofList,again]

/-- `needle in s`. -/
def contains (s needle : String) : Bool := decide (needle.toList <:+: s.toList)

/-- `s.startswith(lead)`. -/
def startsWith (s lead : String) : Bool := lead.toList.isPrefixOf s.toList

/-- `s.endswith(tail)`. -/
def endsWith (s tail : String) : Bool := tail.toList.isSuffixOf s.toList

@[simp] theorem startsWith_append (lead rest : String) : startsWith (lead ++ rest) lead = true := by
  simp [startsWith]

@[simp] theorem endsWith_append (rest tail : String) : endsWith (rest ++ tail) tail = true := by
  simp [endsWith]

@[simp] theorem contains_append (before needle after : String) :
    contains (before ++ needle ++ after) needle = true := by
  simp only [contains,decide_eq_true_eq,String.toList_append]
  exact ⟨_,_,rfl⟩

/-- Replaces what `matched` recognises at the head of the text, from left to right
and without overlaps; `matched` returns the text after a match. -/
def substitute (matched : List Char → Option (List Char)) (new : List Char) : Nat → List Char → List Char
  | 0, cs => cs
  | left + 1, cs =>
    match matched cs, cs with
    | some rest, _ => new ++ substitute matched new left rest
    | none, [] => []
    | none, c :: rest => c :: substitute matched new left rest

section substitute
variable {matched : List Char → Option (List Char)} {new cs rest : List Char}

theorem substitute_match (found : matched cs = some rest) (left : Nat) :
    substitute matched new (left + 1) cs = new ++ substitute matched new left rest := by
  simp only [substitute,found]

theorem substitute_skip {c : Char} (none : matched (c :: cs) = none) (left : Nat) :
    substitute matched new (left + 1) (c :: cs) = c :: substitute matched new left cs := by
  simp only [substitute,none]

theorem substitute_nil (none : matched [] = none) (left : Nat) : substitute matched new left [] = [] := by
  cases left with
  | zero => rfl
  | succ left => simp only [substitute,none]

end substitute

/-- `s.replace(old, new)` for a nonempty `old`. -/
def replace (s old new : String) : String :=
  String.ofList (substitute (fun cs => if old.toList.isPrefixOf cs then some (cs.drop old.toList.length) else none)
    new.toList s.toList.length s.toList)

/-- One text begins inside the other and agrees with it as far as both go. -/
def Meets (needle new : List Char) : Prop :=
  (∃ tail, tail <:+ needle ∧ tail ≠ [] ∧ (tail <+: new ∨ new <+: tail)) ∨
    ∃ tail, tail <:+ new ∧ tail ≠ [] ∧ (tail <+: needle ∨ needle <+: tail)

theorem shared_of_agree {xs ys : List Char} (nonempty : xs ≠ []) (nonempty' : ys ≠ []) (agree : xs <+: ys ∨ ys <+: xs) :
    ∃ c ∈ xs, c ∈ ys := by
  rcases agree with lead | lead
  · obtain ⟨c,inside⟩ := List.exists_mem_of_ne_nil xs nonempty
    exact ⟨c,inside,lead.subset inside⟩
  · obtain ⟨c,inside⟩ := List.exists_mem_of_ne_nil ys nonempty'
    exact ⟨c,lead.subset inside,inside⟩

theorem not_meets_of_disjoint {needle new : List Char} (nonempty : needle ≠ []) (nonempty' : new ≠ [])
    (disjoint : ∀ c ∈ needle, c ∉ new) : ¬ Meets needle new := by
  rintro (⟨tail,inside,some,agree⟩ | ⟨tail,inside,some,agree⟩)
  · obtain ⟨c,first,second⟩ := shared_of_agree some nonempty' agree
    exact disjoint c (inside.subset first) second
  · obtain ⟨c,first,second⟩ := shared_of_agree some nonempty agree
    exact disjoint c second (inside.subset first)

section substituted
variable {matched : List Char → Option (List Char)} {needle new : List Char}

/-- A text that does not meet the new text is read in front of it only. -/
theorem prefix_of_substitute (apart : ¬ Meets needle new) (left : Nat) (front cs : List Char)
    (read : needle <+: front ++ substitute matched new left cs) : needle <+: front ++ cs := by
  induction left generalizing front cs with
  | zero => exact read
  | succ left ih =>
    cases found : matched cs with
    | some rest =>
      rw [substitute_match found] at read
      rcases List.prefix_or_prefix_of_prefix read (List.prefix_append front _) with inside | ⟨tail,rfl⟩
      · exact inside.trans (List.prefix_append front cs)
      · have after := (List.prefix_append_right_inj front).mp read
        by_cases none : tail = []
        · rw [none,List.append_nil]
          exact List.prefix_append front cs
        · have agree := List.prefix_or_prefix_of_prefix after (List.prefix_append new _)
          exact absurd (.inl ⟨tail,List.suffix_append front tail,none,agree⟩) apart
    | none =>
      cases cs with
      | nil => rwa [substitute_nil found] at read
      | cons c cs =>
        rw [substitute_skip found,List.append_cons] at read
        rw [List.append_cons]
        exact ih _ cs read

theorem suffix_of_new (apart : ¬ Meets needle new) {out tail : List Char} (inside : tail <:+ new ++ out)
    (read : needle <+: tail) : tail <:+ out := by
  rcases List.suffix_or_suffix_of_suffix inside (List.suffix_append new out) with later | ⟨piece,rfl⟩
  · exact later
  · by_cases none : piece = []
    · rw [none]
      exact List.suffix_rfl
    · obtain ⟨before,split⟩ := inside
      rw [← List.append_assoc] at split
      have agree := List.prefix_or_prefix_of_prefix (List.prefix_append piece out) read
      exact absurd (.inr ⟨piece,⟨before,List.append_cancel_right split⟩,none,agree⟩) apart

/-- A substitution that does not meet the needle puts it nowhere. -/
theorem not_infix_substitute (apart : ¬ Meets needle new) (shrinks : ∀ cs rest, matched cs = some rest → rest <:+ cs)
    (left : Nat) (cs : List Char) (free : ¬ needle <:+: cs) : ¬ needle <:+: substitute matched new left cs := by
  induction left generalizing cs with
  | zero => exact free
  | succ left ih =>
    cases found : matched cs with
    | some rest =>
      have free' : ¬ needle <:+: rest := fun inside => free (inside.trans (shrinks cs rest found).isInfix)
      rw [substitute_match found,List.infix_iff_prefix_suffix]
      rintro ⟨tail,read,inside⟩
      exact ih rest free' (List.infix_iff_prefix_suffix.mpr ⟨tail,read,suffix_of_new apart inside read⟩)
    | none =>
      cases cs with
      | nil => rwa [substitute_nil found]
      | cons c cs =>
        rw [substitute_skip found,List.infix_cons_iff]
        rintro (read | inside)
        · exact free (prefix_of_substitute apart left [c] cs read).isInfix
        · exact ih cs (fun inside => free (inside.trans (List.suffix_cons c cs).isInfix)) inside

/-- What is matched wherever it stands is gone. -/
theorem not_infix_of_matched (apart : ¬ Meets needle new) (nonempty : needle ≠ [])
    (everywhere : ∀ cs, needle <+: cs → matched cs ≠ none)
    (shrinks : ∀ cs rest, matched cs = some rest → rest.length < cs.length) (left : Nat) (cs : List Char)
    (enough : cs.length ≤ left) : ¬ needle <:+: substitute matched new left cs := by
  induction left generalizing cs with
  | zero =>
    obtain rfl := List.length_eq_zero_iff.mp (Nat.le_zero.mp enough)
    exact fun inside => nonempty (List.infix_nil.mp inside)
  | succ left ih =>
    cases found : matched cs with
    | some rest =>
      have shorter := shrinks cs rest found
      rw [substitute_match found,List.infix_iff_prefix_suffix]
      rintro ⟨tail,read,inside⟩
      exact ih rest (by omega) (List.infix_iff_prefix_suffix.mpr ⟨tail,read,suffix_of_new apart inside read⟩)
    | none =>
      cases cs with
      | nil =>
        rw [substitute_nil found]
        exact fun inside => nonempty (List.infix_nil.mp inside)
      | cons c cs =>
        rw [substitute_skip found,List.infix_cons_iff]
        rintro (read | inside)
        · exact everywhere _ (prefix_of_substitute apart left [c] cs read) found
        · exact ih cs (Nat.le_of_succ_le_succ enough) inside

end substituted

/-- A match of a word leaves less of the text. -/
theorem word_shrinks {word : List Char} (solid : word ≠ []) (cs rest : List Char)
    (found : (if word.isPrefixOf cs then some (cs.drop word.length) else none) = some rest) : rest.length < cs.length := by
  have wide : 0 < word.length := List.length_pos_iff.mpr solid
  split at found
  next lead =>
    obtain rfl := Option.some.inj found
    have bound := (List.isPrefixOf_iff_prefix.mp lead).length_le
    rw [List.length_drop]
    omega
  next => cases found

/-- A text is no part of what replaces it. -/
theorem contains_replace_self {s needle new : String} (nonempty : needle ≠ "")
    (apart : ¬ Meets needle.toList new.toList) : contains (replace s needle new) needle = false := by
  have some : needle.toList ≠ [] := fun none => nonempty (String.toList_injective none)
  rw [contains,decide_eq_false_iff_not,replace,String.toList_ofList]
  apply not_infix_of_matched apart some
  · intro cs lead
    rw [if_pos (List.isPrefixOf_iff_prefix.mpr lead)]
    exact Option.some_ne_none _
  · exact word_shrinks some
  · exact le_rfl

theorem contains_replace {s old needle new : String} (apart : ¬ Meets needle.toList new.toList)
    (free : contains s needle = false) : contains (replace s old new) needle = false := by
  rw [contains,decide_eq_false_iff_not] at free ⊢
  rw [replace,String.toList_ofList]
  apply not_infix_substitute apart
  · intro cs rest found
    split at found
    next =>
      obtain rfl := Option.some.inj found
      exact List.drop_suffix _ _
    next => cases found
  · exact free

def isAscii (s : String) : Bool := s.toList.all (fun c => c.toNat < 128)

/-- `str.upper` and `str.lower`, with their documented value on ASCII text. -/
structure Casing where
  upper : String → String
  lower : String → String
  upper_ascii : ∀ s, isAscii s → upper s = String.ofList (s.toList.map Char.toUpper)
  lower_ascii : ∀ s, isAscii s → lower s = String.ofList (s.toList.map Char.toLower)

/-- The case table that leaves every other code point alone. -/
def asciiCasing : Casing where
  upper s := String.ofList (s.toList.map Char.toUpper)
  lower s := String.ofList (s.toList.map Char.toLower)
  upper_ascii _ _ := rfl
  lower_ascii _ _ := rfl

/-- The code points whose lower case is ASCII: the ASCII ones and the Kelvin sign. -/
def isPlain (c : Char) : Bool := c.toNat < 128 || c == '\u212a'

def lowerPlain (c : Char) : Char := if c = '\u212a' then 'k' else c.toLower

/-- A case table with what the Unicode database says of every text that has to do
with an ASCII lower case. -/
structure UnicodeCasing extends Casing where
  lower_plain : ∀ s, s.toList.all isPlain → lower s = String.ofList (s.toList.map lowerPlain)
  plain_of_lower : ∀ s, isAscii (lower s) → s.toList.all isPlain

theorem lowerPlain_ascii {c : Char} (ascii : c.toNat < 128) : lowerPlain c = c.toLower := by
  unfold lowerPlain
  rw [if_neg]
  rintro rfl
  exact absurd ascii (by decide)

theorem isAlphanum_cases (c : Char) (known : c.isAlphanum = true) :
    ((65 ≤ c.toNat ∧ c.toNat ≤ 90) ∨ (97 ≤ c.toNat ∧ c.toNat ≤ 122)) ∨ (48 ≤ c.toNat ∧ c.toNat ≤ 57) := by
  have ranges : c.isAlphanum = ((decide (c.val ≥ 'A'.val ∧ c.val ≤ 'Z'.val) ||
      (decide (c.val ≥ 'a'.val) && decide (c.val ≤ 'z'.val))) ||
        (decide (c.val ≥ '0'.val) && decide (c.val ≤ '9'.val))) := rfl
  rw [ranges] at known
  simp only [Bool.or_eq_true,Bool.and_eq_true,decide_eq_true_eq,ge_iff_le,UInt32.le_iff_toNat_le] at known
  exact known

/-- A capital letter and its lower case, and a character that has none. -/
theorem toLower_cases (c : Char) :
    (65 ≤ c.toNat ∧ c.toNat ≤ 90 ∧ c.toLower.toNat = c.toNat + 32) ∨
      ((c.toNat < 65 ∨ 90 < c.toNat) ∧ c.toLower = c) := by
  have first : 'A'.val.toNat = 65 := rfl
  have last : 'Z'.val.toNat = 90 := rfl
  by_cases upper : c.val ≥ 'A'.val ∧ c.val ≤ 'Z'.val
  · have bounds := upper
    rw [ge_iff_le,UInt32.le_iff_toNat_le,UInt32.le_iff_toNat_le,first,last] at bounds
    have lowered : c.toLower.val = c.val + ('a'.val - 'A'.val) := congrArg Char.val (dif_pos upper)
    have shift : ('a'.val - 'A'.val).toNat = 32 := rfl
    refine .inl ⟨bounds.1,bounds.2,?_⟩
    change c.toLower.val.toNat = c.val.toNat + 32
    rw [lowered,UInt32.toNat_add,shift]
    omega
  · have outside := upper
    rw [ge_iff_le,UInt32.le_iff_toNat_le,UInt32.le_iff_toNat_le,first,last] at outside
    refine .inr ⟨?_,dif_neg upper⟩
    change c.val.toNat < 65 ∨ 90 < c.val.toNat
    omega

theorem ascii_of_toLower {c : Char} (ascii : c.toLower.toNat < 128) : c.toNat < 128 := by
  obtain ⟨_,high,_⟩ | ⟨_,same⟩ := toLower_cases c
  · omega
  · rwa [same] at ascii

theorem plain_of_lowerPlain {c : Char} (ascii : (lowerPlain c).toNat < 128) : isPlain c = true := by
  by_cases kelvin : c = '\u212a'
  · simp [isPlain,kelvin]
  · rw [lowerPlain,if_neg kelvin] at ascii
    simp [isPlain,ascii_of_toLower ascii]

theorem lowerPlain_lower (s : String) (ascii : isAscii s = true) :
    String.ofList (s.toList.map lowerPlain) = String.ofList (s.toList.map Char.toLower) := by
  congr 1
  apply List.map_congr_left
  intro c inside
  have small : c.toNat < 128 := by simpa using List.all_eq_true.mp ascii c inside
  exact lowerPlain_ascii small

theorem all_plain_of_lower (s : String) (ascii : isAscii (String.ofList (s.toList.map lowerPlain)) = true) :
    s.toList.all isPlain = true := by
  rw [List.all_eq_true]
  intro c inside
  apply plain_of_lowerPlain
  simpa using List.all_eq_true.mp ascii (lowerPlain c) (by simpa using ⟨c,inside,rfl⟩)

/-- The table that lowers plain code points only. -/
def plainCasing : UnicodeCasing where
  upper := asciiCasing.upper
  lower s := String.ofList (s.toList.map lowerPlain)
  upper_ascii := asciiCasing.upper_ascii
  lower_ascii := lowerPlain_lower
  lower_plain _ _ := rfl
  plain_of_lower := all_plain_of_lower

end RevPilot.Library.Text

/-! Texts that `strip` leaves alone, by their ends. -/
namespace RevPilot.Library.Text

/-- Neither the first nor the last character is white space. -/
structure SolidEnds (cs : List Char) : Prop where
  first : ∀ c, cs.head? = some c → isSpace c = false
  last : ∀ c, cs.getLast? = some c → isSpace c = false

theorem stripChars_eq_self_iff (cs : List Char) : stripChars cs = cs ↔ SolidEnds cs := by
  constructor
  · intro same
    constructor
    · intro c head
      have front := dropWhile_stripChars cs
      rw [same] at front
      cases cs with
      | nil => cases head
      | cons a cs =>
        obtain rfl : a = c := Option.some.inj head
        by_contra space
        rw [List.dropWhile_cons_of_pos (by simpa using space)] at front
        have shorter := (List.dropWhile_suffix isSpace (l := cs)).length_le
        rw [front,List.length_cons] at shorter
        omega
    · intro c final
      have tail : (cs.dropWhile isSpace).rdropWhile isSpace = cs := same
      have front : cs.dropWhile isSpace = cs := by
        have kept := dropWhile_stripChars cs
        rwa [same] at kept
      rw [front,List.rdropWhile_eq_self_iff] at tail
      have nonempty : cs ≠ [] := by
        rintro rfl
        cases final
      rw [List.getLast?_eq_some_getLast nonempty] at final
      cases final
      simpa using tail nonempty
  · rintro ⟨first,last⟩
    have front : cs.dropWhile isSpace = cs := by
      cases cs with
      | nil => rfl
      | cons a cs => rw [List.dropWhile_cons_of_neg (by simpa using first a rfl)]
    have tail : (cs.dropWhile isSpace).rdropWhile isSpace = cs := by
      rw [front,List.rdropWhile_eq_self_iff]
      intro nonempty
      simpa using last _ (List.getLast?_eq_some_getLast nonempty)
    exact tail

theorem strip_eq_self_iff (s : String) : strip s = s ↔ SolidEnds s.toList := by
  rw [← stripChars_eq_self_iff]
  constructor
  · intro same
    have chars := congrArg String.toList same
    rwa [strip,String.toList_ofList] at chars
  · intro same
    rw [strip,same,String.ofList_toList]

/-- A solid text in front stays in front. -/
theorem startsWith_strip {s lead : String} (solid : ∀ c ∈ lead.toList, isSpace c = false)
    (starts : startsWith s lead = true) : startsWith (strip s) lead = true := by
  obtain ⟨rest,split⟩ := List.isPrefixOf_iff_prefix.mp starts
  rw [startsWith,List.isPrefixOf_iff_prefix,strip,String.toList_ofList,← split]
  cases chars : lead.toList with
  | nil => exact List.nil_prefix
  | cons c cs =>
    rw [chars] at solid
    have front : ((c :: cs) ++ rest).dropWhile isSpace = (c :: cs) ++ rest := by
      simp [solid c (List.mem_cons_self ..)]
    have last : (c :: cs).reverse.dropWhile isSpace = (c :: cs).reverse := by
      rw [List.dropWhile_eq_self_iff]
      intro bound
      have inside : (c :: cs).reverse[0] ∈ c :: cs := List.mem_reverse.mp (List.getElem_mem bound)
      rw [solid _ inside]
      exact Bool.false_ne_true
    rw [stripChars,front,List.reverse_append,List.dropWhile_append,last]
    split
    · rw [List.reverse_reverse]
    · rw [List.reverse_append,List.reverse_reverse]
      exact List.prefix_append _ _

end RevPilot.Library.Text
