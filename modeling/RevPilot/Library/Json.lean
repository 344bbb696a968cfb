import RevPilot.Library.Text
import Mathlib

/-! JSON trees and their text. A tree keeps its object members in the order they
are written, so the text determines the tree: `render_injective`. Numbers other
than integers are carried by their literal, which the structure keeps apart from
every integer literal. -/
namespace RevPilot.Library.JsonText

def isNumeric (c : Char) : Bool := c.isDigit || ['-','+','.','e','E','I','n','f','i','t','y','N','a'].contains c

def isLead (c : Char) : Bool := c.isDigit || ['-','I','N'].contains c

/-- A literal that `float.__repr__` can produce, `Infinity` and `NaN` included. -/
def isFloatText (text : List Char) : Bool :=
  text.all isNumeric && (text.head?.map isLead == some true) &&
    text.any (fun c => !c.isDigit && c != '-')

structure FloatText where
  text : List Char
  accepted : isFloatText text = true
  deriving DecidableEq

inductive Tree : Type
  | null
  | bool (b : Bool)
  | int (i : Int)
  | float (x : FloatText)
  | str (s : String)
  | arr (items : List Tree)
  | obj (members : List (String × Tree))

/-- `ensure_ascii`, and whether the separators are followed by a blank. -/
structure Style where
  ascii : Bool
  spaced : Bool

def hexDigit (n : Nat) : Char := if n < 10 then Char.ofNat (48 + n) else Char.ofNat (87 + n)

def unit (n : Nat) : List Char :=
  ['\\','u',hexDigit (n / 4096 % 16),hexDigit (n / 256 % 16),hexDigit (n / 16 % 16),hexDigit (n % 16)]

def escape (ascii : Bool) (c : Char) : List Char :=
  let n := c.toNat
  if n = 34 then ['\\','"']
  else if n = 92 then ['\\','\\']
  else if n = 8 then ['\\','b']
  else if n = 9 then ['\\','t']
  else if n = 10 then ['\\','n']
  else if n = 12 then ['\\','f']
  else if n = 13 then ['\\','r']
  else if n < 32 then unit n
  else if ascii = false ∨ n < 127 then [c]
  else if n < 0x10000 then unit n
  else unit (0xd800 + (n - 0x10000) / 1024) ++ unit (0xdc00 + (n - 0x10000) % 1024)

def quote (ascii : Bool) (s : String) : List Char :=
  '"' :: (s.toList.flatMap (escape ascii) ++ ['"'])

def blank (style : Style) : List Char := if style.spaced then [' '] else []

mutual
def print (style : Style) : Tree → List Char
  | .null => ['n','u','l','l']
  | .bool true => ['t','r','u','e']
  | .bool false => ['f','a','l','s','e']
  | .int i => i.repr.toList
  | .float x => x.text
  | .str s => quote style.ascii s
  | .arr [] => ['[',']']
  | .arr (item :: items) => '[' :: (print style item ++ printItems style items)
  | .obj [] => ['{','}']
  | .obj ((key,value) :: members) =>
    '{' :: (quote style.ascii key ++ ':' :: (blank style ++ print style value ++
      printMembers style members))
/-- The further items of an array, with its closing bracket. -/
def printItems (style : Style) : List Tree → List Char
  | [] => [']']
  | item :: items => ',' :: (blank style ++ print style item ++ printItems style items)
def printMembers (style : Style) : List (String × Tree) → List Char
  | [] => ['}']
  | (key,value) :: members =>
    ',' :: (blank style ++ quote style.ascii key ++ ':' :: (blank style ++ print style value ++
      printMembers style members))
end

def render (style : Style) (tree : Tree) : String := String.ofList (print style tree)


/-! Reading one escaped character back. -/

private def hexValue (c : Char) : Nat := if c.toNat < 58 then c.toNat - 48 else c.toNat - 87

private def shortValue (c : Char) : Nat :=
  if c = 'b' then 8 else if c = 't' then 9 else if c = 'n' then 10 else if c = 'f' then 12
  else if c = 'r' then 13 else c.toNat

private def readUnit : List Char → Option (Nat × List Char)
  | '\\' :: 'u' :: a :: b :: c :: d :: rest =>
    some (hexValue a * 4096 + hexValue b * 256 + hexValue c * 16 + hexValue d,rest)
  | _ => none

private def readChar (text : List Char) : Option (Char × List Char) :=
  match text with
  | '\\' :: 'u' :: _ =>
    match readUnit text with
    | none => none
    | some (high,rest) =>
      if 0xd800 ≤ high ∧ high < 0xdc00 then
        (readUnit rest).map fun low =>
          (Char.ofNat (0x10000 + (high - 0xd800) * 1024 + (low.1 - 0xdc00)),low.2)
      else some (Char.ofNat high,rest)
  | '\\' :: c :: rest => some (Char.ofNat (shortValue c),rest)
  | c :: rest => some (c,rest)
  | [] => none

private theorem hexValue_hexDigit : ∀ n, n < 16 → hexValue (hexDigit n) = n := by decide

private theorem readUnit_unit (n : Nat) (bound : n < 65536) (rest : List Char) :
    readUnit (unit n ++ rest) = some (n,rest) := by
  simp only [unit,List.cons_append,List.nil_append,readUnit]
  rw [hexValue_hexDigit _ (Nat.mod_lt _ (by omega)),hexValue_hexDigit _ (Nat.mod_lt _ (by omega)),
    hexValue_hexDigit _ (Nat.mod_lt _ (by omega)),hexValue_hexDigit _ (Nat.mod_lt _ (by omega))]
  have whole : n / 4096 % 16 * 4096 + n / 256 % 16 * 256 + n / 16 % 16 * 16 + n % 16 = n := by omega
  rw [whole]

private theorem readChar_unit (n : Nat) (bound : n < 65536) (rest : List Char) :
    readChar (unit n ++ rest) =
      if 0xd800 ≤ n ∧ n < 0xdc00 then
        (readUnit rest).map fun low =>
          (Char.ofNat (0x10000 + (n - 0xd800) * 1024 + (low.1 - 0xdc00)),low.2)
      else some (Char.ofNat n,rest) := by
  have read := readUnit_unit n bound rest
  unfold readChar
  simp only [unit,List.cons_append,List.nil_append] at read ⊢
  rw [read]

private theorem scalar_range (c : Char) : c.toNat < 0xd800 ∨ (0xdfff < c.toNat ∧ c.toNat < 0x110000) := c.valid

/-- How one character is written: by a short escape, as itself, by its own unit or by
the two units of a surrogate pair. -/
theorem escape_cases (ascii : Bool) (c : Char) :
    (∃ short, escape ascii c = ['\\',short] ∧ shortValue short = c.toNat ∧ short ≠ 'u') ∨
    (escape ascii c = [c] ∧ c ≠ '"' ∧ c ≠ '\\') ∨
    (escape ascii c = unit c.toNat ∧ c.toNat < 0x10000) ∨
    (escape ascii c =
      unit (0xd800 + (c.toNat - 0x10000) / 1024) ++ unit (0xdc00 + (c.toNat - 0x10000) % 1024) ∧
      0x10000 ≤ c.toNat) := by
  unfold escape
  dsimp only
  by_cases quoteMark : c.toNat = 34
  · rw [if_pos quoteMark]
    exact .inl ⟨'"',rfl,quoteMark.symm,by decide⟩
  rw [if_neg quoteMark]
  by_cases slash : c.toNat = 92
  · rw [if_pos slash]
    exact .inl ⟨'\\',rfl,slash.symm,by decide⟩
  rw [if_neg slash]
  by_cases backspace : c.toNat = 8
  · rw [if_pos backspace]
    exact .inl ⟨'b',rfl,backspace.symm,by decide⟩
  rw [if_neg backspace]
  by_cases tab : c.toNat = 9
  · rw [if_pos tab]
    exact .inl ⟨'t',rfl,tab.symm,by decide⟩
  rw [if_neg tab]
  by_cases newline : c.toNat = 10
  · rw [if_pos newline]
    exact .inl ⟨'n',rfl,newline.symm,by decide⟩
  rw [if_neg newline]
  by_cases feed : c.toNat = 12
  · rw [if_pos feed]
    exact .inl ⟨'f',rfl,feed.symm,by decide⟩
  rw [if_neg feed]
  by_cases ret : c.toNat = 13
  · rw [if_pos ret]
    exact .inl ⟨'r',rfl,ret.symm,by decide⟩
  rw [if_neg ret]
  by_cases control : c.toNat < 32
  · rw [if_pos control]
    exact .inr (.inr (.inl ⟨rfl,by omega⟩))
  rw [if_neg control]
  by_cases plain : ascii = false ∨ c.toNat < 127
  · rw [if_pos plain]
    refine .inr (.inl ⟨rfl,?_,?_⟩)
    · rintro rfl
      exact quoteMark rfl
    · rintro rfl
      exact slash rfl
  rw [if_neg plain]
  by_cases basic : c.toNat < 0x10000
  · rw [if_pos basic]
    exact .inr (.inr (.inl ⟨rfl,basic⟩))
  · rw [if_neg basic]
    exact .inr (.inr (.inr ⟨rfl,Nat.le_of_not_lt basic⟩))

private theorem readChar_short {short : Char} (other : short ≠ 'u') (rest : List Char) :
    readChar ('\\' :: short :: rest) = some (Char.ofNat (shortValue short),rest) := by
  unfold readChar
  split
  · rename_i same
    exact absurd (List.cons.inj (List.cons.inj same).2).1 other
  · rename_i same
    obtain ⟨rfl,rfl⟩ := List.cons.inj (List.cons.inj same).2
    rfl
  · rename_i plain same
    exact (plain short rest (List.cons.inj same).1.symm (List.cons.inj same).2.symm).elim
  · contradiction

private theorem readChar_plain {c : Char} (other : c ≠ '\\') (rest : List Char) :
    readChar (c :: rest) = some (c,rest) := by
  unfold readChar
  split
  · rename_i same
    exact absurd (List.cons.inj same).1 other
  · rename_i same
    exact absurd (List.cons.inj same).1 other
  · rename_i same
    obtain ⟨rfl,rfl⟩ := List.cons.inj same
    rfl
  · contradiction

private theorem readChar_escape (ascii : Bool) (c : Char) (rest : List Char) :
    readChar (escape ascii c ++ rest) = some (c,rest) := by
  have back := Char.ofNat_toNat c
  have range := scalar_range c
  obtain ⟨short,written,value,other⟩ | ⟨written,-,other⟩ | ⟨written,basic⟩ | ⟨written,beyond⟩ := escape_cases ascii c
  · rw [written,List.cons_append,List.cons_append,List.nil_append,readChar_short other,value,back]
  · rw [written,List.cons_append,List.nil_append,readChar_plain other]
  · rw [written,readChar_unit _ basic,if_neg (by omega),back]
  · generalize c.toNat = n at back range written beyond
    rw [written,List.append_assoc,readChar_unit _ (by omega),if_pos (by omega),readUnit_unit _ (by omega)]
    have whole : 0x10000 + (0xd800 + (n - 0x10000) / 1024 - 0xd800) * 1024 +
        (0xdc00 + (n - 0x10000) % 1024 - 0xdc00) = n := by omega
    simp only [Option.map_some,whole,back]

private theorem escape_head (ascii : Bool) (c : Char) :
    ∃ first rest, escape ascii c = first :: rest ∧ first ≠ '"' := by
  obtain ⟨short,written,-⟩ | ⟨written,other,-⟩ | ⟨written,-⟩ | ⟨written,-⟩ := escape_cases ascii c
  · exact ⟨'\\',_,written,by decide⟩
  · exact ⟨c,[],written,other⟩
  · exact ⟨'\\',_,written,by decide⟩
  · exact ⟨'\\',_,written,by decide⟩

private theorem body_unique (ascii : Bool) (cs ds r s : List Char)
    (same : cs.flatMap (escape ascii) ++ '"' :: r = ds.flatMap (escape ascii) ++ '"' :: s) :
    cs = ds ∧ r = s := by
  induction cs generalizing ds with
  | nil =>
    cases ds with
    | nil => exact ⟨rfl,by simpa using same⟩
    | cons d ds =>
      obtain ⟨first,rest,shape,other⟩ := escape_head ascii d
      rw [List.flatMap_cons,shape] at same
      exact absurd (List.cons.inj same).1.symm other
  | cons c cs ih =>
    cases ds with
    | nil =>
      obtain ⟨first,rest,shape,other⟩ := escape_head ascii c
      rw [List.flatMap_cons,shape] at same
      exact absurd (List.cons.inj same).1 other
    | cons d ds =>
      simp only [List.flatMap_cons,List.append_assoc] at same
      have read := congrArg readChar same
      rw [readChar_escape,readChar_escape,Option.some.injEq,Prod.mk.injEq] at read
      obtain ⟨rfl,tail⟩ := read
      obtain ⟨rfl,rest⟩ := ih ds tail
      exact ⟨rfl,rest⟩

theorem quote_unique (ascii : Bool) (a b : String) (r s : List Char)
    (same : quote ascii a ++ r = quote ascii b ++ s) : a = b ∧ r = s := by
  simp only [quote,List.cons_append,List.append_assoc,List.nil_append,List.cons.injEq,true_and] at same
  obtain ⟨chars,rest⟩ := body_unique ascii a.toList b.toList r s same
  exact ⟨String.toList_injective chars,rest⟩

/-! Numbers end where the first character that is not numeric stands. -/

def Stops (r : List Char) : Prop := ∀ c ∈ r.head?, isNumeric c = false

private theorem takeWhile_stops (text r : List Char) (numeric : ∀ c ∈ text, isNumeric c = true)
    (stops : Stops r) : (text ++ r).takeWhile isNumeric = text := by
  rw [List.takeWhile_append_of_pos numeric]
  cases r with
  | nil => simp
  | cons c r => simp [stops c (by simp)]

private theorem number_unique (a b r s : List Char) (left : ∀ c ∈ a, isNumeric c = true)
    (right : ∀ c ∈ b, isNumeric c = true) (stopsLeft : Stops r) (stopsRight : Stops s)
    (same : a ++ r = b ++ s) : a = b ∧ r = s := by
  have texts : a = b := by
    rw [← takeWhile_stops a r left stopsLeft,same,takeWhile_stops b s right stopsRight]
  subst texts
  exact ⟨rfl,List.append_cancel_left same⟩

private theorem digit_or_minus (i : Int) : ∀ c ∈ i.repr.toList, c.isDigit = true ∨ c = '-' := by
  intro c member
  cases i with
  | ofNat n =>
    simp only [Int.repr,Nat.toList_repr] at member
    exact .inl (Nat.isDigit_of_mem_toDigits (by omega) (by omega) member)
  | negSucc n =>
    simp only [Int.repr,String.toList_append,List.mem_append,Nat.toList_repr] at member
    rcases member with sign | digits
    · exact .inr (by simpa using sign)
    · exact .inl (Nat.isDigit_of_mem_toDigits (by omega) (by omega) digits)

theorem int_numeric (i : Int) : ∀ c ∈ i.repr.toList, isNumeric c = true := by
  intro c member
  rcases digit_or_minus i c member with digit | minus
  · simp [isNumeric,digit]
  · subst minus; decide

private theorem int_ne_float (i : Int) (x : FloatText) : i.repr.toList ≠ x.text := by
  intro same
  have accepted := x.accepted
  simp only [isFloatText,Bool.and_eq_true] at accepted
  obtain ⟨c,member,marked⟩ := List.any_eq_true.mp accepted.2
  rw [← same] at member
  rcases digit_or_minus i c member with digit | minus
  · simp [digit] at marked
  · subst minus; exact absurd marked (by decide)

theorem float_numeric (x : FloatText) : ∀ c ∈ x.text, isNumeric c = true := by
  have accepted := x.accepted
  simp only [isFloatText,Bool.and_eq_true] at accepted
  exact List.all_eq_true.mp accepted.1.1

/-! The first character tells the kind of a value. -/

private def kindOf (c : Char) : Nat :=
  if c = 'n' then 0 else if c = 't' then 1 else if c = 'f' then 2 else if c = '"' then 4
  else if c = '[' then 5 else if c = '{' then 6 else if isLead c then 3 else 7

private def kind : Tree → Nat
  | .null => 0
  | .bool true => 1
  | .bool false => 2
  | .int _ => 3
  | .float _ => 3
  | .str _ => 4
  | .arr _ => 5
  | .obj _ => 6

private theorem kindOf_lead (c : Char) (lead : isLead c = true) : kindOf c = 3 := by
  have other (d : Char) (bad : isLead d = false) : c ≠ d := by
    intro same
    rw [same,bad] at lead
    exact Bool.false_ne_true lead
  simp [kindOf,lead,other 'n' (by decide),other 't' (by decide),other 'f' (by decide),
    other '"' (by decide),other '[' (by decide),other '{' (by decide)]

private theorem print_head (style : Style) (tree : Tree) :
    ∃ first rest, print style tree = first :: rest ∧ kindOf first = kind tree := by
  cases tree with
  | null => exact ⟨_,_,by rw [print],by decide⟩
  | bool b => cases b <;> exact ⟨_,_,by rw [print],by decide⟩
  | int i =>
    rw [print]
    cases shape : i.repr.toList with
    | nil =>
      cases i with
      | ofNat n => exact absurd shape (by simp [Int.repr,Nat.toList_repr,Nat.toDigits_ne_nil])
      | negSucc n => simp [Int.repr] at shape
    | cons first rest =>
      refine ⟨first,rest,rfl,kindOf_lead first ?_⟩
      rcases digit_or_minus i first (by simp [shape]) with digit | minus
      · simp [isLead,digit]
      · subst minus; decide
  | float x =>
    rw [print]
    have accepted := x.accepted
    simp only [isFloatText,Bool.and_eq_true] at accepted
    cases shape : x.text with
    | nil => simp [shape] at accepted
    | cons first rest =>
      have lead := accepted.1.2
      rw [shape] at lead
      exact ⟨first,rest,rfl,kindOf_lead first (by simpa using lead)⟩
  | str s => exact ⟨_,_,by rw [print,quote],rfl⟩
  | arr items => cases items <;> exact ⟨_,_,by rw [print],rfl⟩
  | obj members => cases members <;> exact ⟨_,_,by rw [print],rfl⟩

private theorem kind_eq {style : Style} {a b : Tree} {r s : List Char}
    (same : print style a ++ r = print style b ++ s) : kind a = kind b := by
  obtain ⟨first,rest,shape,kindA⟩ := print_head style a
  obtain ⟨other,tail,shapeB,kindB⟩ := print_head style b
  rw [shape,shapeB] at same
  rw [← kindA,← kindB,(List.cons.inj same).1]

private theorem print_ne {style : Style} {tree : Tree} {c : Char} {r s : List Char}
    (bad : kindOf c = 7) : print style tree ++ r ≠ c :: s := by
  obtain ⟨first,rest,shape,kindFirst⟩ := print_head style tree
  rw [shape]
  intro same
  rw [(List.cons.inj same).1,bad] at kindFirst
  cases tree with
  | bool b => cases b <;> simp [kind] at kindFirst
  | _ => simp [kind] at kindFirst

private theorem stops_cons {c : Char} {r : List Char} (plain : isNumeric c = false) : Stops (c :: r) := by
  intro d member
  obtain rfl : c = d := by simpa using member
  exact plain

private theorem stops_items (style : Style) (items : List Tree) (r : List Char) :
    Stops (printItems style items ++ r) := by
  cases items <;> rw [printItems] <;> exact stops_cons (by decide)

private theorem stops_members (style : Style) (members : List (String × Tree)) (r : List Char) :
    Stops (printMembers style members ++ r) := by
  rcases members with _ | ⟨⟨key,value⟩,members⟩ <;> rw [printMembers] <;> exact stops_cons (by decide)

mutual
/-- A value followed by anything that does not continue a number is read in
one way only. -/
theorem print_unique (style : Style) : (a b : Tree) → (r s : List Char) → Stops r → Stops s →
    print style a ++ r = print style b ++ s → a = b ∧ r = s
  | .null, b, r, s, _, _, same => by
    have kinds := kind_eq same
    cases b <;> simp [kind] at kinds
    case null => simpa [print] using same
    case bool b => cases b <;> simp at kinds
  | .bool b, c, r, s, _, _, same => by
    have kinds := kind_eq same
    cases b <;> cases c <;> simp [kind] at kinds
    all_goals
      rename_i c
      cases c <;> simp at kinds
      simpa [print] using same
  | .int i, b, r, s, left, right, same => by
    have kinds := kind_eq same
    cases b <;> simp [kind] at kinds
    case bool b => cases b <;> simp at kinds
    case int j =>
      simp only [print] at same
      obtain ⟨texts,rest⟩ := number_unique _ _ r s (int_numeric i) (int_numeric j) left right same
      obtain rfl := Int.repr_injective (String.toList_injective texts)
      exact ⟨rfl,rest⟩
    case float x =>
      simp only [print] at same
      obtain ⟨texts,_⟩ := number_unique _ _ r s (int_numeric i) (float_numeric x) left right same
      exact absurd texts (int_ne_float i x)
  | .float x, b, r, s, left, right, same => by
    have kinds := kind_eq same
    cases b <;> simp [kind] at kinds
    case bool b => cases b <;> simp at kinds
    case int j =>
      simp only [print] at same
      obtain ⟨texts,_⟩ := number_unique _ _ r s (float_numeric x) (int_numeric j) left right same
      exact absurd texts.symm (int_ne_float j x)
    case float y =>
      simp only [print] at same
      obtain ⟨texts,rest⟩ := number_unique _ _ r s (float_numeric x) (float_numeric y) left right same
      cases x; cases y
      obtain rfl := texts
      exact ⟨rfl,rest⟩
  | .str t, b, r, s, _, _, same => by
    have kinds := kind_eq same
    cases b <;> simp [kind] at kinds
    case bool b => cases b <;> simp at kinds
    case str u =>
      simp only [print] at same
      obtain ⟨rfl,rest⟩ := quote_unique style.ascii t u r s same
      exact ⟨rfl,rest⟩
  | .arr items, b, r, s, left, right, same => by
    have kinds := kind_eq same
    cases b <;> simp [kind] at kinds
    case bool b => cases b <;> simp at kinds
    case arr others =>
      cases items with
      | nil =>
        cases others with
        | nil => simpa [print] using same
        | cons y ys =>
          simp only [print,List.cons_append,List.append_assoc,List.cons.injEq,true_and] at same
          exact absurd same.symm (print_ne (by decide))
      | cons x xs =>
        cases others with
        | nil =>
          simp only [print,List.cons_append,List.append_assoc,List.cons.injEq,true_and] at same
          exact absurd same (print_ne (by decide))
        | cons y ys =>
          simp only [print,List.cons_append,List.append_assoc,List.cons.injEq,true_and] at same
          obtain ⟨rfl,tail⟩ := print_unique style x y _ _ (stops_items _ _ _) (stops_items _ _ _) same
          obtain ⟨rfl,rest⟩ := items_unique style xs ys r s tail
          exact ⟨rfl,rest⟩
  | .obj members, b, r, s, left, right, same => by
    have kinds := kind_eq same
    cases b <;> simp [kind] at kinds
    case bool b => cases b <;> simp at kinds
    case obj others =>
      rcases members with _ | ⟨⟨key,x⟩,xs⟩
      · rcases others with _ | ⟨⟨other,y⟩,ys⟩
        · simpa [print] using same
        · simp [print,quote] at same
      · rcases others with _ | ⟨⟨other,y⟩,ys⟩
        · simp [print,quote] at same
        · simp only [print,List.cons_append,List.append_assoc,List.cons.injEq,true_and] at same
          obtain ⟨rfl,colon⟩ := quote_unique style.ascii key other _ _ same
          have value := List.append_cancel_left (List.cons.inj colon).2
          obtain ⟨rfl,tail⟩ := print_unique style x y _ _ (stops_members _ _ _) (stops_members _ _ _) value
          obtain ⟨rfl,rest⟩ := members_unique style xs ys r s tail
          exact ⟨rfl,rest⟩
theorem items_unique (style : Style) : (xs ys : List Tree) → (r s : List Char) →
    printItems style xs ++ r = printItems style ys ++ s → xs = ys ∧ r = s
  | [], ys, r, s, same => by
    cases ys <;> simp [printItems] at same
    exact ⟨rfl,same⟩
  | x :: xs, ys, r, s, same => by
    cases ys with
    | nil => simp [printItems] at same
    | cons y ys =>
      simp only [printItems,List.cons_append,List.append_assoc,List.cons.injEq,true_and] at same
      have value := List.append_cancel_left same
      obtain ⟨rfl,tail⟩ := print_unique style x y _ _ (stops_items _ _ _) (stops_items _ _ _) value
      obtain ⟨rfl,rest⟩ := items_unique style xs ys r s tail
      exact ⟨rfl,rest⟩
theorem members_unique (style : Style) : (xs ys : List (String × Tree)) → (r s : List Char) →
    printMembers style xs ++ r = printMembers style ys ++ s → xs = ys ∧ r = s
  | [], ys, r, s, same => by
    rcases ys with _ | ⟨⟨other,y⟩,ys⟩ <;> simp [printMembers] at same
    exact ⟨rfl,same⟩
  | (key,x) :: xs, ys, r, s, same => by
    rcases ys with _ | ⟨⟨other,y⟩,ys⟩
    · simp [printMembers] at same
    · simp only [printMembers,List.cons_append,List.append_assoc,List.cons.injEq,true_and] at same
      obtain ⟨rfl,colon⟩ := quote_unique style.ascii key other _ _ (List.append_cancel_left same)
      have value := List.append_cancel_left (List.cons.inj colon).2
      obtain ⟨rfl,tail⟩ := print_unique style x y _ _ (stops_members _ _ _) (stops_members _ _ _) value
      obtain ⟨rfl,rest⟩ := members_unique style xs ys r s tail
      exact ⟨rfl,rest⟩
end

/-- The text of a tree determines the tree. -/
theorem render_injective (style : Style) : Function.Injective (render style) := by
  intro a b same
  have texts : print style a = print style b := String.ofList_injective same
  have ends : Stops [] := by simp [Stops]
  exact (print_unique style a b [] [] ends ends (by simpa using texts)).1

end RevPilot.Library.JsonText
