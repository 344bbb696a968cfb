import RevPilot.Library.JsonValues
import RevPilot.Library.PyValue

/-! `json.loads`, and `json.dumps` with an indentation. What was written with blanks and line
feeds between its parts is read back as the value it was written for. The float that a
literal stands for is a parameter. -/
namespace RevPilot.Library.JsonText

section strings

def hexValue? (c : Char) : Option Nat :=
  let n := c.toNat
  if c.isDigit then some (n - 48)
  else if 97 ≤ n ∧ n ≤ 102 then some (n - 87)
  else if 65 ≤ n ∧ n ≤ 70 then some (n - 55)
  else none

/-- The number that four hexadecimal digits are, and the rest. -/
def code? : List Char → Option (Nat × List Char)
  | a :: b :: c :: d :: rest => do
    return ((← hexValue? a) * 4096 + (← hexValue? b) * 256 + (← hexValue? c) * 16 + (← hexValue? d),rest)
  | _ => none

/-- A code point; a lone surrogate, which no text here holds, is refused. -/
def scalar? (n : Nat) : Option Char := if n < 0xd800 ∨ 0xdfff < n ∧ n < 0x110000 then some (Char.ofNat n) else none

def shortEscape? : Char → Option Char
  | '"' => some '"'
  | '\\' => some '\\'
  | '/' => some '/'
  | 'b' => some (Char.ofNat 8)
  | 'f' => some (Char.ofNat 12)
  | 'n' => some (Char.ofNat 10)
  | 'r' => some (Char.ofNat 13)
  | 't' => some (Char.ofNat 9)
  | _ => none

/-- A code unit behind its `\u`, with the second one of a surrogate pair. -/
def scanUnit (text : List Char) : Option (Char × List Char) := do
  let (n,rest) ← code? text
  if 0xd800 ≤ n ∧ n < 0xdc00 then
    match rest with
    | '\\' :: 'u' :: more =>
      let (low,tail) ← code? more
      if 0xdc00 ≤ low ∧ low < 0xe000 then
        return (← scalar? (0x10000 + (n - 0xd800) * 1024 + (low - 0xdc00)),tail)
      else none
    | _ => none
  else return (← scalar? n,rest)

/-- One character of a string, which may be escaped; control characters may not stand for themselves. -/
def scanChar : List Char → Option (Char × List Char)
  | [] => none
  | c :: rest =>
    if c = '\\' then
      match rest with
      | [] => none
      | kind :: more => if kind = 'u' then scanUnit more else (shortEscape? kind).map fun c => (c,more)
    else if c.toNat < 32 then none
    else some (c,rest)

/-- The characters up to the closing quotation mark, and what follows it. -/
def scanString : Nat → List Char → Option (List Char × List Char)
  | 0, _ => none
  | n + 1, text =>
    if text.head? = some '"' then some ([],text.tail)
    else do
      let (c,rest) ← scanChar text
      let (chars,tail) ← scanString n rest
      return (c :: chars,tail)

theorem hexValue_hexDigit? : ∀ n < 16, hexValue? (hexDigit n) = some n := by decide

theorem unit_append (n : Nat) (rest : List Char) : unit n ++ rest = '\\' :: 'u' :: ((unit n).drop 2 ++ rest) := rfl

theorem code_unit {n : Nat} (bound : n < 0x10000) (rest : List Char) :
    code? ((unit n).drop 2 ++ rest) = some (n,rest) := by
  have digit (k : Nat) : hexValue? (hexDigit (k % 16)) = some (k % 16) :=
    hexValue_hexDigit? _ (Nat.mod_lt _ (by omega))
  have whole : n / 4096 % 16 * 4096 + n / 256 % 16 * 256 + n / 16 % 16 * 16 + n % 16 = n := by omega
  simp [unit,code?,digit,whole]

theorem scalar_toNat (c : Char) : scalar? c.toNat = some c := by
  have scalar : c.toNat < 0xd800 ∨ 0xdfff < c.toNat ∧ c.toNat < 0x110000 := c.valid
  rw [scalar?,if_pos scalar,Char.ofNat_toNat]

theorem scanUnit_basic {c : Char} (basic : c.toNat < 0x10000) (rest : List Char) :
    scanUnit ((unit c.toNat).drop 2 ++ rest) = some (c,rest) := by
  have scalar : c.toNat < 0xd800 ∨ 0xdfff < c.toNat ∧ c.toNat < 0x110000 := c.valid
  have surrogate : ¬ (0xd800 ≤ c.toNat ∧ c.toNat < 0xdc00) := by omega
  rw [scanUnit,code_unit basic]
  simp only [Option.bind_eq_bind,Option.bind_some,if_neg surrogate,scalar_toNat]
  exact congrArg some rfl

theorem scanUnit_pair {high low : Nat} (first : 0xd800 ≤ high ∧ high < 0xdc00) (second : 0xdc00 ≤ low ∧ low < 0xe000)
    {c : Char} (scalar : scalar? (0x10000 + (high - 0xd800) * 1024 + (low - 0xdc00)) = some c) (rest : List Char) :
    scanUnit ((unit high).drop 2 ++ (unit low ++ rest)) = some (c,rest) := by
  rw [scanUnit,code_unit (by omega),unit_append low]
  simp only [Option.bind_eq_bind,Option.bind_some,if_pos first]
  rw [code_unit (by omega),Option.bind_some]
  simp only [if_pos second,scalar,Option.bind_some]
  rfl

theorem scanUnit_beyond {c : Char} (beyond : 0x10000 ≤ c.toNat) (rest : List Char) :
    scanUnit ((unit (0xd800 + (c.toNat - 0x10000) / 1024)).drop 2 ++
      (unit (0xdc00 + (c.toNat - 0x10000) % 1024) ++ rest)) = some (c,rest) := by
  have bound : c.toNat < 0xd800 ∨ 0xdfff < c.toNat ∧ c.toNat < 0x110000 := c.valid
  have scalar := scalar_toNat c
  generalize c.toNat = n at bound scalar beyond ⊢
  have whole : 0x10000 + (0xd800 + (n - 0x10000) / 1024 - 0xd800) * 1024 +
      (0xdc00 + (n - 0x10000) % 1024 - 0xdc00) = n := by omega
  apply scanUnit_pair (by omega) (by omega)
  rw [whole,scalar]

theorem scanChar_short {kind c : Char} (other : kind ≠ 'u') (short : shortEscape? kind = some c) (rest : List Char) :
    scanChar ('\\' :: kind :: rest) = some (c,rest) := by
  simp [scanChar,other,short]

theorem scanChar_escape (ascii : Bool) (c : Char) (rest : List Char) :
    scanChar (escape ascii c ++ rest) = some (c,rest) := by
  have named {n : Nat} (code : c.toNat = n) : c = Char.ofNat n := by rw [← code,Char.ofNat_toNat]
  have itself (solid : ¬ c.toNat < 32) (other : c.toNat ≠ 92) : scanChar ([c] ++ rest) = some (c,rest) := by
    have slash : c ≠ '\\' := by
      rintro rfl
      exact other rfl
    simp [scanChar,slash,solid]
  unfold escape
  dsimp only
  split_ifs with quoteMark slash backspace tab newline feed ret control plain basic
  · exact scanChar_short (by decide) (by rw [named quoteMark]; rfl) rest
  · exact scanChar_short (by decide) (by rw [named slash]; rfl) rest
  · exact scanChar_short (by decide) (by rw [named backspace]; rfl) rest
  · exact scanChar_short (by decide) (by rw [named tab]; rfl) rest
  · exact scanChar_short (by decide) (by rw [named newline]; rfl) rest
  · exact scanChar_short (by decide) (by rw [named feed]; rfl) rest
  · exact scanChar_short (by decide) (by rw [named ret]; rfl) rest
  · rw [unit_append]
    simpa [scanChar] using scanUnit_basic (by omega) rest
  · exact itself control slash
  · rw [unit_append]
    simpa [scanChar] using scanUnit_basic basic rest
  · rw [List.append_assoc,unit_append]
    simpa [scanChar] using scanUnit_beyond (by omega) rest

theorem escape_head_ne (ascii : Bool) (c : Char) (rest : List Char) : (escape ascii c ++ rest).head? ≠ some '"' := by
  obtain ⟨_,written,_⟩ | ⟨written,other,_⟩ | ⟨written,_⟩ | ⟨written,_⟩ := escape_cases ascii c
  · simp [written]
  · simp [written,other]
  · simp [written,unit]
  · simp [written,unit]

/-- A quoted text is read back to its closing quotation mark. -/
theorem scanString_quote (ascii : Bool) (chars : List Char) {fuel : Nat} (enough : chars.length < fuel)
    (rest : List Char) : scanString fuel (chars.flatMap (escape ascii) ++ '"' :: rest) = some (chars,rest) := by
  induction chars generalizing fuel with
  | nil =>
    obtain ⟨fuel,rfl⟩ := Nat.exists_eq_add_one.mpr enough
    simp [scanString]
  | cons c chars ih =>
    obtain ⟨fuel,rfl⟩ := Nat.exists_eq_add_one.mpr (Nat.zero_lt_of_lt enough)
    rw [List.length_cons,Nat.add_lt_add_iff_right] at enough
    rw [List.flatMap_cons,List.append_assoc,scanString,if_neg (escape_head_ne ascii c _),scanChar_escape]
    simp only [Option.bind_eq_bind,Option.bind_some,ih enough]
    rfl

end strings

section numbers
variable (double : List Char → FloatText)

def digits (text : List Char) : List Char × List Char := (text.takeWhile Char.isDigit,text.dropWhile Char.isDigit)

/-- A zero, or digits that do not begin with one. -/
def wholePart (text : List Char) : Option (List Char × List Char) :=
  if text.head? = some '0' then some (['0'],text.tail)
  else if (digits text).1 = [] then none
  else some (digits text)

/-- A fraction, if there is one. -/
def fraction (text : List Char) : List Char × List Char :=
  let (places,rest) := digits text.tail
  if text.head? = some '.' ∧ places ≠ [] then ('.' :: places,rest) else ([],text)

def exponent (text : List Char) : List Char × List Char :=
  match text with
  | [] => ([],[])
  | e :: rest =>
    let sign := rest.take (if rest.head? = some '+' ∨ rest.head? = some '-' then 1 else 0)
    let (places,tail) := digits (rest.drop sign.length)
    if (e = 'e' ∨ e = 'E') ∧ places ≠ [] then (e :: sign ++ places,tail) else ([],text)

/-- The float of a literal is `double` of it; `int` takes 4300 digits at most. -/
def scanNumber (text : List Char) : Option (PyValue × List Char) := do
  let sign := text.take (if text.head? = some '-' then 1 else 0)
  let (whole,afterWhole) ← wholePart (text.drop sign.length)
  let (places,afterPlaces) := fraction afterWhole
  let (power,rest) := exponent afterPlaces
  if places ++ power ≠ [] then return (.float (double (sign ++ whole ++ places ++ power)),rest)
  else if 4300 < whole.length then none
  else
    let n : Int := Nat.ofDigitChars 10 whole 0
    return (.int (if sign = [] then n else -n),rest)

def words : List (List Char × PyValue) :=
  [(['n','u','l','l'],.none),(['t','r','u','e'],.bool true),(['f','a','l','s','e'],.bool false),
    (['N','a','N'],.float ⟨['N','a','N'],Eq.refl true⟩),
    (['I','n','f','i','n','i','t','y'],.float ⟨['I','n','f','i','n','i','t','y'],Eq.refl true⟩),
    (['-','I','n','f','i','n','i','t','y'],.float ⟨['-','I','n','f','i','n','i','t','y'],Eq.refl true⟩)]

def scanPlain (text : List Char) : Option (PyValue × List Char) :=
  match words.find? (fun w => w.1.isPrefixOf text) with
  | some (word,value) => some (value,text.drop word.length)
  | none => scanNumber double text

end numbers

section values
variable (double : List Char → FloatText)

def isBlank (c : Char) : Bool := c = ' ' || c = '\n' || c = '\r' || c = '\t'

def skip (text : List Char) : List Char := text.dropWhile isBlank

/-- The dict of the pairs that were read: a name that comes again keeps its place and gets the later value. -/
def collapse (members : List (PyKey × PyValue)) : List (PyKey × PyValue) :=
  members.foldl (fun entries m => setKey entries m.1 m.2) []

mutual
/-- The value at the beginning of a text, and what follows it. -/
def scanOnce : Nat → List Char → Option (PyValue × List Char)
  | 0, _ => none
  | n + 1, text =>
    if text.head? = some '"' then
      (scanString text.length text.tail).map fun read => (.str (String.ofList read.1),read.2)
    else if text.head? = some '[' then
      let inner := skip text.tail
      if inner.head? = some ']' then some (.list [],inner.tail)
      else (scanItems n inner).map fun read => (.list read.1,read.2)
    else if text.head? = some '{' then
      let inner := skip text.tail
      if inner.head? = some '}' then some (.dict [],inner.tail)
      else (scanMembers n inner).map fun read => (.dict (collapse read.1),read.2)
    else scanPlain double text
/-- Items up to the bracket that closes them. -/
def scanItems : Nat → List Char → Option (List PyValue × List Char)
  | 0, _ => none
  | n + 1, text =>
    match scanOnce n text with
    | none => none
    | some (item,rest) =>
      let next := skip rest
      if next.head? = some ']' then some ([item],next.tail)
      else if next.head? = some ',' then
        (scanItems n (skip next.tail)).map fun read => (item :: read.1,read.2)
      else none
def scanMembers : Nat → List Char → Option (List (PyKey × PyValue) × List Char)
  | 0, _ => none
  | n + 1, text =>
    if text.head? = some '"' then
      match scanString text.length text.tail with
      | none => none
      | some (key,afterKey) =>
        let colon := skip afterKey
        if colon.head? = some ':' then
          match scanOnce n (skip colon.tail) with
          | none => none
          | some (value,rest) =>
            let next := skip rest
            let member := (PyKey.str (String.ofList key),value)
            if next.head? = some '}' then some ([member],next.tail)
            else if next.head? = some ',' then
              (scanMembers n (skip next.tail)).map fun read => (member :: read.1,read.2)
            else none
        else none
    else none
end

/-- `json.loads(s)`, if `s` is JSON. -/
def loads (s : String) : Option PyValue :=
  match scanOnce double (s.length + 1) (skip s.toList) with
  | some (value,rest) => if skip rest = [] then some value else none
  | none => none

example : (loads (fun _ => ⟨['1','.','5'],Eq.refl true⟩) " [1.50, -7,\"\\u00e9\" , \x7b\"b\":null, \"a\":0, \"b\":1\x7d] ").bind
    (PyValue.dumps ⟨true,true⟩ PyValue.noDefault) =
    some "[1.5, -7, \"\\u00e9\", \x7b\"a\": 0, \"b\": 1\x7d]" := by decide +kernel

section native
open PyValue

theorem setKey_native {entries : List (PyKey × PyValue)} {value : PyValue} (dict : Native (.dict entries)) (name : String)
    (native : Native value) : Native (.dict (setKey entries (.str name) value)) := by
  obtain ⟨distinct,members⟩ := dict
  rw [nativeMembers_iff] at members
  have text : ∀ entry ∈ entries, (entry.1.same (.str name) = true ↔ entry.1 = .str name) := by
    intro entry inside
    obtain ⟨s,key⟩ := (members entry inside).1
    simp [key,PyKey.same]
  unfold setKey
  split
  next =>
    have keys : (entries.map fun entry => if entry.1.same (.str name) then (entry.1,value) else entry).map Prod.fst =
        entries.map Prod.fst := by
      rw [List.map_map]
      apply List.map_congr_left
      intro entry _
      simp only [Function.comp]
      split <;> rfl
    refine ⟨by rwa [keys],(nativeMembers_iff _).mpr ?_⟩
    intro m inside
    obtain ⟨entry,member,rfl⟩ := List.mem_map.mp inside
    split
    · exact ⟨(members entry member).1,native⟩
    · exact members entry member
  next absent =>
    refine ⟨?_,(nativeMembers_iff _).mpr ?_⟩
    · rw [List.map_append,List.nodup_append]
      refine ⟨distinct,by simp,?_⟩
      rintro key inside _ last rfl
      obtain ⟨entry,member,rfl⟩ := List.mem_map.mp inside
      rw [List.map_singleton,List.mem_singleton] at last
      exact absent (List.any_eq_true.mpr ⟨entry,member,(text entry member).mpr last⟩)
    · intro m inside
      rcases List.mem_append.mp inside with old | new
      · exact members m old
      · rw [List.mem_singleton.mp new]
        exact ⟨⟨name,rfl⟩,native⟩

theorem collapse_native {members : List (PyKey × PyValue)} (native : NativeMembers members) :
    Native (.dict (collapse members)) := by
  have each (entries : List (PyKey × PyValue)) (dict : Native (.dict entries)) :
      Native (.dict (members.foldl (fun entries m => setKey entries m.1 m.2) entries)) := by
    induction members generalizing entries with
    | nil => exact dict
    | cons m members ih =>
      obtain ⟨⟨name,key⟩,value,rest⟩ := native
      rw [List.foldl_cons]
      apply ih rest
      rw [key]
      exact setKey_native dict name value
  exact each [] ⟨List.nodup_nil,trivial⟩

variable {double}

theorem scanPlain_native {text rest : List Char} {value : PyValue} (read : scanPlain double text = some (value,rest)) :
    Native value := by
  unfold scanPlain at read
  split at read
  next word found chosen =>
    obtain ⟨rfl,_⟩ := Prod.mk.inj (Option.some.inj read)
    have inside := List.mem_of_find?_eq_some chosen
    simp only [words,List.mem_cons,Prod.mk.injEq,List.not_mem_nil,or_false] at inside
    obtain ⟨_,rfl⟩ | ⟨_,rfl⟩ | ⟨_,rfl⟩ | ⟨_,rfl⟩ | ⟨_,rfl⟩ | ⟨_,rfl⟩ := inside <;> trivial
  next =>
    unfold scanNumber at read
    obtain ⟨⟨whole,after⟩,_,read⟩ := Option.bind_eq_some_iff.mp read
    dsimp only at read
    split at read
    · cases read
      trivial
    · split at read
      · cases read
      · cases read
        trivial

theorem scan_native (n : Nat) :
    (∀ text value rest, scanOnce double n text = some (value,rest) → Native value) ∧
    (∀ text items rest, scanItems double n text = some (items,rest) → NativeItems items) ∧
    ∀ text members rest, scanMembers double n text = some (members,rest) → NativeMembers members := by
  induction n with
  | zero =>
    refine ⟨?_,?_,?_⟩
    · intro text value rest read
      rw [scanOnce] at read
      cases read
    · intro text items rest read
      rw [scanItems] at read
      cases read
    · intro text members rest read
      rw [scanMembers] at read
      cases read
  | succ n ih =>
    obtain ⟨once,items,members⟩ := ih
    refine ⟨?_,?_,?_⟩
    · intro text value rest read
      rw [scanOnce] at read
      split at read
      · obtain ⟨_,_,same⟩ := Option.map_eq_some_iff.mp read
        obtain ⟨rfl,_⟩ := Prod.mk.inj same
        trivial
      split at read
      · dsimp only at read
        split at read
        · obtain ⟨rfl,_⟩ := Prod.mk.inj (Option.some.inj read)
          trivial
        · obtain ⟨⟨found,_⟩,inner,same⟩ := Option.map_eq_some_iff.mp read
          obtain ⟨rfl,_⟩ := Prod.mk.inj same
          exact items _ _ _ inner
      split at read
      · dsimp only at read
        split at read
        · obtain ⟨rfl,_⟩ := Prod.mk.inj (Option.some.inj read)
          exact ⟨List.nodup_nil,trivial⟩
        · obtain ⟨⟨found,_⟩,inner,same⟩ := Option.map_eq_some_iff.mp read
          obtain ⟨rfl,_⟩ := Prod.mk.inj same
          exact collapse_native (members _ _ _ inner)
      · exact scanPlain_native read
    · intro text found rest read
      rw [scanItems] at read
      split at read
      · cases read
      next item more first =>
        dsimp only at read
        split at read
        · obtain ⟨rfl,_⟩ := Prod.mk.inj (Option.some.inj read)
          exact ⟨once _ _ _ first,trivial⟩
        split at read
        · obtain ⟨⟨others,_⟩,inner,same⟩ := Option.map_eq_some_iff.mp read
          obtain ⟨rfl,_⟩ := Prod.mk.inj same
          exact ⟨once _ _ _ first,items _ _ _ inner⟩
        · cases read
    · intro text found rest read
      rw [scanMembers] at read
      split at read
      · split at read
        · cases read
        next key afterKey named =>
          dsimp only at read
          split at read
          · split at read
            · cases read
            next value more first =>
              split at read
              · obtain ⟨rfl,_⟩ := Prod.mk.inj (Option.some.inj read)
                exact ⟨⟨_,rfl⟩,once _ _ _ first,trivial⟩
              split at read
              · obtain ⟨⟨others,_⟩,inner,same⟩ := Option.map_eq_some_iff.mp read
                obtain ⟨rfl,_⟩ := Prod.mk.inj same
                exact ⟨⟨_,rfl⟩,once _ _ _ first,members _ _ _ inner⟩
              · cases read
          · cases read
      · cases read

theorem loads_native {s : String} {value : PyValue} (read : loads double s = some value) : Native value := by
  unfold loads at read
  split at read
  next found rest scanned =>
    split at read
    · obtain rfl := Option.some.inj read
      exact (scan_native _).1 _ _ _ scanned
    · cases read
  next => cases read

end native
mutual
def ofTree : Tree → PyValue
  | .null => .none
  | .bool b => .bool b
  | .int i => .int i
  | .float x => .float x
  | .str s => .str s
  | .arr items => .list (ofTrees items)
  | .obj members => .dict (ofMembers members)
def ofTrees : List Tree → List PyValue
  | [] => []
  | item :: items => ofTree item :: ofTrees items
def ofMembers : List (String × Tree) → List (PyKey × PyValue)
  | [] => []
  | (key,value) :: members => (.str key,ofTree value) :: ofMembers members
end

mutual
/-- No numbers, and the members of an object under different names. -/
def Numberless : Tree → Prop
  | .null | .bool _ | .str _ => True
  | .int _ | .float _ => False
  | .arr items => NumberlessItems items
  | .obj members => (members.map Prod.fst).Nodup ∧ NumberlessMembers members
def NumberlessItems : List Tree → Prop
  | [] => True
  | item :: items => Numberless item ∧ NumberlessItems items
def NumberlessMembers : List (String × Tree) → Prop
  | [] => True
  | (_,value) :: members => Numberless value ∧ NumberlessMembers members
end

section indentation
variable (width : Nat)

def lineFeed (depth : Nat) : List Char := '\n' :: List.replicate (width * depth) ' '

mutual
/-- The text that `json.dumps(v, indent=width)` writes. -/
def indented (depth : Nat) : Tree → List Char
  | .null => ['n','u','l','l']
  | .bool true => ['t','r','u','e']
  | .bool false => ['f','a','l','s','e']
  | .int i => i.repr.toList
  | .float x => x.text
  | .str s => quote true s
  | .arr [] => ['[',']']
  | .arr (item :: items) =>
    '[' :: (lineFeed width (depth + 1) ++ indented (depth + 1) item ++ indentedItems depth items)
  | .obj [] => ['{','}']
  | .obj ((key,value) :: members) =>
    '{' :: (lineFeed width (depth + 1) ++ quote true key ++ ':' :: ' ' :: (indented (depth + 1) value ++
      indentedMembers depth members))
def indentedItems (depth : Nat) : List Tree → List Char
  | [] => lineFeed width depth ++ [']']
  | item :: items =>
    ',' :: (lineFeed width (depth + 1) ++ indented (depth + 1) item ++ indentedItems depth items)
def indentedMembers (depth : Nat) : List (String × Tree) → List Char
  | [] => lineFeed width depth ++ ['}']
  | (key,value) :: members =>
    ',' :: (lineFeed width (depth + 1) ++ quote true key ++ ':' :: ' ' :: (indented (depth + 1) value ++
      indentedMembers depth members))
end

variable {width}

theorem skip_lineFeed (depth : Nat) (rest : List Char) : skip (lineFeed width depth ++ rest) = skip rest := by
  have blanks (n : Nat) : (List.replicate n ' ' ++ rest).dropWhile isBlank = rest.dropWhile isBlank := by
    induction n with
    | zero => rfl
    | succ n ih => simpa [List.replicate_succ,isBlank] using ih
  simpa [skip,lineFeed,isBlank] using blanks (width * depth)

theorem skip_solid {c : Char} (solid : isBlank c = false) (rest : List Char) : skip (c :: rest) = c :: rest := by
  simp [skip,solid]

/-- The first character of a value. -/
theorem indented_head (depth : Nat) (tree : Tree) (plain : Numberless tree) :
    ∃ c rest, indented width depth tree = c :: rest ∧ isBlank c = false ∧ c ≠ ']' ∧ c ≠ '}' := by
  cases tree with
  | null => exact ⟨_,_,by rw [indented],by decide⟩
  | bool b => cases b <;> exact ⟨_,_,by rw [indented],by decide⟩
  | int => exact plain.elim
  | float => exact plain.elim
  | str => exact ⟨_,_,by rw [indented,quote],by decide⟩
  | arr items => cases items <;> exact ⟨_,_,by rw [indented],by decide⟩
  | obj members => rcases members with _ | ⟨⟨key,value⟩,members⟩ <;> exact ⟨_,_,by rw [indented],by decide⟩

theorem skip_indented (depth : Nat) {tree : Tree} (plain : Numberless tree) (rest : List Char) :
    skip (indented width depth tree ++ rest) = indented width depth tree ++ rest := by
  obtain ⟨c,more,shape,solid,_⟩ := @indented_head width depth tree plain
  rw [shape,List.cons_append,skip_solid solid]

theorem setKey_fresh {entries : List (PyKey × PyValue)} {name : String} {value : PyValue}
    (texts : ∀ entry ∈ entries, ∃ s, entry.1 = .str s) (fresh : PyKey.str name ∉ entries.map Prod.fst) :
    setKey entries (.str name) value = entries ++ [(.str name,value)] := by
  unfold setKey
  rw [if_neg]
  intro found
  obtain ⟨entry,inside,same⟩ := List.any_eq_true.mp found
  obtain ⟨s,key⟩ := texts entry inside
  rw [key] at same
  have equal : s = name := by simpa [PyKey.same] using same
  exact fresh (List.mem_map.mpr ⟨entry,inside,by rw [key,equal]⟩)

/-- Members under different names stay as they are. -/
theorem collapse_distinct {members : List (String × Tree)} (distinct : (members.map Prod.fst).Nodup) :
    collapse (ofMembers members) = ofMembers members := by
  have each (entries : List (PyKey × PyValue)) (texts : ∀ entry ∈ entries, ∃ s, entry.1 = .str s)
      (apart : (entries.map Prod.fst ++ (members.map Prod.fst).map PyKey.str).Nodup) :
      (ofMembers members).foldl (fun entries m => setKey entries m.1 m.2) entries = entries ++ ofMembers members := by
    clear distinct
    induction members generalizing entries with
    | nil => simp [ofMembers]
    | cons m members ih =>
      obtain ⟨name,value⟩ := m
      have fresh : PyKey.str name ∉ entries.map Prod.fst := by
        intro inside
        exact (List.nodup_append.mp apart).2.2 _ inside _ (by simp) rfl
      rw [ofMembers,List.foldl_cons,setKey_fresh texts fresh,ih,List.append_assoc]
      · rfl
      · intro entry inside
        rcases List.mem_append.mp inside with old | new
        · exact texts entry old
        · exact ⟨name,by rw [List.mem_singleton.mp new]⟩
      · simpa using apart
  rw [collapse,each [] (by simp) (by simpa using distinct.map (fun _ _ => PyKey.str.inj)),List.nil_append]

theorem scan_quote {s : String} {fuel : Nat} (enough : s.length < fuel) (rest : List Char) :
    scanString fuel (s.toList.flatMap (escape true) ++ '"' :: rest) = some (s.toList,rest) := by
  apply scanString_quote
  rwa [String.length_toList]

/-- Room for the characters of a quoted text. -/
theorem quote_length (s : String) : s.length + 2 ≤ (quote true s).length := by
  have each (chars : List Char) : chars.length ≤ (chars.flatMap (escape true)).length := by
    induction chars with
    | nil => simp
    | cons c chars ih =>
      have one : 0 < (escape true c).length := by
        obtain ⟨_,written,_⟩ | ⟨written,_⟩ | ⟨written,_⟩ | ⟨written,_⟩ := escape_cases true c
        · simp [written]
        · simp [written]
        · simp [written,unit]
        · simp [written,unit]
      rw [List.flatMap_cons,List.length_append,List.length_cons]
      omega
  have chars := each s.toList
  rw [String.length_toList] at chars
  simp only [quote,List.length_cons,List.length_append,List.length_nil]
  omega

variable {double}

/-- What is left of reading members when the name and the value of the first one are read. -/
theorem scanMembers_first {key : String} {value : Tree} (plain : Numberless value) {depth fuel : Nat} {more : List Char}
    (read : scanOnce double fuel (indented width depth value ++ more) = some (ofTree value,more)) :
    scanMembers double (fuel + 1) (quote true key ++ ':' :: ' ' :: (indented width depth value ++ more)) =
      let next := skip more
      if next.head? = some '}' then some ([(.str key,ofTree value)],next.tail)
      else if next.head? = some ',' then
        (scanMembers double fuel (skip next.tail)).map fun others => ((.str key,ofTree value) :: others.1,others.2)
      else none := by
  have room := quote_length key
  have named := @scan_quote key (quote true key ++ ':' :: ' ' :: (indented width depth value ++ more)).length
    (by simp; omega) (':' :: ' ' :: (indented width depth value ++ more))
  have blank (text : List Char) : skip (' ' :: text) = skip text := by simp [skip,isBlank]
  simp only [quote,List.cons_append,List.append_assoc,List.nil_append] at named ⊢
  rw [scanMembers,if_pos (by rfl),List.tail_cons,named]
  simp only [skip_solid (show isBlank ':' = false by decide),List.head?_cons,List.tail_cons,blank,
    skip_indented depth plain,read,String.ofList_toList,if_true]

/-- An indented value is read back, whatever follows it. -/
def ReadBack (double : List Char → FloatText) (width depth : Nat) (tree : Tree) : Prop :=
  ∀ (fuel : Nat) (rest : List Char), (indented width depth tree).length ≤ fuel →
    scanOnce double fuel (indented width depth tree ++ rest) = some (ofTree tree,rest)

mutual
theorem scanOnce_indented : (tree : Tree) → Numberless tree → ∀ depth, ReadBack double width depth tree
  | .null, _, depth => by
    intro fuel rest enough
    obtain ⟨fuel,rfl⟩ := Nat.exists_eq_add_one.mpr (Nat.lt_of_lt_of_le (by simp [indented]) enough)
    simp [indented,scanOnce,scanPlain,words,ofTree]
  | .bool true, _, depth => by
    intro fuel rest enough
    obtain ⟨fuel,rfl⟩ := Nat.exists_eq_add_one.mpr (Nat.lt_of_lt_of_le (by simp [indented]) enough)
    simp [indented,scanOnce,scanPlain,words,ofTree]
  | .bool false, _, depth => by
    intro fuel rest enough
    obtain ⟨fuel,rfl⟩ := Nat.exists_eq_add_one.mpr (Nat.lt_of_lt_of_le (by simp [indented]) enough)
    simp [indented,scanOnce,scanPlain,words,ofTree]
  | .int _, plain, _ => plain.elim
  | .float _, plain, _ => plain.elim
  | .str s, _, depth => by
    intro fuel rest enough
    rw [indented] at enough ⊢
    have room := quote_length s
    obtain ⟨fuel,rfl⟩ := Nat.exists_eq_add_one.mpr (by omega : 0 < fuel)
    have read := @scan_quote s (quote true s ++ rest).length (by simp; omega) rest
    simp only [quote,List.cons_append,List.append_assoc,List.nil_append] at read ⊢
    rw [scanOnce,if_pos (by rfl),List.tail_cons,read,Option.map_some,String.ofList_toList,ofTree]
  | .arr [], _, depth => by
    intro fuel rest enough
    obtain ⟨fuel,rfl⟩ := Nat.exists_eq_add_one.mpr (Nat.lt_of_lt_of_le (by simp [indented]) enough)
    simp [indented,scanOnce,skip,isBlank,ofTree,ofTrees]
  | .arr (item :: items), plain, depth => by
    intro fuel rest enough
    simp only [indented,List.length_cons,List.length_append] at enough
    obtain ⟨fuel,rfl⟩ := Nat.exists_eq_add_one.mpr (by omega : 0 < fuel)
    have inner := scanItems_indented items plain.2 item plain.1 depth (scanOnce_indented item plain.1 (depth + 1)) fuel rest
      (by omega)
    obtain ⟨c,more,shape,_,other,_⟩ := @indented_head width (depth + 1) item plain.1
    rw [indented,scanOnce,if_neg (by simp),if_pos (by simp)]
    simp only [List.cons_append,List.append_assoc,List.tail_cons,skip_lineFeed,skip_indented (depth + 1) plain.1]
    rw [if_neg (by simp [shape,other]),inner,Option.map_some,ofTree,ofTrees]
  | .obj [], _, depth => by
    intro fuel rest enough
    obtain ⟨fuel,rfl⟩ := Nat.exists_eq_add_one.mpr (Nat.lt_of_lt_of_le (by simp [indented]) enough)
    simp [indented,scanOnce,skip,isBlank,ofTree,ofMembers]
  | .obj ((key,value) :: members), plain, depth => by
    intro fuel rest enough
    simp only [indented,List.length_cons,List.length_append] at enough
    obtain ⟨fuel,rfl⟩ := Nat.exists_eq_add_one.mpr (by omega : 0 < fuel)
    have inner := scanMembers_indented members plain.2.2 key value plain.2.1 depth
      (scanOnce_indented value plain.2.1 (depth + 1)) fuel rest (by omega)
    have head : (quote true key).head? = some '"' := rfl
    have solid (more : List Char) : skip (quote true key ++ more) = quote true key ++ more := by
      rw [quote,List.cons_append,skip_solid (by decide)]
    rw [indented,scanOnce,if_neg (by simp),if_neg (by simp),if_pos (by simp)]
    simp only [List.cons_append,List.append_assoc,List.tail_cons,skip_lineFeed,solid]
    rw [if_neg (by simp [head]),inner,Option.map_some,ofTree]
    exact congrArg (fun dict => some (PyValue.dict dict,rest)) (collapse_distinct plain.1)
theorem scanItems_indented : (items : List Tree) → NumberlessItems items → (item : Tree) → Numberless item →
    ∀ depth, ReadBack double width (depth + 1) item → ∀ (fuel : Nat) (rest : List Char),
    (indented width (depth + 1) item).length + (indentedItems width depth items).length ≤ fuel →
    scanItems double fuel (indented width (depth + 1) item ++ (indentedItems width depth items ++ rest)) =
      some (ofTree item :: ofTrees items,rest)
  | [], _, item, plain, depth, back, fuel, rest, enough => by
    simp only [indentedItems,List.length_append,List.length_singleton] at enough
    obtain ⟨fuel,rfl⟩ := Nat.exists_eq_add_one.mpr (by omega : 0 < fuel)
    rw [scanItems,back _ _ (by omega)]
    simp only [indentedItems,List.append_assoc,skip_lineFeed,List.cons_append,List.nil_append]
    rw [skip_solid (by decide),if_pos (by rfl),List.tail_cons,ofTrees]
  | next :: items, others, item, plain, depth, back, fuel, rest, enough => by
    simp only [indentedItems,List.length_cons,List.length_append] at enough
    obtain ⟨fuel,rfl⟩ := Nat.exists_eq_add_one.mpr (by omega : 0 < fuel)
    have inner := scanItems_indented items others.2 next others.1 depth (scanOnce_indented next others.1 (depth + 1))
      fuel rest (by omega)
    rw [scanItems,back _ _ (by omega)]
    simp only [indentedItems,List.append_assoc,List.cons_append]
    rw [skip_solid (by decide),if_neg (by simp),if_pos (by rfl),List.tail_cons,skip_lineFeed,
      skip_indented (depth + 1) others.1,inner,Option.map_some,ofTrees]
theorem scanMembers_indented : (members : List (String × Tree)) → NumberlessMembers members → (key : String) →
    (value : Tree) → Numberless value → ∀ depth, ReadBack double width (depth + 1) value →
    ∀ (fuel : Nat) (rest : List Char),
    (quote true key).length + (indented width (depth + 1) value).length +
      (indentedMembers width depth members).length ≤ fuel →
    scanMembers double fuel (quote true key ++ ':' :: ' ' :: (indented width (depth + 1) value ++
      (indentedMembers width depth members ++ rest))) = some (ofMembers ((key,value) :: members),rest)
  | [], _, key, value, plain, depth, back, fuel, rest, enough => by
    simp only [indentedMembers,List.length_append,List.length_singleton] at enough
    obtain ⟨fuel,rfl⟩ := Nat.exists_eq_add_one.mpr (by omega : 0 < fuel)
    rw [scanMembers_first plain (back _ _ (by omega))]
    simp only [indentedMembers,List.append_assoc,skip_lineFeed,List.cons_append,List.nil_append]
    rw [skip_solid (by decide),if_pos (by rfl),List.tail_cons,ofMembers,ofMembers]
  | (next,found) :: members, others, key, value, plain, depth, back, fuel, rest, enough => by
    simp only [indentedMembers,List.length_cons,List.length_append] at enough
    have room := quote_length key
    obtain ⟨fuel,rfl⟩ := Nat.exists_eq_add_one.mpr (by omega : 0 < fuel)
    have inner := scanMembers_indented members others.2 next found others.1 depth
      (scanOnce_indented found others.1 (depth + 1)) fuel rest (by omega)
    have solid (more : List Char) : skip (quote true next ++ more) = quote true next ++ more := by
      rw [quote,List.cons_append,skip_solid (by decide)]
    rw [scanMembers_first plain (back _ _ (by omega))]
    simp only [indentedMembers,List.append_assoc,List.cons_append]
    rw [skip_solid (by decide),if_neg (by simp),if_pos (by rfl),List.tail_cons,skip_lineFeed,solid,inner]
    rfl
end

/-- The text of a value without numbers is read back as that value. -/
theorem loads_indented {tree : Tree} (plain : Numberless tree) :
    loads double (String.ofList (indented width 0 tree)) = some (ofTree tree) := by
  have start := @skip_indented width 0 tree plain []
  have back : ReadBack double width 0 tree := scanOnce_indented tree plain 0
  have read := back ((indented width 0 tree).length + 1) [] (by omega)
  rw [List.append_nil] at start read
  rw [loads,String.toList_ofList,String.length_ofList,start,read]
  rfl

end indentation
end values
end RevPilot.Library.JsonText
