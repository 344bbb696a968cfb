import RevPilot.Library.Json
import RevPilot.Library.PyFloat
import Mathlib.Data.Prod.Lex

/-! Python values as they occur in untyped payloads, and `json.dumps` with
`sort_keys=True` on them. `toTree` is the part of `dumps` that can fail; what it
returns is a JSON tree, and two values have one text exactly when they have one
tree. -/
namespace RevPilot.Library
open JsonText

namespace JsonText

def readExponent : List Char → Int
  | '-' :: digits => -(Nat.ofDigitChars 10 digits 0 : Int)
  | '+' :: digits => Nat.ofDigitChars 10 digits 0
  | digits => Nat.ofDigitChars 10 digits 0

/-- The float that a literal is read as. -/
def FloatText.value (x : FloatText) : FloatValue :=
  let negative := x.text.head? = some '-'
  let body := if negative then x.text.tail else x.text
  if body.head? = some 'I' then .infinite negative
  else if body.head? = some 'N' then .nan
  else
    let mantissa := body.takeWhile (· ≠ 'e')
    let fraction := (mantissa.dropWhile (· ≠ '.')).tail
    let digits := mantissa.takeWhile (· ≠ '.') ++ fraction
    let power := readExponent (body.dropWhile (· ≠ 'e')).tail - fraction.length
    .nearest ((if negative then -1 else 1) * Nat.ofDigitChars 10 digits 0 * (10 : ℚ) ^ power)

end JsonText

inductive PyKey : Type
  | str (s : String)
  | int (i : Int)
  | bool (b : Bool)
  | float (x : FloatText)
  | none
  deriving DecidableEq

/-- `other` is any object that `json` does not know, with its `str` and its truth value. -/
inductive PyValue : Type
  | none
  | bool (b : Bool)
  | int (i : Int)
  | float (x : FloatText)
  | str (s : String)
  | list (items : List PyValue)
  | tuple (items : List PyValue)
  | dict (members : List (PyKey × PyValue))
  | other (text : String) (truth : Bool)

namespace PyValue

/-- `bool(v)`. -/
def truthy : PyValue → Bool
  | .none => false
  | .bool b => b
  | .int i => i != 0
  | .float x => x.text != ['0','.','0'] && x.text != ['-','0','.','0']
  | .str s => s != ""
  | .list items => !items.isEmpty
  | .tuple items => !items.isEmpty
  | .dict members => !members.isEmpty
  | .other _ truth => truth

/-- `d.get(key)` for a text key. -/
def lookup (members : List (PyKey × PyValue)) (key : String) : Option PyValue :=
  (members.find? (fun m => m.1 = .str key)).map Prod.snd

end PyValue

namespace PyKey

/-- The member name `json` writes for a key. -/
def text : PyKey → String
  | .str s => s
  | .int i => i.repr
  | .bool true => "true"
  | .bool false => "false"
  | .float x => String.ofList x.text
  | .none => "null"

/-- The number that a key is, the infinities below and above the others. -/
def number? : PyKey → Option (Int ×ₗ ℚ)
  | .int i => some (toLex (0,i))
  | .bool b => some (toLex (0,if b then 1 else 0))
  | .float x =>
    match x.value with
    | .finite value => some (toLex (0,value))
    | .infinite negative => some (toLex (if negative then -1 else 1,0))
    | .nan => Option.none
  | _ => Option.none

def string? : PyKey → Option String
  | .str s => some s
  | _ => Option.none

end PyKey

section sorting
variable {A : Type}

/-- The pairs in the order of their ranks, equal ranks in their first order. -/
def sortRanked {B : Type} (le : B → B → Bool) (ranked : List (B × A)) : List A :=
  (ranked.insertionSort (fun a b => le a.1 b.1 = true)).map Prod.snd

def ranked? {B : Type} (rank : PyKey → Option B) (members : List (PyKey × A)) :
    Option (List (B × (PyKey × A))) :=
  members.mapM (fun m => (rank m.1).map (fun r => (r,m)))

/-- `sorted(d.items())`: texts among themselves, numbers among themselves; two
keys of different kinds cannot be compared, a single key needs no comparison. A
NaN among other keys, which has no place, is left out. -/
def sortMembers (members : List (PyKey × A)) : Option (List (PyKey × A)) :=
  match ranked? PyKey.string? members with
  | some ranked => some (sortRanked (fun a b => decide (a.toList ≤ b.toList)) ranked)
  | none =>
    match ranked? PyKey.number? members with
    | some ranked => some (sortRanked (fun a b => decide (a ≤ b)) ranked)
    | none => if members.length ≤ 1 then some members else none

end sorting

namespace PyValue

mutual
/-- The tree that `json.dumps(v, sort_keys=True)` writes; `fallback` is its
`default` argument for objects that `json` does not know. -/
def toTree (fallback : String → Option Tree) : PyValue → Option Tree
  | .none => some .null
  | .bool b => some (.bool b)
  | .int i => some (.int i)
  | .float x => some (.float x)
  | .str s => some (.str s)
  | .list items => (toTrees fallback items).map .arr
  | .tuple items => (toTrees fallback items).map .arr
  | .dict members => do
    let trees ← toMembers fallback members
    let sorted ← sortMembers trees
    return .obj (sorted.map (fun m => (m.1.text,m.2)))
  | .other text _ => fallback text
def toTrees (fallback : String → Option Tree) : List PyValue → Option (List Tree)
  | [] => some []
  | item :: items => do return (← toTree fallback item) :: (← toTrees fallback items)
def toMembers (fallback : String → Option Tree) :
    List (PyKey × PyValue) → Option (List (PyKey × Tree))
  | [] => some []
  | (key,value) :: members => do
    return (key,← toTree fallback value) :: (← toMembers fallback members)
end

mutual
/-- The tree that `json.dumps(v)` writes: the keys keep their order. -/
def plainTree : PyValue → Option Tree
  | .none => some .null
  | .bool b => some (.bool b)
  | .int i => some (.int i)
  | .float x => some (.float x)
  | .str s => some (.str s)
  | .list items => (plainTrees items).map .arr
  | .tuple items => (plainTrees items).map .arr
  | .dict members => (plainMembers members).map .obj
  | .other _ _ => Option.none
def plainTrees : List PyValue → Option (List Tree)
  | [] => some []
  | item :: items => do return (← plainTree item) :: (← plainTrees items)
def plainMembers : List (PyKey × PyValue) → Option (List (String × Tree))
  | [] => some []
  | (key,value) :: members => do return (key.text,← plainTree value) :: (← plainMembers members)
end

/-- Without a `default` argument an unknown object is a `TypeError`. -/
def noDefault : String → Option Tree := fun _ => Option.none

/-- `default=str`. -/
def defaultStr : String → Option Tree := fun text => some (.str text)

def dumps (style : Style) (fallback : String → Option Tree) (value : PyValue) : Option String :=
  (toTree fallback value).map (render style)

theorem dumps_eq_iff (style : Style) (fallback : String → Option Tree) (a b : PyValue) :
    dumps style fallback a = dumps style fallback b ↔ toTree fallback a = toTree fallback b :=
  (Option.map_injective (render_injective style)).eq_iff

end PyValue
end RevPilot.Library

/-! Data that `json.loads` reads: truth values, the members of a dict, and what sets and dicts
take as a key. -/
namespace RevPilot.Library

/-- The number that a key is. -/
def PyKey.numeric? : PyKey → Option FloatValue
  | .int i => some (.finite i)
  | .bool b => some (.finite (if b then 1 else 0))
  | .float x => some x.value
  | _ => Option.none

/-- One key of a set for another: `json.loads` has a single NaN object, which is found again. -/
def PyKey.same : PyKey → PyKey → Bool
  | .str s, .str t => s == t
  | .none, .none => true
  | a, b => a.numeric?.isSome && a.numeric? == b.numeric?

namespace JsonText.Tree

/-- `bool(v)`. -/
def truthy : Tree → Bool
  | .null => false
  | .bool b => b
  | .int i => i != 0
  | .float x => x.value != .finite 0
  | .str s => s != ""
  | .arr items => !items.isEmpty
  | .obj members => !members.isEmpty

/-- `type(v).__name__`. -/
def typeName : Tree → String
  | .null => "NoneType"
  | .bool _ => "bool"
  | .int _ => "int"
  | .float _ => "float"
  | .str _ => "str"
  | .arr _ => "list"
  | .obj _ => "dict"

/-- `d.get(name, other)`. -/
def getD (members : List (String × Tree)) (name : String) (other : Tree) : Tree := (members.lookup name).getD other

/-- The key that a value is; lists and dicts have no hash. -/
def key? : Tree → Option PyKey
  | .null => some .none
  | .bool b => some (.bool b)
  | .int i => some (.int i)
  | .float x => some (.float x)
  | .str s => some (.str s)
  | .arr _ => none
  | .obj _ => none

/-- The keys that a loop over the value meets; the other values cannot be looped over, or have an
element without a hash. -/
def elements? : Tree → Option (List PyKey)
  | .arr items => items.mapM key?
  | .str s => some (s.toList.map fun c => .str (String.singleton c))
  | .obj members => some (members.map fun m => .str m.1)
  | _ => none

theorem elements_texts (texts : List String) : elements? (.arr (texts.map .str)) = some (texts.map .str) := by
  rw [elements?]
  induction texts with
  | nil => rfl
  | cons s texts ih =>
    rw [List.map_cons,List.mapM_cons,ih]
    rfl

end JsonText.Tree

section dicts
variable {V : Type}

/-- `d.get(key)`. -/
def getKey (entries : List (PyKey × V)) (key : PyKey) : Option V :=
  (entries.find? fun entry => entry.1.same key).map Prod.snd

/-- `d[key] = value`. -/
def setKey (entries : List (PyKey × V)) (key : PyKey) (value : V) : List (PyKey × V) :=
  if entries.any fun entry => entry.1.same key then
    entries.map fun entry => if entry.1.same key then (entry.1,value) else entry
  else entries ++ [(key,value)]

end dicts

/-- Among distinct keys each is found with its value, wherever it stands. -/
theorem lookup_of_mem {α β : Type} [DecidableEq α] {members : List (α × β)} {name : α} {value : β}
    (distinct : (members.map Prod.fst).Nodup) (inside : (name,value) ∈ members) : members.lookup name = some value := by
  induction members with
  | nil => cases inside
  | cons m members ih =>
    obtain ⟨other,first⟩ := m
    rw [List.map_cons,List.nodup_cons] at distinct
    rw [List.lookup_cons]
    rcases List.mem_cons.mp inside with here | later
    · cases here
      rw [beq_self_eq_true]
    · have apart : (name == other) = false := by
        rw [beq_eq_false_iff_ne]
        rintro rfl
        exact distinct.1 (List.mem_map.mpr ⟨_,later,rfl⟩)
      rw [apart]
      exact ih distinct.2 later

end RevPilot.Library
