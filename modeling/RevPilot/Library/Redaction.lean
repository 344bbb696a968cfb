import RevPilot.Library.JsonValues

/-! Redaction of nested values: a rule looks at each member of an object and
replaces its value or lets the search go on inside, and every text that is reached
is rewritten. Two values that differ only under hidden keys are told apart by what
the rule does not replace. -/
namespace RevPilot.Library
namespace Redaction

/-- What becomes of a member (`none` to go on inside its value), and of a text. -/
structure Rules (E : Type) where
  member : PyKey → PyValue → Except E (Option PyValue)
  text : String → String

section scrub
variable {E : Type} (rules : Rules E)

mutual
def scrub : PyValue → Except E PyValue
  | .dict members => do return .dict (← scrubMembers members)
  | .list items => do return .list (← scrubItems items)
  | .str s => .ok (.str (rules.text s))
  | value => .ok value
def scrubMembers : List (PyKey × PyValue) → Except E (List (PyKey × PyValue))
  | [] => .ok []
  | (key,value) :: members => do
    let scrubbed ← (← rules.member key value).elim (scrub value) .ok
    return (key,scrubbed) :: (← scrubMembers members)
def scrubItems : List PyValue → Except E (List PyValue)
  | [] => .ok []
  | item :: items => do
    let scrubbed ← scrub item
    return scrubbed :: (← scrubItems items)
end

/-- The value of one member. -/
def slot (key : PyKey) (value : PyValue) : Except E PyValue := do
  (← rules.member key value).elim (scrub rules value) .ok

@[simp] theorem slot_replaced {key : PyKey} {value replaced : PyValue}
    (decided : rules.member key value = .ok (some replaced)) : slot rules key value = .ok replaced := by
  rw [slot,decided]
  rfl

@[simp] theorem slot_searched {key : PyKey} {value : PyValue} (decided : rules.member key value = .ok none) :
    slot rules key value = scrub rules value := by
  rw [slot,decided]
  rfl

theorem scrub_dict {members out : List (PyKey × PyValue)} (ok : scrubMembers rules members = .ok out) :
    scrub rules (.dict members) = .ok (.dict out) := by
  rw [scrub,ok]
  rfl

theorem scrub_list {items out : List PyValue} (ok : scrubItems rules items = .ok out) :
    scrub rules (.list items) = .ok (.list out) := by
  rw [scrub,ok]
  rfl

theorem scrubItems_cons {item first : PyValue} {items rest : List PyValue} (ok : scrub rules item = .ok first)
    (others : scrubItems rules items = .ok rest) : scrubItems rules (item :: items) = .ok (first :: rest) := by
  rw [scrubItems,ok,others]
  rfl

theorem scrubMembers_slot (key : PyKey) (value : PyValue) (members : List (PyKey × PyValue)) :
    scrubMembers rules ((key,value) :: members) = do
      let scrubbed ← slot rules key value
      return (key,scrubbed) :: (← scrubMembers rules members) := by
  rw [scrubMembers,slot,bind_assoc]

theorem scrubMembers_cons {key : PyKey} {value first : PyValue} {members rest : List (PyKey × PyValue)}
    (ok : slot rules key value = .ok first) (others : scrubMembers rules members = .ok rest) :
    scrubMembers rules ((key,value) :: members) = .ok ((key,first) :: rest) := by
  rw [scrubMembers_slot,ok,others]
  rfl

theorem scrub_dict_cases {members : List (PyKey × PyValue)} {result : PyValue}
    (ok : scrub rules (.dict members) = .ok result) :
    ∃ out, scrubMembers rules members = .ok out ∧ result = .dict out := by
  rw [scrub] at ok
  cases inner : scrubMembers rules members with
  | error e =>
    rw [inner] at ok
    cases ok
  | ok out =>
    rw [inner] at ok
    cases ok
    exact ⟨out,rfl,rfl⟩

theorem scrub_list_cases {items : List PyValue} {result : PyValue} (ok : scrub rules (.list items) = .ok result) :
    ∃ out, scrubItems rules items = .ok out ∧ result = .list out := by
  rw [scrub] at ok
  cases inner : scrubItems rules items with
  | error e =>
    rw [inner] at ok
    cases ok
  | ok out =>
    rw [inner] at ok
    cases ok
    exact ⟨out,rfl,rfl⟩

theorem scrubItems_cons_cases {item : PyValue} {items out : List PyValue}
    (ok : scrubItems rules (item :: items) = .ok out) :
    ∃ first rest, scrub rules item = .ok first ∧ scrubItems rules items = .ok rest ∧ out = first :: rest := by
  rw [scrubItems] at ok
  cases head : scrub rules item with
  | error e =>
    rw [head] at ok
    cases ok
  | ok first =>
    cases tail : scrubItems rules items with
    | error e =>
      rw [head,tail] at ok
      cases ok
    | ok rest =>
      rw [head,tail] at ok
      cases ok
      exact ⟨first,rest,rfl,rfl,rfl⟩

theorem scrubMembers_cons_cases {key : PyKey} {value : PyValue} {members out : List (PyKey × PyValue)}
    (ok : scrubMembers rules ((key,value) :: members) = .ok out) :
    ∃ first rest, slot rules key value = .ok first ∧ scrubMembers rules members = .ok rest ∧
      out = (key,first) :: rest := by
  rw [scrubMembers_slot] at ok
  cases head : slot rules key value with
  | error e =>
    rw [head] at ok
    cases ok
  | ok first =>
    cases tail : scrubMembers rules members with
    | error e =>
      rw [head,tail] at ok
      cases ok
    | ok rest =>
      rw [head,tail] at ok
      cases ok
      exact ⟨first,rest,rfl,rfl,rfl⟩

end scrub

section relation
variable (hidden : PyKey → Bool)

mutual
/-- Equal apart from the values under hidden keys. -/
def SameOutside : PyValue → PyValue → Prop
  | .dict xs, b => ∃ ys, b = .dict ys ∧ SameMembersOutside xs ys
  | .list xs, b => ∃ ys, b = .list ys ∧ SameItemsOutside xs ys
  | a, b => a = b
def SameMembersOutside : List (PyKey × PyValue) → List (PyKey × PyValue) → Prop
  | [], ys => ys = []
  | (key,x) :: xs, ys => ∃ y rest, ys = (key,y) :: rest ∧ (hidden key = true ∨ SameOutside x y) ∧
      SameMembersOutside xs rest
def SameItemsOutside : List PyValue → List PyValue → Prop
  | [], ys => ys = []
  | x :: xs, ys => ∃ y rest, ys = y :: rest ∧ SameOutside x y ∧ SameItemsOutside xs rest
end

/-- The answer of a check, and what is asked where there is none. -/
def Passes (answer : Option Bool) (otherwise : Prop) : Prop :=
  match answer with
  | some passed => passed = true
  | none => otherwise

variable (check : PyKey → PyValue → Option Bool)

mutual
/-- Every member that is checked passes; the values of the others are searched. -/
def Guarded : PyValue → Prop
  | .dict members => GuardedMembers members
  | .list items => GuardedItems items
  | _ => True
def GuardedMembers : List (PyKey × PyValue) → Prop
  | [] => True
  | (key,value) :: members => Passes (check key value) (Guarded value) ∧ GuardedMembers members
def GuardedItems : List PyValue → Prop
  | [] => True
  | item :: items => Guarded item ∧ GuardedItems items
end

variable (holds : String → Prop)

mutual
/-- Every text that is a value, at any depth. -/
def Texts : PyValue → Prop
  | .str s => holds s
  | .dict members => TextsMembers members
  | .list items => TextsItems items
  | .tuple items => TextsItems items
  | _ => True
def TextsMembers : List (PyKey × PyValue) → Prop
  | [] => True
  | (_,value) :: members => Texts value ∧ TextsMembers members
def TextsItems : List PyValue → Prop
  | [] => True
  | item :: items => Texts item ∧ TextsItems items
end

end relation

variable {E : Type} {rules : Rules E}

/-- The rule decides about every member with a text key. -/
def Decides (rules : Rules E) : Prop := ∀ key value, ∃ choice, rules.member (.str key) value = .ok choice

mutual
theorem scrub_ok (decides : Decides rules) : (v : PyValue) → v.Native → ∃ out, scrub rules v = .ok out
  | .none, _ | .bool _, _ | .int _, _ | .float _, _ | .str _, _ => ⟨_,rfl⟩
  | .list items, native => by
    obtain ⟨out,ok⟩ := scrubItems_ok decides items native
    exact ⟨.list out,scrub_list rules ok⟩
  | .dict members, native => by
    obtain ⟨out,ok⟩ := scrubMembers_ok decides members native.2
    exact ⟨.dict out,scrub_dict rules ok⟩
theorem scrubItems_ok (decides : Decides rules) : (items : List PyValue) → PyValue.NativeItems items →
    ∃ out, scrubItems rules items = .ok out
  | [], _ => ⟨[],rfl⟩
  | item :: items, native => by
    obtain ⟨first,ok⟩ := scrub_ok decides item native.1
    obtain ⟨rest,others⟩ := scrubItems_ok decides items native.2
    exact ⟨first :: rest,scrubItems_cons rules ok others⟩
theorem scrubMembers_ok (decides : Decides rules) : (members : List (PyKey × PyValue)) →
    PyValue.NativeMembers members → ∃ out, scrubMembers rules members = .ok out
  | [], _ => ⟨[],rfl⟩
  | (key,value) :: members, native => by
    obtain ⟨s,rfl⟩ := native.1
    obtain ⟨inner,found⟩ := scrub_ok decides value native.2.1
    obtain ⟨rest,others⟩ := scrubMembers_ok decides members native.2.2
    obtain ⟨choice,decided⟩ := decides s value
    cases choice with
    | none => exact ⟨_,scrubMembers_cons rules ((slot_searched rules decided).trans found) others⟩
    | some replaced => exact ⟨_,scrubMembers_cons rules (slot_replaced rules decided) others⟩
end

/-- The rule puts `mark` in the place of what passes the check and searches what is not checked. -/
structure Masks (rules : Rules E) (check : PyKey → PyValue → Option Bool) (mark : PyValue) : Prop where
  replaced : ∀ key value, check key value = some true → rules.member key value = .ok (some mark)
  searched : ∀ s value, check (.str s) value = none → rules.member (.str s) value = .ok none
  exposed : ∀ key value out, check key value = some false → slot rules key value = .ok out → out ≠ mark

section masks
variable {hidden : PyKey → Bool} {check : PyKey → PyValue → Option Bool} {mark : PyValue}

/-- A guarded member is checked and passes, or its value is guarded. -/
theorem guarded_member {key : PyKey} {value : PyValue} (checked : (check key value).isSome = hidden key)
    (guarded : Passes (check key value) (Guarded check value)) :
    (hidden key = true ∧ check key value = some true) ∨
      (hidden key = false ∧ check key value = none ∧ Guarded check value) := by
  rw [← checked]
  cases found : check key value with
  | none =>
    rw [found] at guarded
    exact .inr ⟨rfl,rfl,guarded⟩
  | some passed =>
    rw [found] at guarded
    obtain rfl : passed = true := guarded
    exact .inl ⟨rfl,rfl⟩

mutual
/-- What passes the check everywhere is told apart by nothing under hidden keys. -/
theorem scrub_eq (masks : Masks rules check mark) (checked : ∀ key value, (check key value).isSome = hidden key) :
    (a : PyValue) → a.Native → (b : PyValue) → SameOutside hidden a b → Guarded check a → Guarded check b →
      scrub rules a = scrub rules b
  | .none, _, b, same, _, _ | .bool _, _, b, same, _, _ | .int _, _, b, same, _, _ | .float _, _, b, same, _, _
  | .str _, _, b, same, _, _ => congrArg (scrub rules) same
  | .list xs, native, b, same, left, right => by
    obtain ⟨ys,rfl,same⟩ := same
    rw [scrub,scrub,scrubItems_eq masks checked xs native ys same left right]
  | .dict xs, native, b, same, left, right => by
    obtain ⟨ys,rfl,same⟩ := same
    rw [scrub,scrub,scrubMembers_eq masks checked xs native.2 ys same left right]
theorem scrubItems_eq (masks : Masks rules check mark)
    (checked : ∀ key value, (check key value).isSome = hidden key) :
    (xs : List PyValue) → PyValue.NativeItems xs → (ys : List PyValue) → SameItemsOutside hidden xs ys →
      GuardedItems check xs → GuardedItems check ys → scrubItems rules xs = scrubItems rules ys
  | [], _, ys, same, _, _ => congrArg (scrubItems rules) same.symm
  | x :: xs, native, ys, same, left, right => by
    obtain ⟨y,rest,rfl,head,tail⟩ := same
    rw [scrubItems,scrubItems,scrub_eq masks checked x native.1 y head left.1 right.1,
      scrubItems_eq masks checked xs native.2 rest tail left.2 right.2]
theorem scrubMembers_eq (masks : Masks rules check mark)
    (checked : ∀ key value, (check key value).isSome = hidden key) :
    (xs : List (PyKey × PyValue)) → PyValue.NativeMembers xs → (ys : List (PyKey × PyValue)) →
      SameMembersOutside hidden xs ys → GuardedMembers check xs → GuardedMembers check ys →
      scrubMembers rules xs = scrubMembers rules ys
  | [], _, ys, same, _, _ => congrArg (scrubMembers rules) same.symm
  | (key,x) :: xs, native, ys, same, left, right => by
    obtain ⟨y,rest,rfl,head,tail⟩ := same
    obtain ⟨s,rfl⟩ := native.1
    have slots : slot rules (.str s) x = slot rules (.str s) y := by
      rcases guarded_member (checked _ x) left.1 with ⟨covered,passed⟩ | ⟨seen,skipped,inside⟩
      · rcases guarded_member (checked _ y) right.1 with ⟨-,passed'⟩ | ⟨seen,-,-⟩
        · rw [slot_replaced rules (masks.replaced _ x passed),slot_replaced rules (masks.replaced _ y passed')]
        · rw [covered] at seen
          cases seen
      · rcases guarded_member (checked _ y) right.1 with ⟨covered,-⟩ | ⟨-,skipped',inside'⟩
        · rw [seen] at covered
          cases covered
        · have same : SameOutside hidden x y := head.resolve_left (by simp [seen])
          rw [slot_searched rules (masks.searched s x skipped),slot_searched rules (masks.searched s y skipped')]
          exact scrub_eq masks checked x native.2.1 y same inside inside'
    rw [scrubMembers_slot,scrubMembers_slot,slots,
      scrubMembers_eq masks checked xs native.2.2 rest tail left.2 right.2]
end

mutual
/-- A value that is scrubbed like a guarded one is guarded. -/
theorem guarded_of_scrub_eq (masks : Masks rules check mark)
    (checked : ∀ key value, (check key value).isSome = hidden key) :
    (a : PyValue) → a.Native → (b : PyValue) → SameOutside hidden a b → Guarded check a → (out : PyValue) →
      scrub rules a = .ok out → scrub rules b = .ok out → Guarded check b
  | .none, _, b, same, left, _, _, _ | .bool _, _, b, same, left, _, _, _ | .int _, _, b, same, left, _, _, _
  | .float _, _, b, same, left, _, _, _ | .str _, _, b, same, left, _, _, _ => by
    rw [← show _ = b from same]
    exact left
  | .list xs, native, b, same, left, out, ok, ok' => by
    obtain ⟨ys,rfl,same⟩ := same
    obtain ⟨items,inner,rfl⟩ := scrub_list_cases rules ok
    obtain ⟨items',inner',equal⟩ := scrub_list_cases rules ok'
    obtain rfl := PyValue.list.inj equal
    exact guardedItems_of_scrub_eq masks checked xs native ys same left items inner inner'
  | .dict xs, native, b, same, left, out, ok, ok' => by
    obtain ⟨ys,rfl,same⟩ := same
    obtain ⟨members,inner,rfl⟩ := scrub_dict_cases rules ok
    obtain ⟨members',inner',equal⟩ := scrub_dict_cases rules ok'
    obtain rfl := PyValue.dict.inj equal
    exact guardedMembers_of_scrub_eq masks checked xs native.2 ys same left members inner inner'
theorem guardedItems_of_scrub_eq (masks : Masks rules check mark)
    (checked : ∀ key value, (check key value).isSome = hidden key) :
    (xs : List PyValue) → PyValue.NativeItems xs → (ys : List PyValue) → SameItemsOutside hidden xs ys →
      GuardedItems check xs → (out : List PyValue) → scrubItems rules xs = .ok out → scrubItems rules ys = .ok out →
      GuardedItems check ys
  | [], _, ys, same, _, _, _, _ => by
    rw [show ys = [] from same]
    trivial
  | x :: xs, native, ys, same, left, out, ok, ok' => by
    obtain ⟨y,rest,rfl,head,tail⟩ := same
    obtain ⟨first,others,one,more,rfl⟩ := scrubItems_cons_cases rules ok
    obtain ⟨first',others',one',more',equal⟩ := scrubItems_cons_cases rules ok'
    obtain ⟨rfl,rfl⟩ := List.cons_eq_cons.mp equal
    exact ⟨guarded_of_scrub_eq masks checked x native.1 y head left.1 _ one one',
      guardedItems_of_scrub_eq masks checked xs native.2 rest tail left.2 _ more more'⟩
theorem guardedMembers_of_scrub_eq (masks : Masks rules check mark)
    (checked : ∀ key value, (check key value).isSome = hidden key) :
    (xs : List (PyKey × PyValue)) → PyValue.NativeMembers xs → (ys : List (PyKey × PyValue)) →
      SameMembersOutside hidden xs ys → GuardedMembers check xs → (out : List (PyKey × PyValue)) →
      scrubMembers rules xs = .ok out → scrubMembers rules ys = .ok out → GuardedMembers check ys
  | [], _, ys, same, _, _, _, _ => by
    rw [show ys = [] from same]
    trivial
  | (key,x) :: xs, native, ys, same, left, out, ok, ok' => by
    obtain ⟨y,rest,rfl,head,tail⟩ := same
    obtain ⟨s,rfl⟩ := native.1
    obtain ⟨first,others,one,more,rfl⟩ := scrubMembers_cons_cases rules ok
    obtain ⟨first',others',one',more',equal⟩ := scrubMembers_cons_cases rules ok'
    obtain ⟨same,rfl⟩ := List.cons_eq_cons.mp equal
    obtain rfl : first = first' := congrArg Prod.snd same
    refine ⟨?_,guardedMembers_of_scrub_eq masks checked xs native.2.2 rest tail left.2 _ more more'⟩
    rcases guarded_member (checked _ x) left.1 with ⟨covered,passed⟩ | ⟨seen,skipped,inside⟩
    · -- the first value is the mark, so the second one is too
      rw [slot_replaced rules (masks.replaced _ x passed)] at one
      cases one
      cases found : check (.str s) y with
      | none =>
        have answer := checked (.str s) y
        rw [found,covered] at answer
        cases answer
      | some passed' =>
        cases passed' with
        | true => rfl
        | false => exact absurd rfl (masks.exposed _ y _ found one')
    · cases found : check (.str s) y with
      | none =>
        have same : SameOutside hidden x y := head.resolve_left (by simp [seen])
        rw [slot_searched rules (masks.searched s x skipped)] at one
        rw [slot_searched rules (masks.searched s y found)] at one'
        exact guarded_of_scrub_eq masks checked x native.2.1 y same inside _ one one'
      | some passed' =>
        have answer := checked (.str s) y
        rw [found,seen] at answer
        cases answer
end

/-- Beside a guarded value, the outputs agree exactly when the other value is guarded too. -/
theorem scrub_eq_iff (masks : Masks rules check mark) (checked : ∀ key value, (check key value).isSome = hidden key)
    (decides : Decides rules) {a b : PyValue} (native : a.Native) (same : SameOutside hidden a b)
    (guarded : Guarded check a) : scrub rules a = scrub rules b ↔ Guarded check b := by
  constructor
  · intro equal
    obtain ⟨out,ok⟩ := scrub_ok decides a native
    exact guarded_of_scrub_eq masks checked a native b same guarded out ok (equal ▸ ok)
  · intro guarded'
    exact scrub_eq masks checked a native b same guarded guarded'

end masks
/-- The check says whether the replacement of a member has only good texts. -/
structure Judges (rules : Rules E) (check : PyKey → PyValue → Option Bool) (holds : String → Prop) : Prop where
  text : ∀ s, holds (rules.text s)
  judged : ∀ key value passed, check key value = some passed →
    ∃ replaced, rules.member key value = .ok (some replaced) ∧ (Texts holds replaced ↔ passed = true)
  searched : ∀ s value, check (.str s) value = none → rules.member (.str s) value = .ok none

section texts
variable {check : PyKey → PyValue → Option Bool} {holds : String → Prop}

mutual
theorem texts_scrub_iff (judges : Judges rules check holds) : (v : PyValue) → v.Native → (out : PyValue) →
    scrub rules v = .ok out → (Texts holds out ↔ Guarded check v)
  | .none, _, out, ok | .bool _, _, out, ok | .int _, _, out, ok | .float _, _, out, ok => by
    cases ok
    exact Iff.rfl
  | .str s, _, out, ok => by
    cases ok
    exact iff_of_true (judges.text s) trivial
  | .list items, native, out, ok => by
    obtain ⟨others,inner,rfl⟩ := scrub_list_cases rules ok
    exact textsItems_scrub_iff judges items native others inner
  | .dict members, native, out, ok => by
    obtain ⟨others,inner,rfl⟩ := scrub_dict_cases rules ok
    exact textsMembers_scrub_iff judges members native.2 others inner
theorem textsItems_scrub_iff (judges : Judges rules check holds) : (items : List PyValue) →
    PyValue.NativeItems items → (out : List PyValue) → scrubItems rules items = .ok out →
    (TextsItems holds out ↔ GuardedItems check items)
  | [], _, out, ok => by
    cases ok
    exact Iff.rfl
  | item :: items, native, out, ok => by
    obtain ⟨first,rest,one,more,rfl⟩ := scrubItems_cons_cases rules ok
    exact and_congr (texts_scrub_iff judges item native.1 first one)
      (textsItems_scrub_iff judges items native.2 rest more)
theorem textsMembers_scrub_iff (judges : Judges rules check holds) : (members : List (PyKey × PyValue)) →
    PyValue.NativeMembers members → (out : List (PyKey × PyValue)) → scrubMembers rules members = .ok out →
    (TextsMembers holds out ↔ GuardedMembers check members)
  | [], _, out, ok => by
    cases ok
    exact Iff.rfl
  | (key,value) :: members, native, out, ok => by
    obtain ⟨s,rfl⟩ := native.1
    obtain ⟨first,rest,one,more,rfl⟩ := scrubMembers_cons_cases rules ok
    refine and_congr ?_ (textsMembers_scrub_iff judges members native.2.2 rest more)
    cases found : check (.str s) value with
    | none =>
      rw [slot_searched rules (judges.searched s value found)] at one
      exact texts_scrub_iff judges value native.2.1 first one
    | some passed =>
      obtain ⟨replaced,decided,fits⟩ := judges.judged _ value passed found
      rw [slot_replaced rules decided] at one
      cases one
      exact fits
end

end texts

mutual
/-- A check that refuses nothing is passed by every value. -/
theorem guarded_of_passing {check : PyKey → PyValue → Option Bool} (passing : ∀ key value, check key value ≠ some false) :
    (v : PyValue) → Guarded check v
  | .none | .bool _ | .int _ | .float _ | .str _ | .tuple _ | .other _ _ => trivial
  | .list items => guardedItems_of_passing passing items
  | .dict members => guardedMembers_of_passing passing members
theorem guardedItems_of_passing {check : PyKey → PyValue → Option Bool}
    (passing : ∀ key value, check key value ≠ some false) : (items : List PyValue) → GuardedItems check items
  | [] => trivial
  | item :: items => ⟨guarded_of_passing passing item,guardedItems_of_passing passing items⟩
theorem guardedMembers_of_passing {check : PyKey → PyValue → Option Bool}
    (passing : ∀ key value, check key value ≠ some false) :
    (members : List (PyKey × PyValue)) → GuardedMembers check members
  | [] => trivial
  | (key,value) :: members => by
    refine ⟨?_,guardedMembers_of_passing passing members⟩
    have allowed := passing key value
    cases found : check key value with
    | none => exact guarded_of_passing passing value
    | some passed =>
      cases passed with
      | true => rfl
      | false => exact absurd found allowed
end

/-- Scrubbing again changes nothing: texts are settled, replacements stay, and what is searched is
searched whatever it holds. -/
structure Settles (rules : Rules E) : Prop where
  text : ∀ s, rules.text (rules.text s) = rules.text s
  again : ∀ key value replaced, rules.member key value = .ok (some replaced) →
    rules.member key replaced = .ok (some replaced)
  blind : ∀ key value other, rules.member key value = .ok none → rules.member key other = .ok none

mutual
theorem scrub_scrub (settles : Settles rules) : (v out : PyValue) → scrub rules v = .ok out → scrub rules out = .ok out
  | .none, out, ok | .bool _, out, ok | .int _, out, ok | .float _, out, ok | .tuple _, out, ok
  | .other _ _, out, ok => by
    cases ok
    rfl
  | .str s, out, ok => by
    cases ok
    rw [scrub,settles.text]
  | .list items, out, ok => by
    obtain ⟨others,inner,rfl⟩ := scrub_list_cases rules ok
    exact scrub_list rules (scrubItems_scrubItems settles items others inner)
  | .dict members, out, ok => by
    obtain ⟨others,inner,rfl⟩ := scrub_dict_cases rules ok
    exact scrub_dict rules (scrubMembers_scrubMembers settles members others inner)
theorem scrubItems_scrubItems (settles : Settles rules) : (items out : List PyValue) →
    scrubItems rules items = .ok out → scrubItems rules out = .ok out
  | [], out, ok => by
    cases ok
    rfl
  | item :: items, out, ok => by
    obtain ⟨first,rest,one,more,rfl⟩ := scrubItems_cons_cases rules ok
    exact scrubItems_cons rules (scrub_scrub settles item first one) (scrubItems_scrubItems settles items rest more)
theorem scrubMembers_scrubMembers (settles : Settles rules) : (members out : List (PyKey × PyValue)) →
    scrubMembers rules members = .ok out → scrubMembers rules out = .ok out
  | [], out, ok => by
    cases ok
    rfl
  | (key,value) :: members, out, ok => by
    obtain ⟨first,rest,one,more,rfl⟩ := scrubMembers_cons_cases rules ok
    have same : slot rules key first = .ok first := by
      cases decided : rules.member key value with
      | error e =>
        rw [slot,decided] at one
        cases one
      | ok choice =>
        cases choice with
        | none =>
          rw [slot_searched rules decided] at one
          rw [slot_searched rules (settles.blind key value first decided)]
          exact scrub_scrub settles value first one
        | some replaced =>
          rw [slot_replaced rules decided] at one
          cases one
          exact slot_replaced rules (settles.again key value _ decided)
    exact scrubMembers_cons rules same (scrubMembers_scrubMembers settles members rest more)
end

end Redaction
end RevPilot.Library
