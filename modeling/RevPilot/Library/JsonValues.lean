import RevPilot.Library.Lists
import RevPilot.Library.PyValue
import RevPilot.Library.Sorting
import Mathlib.Data.List.Lex
import Mathlib.Data.List.Perm.Basic

/-! Values that JSON has itself, and when two of them are one value: the order of
the members of an object does not count, the kinds of numbers do. Sorted by their
keys, two such values have one tree exactly then. -/
namespace RevPilot.Library
open JsonText

namespace PyValue

mutual
/-- `None`, truth values, numbers, texts, lists, and `dict`s with distinct text keys. -/
def Native : PyValue → Prop
  | .none | .bool _ | .int _ | .float _ | .str _ => True
  | .list items => NativeItems items
  | .dict members => (members.map Prod.fst).Nodup ∧ NativeMembers members
  | .tuple _ | .other _ _ => False
def NativeItems : List PyValue → Prop
  | [] => True
  | item :: items => Native item ∧ NativeItems items
def NativeMembers : List (PyKey × PyValue) → Prop
  | [] => True
  | (key,value) :: members => (∃ s, key = .str s) ∧ Native value ∧ NativeMembers members
end

mutual
/-- Equality of values: member by member for objects, whatever their order. -/
def Same : PyValue → PyValue → Prop
  | .none, .none => True
  | .bool a, .bool b => a = b
  | .int a, .int b => a = b
  | .float a, .float b => a = b
  | .str a, .str b => a = b
  | .list xs, .list ys => SameItems xs ys
  | .dict xs, .dict ys => xs.length = ys.length ∧ SameMembers xs ys
  | _, _ => False
def SameItems : List PyValue → List PyValue → Prop
  | [], [] => True
  | x :: xs, y :: ys => Same x y ∧ SameItems xs ys
  | _, _ => False
def SameMembers : List (PyKey × PyValue) → List (PyKey × PyValue) → Prop
  | [], _ => True
  | (key,x) :: xs, ys => (∃ y, (key,y) ∈ ys ∧ Same x y) ∧ SameMembers xs ys
end

theorem nativeMembers_iff (members : List (PyKey × PyValue)) :
    NativeMembers members ↔ ∀ m ∈ members, (∃ s, m.1 = .str s) ∧ Native m.2 := by
  induction members with
  | nil => simp [NativeMembers]
  | cons m members ih => simp [NativeMembers,ih,and_assoc]

theorem sameMembers_iff (xs ys : List (PyKey × PyValue)) :
    SameMembers xs ys ↔ ∀ m ∈ xs, ∃ y, (m.1,y) ∈ ys ∧ Same m.2 y := by
  induction xs with
  | nil => simp [SameMembers]
  | cons m xs ih => simp [SameMembers,ih]

end PyValue

section members
variable {A : Type}

/-- The members of an object with text keys, sorted by them. -/
theorem sortMembers_texts (pairs : List (String × A)) :
    sortMembers (pairs.map (fun p => (PyKey.str p.1,p.2))) =
      some ((sortedBy (fun p : String × A => p.1.toList) pairs).map (fun p => (PyKey.str p.1,p.2))) := by
  have ranks : ranked? PyKey.string? (pairs.map (fun p => (PyKey.str p.1,p.2))) =
      some (pairs.map (fun p => (p.1,(PyKey.str p.1,p.2)))) := by
    induction pairs with
    | nil => rfl
    | cons p pairs ih =>
      simp only [ranked?,List.map_cons,List.mapM_cons] at ih ⊢
      rw [ih]
      rfl
  simp only [sortMembers,ranks,sortRanked,sortedBy]
  rw [← List.map_insertionSort (fun a b : String × A => a.1.toList ≤ b.1.toList) (fun a b => _)
    (fun p : String × A => (p.1,(PyKey.str p.1,p.2))) pairs (by simp)]
  simp [Function.comp_def]

theorem sorted_pairs_eq_iff {xs ys : List (String × A)} (distinct : (xs.map Prod.fst).Nodup) :
    sortedBy (fun p : String × A => p.1.toList) xs = sortedBy (fun p : String × A => p.1.toList) ys ↔
      xs.Perm ys := by
  constructor
  · intro same
    have first := (sortedBy_perm (fun p : String × A => p.1.toList) xs).symm
    rw [same] at first
    exact first.trans (sortedBy_perm _ ys)
  · intro perm
    apply sortedBy_congr _ perm
    intro p inside q member key
    exact List.inj_on_of_nodup_map distinct inside member (String.toList_injective key)

end members

namespace PyValue
variable {fallback : String → Option Tree}

/-- A member and its tree. -/
def Written (fallback : String → Option Tree) (m : PyKey × PyValue) (p : String × Tree) : Prop :=
  m.1 = .str p.1 ∧ toTree fallback m.2 = some p.2

theorem toMembers_of_written {members : List (PyKey × PyValue)} {pairs : List (String × Tree)}
    (written : List.Forall₂ (Written fallback) members pairs) :
    toMembers fallback members = some (pairs.map (fun p => (PyKey.str p.1,p.2))) := by
  induction written with
  | nil => rfl
  | @cons m p ms ps head _ ih =>
    obtain ⟨key,value⟩ := m
    obtain ⟨rfl,tree⟩ := head
    simp only [toMembers,ih]
    rw [show toTree fallback value = some p.2 from tree]
    rfl

theorem toTree_dict {members : List (PyKey × PyValue)} {pairs : List (String × Tree)}
    (written : List.Forall₂ (Written fallback) members pairs) :
    toTree fallback (.dict members) = some (.obj (sortedBy (fun p : String × Tree => p.1.toList) pairs)) := by
  rw [toTree,toMembers_of_written written]
  simp only [Option.bind_eq_bind,Option.bind_some,sortMembers_texts]
  simp [Function.comp_def,PyKey.text]

mutual
/-- Every native value has a tree, whatever the fallback for other objects is. -/
theorem native_toTree : (v : PyValue) → Native v → ∃ tree, toTree fallback v = some tree
  | .none, _ => ⟨.null,rfl⟩
  | .bool b, _ => ⟨.bool b,rfl⟩
  | .int i, _ => ⟨.int i,rfl⟩
  | .float x, _ => ⟨.float x,rfl⟩
  | .str s, _ => ⟨.str s,rfl⟩
  | .list items, native => by
    obtain ⟨trees,found⟩ := native_toTrees items native
    exact ⟨.arr trees,by rw [toTree,found]; rfl⟩
  | .dict members, native => by
    obtain ⟨pairs,written⟩ := native_written members native.2
    exact ⟨_,toTree_dict written⟩
theorem native_toTrees : (items : List PyValue) → NativeItems items → ∃ trees, toTrees fallback items = some trees
  | [], _ => ⟨[],rfl⟩
  | item :: items, native => by
    obtain ⟨tree,first⟩ := native_toTree item native.1
    obtain ⟨trees,rest⟩ := native_toTrees items native.2
    exact ⟨tree :: trees,by rw [toTrees,first,rest]; rfl⟩
theorem native_written : (members : List (PyKey × PyValue)) → NativeMembers members →
    ∃ pairs, List.Forall₂ (Written fallback) members pairs
  | [], _ => ⟨[],.nil⟩
  | (key,value) :: members, native => by
    obtain ⟨s,text⟩ := native.1
    obtain ⟨tree,first⟩ := native_toTree value native.2.1
    obtain ⟨pairs,rest⟩ := native_written members native.2.2
    exact ⟨(s,tree) :: pairs,.cons ⟨text,first⟩ rest⟩
end

theorem written_names {ms : List (PyKey × PyValue)} {ps : List (String × Tree)}
    (written : List.Forall₂ (Written fallback) ms ps) : ms.map Prod.fst = (ps.map Prod.fst).map PyKey.str := by
  induction written with
  | nil => rfl
  | cons head _ ih => simp [head.1,ih]

/-- Two objects have the same pairs iff they have as many members and equal members. -/
theorem written_perm_iff {xs ys : List (PyKey × PyValue)} {ps qs : List (String × Tree)}
    (first : List.Forall₂ (Written fallback) xs ps) (second : List.Forall₂ (Written fallback) ys qs)
    (unique : (ps.map Prod.fst).Nodup)
    (each : ∀ m ∈ xs, ∀ n ∈ ys, (toTree fallback m.2 = toTree fallback n.2 ↔ Same m.2 n.2)) :
    ps.Perm qs ↔ xs.length = ys.length ∧ SameMembers xs ys := by
  have lengths : ps.length = xs.length ∧ qs.length = ys.length := ⟨first.length_eq.symm,second.length_eq.symm⟩
  rw [sameMembers_iff]
  constructor
  · intro perm
    refine ⟨by rw [← lengths.1,← lengths.2,perm.length_eq],?_⟩
    intro m inside
    obtain ⟨p,member,named,tree⟩ := Pairing.exists_right first inside
    obtain ⟨n,inside',named',tree'⟩ := Pairing.exists_left second (perm.mem_iff.mp member)
    refine ⟨n.2,?_,(each m inside n inside').mp (tree.trans tree'.symm)⟩
    rw [named,← named']
    exact inside'
  · rintro ⟨size,same⟩
    have subset : ps ⊆ qs := by
      intro p member
      obtain ⟨m,inside,named,tree⟩ := Pairing.exists_left first member
      obtain ⟨y,inside',equal⟩ := same m inside
      obtain ⟨q,member',named',tree'⟩ := Pairing.exists_right second inside'
      have trees := (each m inside (m.1,y) inside').mpr equal
      have key : p.1 = q.1 := PyKey.str.inj (named.symm.trans named')
      have value : p.2 = q.2 := Option.some.inj (tree.symm.trans (trees.trans tree'))
      rw [show p = q from Prod.ext key value]
      exact member'
    exact (List.subperm_of_subset unique.of_map subset).perm_of_length_le (by omega)

theorem dict_eq_iff {xs ys : List (PyKey × PyValue)} (native : Native (.dict xs)) (native' : Native (.dict ys))
    (each : ∀ m ∈ xs, ∀ n ∈ ys, (toTree fallback m.2 = toTree fallback n.2 ↔ Same m.2 n.2)) :
    toTree fallback (.dict xs) = toTree fallback (.dict ys) ↔ Same (.dict xs) (.dict ys) := by
  obtain ⟨ps,first⟩ := @native_written fallback xs native.2
  obtain ⟨qs,second⟩ := @native_written fallback ys native'.2
  have unique : (ps.map Prod.fst).Nodup := by
    have distinct := native.1
    rw [written_names first] at distinct
    exact distinct.of_map _
  rw [toTree_dict first,toTree_dict second,Option.some.injEq,Tree.obj.injEq,sorted_pairs_eq_iff unique]
  exact written_perm_iff first second unique each

theorem list_eq_iff {xs ys : List PyValue} (native : NativeItems xs) (native' : NativeItems ys)
    (each : ∀ x ∈ xs, ∀ y, Native y → (toTree fallback x = toTree fallback y ↔ Same x y)) :
    toTrees fallback xs = toTrees fallback ys ↔ SameItems xs ys := by
  induction xs generalizing ys with
  | nil =>
    cases ys with
    | nil => simp [SameItems]
    | cons y ys =>
      obtain ⟨trees,found⟩ := @native_toTrees fallback (y :: ys) native'
      obtain ⟨tree,first⟩ := @native_toTree fallback y native'.1
      obtain ⟨rest,others⟩ := @native_toTrees fallback ys native'.2
      simp [SameItems,toTrees,first,others]
  | cons x xs ih =>
    obtain ⟨tree,first⟩ := @native_toTree fallback x native.1
    obtain ⟨rest,others⟩ := @native_toTrees fallback xs native.2
    cases ys with
    | nil => simp [SameItems,toTrees,first,others]
    | cons y ys =>
      obtain ⟨tree',first'⟩ := @native_toTree fallback y native'.1
      obtain ⟨rest',others'⟩ := @native_toTrees fallback ys native'.2
      have head := each x List.mem_cons_self y native'.1
      have tail := ih native.2 native'.2 (fun z inside => each z (List.mem_cons_of_mem x inside))
      rw [first,first',Option.some.injEq] at head
      rw [others,others',Option.some.injEq] at tail
      simp [SameItems,toTrees,first,others,first',others',head,tail]

/-- The parts of a tree that tell the kinds of values apart. -/
def shape : Tree → Nat
  | .null => 0
  | .bool _ => 1
  | .int _ => 2
  | .float _ => 3
  | .str _ => 4
  | .arr _ => 5
  | .obj _ => 6

def kind : PyValue → Nat
  | .none => 0
  | .bool _ => 1
  | .int _ => 2
  | .float _ => 3
  | .str _ => 4
  | .list _ => 5
  | .dict _ => 6
  | .tuple _ => 7
  | .other _ _ => 8

theorem shape_of_native {v : PyValue} (native : Native v) {tree : Tree} (found : toTree fallback v = some tree) :
    shape tree = kind v := by
  cases v with
  | none | bool | int | float | str =>
    cases found
    rfl
  | list items =>
    obtain ⟨trees,inner⟩ := @native_toTrees fallback items native
    rw [toTree,inner] at found
    cases found
    rfl
  | dict members =>
    obtain ⟨pairs,written⟩ := @native_written fallback members native.2
    rw [toTree_dict written] at found
    cases found
    rfl
  | tuple | other => exact native.elim

theorem kind_of_same {a b : PyValue} (same : Same a b) : kind a = kind b := by
  cases a <;> cases b <;> first | rfl | exact same.elim

/-- Values of different kinds have neither one tree nor one value. -/
theorem apart_iff {a b : PyValue} (native : Native a) (native' : Native b) (apart : kind a ≠ kind b) :
    toTree fallback a = toTree fallback b ↔ Same a b := by
  obtain ⟨tree,found⟩ := @native_toTree fallback b native'
  constructor
  · intro trees
    have first := shape_of_native native (trees.trans found)
    exact absurd (first.symm.trans (shape_of_native native' found)) apart
  · intro same
    exact absurd (kind_of_same same) apart

mutual
/-- Native values have one tree exactly when they are the same value. -/
theorem toTree_eq_iff : (a : PyValue) → Native a → ∀ b, Native b →
    (toTree fallback a = toTree fallback b ↔ Same a b)
  | .none, native, b, native' => by
    cases b with
    | none => simp [Same]
    | bool | int | float | str | list | tuple | dict | other => exact apart_iff native native' (by simp [kind])
  | .bool _, native, b, native' => by
    cases b with
    | bool => simp [toTree,Same]
    | none | int | float | str | list | tuple | dict | other => exact apart_iff native native' (by simp [kind])
  | .int _, native, b, native' => by
    cases b with
    | int => simp [toTree,Same]
    | none | bool | float | str | list | tuple | dict | other => exact apart_iff native native' (by simp [kind])
  | .float _, native, b, native' => by
    cases b with
    | float => simp [toTree,Same]
    | none | bool | int | str | list | tuple | dict | other => exact apart_iff native native' (by simp [kind])
  | .str _, native, b, native' => by
    cases b with
    | str => simp [toTree,Same]
    | none | bool | int | float | list | tuple | dict | other => exact apart_iff native native' (by simp [kind])
  | .list xs, native, b, native' => by
    cases b with
    | list ys =>
      have items := list_eq_iff native native' (items_eq_iff xs native)
      have single : Function.Injective (Option.map Tree.arr) := Option.map_injective fun _ _ => Tree.arr.inj
      rw [toTree,toTree,single.eq_iff,items,Same]
    | none | bool | int | float | str | tuple | dict | other => exact apart_iff native native' (by simp [kind])
  | .dict xs, native, b, native' => by
    cases b with
    | dict ys =>
      apply dict_eq_iff native native'
      intro m inside n member
      exact members_eq_iff xs native.2 m inside n.2 (((nativeMembers_iff ys).mp native'.2 n member).2)
    | none | bool | int | float | str | tuple | list | other => exact apart_iff native native' (by simp [kind])
theorem items_eq_iff : (xs : List PyValue) → NativeItems xs → ∀ x ∈ xs, ∀ y, Native y →
    (toTree fallback x = toTree fallback y ↔ Same x y)
  | [], _, x, inside, _, _ => absurd inside (by simp)
  | x :: xs, native, z, inside, y, native' => by
    obtain same | inside := List.mem_cons.mp inside
    · rw [same]
      exact toTree_eq_iff x native.1 y native'
    · exact items_eq_iff xs native.2 z inside y native'
theorem members_eq_iff : (xs : List (PyKey × PyValue)) → NativeMembers xs → ∀ m ∈ xs, ∀ y, Native y →
    (toTree fallback m.2 = toTree fallback y ↔ Same m.2 y)
  | [], _, m, inside, _, _ => absurd inside (by simp)
  | (key,value) :: xs, native, m, inside, y, native' => by
    obtain same | inside := List.mem_cons.mp inside
    · rw [same]
      exact toTree_eq_iff value native.2.1 y native'
    · exact members_eq_iff xs native.2.2 m inside y native'
end

theorem lookup_eq_some_iff {members : List (PyKey × PyValue)} (distinct : (members.map Prod.fst).Nodup) {name : String}
    {value : PyValue} : lookup members name = some value ↔ (.str name,value) ∈ members := by
  unfold lookup
  constructor
  · intro found
    obtain ⟨m,first,rfl⟩ := Option.map_eq_some_iff.mp found
    have key : m.1 = .str name := by simpa using List.find?_some first
    rw [← key]
    exact List.mem_of_find?_eq_some first
  · intro inside
    obtain ⟨m,first⟩ : ∃ m, members.find? (fun m => m.1 = .str name) = some m :=
      Option.isSome_iff_exists.mp (List.find?_isSome.mpr ⟨_,inside,by simp⟩)
    have key : m.1 = .str name := by simpa using List.find?_some first
    have same : m = (.str name,value) :=
      List.inj_on_of_nodup_map distinct (List.mem_of_find?_eq_some first) inside key
    rw [first,same,Option.map_some]

theorem lookup_eq_none_iff {members : List (PyKey × PyValue)} {name : String} :
    lookup members name = Option.none ↔ PyKey.str name ∉ members.map Prod.fst := by
  simp only [lookup,Option.map_eq_none_iff,List.find?_eq_none,decide_eq_true_eq,List.mem_map,not_exists,not_and]

/-- Equal objects have equal members under every name. -/
theorem lookup_same {xs ys : List (PyKey × PyValue)} (native : Native (.dict xs)) (native' : Native (.dict ys))
    (same : Same (.dict xs) (.dict ys)) (name : String) : Option.Rel Same (lookup xs name) (lookup ys name) := by
  obtain ⟨size,members⟩ := same
  rw [sameMembers_iff] at members
  cases found : lookup xs name with
  | some value =>
    obtain ⟨other,inside,equal⟩ := members _ ((lookup_eq_some_iff native.1).mp found)
    rw [(lookup_eq_some_iff native'.1).mpr inside]
    exact .some equal
  | none =>
    have subset : xs.map Prod.fst ⊆ ys.map Prod.fst := by
      intro key inside
      obtain ⟨m,member,rfl⟩ := List.mem_map.mp inside
      obtain ⟨other,inside',_⟩ := members m member
      exact List.mem_map.mpr ⟨_,inside',rfl⟩
    have perm : (xs.map Prod.fst).Perm (ys.map Prod.fst) :=
      (List.subperm_of_subset native.1 subset).perm_of_length_le (by simp [size])
    have absent : lookup ys name = Option.none := by
      rw [lookup_eq_none_iff,← perm.mem_iff]
      exact lookup_eq_none_iff.mp found
    rw [absent]
    exact .none
end PyValue
end RevPilot.Library
