import RevPilot.Library.JsonValues

/-! Values that JSON spells alike. The order of the members of an object is not seen in
its text, and neither is whether a sequence is a list or a tuple, nor what a key is
besides its text. -/
namespace RevPilot.Library
open JsonText

section sorting
variable {A B : Type}

theorem ranked?_map {C : Type} (rank : PyKey → Option C) (f : A → B) (members : List (PyKey × A)) :
    ranked? rank (members.map (fun m => (m.1,f m.2))) =
      (ranked? rank members).map (List.map (fun r => (r.1,(r.2.1,f r.2.2)))) := by
  induction members with
  | nil => rfl
  | cons m members ih =>
    simp only [ranked?,List.map_cons,List.mapM_cons] at ih ⊢
    rw [ih]
    cases rank m.1 with
    | none => rfl
    | some r => cases List.mapM (fun m => (rank m.1).map (fun r => (r,m))) members <;> rfl

theorem sortRanked_map {C : Type} (le : C → C → Bool) (f : A → B) (ranked : List (C × A)) :
    sortRanked le (ranked.map (fun r => (r.1,f r.2))) = (sortRanked le ranked).map f := by
  unfold sortRanked
  rw [← List.map_insertionSort (fun a b : C × A => le a.1 b.1 = true) (fun a b : C × B => le a.1 b.1 = true)
    (fun r : C × A => (r.1,f r.2)) ranked (fun _ _ _ _ => Iff.rfl)]
  simp [Function.comp_def]

/-- The order of the members depends on their keys only. -/
theorem sortMembers_map (f : A → B) (members : List (PyKey × A)) :
    sortMembers (members.map (fun m => (m.1,f m.2))) =
      (sortMembers members).map (List.map (fun m => (m.1,f m.2))) := by
  unfold sortMembers
  rw [ranked?_map,ranked?_map]
  cases ranked? PyKey.string? members with
  | some ranked => exact congrArg some (sortRanked_map _ (fun m : PyKey × A => (m.1,f m.2)) ranked)
  | none =>
    cases ranked? PyKey.number? members with
    | some ranked => exact congrArg some (sortRanked_map _ (fun m : PyKey × A => (m.1,f m.2)) ranked)
    | none =>
      simp only [Option.map_none,List.length_map]
      split <;> rfl

/-- Members with the same keys are sorted alike. -/
theorem sortMembers_paired {R : A → B → Prop} {xs xs' : List (PyKey × A)} {ys : List (PyKey × B)}
    (paired : List.Forall₂ (fun m n => m.1 = n.1 ∧ R m.2 n.2) xs ys) (sorted : sortMembers xs = some xs') :
    ∃ ys', sortMembers ys = some ys' ∧ List.Forall₂ (fun m n => m.1 = n.1 ∧ R m.2 n.2) xs' ys' := by
  -- the pairs are sorted as one list, by the keys that both have
  obtain ⟨zs,rfl,rfl⟩ : ∃ zs : List (PyKey × {p : A × B // R p.1 p.2}),
      xs = zs.map (fun z => (z.1,z.2.val.1)) ∧ ys = zs.map (fun z => (z.1,z.2.val.2)) := by
    clear sorted
    induction paired with
    | nil => exact ⟨[],rfl,rfl⟩
    | @cons m n _ _ head _ ih =>
      obtain ⟨zs,rfl,rfl⟩ := ih
      obtain ⟨key,x⟩ := m
      obtain ⟨key',y⟩ := n
      obtain ⟨rfl,related⟩ := head
      exact ⟨(key,⟨(x,y),related⟩) :: zs,rfl,rfl⟩
  rw [sortMembers_map (fun p : {p : A × B // R p.1 p.2} => p.val.1)] at sorted
  obtain ⟨zs',order,rfl⟩ := Option.map_eq_some_iff.mp sorted
  refine ⟨zs'.map (fun z => (z.1,z.2.val.2)),?_,?_⟩
  · rw [sortMembers_map (fun p : {p : A × B // R p.1 p.2} => p.val.2),order]
    rfl
  · rw [List.forall₂_map_left_iff,List.forall₂_map_right_iff,List.forall₂_same]
    exact fun z _ => ⟨rfl,z.2.property⟩

theorem ranked?_some {C : Type} {rank : PyKey → Option C} {members : List (PyKey × A)} {rs : List (C × (PyKey × A))}
    (ranked : ranked? rank members = some rs) : rs.map Prod.snd = members ∧ ∀ r ∈ rs, rank r.2.1 = some r.1 := by
  induction members generalizing rs with
  | nil =>
    obtain rfl := Option.some.inj ranked
    simp
  | cons m members ih =>
    simp only [ranked?,List.mapM_cons] at ranked ih
    cases own : rank m.1 with
    | none => simp [own] at ranked
    | some c =>
      cases others : List.mapM (fun m => (rank m.1).map (fun r => (r,m))) members with
      | none => simp [own,others] at ranked
      | some rest =>
        obtain rfl : (c,m) :: rest = rs := by simpa [own,others] using ranked
        obtain ⟨whole,each⟩ := ih others
        exact ⟨by rw [List.map_cons,whole],List.forall_mem_cons.mpr ⟨own,each⟩⟩

theorem ranked?_perm {C : Type} {rank : PyKey → Option C} {xs ys : List (PyKey × A)} (perm : xs.Perm ys)
    {rs : List (C × (PyKey × A))} (ranked : ranked? rank xs = some rs) :
    ∃ rs', ranked? rank ys = some rs' ∧ rs.Perm rs' := by
  have each (m : PyKey × A) (members : List (PyKey × A)) : ranked? rank (m :: members) =
      (rank m.1).bind (fun c => (ranked? rank members).map (fun rest => (c,m) :: rest)) := by
    simp only [ranked?,List.mapM_cons]
    cases rank m.1 with
    | none => rfl
    | some c => cases List.mapM (fun m => (rank m.1).map (fun r => (r,m))) members <;> rfl
  induction perm generalizing rs with
  | nil => exact ⟨rs,ranked,.refl rs⟩
  | cons m _ ih =>
    rw [each] at ranked
    obtain ⟨c,own,more⟩ := Option.bind_eq_some_iff.mp ranked
    obtain ⟨rest,others,rfl⟩ := Option.map_eq_some_iff.mp more
    obtain ⟨rest',others',perm⟩ := ih others
    exact ⟨(c,m) :: rest',by rw [each,own,others']; rfl,perm.cons (c,m)⟩
  | swap m n members =>
    rw [each,each] at ranked
    obtain ⟨c,own,more⟩ := Option.bind_eq_some_iff.mp ranked
    obtain ⟨rest,others,rfl⟩ := Option.map_eq_some_iff.mp more
    obtain ⟨d,own',more'⟩ := Option.bind_eq_some_iff.mp others
    obtain ⟨rest',others',rfl⟩ := Option.map_eq_some_iff.mp more'
    exact ⟨(d,m) :: (c,n) :: rest',by rw [each,each,own,own',others']; rfl,List.Perm.swap _ _ _⟩
  | trans _ _ ih ih' =>
    obtain ⟨rs',ranked',perm⟩ := ih ranked
    obtain ⟨rs'',ranked'',perm'⟩ := ih' ranked'
    exact ⟨rs'',ranked'',perm.trans perm'⟩

theorem sortRanked_perm {C : Type} (le : C → C → Bool) (rs : List (C × A)) :
    (sortRanked le rs).Perm (rs.map Prod.snd) := (List.perm_insertionSort _ rs).map Prod.snd

theorem sortMembers_perm {members sorted : List (PyKey × A)} (ok : sortMembers members = some sorted) :
    sorted.Perm members := by
  unfold sortMembers at ok
  split at ok
  next rs ranked =>
    obtain rfl := Option.some.inj ok
    exact (sortRanked_perm _ rs).trans (.of_eq (ranked?_some ranked).1)
  next =>
    split at ok
    next rs ranked =>
      obtain rfl := Option.some.inj ok
      exact (sortRanked_perm _ rs).trans (.of_eq (ranked?_some ranked).1)
    next =>
      split at ok
      next => exact .of_eq (Option.some.inj ok).symm
      next => cases ok

theorem sortRanked_congr {C D : Type} [LinearOrder D] {le : C → C → Bool} {f : C → D}
    (order : ∀ a b, le a b = true ↔ f a ≤ f b) {rs rs' : List (C × A)} (perm : rs.Perm rs')
    (apart : ∀ r ∈ rs, ∀ r' ∈ rs, f r.1 = f r'.1 → r = r') : sortRanked le rs = sortRanked le rs' := by
  have sorted (rs : List (C × A)) : rs.insertionSort (fun a b => le a.1 b.1 = true) =
      sortedBy (fun r : C × A => f r.1) rs := by
    have mapped := List.map_insertionSort (fun a b : C × A => f a.1 ≤ f b.1) (fun a b : C × A => le a.1 b.1 = true)
      id rs (fun a _ b _ => (order a.1 b.1).symm)
    simpa [sortedBy] using mapped.symm
  unfold sortRanked
  rw [sorted,sorted,sortedBy_congr _ perm apart]

end sorting

/-- What a dictionary tells a key by: the number that it is, or the key itself. -/
def PyKey.identity (key : PyKey) : (Int ×ₗ ℚ) ⊕ PyKey :=
  match key.number? with
  | some number => .inl number
  | Option.none => .inr key

/-- The order in which the members of a dictionary come does not count. -/
theorem sortMembers_congr {A : Type} {xs ys : List (PyKey × A)} (perm : xs.Perm ys)
    (distinct : (xs.map (fun m => m.1.identity)).Nodup) : sortMembers xs = sortMembers ys := by
  have same {m m' : PyKey × A} (inside : m ∈ xs) (inside' : m' ∈ xs) (key : m.1.identity = m'.1.identity) : m = m' :=
    List.inj_on_of_nodup_map distinct inside inside' key
  have apart {C : Type} {rank : PyKey → Option C} {rs : List (C × (PyKey × A))} (ranked : ranked? rank xs = some rs)
      (identity : ∀ k l c, rank k = some c → rank l = some c → k.identity = l.identity) :
      ∀ r ∈ rs, ∀ r' ∈ rs, r.1 = r'.1 → r = r' := by
    obtain ⟨whole,each⟩ := ranked?_some ranked
    intro r inside r' inside' rank
    have own := each r inside
    have own' := each r' inside'
    rw [← rank] at own'
    have member := same (whole ▸ List.mem_map_of_mem inside) (whole ▸ List.mem_map_of_mem inside')
      (identity _ _ _ own own')
    exact Prod.ext rank member
  have absent {C : Type} {rank : PyKey → Option C} (unranked : ranked? rank xs = none) : ranked? rank ys = none := by
    cases ranked : ranked? rank ys with
    | none => rfl
    | some rs =>
      obtain ⟨rs',found,_⟩ := ranked?_perm perm.symm ranked
      rw [unranked] at found
      cases found
  unfold sortMembers
  cases texts : ranked? PyKey.string? xs with
  | some rs =>
    obtain ⟨rs',found,perm⟩ := ranked?_perm perm texts
    rw [found]
    refine congrArg some (sortRanked_congr (f := String.toList) (fun a b => decide_eq_true_iff) perm ?_)
    intro r inside r' inside' chars
    refine apart texts ?_ r inside r' inside' (String.toList_injective chars)
    intro k l c own own'
    cases k <;> cases own
    cases l <;> cases own'
    rfl
  | none =>
    rw [absent texts]
    cases numbers : ranked? PyKey.number? xs with
    | some rs =>
      obtain ⟨rs',found,perm⟩ := ranked?_perm perm numbers
      rw [found]
      refine congrArg some (sortRanked_congr (f := id) (fun a b => decide_eq_true_iff) perm ?_)
      refine apart numbers ?_
      intro k l c own own'
      rw [PyKey.identity,PyKey.identity,own,own']
    | none =>
      rw [absent numbers]
      simp only [perm.length_eq]
      split
      next short =>
        congr 1
        match ys,short with
        | [],_ => exact List.perm_nil.mp perm
        | [m],_ => exact List.perm_singleton.mp perm
      next => rfl

namespace PyValue

section relations

def Atom : PyValue → Prop
  | .none | .bool _ | .int _ | .float _ | .str _ => True
  | .list _ | .tuple _ | .dict _ | .other _ _ => False

mutual
/-- Induction on the parts of a value. -/
@[elab_as_elim]
theorem byParts {P : PyValue → Prop} (atom : ∀ v, Atom v → P v) (other : ∀ text truth, P (.other text truth))
    (list : ∀ xs, (∀ x ∈ xs, P x) → P (.list xs)) (tuple : ∀ xs, (∀ x ∈ xs, P x) → P (.tuple xs))
    (dict : ∀ ms, (∀ m ∈ ms, P m.2) → P (.dict ms)) : ∀ v, P v
  | .none => atom _ trivial
  | .bool _ => atom _ trivial
  | .int _ => atom _ trivial
  | .float _ => atom _ trivial
  | .str _ => atom _ trivial
  | .other text truth => other text truth
  | .list xs => list xs (items_byParts atom other list tuple dict xs)
  | .tuple xs => tuple xs (items_byParts atom other list tuple dict xs)
  | .dict ms => dict ms (members_byParts atom other list tuple dict ms)
theorem items_byParts {P : PyValue → Prop} (atom : ∀ v, Atom v → P v) (other : ∀ text truth, P (.other text truth))
    (list : ∀ xs, (∀ x ∈ xs, P x) → P (.list xs)) (tuple : ∀ xs, (∀ x ∈ xs, P x) → P (.tuple xs))
    (dict : ∀ ms, (∀ m ∈ ms, P m.2) → P (.dict ms)) : ∀ xs : List PyValue, ∀ x ∈ xs, P x
  | [] => nofun
  | x :: xs => List.forall_mem_cons.mpr ⟨byParts atom other list tuple dict x,
      items_byParts atom other list tuple dict xs⟩
theorem members_byParts {P : PyValue → Prop} (atom : ∀ v, Atom v → P v) (other : ∀ text truth, P (.other text truth))
    (list : ∀ xs, (∀ x ∈ xs, P x) → P (.list xs)) (tuple : ∀ xs, (∀ x ∈ xs, P x) → P (.tuple xs))
    (dict : ∀ ms, (∀ m ∈ ms, P m.2) → P (.dict ms)) : ∀ ms : List (PyKey × PyValue), ∀ m ∈ ms, P m.2
  | [] => nofun
  | (_,x) :: ms => List.forall_mem_cons.mpr ⟨byParts atom other list tuple dict x,
      members_byParts atom other list tuple dict ms⟩
end

/-- Members with related keys and related values. -/
inductive Member (K : PyKey → PyKey → Prop) (R : PyValue → PyValue → Prop) : PyKey × PyValue → PyKey × PyValue → Prop
  | mk {k l : PyKey} {x y : PyValue} (keys : K k l) (values : R x y) : Member K R (k,x) (l,y)

/-- Equality with the types of all parts, up to the order of members. -/
inductive Identical : PyValue → PyValue → Prop
  | atom {v : PyValue} (plain : Atom v) : Identical v v
  | list {xs ys : List PyValue} (items : List.Forall₂ Identical xs ys) : Identical (.list xs) (.list ys)
  | tuple {xs ys : List PyValue} (items : List.Forall₂ Identical xs ys) : Identical (.tuple xs) (.tuple ys)
  | dict {xs ys zs : List (PyKey × PyValue)} (members : List.Forall₂ (Member (· = ·) Identical) xs zs)
      (perm : zs.Perm ys) : Identical (.dict xs) (.dict ys)

def Sequence (v : PyValue) (items : List PyValue) : Prop := v = .list items ∨ v = .tuple items

/-- Equality up to the kinds of sequences and of the keys with one text, for members that are
written in one order. -/
inductive Alike : PyValue → PyValue → Prop
  | atom {v : PyValue} (plain : Atom v) : Alike v v
  | sequence {v w : PyValue} {xs ys : List PyValue} (first : Sequence v xs) (second : Sequence w ys)
      (items : List.Forall₂ Alike xs ys) : Alike v w
  | dict {xs ys xs' ys' : List (PyKey × PyValue)} (first : sortMembers xs = some xs')
      (second : sortMembers ys = some ys')
      (members : List.Forall₂ (Member (fun k l => k.text = l.text) Alike) xs' ys') : Alike (.dict xs) (.dict ys)

/-- The keys of a dictionary are distinct, at every depth. -/
inductive Proper : PyValue → Prop
  | atom {v : PyValue} (plain : Atom v) : Proper v
  | other {text : String} {truth : Bool} : Proper (.other text truth)
  | list {xs : List PyValue} (items : ∀ x ∈ xs, Proper x) : Proper (.list xs)
  | tuple {xs : List PyValue} (items : ∀ x ∈ xs, Proper x) : Proper (.tuple xs)
  | dict {ms : List (PyKey × PyValue)} (distinct : (ms.map (fun m => m.1.identity)).Nodup)
      (members : ∀ m ∈ ms, Proper m.2) : Proper (.dict ms)

end relations

section trees
variable {fallback : String → Option Tree}

theorem toTrees_eq_some {items : List PyValue} {trees : List Tree} :
    toTrees fallback items = some trees ↔ List.Forall₂ (fun v t => toTree fallback v = some t) items trees := by
  induction items generalizing trees with
  | nil =>
    rw [toTrees,Option.some.injEq,List.forall₂_nil_left_iff]
    exact eq_comm
  | cons item items ih =>
    rw [toTrees,List.forall₂_cons_left_iff]
    constructor
    · intro found
      obtain ⟨tree,head,more⟩ := Option.bind_eq_some_iff.mp found
      obtain ⟨rest,tail,whole⟩ := Option.bind_eq_some_iff.mp more
      exact ⟨tree,rest,head,ih.mp tail,(Option.some.inj whole).symm⟩
    · rintro ⟨tree,rest,head,tail,rfl⟩
      rw [head,ih.mpr tail]
      rfl

theorem toMembers_eq_some {members : List (PyKey × PyValue)} {trees : List (PyKey × Tree)} :
    toMembers fallback members = some trees ↔
      List.Forall₂ (fun m n => m.1 = n.1 ∧ toTree fallback m.2 = some n.2) members trees := by
  induction members generalizing trees with
  | nil =>
    rw [toMembers,Option.some.injEq,List.forall₂_nil_left_iff]
    exact eq_comm
  | cons m members ih =>
    obtain ⟨key,value⟩ := m
    rw [toMembers,List.forall₂_cons_left_iff]
    constructor
    · intro found
      obtain ⟨tree,head,more⟩ := Option.bind_eq_some_iff.mp found
      obtain ⟨rest,tail,whole⟩ := Option.bind_eq_some_iff.mp more
      exact ⟨(key,tree),rest,⟨rfl,head⟩,ih.mp tail,(Option.some.inj whole).symm⟩
    · rintro ⟨⟨key',tree⟩,rest,⟨same,head⟩,tail,rfl⟩
      obtain rfl : key = key' := same
      rw [show toTree fallback value = some tree from head,ih.mpr tail]
      rfl

/-- A member and the pair that is written for it. -/
def Spells (fallback : String → Option Tree) (m : PyKey × PyValue) (p : String × Tree) : Prop :=
  m.1.text = p.1 ∧ toTree fallback m.2 = some p.2

/-- The object that is written for a dictionary has its members in their sorted order. -/
theorem toTree_dict_eq_some {members : List (PyKey × PyValue)} {tree : Tree} :
    toTree fallback (.dict members) = some tree ↔ ∃ sorted pairs, sortMembers members = some sorted ∧
      List.Forall₂ (Spells fallback) sorted pairs ∧ tree = .obj pairs := by
  rw [toTree]
  constructor
  · intro found
    obtain ⟨trees,read,more⟩ := Option.bind_eq_some_iff.mp found
    obtain ⟨trees',order,whole⟩ := Option.bind_eq_some_iff.mp more
    have turned : List.Forall₂ (fun n m : PyKey × _ => n.1 = m.1 ∧ toTree fallback m.2 = some n.2) trees members :=
      (toMembers_eq_some.mp read).flip.imp (fun n m both => ⟨both.1.symm,both.2⟩)
    obtain ⟨sorted,order',paired⟩ := sortMembers_paired (R := fun t v => toTree fallback v = some t) turned order
    refine ⟨sorted,_,order',?_,(Option.some.inj whole).symm⟩
    rw [List.forall₂_map_right_iff]
    exact paired.flip.imp (fun m n both => ⟨congrArg PyKey.text both.1.symm,both.2⟩)
  · rintro ⟨sorted,pairs,order,spelled,rfl⟩
    have each : ∀ m ∈ members, ∃ n : PyKey × Tree, m.1 = n.1 ∧ toTree fallback m.2 = some n.2 := by
      intro m inside
      obtain ⟨p,_,own⟩ := Pairing.exists_right spelled ((sortMembers_perm order).mem_iff.mpr inside)
      exact ⟨(m.1,p.2),rfl,own.2⟩
    obtain ⟨trees,paired⟩ := Pairing.exists_paired each
    obtain ⟨trees',order',paired'⟩ := sortMembers_paired (R := fun v t => toTree fallback v = some t) paired order
    have same : trees'.map (fun m => (m.1.text,m.2)) = pairs := by
      rw [← List.forall₂_eq_eq_eq,List.forall₂_map_left_iff]
      apply Pairing.through paired'.flip spelled
      intro n _ m _ p both own
      exact Prod.ext ((congrArg PyKey.text both.1.symm).trans own.1) (Option.some.inj (both.2.symm.trans own.2))
    rw [toMembers_eq_some.mpr paired]
    simp [order',same]

theorem toTree_sequence {v : PyValue} {items : List PyValue} (sequence : Sequence v items) {tree : Tree} :
    toTree fallback v = some tree ↔
      ∃ trees, List.Forall₂ (fun v t => toTree fallback v = some t) items trees ∧ tree = .arr trees := by
  have arrays : (toTrees fallback items).map Tree.arr = some tree ↔
      ∃ trees, List.Forall₂ (fun v t => toTree fallback v = some t) items trees ∧ tree = .arr trees := by
    simp only [Option.map_eq_some_iff,toTrees_eq_some,eq_comm (a := tree)]
  rcases sequence with rfl | rfl
  · rw [toTree,arrays]
  · rw [toTree,arrays]

end trees

section alike
open List

/-- What an array is written for. -/
theorem sequence_of_arr {v : PyValue} {trees : List Tree} (found : toTree noDefault v = some (.arr trees)) :
    ∃ items, Sequence v items ∧ Forall₂ (fun v t => toTree noDefault v = some t) items trees := by
  cases v with
  | list items =>
    obtain ⟨ts,read,same⟩ := (toTree_sequence (.inl rfl)).mp found
    obtain rfl := Tree.arr.inj same
    exact ⟨items,.inl rfl,read⟩
  | tuple items =>
    obtain ⟨ts,read,same⟩ := (toTree_sequence (.inr rfl)).mp found
    obtain rfl := Tree.arr.inj same
    exact ⟨items,.inr rfl,read⟩
  | dict members =>
    obtain ⟨_,_,_,_,same⟩ := toTree_dict_eq_some.mp found
    cases same
  | none | bool | int | float | str | other => cases found

theorem dict_of_obj {v : PyValue} {pairs : List (String × Tree)} (found : toTree noDefault v = some (.obj pairs)) :
    ∃ members sorted, v = .dict members ∧ sortMembers members = some sorted ∧
      Forall₂ (Spells noDefault) sorted pairs := by
  cases v with
  | dict members =>
    obtain ⟨sorted,ps,order,spelled,same⟩ := toTree_dict_eq_some.mp found
    obtain rfl := Tree.obj.inj same
    exact ⟨members,sorted,rfl,order,spelled⟩
  | list items =>
    obtain ⟨_,_,same⟩ := (toTree_sequence (.inl rfl)).mp found
    cases same
  | tuple items =>
    obtain ⟨_,_,same⟩ := (toTree_sequence (.inr rfl)).mp found
    cases same
  | none | bool | int | float | str | other => cases found

/-- An atom is read back from its tree. -/
theorem atom_of_tree {v w : PyValue} (plain : Atom v) {tree : Tree} (first : toTree noDefault v = some tree)
    (second : toTree noDefault w = some tree) : v = w := by
  have atomic : ∀ trees, tree ≠ .arr trees := by
    rintro trees rfl
    cases v <;> first | cases first | exact plain.elim
  have simple : ∀ pairs, tree ≠ .obj pairs := by
    rintro pairs rfl
    cases v <;> first | cases first | exact plain.elim
  cases w with
  | list items =>
    obtain ⟨trees,_,same⟩ := (toTree_sequence (.inl rfl)).mp second
    exact absurd same (atomic trees)
  | tuple items =>
    obtain ⟨trees,_,same⟩ := (toTree_sequence (.inr rfl)).mp second
    exact absurd same (atomic trees)
  | dict members =>
    obtain ⟨_,pairs,_,_,same⟩ := toTree_dict_eq_some.mp second
    exact absurd same (simple pairs)
  | other => cases second
  | none | bool | int | float | str =>
    cases v with
    | none | bool | int | float | str =>
      cases first
      cases second <;> rfl
    | list | tuple | dict | other => exact plain.elim

/-- Values with one tree are alike. -/
theorem alike_of_tree (v : PyValue) : ∀ {w tree}, toTree noDefault v = some tree → toTree noDefault w = some tree →
    Alike v w := by
  induction v using byParts with
  | atom v plain =>
    intro w tree first second
    exact atom_of_tree plain first second ▸ .atom plain
  | other =>
    intro w tree first second
    cases first
  | list xs ih =>
    intro w tree first second
    obtain ⟨trees,read,rfl⟩ := (toTree_sequence (.inl rfl)).mp first
    obtain ⟨ys,sequence,read'⟩ := sequence_of_arr second
    refine .sequence (.inl rfl) sequence (Pairing.through read read'.flip ?_)
    exact fun x inside t _ y own own' => ih x inside own own'
  | tuple xs ih =>
    intro w tree first second
    obtain ⟨trees,read,rfl⟩ := (toTree_sequence (.inr rfl)).mp first
    obtain ⟨ys,sequence,read'⟩ := sequence_of_arr second
    refine .sequence (.inr rfl) sequence (Pairing.through read read'.flip ?_)
    exact fun x inside t _ y own own' => ih x inside own own'
  | dict xs ih =>
    intro w tree first second
    obtain ⟨sorted,pairs,order,spelled,rfl⟩ := toTree_dict_eq_some.mp first
    obtain ⟨ys,sorted',rfl,order',spelled'⟩ := dict_of_obj second
    refine .dict order order' (Pairing.through spelled spelled'.flip ?_)
    intro m inside p _ n own own'
    exact .mk (own.1.trans own'.1.symm) (ih m ((sortMembers_perm order).mem_iff.mp inside) own.2 own'.2)

theorem tree_of_alike_sequence {v w : PyValue} {xs : List PyValue} {tree : Tree} (first : Sequence v xs)
    (ih : ∀ x ∈ xs, ∀ {w tree}, Alike x w → toTree noDefault x = some tree → toTree noDefault w = some tree)
    (alike : Alike v w) (found : toTree noDefault v = some tree) : toTree noDefault w = some tree := by
  cases alike with
  | atom plain => rcases first with rfl | rfl <;> exact plain.elim
  | @sequence _ _ xs' ys first' second items =>
    obtain rfl : xs = xs' := by rcases first with rfl | rfl <;> simpa [Sequence] using first'
    obtain ⟨trees,read,rfl⟩ := (toTree_sequence first).mp found
    refine (toTree_sequence second).mpr ⟨trees,Pairing.through items.flip read ?_,rfl⟩
    exact fun y _ x inside t own own' => ih x inside own own'
  | dict => rcases first with same | same <;> cases same

/-- Values that are alike have one tree. -/
theorem tree_of_alike (v : PyValue) : ∀ {w tree}, Alike v w → toTree noDefault v = some tree →
    toTree noDefault w = some tree := by
  induction v using byParts with
  | atom v plain =>
    intro w tree alike found
    cases alike with
    | atom => exact found
    | sequence first => rcases first with rfl | rfl <;> exact plain.elim
    | dict => exact plain.elim
  | other =>
    intro w tree alike found
    cases found
  | list xs ih =>
    exact fun alike found => tree_of_alike_sequence (.inl rfl) ih alike found
  | tuple xs ih =>
    exact fun alike found => tree_of_alike_sequence (.inr rfl) ih alike found
  | dict xs ih =>
    intro w tree alike found
    cases alike with
    | atom plain => exact plain.elim
    | sequence first => exact absurd first (by simp [Sequence])
    | @dict _ ys sorted sorted' order order' members =>
      obtain ⟨sorted'',pairs,again,spelled,rfl⟩ := toTree_dict_eq_some.mp found
      obtain rfl := Option.some.inj (order.symm.trans again)
      refine toTree_dict_eq_some.mpr ⟨sorted',pairs,order',Pairing.through members.flip spelled ?_,rfl⟩
      rintro n _ m inside p ⟨keys,values⟩ ⟨key,read⟩
      exact ⟨keys.symm.trans key,ih _ ((sortMembers_perm order).mem_iff.mp inside) values read⟩

/-- Accepted values have one tree exactly when they are alike. -/
theorem toTree_eq_iff_alike {v w : PyValue} {t u : Tree} (first : toTree noDefault v = some t)
    (second : toTree noDefault w = some u) : t = u ↔ Alike v w := by
  constructor
  · rintro rfl
    exact alike_of_tree v first second
  · intro alike
    have read := tree_of_alike v alike first
    exact Option.some.inj (read.symm.trans second)

end alike

section identical
open List

theorem identities_eq {xs zs : List (PyKey × PyValue)} (members : Forall₂ (Member (· = ·) Identical) xs zs) :
    xs.map (fun m => m.1.identity) = zs.map (fun m => m.1.identity) := by
  induction members with
  | nil => rfl
  | cons head _ ih =>
    obtain ⟨keys,_⟩ := head
    rw [map_cons,map_cons,ih,keys]

/-- Identical values have one tree. -/
theorem tree_of_identical (v : PyValue) : Proper v → ∀ {w tree}, Identical v w → toTree noDefault v = some tree →
    toTree noDefault w = some tree := by
  induction v using byParts with
  | atom v plain =>
    intro proper w tree identical found
    cases identical with
    | atom => exact found
    | list | tuple | dict => exact plain.elim
  | other =>
    intro proper w tree identical found
    cases found
  | list xs ih =>
    intro proper w tree identical found
    cases proper with
    | atom plain => exact plain.elim
    | list proper =>
      cases identical with
      | atom plain => exact plain.elim
      | list items =>
        obtain ⟨trees,read,rfl⟩ := (toTree_sequence (.inl rfl)).mp found
        refine (toTree_sequence (.inl rfl)).mpr ⟨trees,Pairing.through items.flip read ?_,rfl⟩
        exact fun y _ x inside t own own' => ih x inside (proper x inside) own own'
  | tuple xs ih =>
    intro proper w tree identical found
    cases proper with
    | atom plain => exact plain.elim
    | tuple proper =>
      cases identical with
      | atom plain => exact plain.elim
      | tuple items =>
        obtain ⟨trees,read,rfl⟩ := (toTree_sequence (.inr rfl)).mp found
        refine (toTree_sequence (.inr rfl)).mpr ⟨trees,Pairing.through items.flip read ?_,rfl⟩
        exact fun y _ x inside t own own' => ih x inside (proper x inside) own own'
  | dict xs ih =>
    intro proper w tree identical found
    cases proper with
    | atom plain => exact plain.elim
    | dict distinct proper =>
      cases identical with
      | atom plain => exact plain.elim
      | @dict _ ys zs members perm =>
        obtain ⟨sorted,pairs,order,spelled,rfl⟩ := toTree_dict_eq_some.mp found
        have paired : Forall₂ (fun m n : PyKey × PyValue => m.1 = n.1 ∧ Identical m.2 n.2) xs zs := by
          refine members.imp ?_
          rintro m n ⟨keys,values⟩
          exact ⟨keys,values⟩
        obtain ⟨sorted',order',related⟩ := sortMembers_paired paired order
        rw [identities_eq members] at distinct
        rw [sortMembers_congr perm distinct] at order'
        refine toTree_dict_eq_some.mpr ⟨sorted',pairs,order',Pairing.through related.flip spelled ?_,rfl⟩
        intro n _ m inside p own read
        have member : m ∈ xs := (sortMembers_perm order).mem_iff.mp inside
        exact ⟨(congrArg PyKey.text own.1).symm.trans read.1,ih m member (proper m member) own.2 read.2⟩

end identical
end PyValue
end RevPilot.Library
