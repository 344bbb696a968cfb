import Mathlib.Algebra.BigOperators.Field
import Mathlib.Algebra.BigOperators.Group.Finset.Piecewise
import Mathlib.Algebra.Order.BigOperators.Group.Multiset
import Mathlib.Algebra.Field.Rat
import Mathlib.Data.Multiset.Bind

/-! Queries on tables: joins, conditions with three truth values, groups and aggregates, and the answers
in any order that the query admits, up to a limit. A query that asks every table for one owner reads
the rows of that owner only, and groups share the rows out. -/
namespace RevPilot.Library.Queries

/-- A value; numbers are exact. -/
inductive Value : Type
  | null
  | number (q : ℚ)
  | text (s : String)
deriving DecidableEq

abbrev Tuple := String → Value

abbrev Tables := String → Multiset Tuple

/-- The rows in scope by their labels. -/
abbrev Scope := String → Tuple

/-- What an engine decides itself: the order of values, its functions, its rounding, and whether a
negative limit stands for none. -/
structure Engine where
  less : Value → Value → Bool
  function : String → Value → Value
  arithmetic : String → Value → Value → Value
  round : Nat → ℚ → ℚ
  unlimited : Bool

inductive Expr : Type
  | column (label name : String)
  | param (name : String)
  | literal (v : Value)
  | coalesce (e other : Expr)
  | call (function : String) (e : Expr)
  | arithmetic (operator : String) (e e' : Expr)

inductive Comparison : Type
  | eq
  | lt
  | le
  | gt
  | ge

inductive Cond : Type
  | compare (c : Comparison) (e e' : Expr)
  | isNull (e : Expr)
  | either (c c' : Cond)
  | among (e : Expr) (options : List Expr)

/-- The parameters that an expression names. -/
def Expr.params : Expr → List String
  | param name => [name]
  | coalesce e other => params e ++ params other
  | call _ e => params e
  | arithmetic _ e e' => params e ++ params e'
  | _ => []

def Cond.params : Cond → List String
  | compare _ e e' => e.params ++ e'.params
  | isNull e => e.params
  | either c c' => params c ++ params c'
  | among e options => e.params ++ options.flatMap Expr.params

section conditions
variable (engine : Engine) (params : String → Value) (scope : Scope)

def Expr.eval : Expr → Value
  | column label name => scope label name
  | param name => params name
  | literal v => v
  | coalesce e other => if eval e = .null then eval other else eval e
  | call function e => engine.function function (eval e)
  | arithmetic operator e e' => engine.arithmetic operator (eval e) (eval e')

def Comparison.test (v w : Value) : Comparison → Bool
  | eq => v = w
  | lt => engine.less v w
  | le => engine.less v w || v = w
  | gt => engine.less w v
  | ge => engine.less w v || v = w

/-- A comparison with null is unknown. -/
def compared (c : Comparison) (v w : Value) : Option Bool :=
  if v = .null ∨ w = .null then none else some (c.test engine v w)

/-- True if one is, false if both are. -/
def orElse : Option Bool → Option Bool → Option Bool
  | some true, _ => some true
  | _, some true => some true
  | some false, some false => some false
  | _, _ => none

def Cond.eval : Cond → Option Bool
  | compare c e e' => compared engine c (e.eval engine params scope) (e'.eval engine params scope)
  | isNull e => some (e.eval engine params scope = .null)
  | either c c' => orElse (eval c) (eval c')
  | among e options =>
    (options.map fun option => compared engine .eq (e.eval engine params scope) (option.eval engine params scope)).foldl
      orElse (some false)

/-- A row is kept where all conditions are true. -/
def holds (conds : List Cond) : Bool := conds.all fun c => c.eval engine params scope = some true

end conditions

inductive Aggregate : Type
  | count (e : Expr)
  | sum (e : Expr)
  /-- One for each row of which the condition is true, and else zero. -/
  | sumWhen (c : Cond)
  | average (e : Expr)
  | literal (q : ℚ)
  | nullIfZero (a : Aggregate)
  | quotient (a a' : Aggregate)
  | round (digits : Nat) (a : Aggregate)

def Value.number? : Value → Option ℚ
  | number q => some q
  | _ => none

/-- What a value counts in a total. -/
def Value.amount (v : Value) : ℚ := v.number?.getD 0

section aggregates
variable (engine : Engine) (params : String → Value)

/-- The numbers of an expression in the rows of a group. -/
def numbers (e : Expr) (rows : Multiset Scope) : Multiset ℚ := rows.filterMap fun scope => (e.eval engine params scope).number?

def Value.andThen (f : ℚ → Value) : Value → Value
  | number q => f q
  | _ => null

def Aggregate.eval (rows : Multiset Scope) : Aggregate → Value
  | count e => .number (rows.filter fun scope => e.eval engine params scope ≠ .null).card
  | sum e => if (numbers engine params e rows).card = 0 then .null else .number (numbers engine params e rows).sum
  | sumWhen c =>
    if rows.card = 0 then .null else .number (rows.filter fun scope => c.eval engine params scope = some true).card
  | average e =>
    if (numbers engine params e rows).card = 0 then .null
    else .number ((numbers engine params e rows).sum / (numbers engine params e rows).card)
  | literal q => .number q
  | nullIfZero a => if eval rows a = .number 0 then .null else eval rows a
  | quotient a a' =>
    (eval rows a).andThen fun q => (eval rows a').andThen fun r => if r = 0 then .null else .number (q / r)
  | round digits a => (eval rows a).andThen fun q => .number (engine.round digits q)

end aggregates

structure Join where
  outer : Bool := false
  table : String
  label : String
  on : List Cond

inductive Columns : Type
  | each (columns : List (String × Expr))
  | grouped (keys : List (String × Expr)) (aggregates : List (String × Aggregate))

structure Select where
  table : String
  label : String
  joins : List Join := []
  wheres : List Cond
  columns : Columns
  orderBy : String
  descending : Bool := false

/-- The parameters of the conditions of a query. -/
def Select.params (q : Select) : List String := q.wheres.flatMap Cond.params ++ q.joins.flatMap fun j => j.on.flatMap Cond.params

abbrev Record := List (String × Value)

def Record.value (record : Record) (name : String) : Value := (record.lookup name).getD .null

section answers
variable (engine : Engine) (params : String → Value) (tables : Tables)

def Join.matches (j : Join) (scope : Scope) : Multiset Tuple :=
  (tables j.table).filter fun row => holds engine params (Function.update scope j.label row) j.on

/-- The rows that a join makes of one; an outer join keeps a row without a match. -/
def Join.extend (j : Join) (scope : Scope) : Multiset Scope :=
  if j.outer ∧ (j.matches engine params tables scope).card = 0 then {Function.update scope j.label fun _ => .null}
  else (j.matches engine params tables scope).map fun row => Function.update scope j.label row

def joined (joins : List Join) (scopes : Multiset Scope) : Multiset Scope :=
  joins.foldl (fun scopes j => scopes.bind (j.extend engine params tables)) scopes

def Select.start (q : Select) (row : Tuple) : Scope := Function.update (fun _ _ => .null) q.label row

def Select.rows (q : Select) : Multiset Scope :=
  (joined engine params tables q.joins ((tables q.table).map q.start)).filter fun scope => holds engine params scope q.wheres

def keyOf (keys : List (String × Expr)) (scope : Scope) : Record :=
  keys.map fun (name,e) => (name,e.eval engine params scope)

def Select.outputs (q : Select) : Multiset Record :=
  let rows := q.rows engine params tables
  match q.columns with
  | .each columns => rows.map (keyOf engine params columns)
  | .grouped keys aggregates =>
    (rows.map (keyOf engine params keys)).dedup.map fun key =>
      key ++ aggregates.map fun (name,a) =>
        (name,a.eval engine params (rows.filter fun scope => keyOf engine params keys scope = key))

/-- Of two records the first does not belong behind the second. -/
def Select.inOrder (q : Select) (r r' : Record) : Prop :=
  if q.descending then engine.less (r.value q.orderBy) (r'.value q.orderBy) = false
  else engine.less (r'.value q.orderBy) (r.value q.orderBy) = false

/-- The first records up to the limit. -/
def limited (limit : Int) (records answer : List Record) : Prop :=
  if limit < 0 then engine.unlimited = true ∧ answer = records else answer = records.take limit.toNat

/-- What a query may answer: the order of equal records is not determined. -/
def Select.Answers (q : Select) (limit : Int) (answer : List Record) : Prop :=
  ∃ records : List Record, (records : Multiset Record) = q.outputs engine params tables ∧
    records.Pairwise (q.inOrder engine) ∧ limited engine limit records answer

end answers

section owners
variable {engine : Engine} {params : String → Value} {tables tables' : Tables} {name asked : String} {q : Select}

/-- The rows of one owner. -/
def owned (name : String) (owner : Value) (tables : Tables) : Tables := fun table => (tables table).filter fun row => row name = owner

/-- The query asks its table for an owner, and every joined table for the same one. -/
structure Select.Guarded (name asked : String) (q : Select) : Prop where
  asks : Cond.compare .eq (.column q.label name) (.param asked) ∈ q.wheres
  follows : ∀ j ∈ q.joins, Cond.compare .eq (.column q.label name) (.column j.label name) ∈ j.on ∧ j.label ≠ q.label

theorem holds_eq {conds : List Cond} {scope : Scope} {e e' : Expr} (held : holds engine params scope conds = true)
    (inside : Cond.compare .eq e e' ∈ conds) : e.eval engine params scope = e'.eval engine params scope := by
  have known := of_decide_eq_true (List.all_eq_true.mp held _ inside)
  rw [Cond.eval,compared] at known
  split at known
  · cases known
  · exact of_decide_eq_true (Option.some.inj known)

variable {j : Join} {scope : Scope} {label : String}

theorem extend_label {scope' : Scope} (other : j.label ≠ label) (inside : scope' ∈ j.extend engine params tables scope) :
    scope' label = scope label := by
  unfold Join.extend at inside
  split at inside
  · rw [Multiset.mem_singleton.mp inside,Function.update_of_ne other.symm]
  · obtain ⟨row,_,rfl⟩ := Multiset.mem_map.mp inside
    rw [Function.update_of_ne other.symm]

theorem extend_owned {owner : Value} (own : scope label name = owner) (other : j.label ≠ label)
    (follows : Cond.compare .eq (.column label name) (.column j.label name) ∈ j.on) :
    j.extend engine params (owned name owner tables) scope = j.extend engine params tables scope := by
  have same : j.matches engine params (owned name owner tables) scope = j.matches engine params tables scope := by
    unfold Join.matches owned
    rw [Multiset.filter_filter]
    refine Multiset.filter_congr ?_
    intro row _
    constructor
    · exact And.left
    · intro held
      refine ⟨held,?_⟩
      have equal := holds_eq held follows
      simp only [Expr.eval,Function.update_self,Function.update_of_ne other.symm] at equal
      rw [← equal,own]
  unfold Join.extend
  rw [same]

theorem joined_filter {joins : List Join} (p : Tuple → Prop) [DecidablePred p] (others : ∀ j ∈ joins, j.label ≠ label)
    (scopes : Multiset Scope) : (joined engine params tables joins scopes).filter (fun scope => p (scope label)) =
      joined engine params tables joins (scopes.filter fun scope => p (scope label)) := by
  induction joins generalizing scopes with
  | nil => rfl
  | cons j joins ih =>
    have rest := ih (fun k inside => others k (List.mem_cons_of_mem j inside)) (scopes.bind (j.extend engine params tables))
    refine rest.trans (congrArg (joined engine params tables joins) ?_)
    change _ = (scopes.filter fun scope => p (scope label)).bind (j.extend engine params tables)
    rw [Multiset.filter_bind,Multiset.bind_filter]
    refine Multiset.bind_congr ?_
    intro scope _
    have kept : ∀ scope' ∈ j.extend engine params tables scope, scope' label = scope label := by
      intro scope' inside
      exact extend_label (others j List.mem_cons_self) inside
    split
    next passes =>
      refine Multiset.filter_eq_self.mpr ?_
      intro scope' inside
      rwa [kept scope' inside]
    next fails =>
      refine Multiset.filter_eq_nil.mpr ?_
      intro scope' inside
      rwa [kept scope' inside]

theorem joined_owned {owner : Value} {joins : List Join} {scopes : Multiset Scope}
    (follows : ∀ j ∈ joins, Cond.compare .eq (.column label name) (.column j.label name) ∈ j.on ∧ j.label ≠ label)
    (own : ∀ scope ∈ scopes, scope label name = owner) :
    joined engine params (owned name owner tables) joins scopes = joined engine params tables joins scopes := by
  induction joins generalizing scopes with
  | nil => rfl
  | cons j joins ih =>
    obtain ⟨link,other⟩ := follows j List.mem_cons_self
    have first : scopes.bind (j.extend engine params (owned name owner tables)) = scopes.bind (j.extend engine params tables) := by
      refine Multiset.bind_congr ?_
      intro scope inside
      exact extend_owned (own scope inside) other link
    change joined engine params _ joins (scopes.bind _) = joined engine params _ joins (scopes.bind _)
    rw [first]
    refine ih (fun k inside => follows k (List.mem_cons_of_mem j inside)) ?_
    intro scope' inside
    obtain ⟨scope,before,made⟩ := Multiset.mem_bind.mp inside
    rw [extend_label other made]
    exact own scope before

theorem rows_owned (guarded : q.Guarded name asked) :
    q.rows engine params (owned name (params asked) tables) = q.rows engine params tables := by
  have asks (rows : Multiset Scope) : (rows.filter fun scope => scope q.label name = params asked).filter
      (fun scope => holds engine params scope q.wheres) = rows.filter fun scope => holds engine params scope q.wheres := by
    rw [Multiset.filter_filter]
    refine Multiset.filter_congr ?_
    intro scope _
    constructor
    · exact And.left
    · intro held
      exact ⟨held,holds_eq held guarded.asks⟩
  have starts : ((tables q.table).map q.start).filter (fun scope => scope q.label name = params asked) =
      (owned name (params asked) tables q.table).map q.start := by
    rw [Multiset.filter_map]
    refine congrArg (Multiset.map q.start) (Multiset.filter_congr ?_)
    intro row _
    rw [Function.comp,Select.start,Function.update_self]
  have others := fun j inside => (guarded.follows j inside).2
  unfold Select.rows
  rw [← asks (joined engine params tables _ _),joined_filter (fun row => row name = params asked) others,starts]
  rw [joined_owned guarded.follows]
  intro scope inside
  obtain ⟨row,own,rfl⟩ := Multiset.mem_map.mp inside
  rw [Select.start,Function.update_self]
  exact (Multiset.mem_filter.mp own).2

theorem answers_congr (guarded : q.Guarded name asked)
    (same : owned name (params asked) tables = owned name (params asked) tables') (limit : Int) (answer : List Record) :
    q.Answers engine params tables limit answer ↔ q.Answers engine params tables' limit answer := by
  have outputs : q.outputs engine params tables = q.outputs engine params tables' := by
    unfold Select.outputs
    rw [← rows_owned guarded,same,rows_owned guarded]
  unfold Select.Answers
  rw [outputs]

end owners

section bases
variable {engine : Engine} {params : String → Value} {tables : Tables} {q : Select} {label : String}

/-- The expression reads the row of one label only. -/
def Expr.within (label : String) : Expr → Bool
  | column l _ => l = label
  | param _ => true
  | literal _ => true
  | coalesce e other => within label e && within label other
  | call _ e => within label e
  | arithmetic _ e e' => within label e && within label e'

def Cond.within (label : String) : Cond → Bool
  | compare _ e e' => e.within label && e'.within label
  | isNull e => e.within label
  | either c c' => within label c && within label c'
  | among e options => e.within label && options.all (Expr.within label)

theorem Expr.eval_within {e : Expr} {scope scope' : Scope} (within : e.within label = true) (same : scope label = scope' label) :
    e.eval engine params scope = e.eval engine params scope' := by
  induction e with
  | column l name =>
    obtain rfl : l = label := of_decide_eq_true within
    rw [Expr.eval,Expr.eval,same]
  | param name => rfl
  | literal v => rfl
  | coalesce e other first second =>
    obtain ⟨left,right⟩ := Bool.and_eq_true_iff.mp within
    rw [Expr.eval,Expr.eval,first left,second right]
  | call function e ih => rw [Expr.eval,Expr.eval,ih within]
  | arithmetic operator e e' first second =>
    obtain ⟨left,right⟩ := Bool.and_eq_true_iff.mp within
    rw [Expr.eval,Expr.eval,first left,second right]

theorem Cond.eval_within {c : Cond} {scope scope' : Scope} (within : c.within label = true) (same : scope label = scope' label) :
    c.eval engine params scope = c.eval engine params scope' := by
  induction c with
  | compare c e e' =>
    obtain ⟨left,right⟩ := Bool.and_eq_true_iff.mp within
    rw [Cond.eval,Cond.eval,e.eval_within left same,e'.eval_within right same]
  | isNull e => rw [Cond.eval,Cond.eval,e.eval_within within same]
  | either c c' first second =>
    obtain ⟨left,right⟩ := Bool.and_eq_true_iff.mp within
    rw [Cond.eval,Cond.eval,first left,second right]
  | among e options =>
    obtain ⟨left,right⟩ := Bool.and_eq_true_iff.mp within
    rw [Cond.eval,Cond.eval,e.eval_within left same]
    congr 1
    refine List.map_congr_left ?_
    intro option inside
    rw [option.eval_within (List.all_eq_true.mp right option inside) same]

theorem holds_within {conds : List Cond} {scope scope' : Scope} (within : ∀ c ∈ conds, c.within label = true)
    (same : scope label = scope' label) : holds engine params scope conds = holds engine params scope' conds := by
  unfold holds
  rw [Bool.eq_iff_iff,List.all_eq_true,List.all_eq_true]
  refine forall₂_congr ?_
  intro c inside
  rw [c.eval_within (within c inside) same]

/-- The rows of the first table that a query keeps. -/
def Select.base (engine : Engine) (params : String → Value) (tables : Tables) (q : Select) : Multiset Tuple :=
  (tables q.table).filter fun row => holds engine params (q.start row) q.wheres

/-- How many rows the joins make of one. -/
def copies (engine : Engine) (params : String → Value) (tables : Tables) (joins : List Join) (scope : Scope) : Nat :=
  (joined engine params tables joins {scope}).card

theorem joined_bind (joins : List Join) (scopes : Multiset Scope) : joined engine params tables joins scopes =
    scopes.bind fun scope => joined engine params tables joins {scope} := by
  induction joins generalizing scopes with
  | nil =>
    change scopes = scopes.bind fun scope => {id scope}
    rw [Multiset.bind_singleton,Multiset.map_id]
  | cons j joins ih =>
    change joined engine params tables joins (scopes.bind _) =
      scopes.bind fun scope => joined engine params tables joins (({scope} : Multiset Scope).bind _)
    rw [ih,Multiset.bind_assoc]
    refine Multiset.bind_congr ?_
    intro scope _
    rw [Multiset.singleton_bind,ih (j.extend engine params tables scope)]

theorem joined_label {joins : List Join} {scopes : Multiset Scope} {scope' : Scope} (others : ∀ j ∈ joins, j.label ≠ label)
    (inside : scope' ∈ joined engine params tables joins scopes) : ∃ scope ∈ scopes, scope' label = scope label := by
  induction joins generalizing scopes with
  | nil => exact ⟨scope',inside,rfl⟩
  | cons j joins ih =>
    obtain ⟨scope₁,made,same⟩ := ih (fun k member => others k (List.mem_cons_of_mem j member)) inside
    obtain ⟨scope,before,extended⟩ := Multiset.mem_bind.mp made
    exact ⟨scope,before,same.trans (extend_label (others j List.mem_cons_self) extended)⟩

theorem sum_map_ite {α M : Type} [AddCommMonoid M] (s : Multiset α) (p : α → Prop) [DecidablePred p] (f : α → M) :
    (s.map fun x => if p x then f x else 0).sum = ((s.filter p).map f).sum := by
  induction s using Multiset.induction with
  | empty => rfl
  | cons x s ih =>
    rw [Multiset.map_cons,Multiset.sum_cons,ih]
    split
    next held => rw [Multiset.filter_cons_of_pos s held,Multiset.map_cons,Multiset.sum_cons]
    next fails => rw [Multiset.filter_cons_of_neg s fails,zero_add]

theorem rows_sum {M : Type} [AddCommMonoid M] (measure : Tuple → M) (within : ∀ c ∈ q.wheres, c.within q.label = true)
    (others : ∀ j ∈ q.joins, j.label ≠ q.label) :
    ((q.rows engine params tables).map fun scope => measure (scope q.label)).sum =
      ((q.base engine params tables).map fun row => copies engine params tables q.joins (q.start row) • measure row).sum := by
  have start (row : Tuple) : q.start row q.label = row := Function.update_self ..
  have one (row : Tuple) : (((joined engine params tables q.joins {q.start row}).filter
      fun scope => holds engine params scope q.wheres).map fun scope => measure (scope q.label)).sum =
        if holds engine params (q.start row) q.wheres = true then
          copies engine params tables q.joins (q.start row) • measure row else 0 := by
    have kept : ∀ scope ∈ joined engine params tables q.joins {q.start row}, scope q.label = q.start row q.label := by
      intro scope inside
      obtain ⟨before,same,equal⟩ := joined_label others inside
      rw [equal,Multiset.mem_singleton.mp same]
    split
    next held =>
      have all : (joined engine params tables q.joins {q.start row}).filter (fun scope => holds engine params scope q.wheres) =
          joined engine params tables q.joins {q.start row} := by
        refine Multiset.filter_eq_self.mpr ?_
        intro scope inside
        rwa [holds_within within (kept scope inside)]
      rw [all,Multiset.map_congr rfl (fun scope inside => congrArg measure ((kept scope inside).trans (start row)))]
      rw [Multiset.map_const',Multiset.sum_replicate]
      rfl
    next fails =>
      have none : (joined engine params tables q.joins {q.start row}).filter (fun scope => holds engine params scope q.wheres) = 0 := by
        refine Multiset.filter_eq_nil.mpr ?_
        intro scope inside
        rwa [holds_within within (kept scope inside)]
      rw [none]
      rfl
  unfold Select.rows Select.base
  rw [joined_bind,Multiset.bind_map,Multiset.filter_bind,Multiset.map_bind,Multiset.sum_bind]
  rw [Multiset.map_congr rfl (fun row _ => one row),sum_map_ite]

end bases

section totals
variable {engine : Engine} {params : String → Value} {tables : Tables} {q : Select}

theorem sum_parts {α κ M : Type} [DecidableEq κ] [AddCommMonoid M] (s : Multiset α) (key : α → κ) (measure : α → M) :
    ((s.map key).dedup.map fun k => ((s.filter fun x => key x = k).map measure).sum).sum = (s.map measure).sum := by
  have summed (keys : Finset κ) (covers : ∀ x ∈ s, key x ∈ keys) :
      ∑ k ∈ keys, ((s.filter fun x => key x = k).map measure).sum = (s.map measure).sum := by
    induction s using Multiset.induction with
    | empty => simp
    | cons x s ih =>
      have part (k : κ) : (((x ::ₘ s).filter fun y => key y = k).map measure).sum =
          (if key x = k then measure x else 0) + ((s.filter fun y => key y = k).map measure).sum := by
        by_cases same : key x = k
        · rw [Multiset.filter_cons_of_pos s same,if_pos same,Multiset.map_cons,Multiset.sum_cons]
        · rw [Multiset.filter_cons_of_neg s same,if_neg same,zero_add]
      simp only [part]
      rw [Finset.sum_add_distrib,ih (fun y inside => covers y (Multiset.mem_cons_of_mem inside)),Finset.sum_ite_eq,
        if_pos (covers x (Multiset.mem_cons_self x s)),Multiset.map_cons,Multiset.sum_cons]
  refine summed (s.map key).toFinset ?_
  intro x inside
  exact Multiset.mem_toFinset.mpr (Multiset.mem_map_of_mem key inside)

/-- The aggregate adds up the weights of the rows. -/
def Adds (engine : Engine) (params : String → Value) (a : Aggregate) (weight : Scope → ℚ) : Prop :=
  ∀ rows : Multiset Scope, (a.eval engine params rows).amount = (rows.map weight).sum

theorem card_filter_sum {α : Type} (s : Multiset α) (p : α → Prop) [DecidablePred p] :
    ((s.filter p).card : ℚ) = (s.map fun x => if p x then (1 : ℚ) else 0).sum := by
  rw [sum_map_ite,Multiset.map_const',Multiset.sum_replicate,nsmul_one]

theorem count_adds (e : Expr) : Adds engine params (.count e) fun scope => if e.eval engine params scope ≠ .null then 1 else 0 := by
  intro rows
  exact card_filter_sum rows _

theorem sumWhen_adds (c : Cond) :
    Adds engine params (.sumWhen c) fun scope => if c.eval engine params scope = some true then 1 else 0 := by
  intro rows
  rw [Aggregate.eval]
  split
  next empty =>
    rw [Multiset.card_eq_zero.mp empty]
    rfl
  next => exact card_filter_sum rows _

theorem numbers_sum (e : Expr) (rows : Multiset Scope) :
    (numbers engine params e rows).sum = (rows.map fun scope => (e.eval engine params scope).amount).sum := by
  unfold numbers
  induction rows using Multiset.induction with
  | empty => rfl
  | cons scope rows ih =>
    rw [Multiset.map_cons,Multiset.sum_cons,← ih]
    unfold Value.amount
    cases known : (e.eval engine params scope).number? with
    | none => rw [Multiset.filterMap_cons_none scope rows known,Option.getD_none,zero_add]
    | some n => rw [Multiset.filterMap_cons_some _ scope rows known,Multiset.sum_cons,Option.getD_some]

theorem sum_adds (e : Expr) : Adds engine params (.sum e) fun scope => (e.eval engine params scope).amount := by
  intro rows
  rw [← numbers_sum,Aggregate.eval]
  split
  next empty =>
    rw [Multiset.card_eq_zero.mp empty]
    rfl
  next => rfl

theorem lookup_values {α β : Type} (f : α → β) (entries : List (String × α)) (name : String) :
    (entries.map fun (n,a) => (n,f a)).lookup name = (entries.lookup name).map f := by
  induction entries with
  | nil => rfl
  | cons entry entries ih =>
    rw [List.map_cons,List.lookup_cons,List.lookup_cons,ih]
    split
    · rfl
    · rfl

theorem quotient_adds {a : Aggregate} {weight : Scope → ℚ} (adds : Adds engine params a weight) {n : ℚ} (nonzero : n ≠ 0) :
    Adds engine params (.quotient a (.literal n)) fun scope => weight scope / n := by
  intro rows
  rw [Multiset.sum_map_div,← adds rows,Aggregate.eval,Aggregate.eval]
  cases a.eval engine params rows with
  | number m =>
    change (if n = 0 then Value.null else .number (m / n)).amount = _
    rw [if_neg nonzero]
    rfl
  | null => exact (zero_div n).symm
  | text s => exact (zero_div n).symm

theorem outputs_total {keys : List (String × Expr)} {aggregates : List (String × Aggregate)} {name : String} {a : Aggregate}
    {weight : Scope → ℚ} (shape : q.columns = .grouped keys aggregates) (other : keys.lookup name = none)
    (column : aggregates.lookup name = some a) (adds : Adds engine params a weight) :
    ((q.outputs engine params tables).map fun record => (record.value name).amount).sum =
      ((q.rows engine params tables).map weight).sum := by
  have value (scope : Scope) (rows : Multiset Scope) :
      (Record.value (keyOf engine params keys scope ++ aggregates.map fun (n,b) => (n,b.eval engine params rows)) name).amount =
        (rows.map weight).sum := by
    have none : (keyOf engine params keys scope).lookup name = none := by
      unfold keyOf
      rw [lookup_values (Expr.eval engine params scope),other]
      rfl
    rw [Record.value,List.lookup_append,none,lookup_values (Aggregate.eval engine params rows),column]
    exact adds rows
  unfold Select.outputs
  rw [shape]
  dsimp only
  rw [Multiset.map_map,← sum_parts _ (keyOf engine params keys) weight]
  refine congrArg Multiset.sum (Multiset.map_congr rfl ?_)
  intro key inside
  obtain ⟨scope,_,rfl⟩ := Multiset.mem_map.mp (Multiset.mem_dedup.mp inside)
  exact value scope _

theorem Select.Answers.complete {limit : Int} {answer : List Record} (answers : q.Answers engine params tables limit answer)
    (short : limit < 0 ∨ answer.length < limit) : (answer : Multiset Record) = q.outputs engine params tables := by
  obtain ⟨records,all,_,cut⟩ := answers
  rw [← all]
  unfold limited at cut
  split at cut
  next => rw [cut.2]
  next natural =>
    have whole : records.length ≤ limit.toNat := by
      rcases short with negative | fewer
      · exact absurd negative natural
      · rw [cut,List.length_take] at fewer
        omega
    rw [cut,List.take_of_length_le whole]

end totals
end RevPilot.Library.Queries
