import Mathlib.Data.List.Chain
import Mathlib.Data.List.Nodup
import Mathlib.Data.Fintype.Card
import Mathlib.Data.Set.Finite.Basic
import Mathlib.Logic.Relation
import Mathlib.Order.WellFounded
import Mathlib.Order.RelClasses

/-! Kahn's topological sort over a multigraph, with the depth of each vertex beside
it and a limit on the depths. The edges are a list of pairs: an edge that occurs
twice counts twice. -/
namespace RevPilot.Library.Kahn
open Relation

variable {V ε : Type} [DecidableEq V]

structure State (V : Type) where
  depth : V → Option Nat
  queue : List V
  inDegree : V → Int
  visited : Nat := 0

def assign {A : Type} (f : V → A) (v : V) (a : A) : V → A := fun w => if w = v then a else f w

/-- The targets of the edges of a vertex, in the order of the edges. -/
def successors (edges : List (V × V)) (u : V) : List V := (edges.filter (fun e => e.1 = u)).map Prod.snd

section loop
variable (limit : Nat) (tooDeep : V → Nat → ε) (missing : ε) (adj : V → List V)

/-- One successor of a vertex of the given depth. -/
def relax (currDepth : Nat) (s : State V) (nxt : V) : Except ε (State V) :=
  let deeper := max ((s.depth nxt).getD 1) (currDepth + 1)
  if limit < deeper then .error (tooDeep nxt deeper)
  else
    let left := s.inDegree nxt - 1
    .ok { s with
      depth := assign s.depth nxt (some deeper)
      inDegree := assign s.inDegree nxt left
      queue := if left = 0 then s.queue ++ [nxt] else s.queue }

/-- The vertex at the head of the queue. -/
def visit (curr : V) (rest : List V) (s : State V) : Except ε (State V) :=
  match s.depth curr with
  | none => .error missing
  | some currDepth =>
    if limit < currDepth then .error (tooDeep curr currDepth)
    else (adj curr).foldlM (relax limit tooDeep currDepth) { s with queue := rest, visited := s.visited + 1 }

/-- The loop; no result when the fuel runs out before the queue. -/
def loop : Nat → State V → Option (Except ε (State V))
  | fuel, s =>
    match s.queue, fuel with
    | [], _ => some (.ok s)
    | _ :: _, 0 => none
    | curr :: rest, fuel + 1 =>
      match visit limit tooDeep missing adj curr rest s with
      | .error fault => some (.error fault)
      | .ok next => loop fuel next

end loop

section graphs
omit [DecidableEq V]
variable (edges : List (V × V))

def Edge (u v : V) : Prop := (u,v) ∈ edges

/-- A walk of more vertices than the limit. -/
def Deep (limit : Nat) : Prop := ∃ chain : List V, limit < chain.length ∧ chain.IsChain (Edge edges)

def Acyclic : Prop := ∀ v, ¬TransGen (Edge edges) v v

variable {edges}

/-- A rank that grows along the edges leaves no cycle. -/
theorem acyclic_of_rank {rank : V → Nat} (grows : ∀ u v, Edge edges u v → rank u < rank v) : Acyclic edges := by
  have far : ∀ u v, TransGen (Edge edges) u v → rank u < rank v := by
    intro u v walk
    induction walk with
    | single edge => exact grows _ _ edge
    | tail _ edge ih => exact ih.trans (grows _ _ edge)
  intro v cycle
  exact lt_irrefl _ (far v v cycle)

/-- A walk is no longer than the rank of its end. -/
theorem chain_le_rank {rank : V → Nat} (grows : ∀ u v, Edge edges u v → rank u < rank v)
    (positive : ∀ v, 1 ≤ rank v) {chain : List V} (walk : chain.IsChain (Edge edges)) {v : V}
    (last : chain.getLast? = some v) : chain.length ≤ rank v := by
  induction chain using List.reverseRecOn generalizing v with
  | nil => cases last
  | append_singleton chain w ih =>
    rw [List.getLast?_concat] at last
    cases last
    rw [List.length_append,List.length_singleton]
    cases before : chain.getLast? with
    | none =>
      rw [List.getLast?_eq_none_iff.mp before]
      exact positive w
    | some u =>
      have steps := List.isChain_append.mp walk
      have edge := steps.2.2 u before w rfl
      have short := ih steps.1 before
      have larger := grows u w edge
      omega

/-- A finite set in which every vertex has a predecessor holds a cycle. -/
theorem cycle_of_no_source {stuck : List V} (some : stuck ≠ [])
    (behind : ∀ v ∈ stuck, ∃ u ∈ stuck, Edge edges u v) : ¬Acyclic edges := by
  intro acyclic
  let R : {v // v ∈ stuck} → {v // v ∈ stuck} → Prop := fun a b => TransGen (Edge edges) a.1 b.1
  have transitive : IsTrans _ R := ⟨fun _ _ _ first second => TransGen.trans first second⟩
  have irreflexive : Std.Irrefl R := ⟨fun a => acyclic a.1⟩
  have finite : Finite {v // v ∈ stuck} := (List.finite_toSet stuck).to_subtype
  have founded : WellFounded R := Finite.wellFounded_of_trans_of_irrefl R
  obtain ⟨v,inside⟩ := List.exists_mem_of_ne_nil stuck some
  obtain ⟨least,-,minimal⟩ := founded.has_min Set.univ ⟨⟨v,inside⟩,trivial⟩
  obtain ⟨u,member,edge⟩ := behind least.1 least.2
  exact minimal ⟨u,member⟩ trivial (TransGen.single edge)

end graphs

section invariant
variable (vertices : List V) (edges : List (V × V)) (limit : Nat)

omit [DecidableEq V] in
/-- A walk of so many vertices ends at the vertex. -/
def Reaches (n : Nat) (v : V) : Prop :=
  ∃ chain : List V, chain.length = n ∧ chain.IsChain (Edge edges) ∧ chain.getLast? = some v

/-- After the vertices of `done`, with `pending` edges of the last of them still to relax. -/
structure Invariant (done : List V) (pending : List (V × V)) (s : State V) : Prop where
  nodup : (done ++ s.queue).Nodup
  known : ∀ v ∈ done ++ s.queue, v ∈ vertices
  degree : ∀ v, s.inDegree v = (edges.countP (fun e => e.2 = v ∧ e.1 ∉ done) : Int) +
    (pending.countP (fun e => e.2 = v) : Int)
  ready : ∀ v ∈ vertices, v ∈ done ++ s.queue ↔ s.inDegree v = 0
  depths : ∀ v ∈ done ++ s.queue, ∃ n, s.depth v = some n
  sound : ∀ v n, s.depth v = some n → n ≤ limit ∧ Reaches edges n v
  ordered : ∀ u ∈ done, ∀ v, Edge edges u v →
    (u,v) ∈ pending ∨ ∃ m n, s.depth u = some m ∧ s.depth v = some n ∧ m < n
  visited : s.visited = done.length

variable {vertices edges limit}

omit [DecidableEq V] in
theorem Reaches.positive {n : Nat} {v : V} (reaches : Reaches edges n v) : 1 ≤ n := by
  obtain ⟨chain,rfl,-,last⟩ := reaches
  cases chain with
  | nil => cases last
  | cons w chain => simp

omit [DecidableEq V] in
theorem Reaches.extend {n : Nat} {u v : V} (reaches : Reaches edges n u) (edge : Edge edges u v) :
    Reaches edges (n + 1) v := by
  obtain ⟨chain,rfl,walk,last⟩ := reaches
  refine ⟨chain ++ [v],by simp,?_,List.getLast?_concat ..⟩
  rw [List.isChain_append]
  refine ⟨walk,List.isChain_singleton v,?_⟩
  intro x found y head
  rw [last] at found
  cases found
  cases head
  exact edge

omit [DecidableEq V] in
theorem Reaches.deep {n : Nat} {v : V} (reaches : Reaches edges n v) (beyond : limit < n) : Deep edges limit := by
  obtain ⟨chain,rfl,walk,-⟩ := reaches
  exact ⟨chain,beyond,walk⟩

section step
variable {done : List V} {pending : List (V × V)} {s : State V} {curr nxt : V} {d : Nat}

/-- The depth that an edge gives its target is the length of a walk to it. -/
theorem deeper_reaches (inv : Invariant vertices edges limit done pending s) (depth : s.depth curr = some d)
    (edge : Edge edges curr nxt) : Reaches edges (max ((s.depth nxt).getD 1) (d + 1)) nxt := by
  have extended := (inv.sound curr d depth).2.extend edge
  cases known : s.depth nxt with
  | none =>
    rw [Option.getD_none,max_eq_right (by omega)]
    exact extended
  | some n =>
    rw [Option.getD_some]
    obtain larger | smaller := le_total n (d + 1)
    · rw [max_eq_right larger]
      exact extended
    · rw [max_eq_left smaller]
      exact (inv.sound nxt n known).2

theorem fresh_target (inv : Invariant vertices edges limit done ((curr,nxt) :: pending) s)
    (known : nxt ∈ vertices) : nxt ∉ done ++ s.queue := by
  intro inside
  have zero := (inv.ready nxt known).mp inside
  have degree := inv.degree nxt
  rw [List.countP_cons_of_pos (by simp)] at degree
  push_cast at degree
  omega

/-- What one relaxation keeps. -/
theorem relax_invariant (inv : Invariant vertices edges limit done ((curr,nxt) :: pending) s)
    (depth : s.depth curr = some d) (edge : Edge edges curr nxt)
    (known : nxt ∈ vertices) {deeper : Nat} (depths : max ((s.depth nxt).getD 1) (d + 1) = deeper)
    (within : deeper ≤ limit) :
    Invariant vertices edges limit done pending { s with
      depth := assign s.depth nxt (some deeper)
      inDegree := assign s.inDegree nxt (s.inDegree nxt - 1)
      queue := if s.inDegree nxt - 1 = 0 then s.queue ++ [nxt] else s.queue } := by
  have fresh := fresh_target inv known
  have reaches := deeper_reaches inv depth edge
  rw [depths] at reaches
  have queued : ∀ v, v ∈ done ++ (if s.inDegree nxt - 1 = 0 then s.queue ++ [nxt] else s.queue) ↔
      v ∈ done ++ s.queue ∨ (v = nxt ∧ s.inDegree nxt - 1 = 0) := by
    intro v
    split <;> simp_all [or_assoc]
  have apart : ∀ v ∈ done ++ s.queue, v ≠ nxt := by
    rintro v inside rfl
    exact fresh inside
  constructor
  case nodup =>
    split
    · rw [← List.append_assoc]
      exact List.nodup_append.mpr ⟨inv.nodup,List.nodup_singleton _,by simpa using apart⟩
    · exact inv.nodup
  case known =>
    intro v inside
    obtain old | ⟨rfl,-⟩ := (queued v).mp inside
    · exact inv.known v old
    · exact known
  case degree =>
    intro v
    have degree := inv.degree v
    simp only [assign]
    split
    next same =>
      subst v
      rw [List.countP_cons_of_pos (by simp)] at degree
      push_cast at degree
      omega
    next other =>
      rw [List.countP_cons_of_neg (by simpa using Ne.symm other)] at degree
      exact degree
  case ready =>
    intro v member
    rw [queued v]
    simp only [assign]
    split
    next same =>
      subst v
      simp [fresh]
    next other =>
      rw [inv.ready v member]
      simp [other]
  case depths =>
    intro v inside
    simp only [assign]
    split
    next => exact ⟨deeper,rfl⟩
    next other =>
      obtain old | ⟨same,-⟩ := (queued v).mp inside
      · exact inv.depths v old
      · exact absurd same other
  case sound =>
    intro v n found
    simp only [assign] at found
    split at found
    next same =>
      cases found
      rw [same]
      exact ⟨within,reaches⟩
    next => exact inv.sound v n found
  case ordered =>
    intro u member v step
    have left : assign s.depth nxt (some deeper) u = s.depth u :=
      if_neg (apart u (List.mem_append_left _ member))
    obtain waiting | ⟨m,n,first,second,less⟩ := inv.ordered u member v step
    · obtain same | later := List.mem_cons.mp waiting
      · cases same
        exact .inr ⟨d,deeper,left.trans depth,if_pos rfl,by omega⟩
      · exact .inl later
    · by_cases target : v = nxt
      · subst v
        refine .inr ⟨m,deeper,left.trans first,if_pos rfl,?_⟩
        rw [second,Option.getD_some] at depths
        omega
      · exact .inr ⟨m,n,left.trans first,(if_neg target).trans second,less⟩
  case visited => exact inv.visited

end step

section run
variable (tooDeep : V → Nat → ε)

/-- The successors of a vertex, one after the other. -/
theorem relax_run {done : List V} {curr : V} {d : Nat} {targets : List V} {s : State V}
    (inv : Invariant vertices edges limit done (targets.map (fun v => (curr,v))) s) (processed : curr ∈ done)
    (depth : s.depth curr = some d) (targeted : ∀ v ∈ targets, Edge edges curr v ∧ v ∈ vertices) :
    (∃ s', targets.foldlM (relax limit tooDeep d) s = .ok s' ∧ Invariant vertices edges limit done [] s') ∨
      ∃ v n, targets.foldlM (relax limit tooDeep d) s = .error (tooDeep v n) ∧ Deep edges limit := by
  induction targets generalizing s with
  | nil => exact .inl ⟨s,rfl,inv⟩
  | cons nxt targets ih =>
    obtain ⟨edge,known⟩ := targeted nxt List.mem_cons_self
    have reaches := deeper_reaches inv depth edge
    rw [List.foldlM_cons]
    by_cases beyond : limit < max ((s.depth nxt).getD 1) (d + 1)
    · rw [relax,if_pos beyond]
      exact .inr ⟨nxt,_,rfl,reaches.deep beyond⟩
    · rw [relax,if_neg beyond]
      have next := relax_invariant inv depth edge known rfl (not_lt.mp beyond)
      have fresh := fresh_target inv known
      have same : assign s.depth nxt (some (max ((s.depth nxt).getD 1) (d + 1))) curr = some d := by
        rw [assign,if_neg,depth]
        rintro rfl
        exact fresh (List.mem_append_left _ processed)
      exact ih next same fun v member => targeted v (List.mem_cons_of_mem nxt member)

/-- Taking a vertex from the queue leaves its edges to relax. -/
theorem visit_start {done rest : List V} {curr : V} {s : State V} (inv : Invariant vertices edges limit done [] s)
    (queue : s.queue = curr :: rest) :
    Invariant vertices edges limit (done ++ [curr]) ((successors edges curr).map (fun v => (curr,v)))
      { s with queue := rest, visited := s.visited + 1 } := by
  have same : (done ++ [curr]) ++ rest = done ++ s.queue := by rw [queue,List.append_assoc]; rfl
  have unprocessed : curr ∉ done := by
    intro inside
    have nodup := inv.nodup
    rw [queue] at nodup
    exact (List.nodup_append.mp nodup).2.2 curr inside curr List.mem_cons_self rfl
  have split : ∀ (es : List (V × V)) v, es.countP (fun e => e.2 = v ∧ e.1 ∉ done) =
      es.countP (fun e => e.2 = v ∧ e.1 ∉ done ++ [curr]) +
        ((successors es curr).map (fun w => (curr,w))).countP (fun e => e.2 = v) := by
    intro es v
    induction es with
    | nil => rfl
    | cons e es ih =>
      obtain ⟨u,w⟩ := e
      by_cases head : u = curr
      · subst u
        by_cases target : w = v
        · simp_all [successors]
          omega
        · simp_all [successors]
      · by_cases target : w = v
        · by_cases old : u ∈ done
          · simp_all [successors]
          · simp_all [successors]
            omega
        · simp_all [successors]
  constructor
  case nodup =>
    rw [same]
    exact inv.nodup
  case known =>
    rw [same]
    exact inv.known
  case degree =>
    intro v
    have degree := inv.degree v
    rw [split edges v] at degree
    simpa using degree
  case ready =>
    rw [same]
    exact inv.ready
  case depths =>
    rw [same]
    exact inv.depths
  case sound => exact inv.sound
  case ordered =>
    intro u member v edge
    obtain earlier | last := List.mem_append.mp member
    · obtain impossible | ranks := inv.ordered u earlier v edge
      · cases impossible
      · exact .inr ranks
    · obtain rfl := List.mem_singleton.mp last
      left
      have inside : v ∈ successors edges u := List.mem_map.mpr ⟨(u,v),List.mem_filter.mpr ⟨edge,by simp⟩,rfl⟩
      exact List.mem_map.mpr ⟨v,inside,rfl⟩
  case visited =>
    change s.visited + 1 = (done ++ [curr]).length
    rw [inv.visited,List.length_append,List.length_singleton]

variable (missing : ε)

theorem loop_done {adj : V → List V} (fuel : Nat) {s : State V} (queue : s.queue = []) :
    loop limit tooDeep missing adj fuel s = some (.ok s) := by
  unfold loop
  rw [queue]

theorem loop_visit {adj : V → List V} (fuel : Nat) {s : State V} {curr : V} {rest : List V}
    (queue : s.queue = curr :: rest) : loop limit tooDeep missing adj (fuel + 1) s =
      match visit limit tooDeep missing adj curr rest s with
      | .error fault => some (.error fault)
      | .ok next => loop limit tooDeep missing adj fuel next := by
  conv_lhs => unfold loop
  rw [queue]

/-- More fuel does not change a result. -/
theorem loop_more {adj : V → List V} {fuel more : Nat} {s : State V} {result : Except ε (State V)}
    (ended : loop limit tooDeep missing adj fuel s = some result) (enough : fuel ≤ more) :
    loop limit tooDeep missing adj more s = some result := by
  induction fuel generalizing s more with
  | zero =>
    cases queue : s.queue with
    | nil =>
      rw [loop_done tooDeep missing 0 queue] at ended
      rw [loop_done tooDeep missing more queue]
      exact ended
    | cons curr rest =>
      unfold loop at ended
      rw [queue] at ended
      cases ended
  | succ fuel ih =>
    cases queue : s.queue with
    | nil =>
      rw [loop_done tooDeep missing (fuel + 1) queue] at ended
      rw [loop_done tooDeep missing more queue]
      exact ended
    | cons curr rest =>
      obtain ⟨more,rfl⟩ := Nat.exists_eq_succ_of_ne_zero (Nat.ne_zero_of_lt enough)
      rw [loop_visit tooDeep missing fuel queue] at ended
      rw [Nat.succ_eq_add_one,loop_visit tooDeep missing more queue]
      split at ended
      next => exact ended
      next => exact ih ended (Nat.le_of_succ_le_succ enough)

theorem visit_run {done rest : List V} {curr : V} {s : State V} (inv : Invariant vertices edges limit done [] s)
    (queue : s.queue = curr :: rest) (among : ∀ e ∈ edges, e.2 ∈ vertices) :
    (∃ s', visit limit tooDeep missing (successors edges) curr rest s = .ok s' ∧
      Invariant vertices edges limit (done ++ [curr]) [] s') ∨
    ∃ v n, visit limit tooDeep missing (successors edges) curr rest s = .error (tooDeep v n) ∧ Deep edges limit := by
  obtain ⟨d,depth⟩ := inv.depths curr (by simp [queue])
  have within := (inv.sound curr d depth).1
  have targeted : ∀ v ∈ successors edges curr, Edge edges curr v ∧ v ∈ vertices := by
    intro v inside
    obtain ⟨e,member,rfl⟩ := List.mem_map.mp inside
    obtain ⟨edge,source⟩ := List.mem_filter.mp member
    obtain rfl := of_decide_eq_true source
    exact ⟨edge,among e edge⟩
  rw [visit,depth]
  simp only
  rw [if_neg (not_lt.mpr within)]
  exact relax_run tooDeep (visit_start inv queue) (by simp) depth targeted

/-- With as much fuel as vertices the loop comes to an end: with the queue empty, or at
a walk that is too long. -/
theorem loop_run (among : ∀ e ∈ edges, e.2 ∈ vertices) (fuel : Nat) {done : List V} {s : State V}
    (inv : Invariant vertices edges limit done [] s) (enough : vertices.length ≤ fuel + done.length) :
    (∃ done' s', loop limit tooDeep missing (successors edges) fuel s = some (.ok s') ∧
      Invariant vertices edges limit done' [] s' ∧ s'.queue = []) ∨
    ∃ v n, loop limit tooDeep missing (successors edges) fuel s = some (.error (tooDeep v n)) ∧
      Deep edges limit := by
  induction fuel generalizing done s with
  | zero =>
    have size := (List.subperm_of_subset inv.nodup inv.known).length_le
    rw [List.length_append] at size
    have bare : s.queue = [] := List.eq_nil_of_length_eq_zero (by omega)
    exact .inl ⟨done,s,loop_done tooDeep missing 0 bare,inv,bare⟩
  | succ fuel ih =>
    cases queue : s.queue with
    | nil => exact .inl ⟨done,s,loop_done tooDeep missing (fuel + 1) queue,inv,queue⟩
    | cons curr rest =>
      obtain ⟨next,visited,after⟩ | ⟨v,n,failed,deep⟩ := visit_run tooDeep missing inv queue among
      · rw [loop_visit tooDeep missing fuel queue,visited]
        apply ih after
        rw [List.length_append,List.length_singleton]
        omega
      · refine .inr ⟨v,n,?_,deep⟩
        rw [loop_visit tooDeep missing fuel queue,failed]

end run

section result

/-- The state before the loop. -/
def start (roots : List V) (inDegree : V → Int) : State V where
  depth v := if v ∈ roots then some 1 else none
  queue := roots
  inDegree := inDegree

def sources (vertices : List V) (inDegree : V → Int) : List V := vertices.filter (fun v => inDegree v = 0)

theorem start_invariant {inDegree : V → Int} (distinct : vertices.Nodup) (positive : 1 ≤ limit)
    (degree : ∀ v, inDegree v = edges.countP (fun e => e.2 = v)) :
    Invariant vertices edges limit [] [] (start (sources vertices inDegree) inDegree) := by
  constructor
  case nodup => exact distinct.filter _
  case known =>
    intro v inside
    exact (List.mem_filter.mp inside).1
  case degree =>
    intro v
    change inDegree v = _
    simpa using degree v
  case ready =>
    intro v member
    simp [start,sources,member]
  case depths =>
    intro v inside
    exact ⟨1,if_pos inside⟩
  case sound =>
    intro v n found
    simp only [start] at found
    split at found
    next =>
      cases found
      exact ⟨positive,[v],rfl,List.isChain_singleton v,rfl⟩
    next => cases found
  case ordered => simp
  case visited => rfl

/-- All vertices visited: the depths rank the graph. -/
theorem layered_of_all {done : List V} {s : State V} (inv : Invariant vertices edges limit done [] s)
    (positive : 1 ≤ limit) (all : vertices.length ≤ s.visited) (among : ∀ e ∈ edges, e.1 ∈ vertices) :
    Acyclic edges ∧ ¬Deep edges limit := by
  have processed : ∀ v ∈ vertices, v ∈ done := by
    have nodup := (List.nodup_append.mp inv.nodup).1
    have subset : done ⊆ vertices := fun v inside => inv.known v (List.mem_append_left _ inside)
    have perm := (List.subperm_of_subset nodup subset).perm_of_length_le (by rw [← inv.visited]; exact all)
    exact fun v member => perm.mem_iff.mpr member
  have grows : ∀ u v, Edge edges u v → (s.depth u).getD 1 < (s.depth v).getD 1 := by
    intro u v edge
    obtain impossible | ⟨m,n,first,second,less⟩ := inv.ordered u (processed u (among _ edge)) v edge
    · cases impossible
    · rw [first,second]
      exact less
  have ranked : ∀ v, 1 ≤ (s.depth v).getD 1 ∧ (s.depth v).getD 1 ≤ limit := by
    intro v
    cases known : s.depth v with
    | none => exact ⟨le_rfl,positive⟩
    | some n =>
      obtain ⟨within,reaches⟩ := inv.sound v n known
      exact ⟨reaches.positive,within⟩
  refine ⟨acyclic_of_rank grows,?_⟩
  rintro ⟨chain,long,walk⟩
  cases last : chain.getLast? with
  | none =>
    rw [List.getLast?_eq_none_iff.mp last] at long
    exact absurd long (by simp)
  | some v =>
    have short := chain_le_rank grows (fun w => (ranked w).1) walk last
    have bound := (ranked v).2
    omega

/-- Vertices left beyond when the queue is empty hold a cycle. -/
theorem cyclic_of_left {done : List V} {s : State V} (inv : Invariant vertices edges limit done [] s)
    (empty : s.queue = []) (distinct : vertices.Nodup) (left : s.visited < vertices.length)
    (among : ∀ e ∈ edges, e.1 ∈ vertices) : ¬Acyclic edges := by
  have outside : ∀ v, v ∈ vertices.filter (fun v => v ∉ done) ↔ v ∈ vertices ∧ v ∉ done := by simp
  apply @cycle_of_no_source _ _ (vertices.filter (fun v => v ∉ done))
  · intro none
    have subset : vertices ⊆ done := by
      intro v member
      by_contra unprocessed
      have inside := (outside v).mpr ⟨member,unprocessed⟩
      rw [none] at inside
      cases inside
    have size := (List.subperm_of_subset distinct subset).length_le
    rw [inv.visited] at left
    omega
  · intro v inside
    obtain ⟨member,unprocessed⟩ := (outside v).mp inside
    have waiting : s.inDegree v ≠ 0 := by
      intro zero
      have ready := (inv.ready v member).mpr zero
      rw [empty,List.append_nil] at ready
      exact unprocessed ready
    rw [inv.degree v] at waiting
    have some : 0 < edges.countP (fun e => e.2 = v ∧ e.1 ∉ done) := by
      rw [List.countP_nil] at waiting
      omega
    obtain ⟨e,edge,holds⟩ := List.countP_pos_iff.mp some
    obtain ⟨target,source⟩ := of_decide_eq_true holds
    refine ⟨e.1,(outside e.1).mpr ⟨among e edge,source⟩,?_⟩
    rw [← target]
    exact edge

/-- The three ends of the sort. -/
theorem sort_outcome (tooDeep : V → Nat → ε) (missing : ε) {inDegree : V → Int} (distinct : vertices.Nodup)
    (positive : 1 ≤ limit) (among : ∀ e ∈ edges, e.1 ∈ vertices ∧ e.2 ∈ vertices)
    (degree : ∀ v, inDegree v = edges.countP (fun e => e.2 = v)) {fuel : Nat} (enough : vertices.length ≤ fuel) :
    (∃ s, loop limit tooDeep missing (successors edges) fuel (start (sources vertices inDegree) inDegree) =
        some (.ok s) ∧ (∀ v n, s.depth v = some n → n ≤ limit) ∧
          ((vertices.length ≤ s.visited ∧ Acyclic edges ∧ ¬Deep edges limit) ∨
            (s.visited < vertices.length ∧ ¬Acyclic edges))) ∨
    ∃ v n, loop limit tooDeep missing (successors edges) fuel (start (sources vertices inDegree) inDegree) =
        some (.error (tooDeep v n)) ∧ Deep edges limit := by
  have initial := start_invariant distinct positive degree
  obtain ⟨done,s,ended,inv,empty⟩ | deep :=
    loop_run tooDeep missing (fun e edge => (among e edge).2) fuel initial (by simpa using enough)
  · refine .inl ⟨s,ended,fun v n found => (inv.sound v n found).1,?_⟩
    obtain all | left := le_or_gt vertices.length s.visited
    · exact .inl ⟨all,layered_of_all inv positive all fun e edge => (among e edge).1⟩
    · exact .inr ⟨left,cyclic_of_left inv empty distinct left fun e edge => (among e edge).1⟩
  · exact .inr deep

end result
end invariant

end RevPilot.Library.Kahn
