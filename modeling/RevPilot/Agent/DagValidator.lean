import RevPilot.Library.Kahn
import RevPilot.Shared.Errors
import RevPilot.Shared.Identifiers
import Mathlib.Algebra.BigOperators.Group.List.Basic
import Mathlib.Data.List.Nodup

/-! The validation of investigation plans: the checks of their tasks, then Kahn's
sort with the depths of the tasks. -/
namespace RevPilot.Agent.DagValidator
open Library Shared

structure AgentTask where
  taskId : String
  dependsOn : List String := []

structure Plan where
  investigationId : UUIDv7
  tasks : List AgentTask
  maxConcurrency : Int := 4

def invalidPlan (message : String) (details : List (PyKey × PyValue)) : DomainError where
  code := "ERR_INVALID_PLAN_DAG"
  message := message
  details := details

def limitExceeded (message : String) (details : List (PyKey × PyValue)) : DomainError where
  code := "ERR_DAG_LIMIT_EXCEEDED"
  message := message
  details := details

def cycleDetected (message : String) (details : List (PyKey × PyValue)) : DomainError where
  code := "ERR_DAG_CYCLE_DETECTED"
  message := message
  details := details

section checks
variable (plan : Plan)

def ids (tasks : List AgentTask) : List String := tasks.map (·.taskId)

def sizeFailure : Option DomainError :=
  if plan.tasks = [] then
    some (invalidPlan "Plan must contain at least one task"
      [(.str "investigation_id",.str plan.investigationId.value)])
  else if 20 < plan.tasks.length then
    some (limitExceeded ("Plan total task count (" ++ toString plan.tasks.length ++ ") exceeds maximum limit of 20")
      [(.str "task_count",.int plan.tasks.length),(.str "limit",.int 20)])
  else none

def concurrencyFailure : Option DomainError :=
  if 8 < plan.maxConcurrency then
    some (limitExceeded ("Plan max_concurrency (" ++ toString plan.maxConcurrency ++ ") exceeds limit of 8")
      [(.str "max_concurrency",.int plan.maxConcurrency),(.str "limit",.int 8)])
  else none

/-- The loop that fills `task_map`; `seen` are its keys. -/
def duplicateFailure (seen : List String) : List AgentTask → Option DomainError
  | [] => none
  | task :: tasks =>
    if task.taskId ∈ seen then
      some (invalidPlan ("Duplicate task_id detected: " ++ task.taskId)
        [(.str "duplicate_task_id",.str task.taskId)])
    else duplicateFailure (seen ++ [task.taskId]) tasks

def dependencyFailure (task : AgentTask) (dep : String) : Option DomainError :=
  if dep = task.taskId then
    some (cycleDetected ("Self-referencing cycle detected in task " ++ task.taskId)
      [(.str "task_id",.str task.taskId)])
  else if dep ∉ ids plan.tasks then
    some (invalidPlan ("Task " ++ task.taskId ++ " depends on unknown prerequisite task: " ++ dep)
      [(.str "task_id",.str task.taskId),(.str "missing_dependency",.str dep)])
  else none

def dependenciesFailure : Option DomainError :=
  plan.tasks.findSome? fun task => task.dependsOn.findSome? (dependencyFailure plan task)

end checks

/-- `adj` and `in_degree`. -/
structure Graph where
  adj : String → List String := fun _ => []
  inDegree : String → Int := fun _ => 0

/-- The dependencies with the tasks that have them, in the order of the loop. -/
def dependencies (tasks : List AgentTask) : List (String × String) :=
  tasks.flatMap fun task => task.dependsOn.map fun dep => (dep,task.taskId)

def Graph.add (g : Graph) (edge : String × String) : Graph where
  adj := Kahn.assign g.adj edge.1 (g.adj edge.1 ++ [edge.2])
  inDegree := Kahn.assign g.inDegree edge.2 (g.inDegree edge.2 + 1)

def buildGraph (tasks : List AgentTask) : Graph := (dependencies tasks).foldl Graph.add {}

section limits
variable (tasks : List AgentTask)

def fanOutFailure : Option DomainError :=
  let g := buildGraph tasks
  ((ids tasks).find? fun id => decide (8 < (g.adj id).length)).map fun id =>
    limitExceeded ("Task " ++ id ++ " fan-out (" ++ toString (g.adj id).length ++ ") exceeds maximum limit of 8")
      [(.str "task_id",.str id),(.str "fan_out",.int (g.adj id).length),(.str "limit",.int 8)]

def roots : List String := Kahn.sources (ids tasks) (buildGraph tasks).inDegree

def rootFailure : Option DomainError :=
  if 8 < (roots tasks).length then
    some (limitExceeded
      ("Root concurrency fan-out (" ++ toString (roots tasks).length ++ ") exceeds maximum limit of 8")
      [(.str "root_count",.int (roots tasks).length),(.str "limit",.int 8)])
  else none

end limits

/-- The checks before the sort, the first failure of them. -/
def structuralFailure (plan : Plan) : Option DomainError :=
  (sizeFailure plan).or <| (concurrencyFailure plan).or <| (duplicateFailure [] plan.tasks).or <|
    (dependenciesFailure plan).or <| (fanOutFailure plan.tasks).or <| rootFailure plan.tasks

/-- How the loop breaks off: at a failure, or at a task without a depth. -/
inductive Halt : Type
  | failed (failure : DomainError)
  | keyError

def tooDeep (taskId : String) (depth : Nat) : Halt :=
  .failed (limitExceeded ("Plan depth (" ++ toString depth ++ ") exceeds maximum depth limit of 4")
    [(.str "task_id",.str taskId),(.str "depth",.int depth),(.str "limit",.int 4)])

/-- After the loop: the count of the visited tasks, and the largest depth. -/
def finish (plan : Plan) (s : Kahn.State String) : Except DomainError Bool :=
  let maxDepth := ((ids plan.tasks).filterMap s.depth).foldl max 0
  if s.visited < plan.tasks.length then
    .error (cycleDetected "Cyclical task dependency detected in investigation plan DAG"
      [(.str "total_tasks",.int plan.tasks.length),(.str "acyclic_visited_tasks",.int s.visited)])
  else if 4 < maxDepth then
    .error (limitExceeded ("Plan maximum depth (" ++ toString maxDepth ++ ") exceeds limit of 4")
      [(.str "max_depth",.int maxDepth),(.str "limit",.int 4)])
  else .ok true

/-- `fuel` bounds the turns of the loop; without enough of it there is no result. -/
def validateInvestigationDag (fuel : Nat) (plan : Plan) : Option (Except PyError (Except DomainError Bool)) :=
  match structuralFailure plan with
  | some failure => some (.ok (.error failure))
  | none =>
    let g := buildGraph plan.tasks
    match Kahn.loop 4 tooDeep .keyError g.adj fuel (Kahn.start (roots plan.tasks) g.inDegree) with
    | none => none
    | some (.error .keyError) => some (.error (.runtime "KeyError"))
    | some (.error (.failed failure)) => some (.ok (.error failure))
    | some (.ok s) => some (.ok (finish plan s))

section wellFormed
variable (plan : Plan)

/-- The second task depends on the first one. -/
def Precedes (dep id : String) : Prop := ∃ task ∈ plan.tasks, task.taskId = id ∧ dep ∈ task.dependsOn

/-- What a plan must be like. -/
structure WellFormed : Prop where
  size : 1 ≤ plan.tasks.length ∧ plan.tasks.length ≤ 20
  concurrency : plan.maxConcurrency ≤ 8
  distinct : (ids plan.tasks).Nodup
  known : ∀ task ∈ plan.tasks, ∀ dep ∈ task.dependsOn, dep ≠ task.taskId ∧ dep ∈ ids plan.tasks
  dependents : ∀ task ∈ plan.tasks, (plan.tasks.map fun other => other.dependsOn.count task.taskId).sum ≤ 8
  roots : plan.tasks.countP (fun task => task.dependsOn = []) ≤ 8
  acyclic : ∀ id, ¬Relation.TransGen (Precedes plan) id id
  shallow : ∀ chain : List String, chain.IsChain (Precedes plan) → chain.length ≤ 4

end wellFormed

end RevPilot.Agent.DagValidator

/-! The validation accepts exactly the well-formed plans. -/
namespace RevPilot.Agent.DagValidator
open Library Shared

section graph
variable (tasks : List AgentTask)

/-- The loop beyond the dependencies builds the lists of successors and counts the edges. -/
theorem buildGraph_eq : (buildGraph tasks).adj = Kahn.successors (dependencies tasks) ∧
    ∀ v, (buildGraph tasks).inDegree v = (dependencies tasks).countP (fun e => e.2 = v) := by
  have run : ∀ (edges : List (String × String)) (g : Graph),
      (∀ u, (edges.foldl Graph.add g).adj u = g.adj u ++ Kahn.successors edges u) ∧
        ∀ v, (edges.foldl Graph.add g).inDegree v = g.inDegree v + (edges.countP (fun e => e.2 = v) : Int) := by
    intro edges
    induction edges with
    | nil => simp [Kahn.successors]
    | cons e edges ih =>
      intro g
      obtain ⟨lists,degrees⟩ := ih (g.add e)
      constructor
      · intro u
        rw [List.foldl_cons,lists]
        by_cases source : u = e.1
        · subst source
          simp [Graph.add,Kahn.assign,Kahn.successors]
        · simp [Graph.add,Kahn.assign,Kahn.successors,source,Ne.symm source]
      · intro v
        rw [List.foldl_cons,degrees]
        by_cases target : v = e.2
        · subst target
          simp [Graph.add,Kahn.assign]
          omega
        · simp [Graph.add,Kahn.assign,target,Ne.symm target]
  obtain ⟨lists,degrees⟩ := run (dependencies tasks) {}
  constructor
  · funext u
    rw [buildGraph,lists]
    rfl
  · intro v
    rw [buildGraph,degrees]
    exact zero_add _

theorem mem_dependencies (dep id : String) :
    (dep,id) ∈ dependencies tasks ↔ ∃ task ∈ tasks, task.taskId = id ∧ dep ∈ task.dependsOn := by
  simp only [dependencies,List.mem_flatMap,List.mem_map,Prod.mk.injEq]
  constructor
  · rintro ⟨task,member,_,inside,rfl,rfl⟩
    exact ⟨task,member,rfl,inside⟩
  · rintro ⟨task,member,rfl,inside⟩
    exact ⟨task,member,dep,inside,rfl,rfl⟩

theorem successors_length (u : String) : (Kahn.successors (dependencies tasks) u).length =
    (tasks.map fun task => task.dependsOn.count u).sum := by
  rw [Kahn.successors,List.length_map,← List.countP_eq_length_filter,dependencies,List.countP_flatMap]
  congr 1
  apply List.map_congr_left
  intro task _
  rw [Function.comp,List.countP_map]
  rfl

theorem inDegree_zero {tasks : List AgentTask} (distinct : (ids tasks).Nodup) {task : AgentTask}
    (member : task ∈ tasks) : (buildGraph tasks).inDegree task.taskId = 0 ↔ task.dependsOn = [] := by
  rw [(buildGraph_eq tasks).2]
  constructor
  · intro none
    have never : (dependencies tasks).countP (fun e => e.2 = task.taskId) = 0 := by exact_mod_cast none
    rw [List.eq_nil_iff_forall_not_mem]
    intro dep inside
    have edge := (mem_dependencies tasks dep task.taskId).mpr ⟨task,member,rfl,inside⟩
    exact List.countP_eq_zero.mp never _ edge (by simp)
  · intro bare
    have never : (dependencies tasks).countP (fun e => e.2 = task.taskId) = 0 := by
      rw [List.countP_eq_zero]
      rintro ⟨dep,id⟩ edge same
      obtain ⟨other,inside,named,dependent⟩ := (mem_dependencies tasks dep id).mp edge
      have equal : other.taskId = task.taskId := named.trans (of_decide_eq_true same)
      rw [List.inj_on_of_nodup_map distinct inside member equal,bare] at dependent
      cases dependent
    rw [never]
    rfl

theorem roots_length {tasks : List AgentTask} (distinct : (ids tasks).Nodup) :
    (roots tasks).length = tasks.countP (fun task => task.dependsOn = []) := by
  rw [roots,Kahn.sources,← List.countP_eq_length_filter]
  unfold ids
  rw [List.countP_map]
  apply List.countP_congr
  intro task member
  simp [inDegree_zero distinct member]

end graph

section checks
variable {plan : Plan}

theorem sizeFailure_none : sizeFailure plan = none ↔ 1 ≤ plan.tasks.length ∧ plan.tasks.length ≤ 20 := by
  unfold sizeFailure
  rw [Nat.one_le_iff_ne_zero,ne_eq,List.length_eq_zero_iff]
  split
  next empty => simp [empty]
  next some =>
    split
    next many => simp; omega
    next few => simp [some]; omega

theorem concurrencyFailure_none : concurrencyFailure plan = none ↔ plan.maxConcurrency ≤ 8 := by
  unfold concurrencyFailure
  split
  next beyond => simp; omega
  next within => simp; omega

theorem duplicateFailure_none (seen : List String) (tasks : List AgentTask) (before : seen.Nodup) :
    duplicateFailure seen tasks = none ↔ (seen ++ ids tasks).Nodup := by
  induction tasks generalizing seen with
  | nil => simpa [duplicateFailure,ids] using before
  | cons task tasks ih =>
    rw [duplicateFailure]
    split
    next double =>
      simp only [reduceCtorEq,false_iff]
      intro distinct
      exact (List.nodup_append.mp distinct).2.2 _ double _ List.mem_cons_self rfl
    next new =>
      have grown : (seen ++ [task.taskId]).Nodup :=
        List.nodup_append.mpr ⟨before,List.nodup_singleton _,by rintro a inside b last rfl; simp_all⟩
      rw [ih _ grown,List.append_assoc]
      rfl

theorem dependenciesFailure_none : dependenciesFailure plan = none ↔
    ∀ task ∈ plan.tasks, ∀ dep ∈ task.dependsOn, dep ≠ task.taskId ∧ dep ∈ ids plan.tasks := by
  simp only [dependenciesFailure,List.findSome?_eq_none_iff]
  apply forall₂_congr
  intro task member
  apply forall₂_congr
  intro dep inside
  unfold dependencyFailure
  by_cases self : dep = task.taskId
  · simp [self]
  · by_cases known : dep ∈ ids plan.tasks
    · simp [self,known]
    · simp [self,known]

theorem fanOutFailure_none : fanOutFailure plan.tasks = none ↔
    ∀ task ∈ plan.tasks, (plan.tasks.map fun other => other.dependsOn.count task.taskId).sum ≤ 8 := by
  simp only [fanOutFailure,Option.map_eq_none_iff,List.find?_eq_none,decide_eq_true_eq,not_lt,
    (buildGraph_eq plan.tasks).1,successors_length]
  simp [ids]

theorem rootFailure_none (distinct : (ids plan.tasks).Nodup) : rootFailure plan.tasks = none ↔
    plan.tasks.countP (fun task => task.dependsOn = []) ≤ 8 := by
  rw [rootFailure,roots_length distinct]
  split
  next beyond => simp; omega
  next within => simp; omega

/-- The plan passes the checks before the sort. -/
structure Structured (plan : Plan) : Prop where
  size : 1 ≤ plan.tasks.length ∧ plan.tasks.length ≤ 20
  concurrency : plan.maxConcurrency ≤ 8
  distinct : (ids plan.tasks).Nodup
  known : ∀ task ∈ plan.tasks, ∀ dep ∈ task.dependsOn, dep ≠ task.taskId ∧ dep ∈ ids plan.tasks
  dependents : ∀ task ∈ plan.tasks, (plan.tasks.map fun other => other.dependsOn.count task.taskId).sum ≤ 8
  roots : plan.tasks.countP (fun task => task.dependsOn = []) ≤ 8

theorem structuralFailure_none : structuralFailure plan = none ↔ Structured plan := by
  have unique := duplicateFailure_none [] plan.tasks List.nodup_nil
  rw [List.nil_append] at unique
  simp only [structuralFailure,Option.or_eq_none_iff,sizeFailure_none,concurrencyFailure_none,unique,
    dependenciesFailure_none,fanOutFailure_none]
  constructor
  · rintro ⟨size,concurrency,distinct,known,dependents,roots⟩
    exact ⟨size,concurrency,distinct,known,dependents,(rootFailure_none distinct).mp roots⟩
  · intro structured
    exact ⟨structured.size,structured.concurrency,structured.distinct,structured.known,structured.dependents,
      (rootFailure_none structured.distinct).mpr structured.roots⟩

/-- A well-formed plan is a structured one without cycles and long chains. -/
theorem wellFormed_iff : WellFormed plan ↔ Structured plan ∧ Kahn.Acyclic (dependencies plan.tasks) ∧
    ¬Kahn.Deep (dependencies plan.tasks) 4 := by
  have relation : Kahn.Edge (dependencies plan.tasks) = Precedes plan := by
    funext dep id
    exact propext (mem_dependencies plan.tasks dep id)
  unfold Kahn.Acyclic Kahn.Deep
  rw [relation]
  constructor
  · intro wellFormed
    refine ⟨⟨wellFormed.size,wellFormed.concurrency,wellFormed.distinct,wellFormed.known,wellFormed.dependents,
      wellFormed.roots⟩,wellFormed.acyclic,?_⟩
    rintro ⟨chain,long,walk⟩
    have short := wellFormed.shallow chain walk
    omega
  · rintro ⟨structured,acyclic,shallow⟩
    refine ⟨structured.size,structured.concurrency,structured.distinct,structured.known,structured.dependents,
      structured.roots,acyclic,?_⟩
    intro chain walk
    by_contra long
    exact shallow ⟨chain,by omega,walk⟩

theorem dependencies_known (structured : Structured plan) :
    ∀ e ∈ dependencies plan.tasks, e.1 ∈ ids plan.tasks ∧ e.2 ∈ ids plan.tasks := by
  rintro ⟨dep,id⟩ edge
  obtain ⟨task,member,rfl,inside⟩ := (mem_dependencies plan.tasks dep id).mp edge
  exact ⟨(structured.known task member dep inside).2,List.mem_map_of_mem member⟩

end checks

section validation
variable {plan : Plan}

/-- No depth beyond the limit is left for the check after the loop. -/
theorem finish_eq {s : Kahn.State String} (depths : ∀ v n, s.depth v = some n → n ≤ 4) :
    finish plan s = if s.visited < plan.tasks.length then
      .error (cycleDetected "Cyclical task dependency detected in investigation plan DAG"
        [(.str "total_tasks",.int plan.tasks.length),(.str "acyclic_visited_tasks",.int s.visited)])
    else .ok true := by
  have bounded : ∀ (ns : List Nat) (m : Nat), m ≤ 4 → (∀ n ∈ ns, n ≤ 4) → ns.foldl max m ≤ 4 := by
    intro ns
    induction ns with
    | nil => exact fun _ start _ => start
    | cons n ns ih =>
      intro m start all
      exact ih (max m n) (max_le start (all n List.mem_cons_self)) fun k inside => all k (List.mem_cons_of_mem n inside)
  have shallow : ((ids plan.tasks).filterMap s.depth).foldl max 0 ≤ 4 := by
    apply bounded _ 0 (by decide)
    intro n inside
    obtain ⟨v,-,found⟩ := List.mem_filterMap.mp inside
    exact depths v n found
  unfold finish
  simp only [if_neg (not_lt.mpr shallow)]

/-- Every plan is validated in as many turns as it has tasks, and it succeeds exactly
when the plan is well formed. -/
theorem validateInvestigationDag_iff (plan : Plan) : ∃ answer : Except DomainError Bool,
    (∀ fuel, plan.tasks.length ≤ fuel → validateInvestigationDag fuel plan = some (.ok answer)) ∧
      (answer = .ok true ↔ WellFormed plan) := by
  rw [wellFormed_iff]
  cases structural : structuralFailure plan with
  | some failure =>
    refine ⟨.error failure,?_,?_⟩
    · intro fuel _
      rw [validateInvestigationDag,structural]
    · simp only [reduceCtorEq,false_iff,not_and]
      intro structured
      rw [structuralFailure_none.mpr structured] at structural
      cases structural
  | none =>
    have structured := structuralFailure_none.mp structural
    obtain ⟨lists,degrees⟩ := buildGraph_eq plan.tasks
    have size : (ids plan.tasks).length = plan.tasks.length := List.length_map _
    -- The answer is the one with just enough fuel; more of it changes nothing.
    have settled : ∀ result, Kahn.loop 4 tooDeep .keyError (buildGraph plan.tasks).adj plan.tasks.length
        (Kahn.start (roots plan.tasks) (buildGraph plan.tasks).inDegree) = some result →
          ∀ answer, (match result with
            | .error .keyError => .error (.runtime "KeyError")
            | .error (.failed failure) => .ok (.error failure)
            | .ok s => .ok (finish plan s)) = (.ok answer : Except PyError (Except DomainError Bool)) →
              ∀ fuel, plan.tasks.length ≤ fuel → validateInvestigationDag fuel plan = some (.ok answer) := by
      intro result ended answer shown fuel enough
      have same := Kahn.loop_more tooDeep Halt.keyError ended enough
      rw [validateInvestigationDag,structural]
      simp only [same]
      rw [← shown]
      cases result with
      | ok s => rfl
      | error halt => cases halt <;> rfl
    have outcome := @Kahn.sort_outcome String Halt _ (ids plan.tasks) (dependencies plan.tasks) 4 tooDeep
      Halt.keyError _ structured.distinct (by decide) (dependencies_known structured) degrees
      _ size.le
    rw [← lists] at outcome
    obtain ⟨s,ended,depths,ending⟩ | ⟨v,n,ended,deep⟩ := outcome
    · refine ⟨finish plan s,settled _ ended _ rfl,?_⟩
      rw [finish_eq depths,← size]
      obtain ⟨all,acyclic,shallow⟩ | ⟨left,cyclic⟩ := ending
      · rw [if_neg (not_lt.mpr all)]
        exact iff_of_true rfl ⟨structured,acyclic,shallow⟩
      · rw [if_pos left]
        refine iff_of_false (by simp) ?_
        rintro ⟨-,acyclic,-⟩
        exact cyclic acyclic
    · refine ⟨_,settled _ ended _ rfl,iff_of_false (by simp) ?_⟩
      rintro ⟨-,-,shallow⟩
      exact shallow deep

end validation
end RevPilot.Agent.DagValidator
