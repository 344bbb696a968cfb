import RevPilot.Analytics.LifecycleRuns
import RevPilot.Analytics.Noninterference
import RevPilot.Library.Sweep

/-! Reconciliation: the anomalies of a metric whose windows meet a window of late data are computed
again, one after the other. -/
namespace RevPilot.Analytics
open Library JsonText Shared MetricService

/-- An anomaly with what the reconciliation reads of it beside its lifecycle. -/
structure StoredAnomaly where
  aggregate : AnomalyAggregate
  observationWindowStart : UtcDateTime
  observationWindowEnd : UtcDateTime
  expectedInterval : ℚ × ℚ
  affectedScope : Dict String String

inductive ReconciliationRaise : Type
  | valueError (message : String)
  | query (exception : QueryRaise)

/-- The server clock at the query for an anomaly, and the random digits of its turn. -/
structure Reading where
  serverNow : UtcDateTime
  queryDigits : String
  transitionDigits : String
  eventDigits : String
  correlationDigits : String

structure Reconciliation where
  tenantId : TenantId
  metricId : String
  affectedWindow : TimeWindow
  asOf : UtcDateTime
  actor : Option PrincipalContext := none
  dataset : MetricEvaluationDataset

namespace StoredAnomaly

def setFreshness (a : StoredAnomaly) (freshness : String) : StoredAnomaly :=
  { a with aggregate := { a.aggregate with dataFreshness := freshness } }

def setActualValue (a : StoredAnomaly) (value : FloatText) : StoredAnomaly :=
  { a with aggregate := { a.aggregate with actualValue := value } }

/-- The value is outside the expected interval, whose lower bound counts if it is positive. -/
def breaches (a : StoredAnomaly) (value : ℚ) : Bool :=
  decide (a.expectedInterval.2 < value) || (decide (0 < a.expectedInterval.1) && decide (value < a.expectedInterval.1))

end StoredAnomaly

/-- What the query for an anomaly comes to. -/
inductive Recomputation : Type
  | failed
  | raised (exception : ReconciliationRaise)
  | value (recalculated : ℚ)

def Recomputation.freshness : Recomputation → String
  | .failed => "DEGRADED"
  | .raised _ => "RECALCULATING"
  | .value _ => "FRESH"

namespace Reconciliation
variable (platform : Platform) (floatText : ℚ → FloatText) (args : Reconciliation)

def systemActor : PrincipalContext :=
  args.actor.getD
    { principalId := ⟨"usr_sys_reconciliation_worker",Eq.refl true⟩, tenantId := some args.tenantId, isSystem := true
      tenantScoped := .inl rfl }

def overlaps (a : StoredAnomaly) : Bool :=
  decide (max a.observationWindowStart.micros args.affectedWindow.startTime.micros ≤
    min a.observationWindowEnd.micros args.affectedWindow.endTime.micros)

def affects (a : StoredAnomaly) : Bool :=
  decide (a.aggregate.tenantId = args.tenantId) && decide (a.aggregate.metricId = args.metricId) &&
    decide (a.aggregate.state ≠ .suppressed) && args.overlaps a

def scopeFilters (scope : Dict String String) : Filters :=
  ⟨scope.entries.map (fun e => (e.1,⟨some e.2,e.2,platform.shownText e.2⟩)),by
    have same := scope.distinct
    rwa [List.map_map]⟩

/-- The request, whose constructors raise on what they refuse. -/
def queryRequest (a : StoredAnomaly) : Except ReconciliationRaise MetricQueryRequest :=
  if ordered : a.observationWindowStart ≤ a.observationWindowEnd then
    if Text.strip a.aggregate.metricId = "" then .error (.valueError "metric_id must be a non-empty string")
    else if Text.strip a.aggregate.metricVersion = "" then
      .error (.valueError "metric_version must be a non-empty string")
    else
      .ok { metricId := a.aggregate.metricId, metricVersion := a.aggregate.metricVersion
            timeWindow := ⟨a.observationWindowStart,a.observationWindowEnd,ordered⟩, grain := "AS_OF_SNAPSHOT"
            filters := scopeFilters platform a.affectedScope, asOfTime := args.asOf }
  else
    let first := a.observationWindowStart.isoformat
    let last := a.observationWindowEnd.isoformat
    .error (.valueError s!"Invalid TimeWindow: start_time ({first}) must precede or equal end_time ({last})")

def recompute (reading : Reading) (a : StoredAnomaly) : Recomputation :=
  match args.queryRequest platform a with
  | .error e => .raised e
  | .ok request =>
    match query platform request (some ⟨args.tenantId⟩) args.dataset reading.serverNow reading.queryDigits with
    | .error (.failure _) => .failed
    | .error (.raised e) => .raised (.query e)
    | .ok response => .value ((response.series.head?.map MetricSeriesPoint.actualValue).getD 0)

def supersession (reading : Reading) (a : StoredAnomaly) (recalculated : ℚ) : TransitionCall where
  targetState := .suppressed
  actor := some args.systemActor
  reason := "SUPERSEDED_BY_RECOMPUTATION"
  metadata := some [(.str "recalculated_value",.float (floatText recalculated)),
    (.str "previous_value",.float a.aggregate.actualValue),(.str "upper_bound",.float (floatText a.expectedInterval.2)),
    (.str "reconciliation_time",.str args.asOf.isoformat)]
  transitionedAt := some args.asOf
  clock := args.asOf
  transitionDigits := reading.transitionDigits
  eventDigits := reading.eventDigits
  correlationDigits := reading.correlationDigits

/-- The states from which an anomaly that is none any more is suppressed. -/
def supersedable : List AnomalyState := [.detected,.validated,.localized,.acknowledged,.reopened]

/-- The transition of an anomaly that is none any more; its result is not looked at. -/
def superseded (reading : Reading) (a : StoredAnomaly) (recalculated : ℚ) : StoredAnomaly :=
  if a.aggregate.state ∈ supersedable then
    { a with aggregate := (a.aggregate.transitionTo (args.supersession floatText reading a recalculated)).2 }
  else a

/-- The turn of one anomaly. An exception leaves the mark that it is being recalculated. -/
def turn (reading : Reading) (a : StoredAnomaly) : StoredAnomaly × Option ReconciliationRaise :=
  let marked := a.setFreshness "RECALCULATING"
  match args.recompute platform reading marked with
  | .failed => (marked.setFreshness "DEGRADED",none)
  | .raised e => (marked,some e)
  | .value recalculated =>
    if marked.breaches recalculated then ((marked.setActualValue (floatText recalculated)).setFreshness "FRESH",none)
    else ((args.superseded floatText reading marked recalculated).setFreshness "FRESH",none)

end Reconciliation

/-- The anomalies that were affected, as they are then, or an exception; and the store. `as_of` defaults to the
clock. -/
def reconcileWindow (platform : Platform) (floatText : ℚ → FloatText) (store : Dict String StoredAnomaly)
    (tenantId : TenantId) (metricId : String) (affectedWindow : TimeWindow) (asOf : Option UtcDateTime)
    (actor : Option PrincipalContext) (dataset : MetricEvaluationDataset) (clock : UtcDateTime)
    (readings : String → Reading) : Except ReconciliationRaise (List StoredAnomaly) × Dict String StoredAnomaly :=
  let args : Reconciliation :=
    { tenantId := tenantId, metricId := metricId, affectedWindow := affectedWindow, asOf := asOf.getD clock
      actor := actor, dataset := dataset }
  let (store',raised) := Sweep.pass args.affects (fun id => args.turn platform floatText (readings id)) store
  match raised with
  | some e => (.error e,store')
  | none => (.ok ((Sweep.dueKeys args.affects store).filterMap store'.get?),store')

namespace Reconciliation
variable {platform : Platform} {floatText : ℚ → FloatText} {args : Reconciliation} {reading reading' : Reading}
  {a b : StoredAnomaly}

section turns

/-- What the query and the frame of a pass read of an anomaly. -/
structure SameSubject (a b : StoredAnomaly) : Prop where
  tenantId : a.aggregate.tenantId = b.aggregate.tenantId
  metricId : a.aggregate.metricId = b.aggregate.metricId
  metricVersion : a.aggregate.metricVersion = b.aggregate.metricVersion
  first : a.observationWindowStart = b.observationWindowStart
  last : a.observationWindowEnd = b.observationWindowEnd
  interval : a.expectedInterval = b.expectedInterval
  scope : a.affectedScope = b.affectedScope

theorem recompute_congr (same : SameSubject a b) :
    args.recompute platform reading a = args.recompute platform reading b := by
  have request : args.queryRequest platform a = args.queryRequest platform b := by
    unfold queryRequest
    simp only [same.metricId,same.metricVersion,same.first,same.last,same.scope]
  rw [recompute,recompute,request]

theorem transitionTo_fixed (a : AnomalyAggregate) (call : TransitionCall) :
    (a.transitionTo call).2.tenantId = a.tenantId ∧ (a.transitionTo call).2.metricId = a.metricId ∧
    (a.transitionTo call).2.metricVersion = a.metricVersion ∧ (a.transitionTo call).2.actualValue = a.actualValue ∧
    (a.transitionTo call).2.dataFreshness = a.dataFreshness := by
  unfold AnomalyAggregate.transitionTo
  cases a.transitionError call.targetState call.actor with
  | error error => exact ⟨rfl,rfl,rfl,rfl,rfl⟩
  | ok actor => exact ⟨rfl,rfl,rfl,rfl,rfl⟩

/-- The reconciliation may suppress the anomaly. -/
def Supersedes (args : Reconciliation) (a : StoredAnomaly) : Prop :=
  a.aggregate.state ∈ supersedable ∧ Admitted a.aggregate (some args.systemActor)

theorem suppressed_legal {state : AnomalyState} (active : state ∈ supersedable) :
    AnomalyState.suppressed ∈ state.legalTransitions := by
  cases state <;> simp_all [supersedable,AnomalyState.legalTransitions]

theorem superseded_cases (floatText : ℚ → FloatText) (args : Reconciliation) (reading : Reading) (a : StoredAnomaly)
    (recalculated : ℚ) :
    (Supersedes args a ∧ (args.superseded floatText reading a recalculated).aggregate.state = .suppressed ∧
      (args.superseded floatText reading a recalculated).aggregate.transitions.length =
        a.aggregate.transitions.length + 1) ∨
    (¬ Supersedes args a ∧ args.superseded floatText reading a recalculated = a) := by
  unfold superseded
  by_cases active : a.aggregate.state ∈ supersedable
  · rw [if_pos active]
    rcases transitionTo_end a.aggregate (args.supersession floatText reading a recalculated) with
      ⟨same,refused⟩ | ⟨admitted,_,state,_⟩
    · refine .inr ⟨?_,by rw [same]⟩
      rintro ⟨_,admitted⟩
      exact refused ⟨admitted,suppressed_legal active⟩
    · refine .inl ⟨⟨active,admitted⟩,state,?_⟩
      rcases transitionTo_cases a.aggregate (args.supersession floatText reading a recalculated) with
        ⟨error,failed⟩ | ⟨_,_,a',done,_,_,_,_,_,records,_⟩
      · rw [failed] at state
        have current : a.aggregate.state = .suppressed := state
        rw [current] at active
        exact absurd active (by decide)
      · rw [done]
        simp [records]
  · rw [if_neg active]
    exact .inr ⟨fun both => active both.1,rfl⟩

theorem superseded_subject (floatText : ℚ → FloatText) (args : Reconciliation) (reading : Reading) (a : StoredAnomaly)
    (recalculated : ℚ) : SameSubject (args.superseded floatText reading a recalculated) a ∧
    (args.superseded floatText reading a recalculated).aggregate.actualValue = a.aggregate.actualValue := by
  unfold superseded
  split
  · obtain ⟨tenant,metric,version,value,_⟩ :=
      transitionTo_fixed a.aggregate (args.supersession floatText reading a recalculated)
    exact ⟨⟨tenant,metric,version,rfl,rfl,rfl,rfl⟩,value⟩
  · exact ⟨⟨rfl,rfl,rfl,rfl,rfl,rfl,rfl⟩,rfl⟩

/-- The clock decides of a request no more than whether it is refused. -/
theorem validate_clock (request : MetricQueryRequest) (context : Option TenantContext) (now now' : UtcDateTime) :
    validate request context now' = validate request context now ∨
    (∃ error, validate request context now' = .error error) ∨ ∃ error, validate request context now = .error error := by
  unfold validate
  cases requireTenant request context with
  | error e => exact .inl rfl
  | ok tenant =>
    cases checkWatermark request now with
    | error e => exact .inr (.inr ⟨e,rfl⟩)
    | ok _ =>
      cases checkWatermark request now' with
      | error e => exact .inr (.inl ⟨e,rfl⟩)
      | ok _ => exact .inl rfl

theorem recompute_clock (platform : Platform) (args : Reconciliation) (reading reading' : Reading) (a : StoredAnomaly) :
    args.recompute platform reading' a = args.recompute platform reading a ∨
    args.recompute platform reading' a = .failed ∨ args.recompute platform reading a = .failed := by
  unfold recompute
  cases args.queryRequest platform a with
  | error e => exact .inl rfl
  | ok request =>
    simp only [query]
    rcases validate_clock request (some ⟨args.tenantId⟩) reading.serverNow reading'.serverNow with
      same | ⟨error,refused⟩ | ⟨error,refused⟩
    · left
      rw [same]
      cases validate request (some ⟨args.tenantId⟩) reading.serverNow with
      | error e => rfl
      | ok accepted =>
        obtain ⟨tenant,definition⟩ := accepted
        simp only [Except.mapError,bind,Except.bind]
        cases evaluateSeries platform tenant definition request args.dataset <;> rfl
    · rw [refused]
      exact .inr (.inl rfl)
    · rw [refused]
      exact .inr (.inr rfl)

theorem turn_failed (failed : args.recompute platform reading a = .failed) :
    args.turn platform floatText reading a = (a.setFreshness "DEGRADED",none) := by
  have same : args.recompute platform reading (a.setFreshness "RECALCULATING") = .failed := failed
  simp only [turn,same]
  rfl

theorem turn_raised {e : ReconciliationRaise} (raised : args.recompute platform reading a = .raised e) :
    args.turn platform floatText reading a = (a.setFreshness "RECALCULATING",some e) := by
  have same : args.recompute platform reading (a.setFreshness "RECALCULATING") = .raised e := raised
  simp only [turn,same]

theorem turn_breach {v : ℚ} (value : args.recompute platform reading a = .value v) (breach : a.breaches v = true) :
    args.turn platform floatText reading a = ((a.setActualValue (floatText v)).setFreshness "FRESH",none) := by
  have same : args.recompute platform reading (a.setFreshness "RECALCULATING") = .value v := value
  have outside : (a.setFreshness "RECALCULATING").breaches v = true := breach
  simp only [turn,same,outside,if_true]
  rfl

theorem turn_normal {v : ℚ} (value : args.recompute platform reading a = .value v) (normal : a.breaches v = false) :
    args.turn platform floatText reading a =
      ((args.superseded floatText reading (a.setFreshness "RECALCULATING") v).setFreshness "FRESH",none) := by
  have same : args.recompute platform reading (a.setFreshness "RECALCULATING") = .value v := value
  have inside : (a.setFreshness "RECALCULATING").breaches v = false := normal
  simp only [turn,same,inside]
  rfl

theorem turn_subject : SameSubject (args.turn platform floatText reading a).1 a := by
  cases result : args.recompute platform reading a with
  | failed =>
    rw [turn_failed result]
    exact ⟨rfl,rfl,rfl,rfl,rfl,rfl,rfl⟩
  | raised e =>
    rw [turn_raised result]
    exact ⟨rfl,rfl,rfl,rfl,rfl,rfl,rfl⟩
  | value v =>
    cases breach : a.breaches v with
    | true =>
      rw [turn_breach result breach]
      exact ⟨rfl,rfl,rfl,rfl,rfl,rfl,rfl⟩
    | false =>
      rw [turn_normal result breach]
      obtain ⟨tenant,metric,version,first,last,interval,scope⟩ := (superseded_subject floatText args
        reading (a.setFreshness "RECALCULATING") v).1
      exact ⟨tenant,metric,version,first,last,interval,scope⟩

theorem turn_freshness : (args.turn platform floatText reading a).1.aggregate.dataFreshness =
    (args.recompute platform reading a).freshness := by
  cases result : args.recompute platform reading a with
  | failed => rw [turn_failed result]; rfl
  | raised e => rw [turn_raised result]; rfl
  | value v =>
    cases breach : a.breaches v with
    | true => rw [turn_breach result breach]; rfl
    | false => rw [turn_normal result breach]; rfl

theorem turn_raises : (args.turn platform floatText reading a).2.isSome = true ↔
    (args.recompute platform reading a).freshness = "RECALCULATING" := by
  cases result : args.recompute platform reading a with
  | failed => simp [turn_failed result,Recomputation.freshness]
  | raised e => simp [turn_raised result,Recomputation.freshness]
  | value v =>
    cases breach : a.breaches v with
    | true => simp [turn_breach result breach,Recomputation.freshness]
    | false => simp [turn_normal result breach,Recomputation.freshness]

theorem supersedes_marked (freshness : String) : Supersedes args (a.setFreshness freshness) ↔ Supersedes args a := Iff.rfl

/-- The first query finds the anomaly to be none any more, and it may be suppressed. -/
def Withdrawn (platform : Platform) (args : Reconciliation) (reading : Reading) (a : StoredAnomaly) : Prop :=
  ∃ v, args.recompute platform reading a = .value v ∧ a.breaches v = false ∧ Supersedes args a

theorem affects_subject (same : SameSubject b a) : args.affects b = true ↔
    b.aggregate.state ≠ .suppressed ∧ a.aggregate.tenantId = args.tenantId ∧ a.aggregate.metricId = args.metricId ∧
      args.overlaps a = true := by
  have window : args.overlaps b = args.overlaps a := by rw [overlaps,overlaps,same.first,same.last]
  simp only [affects,Bool.and_eq_true,decide_eq_true_eq,window,same.tenantId,same.metricId]
  tauto

/-- An affected anomaly is affected again unless it was withdrawn. -/
theorem affects_turn (affected : args.affects a = true) :
    args.affects (args.turn platform floatText reading a).1 = true ↔ ¬ Withdrawn platform args reading a := by
  have itself : SameSubject a a := ⟨rfl,rfl,rfl,rfl,rfl,rfl,rfl⟩
  have own := (affects_subject itself).mp affected
  rw [affects_subject turn_subject,and_iff_left own.2]
  unfold Withdrawn
  cases result : args.recompute platform reading a with
  | failed =>
    rw [turn_failed result]
    exact iff_of_true own.1 (by simp)
  | raised e =>
    rw [turn_raised result]
    exact iff_of_true own.1 (by simp)
  | value v =>
    cases breach : a.breaches v with
    | true =>
      rw [turn_breach result breach]
      refine iff_of_true own.1 ?_
      rintro ⟨w,same,normal,_⟩
      cases same
      rw [breach] at normal
      cases normal
    | false =>
      rw [turn_normal result breach]
      rcases superseded_cases floatText args reading (a.setFreshness "RECALCULATING") v with
        ⟨may,suppressed,_⟩ | ⟨not,same⟩
      · exact iff_of_false (fun other => other suppressed) (not_not.mpr ⟨v,rfl,breach,may⟩)
      · rw [same]
        refine iff_of_true own.1 ?_
        rintro ⟨_,_,_,may⟩
        exact not may

/-- A second turn changes nothing of an anomaly that was not withdrawn exactly if its query ends as the first did. -/
theorem second_turn_iff (kept : ¬ Withdrawn platform args reading a) :
    (args.turn platform floatText reading' (args.turn platform floatText reading a).1).1 =
        (args.turn platform floatText reading a).1 ↔
      (args.recompute platform reading a).freshness = (args.recompute platform reading' a).freshness := by
  have again : args.recompute platform reading' (args.turn platform floatText reading a).1 =
      args.recompute platform reading' a := recompute_congr turn_subject
  constructor
  · intro same
    have fresh := congrArg (fun b => b.aggregate.dataFreshness) same
    simp only [turn_freshness,again] at fresh
    exact fresh.symm
  · intro alike
    have same : args.recompute platform reading' a = args.recompute platform reading a := by
      rcases recompute_clock platform args reading reading' a with same | failed | failed
      · exact same
      · rw [failed] at alike ⊢
        cases result : args.recompute platform reading a <;> simp [result,Recomputation.freshness] at alike ⊢
      · rw [failed] at alike ⊢
        cases result : args.recompute platform reading' a <;> simp [result,Recomputation.freshness] at alike ⊢
    rw [same] at again
    cases result : args.recompute platform reading a with
    | failed =>
      rw [result] at again
      rw [turn_failed again,turn_failed result]
      rfl
    | raised e =>
      rw [result] at again
      rw [turn_raised again,turn_raised result]
      rfl
    | value v =>
      rw [result] at again
      cases breach : a.breaches v with
      | true =>
        rw [turn_breach result breach] at again ⊢
        have breach' : ((a.setActualValue (floatText v)).setFreshness "FRESH").breaches v = true := breach
        rw [turn_breach again breach']
        rfl
      | false =>
        have not : ¬ Supersedes args a := fun may => kept ⟨v,result,breach,may⟩
        have unchanged (reading : Reading) (b : StoredAnomaly) (not : ¬ Supersedes args b) :
            args.superseded floatText reading b v = b :=
          ((superseded_cases floatText args reading b v).resolve_left fun may => not may.1).2
        rw [turn_normal result breach,unchanged reading _ (mt (supersedes_marked _).mp not)] at again ⊢
        have normal : ((a.setFreshness "RECALCULATING").setFreshness "FRESH").breaches v = false := breach
        have still := unchanged reading' (((a.setFreshness "RECALCULATING").setFreshness "FRESH").setFreshness
          "RECALCULATING") not
        rw [turn_normal again normal]
        dsimp only
        rw [still]
        rfl

/-- What is over keeps its record, and no value changes without a transition. -/
def KeepsRecord (a b : StoredAnomaly) : Prop :=
  (a.aggregate.state = .resolved ∨ a.aggregate.state = .suppressed → b = a.setFreshness b.aggregate.dataFreshness) ∧
  (b.aggregate.actualValue ≠ a.aggregate.actualValue →
    a.aggregate.transitions.length < b.aggregate.transitions.length)

/-- A value that is still out of bounds is the one recorded. -/
def RecordedValue (platform : Platform) (floatText : ℚ → FloatText) (args : Reconciliation) (reading : Reading)
    (a : StoredAnomaly) : Prop :=
  ∀ v, args.recompute platform reading a = .value v → a.breaches v = true → floatText v = a.aggregate.actualValue

theorem keepsRecord_turn_iff : KeepsRecord a (args.turn platform floatText reading a).1 ↔
    RecordedValue platform floatText args reading a := by
  unfold RecordedValue
  cases result : args.recompute platform reading a with
  | failed =>
    rw [turn_failed result]
    exact iff_of_true ⟨fun _ => rfl,fun differ => absurd rfl differ⟩ (by simp)
  | raised e =>
    rw [turn_raised result]
    exact iff_of_true ⟨fun _ => rfl,fun differ => absurd rfl differ⟩ (by simp)
  | value v =>
    cases breach : a.breaches v with
    | true =>
      rw [turn_breach result breach]
      constructor
      · rintro ⟨_,recorded⟩ w same _
        cases same
        by_contra differ
        exact lt_irrefl _ (recorded differ)
      · intro recorded
        have same := recorded v rfl breach
        refine ⟨fun _ => ?_,fun differ => absurd same differ⟩
        rw [same]
        rfl
    | false =>
      rw [turn_normal result breach]
      refine iff_of_true ?_ ?_
      · have value := (superseded_subject floatText args reading (a.setFreshness "RECALCULATING") v).2
        rcases superseded_cases floatText args reading (a.setFreshness "RECALCULATING") v with ⟨may,_⟩ | ⟨_,same⟩
        · refine ⟨fun ended => ?_,fun differ => absurd value differ⟩
          have active : a.aggregate.state ∈ supersedable := may.1
          rcases ended with resolved | suppressed
          · exact absurd (resolved ▸ active) (by decide)
          · exact absurd (suppressed ▸ active) (by decide)
        · rw [same]
          exact ⟨fun _ => rfl,fun differ => absurd rfl differ⟩
      · intro w same breach'
        cases same
        rw [breach] at breach'
        cases breach'

end turns

section windows
variable (platform floatText args) (readings readings' : String → Reading) (store : Dict String StoredAnomaly)

def after : Dict String StoredAnomaly :=
  (Sweep.pass args.affects (fun id => args.turn platform floatText (readings id)) store).1

/-- The affected anomalies up to the first whose query raises. -/
def reached : List String :=
  upTo (fun id => (store.get? id).any (fun a => (args.recompute platform (readings id) a).freshness = "RECALCULATING"))
    (Sweep.dueKeys args.affects store)

/-- Only the anomalies of the tenant and the metric whose windows meet the affected one may change. -/
def Framed (args : Reconciliation) (store store' : Dict String StoredAnomaly) : Prop :=
  store'.keys = store.keys ∧ ∀ id a, store.get? id = some a →
    ¬ (a.aggregate.tenantId = args.tenantId ∧ a.aggregate.metricId = args.metricId ∧ args.overlaps a = true) →
    store'.get? id = some a

theorem framed : Framed args store (after platform floatText args readings store) := by
  refine ⟨Sweep.keys_turns store _,?_⟩
  intro id a stored outside
  refine Sweep.get?_pass_of_not_due stored ?_
  rw [← Bool.not_eq_true,affects_subject (a := a) ⟨rfl,rfl,rfl,rfl,rfl,rfl,rfl⟩]
  exact fun inside => outside inside.2

theorem reached_eq : Sweep.reached args.affects (fun id => args.turn platform floatText (readings id)) store =
    args.reached platform readings store := by
  refine upTo_congr _ ?_
  intro id _
  cases found : store.get? id with
  | none => simp [Sweep.raises,found]
  | some a =>
    simp only [Sweep.raises,found,Option.any_some]
    rw [Bool.eq_iff_iff,turn_raises,decide_eq_true_eq]

/-- The records are kept exactly if every value that is still out of bounds is the recorded one. -/
theorem keepsRecords_iff : (∀ id a b, store.get? id = some a →
      (after platform floatText args readings store).get? id = some b → KeepsRecord a b) ↔
    ∀ id ∈ args.reached platform readings store, ∀ a, store.get? id = some a →
      RecordedValue platform floatText args (readings id) a := by
  have made := Sweep.get?_pass args.affects (fun id => args.turn platform floatText (readings id)) store
  simp only [reached_eq] at made
  constructor
  · intro kept id counted a stored
    refine keepsRecord_turn_iff.mp (kept id a _ stored ?_)
    rw [after,made,if_pos counted,stored]
    rfl
  · intro recorded id a b stored found
    rw [after,made,stored] at found
    split at found
    next counted =>
      cases found
      exact keepsRecord_turn_iff.mpr (recorded id counted a stored)
    next =>
      cases found
      exact ⟨fun _ => rfl,fun differ => absurd rfl differ⟩

/-- A second call changes nothing exactly if the query for every anomaly that was not withdrawn ends as the first did. -/
theorem after_after_iff : after platform floatText args readings' (after platform floatText args readings store) =
      after platform floatText args readings store ↔
    ∀ id ∈ args.reached platform readings store, ∀ a, store.get? id = some a →
      ¬ Withdrawn platform args (readings id) a →
        (args.recompute platform (readings id) a).freshness = (args.recompute platform (readings' id) a).freshness := by
  have faithful (id : String) (a : StoredAnomaly)
      (_ : args.affects (args.turn platform floatText (readings id) a).1 = true)
      (same : (args.turn platform floatText (readings' id) (args.turn platform floatText (readings id) a).1).1 =
        (args.turn platform floatText (readings id) a).1) :
      (args.turn platform floatText (readings' id) (args.turn platform floatText (readings id) a).1).2.isSome =
        (args.turn platform floatText (readings id) a).2.isSome := by
    have fresh := congrArg (fun b => b.aggregate.dataFreshness) same
    simp only [turn_freshness] at fresh
    rw [Bool.eq_iff_iff,turn_raises,turn_raises,fresh]
  have again (id : String) (a : StoredAnomaly) (affected : args.affects a = true)
      (raised : (args.turn platform floatText (readings id) a).2.isSome = true) :
      args.affects (args.turn platform floatText (readings id) a).1 = true := by
    rw [affects_turn affected]
    rintro ⟨v,value,_⟩
    rw [turn_raises,value] at raised
    exact absurd raised (by simp [Recomputation.freshness])
  have second := Sweep.second_pass_iff args.affects (fun id => args.turn platform floatText (readings id))
    (fun id => args.turn platform floatText (readings' id)) faithful again store
  rw [after,after,second,reached_eq]
  refine forall_congr' fun id => forall_congr' fun counted => forall_congr' fun a => forall_congr' fun stored => ?_
  obtain ⟨b,found,affected⟩ := Sweep.mem_dueKeys.mp (upTo_subset _ counted)
  rw [stored] at found
  cases found
  rw [affects_turn affected]
  refine forall_congr' fun kept => ?_
  exact second_turn_iff kept

end windows
end Reconciliation

theorem reconcileWindow_store (platform : Platform) (floatText : ℚ → FloatText) (store : Dict String StoredAnomaly)
    (tenantId : TenantId) (metricId : String) (affectedWindow : TimeWindow) (asOf : UtcDateTime)
    (actor : Option PrincipalContext) (dataset : MetricEvaluationDataset) (clock : UtcDateTime)
    (readings : String → Reading) :
    (reconcileWindow platform floatText store tenantId metricId affectedWindow (some asOf) actor dataset clock readings).2 =
      Reconciliation.after platform floatText ⟨tenantId,metricId,affectedWindow,asOf,actor,dataset⟩ readings store := by
  simp only [reconcileWindow,Option.getD_some]
  split <;> rfl

/-- A call changes nothing out of its frame. It keeps the records, and a second call changes nothing further, exactly
if the value of every anomaly that is still one is the recorded value and the second query for every anomaly that was not
withdrawn ends as the first did. -/
theorem reconcileWindow_keeps_iff (platform : Platform) (floatText : ℚ → FloatText) (store : Dict String StoredAnomaly)
    (tenantId : TenantId) (metricId : String) (affectedWindow : TimeWindow) (asOf : UtcDateTime)
    (actor : Option PrincipalContext) (dataset : MetricEvaluationDataset) (clock clock' : UtcDateTime)
    (readings readings' : String → Reading) :
    let args : Reconciliation := ⟨tenantId,metricId,affectedWindow,asOf,actor,dataset⟩
    let call (store : Dict String StoredAnomaly) (clock : UtcDateTime) (readings : String → Reading) :=
      (reconcileWindow platform floatText store tenantId metricId affectedWindow (some asOf) actor dataset clock readings).2
    let first := call store clock readings
    (args.Framed store first ∧ call first clock' readings' = first ∧
        ∀ id a b, store.get? id = some a → first.get? id = some b → Reconciliation.KeepsRecord a b) ↔
      ∀ id ∈ args.reached platform readings store, ∀ a, store.get? id = some a →
        args.RecordedValue platform floatText (readings id) a ∧
        (¬ args.Withdrawn platform (readings id) a →
          (args.recompute platform (readings id) a).freshness = (args.recompute platform (readings' id) a).freshness) := by
  intro args call first
  have stored : first = Reconciliation.after platform floatText args readings store := reconcileWindow_store ..
  have again : call first clock' readings' = Reconciliation.after platform floatText args readings' first :=
    reconcileWindow_store ..
  rw [again,stored,Reconciliation.after_after_iff,Reconciliation.keepsRecords_iff,
    and_iff_right (Reconciliation.framed platform floatText args readings store)]
  constructor
  · exact fun both id counted a found => ⟨both.2 id counted a found,both.1 id counted a found⟩
  · exact fun each => ⟨fun id counted a found => (each id counted a found).2,
      fun id counted a found => (each id counted a found).1⟩

section samples

/-- An anomaly that was taken through its lifecycle to its resolution. -/
def resolvedAnomaly : StoredAnomaly where
  aggregate := Runs.run (fun (a : AnomalyAggregate) call => (a.transitionTo call).2)
    (.createDetected (sampleDetection "a")) ([.validated,.localized,.acknowledged,.resolved].map sampleTransition)
  observationWindowStart := ⟨0⟩
  observationWindowEnd := ⟨1⟩
  expectedInterval := (1 / 2,3 / 2)
  affectedScope := .empty

/-- What a call with one late order makes of it: its value is another one, without a transition. -/
theorem resolved_overwritten :
    let store : Dict String StoredAnomaly := Dict.empty.set "a" resolvedAnomaly
    let zero : FloatText := ⟨['0','.','0'],Eq.refl true⟩
    let reading : Reading := ⟨⟨5⟩,"0d","0e","0f","10"⟩
    let call := reconcileWindow samplePlatform (fun _ => zero) store acmeTenant "METRIC-001" ⟨⟨0⟩,⟨1⟩,by decide⟩ (some ⟨5⟩)
      none { orders := [sampleOrder acmeTenant "ord-1" 0] } ⟨5⟩ (fun _ => reading)
    let recorded (a : StoredAnomaly) := (a.aggregate.state,a.aggregate.actualValue.text,a.aggregate.transitions.length)
    (store.get? "a").map recorded = some (.resolved,['2','.','0'],5) ∧
      (call.2.get? "a").map recorded = some (.resolved,['0','.','0'],5) := by
  decide +kernel

end samples
end RevPilot.Analytics
