import RevPilot.Analytics.Capabilities
import RevPilot.Library.Queries

/-! The queries of the registered SQL capabilities and what their executor returns: which rows they
read, what their groups add up to, and how many of them a caller sees. -/
namespace RevPilot.Analytics
open Library Shared Queries

/-- `max_rows` of the catalog. -/
def SqlCapabilityDefinition.maxRows (capability : SqlCapabilityDefinition) : Nat :=
  match capability.capabilityId with
  | "CAP-SQL-METRIC-TIMESERIES" => 500
  | "CAP-SQL-SEGMENT-COMPARE" | "CAP-SQL-MAINTENANCE-WINDOW" | "CAP-SQL-CONTRACT-SLA" => 50
  | _ => 100

section templates

def compareParam (c : Comparison) (label name param : String) : Cond := .compare c (.column label name) (.param param)

def compareColumns (label name label' name' : String) : Cond := .compare .eq (.column label name) (.column label' name')

/-- `tenant_id = :tenant_id` and the window of `event_time`, none of it after `:as_of_time`. -/
def window (label : String) : List Cond :=
  [compareParam .eq label "tenant_id" "tenant_id",compareParam .ge label "event_time" "start_time",
    compareParam .lt label "event_time" "end_time",compareParam .le label "event_time" "as_of_time"]

def cancelled : Cond := .compare .eq (.column "o" "order_status") (.literal (.text "CANCELLED"))

/-- The columns that count orders and their revenue. -/
def orderAggregates : List (String × Aggregate) :=
  [("total_orders",.count (.column "o" "id")),("cancelled_orders",.sumWhen cancelled),
    ("cancellation_rate",.round 4 (.quotient (.sumWhen cancelled) (.nullIfZero (.count (.column "o" "id"))))),
    ("total_revenue",.quotient (.sum (.column "o" "total_cents")) (.literal 100))]

def joinCustomers (outer : Bool) : Join where
  outer := outer
  table := "canonical_customers"
  label := "c"
  on := [compareColumns "o" "tenant_id" "c" "tenant_id",compareColumns "o" "customer_id" "c" "id"]

def joinByOrder (table label : String) : Join where
  outer := true
  table := table
  label := label
  on := [compareColumns "o" "tenant_id" label "tenant_id",compareColumns "o" "id" label "order_id"]

def orUnknown (label name : String) : Expr := .coalesce (.column label name) (.literal (.text "UNKNOWN"))

/-- `dim_expr` and `join_clause`. -/
def dimensionOf (dimension : String) : Expr × List Join :=
  if dimension = "order_status" then (.column "o" "order_status",[])
  else if dimension = "region" ∨ dimension = "tier" then (orUnknown "c" dimension,[joinCustomers true])
  else if dimension = "carrier_code" then (orUnknown "s" "carrier_code",[joinByOrder "canonical_shipments" "s"])
  else if dimension = "warehouse_id" then (orUnknown "s" "origin_warehouse",[joinByOrder "canonical_shipments" "s"])
  else if dimension = "payment_method" then
    (orUnknown "p" "gateway_provider",[joinByOrder "canonical_payment_references" "p"])
  else (.column "o" dimension,[])

def drilldown (dimension : String) : Select where
  table := "canonical_orders"
  label := "o"
  joins := (dimensionOf dimension).2
  wheres := window "o"
  columns := .grouped [("dimension_value",(dimensionOf dimension).1)] orderAggregates
  orderBy := "total_orders"
  descending := true

/-- `time_expr`. -/
def timeExpr (sqlite : Bool) (interval : String) : Expr :=
  if sqlite then .call (if interval = "hour" then "substr 1 13" else "substr 1 10") (.column "o" "event_time")
  else .call (if interval = "hour" then "to_char YYYY-MM-DD HH24:00:00" else "to_char YYYY-MM-DD") (.column "o" "event_time")

def metricTimeseries (sqlite : Bool) (interval : String) : Select where
  table := "canonical_orders"
  label := "o"
  wheres := window "o"
  columns := .grouped [("time_bucket",timeExpr sqlite interval)] orderAggregates
  orderBy := "time_bucket"

def segmentCompare : Select where
  table := "canonical_orders"
  label := "o"
  joins := [joinCustomers false]
  wheres := window "o" ++ [.among (.column "c" "segment") [.param "segment_a",.param "segment_b"]]
  columns := .grouped [("segment",.column "c" "segment")] orderAggregates
  orderBy := "total_orders"
  descending := true

/-- The hours between two times of a row. -/
def hoursBetween (sqlite : Bool) (label later earlier : String) : Expr :=
  let seconds :=
    if sqlite then
      Expr.arithmetic "-" (.call "strftime %s" (.column label later)) (.call "strftime %s" (.column label earlier))
    else .call "EXTRACT EPOCH" (.arithmetic "-" (.column label later) (.column label earlier))
  .arithmetic "/" seconds (.literal (.number 3600))

def shipmentDelay (sqlite : Bool) : Select where
  table := "canonical_shipments"
  label := "s"
  wheres := window "s"
  columns := .grouped [("carrier_code",.column "s" "carrier_code"),("origin_warehouse",.column "s" "origin_warehouse")]
    [("total_shipments",.count (.column "s" "id")),
      ("delayed_count",.sumWhen (.compare .gt (.column "s" "actual_delivered_at") (.column "s" "estimated_delivery_at"))),
      ("avg_delay_hours",.round 2 (.average (hoursBetween sqlite "s" "actual_delivered_at" "estimated_delivery_at")))]
  orderBy := "delayed_count"
  descending := true

def ticketVolume (sqlite : Bool) : Select where
  table := "canonical_tickets"
  label := "t"
  wheres := window "t"
  columns := .grouped [("category",.column "t" "category"),("priority",.column "t" "priority")]
    [("ticket_count",.count (.column "t" "id")),
      ("avg_response_hours",.round 2 (.average (hoursBetween sqlite "t" "first_response_at" "event_time")))]
  orderBy := "ticket_count"
  descending := true

def columnsOf (label : String) (names : List String) : List (String × Expr) := names.map fun name => (name,.column label name)

def maintenanceWindow : Select where
  table := "canonical_maintenance_events"
  label := "m"
  wheres := [compareParam .eq "m" "tenant_id" "tenant_id",compareParam .lt "m" "scheduled_start" "end_time",
    compareParam .gt "m" "scheduled_end" "start_time",compareParam .le "m" "scheduled_start" "as_of_time"]
  columns := .each (columnsOf "m" ["system_component","event_type","scheduled_start","scheduled_end","status"])
  orderBy := "scheduled_start"

def contractSla : Select where
  table := "canonical_contracts"
  label := "c"
  joins := [{ table := "canonical_contract_clauses", label := "cl"
              on := [compareColumns "c" "tenant_id" "cl" "tenant_id",compareColumns "c" "id" "cl" "contract_id"] }]
  wheres := [compareParam .eq "c" "tenant_id" "tenant_id",compareParam .eq "c" "customer_id" "customer_id",
    compareParam .le "c" "effective_from" "as_of_time",
    .either (.isNull (.column "c" "effective_to")) (compareParam .ge "c" "effective_to" "as_of_time")]
  columns := .each (("contract_id",.column "c" "id") :: columnsOf "c" ["customer_id","title","contract_type"] ++
    columnsOf "cl" ["clause_number","clause_type","sla_threshold_hours","penalty_per_hour_cents"])
  orderBy := "clause_number"

end templates

/-- What a connection and its driver bring: the engine, the dialect, the value of a parameter that is no
text, and `int` on a parameter, with the message where it raises. -/
structure SqlSession where
  engine : Engine
  sqlite : Bool
  bindOther : ParamValue → Value
  toInt : ParamValue → Except String Int

def SqlSession.bind (session : SqlSession) (v : ParamValue) : Value :=
  match v.chars with
  | some s => .text s
  | none => session.bindOther v

/-- A query with its parameters and the bound of its `LIMIT`. -/
structure Statement where
  select : Select
  boundParams : Dict String ParamValue
  maxRows : Int

def textParam (s : String) : ParamValue := .other (some s) s none

section building
variable (session : SqlSession) (capability : SqlCapabilityDefinition) (params : Dict String ParamValue)

/-- A parameter by the text it equals. -/
def textOf (name default : String) : Option String :=
  match params.get? name with
  | some v => v.chars
  | none => some default

/-- The text of a parameter that is one of the allowed dimensions. -/
def allowedText (name default : String) : Option String :=
  (textOf params name default).filter capability.allowedDimensions.contains

def withSegments : Dict String ParamValue :=
  (params.set "segment_a" ((params.get? "segment_a").getD (textParam "ENTERPRISE"))).set "segment_b"
    ((params.get? "segment_b").getD (textParam "SMB"))

def rowLimit : Except String Int :=
  match params.get? "limit" with
  | some v => (session.toInt v).map fun limit => min limit capability.maxRows
  | none => .ok capability.maxRows

def buildSqlForCapability : Except String Statement := do
  let maxRows ← rowLimit session capability params
  match capability.capabilityId with
  | "CAP-SQL-DRILLDOWN-DIM" =>
    match allowedText capability params "dimension" "order_status" with
    | none =>
      let dimension := ((params.get? "dimension").map ParamValue.str).getD "order_status"
      let id := capability.capabilityId
      .error s!"Dimension '{dimension}' not in allowed dimensions for {id}"
    | some dimension => return ⟨drilldown dimension,params,maxRows⟩
  | "CAP-SQL-METRIC-TIMESERIES" =>
    return ⟨metricTimeseries session.sqlite ((allowedText capability params "interval" "day").getD "day"),params,maxRows⟩
  | "CAP-SQL-SEGMENT-COMPARE" => return ⟨segmentCompare,withSegments params,maxRows⟩
  | "CAP-SQL-SHIPMENT-DELAY" => return ⟨shipmentDelay session.sqlite,params,maxRows⟩
  | "CAP-SQL-TICKET-VOLUME" => return ⟨ticketVolume session.sqlite,params,maxRows⟩
  | "CAP-SQL-MAINTENANCE-WINDOW" => return ⟨maintenanceWindow,params,maxRows⟩
  | "CAP-SQL-CONTRACT-SLA" => return ⟨contractSla,params,maxRows⟩
  | id => .error s!"Unregistered capability template: {id}"

end building

/-- What the database answers: records, an `asyncio.TimeoutError`, or another exception. -/
inductive Reply : Type
  | rows (records : List Record)
  | timedOut
  | raised (message : String)

structure CapabilityResult where
  capabilityId : String
  rows : List Record
  rowCount : Nat
  queryDigest : String
  costUsd : Decimal
  isTruncated : Bool
  status : String := "SUCCESS"

section executor
variable (session : SqlSession) (statement : Statement)

def SqlSession.value (name : String) : Value := ((statement.boundParams.get? name).map session.bind).getD .null

/-- Records are an answer of the query, all of whose parameters are bound; the database may always fail. -/
def SqlSession.Replies (tables : Tables) : Reply → Prop
  | .rows records =>
    (∀ name ∈ statement.select.params, (statement.boundParams.get? name).isSome = true) ∧
      statement.select.Answers session.engine (session.value statement) tables statement.maxRows records
  | _ => True

end executor

namespace SqlCapabilityExecutor
variable (rt : SqlRuntime) (session : SqlSession) (digest : Statement → String) (request : CapabilityRequest)

def normalized (name : String) (params : Dict String ParamValue) : Dict String ParamValue :=
  match params.get? name with
  | some v => params.set name (textParam (normalizeUtcString v))
  | none => params

/-- `exec_params`. -/
def execParams (context : TenantContext) : Dict String ParamValue :=
  let params := request.parameters.set "tenant_id" (textParam context.tenantId.value)
  let params := params.set "as_of_time" (textParam (normalizeUtcString request.asOfTime))
  normalized "end_time" (normalized "start_time" params)

def buildFailure (message : String) : CapabilityError where
  code :=
    if Text.contains (rt.casing.lower message) "dimension" then "ERR_DISALLOWED_DIMENSION" else "ERR_PROHIBITED_SQL_OPERATION"
  message := message

/-- The checks and the query, before the database is asked. -/
def prepare : Except CapabilityFailure (SqlCapabilityDefinition × Statement) := do
  let capability ← validateRequest rt request
  let context ← (requireTenant request).mapError .failure
  let statement ← (buildSqlForCapability session capability (execParams request context)).mapError (.failure ∘ buildFailure rt)
  return (capability,statement)

def timeoutMs (capability : SqlCapabilityDefinition) : Nat :=
  match capability.capabilityId with
  | "CAP-SQL-SEGMENT-COMPARE" | "CAP-SQL-MAINTENANCE-WINDOW" | "CAP-SQL-CONTRACT-SLA" => 3000
  | _ => 5000

def finish (capability : SqlCapabilityDefinition) (statement : Statement) : Reply → Except CapabilityFailure CapabilityResult
  | .rows records =>
    let rows := records.take capability.maxRows
    .ok { capabilityId := capability.capabilityId, rows := rows, rowCount := rows.length, queryDigest := digest statement
          costUsd := capability.costEstimateUsd, isTruncated := capability.maxRows < records.length }
  | .timedOut =>
    let id := capability.capabilityId
    let limit := timeoutMs capability
    .error (.failure { code := "ERR_QUERY_TIMEOUT", message := s!"Capability '{id}' exceeded timeout limit of {limit} ms"
                       httpStatus := 504 })
  | .raised message =>
    if Text.contains (rt.casing.lower message) "timeout" || Text.contains (rt.casing.lower message) "canceling statement" then
      .error (.failure { code := "ERR_QUERY_TIMEOUT", message := s!"Statement timeout exceeded: {message}", httpStatus := 504 })
    else
      .error (.failure { code := "ERR_PROHIBITED_SQL_OPERATION", message := s!"Database execution error: {message}"
                         httpStatus := 403 })

/-- What `execute` may return over these tables. -/
def Executes (tables : Tables) (result : Except CapabilityFailure CapabilityResult) : Prop :=
  match prepare rt session request with
  | .error failure => result = .error failure
  | .ok (capability,statement) =>
    ∃ reply, session.Replies statement tables reply ∧ result = finish rt digest capability statement reply

end SqlCapabilityExecutor

section guards
variable {session : SqlSession} {capability : SqlCapabilityDefinition} {params : Dict String ParamValue} {statement : Statement}

theorem dimensionOf_joins (dimension : String) : (dimensionOf dimension).2 = [] ∨
    ∃ j, (dimensionOf dimension).2 = [j] ∧ j.outer = true ∧ j.label ≠ "o" ∧
      compareColumns "o" "tenant_id" j.label "tenant_id" ∈ j.on := by
  unfold dimensionOf
  split_ifs
  · exact .inl rfl
  · exact .inr ⟨_,rfl,rfl,by decide,List.mem_cons_self⟩
  · exact .inr ⟨_,rfl,rfl,by decide,List.mem_cons_self⟩
  · exact .inr ⟨_,rfl,rfl,by decide,List.mem_cons_self⟩
  · exact .inr ⟨_,rfl,rfl,by decide,List.mem_cons_self⟩
  · exact .inl rfl

theorem drilldown_guarded (dimension : String) : (drilldown dimension).Guarded "tenant_id" "tenant_id" where
  asks := List.mem_cons_self
  follows := by
    intro j inside
    change j ∈ (dimensionOf dimension).2 at inside
    rcases dimensionOf_joins dimension with none | ⟨k,one,_,other,link⟩
    · rw [none] at inside
      cases inside
    · rw [one] at inside
      rw [List.mem_singleton.mp inside]
      exact ⟨link,other⟩

theorem alone_guarded {q : Select} (alone : q.joins = [])
    (asks : compareParam .eq q.label "tenant_id" "tenant_id" ∈ q.wheres) : q.Guarded "tenant_id" "tenant_id" where
  asks := asks
  follows := by
    intro j inside
    rw [alone] at inside
    cases inside

theorem segmentCompare_guarded : segmentCompare.Guarded "tenant_id" "tenant_id" where
  asks := List.mem_cons_self
  follows := by
    intro j inside
    rw [List.mem_singleton.mp inside]
    exact ⟨List.mem_cons_self,by decide⟩

theorem contractSla_guarded : contractSla.Guarded "tenant_id" "tenant_id" where
  asks := List.mem_cons_self
  follows := by
    intro j inside
    rw [List.mem_singleton.mp inside]
    exact ⟨List.mem_cons_self,by decide⟩

theorem buildSql_guarded (built : buildSqlForCapability session capability params = .ok statement) :
    statement.select.Guarded "tenant_id" "tenant_id" ∧
      statement.boundParams.get? "tenant_id" = params.get? "tenant_id" ∧
      rowLimit session capability params = .ok statement.maxRows := by
  unfold buildSqlForCapability at built
  obtain ⟨maxRows,limit,built⟩ := Outcome.bind_eq_ok.mp built
  have plain (q : Select) (guarded : q.Guarded "tenant_id" "tenant_id") (same : ⟨q,params,maxRows⟩ = statement) :
      statement.select.Guarded "tenant_id" "tenant_id" ∧
        statement.boundParams.get? "tenant_id" = params.get? "tenant_id" ∧
        rowLimit session capability params = .ok statement.maxRows := by
    subst same
    exact ⟨guarded,rfl,limit⟩
  split at built
  · split at built
    · cases built
    · exact plain _ (drilldown_guarded _) (Except.ok.inj built)
  · exact plain _ (alone_guarded rfl List.mem_cons_self) (Except.ok.inj built)
  · cases built
    refine ⟨segmentCompare_guarded,?_,limit⟩
    unfold withSegments
    rw [Dict.get?_set_ne _ _ (by decide),Dict.get?_set_ne _ _ (by decide)]
  · exact plain _ (alone_guarded rfl List.mem_cons_self) (Except.ok.inj built)
  · exact plain _ (alone_guarded rfl List.mem_cons_self) (Except.ok.inj built)
  · exact plain _ (alone_guarded rfl List.mem_cons_self) (Except.ok.inj built)
  · exact plain _ contractSla_guarded (Except.ok.inj built)
  · cases built

end guards

namespace SqlCapabilityExecutor
variable {rt : SqlRuntime} {session : SqlSession} {digest : Statement → String} {request : CapabilityRequest}
  {capability : SqlCapabilityDefinition} {statement : Statement} {tables tables' : Tables}

theorem get?_normalized {name : String} (other : "tenant_id" ≠ name) (params : Dict String ParamValue) :
    (normalized name params).get? "tenant_id" = params.get? "tenant_id" := by
  unfold normalized
  split
  · exact Dict.get?_set_ne _ _ other
  · rfl

theorem execParams_tenant (context : TenantContext) :
    (execParams request context).get? "tenant_id" = some (textParam context.tenantId.value) := by
  unfold execParams
  dsimp only
  rw [get?_normalized (by decide),get?_normalized (by decide),Dict.get?_set_ne _ _ (by decide),Dict.get?_set_self]

theorem prepare_guarded (prepared : prepare rt session request = .ok (capability,statement)) :
    ∃ context, request.tenantContext = some context ∧ statement.select.Guarded "tenant_id" "tenant_id" ∧
      session.value statement "tenant_id" = .text context.tenantId.value := by
  unfold prepare at prepared
  obtain ⟨found,_,prepared⟩ := Outcome.bind_eq_ok.mp prepared
  obtain ⟨context,tenant,prepared⟩ := Outcome.bind_eq_ok.mp prepared
  obtain ⟨statement',built,same⟩ := Outcome.bind_eq_ok.mp prepared
  cases same
  obtain ⟨guarded,bound,_⟩ := buildSql_guarded (Outcome.mapError_eq_ok.mp built)
  refine ⟨context,?_,guarded,?_⟩
  · have known := Outcome.mapError_eq_ok.mp tenant
    unfold requireTenant at known
    split at known
    · rename_i other present
      cases known
      exact present
    · cases known
  · rw [SqlSession.value,bound,execParams_tenant]
    rfl

/-- Whatever the other tenants' rows are, a request returns the same: no capability reads a row of
another tenant, in the table it starts from or in one it joins. -/
theorem executes_tenant (same : ∀ context, request.tenantContext = some context →
      owned "tenant_id" (.text context.tenantId.value) tables = owned "tenant_id" (.text context.tenantId.value) tables')
    (result : Except CapabilityFailure CapabilityResult) :
    Executes rt session digest request tables result ↔ Executes rt session digest request tables' result := by
  unfold Executes
  cases prepared : prepare rt session request with
  | error failure => exact Iff.rfl
  | ok found =>
    obtain ⟨capability,statement⟩ := found
    obtain ⟨context,tenant,guarded,asked⟩ := prepare_guarded prepared
    have rows := same context tenant
    rw [← asked] at rows
    refine exists_congr ?_
    intro reply
    refine and_congr_left' ?_
    cases reply with
    | rows records => exact and_congr_right' (answers_congr guarded rows statement.maxRows records)
    | timedOut => exact Iff.rfl
    | raised message => exact Iff.rfl

/-- How many records a caller sees: a negative limit is none, and the executor cuts what it gets. -/
def shownRows (capability : SqlCapabilityDefinition) (statement : Statement) : Nat :=
  if statement.maxRows < 0 then capability.maxRows else statement.maxRows.toNat

theorem rowLimit_le {params : Dict String ParamValue} {maxRows : Int}
    (limit : rowLimit session capability params = .ok maxRows) : maxRows ≤ capability.maxRows := by
  unfold rowLimit at limit
  split at limit
  · obtain ⟨asked,_,rfl⟩ := Outcome.map_eq_ok.mp limit
    exact min_le_right _ _
  · cases limit
    exact le_rfl

theorem prepare_limit (prepared : prepare rt session request = .ok (capability,statement)) :
    statement.maxRows ≤ capability.maxRows := by
  unfold prepare at prepared
  obtain ⟨found,_,prepared⟩ := Outcome.bind_eq_ok.mp prepared
  obtain ⟨context,_,prepared⟩ := Outcome.bind_eq_ok.mp prepared
  obtain ⟨statement',built,same⟩ := Outcome.bind_eq_ok.mp prepared
  cases same
  exact rowLimit_le (buildSql_guarded (Outcome.mapError_eq_ok.mp built)).2.2

end SqlCapabilityExecutor

section drilldowns
variable {engine : Engine} {params : String → Value} {tables : Tables} {dimension : String}

/-- The total of a column of an answer. -/
def total (name : String) (answer : List Record) : ℚ := (answer.map fun record => (record.value name).amount).sum

/-- How often a drilldown counts an order: once, or once for each row that it joins to the order. -/
def timesCounted (engine : Engine) (params : String → Value) (tables : Tables) (dimension : String) (order : Tuple) : Nat :=
  copies engine params tables (drilldown dimension).joins ((drilldown dimension).start order)

theorem outer_copies {j : Join} (outer : j.outer = true) (scope : Scope) :
    copies engine params tables [j] scope = max 1 (j.matches engine params tables scope).card := by
  change (({scope} : Multiset Scope).bind (j.extend engine params tables)).card = _
  rw [Multiset.singleton_bind]
  unfold Join.extend
  split
  next none => rw [none.2,Multiset.card_singleton]; rfl
  next some =>
    rw [Multiset.card_map]
    have positive : (j.matches engine params tables scope).card ≠ 0 := fun zero => some ⟨outer,zero⟩
    omega

theorem timesCounted_pos (order : Tuple) : 1 ≤ timesCounted engine params tables dimension order := by
  unfold timesCounted
  rcases dimensionOf_joins dimension with none | ⟨j,one,outer,_,_⟩
  · rw [show (drilldown dimension).joins = [] from none]
    exact le_rfl
  · rw [show (drilldown dimension).joins = [j] from one,outer_copies outer]
    exact le_max_left _ _

theorem cancelled_iff (scope : Scope) :
    cancelled.eval engine params scope = some true ↔ scope "o" "order_status" = .text "CANCELLED" := by
  change compared engine .eq (scope "o" "order_status") (.text "CANCELLED") = some true ↔ _
  unfold compared
  by_cases missing : scope "o" "order_status" = .null
  · simp [missing]
  · simp [missing,Comparison.test]

theorem drilldown_total (name : String) {a : Aggregate} (measure : Tuple → ℚ) {limit : Int} {answer : List Record}
    (answers : (drilldown dimension).Answers engine params tables limit answer) (complete : limit < 0 ∨ answer.length < limit)
    (column : orderAggregates.lookup name = some a) (other : name ≠ "dimension_value")
    (adds : Adds engine params a fun scope => measure (scope "o")) :
    total name answer = (((drilldown dimension).base engine params tables).map fun order =>
      timesCounted engine params tables dimension order • measure order).sum := by
  have keys : ([("dimension_value",(dimensionOf dimension).1)] : List (String × Expr)).lookup name = none := by
    rw [List.lookup_cons,beq_false_of_ne other]
    rfl
  have others : ∀ j ∈ (drilldown dimension).joins, j.label ≠ (drilldown dimension).label := by
    intro j inside
    exact ((drilldown_guarded dimension).follows j inside).2
  have within : ∀ c ∈ (drilldown dimension).wheres, c.within (drilldown dimension).label = true := by
    have each : ∀ c ∈ window "o", c.within "o" = true := by decide
    exact each
  have sum : (((drilldown dimension).outputs engine params tables).map fun record => (record.value name).amount).sum =
      (((drilldown dimension).rows engine params tables).map fun scope => measure (scope "o")).sum :=
    outputs_total rfl keys column adds
  rw [← answers.complete complete,Multiset.map_coe,Multiset.sum_coe] at sum
  exact sum.trans (rows_sum measure within others)

theorem sum_eq_card_iff {s : Multiset Tuple} {f : Tuple → Nat} (positive : ∀ row ∈ s, 1 ≤ f row) :
    (s.map fun row => (f row : ℚ)).sum = s.card ↔ ∀ row ∈ s, f row = 1 := by
  have cast : (s.map fun row => (f row : ℚ)).sum = ((s.map f).sum : ℕ) := by
    rw [Nat.cast_multiset_sum,Multiset.map_map]
    rfl
  have least (t : Multiset Tuple) (inside : ∀ row ∈ t, 1 ≤ f row) : t.card ≤ (t.map f).sum := by
    have bound := Multiset.card_nsmul_le_sum (s := t.map f) (a := 1) (by simpa using inside)
    simpa using bound
  rw [cast,Nat.cast_inj]
  constructor
  · intro equal row inside
    by_contra other
    obtain ⟨rest,rfl⟩ := Multiset.exists_cons_of_mem inside
    have first := positive row inside
    have others := least rest (fun row' member => positive row' (Multiset.mem_cons_of_mem member))
    rw [Multiset.map_cons,Multiset.sum_cons,Multiset.card_cons] at equal
    omega
  · intro ones
    rw [Multiset.map_congr rfl ones,Multiset.map_const',Multiset.sum_replicate,smul_eq_mul,mul_one]

/-- The parts of a drilldown add up to the whole: over the groups of a complete answer the orders, those
cancelled and the revenue are counted for each joined row, and the number of orders comes out right
exactly when no order in the window is joined to two rows. -/
theorem drilldown_totals {limit : Int} {answer : List Record}
    (answers : (drilldown dimension).Answers engine params tables limit answer) (complete : limit < 0 ∨ answer.length < limit)
    (ids : ∀ order ∈ tables "canonical_orders", order "id" ≠ .null) :
    (total "total_orders" answer = ((drilldown dimension).base engine params tables).card ↔
      ∀ order ∈ (drilldown dimension).base engine params tables, timesCounted engine params tables dimension order = 1) ∧
    total "total_revenue" answer = (((drilldown dimension).base engine params tables).map fun order =>
      timesCounted engine params tables dimension order * ((order "total_cents").amount / 100)).sum ∧
    total "cancelled_orders" answer = (((drilldown dimension).base engine params tables).map fun order =>
      if order "order_status" = .text "CANCELLED" then (timesCounted engine params tables dimension order : ℚ) else 0).sum := by
  refine ⟨?_,?_,?_⟩
  · have counted := drilldown_total "total_orders" (fun order => if order "id" ≠ .null then 1 else 0) answers complete rfl
      (by decide) (count_adds (.column "o" "id"))
    rw [counted,← sum_eq_card_iff (fun order _ => timesCounted_pos order)]
    refine Eq.congr_left (congrArg Multiset.sum (Multiset.map_congr rfl ?_))
    intro order inside
    rw [if_pos (ids order (Multiset.mem_filter.mp inside).1),nsmul_one]
  · have revenue := drilldown_total "total_revenue" (fun order => (order "total_cents").amount / 100) answers complete rfl
      (by decide) (quotient_adds (sum_adds (.column "o" "total_cents")) (by decide +kernel))
    rw [revenue]
    simp only [nsmul_eq_mul]
  · have adds : Adds engine params (.sumWhen cancelled) fun scope =>
        if scope "o" "order_status" = .text "CANCELLED" then 1 else 0 := by
      have adds := @sumWhen_adds engine params cancelled
      simpa only [cancelled_iff] using adds
    have gone := drilldown_total "cancelled_orders" (fun order => if order "order_status" = .text "CANCELLED" then 1 else 0)
      answers complete rfl (by decide) adds
    rw [gone]
    simp only [nsmul_eq_mul,mul_ite,mul_one,mul_zero]

end drilldowns

section samples

/-- Texts in the order of their code points, no functions, and exact quotients. -/
def plainEngine : Engine where
  less v w :=
    match v, w with
    | .text s, .text t => s < t
    | .number q, .number r => q < r
    | _, _ => false
  function _ v := v
  arithmetic _ _ _ := .null
  round _ q := q
  unlimited := true

def plainSession : SqlSession := ⟨plainEngine,true,fun _ => .null,fun _ => .ok (-1)⟩

def rowOf (entries : List (String × Value)) : Tuple := fun name => (entries.lookup name).getD .null

def orderOf (tenant id : String) : Tuple :=
  rowOf [("tenant_id",.text tenant),("id",.text id),("order_status",.text "CANCELLED"),("total_cents",.number 500),
    ("event_time",.text "2026-05-10")]

def shipmentOf (id order : String) : Tuple :=
  rowOf [("tenant_id",.text "tnt_acme"),("id",.text id),("order_id",.text order),("carrier_code",.text "FEDEX")]

def twoShipments : Tables
  | "canonical_orders" => {orderOf "tnt_acme" "ord_1"}
  | "canonical_shipments" => {shipmentOf "shp_1" "ord_1",shipmentOf "shp_2" "ord_1"}
  | _ => 0

def foreignOrder : Tables
  | "canonical_orders" => {orderOf "tnt_acme" "ord_1",orderOf "tnt_other" "ord_9"}
  | "canonical_shipments" => {shipmentOf "shp_1" "ord_1",shipmentOf "shp_2" "ord_1"}
  | _ => 0

def mayParams : String → Value
  | "tenant_id" => .text "tnt_acme"
  | "start_time" => .text "2026-05-01"
  | "end_time" => .text "2026-05-18"
  | "as_of_time" => .text "2026-05-18"
  | _ => .null

def seriesOfMay : CapabilityRequest :=
  { seriesUpTo .zulu with parameters := (seriesUpTo .zulu).parameters.set "start_time" (.other (some "2026-05-01") "2026-05-01" none)
                          |>.set "limit" (.other none "-1" none) }

theorem foreign_order_hidden :
    SqlCapabilityExecutor.Executes asciiRuntime plainSession (fun _ => "") seriesOfMay twoShipments (.error .invalidOperation) ↔
      SqlCapabilityExecutor.Executes asciiRuntime plainSession (fun _ => "") seriesOfMay foreignOrder (.error .invalidOperation) := by
  apply SqlCapabilityExecutor.executes_tenant
  intro context tenant
  cases tenant
  funext table
  unfold owned twoShipments foreignOrder
  split
  · rfl
  · rfl
  · rfl

/-- An order in two shipments is counted twice. -/
theorem two_shipments_counted_twice :
    (drilldown "carrier_code").Answers plainEngine mayParams twoShipments 100
      [[("dimension_value",.text "FEDEX"),("total_orders",.number 2),("cancelled_orders",.number 2),
        ("cancellation_rate",.number 1),("total_revenue",.number 10)]] ∧
    ¬ ∀ order ∈ (drilldown "carrier_code").base plainEngine mayParams twoShipments,
      timesCounted plainEngine mayParams twoShipments "carrier_code" order = 1 := by
  have answers : (drilldown "carrier_code").Answers plainEngine mayParams twoShipments 100
      [[("dimension_value",.text "FEDEX"),("total_orders",.number 2),("cancelled_orders",.number 2),
        ("cancellation_rate",.number 1),("total_revenue",.number 10)]] :=
    ⟨_,by decide +kernel,List.pairwise_singleton _ _,rfl⟩
  refine ⟨answers,?_⟩
  have ids : ∀ order ∈ twoShipments "canonical_orders", order "id" ≠ .null := by
    intro order inside
    rw [Multiset.mem_singleton.mp inside]
    decide
  rw [← (drilldown_totals answers (.inr (by decide)) ids).1]
  decide +kernel

/-- Prepared without a limit, with all its parameters. -/
def boundUnlimited : Except CapabilityFailure (SqlCapabilityDefinition × Statement) → Bool
  | .ok (_,statement) =>
    statement.select.params.all (fun name => (statement.boundParams.get? name).isSome) && decide (statement.maxRows < 0)
  | .error _ => false

end samples
end RevPilot.Analytics
