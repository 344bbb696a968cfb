import RevPilot.Analytics.Lifecycle
import RevPilot.Analytics.Metrics
import RevPilot.Library.Sorting
import Mathlib.Data.List.Lex
import Mathlib.Data.String.Basic
import Mathlib.Data.Prod.Lex

/-! The metric service: a query is validated, the data set is restricted to the tenant
and to what was known at the as-of time, and the metric is evaluated slice by slice. -/
namespace RevPilot.Analytics
open Library Shared Canonical

structure TimeWindow where
  startTime : UtcDateTime
  endTime : UtcDateTime
  ordered : startTime ≤ endTime

structure MetricQueryRequest where
  metricId : String
  metricVersion : String
  timeWindow : TimeWindow
  grain : String
  groupByDimensions : List String := []
  filters : Filters := .empty
  asOfTime : UtcDateTime

structure MetricSeriesPoint where
  windowStart : UtcDateTime
  windowEnd : UtcDateTime
  dimensions : Dict String String
  actualValue : ℚ
  numeratorValue : ℚ
  denominatorValue : ℚ
  sampleSize : Int
  isZeroVolumeSample : Bool

structure MetricQueryResponse where
  queryId : String
  metricId : String
  metricName : String
  metricVersion : String
  tenantId : TenantId
  grain : String
  asOfTime : UtcDateTime
  freshnessState : String
  dataQualityState : String
  lineageSnapshotHash : String
  series : List MetricSeriesPoint

structure MetricServiceError where
  code : String
  message : String
  httpStatus : Nat
  details : List (PyKey × PyValue) := []

/-- A failure of the service or an exception. -/
inductive QueryFailure : Type
  | failure (error : MetricServiceError)
  | raised (exception : QueryRaise)

def unknownSentinel : String := "UNKNOWN_OR_UNSPECIFIED"

/-- What the service uses of the Python library: the case table, the digest and the
`repr` of a text. -/
structure Platform where
  casing : Text.Casing
  sha256 : String → String
  shownText : String → String

namespace MetricService

def tenancyViolation (message : String) (details : List (PyKey × PyValue)) : MetricServiceError :=
  { code := "TENANCY_VIOLATION", message := message, httpStatus := 403, details := details }

def invalidDimension (kind key dimension : String) (definition : MetricDefinition) : MetricServiceError :=
  { code := "INVALID_DIMENSION_FILTER"
    message := kind ++ " '" ++ dimension ++ "' not permitted for metric '" ++ definition.metricId ++ "'"
    httpStatus := 400
    details := [(.str key,.str dimension),(.str "metric_id",.str definition.metricId),
      (.str "allowed_dimensions",.list (definition.allowedDimensions.map .str))] }

/-- `MetricRegistry.get`, which finds a metric by its identifier or its name. -/
def registered (metricIdOrName : String) : Option MetricDefinition :=
  let key := Text.strip metricIdOrName
  canonicalMetricDefinitions.find? (fun m => m.metricId == key || m.name == key)

/-- The filters without the key `tenant_id`. -/
def cleanFilters (request : MetricQueryRequest) : Filters := request.filters.erase "tenant_id"

/-- A context that is no `TenantContext` is none; a tenant that is not active has none. -/
def requireTenant (request : MetricQueryRequest) (context : Option TenantContext) :
    Except MetricServiceError TenantId :=
  match context with
  | none =>
    .error (tenancyViolation "Invalid tenant context: TenantContext required"
      [(.str "error",.str "TenantContext instance required")])
  | some context =>
    match request.filters.get? "tenant_id" with
    | none => .ok context.tenantId
    | some v =>
      if v.text = context.tenantId.value then .ok context.tenantId
      else
        .error (tenancyViolation "Cross-tenant access denied: filter tenant_id does not match context"
          [(.str "filter_tenant_id",.str v.text),(.str "context_tenant_id",.str context.tenantId.value)])

def checkWatermark (request : MetricQueryRequest) (serverNow : UtcDateTime) : Except MetricServiceError Unit :=
  if serverNow < request.asOfTime then
    let asOf := request.asOfTime.isoformat
    let now := serverNow.isoformat
    .error { code := "TEMPORAL_LEAKAGE_REJECTED"
             message := s!"Future as-of watermark rejected: {asOf} is ahead of server time {now}"
             httpStatus := 422, details := [(.str "as_of_time",.str asOf),(.str "server_time",.str now)] }
  else .ok ()

def requireMetric (request : MetricQueryRequest) : Except MetricServiceError MetricDefinition :=
  let asked := request.metricId
  match registered asked with
  | some definition => .ok definition
  | none =>
    .error { code := "METRIC_NOT_REGISTERED", message := s!"Unknown metric identifier: '{asked}'"
             httpStatus := 404, details := [(.str "metric_id",.str asked)] }

/-- The first dimension that the metric does not allow is reported, the groups' before the filters'. -/
def checkDimensions (request : MetricQueryRequest) (definition : MetricDefinition) : Except MetricServiceError Unit :=
  let refused (dimensions : List String) := dimensions.find? (fun d => !definition.allowedDimensions.contains d)
  match refused request.groupByDimensions, refused (cleanFilters request).keys with
  | some dimension, _ => .error (invalidDimension "Dimension" "dimension" dimension definition)
  | none, some key => .error (invalidDimension "Filter dimension" "filter_dimension" key definition)
  | none, none => .ok ()

/-- The checks before the data set is read. -/
def validate (request : MetricQueryRequest) (context : Option TenantContext) (serverNow : UtcDateTime) :
    Except MetricServiceError (TenantId × MetricDefinition) := do
  let tenant ← requireTenant request context
  checkWatermark request serverNow
  let definition ← requireMetric request
  checkDimensions request definition
  return (tenant,definition)

def filterTenantAndAsOf (source : MetricEvaluationDataset) (tenant : TenantId) (asOf : UtcDateTime) :
    MetricEvaluationDataset where
  customers := source.customers.filter (isValid tenant asOf)
  orders := source.orders.filter (isValid tenant asOf)
  orderLines := source.orderLines.filter (isValid tenant asOf)
  shipments := source.shipments.filter (isValid tenant asOf)
  supportTickets := source.supportTickets.filter (isValid tenant asOf)
  maintenanceEvents := source.maintenanceEvents.filter (isValid tenant asOf)
  contracts := source.contracts.filter (isValid tenant asOf)
  contractClauses := source.contractClauses.filter (isValid tenant asOf)
  paymentReferences := source.paymentReferences.filter (isValid tenant asOf)

/-- The length of a slice in microseconds. -/
def grainStep (grain : String) : Nat :=
  if grain = "HOURLY" then 3600000000
  else if grain = "DAILY" then 86400000000
  else if grain = "WEEKLY" then 7 * 86400000000
  else if grain = "MONTHLY" then 30 * 86400000000
  else 86400000000

/-- The loop of `_generate_time_slices`. Each turn moves `curr` ahead, so that the
distance to the end is fuel enough. -/
def slicesFrom (step : Nat) (last : Int) : Nat → Int → Except QueryRaise (List (UtcDateTime × UtcDateTime))
  | 0, _ => .ok []
  | fuel + 1, curr =>
    if curr < last then
      if curr + step ≤ UtcDateTime.maxMicros then
        let next := min (curr + step) last
        (slicesFrom step last fuel next).map ((⟨curr⟩,⟨next⟩) :: ·)
      else .error .dateOverflow
    else .ok []

variable (platform : Platform)

def generateTimeSlices (window : TimeWindow) (grain : String) : Except QueryRaise (List (UtcDateTime × UtcDateTime)) :=
  let grainUpper := Text.strip (platform.casing.upper grain)
  if grainUpper = "AS_OF_SNAPSHOT" ∨ window.endTime ≤ window.startTime then
    .ok [(window.startTime,window.endTime)]
  else
    slicesFrom (grainStep grainUpper) window.endTime.micros (window.endTime.micros - window.startTime.micros).toNat
      window.startTime.micros

/-- The record's time lies between the ends of the slice, which both belong to it. -/
def inSlice {A : Type} [TimedRecord A] (first last : UtcDateTime) (record : A) : Bool :=
  decide (first ≤ TimedRecord.eventTime record) && decide (TimedRecord.eventTime record ≤ last)

def sliceDataset (tenantData : MetricEvaluationDataset) (metricId : String) (first last : UtcDateTime) :
    MetricEvaluationDataset :=
  if metricId = "METRIC-002" then
    { tenantData with
      orders := tenantData.orders.filter (fun o => decide (o.eventTime ≤ last))
      shipments := tenantData.shipments.filter (fun s => decide (s.eventTime ≤ last))
      supportTickets := tenantData.supportTickets.filter (fun t => decide (t.eventTime ≤ last)) }
  else
    let customers := tenantData.customers.filter (inSlice first last)
    { tenantData with
      customers := if customers.isEmpty then tenantData.customers else customers
      orders := tenantData.orders.filter (inSlice first last)
      shipments := tenantData.shipments.filter (inSlice first last)
      supportTickets := tenantData.supportTickets.filter (inSlice first last)
      paymentReferences := tenantData.paymentReferences.filter (inSlice first last) }

abbrev Combo := List (String × String)

/-- `dict(combo)`: a later pair replaces an earlier one. -/
def toDict (combo : Combo) : Dict String String := combo.foldl (fun d pair => d.set pair.1 pair.2) .empty

/-- `sorted(combo)`. -/
def sortedCombo (combo : Combo) : Combo := sortedBy (fun pair => toLex pair) combo

def cartesianProduct (options : List (List (String × String))) : List Combo :=
  if options.isEmpty then []
  else options.foldl (fun result pool => result.flatMap (fun x => pool.map (fun y => x ++ [y]))) [[]]

section groups
variable (slice : MetricEvaluationDataset)

def customerIn (id : String) : Option Customer := (slice.customers.filter (fun c => c.id == id)).getLast?

def tierOf (customer : Option Customer) : String := (customer.map (·.accountTier.value)).getD unknownSentinel

/-- The value of a dimension that is a field of a shipment. -/
def shipmentField (s : Shipment) (dim : String) : Option String :=
  if dim = "carrier_id" then some s.carrierId
  else if dim = "warehouse_id" then some s.warehouseId
  else if dim = "origin_region" then some s.originRegion
  else if dim = "destination_region" then some s.destinationRegion
  else none

def orderDim (o : Order) (dim : String) : List String :=
  if dim = "customer_tier" then [tierOf (customerIn slice o.customerId)]
  else if ["carrier_id","warehouse_id","origin_region","destination_region"].contains dim then
    let ships := slice.shipments.filter (fun s => s.orderId == o.id)
    if ships.isEmpty then [unknownSentinel]
    else (ships.map (fun s => (shipmentField s dim).getD unknownSentinel)).dedup
  else if dim = "product_category" then
    let lines := slice.orderLines.filter (fun l => l.orderId == o.id)
    if lines.isEmpty then [unknownSentinel] else (lines.map (·.productCategory)).dedup
  else [unknownSentinel]

def shipmentDim (s : Shipment) (dim : String) : String := (shipmentField s dim).getD unknownSentinel

def ticketDim (t : SupportTicket) (dim : String) : String :=
  if dim = "topic" then t.topic.value
  else if dim = "priority" then t.priority.value
  else if dim = "customer_tier" then tierOf (customerIn slice t.customerId)
  else unknownSentinel

def paymentDim (p : PaymentReference) (dim : String) : String :=
  if dim = "gateway_provider" then p.gatewayProvider.value
  else if dim = "transaction_type" then p.transactionType.value
  else if dim = "currency" then p.currency.value
  else unknownSentinel

def customerDim (c : Customer) (dim : String) : String :=
  if dim = "segment" then c.segment.value
  else if dim = "account_tier" ∨ dim = "customer_tier" then c.accountTier.value
  else if dim = "billing_country" then if c.billingCountry = "" then unknownSentinel else c.billingCountry
  else unknownSentinel

/-- The pairs of one record, each dimension with its value. -/
def fieldCombo {A : Type} (dims : List String) (dim : A → String → String) (record : A) : Combo :=
  sortedCombo (dims.map (fun d => (d,dim record d)))

/-- The combination agrees with the filters on its own dimensions. -/
def agrees (filters : Filters) (combo : Combo) : Bool :=
  filters.entries.all (fun (k,v) => ((toDict combo).get? k).all (· == v.text))

/-- The combinations of the source records, before they are made a set. -/
def combos (metricId : String) (dims : List String) : List Combo :=
  if ["METRIC-001","METRIC-002","METRIC-004","METRIC-007"].contains metricId then
    slice.orders.flatMap (fun o => cartesianProduct (dims.map (fun d => (orderDim slice o d).map (fun v => (d,v)))))
  else if ["METRIC-003","METRIC-008"].contains metricId then slice.shipments.map (fieldCombo dims shipmentDim)
  else if metricId = "METRIC-005" then slice.paymentReferences.map (fieldCombo dims paymentDim)
  else if metricId = "METRIC-006" then slice.customers.map (fieldCombo dims customerDim)
  else if metricId = "METRIC-009" then slice.supportTickets.map (fieldCombo dims (ticketDim slice))
  else []

def extractGroups (metricId : String) (dims : List String) (filters : Filters) : List (Dict String String) :=
  let groups := (((combos slice metricId dims).filter (agrees filters)).map sortedCombo).dedup
  (sortedBy (fun combo => combo.map (fun pair => toLex pair)) groups).map toDict

end groups

def toSeriesPoint (first last : UtcDateTime) (dimensions : Dict String String) (value : MetricValue) :
    Except QueryRaise MetricSeriesPoint := do
  let denominator := value.denominator.getD 0
  let numerator ← match value.numerator with
    | some n => .ok n
    | none => value.value.toFloat
  let point (actual : ℚ) (size : Int) (zero : Bool) : MetricSeriesPoint :=
    { windowStart := first, windowEnd := last, dimensions := dimensions, actualValue := actual
      numeratorValue := numerator, denominatorValue := denominator, sampleSize := size, isZeroVolumeSample := zero }
  if denominator = 0 ∨ value.isZeroSample then return point 0 0 true
  else
    let actual ← value.value.toFloat
    return point actual denominator.floor false

/-- `{**clean_filters, **group_dims}`. -/
def combinedFilters (filters : Filters) (group : Dict String String) : Filters :=
  group.entries.foldl (fun fs pair => fs.set pair.1 ⟨some pair.2,pair.2,platform.shownText pair.2⟩) filters

def zeroGroupPoint (first last : UtcDateTime) (dims : List String) : MetricSeriesPoint :=
  { windowStart := first, windowEnd := last, dimensions := toDict (dims.map (fun d => (d,unknownSentinel)))
    actualValue := 0, numeratorValue := 0, denominatorValue := 0, sampleSize := 0, isZeroVolumeSample := true }

/-- The points of one slice. -/
def evaluateSlice (tenant : TenantId) (definition : MetricDefinition) (request : MetricQueryRequest)
    (tenantData : MetricEvaluationDataset) (slice : UtcDateTime × UtcDateTime) :
    Except QueryRaise (List MetricSeriesPoint) := do
  let (first,last) := slice
  let filters := cleanFilters request
  let sliceData := sliceDataset tenantData definition.metricId first last
  let effectiveAsOf := if last < request.asOfTime then last else request.asOfTime
  if request.groupByDimensions.isEmpty then
    let value ← definition.calculateFn tenant sliceData effectiveAsOf filters
    let point ← toSeriesPoint first last .empty value
    return [point]
  else
    let groups := extractGroups sliceData definition.metricId request.groupByDimensions filters
    if groups.isEmpty then return [zeroGroupPoint first last request.groupByDimensions]
    else groups.mapM (fun group => do
      let value ← definition.calculateFn tenant sliceData effectiveAsOf (combinedFilters platform filters group)
      toSeriesPoint first last group value)

def evaluateSeries (tenant : TenantId) (definition : MetricDefinition) (request : MetricQueryRequest)
    (source : MetricEvaluationDataset) : Except QueryRaise (List MetricSeriesPoint) := do
  let tenantData := filterTenantAndAsOf source tenant request.asOfTime
  let slices ← generateTimeSlices platform request.timeWindow request.grain
  let points ← slices.mapM (evaluateSlice platform tenant definition request tenantData)
  return points.flatten

/-- `repr` of a list, from those of its elements. -/
def shownList (elements : List String) : String := "[" ++ String.intercalate ", " elements ++ "]"

def lineage (tenant : TenantId) (definition : MetricDefinition) (request : MetricQueryRequest) : String :=
  let dims := sortedBy (fun d => d) request.groupByDimensions
  let items := sortedBy (fun item => item.1) (cleanFilters request).entries
  String.intercalate ":"
    [tenant.value,definition.metricId,request.metricVersion,request.grain,request.timeWindow.startTime.isoformat,
      request.timeWindow.endTime.isoformat,request.asOfTime.isoformat,shownList (dims.map platform.shownText),
      shownList (items.map (fun item => "(" ++ platform.shownText item.1 ++ ", " ++ item.2.shown ++ ")"))]

/-- `digits` is the random part of the query's identifier. -/
def query (request : MetricQueryRequest) (context : Option TenantContext) (dataset : MetricEvaluationDataset)
    (serverNow : UtcDateTime) (digits : String) : Except QueryFailure MetricQueryResponse := do
  let (tenant,definition) ← (validate request context serverNow).mapError .failure
  let series ← (evaluateSeries platform tenant definition request dataset).mapError .raised
  return { queryId := "mqy_" ++ digits, metricId := definition.metricId, metricName := definition.name
           metricVersion := request.metricVersion, tenantId := tenant, grain := platform.casing.upper request.grain
           asOfTime := request.asOfTime, freshnessState := "FRESH", dataQualityState := "PASSED"
           lineageSnapshotHash := platform.sha256 (lineage platform tenant definition request), series := series }

end MetricService

section samples

def acmeTenant : TenantId := ⟨"tnt_acme",Eq.refl true⟩

def sampleOrder (tenant : TenantId) (id : String) (time : Int) : Order :=
  { tenantId := tenant, id := id, customerId := "cust-1", orderStatus := .placed, totalCents := 100
    eventTime := ⟨time⟩ }

end samples
end RevPilot.Analytics
