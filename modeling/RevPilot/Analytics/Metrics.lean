import RevPilot.Canonical.Records
import RevPilot.Library.Dict
import RevPilot.Library.Rounding

/-! The nine canonical metrics over a data set of canonical records. -/
namespace RevPilot.Analytics
open Library Shared Canonical

inductive MetricGrain : Type
  | hourly
  | daily
  | weekly
  | monthly
  | asOfSnapshot
  deriving DecidableEq

structure MetricEvaluationDataset where
  customers : List Customer := []
  orders : List Order := []
  orderLines : List OrderLine := []
  shipments : List Shipment := []
  supportTickets : List SupportTicket := []
  maintenanceEvents : List MaintenanceEvent := []
  contracts : List Contract := []
  contractClauses : List ContractClause := []
  paymentReferences : List PaymentReference := []

/-- An `OverflowError`, of a float or of a date. -/
inductive QueryRaise : Type
  | floatOverflow
  | dateOverflow
  deriving DecidableEq

/-- `float(n)` of a sum of cents. -/
def floatOf (n : Nat) : Except QueryRaise ℚ :=
  if toDouble n < 2 ^ 1024 then .ok (toDouble n) else .error .floatOverflow

/-- `round(x, 4)` of a double that is not negative. -/
def round4 (x : ℚ) : ℚ :=
  let scaled := x * 10000
  toDouble (halfEven scaled.num.natAbs scaled.den / 10000)

inductive MetricNumber : Type
  | int (n : Nat)
  | float (x : ℚ)

/-- `float(value)`. -/
def MetricNumber.toFloat : MetricNumber → Except QueryRaise ℚ
  | .int n => floatOf n
  | .float x => .ok x

structure MetricValue where
  metricId : String
  tenantId : TenantId
  value : MetricNumber
  numerator : Option ℚ := none
  denominator : Option ℚ := none
  grain : MetricGrain
  asOf : UtcDateTime
  isZeroSample : Bool := false

/-- The value of a filter: the text it equals, if it is a text or a member of a
text enumeration, its `str` and its `repr`. -/
structure FilterValue where
  chars : Option String
  text : String
  shown : String

def FilterValue.equals (v : FilterValue) (s : String) : Bool := v.chars == some s

abbrev Filters := Dict String FilterValue

/-- `key not in filters` or its value passes the test. -/
def admits (filters : Filters) (key : String) (test : FilterValue → Bool) : Bool := (filters.get? key).all test

/-- `rec.tenant_id == tenant_id and rec.event_time.value <= as_of.value`. -/
def isValid {A : Type} [TimedRecord A] (tenant : TenantId) (asOf : UtcDateTime) (record : A) : Bool :=
  decide (TimedRecord.tenantId record = tenant) && decide (TimedRecord.eventTime record ≤ asOf)

/-- The lookups of `_build_indexes`, each a function of its key. -/
structure Indexes where
  customerById : String → Option Customer
  shipmentsByOrder : String → List Shipment
  linesByOrder : String → List OrderLine
  ticketsByOrder : String → List SupportTicket
  clausesByContract : String → List ContractClause
  contractsByCustomer : String → List Contract

def buildIndexes (data : MetricEvaluationDataset) (tenant : TenantId) (asOf : UtcDateTime) : Indexes where
  -- a later customer with the same identifier replaces an earlier one
  customerById id := (data.customers.filter (fun c => isValid tenant asOf c && c.id == id)).getLast?
  shipmentsByOrder id := data.shipments.filter (fun s => isValid tenant asOf s && s.orderId == id)
  linesByOrder id := data.orderLines.filter (fun l => isValid tenant asOf l && l.orderId == id)
  ticketsByOrder id := data.supportTickets.filter (fun t =>
    isValid tenant asOf t && t.orderId.any (fun o => o != "" && o == id))
  clausesByContract id := data.contractClauses.filter (fun c => isValid tenant asOf c && c.contractId == id)
  contractsByCustomer id := data.contracts.filter (fun c => isValid tenant asOf c && c.customerId == id)

/-- The `customer_tier` filter on a customer that may be unknown. -/
def admitsTier (filters : Filters) (customer : Option Customer) : Bool :=
  admits filters "customer_tier" (fun v => customer.any (fun c => v.equals c.accountTier.value))

/-- A filter on the shipments of an order: one of them has the value. -/
def admitsShipments (filters : Filters) (key : String) (field : Shipment → String) (shipments : List Shipment) : Bool :=
  admits filters key (fun v => shipments.any (fun s => v.equals (field s)))

/-- A filter on a field of the record itself. -/
def admitsField (filters : Filters) (key value : String) : Bool := admits filters key (fun v => v.equals value)

/-- The result of a ratio of two counts. A count is far below 2 ^ 53, so its float is the count. -/
def ratioValue (metricId : String) (grain : MetricGrain) (tenant : TenantId) (asOf : UtcDateTime)
    (numerator denominator : Nat) : MetricValue :=
  if denominator = 0 then
    { metricId := metricId, tenantId := tenant, value := .float 0, numerator := some 0, denominator := some 0
      grain := grain, asOf := asOf, isZeroSample := true }
  else
    { metricId := metricId, tenantId := tenant, value := .float (round4 (toDouble (numerator / denominator)))
      numerator := some numerator, denominator := some denominator, grain := grain, asOf := asOf }

/-- The result of a count, which has no denominator. -/
def countValue (metricId : String) (tenant : TenantId) (asOf : UtcDateTime) (count : Nat) : MetricValue :=
  { metricId := metricId, tenantId := tenant, value := .int count, numerator := some count, grain := .daily
    asOf := asOf, isZeroSample := count == 0 }

/-- The order is cancelled, at a known time only if that has come. -/
def cancelledBy (asOf : UtcDateTime) (o : Order) : Bool :=
  o.orderStatus == .cancelled && o.cancelledAt.all (fun t => decide (t ≤ asOf))

/-- The delivery of a shipment, once it has come. -/
def deliveredBy (asOf : UtcDateTime) (s : Shipment) : Option UtcDateTime :=
  s.actualDeliveredAt.filter (fun t => decide (t ≤ asOf))

section calculators
variable (tenant : TenantId) (data : MetricEvaluationDataset) (asOf : UtcDateTime) (filters : Filters)

/-- `METRIC-001`: the share of cancelled orders. -/
def calculateCancellationRate : MetricValue :=
  let index := buildIndexes data tenant asOf
  let eligibleOrders := data.orders.filter (fun order =>
    let shipments := index.shipmentsByOrder order.id
    isValid tenant asOf order && admitsTier filters (index.customerById order.customerId) &&
      admitsShipments filters "carrier_id" (·.carrierId) shipments &&
      admitsShipments filters "warehouse_id" (·.warehouseId) shipments &&
      admitsShipments filters "origin_region" (·.originRegion) shipments &&
      admitsShipments filters "destination_region" (·.destinationRegion) shipments &&
      admits filters "product_category" (fun v => (index.linesByOrder order.id).any (fun l => v.equals l.productCategory)))
  ratioValue "METRIC-001" .daily tenant asOf (eligibleOrders.countP (cancelledBy asOf)) eligibleOrders.length

/-- `METRIC-002`: the cents of the orders with a delay or an open cancellation inquiry. -/
def calculateRevenueAtRisk : Except QueryRaise MetricValue := do
  let index := buildIndexes data tenant asOf
  let atRisk := data.orders.filter (fun order =>
    let shipments := index.shipmentsByOrder order.id
    isValid tenant asOf order && admitsTier filters (index.customerById order.customerId) &&
      admitsShipments filters "carrier_id" (·.carrierId) shipments &&
      admitsShipments filters "warehouse_id" (·.warehouseId) shipments &&
      admitsShipments filters "origin_region" (·.originRegion) shipments &&
      (shipments.any (·.isDelayed) || (index.ticketsByOrder order.id).any (fun t =>
        t.topic == .cancellationInquiry && t.status == .unresolved)))
  let totalRiskCents := (atRisk.map (·.totalCents)).sum
  let numerator ← floatOf totalRiskCents
  return { metricId := "METRIC-002", tenantId := tenant, value := .int totalRiskCents, numerator := some numerator
           denominator := some atRisk.length, grain := .asOfSnapshot, asOf := asOf
           isZeroSample := atRisk.length == 0 }

/-- `METRIC-003`: the share of delayed shipments. -/
def calculateFulfillmentDelayRate : MetricValue :=
  let eligibleShipments := data.shipments.filter (fun s =>
    isValid tenant asOf s && admitsField filters "carrier_id" s.carrierId &&
      admitsField filters "warehouse_id" s.warehouseId && admitsField filters "origin_region" s.originRegion &&
      admitsField filters "destination_region" s.destinationRegion)
  ratioValue "METRIC-003" .daily tenant asOf (eligibleShipments.countP (·.isDelayed)) eligibleShipments.length

/-- The smallest threshold of the clauses of the contracts. -/
def slaThresholdHours (index : Indexes) (contracts : List Contract) : Option Nat :=
  ((contracts.flatMap (fun c => index.clausesByContract c.id)).filterMap (·.slaThresholdHours)).min?

/-- `(delivered - placed).total_seconds() / 3600.0`. -/
def durationHours (delivered placed : UtcDateTime) : ℚ :=
  toDouble (toDouble ((delivered.micros - placed.micros : Int) / 1000000) / 3600)

/-- The threshold and the first delivery of an order that `METRIC-004` evaluates. -/
def evaluatedOrder (index : Indexes) (order : Order) : Option (Nat × UtcDateTime) := do
  guard (isValid tenant asOf order)
  let customer ← index.customerById order.customerId
  guard (admitsTier filters (some customer))
  let contracts := (index.contractsByCustomer customer.id).filter (fun c =>
    admitsField filters "contract_type" c.contractType.value)
  let shipments := (index.shipmentsByOrder order.id).filter (fun s => admitsField filters "carrier_id" s.carrierId)
  let delivered := shipments.filterMap (deliveredBy asOf)
  let earliest ← (delivered.map (·.micros)).min?
  let threshold ← slaThresholdHours index contracts
  return (threshold,⟨earliest⟩)

/-- `METRIC-004`: the share of delivered orders above the threshold of their contracts. -/
def calculateSlaViolationRate : MetricValue :=
  let index := buildIndexes data tenant asOf
  let evaluated := data.orders.filterMap (fun order =>
    (evaluatedOrder tenant asOf filters index order).map (fun (threshold,earliest) =>
      decide ((threshold : ℚ) < durationHours earliest order.eventTime)))
  ratioValue "METRIC-004" .daily tenant asOf (evaluated.countP id) evaluated.length

/-- `METRIC-005`: the share of failed payments. -/
def calculatePaymentFailureRate : MetricValue :=
  let eligiblePayments := data.paymentReferences.filter (fun p =>
    isValid tenant asOf p && admitsField filters "gateway_provider" p.gatewayProvider.value &&
      admitsField filters "transaction_type" p.transactionType.value && admitsField filters "currency" p.currency.value)
  ratioValue "METRIC-005" .daily tenant asOf (eligiblePayments.countP (·.paymentStatus == .failed))
    eligiblePayments.length

/-- `METRIC-006`: the share of churned customers. -/
def calculateCustomerChurnRate : MetricValue :=
  let eligibleCustomers := data.customers.filter (fun c =>
    isValid tenant asOf c && admitsField filters "segment" c.segment.value &&
      admitsField filters "account_tier" c.accountTier.value &&
      admitsField filters "billing_country" c.billingCountry &&
      [CustomerStatus.active,.churnRisk,.churned].contains c.status)
  ratioValue "METRIC-006" .monthly tenant asOf (eligibleCustomers.countP (·.status == .churned))
    eligibleCustomers.length

/-- `METRIC-007`: the number of orders. -/
def calculateOrderVolume : MetricValue :=
  let index := buildIndexes data tenant asOf
  countValue "METRIC-007" tenant asOf (data.orders.countP (fun order =>
    isValid tenant asOf order && admitsTier filters (index.customerById order.customerId) &&
      admitsShipments filters "origin_region" (·.originRegion) (index.shipmentsByOrder order.id) &&
      admits filters "product_category" (fun v => (index.linesByOrder order.id).any (fun l => v.equals l.productCategory))))

/-- `METRIC-008`: the number of shipments. -/
def calculateShipmentVolume : MetricValue :=
  countValue "METRIC-008" tenant asOf (data.shipments.countP (fun s =>
    isValid tenant asOf s && admitsField filters "carrier_id" s.carrierId &&
      admitsField filters "warehouse_id" s.warehouseId && admitsField filters "origin_region" s.originRegion))

/-- `METRIC-009`: the number of support tickets. -/
def calculateSupportTicketVolume : MetricValue :=
  let index := buildIndexes data tenant asOf
  countValue "METRIC-009" tenant asOf (data.supportTickets.countP (fun t =>
    isValid tenant asOf t && admitsField filters "topic" t.topic.value &&
      admitsField filters "priority" t.priority.value && admitsTier filters (index.customerById t.customerId)))

end calculators

structure MetricDefinition where
  metricId : String
  name : String
  allowedDimensions : List String
  calculateFn : TenantId → MetricEvaluationDataset → UtcDateTime → Filters → Except QueryRaise MetricValue

def canonicalMetricDefinitions : List MetricDefinition :=
  [{ metricId := "METRIC-001", name := "cancellation_rate"
     allowedDimensions :=
       ["carrier_id","warehouse_id","origin_region","destination_region","customer_tier","product_category"]
     calculateFn := fun tenant data asOf filters => .ok (calculateCancellationRate tenant data asOf filters) },
    { metricId := "METRIC-002", name := "revenue_at_risk"
      allowedDimensions := ["customer_tier","carrier_id","warehouse_id","origin_region"]
      calculateFn := calculateRevenueAtRisk },
    { metricId := "METRIC-003", name := "fulfillment_delay_rate"
      allowedDimensions := ["carrier_id","warehouse_id","origin_region","destination_region"]
      calculateFn := fun tenant data asOf filters => .ok (calculateFulfillmentDelayRate tenant data asOf filters) },
    { metricId := "METRIC-004", name := "sla_violation_rate"
      allowedDimensions := ["customer_tier","contract_type","carrier_id"]
      calculateFn := fun tenant data asOf filters => .ok (calculateSlaViolationRate tenant data asOf filters) },
    { metricId := "METRIC-005", name := "payment_failure_rate"
      allowedDimensions := ["gateway_provider","transaction_type","currency"]
      calculateFn := fun tenant data asOf filters => .ok (calculatePaymentFailureRate tenant data asOf filters) },
    { metricId := "METRIC-006", name := "customer_churn_rate"
      allowedDimensions := ["segment","account_tier","billing_country"]
      calculateFn := fun tenant data asOf filters => .ok (calculateCustomerChurnRate tenant data asOf filters) },
    { metricId := "METRIC-007", name := "order_volume"
      allowedDimensions := ["customer_tier","origin_region","product_category"]
      calculateFn := fun tenant data asOf filters => .ok (calculateOrderVolume tenant data asOf filters) },
    { metricId := "METRIC-008", name := "shipment_volume"
      allowedDimensions := ["carrier_id","warehouse_id","origin_region"]
      calculateFn := fun tenant data asOf filters => .ok (calculateShipmentVolume tenant data asOf filters) },
    { metricId := "METRIC-009", name := "support_ticket_volume"
      allowedDimensions := ["topic","priority","customer_tier"]
      calculateFn := fun tenant data asOf filters => .ok (calculateSupportTicketVolume tenant data asOf filters) }]

end RevPilot.Analytics
