import RevPilot.Analytics.MetricService

/-! What the metrics that count see of a record: whether it is valid, whether the numerator
counts it, the values that the filters are compared with and those that the groups are
collected from. -/
namespace RevPilot.Analytics
open Library Shared Canonical MetricService

structure Row where
  valid : Bool
  hit : Bool
  values : String → List String
  collected : String → List String

section rows
variable (tenant : TenantId) (data : MetricEvaluationDataset) (asOf : UtcDateTime)

def orderRow (o : Order) : Row where
  valid := isValid tenant asOf o
  hit := cancelledBy asOf o
  values dim :=
    let index := buildIndexes data tenant asOf
    if dim = "customer_tier" then ((index.customerById o.customerId).map (·.accountTier.value)).toList
    else if dim = "product_category" then (index.linesByOrder o.id).map (·.productCategory)
    else (index.shipmentsByOrder o.id).filterMap (fun s => shipmentField s dim)
  collected := orderDim data o

def shipmentRow (s : Shipment) : Row where
  valid := isValid tenant asOf s
  hit := s.isDelayed
  values dim := (shipmentField s dim).toList
  collected dim := [shipmentDim s dim]

def paymentRow (p : PaymentReference) : Row where
  valid := isValid tenant asOf p
  hit := p.paymentStatus == .failed
  values dim := [paymentDim p dim]
  collected dim := [paymentDim p dim]

def customerRow (c : Customer) : Row where
  valid := isValid tenant asOf c && [CustomerStatus.active,.churnRisk,.churned].contains c.status
  hit := c.status == .churned
  values dim := if dim = "billing_country" then [c.billingCountry] else [customerDim c dim]
  collected dim := [customerDim c dim]

def ticketRow (t : SupportTicket) : Row where
  valid := isValid tenant asOf t
  hit := true
  values dim :=
    if dim = "customer_tier" then
      (((buildIndexes data tenant asOf).customerById t.customerId).map (·.accountTier.value)).toList
    else [ticketDim data t dim]
  collected dim := [ticketDim data t dim]

/-- The rows of the records that the metric reads. -/
def rows (metricId : String) : List Row :=
  if ["METRIC-001","METRIC-007"].contains metricId then data.orders.map (orderRow tenant data asOf)
  else if ["METRIC-003","METRIC-008"].contains metricId then data.shipments.map (shipmentRow tenant asOf)
  else if metricId = "METRIC-005" then data.paymentReferences.map (paymentRow tenant asOf)
  else if metricId = "METRIC-006" then data.customers.map (customerRow tenant asOf)
  else if metricId = "METRIC-009" then data.supportTickets.map (ticketRow tenant data asOf)
  else []

end rows

/-- A filter on the dimension, if there is one, has a value of the row. -/
def Row.passes (filters : Filters) (row : Row) (dim : String) : Bool :=
  admits filters dim (fun v => (row.values dim).any v.equals)

/-- The row is counted under the filters on the dimensions. -/
def Row.counted (dims : List String) (filters : Filters) (row : Row) : Bool :=
  row.valid && dims.all (row.passes filters)

namespace MetricDefinition

def isCount (definition : MetricDefinition) : Bool :=
  ["METRIC-007","METRIC-008","METRIC-009"].contains definition.metricId

def countsRows (definition : MetricDefinition) : Bool :=
  ["METRIC-001","METRIC-003","METRIC-005","METRIC-006","METRIC-007","METRIC-008","METRIC-009"].contains
    definition.metricId

def counts (definition : MetricDefinition) (filters : Filters) (row : Row) : Bool :=
  row.counted definition.allowedDimensions filters

end MetricDefinition

section passes
variable (tenant : TenantId) (data : MetricEvaluationDataset) (asOf : UtcDateTime) (filters : Filters)

theorem any_toList {A : Type} (a : Option A) (p : A → Bool) : a.toList.any p = a.any p := by
  cases a <;> simp

theorem order_tier (o : Order) : (orderRow tenant data asOf o).passes filters "customer_tier" =
    admitsTier filters ((buildIndexes data tenant asOf).customerById o.customerId) := by
  simp only [Row.passes,orderRow,if_true,any_toList,Option.any_map,admitsTier]

theorem order_category (o : Order) : (orderRow tenant data asOf o).passes filters "product_category" =
    admits filters "product_category" (fun v =>
      ((buildIndexes data tenant asOf).linesByOrder o.id).any (fun l => v.equals l.productCategory)) := by
  simp [Row.passes,orderRow,List.any_map,Function.comp_def]

/-- On a field of the shipments of an order. -/
theorem order_shipments (o : Order) {dim : String} {field : Shipment → String}
    (named : ∀ s, shipmentField s dim = some (field s)) (other : dim ≠ "customer_tier" ∧ dim ≠ "product_category") :
    (orderRow tenant data asOf o).passes filters dim =
      admitsShipments filters dim field ((buildIndexes data tenant asOf).shipmentsByOrder o.id) := by
  simp [Row.passes,orderRow,other.1,other.2,named,admitsShipments,List.any_map,Function.comp_def]

theorem order_carrier (o : Order) : (orderRow tenant data asOf o).passes filters "carrier_id" =
    admitsShipments filters "carrier_id" (·.carrierId) ((buildIndexes data tenant asOf).shipmentsByOrder o.id) :=
  order_shipments tenant data asOf filters o (fun _ => rfl) (by decide)

theorem order_warehouse (o : Order) : (orderRow tenant data asOf o).passes filters "warehouse_id" =
    admitsShipments filters "warehouse_id" (·.warehouseId) ((buildIndexes data tenant asOf).shipmentsByOrder o.id) :=
  order_shipments tenant data asOf filters o (fun _ => rfl) (by decide)

theorem order_origin (o : Order) : (orderRow tenant data asOf o).passes filters "origin_region" =
    admitsShipments filters "origin_region" (·.originRegion) ((buildIndexes data tenant asOf).shipmentsByOrder o.id) :=
  order_shipments tenant data asOf filters o (fun _ => rfl) (by decide)

theorem order_destination (o : Order) : (orderRow tenant data asOf o).passes filters "destination_region" =
    admitsShipments filters "destination_region" (·.destinationRegion)
      ((buildIndexes data tenant asOf).shipmentsByOrder o.id) :=
  order_shipments tenant data asOf filters o (fun _ => rfl) (by decide)

theorem ticket_tier (t : SupportTicket) : (ticketRow tenant data asOf t).passes filters "customer_tier" =
    admitsTier filters ((buildIndexes data tenant asOf).customerById t.customerId) := by
  simp only [Row.passes,ticketRow,if_true,any_toList,Option.any_map,admitsTier]

end passes

section calculators
variable (tenant : TenantId) (data : MetricEvaluationDataset) (asOf : UtcDateTime) (filters : Filters)

/-- The value of a metric that counts records, from its rows. -/
def rowsValue (definition : MetricDefinition) (grain : MetricGrain) : MetricValue :=
  let all := rows tenant data asOf definition.metricId
  if definition.isCount then countValue definition.metricId tenant asOf (all.countP (definition.counts filters))
  else
    ratioValue definition.metricId grain tenant asOf (all.countP (fun r => r.hit && definition.counts filters r))
      (all.countP (definition.counts filters))

variable {tenant data asOf filters}

section fields
variable {A : Type} (row : A → Row) {definition : MetricDefinition} {grain : MetricGrain} {records : List A}
  {selected : A → Bool} (read : rows tenant data asOf definition.metricId = records.map row)
  (same : ∀ a, definition.counts filters (row a) = selected a)
include read same

theorem rowsValue_share (share : definition.isCount = false) :
    rowsValue tenant data asOf filters definition grain =
      ratioValue definition.metricId grain tenant asOf ((records.filter selected).countP (fun a => (row a).hit))
        (records.filter selected).length := by
  obtain rfl : definition.counts filters ∘ row = selected := funext same
  simp only [rowsValue,share,Bool.false_eq_true,if_false,read]
  rw [List.countP_filter,← List.countP_eq_length_filter,List.countP_map,List.countP_map]
  rfl

theorem rowsValue_volume (volume : definition.isCount = true) :
    rowsValue tenant data asOf filters definition grain =
      countValue definition.metricId tenant asOf (records.countP selected) := by
  obtain rfl : definition.counts filters ∘ row = selected := funext same
  simp only [rowsValue,volume,if_true,read]
  rw [List.countP_map]

end fields

theorem calculateFn_rows {definition : MetricDefinition} (canonical : definition ∈ canonicalMetricDefinitions)
    (counting : definition.countsRows = true) :
    ∃ grain, definition.calculateFn tenant data asOf filters =
      .ok (rowsValue tenant data asOf filters definition grain) := by
  simp only [canonicalMetricDefinitions,List.mem_cons,List.not_mem_nil,or_false] at canonical
  rcases canonical with rfl | rfl | rfl | rfl | rfl | rfl | rfl | rfl | rfl
  case inr.inl => exact absurd counting (by decide)
  case inr.inr.inr.inl => exact absurd counting (by decide)
  case inl =>
    refine ⟨.daily,congrArg Except.ok (Eq.symm ?_)⟩
    unfold calculateCancellationRate
    refine rowsValue_share (orderRow tenant data asOf) rfl (fun o => ?_) (by decide)
    simp only [MetricDefinition.counts,Row.counted,List.all_cons,List.all_nil,order_carrier,order_warehouse,order_origin,
      order_destination,order_tier,order_category]
    simp only [orderRow,Bool.true_and,Bool.and_assoc,Bool.and_left_comm,Bool.and_comm]
  case inr.inr.inl =>
    refine ⟨.daily,congrArg Except.ok (Eq.symm ?_)⟩
    unfold calculateFulfillmentDelayRate
    refine rowsValue_share (shipmentRow tenant asOf) rfl (fun s => ?_) (by decide)
    simp [MetricDefinition.counts,Row.counted,Row.passes,shipmentRow,shipmentField,admitsField,Bool.and_assoc]
  case inr.inr.inr.inr.inl =>
    refine ⟨.daily,congrArg Except.ok (Eq.symm ?_)⟩
    unfold calculatePaymentFailureRate
    refine rowsValue_share (paymentRow tenant asOf) rfl (fun p => ?_) (by decide)
    simp [MetricDefinition.counts,Row.counted,Row.passes,paymentRow,paymentDim,admitsField,Bool.and_assoc]
  case inr.inr.inr.inr.inr.inl =>
    refine ⟨.monthly,congrArg Except.ok (Eq.symm ?_)⟩
    unfold calculateCustomerChurnRate
    refine rowsValue_share (customerRow tenant asOf) rfl (fun c => ?_) (by decide)
    simp only [MetricDefinition.counts,Row.counted,List.all_cons,List.all_nil]
    simp [Row.passes,customerRow,customerDim,admitsField,Bool.and_assoc,Bool.and_left_comm,Bool.and_comm]
  case inr.inr.inr.inr.inr.inr.inl =>
    refine ⟨.daily,congrArg Except.ok (Eq.symm ?_)⟩
    unfold calculateOrderVolume
    refine rowsValue_volume (orderRow tenant data asOf) rfl (fun o => ?_) (by decide)
    simp only [MetricDefinition.counts,Row.counted,List.all_cons,List.all_nil,order_origin,order_tier,order_category]
    simp only [orderRow,Bool.and_true,Bool.and_assoc]
  case inr.inr.inr.inr.inr.inr.inr.inl =>
    refine ⟨.daily,congrArg Except.ok (Eq.symm ?_)⟩
    unfold calculateShipmentVolume
    refine rowsValue_volume (shipmentRow tenant asOf) rfl (fun s => ?_) (by decide)
    simp [MetricDefinition.counts,Row.counted,Row.passes,shipmentRow,shipmentField,admitsField,Bool.and_assoc]
  case inr.inr.inr.inr.inr.inr.inr.inr =>
    refine ⟨.daily,congrArg Except.ok (Eq.symm ?_)⟩
    unfold calculateSupportTicketVolume
    refine rowsValue_volume (ticketRow tenant data asOf) rfl (fun t => ?_) (by decide)
    simp only [MetricDefinition.counts,Row.counted,List.all_cons,List.all_nil,ticket_tier]
    simp [Row.passes,ticketRow,ticketDim,admitsField,Bool.and_assoc]

end calculators

section groups
variable (tenant : TenantId) {data : MetricEvaluationDataset} (asOf : UtcDateTime) (filters : Filters) (dim : String)

theorem cartesianProduct_single (values : List String) :
    cartesianProduct [values.map (fun v => (dim,v))] = values.map (fun v => [(dim,v)]) := by
  simp [cartesianProduct,Function.comp_def]

theorem get?_single (v k : String) : (toDict [(dim,v)]).get? k = if k = dim then some v else none := by
  simp only [toDict,List.foldl_cons,List.foldl_nil,Dict.get?_set]
  rfl

theorem fieldCombo_single {A : Type} (field : A → String → String) (records : List A) :
    records.map (fieldCombo [dim] field) = records.flatMap (fun a => [[(dim,field a dim)]]) :=
  List.map_eq_flatMap

/-- The combinations for one dimension. -/
theorem combos_rows {definition : MetricDefinition} (counting : definition.countsRows = true) :
    combos data definition.metricId [dim] =
      (rows tenant data asOf definition.metricId).flatMap (fun r => (r.collected dim).map (fun v => [(dim,v)])) := by
  obtain ⟨id,name,dims,calculate⟩ := definition
  simp only [MetricDefinition.countsRows,List.contains_cons,List.contains_nil,Bool.or_false,Bool.or_eq_true,
    beq_iff_eq] at counting
  rcases counting with rfl | rfl | rfl | rfl | rfl | rfl | rfl
  all_goals simp [combos,rows,List.flatMap_map,orderRow,shipmentRow,paymentRow,customerRow,ticketRow,
    fieldCombo_single,cartesianProduct_single]

/-- A filter on the dimension admits the combination by the text of its value. -/
theorem agrees_single (v : String) :
    agrees filters [(dim,v)] = (filters.get? dim).all (fun f => v == f.text) := by
  rw [Bool.eq_iff_iff]
  simp only [agrees,List.all_eq_true,Option.all_eq_true,get?_single,Prod.forall,Dict.mem_entries_iff]
  constructor
  · intro all f at_dim
    exact all dim f at_dim v (if_pos rfl)
  · intro here k f at_k w found
    split_ifs at found with same
    obtain rfl := Option.some.inj found
    exact here f (same ▸ at_k)

/-- The values of the groups, without their order. -/
def groupValues (all : List Row) : List String :=
  ((all.flatMap (fun r => r.collected dim)).filter (fun v => (filters.get? dim).all (fun f => v == f.text))).dedup

theorem extractGroups_perm {definition : MetricDefinition} (counting : definition.countsRows = true) :
    (extractGroups data definition.metricId [dim] filters).Perm
      ((groupValues filters dim (rows tenant data asOf definition.metricId)).map (fun v => toDict [(dim,v)])) := by
  have injective : Function.Injective (fun v : String => [(dim,v)]) := by
    intro v w same
    simpa using same
  have collected : ((combos data definition.metricId [dim]).filter (agrees filters)).map sortedCombo =
      (((rows tenant data asOf definition.metricId).flatMap (fun r => r.collected dim)).filter
        (fun v => (filters.get? dim).all (fun f => v == f.text))).map (fun v => [(dim,v)]) := by
    rw [combos_rows tenant asOf dim counting,← List.map_flatMap,List.filter_map,List.map_map]
    simp only [Function.comp_def,agrees_single]
    rfl
  unfold extractGroups
  simp only [collected,List.dedup_map_of_injective injective]
  have unsorted := ((sortedBy_perm (fun combo : Combo => combo.map (fun pair => toLex pair))
    ((groupValues filters dim (rows tenant data asOf definition.metricId)).map (fun v => [(dim,v)]))).map toDict)
  rwa [List.map_map] at unsorted

end groups
end RevPilot.Analytics
