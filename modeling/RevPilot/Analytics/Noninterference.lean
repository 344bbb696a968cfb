import RevPilot.Analytics.MetricService
import RevPilot.Library.Outcome

/-! What a metric query cannot depend on: the records of other tenants, those timed after
the as-of time, and the cancellations and deliveries that come after it. -/
namespace RevPilot.Analytics
open Library Shared Canonical MetricService

/-- The orders are the same up to a cancellation after the time. -/
structure SameOrderUntil (t : UtcDateTime) (o o' : Order) : Prop where
  tenant : o.tenantId = o'.tenantId
  id : o.id = o'.id
  customer : o.customerId = o'.customerId
  total : o.totalCents = o'.totalCents
  time : o.eventTime = o'.eventTime
  cancellation : (o.orderStatus = o'.orderStatus ∧ o.cancelledAt = o'.cancelledAt) ∨
    (cancelledBy t o = false ∧ cancelledBy t o' = false)

/-- The shipments are the same up to a delivery after the time. -/
structure SameShipmentUntil (t : UtcDateTime) (s s' : Shipment) : Prop where
  others : s' = { s with actualDeliveredAt := s'.actualDeliveredAt }
  delivery : s.actualDeliveredAt = s'.actualDeliveredAt ∨ (deliveredBy t s = none ∧ deliveredBy t s' = none)

/-- The records of the tenant up to the time are the same. -/
structure AgreeUntil (tenant : TenantId) (t : UtcDateTime) (d d' : MetricEvaluationDataset) : Prop where
  customers : d.customers.filter (isValid tenant t) = d'.customers.filter (isValid tenant t)
  orders : List.Forall₂ (SameOrderUntil t) (d.orders.filter (isValid tenant t)) (d'.orders.filter (isValid tenant t))
  orderLines : d.orderLines.filter (isValid tenant t) = d'.orderLines.filter (isValid tenant t)
  shipments : List.Forall₂ (SameShipmentUntil t) (d.shipments.filter (isValid tenant t))
    (d'.shipments.filter (isValid tenant t))
  supportTickets : d.supportTickets.filter (isValid tenant t) = d'.supportTickets.filter (isValid tenant t)
  maintenanceEvents : d.maintenanceEvents.filter (isValid tenant t) = d'.maintenanceEvents.filter (isValid tenant t)
  contracts : d.contracts.filter (isValid tenant t) = d'.contracts.filter (isValid tenant t)
  contractClauses : d.contractClauses.filter (isValid tenant t) = d'.contractClauses.filter (isValid tenant t)
  paymentReferences : d.paymentReferences.filter (isValid tenant t) = d'.paymentReferences.filter (isValid tenant t)

section erasure

/-- The order without what is not known of its cancellation at the time. -/
def orderUntil (t : UtcDateTime) (o : Order) : Order :=
  { o with
    orderStatus := if cancelledBy t o then o.orderStatus else .placed
    cancelledAt := if cancelledBy t o then o.cancelledAt else none
    cancelledLater := by
      intro c known
      split_ifs at known
      exact o.cancelledLater c known }

def shipmentUntil (t : UtcDateTime) (s : Shipment) : Shipment := { s with actualDeliveredAt := deliveredBy t s }

def datasetUntil (t : UtcDateTime) (d : MetricEvaluationDataset) : MetricEvaluationDataset :=
  { d with orders := d.orders.map (orderUntil t), shipments := d.shipments.map (shipmentUntil t) }

theorem orderUntil_eq {t : UtcDateTime} {o o' : Order} (same : SameOrderUntil t o o') :
    orderUntil t o = orderUntil t o' := by
  obtain ⟨tenant,id,customer,status,total,time,cancelled,_⟩ := o
  obtain ⟨tenant',id',customer',status',total',time',cancelled',_⟩ := o'
  obtain ⟨tenants,ids,customers,totals,times,cancellation⟩ := same
  simp only at tenants ids customers totals times
  subst tenants ids customers totals times
  rcases cancellation with ⟨statuses,dates⟩ | ⟨unknown,unknown'⟩
  · simp only at statuses dates
    subst statuses dates
    rfl
  · simp [orderUntil,unknown,unknown']

theorem shipmentUntil_eq {t : UtcDateTime} {s s' : Shipment} (same : SameShipmentUntil t s s') :
    shipmentUntil t s = shipmentUntil t s' := by
  have delivered : deliveredBy t s = deliveredBy t s' := by
    rcases same.delivery with equal | ⟨unknown,unknown'⟩
    · simp [deliveredBy,equal]
    · rw [unknown,unknown']
  rw [shipmentUntil,delivered,same.others]
  rfl

theorem map_eq_of_forall₂ {A B : Type} {R : A → A → Prop} {f : A → B} (same : ∀ a b, R a b → f a = f b)
    {xs ys : List A} (related : List.Forall₂ R xs ys) : xs.map f = ys.map f := by
  induction related with
  | nil => rfl
  | cons head _ ih => rw [List.map_cons,List.map_cons,same _ _ head,ih]

/-- What a query reads is the same in data sets that agree. -/
theorem datasetUntil_eq {tenant : TenantId} {t : UtcDateTime} {d d' : MetricEvaluationDataset}
    (agree : AgreeUntil tenant t d d') :
    datasetUntil t (filterTenantAndAsOf d tenant t) = datasetUntil t (filterTenantAndAsOf d' tenant t) := by
  have orders := map_eq_of_forall₂ (R := SameOrderUntil t) (fun _ _ => orderUntil_eq) agree.orders
  have shipments := map_eq_of_forall₂ (R := SameShipmentUntil t) (fun _ _ => shipmentUntil_eq) agree.shipments
  simp only [datasetUntil,filterTenantAndAsOf,agree.customers,orders,agree.orderLines,shipments,agree.supportTickets,
    agree.maintenanceEvents,agree.contracts,agree.contractClauses,agree.paymentReferences]

theorem cancelledBy_mono {t u : UtcDateTime} (earlier : u ≤ t) {o : Order} (known : cancelledBy u o = true) :
    cancelledBy t o = true := by
  simp only [cancelledBy,Bool.and_eq_true,Option.all_eq_true,decide_eq_true_eq] at known ⊢
  refine ⟨known.1,?_⟩
  intro c at_c
  have early : c.micros ≤ u.micros := known.2 c at_c
  have later : u.micros ≤ t.micros := earlier
  exact le_trans early later

/-- Before the time nothing of the cancellation is lost. -/
theorem cancelledBy_until {t u : UtcDateTime} (earlier : u ≤ t) (o : Order) :
    cancelledBy u (orderUntil t o) = cancelledBy u o := by
  by_cases known : cancelledBy t o = true
  · have whole : orderUntil t o = o := by simp [orderUntil,known]
    rw [whole]
  · have unknown : cancelledBy u o = false := by
      by_contra early
      exact known (cancelledBy_mono earlier (by simpa using early))
    have placed : (orderUntil t o).orderStatus = .placed := if_neg known
    rw [unknown,cancelledBy,placed]
    rfl

theorem deliveredBy_until {t u : UtcDateTime} (earlier : u ≤ t) (s : Shipment) :
    deliveredBy u (shipmentUntil t s) = deliveredBy u s := by
  cases delivered : s.actualDeliveredAt with
  | none => simp [deliveredBy,shipmentUntil,delivered,Option.filter]
  | some c =>
    by_cases early : c ≤ u
    · have known : c ≤ t := le_trans (show c.micros ≤ u.micros from early) earlier
      simp [deliveredBy,shipmentUntil,delivered,Option.filter,early,known]
    · by_cases known : c ≤ t
      · simp [deliveredBy,shipmentUntil,delivered,Option.filter,early,known]
      · simp [deliveredBy,shipmentUntil,delivered,Option.filter,early,known]

end erasure

section calculators
variable {t u : UtcDateTime} (tenant : TenantId) (d : MetricEvaluationDataset) (filters : Filters)

/-- The erasure commutes with every selection by tenant, time and keys. -/
theorem filter_orderUntil (p : Order → Bool) (keeps : ∀ o, p (orderUntil t o) = p o) (orders : List Order) :
    (orders.map (orderUntil t)).filter p = (orders.filter p).map (orderUntil t) := by
  rw [List.filter_map]
  congr 1
  exact List.filter_congr (fun o _ => keeps o)

theorem filter_shipmentUntil (p : Shipment → Bool) (keeps : ∀ s, p (shipmentUntil t s) = p s)
    (shipments : List Shipment) :
    (shipments.map (shipmentUntil t)).filter p = (shipments.filter p).map (shipmentUntil t) := by
  rw [List.filter_map]
  congr 1
  exact List.filter_congr (fun s _ => keeps s)

theorem buildIndexes_until :
    buildIndexes (datasetUntil t d) tenant u =
      { buildIndexes d tenant u with
        shipmentsByOrder := fun id => ((buildIndexes d tenant u).shipmentsByOrder id).map (shipmentUntil t) } := by
  simp only [buildIndexes,datasetUntil]
  congr 1
  funext id
  exact filter_shipmentUntil _ (fun _ => rfl) d.shipments

theorem cancellationRate_until (earlier : u ≤ t) :
    calculateCancellationRate tenant (datasetUntil t d) u filters = calculateCancellationRate tenant d u filters := by
  simp only [calculateCancellationRate,buildIndexes_until,admitsShipments,List.any_map,Function.comp_def,
    shipmentUntil]
  rw [show (datasetUntil t d).orders = d.orders.map (orderUntil t) from rfl,
    filter_orderUntil _ (fun _ => rfl) d.orders,List.countP_map,List.length_map]
  congr 1
  apply List.countP_congr
  intro o _
  rw [Function.comp_apply,cancelledBy_until earlier]

theorem revenueAtRisk_until :
    calculateRevenueAtRisk tenant (datasetUntil t d) u filters = calculateRevenueAtRisk tenant d u filters := by
  simp only [calculateRevenueAtRisk,buildIndexes_until,admitsShipments,List.any_map,Function.comp_def,
    shipmentUntil]
  rw [show (datasetUntil t d).orders = d.orders.map (orderUntil t) from rfl,
    filter_orderUntil _ (fun _ => rfl) d.orders,List.map_map,List.length_map]
  rfl

theorem fulfillmentDelayRate_until :
    calculateFulfillmentDelayRate tenant (datasetUntil t d) u filters =
      calculateFulfillmentDelayRate tenant d u filters := by
  simp only [calculateFulfillmentDelayRate]
  rw [show (datasetUntil t d).shipments = d.shipments.map (shipmentUntil t) from rfl,
    filter_shipmentUntil _ (fun _ => rfl) d.shipments,List.countP_map,List.length_map]
  rfl

theorem evaluatedOrder_until (earlier : u ≤ t) (o : Order) :
    evaluatedOrder tenant u filters (buildIndexes (datasetUntil t d) tenant u) (orderUntil t o) =
      evaluatedOrder tenant u filters (buildIndexes d tenant u) o := by
  have delivered (shipments : List Shipment) :
      (((shipments.map (shipmentUntil t)).filter (fun s => admitsField filters "carrier_id" s.carrierId)).filterMap
        (deliveredBy u)) =
      ((shipments.filter (fun s => admitsField filters "carrier_id" s.carrierId)).filterMap (deliveredBy u)) := by
    rw [filter_shipmentUntil _ (fun _ => rfl),List.filterMap_map]
    congr 1
    funext s
    exact deliveredBy_until earlier s
  simp only [evaluatedOrder,buildIndexes_until,delivered]
  rfl

theorem slaViolationRate_until (earlier : u ≤ t) :
    calculateSlaViolationRate tenant (datasetUntil t d) u filters = calculateSlaViolationRate tenant d u filters := by
  simp only [calculateSlaViolationRate]
  rw [show (datasetUntil t d).orders = d.orders.map (orderUntil t) from rfl,List.filterMap_map]
  simp only [Function.comp_def,evaluatedOrder_until tenant d filters earlier]
  rfl

theorem orderVolume_until :
    calculateOrderVolume tenant (datasetUntil t d) u filters = calculateOrderVolume tenant d u filters := by
  simp only [calculateOrderVolume,buildIndexes_until,admitsShipments,List.any_map,Function.comp_def,
    shipmentUntil]
  rw [show (datasetUntil t d).orders = d.orders.map (orderUntil t) from rfl,List.countP_map]
  rfl

theorem shipmentVolume_until :
    calculateShipmentVolume tenant (datasetUntil t d) u filters = calculateShipmentVolume tenant d u filters := by
  simp only [calculateShipmentVolume]
  rw [show (datasetUntil t d).shipments = d.shipments.map (shipmentUntil t) from rfl,List.countP_map]
  rfl

theorem supportTicketVolume_until :
    calculateSupportTicketVolume tenant (datasetUntil t d) u filters =
      calculateSupportTicketVolume tenant d u filters := by
  simp only [calculateSupportTicketVolume,buildIndexes_until]
  rfl

/-- No canonical metric reads what is erased. -/
theorem calculateFn_until {definition : MetricDefinition} (canonical : definition ∈ canonicalMetricDefinitions)
    (earlier : u ≤ t) :
    definition.calculateFn tenant (datasetUntil t d) u filters = definition.calculateFn tenant d u filters := by
  simp only [canonicalMetricDefinitions,List.mem_cons,List.not_mem_nil,or_false] at canonical
  rcases canonical with rfl | rfl | rfl | rfl | rfl | rfl | rfl | rfl | rfl
  · exact congrArg Except.ok (cancellationRate_until tenant d filters earlier)
  · exact revenueAtRisk_until tenant d filters
  · exact congrArg Except.ok (fulfillmentDelayRate_until tenant d filters)
  · exact congrArg Except.ok (slaViolationRate_until tenant d filters earlier)
  · rfl
  · rfl
  · exact congrArg Except.ok (orderVolume_until tenant d filters)
  · exact congrArg Except.ok (shipmentVolume_until tenant d filters)
  · exact congrArg Except.ok (supportTicketVolume_until tenant d filters)

end calculators

section slices
variable {t : UtcDateTime} (d : MetricEvaluationDataset)

theorem sliceDataset_until (metricId : String) (first last : UtcDateTime) :
    sliceDataset (datasetUntil t d) metricId first last = datasetUntil t (sliceDataset d metricId first last) := by
  by_cases snapshot : metricId = "METRIC-002"
  · have orders := filter_orderUntil (t := t) (fun o => decide (o.eventTime ≤ last)) (fun _ => rfl) d.orders
    have shipments := filter_shipmentUntil (t := t) (fun s => decide (s.eventTime ≤ last)) (fun _ => rfl) d.shipments
    simp only [sliceDataset,if_pos snapshot,datasetUntil,orders,shipments]
  · have orders := filter_orderUntil (t := t) (inSlice first last) (fun _ => rfl) d.orders
    have shipments := filter_shipmentUntil (t := t) (inSlice first last) (fun _ => rfl) d.shipments
    simp only [sliceDataset,if_neg snapshot,datasetUntil,orders,shipments]
    rfl

theorem orderDim_until (o : Order) (dim : String) :
    orderDim (datasetUntil t d) (orderUntil t o) dim = orderDim d o dim := by
  have shipments : (datasetUntil t d).shipments.filter (fun s => s.orderId == o.id) =
      (d.shipments.filter (fun s => s.orderId == o.id)).map (shipmentUntil t) :=
    filter_shipmentUntil _ (fun _ => rfl) d.shipments
  have id : (orderUntil t o).id = o.id := rfl
  simp only [orderDim,id,shipments,List.isEmpty_map,List.map_map,Function.comp_def]
  rfl

theorem combos_until (metricId : String) (dims : List String) :
    combos (datasetUntil t d) metricId dims = combos d metricId dims := by
  have orders : (datasetUntil t d).orders = d.orders.map (orderUntil t) := rfl
  have shipments : (datasetUntil t d).shipments = d.shipments.map (shipmentUntil t) := rfl
  simp only [combos,orders,shipments,List.flatMap_map,orderDim_until,List.map_map,Function.comp_def]
  rfl

theorem extractGroups_until (metricId : String) (dims : List String) (filters : Filters) :
    extractGroups (datasetUntil t d) metricId dims filters = extractGroups d metricId dims filters := by
  simp only [extractGroups,combos_until]

variable (platform : Platform) (tenant : TenantId) (request : MetricQueryRequest)

/-- A slice of the erased data set has the same points. -/
theorem evaluateSlice_until {definition : MetricDefinition} (canonical : definition ∈ canonicalMetricDefinitions)
    (slice : UtcDateTime × UtcDateTime) :
    evaluateSlice platform tenant definition request (datasetUntil request.asOfTime d) slice =
      evaluateSlice platform tenant definition request d slice := by
  obtain ⟨first,last⟩ := slice
  have earlier : (if last < request.asOfTime then last else request.asOfTime) ≤ request.asOfTime := by
    split_ifs with before
    · exact le_of_lt (show last.micros < request.asOfTime.micros from before)
    · exact le_refl request.asOfTime.micros
  simp only [evaluateSlice,sliceDataset_until,extractGroups_until,calculateFn_until tenant _ _ canonical earlier]

theorem evaluateSeries_eq {definition : MetricDefinition} (canonical : definition ∈ canonicalMetricDefinitions)
    {d d' : MetricEvaluationDataset} (agree : AgreeUntil tenant request.asOfTime d d') :
    evaluateSeries platform tenant definition request d = evaluateSeries platform tenant definition request d' := by
  have read (e : MetricEvaluationDataset) :
      evaluateSlice platform tenant definition request (filterTenantAndAsOf e tenant request.asOfTime) =
      evaluateSlice platform tenant definition request
        (datasetUntil request.asOfTime (filterTenantAndAsOf e tenant request.asOfTime)) := by
    funext slice
    exact (evaluateSlice_until _ platform tenant request canonical slice).symm
  simp only [evaluateSeries,read d,read d',datasetUntil_eq agree]

end slices

/-- A validated query is about the tenant of its context and a canonical metric. -/
theorem validate_ok {request : MetricQueryRequest} {context : Option TenantContext} {now : UtcDateTime}
    {tenant : TenantId} {definition : MetricDefinition}
    (valid : validate request context now = .ok (tenant,definition)) :
    (∃ c, context = some c ∧ c.tenantId = tenant) ∧ definition ∈ canonicalMetricDefinitions := by
  simp only [validate,Outcome.bind_eq_ok,Outcome.pure_eq_ok] at valid
  obtain ⟨_,owner,_,_,found,known,_,_,same⟩ := valid
  obtain ⟨rfl,rfl⟩ := Prod.mk.inj same
  constructor
  · cases context with
    | none => simp [requireTenant] at owner
    | some c =>
      refine ⟨c,rfl,?_⟩
      simp only [requireTenant] at owner
      split at owner
      · exact Except.ok.inj owner
      · split_ifs at owner
        exact Except.ok.inj owner
  · simp only [requireMetric] at known
    split at known
    · next found listed =>
      obtain rfl := Except.ok.inj known
      simp only [registered] at listed
      exact List.mem_of_find?_eq_some listed
    · exact absurd known (by simp)

/-- Data sets that agree on what the tenant knows at the as-of time answer alike. -/
theorem query_noninterference (platform : Platform) (request : MetricQueryRequest) (context : Option TenantContext)
    (now : UtcDateTime) (digits : String) {d d' : MetricEvaluationDataset}
    (agree : ∀ c, context = some c → AgreeUntil c.tenantId request.asOfTime d d') :
    query platform request context d now digits = query platform request context d' now digits := by
  simp only [query]
  cases valid : validate request context now with
  | error error => simp only [Except.mapError,bind,Except.bind]
  | ok accepted =>
    obtain ⟨tenant,definition⟩ := accepted
    obtain ⟨⟨c,given,rfl⟩,canonical⟩ := validate_ok valid
    have series := evaluateSeries_eq platform c.tenantId request canonical (agree c given)
    simp only [Except.mapError,bind,Except.bind,series]

section samples

def otherTenant : TenantId := ⟨"tnt_other",Eq.refl true⟩

def sampleRequest : MetricQueryRequest :=
  { metricId := "METRIC-001", metricVersion := "1.0.0", timeWindow := ⟨⟨0⟩,⟨10⟩,by decide⟩, grain := "DAILY"
    asOfTime := ⟨5⟩ }

/-- The library functions on what the sample query gives them. -/
def samplePlatform : Platform where
  casing := Text.asciiCasing
  sha256 _ := "ba7b1ef53480a18d3e87b02e3d6334578427661a39e0b7b8b331742cb55ee9df"
  shownText s := "'" ++ s ++ "'"

/-- An order that is cancelled after the as-of time, one of another tenant and a later one. -/
theorem later_cancellation_unseen :
    let own := sampleOrder acmeTenant "ord-1" 2
    query samplePlatform sampleRequest (some ⟨acmeTenant⟩) { orders := [own] } ⟨9⟩ "0a" =
      query samplePlatform sampleRequest (some ⟨acmeTenant⟩)
        { orders := [{ own with orderStatus := .cancelled, cancelledAt := some ⟨7⟩
                                cancelledLater := by intro t at_t; exact Option.some.inj at_t ▸ (by decide) },
            sampleOrder otherTenant "ord-2" 3,sampleOrder acmeTenant "ord-3" 6] } ⟨9⟩ "0a" := by
  apply query_noninterference
  intro c given
  obtain rfl := Option.some.inj given
  constructor
  case orders => exact .cons ⟨rfl,rfl,rfl,rfl,rfl,.inr ⟨by decide,by decide⟩⟩ .nil
  case shipments => exact .nil
  all_goals rfl

end samples
end RevPilot.Analytics
