import RevPilot.Analytics.MetricService
import RevPilot.Library.Outcome
import RevPilot.Library.Slices

/-! Totals over the slices of a window against the count of the whole window. Both ends
belong to a slice, so a record on an inner edge is counted twice; and where no customer
of the tenant falls into a slice, the slice reads all customers up to its end. -/
namespace RevPilot.Analytics
open Library Shared Canonical MetricService Slices

section totals
variable (occupied : Int × Int → Bool) (ts : List Int)

/-- A slice counts its own records, or all up to its end if it falls back on them. -/
def sliceCount (s : Int × Int) : Nat :=
  if occupied s then ts.countP (within s) else ts.countP (fun t => decide (t ≤ s.2))

/-- What a slice counts besides its own records. -/
def fallbackCount (s : Int × Int) : Nat := if occupied s then 0 else ts.countP (fun t => decide (t ≤ s.2))

/-- The slices fall back only where they have no record, and so does what is inside them. -/
structure FallsBack : Prop where
  vacant : ∀ s, occupied s = false → ∀ t ∈ ts, within s t = false
  inner : ∀ s s', occupied s = false → s.1 ≤ s'.1 → s'.2 ≤ s.2 → occupied s' = false

variable {occupied ts}

theorem sliceCount_eq (falls : FallsBack occupied ts) (s : Int × Int) :
    sliceCount occupied ts s = ts.countP (within s) + fallbackCount occupied ts s := by
  cases known : occupied s with
  | true => simp [sliceCount,fallbackCount,known]
  | false =>
    have vacant : ts.countP (within s) = 0 := by
      rw [List.countP_eq_zero]
      intro t inside
      simp [falls.vacant s known t inside]
    simp [sliceCount,fallbackCount,known,vacant]

theorem sum_sliceCount (falls : FallsBack occupied ts) (ss : List (Int × Int)) :
    (ss.map (sliceCount occupied ts)).sum =
      (ss.map (fun s => ts.countP (within s))).sum + (ss.map (fallbackCount occupied ts)).sum := by
  induction ss with
  | nil => rfl
  | cons s ss ih =>
    simp only [List.map_cons,List.sum_cons,ih,sliceCount_eq falls s]
    omega

/-- Where the whole range is vacant every slice counts the same records before it. -/
theorem fallbackCount_vacant (falls : FallsBack occupied ts) {first last : Int}
    (vacant : occupied (first,last) = false) {s : Int × Int} (lower : first ≤ s.1) (order : s.1 ≤ s.2)
    (upper : s.2 ≤ last) :
    fallbackCount occupied ts s = fallbackCount occupied ts (first,last) := by
  have inner : occupied s = false := falls.inner (first,last) s vacant lower upper
  simp only [fallbackCount,vacant,inner]
  apply List.countP_congr
  intro t inside
  have outside := falls.vacant (first,last) vacant t inside
  simp only [within,Bool.and_eq_false_iff,decide_eq_false_iff_not] at outside
  simp only [decide_eq_true_eq]
  omega

theorem fallbackCount_zero (s : Int × Int) :
    fallbackCount occupied ts s = 0 ↔ (occupied s = false → ∀ t ∈ ts, ¬ t ≤ s.2) := by
  cases known : occupied s with
  | true => simp [fallbackCount,known]
  | false => simp [fallbackCount,known,List.countP_eq_zero]

variable {step : Nat} {fuel : Nat} {first last : Int}

/-- The slices add up to the range exactly when no record lies on an inner edge and no
slice falls back on earlier records, unless there is one slice only. -/
theorem total_iff (falls : FallsBack occupied ts) (positive : 0 < step) (enough : last - first ≤ fuel)
    (running : first < last) :
    ((slices step last fuel first).map (sliceCount occupied ts)).sum = sliceCount occupied ts (first,last) ↔
      (∀ t ∈ ts, ∀ s ∈ (slices step last fuel first).tail, t ≠ s.1) ∧
        (last ≤ first + step ∨ ∀ s ∈ slices step last fuel first, occupied s = false → ∀ t ∈ ts, ¬ t ≤ s.2) := by
  have counts := sum_countP_within positive ts enough running
  have total := sum_sliceCount falls (slices step last fuel first)
  have whole := sliceCount_eq falls (first,last)
  have edges : ((slices step last fuel first).tail.map (fun s => ts.countP (fun t => decide (t = s.1)))).sum = 0 ↔
      ∀ t ∈ ts, ∀ s ∈ (slices step last fuel first).tail, t ≠ s.1 := by
    rw [List.sum_eq_zero_iff]
    simp only [List.mem_map,forall_exists_index,and_imp,forall_apply_eq_imp_iff₂,List.countP_eq_zero,
      decide_eq_true_eq]
    exact ⟨fun clear t inside s member => clear s member t inside,fun clear s member t inside => clear t inside s member⟩
  have earlier : ((slices step last fuel first).map (fallbackCount occupied ts)).sum = 0 ↔
      ∀ s ∈ slices step last fuel first, occupied s = false → ∀ t ∈ ts, ¬ t ≤ s.2 := by
    rw [List.sum_eq_zero_iff]
    simp only [List.mem_map,forall_exists_index,and_imp,forall_apply_eq_imp_iff₂,fallbackCount_zero]
  obtain ⟨fuel,rfl⟩ : ∃ n, fuel = n + 1 := ⟨fuel - 1,by omega⟩
  by_cases single : last ≤ first + step
  · have one : slices step last (fuel + 1) first = [(first,last)] := by
      have short : min (first + step) last = last := min_eq_right single
      have finished : slices step last fuel last = [] := by
        cases fuel with
        | zero => rfl
        | succ fuel => simp [slices]
      simp only [slices,if_pos running,short,finished]
    rw [one]
    simp [single]
  · rw [or_iff_right single,← edges,← earlier]
    cases known : occupied (first,last) with
    | true =>
      have none_before : fallbackCount occupied ts (first,last) = 0 := by simp [fallbackCount,known]
      omega
    | false =>
      have bounds {s : Int × Int} (member : s ∈ slices step last (fuel + 1) first) :=
        slices_bounds positive enough member
      have no_edge : ((slices step last (fuel + 1) first).tail.map
          (fun s => ts.countP (fun t => decide (t = s.1)))).sum = 0 := by
        rw [edges]
        intro t inside s member same
        have outside := falls.vacant (first,last) known t inside
        have range := bounds (List.mem_of_mem_tail member)
        simp only [within,Bool.and_eq_false_iff,decide_eq_false_iff_not] at outside
        omega
      have alike : (slices step last (fuel + 1) first).map (fallbackCount occupied ts) =
          (slices step last (fuel + 1) first).map (fun _ => fallbackCount occupied ts (first,last)) := by
        apply List.map_congr_left
        intro s member
        obtain ⟨lower,order,upper⟩ := bounds member
        exact fallbackCount_vacant falls known lower order upper
      have several := two_slices positive enough (not_le.mp single)
      obtain ⟨n,size⟩ := Nat.exists_eq_add_of_le several
      have repeated : ((slices step last (fuel + 1) first).map (fallbackCount occupied ts)).sum =
          n * fallbackCount occupied ts (first,last) + 2 * fallbackCount occupied ts (first,last) := by
        rw [alike,List.map_const',List.sum_replicate,size,smul_eq_mul]
        ring
      have multiple : 0 < n * fallbackCount occupied ts (first,last) → 0 < fallbackCount occupied ts (first,last) :=
        fun more => Nat.pos_of_mul_pos_left more
      constructor
      · intro equal
        refine ⟨no_edge,?_⟩
        omega
      · rintro ⟨_,none_before⟩
        omega

end totals
end RevPilot.Analytics

/-! When the slices of a window partition it for the metrics that count events: the
totals of the slices against those of the snapshot of the same window. -/
namespace RevPilot.Analytics
open Library Shared Canonical MetricService Slices

inductive CountingMetric : Type
  | fulfillmentDelayRate
  | paymentFailureRate
  | customerChurnRate
  | orderVolume
  | shipmentVolume
  | supportTicketVolume
  deriving DecidableEq

def times {A : Type} [TimedRecord A] (records : List A) : List Int :=
  records.map (fun r => (TimedRecord.eventTime r).micros)

namespace CountingMetric

def metricId : CountingMetric → String
  | fulfillmentDelayRate => "METRIC-003"
  | paymentFailureRate => "METRIC-005"
  | customerChurnRate => "METRIC-006"
  | orderVolume => "METRIC-007"
  | shipmentVolume => "METRIC-008"
  | supportTicketVolume => "METRIC-009"

def inCohort (c : Customer) : Bool := [CustomerStatus.active,.churnRisk,.churned].contains c.status

/-- The times of the records that the metric counts. -/
def eligibleTimes : CountingMetric → MetricEvaluationDataset → List Int
  | fulfillmentDelayRate, data => times data.shipments
  | paymentFailureRate, data => times data.paymentReferences
  | customerChurnRate, data => times (data.customers.filter inCohort)
  | orderVolume, data => times data.orders
  | shipmentVolume, data => times data.shipments
  | supportTicketVolume, data => times data.supportTickets

/-- The times of those that its numerator counts. -/
def countedTimes : CountingMetric → MetricEvaluationDataset → List Int
  | fulfillmentDelayRate, data => times (data.shipments.filter (·.isDelayed))
  | paymentFailureRate, data => times (data.paymentReferences.filter (·.paymentStatus == .failed))
  | customerChurnRate, data => times ((data.customers.filter inCohort).filter (·.status == .churned))
  | m, data => m.eligibleTimes data

def isRatio : CountingMetric → Bool
  | fulfillmentDelayRate => true
  | paymentFailureRate => true
  | customerChurnRate => true
  | _ => false

/-- Only the customers of a slice have a fallback. -/
def occupied : CountingMetric → MetricEvaluationDataset → Int × Int → Bool
  | customerChurnRate, data, s => (times data.customers).any (within s)
  | _, _, _ => true

def request (m : CountingMetric) (version grain : String) (window : TimeWindow) (asOf : UtcDateTime) :
    MetricQueryRequest :=
  { metricId := m.metricId, metricVersion := version, timeWindow := window, grain := grain, asOfTime := asOf }

theorem countedTimes_subset (m : CountingMetric) (data : MetricEvaluationDataset) :
    ∀ t ∈ m.countedTimes data, t ∈ m.eligibleTimes data := by
  intro t inside
  cases m with
  | orderVolume => exact inside
  | shipmentVolume => exact inside
  | supportTicketVolume => exact inside
  | _ =>
    obtain ⟨r,member,rfl⟩ := List.mem_map.mp inside
    exact List.mem_map_of_mem (List.mem_of_mem_filter member)

theorem fallsBack (m : CountingMetric) (data : MetricEvaluationDataset) {ts : List Int}
    (eligible : ∀ t ∈ ts, t ∈ m.eligibleTimes data) : FallsBack (m.occupied data) ts := by
  cases m with
  | customerChurnRate =>
    constructor
    · intro s vacant t inside
      obtain ⟨c,member,rfl⟩ := List.mem_map.mp (eligible t inside)
      simp only [occupied,List.any_eq_false,Bool.not_eq_true] at vacant
      exact vacant _ (List.mem_map_of_mem (List.mem_of_mem_filter member))
    · intro s s' vacant lower upper
      simp only [occupied,List.any_eq_false,within,Bool.and_eq_true,decide_eq_true_eq] at vacant ⊢
      intro t inside between
      exact vacant t inside ⟨by omega,by omega⟩
  | _ => exact ⟨fun _ vacant => absurd vacant (by simp [occupied]),fun _ _ vacant => absurd vacant (by simp [occupied])⟩

end CountingMetric

section slices
variable {A : Type} [TimedRecord A] {tenant : TenantId}

/-- The records of a slice that a metric counts, by their times. -/
theorem countP_slice {records : List A} (own : ∀ r ∈ records, TimedRecord.tenantId r = tenant) (first last : UtcDateTime)
    (eligible p : A → Bool) :
    ((records.filter (inSlice first last)).filter (fun r => isValid tenant last r && eligible r)).countP p =
      (times ((records.filter eligible).filter p)).countP (within (first.micros,last.micros)) := by
  simp only [times,List.countP_map,List.countP_filter,List.filter_filter]
  apply List.countP_congr
  intro r member
  have owner := own r member
  have first_le : first ≤ TimedRecord.eventTime r ↔ first.micros ≤ (TimedRecord.eventTime r).micros := Iff.rfl
  have le_last : TimedRecord.eventTime r ≤ last ↔ (TimedRecord.eventTime r).micros ≤ last.micros := Iff.rfl
  simp only [isValid,inSlice,within,owner,first_le,le_last,Function.comp_apply,Bool.and_eq_true,decide_eq_true_eq]
  tauto

/-- Those of all records up to the end of the slice. -/
theorem countP_upTo {records : List A} (own : ∀ r ∈ records, TimedRecord.tenantId r = tenant) (last : UtcDateTime)
    (eligible p : A → Bool) :
    (records.filter (fun r => isValid tenant last r && eligible r)).countP p =
      (times ((records.filter eligible).filter p)).countP (fun t => decide (t ≤ last.micros)) := by
  simp only [times,List.countP_map,List.countP_filter,List.filter_filter]
  apply List.countP_congr
  intro r member
  have owner := own r member
  have le_last : TimedRecord.eventTime r ≤ last ↔ (TimedRecord.eventTime r).micros ≤ last.micros := Iff.rfl
  simp only [isValid,owner,le_last,Function.comp_apply,Bool.and_eq_true,decide_eq_true_eq]
  tauto

end slices

section points

@[simp] theorem admits_empty (key : String) (test : FilterValue → Bool) : admits .empty key test = true := rfl

theorem toSeriesPoint_ratio (first last : UtcDateTime) (dims : Dict String String) (id : String) (grain : MetricGrain)
    (tenant : TenantId) (asOf : UtcDateTime) {n d : Nat} (part : n ≤ d) :
    ∃ point, toSeriesPoint first last dims (ratioValue id grain tenant asOf n d) = .ok point ∧
      point.numeratorValue = n ∧ point.denominatorValue = d := by
  by_cases vacant : d = 0
  · obtain rfl : n = 0 := by omega
    subst vacant
    exact ⟨_,rfl,rfl,rfl⟩
  · have positive : (d : ℚ) ≠ 0 := Nat.cast_ne_zero.mpr vacant
    simp only [ratioValue,if_neg vacant,toSeriesPoint,Option.getD_some]
    simp [positive,MetricNumber.toFloat,bind,Except.bind,pure,Except.pure]

theorem toSeriesPoint_count (first last : UtcDateTime) (dims : Dict String String) (id : String) (tenant : TenantId)
    (asOf : UtcDateTime) (n : Nat) :
    ∃ point, toSeriesPoint first last dims (countValue id tenant asOf n) = .ok point ∧
      point.numeratorValue = n ∧ point.denominatorValue = 0 :=
  ⟨_,rfl,rfl,rfl⟩

end points

/-- Every record that a counting metric may count is the tenant's. -/
structure Owned (tenant : TenantId) (data : MetricEvaluationDataset) : Prop where
  customers : ∀ r ∈ data.customers, TimedRecord.tenantId r = tenant
  orders : ∀ r ∈ data.orders, TimedRecord.tenantId r = tenant
  shipments : ∀ r ∈ data.shipments, TimedRecord.tenantId r = tenant
  supportTickets : ∀ r ∈ data.supportTickets, TimedRecord.tenantId r = tenant
  paymentReferences : ∀ r ∈ data.paymentReferences, TimedRecord.tenantId r = tenant

theorem isValid_owner {A : Type} [TimedRecord A] {tenant : TenantId} {asOf : UtcDateTime} {records : List A} :
    ∀ r ∈ records.filter (isValid tenant asOf), TimedRecord.tenantId r = tenant := by
  intro r member
  have valid := (List.mem_filter.mp member).2
  simp only [isValid,Bool.and_eq_true,decide_eq_true_eq] at valid
  exact valid.1

theorem owned_filter (data : MetricEvaluationDataset) (tenant : TenantId) (asOf : UtcDateTime) :
    Owned tenant (filterTenantAndAsOf data tenant asOf) :=
  ⟨isValid_owner,isValid_owner,isValid_owner,isValid_owner,isValid_owner⟩

section metrics
variable (tenant : TenantId) (data : MetricEvaluationDataset) (first last : UtcDateTime)

def CountingMetric.calculate (m : CountingMetric) (slice : MetricEvaluationDataset) (asOf : UtcDateTime)
    (filters : Filters) : MetricValue :=
  match m with
  | .fulfillmentDelayRate => calculateFulfillmentDelayRate tenant slice asOf filters
  | .paymentFailureRate => calculatePaymentFailureRate tenant slice asOf filters
  | .customerChurnRate => calculateCustomerChurnRate tenant slice asOf filters
  | .orderVolume => calculateOrderVolume tenant slice asOf filters
  | .shipmentVolume => calculateShipmentVolume tenant slice asOf filters
  | .supportTicketVolume => calculateSupportTicketVolume tenant slice asOf filters

/-- The counts of one slice, by the times of the records. -/
def CountingMetric.counts (m : CountingMetric) (s : Int × Int) : ℚ × ℚ :=
  (sliceCount (m.occupied data) (m.countedTimes data) s,
    if m.isRatio then (sliceCount (m.occupied data) (m.eligibleTimes data) s : ℚ) else 0)

variable {tenant data}

theorem count_records {A : Type} [TimedRecord A] {records : List A}
    (own : ∀ r ∈ records, TimedRecord.tenantId r = tenant) (p : A → Bool) :
    ((records.filter (inSlice first last)).filter (isValid tenant last)).countP p =
      (times (records.filter p)).countP (within (first.micros,last.micros)) := by
  have counted := countP_slice own first last (fun _ => true) p
  simpa only [Bool.and_true,List.filter_true] using counted

theorem length_records {A : Type} [TimedRecord A] {records : List A}
    (own : ∀ r ∈ records, TimedRecord.tenantId r = tenant) :
    ((records.filter (inSlice first last)).filter (isValid tenant last)).length =
      (times records).countP (within (first.micros,last.micros)) := by
  have counted := count_records first last own (fun _ => true)
  simpa only [List.countP_true,List.filter_true] using counted

/-- The customers that a slice reads: its own, or all where it has none. -/
theorem count_customers (own : ∀ r ∈ data.customers, TimedRecord.tenantId r = tenant) (p : Customer → Bool) :
    (((sliceDataset data "METRIC-006" first last).customers.filter (fun c =>
        isValid tenant last c && CountingMetric.inCohort c)).countP p) =
      sliceCount (CountingMetric.customerChurnRate.occupied data)
        (times ((data.customers.filter CountingMetric.inCohort).filter p)) (first.micros,last.micros) := by
  have here (c : Customer) : inSlice first last c = within (first.micros,last.micros) c.eventTime.micros := rfl
  have snapshot : "METRIC-006" ≠ "METRIC-002" := by decide
  by_cases vacant : data.customers.filter (inSlice first last) = []
  · have unoccupied : CountingMetric.customerChurnRate.occupied data (first.micros,last.micros) = false := by
      simp only [CountingMetric.occupied,times,List.any_map,List.any_eq_false]
      intro c member
      exact List.filter_eq_nil_iff.mp vacant c member
    rw [sliceCount,if_neg (by simp [unoccupied]),← countP_upTo own last]
    simp [sliceDataset,snapshot,vacant]
  · have occupied : CountingMetric.customerChurnRate.occupied data (first.micros,last.micros) = true := by
      obtain ⟨c,member⟩ := List.exists_mem_of_ne_nil _ vacant
      obtain ⟨known,between⟩ := List.mem_filter.mp member
      rw [here] at between
      exact List.any_eq_true.mpr ⟨_,List.mem_map_of_mem known,between⟩
    rw [sliceCount,if_pos occupied,← countP_slice own first last]
    simp [sliceDataset,snapshot,vacant]

theorem toSeriesPoint_metric (m : CountingMetric) (owned : Owned tenant data) :
    ∃ point, toSeriesPoint first last .empty
        (m.calculate tenant (sliceDataset data m.metricId first last) last .empty) = .ok point ∧
      (point.numeratorValue,point.denominatorValue) = m.counts data (first.micros,last.micros) := by
  cases m with
  | fulfillmentDelayRate =>
    have part := List.countP_le_length (p := fun s : Shipment => s.isDelayed)
      (l := (data.shipments.filter (inSlice first last)).filter (isValid tenant last))
    obtain ⟨point,made,numerator,denominator⟩ :=
      toSeriesPoint_ratio first last .empty "METRIC-003" .daily tenant last part
    refine ⟨point,?_,?_⟩
    · rw [← made]
      simp [CountingMetric.calculate,CountingMetric.metricId,calculateFulfillmentDelayRate,admitsField,sliceDataset]
    · rw [numerator,denominator,count_records first last owned.shipments,length_records first last owned.shipments]
      rfl
  | paymentFailureRate =>
    have part := List.countP_le_length (p := fun s : PaymentReference => s.paymentStatus == .failed)
      (l := (data.paymentReferences.filter (inSlice first last)).filter (isValid tenant last))
    obtain ⟨point,made,numerator,denominator⟩ :=
      toSeriesPoint_ratio first last .empty "METRIC-005" .daily tenant last part
    refine ⟨point,?_,?_⟩
    · rw [← made]
      simp [CountingMetric.calculate,CountingMetric.metricId,calculatePaymentFailureRate,admitsField,sliceDataset]
    · rw [numerator,denominator,count_records first last owned.paymentReferences,
        length_records first last owned.paymentReferences]
      rfl
  | customerChurnRate =>
    have part := List.countP_le_length (p := fun c : Customer => c.status == .churned)
      (l := (sliceDataset data "METRIC-006" first last).customers.filter (fun c =>
        isValid tenant last c && CountingMetric.inCohort c))
    obtain ⟨point,made,numerator,denominator⟩ :=
      toSeriesPoint_ratio first last .empty "METRIC-006" .monthly tenant last part
    refine ⟨point,?_,?_⟩
    · rw [← made]
      simp [CountingMetric.calculate,CountingMetric.metricId,calculateCustomerChurnRate,admitsField,CountingMetric.inCohort]
    · have everyone := count_customers first last owned.customers (fun _ => true)
      rw [List.countP_true,List.filter_true] at everyone
      rw [numerator,denominator,count_customers first last owned.customers,everyone]
      rfl
  | orderVolume =>
    obtain ⟨point,made,numerator,denominator⟩ := toSeriesPoint_count first last .empty "METRIC-007" tenant last
      ((data.orders.filter (inSlice first last)).filter (isValid tenant last)).length
    refine ⟨point,?_,?_⟩
    · rw [← made,← List.countP_eq_length_filter]
      simp [CountingMetric.calculate,CountingMetric.metricId,calculateOrderVolume,admitsTier,admitsShipments,sliceDataset]
    · rw [numerator,denominator,length_records first last owned.orders]
      rfl
  | shipmentVolume =>
    obtain ⟨point,made,numerator,denominator⟩ := toSeriesPoint_count first last .empty "METRIC-008" tenant last
      ((data.shipments.filter (inSlice first last)).filter (isValid tenant last)).length
    refine ⟨point,?_,?_⟩
    · rw [← made,← List.countP_eq_length_filter]
      simp [CountingMetric.calculate,CountingMetric.metricId,calculateShipmentVolume,admitsField,sliceDataset]
    · rw [numerator,denominator,length_records first last owned.shipments]
      rfl
  | supportTicketVolume =>
    obtain ⟨point,made,numerator,denominator⟩ := toSeriesPoint_count first last .empty "METRIC-009" tenant last
      ((data.supportTickets.filter (inSlice first last)).filter (isValid tenant last)).length
    refine ⟨point,?_,?_⟩
    · rw [← made,← List.countP_eq_length_filter]
      simp [CountingMetric.calculate,CountingMetric.metricId,calculateSupportTicketVolume,admitsField,admitsTier,sliceDataset]
    · rw [numerator,denominator,length_records first last owned.supportTickets]
      rfl

end metrics

section series
variable (platform : Platform) (m : CountingMetric) (version : String) (window : TimeWindow) (asOf : UtcDateTime)
  {tenant : TenantId} {data : MetricEvaluationDataset}

def stamp (s : Int × Int) : UtcDateTime × UtcDateTime := (⟨s.1⟩,⟨s.2⟩)

/-- The loop makes the slices unless one of them would end after the last date, cut short or not. -/
theorem slicesFrom_eq (step : Nat) (last : Int) (fuel : Nat) (curr : Int) :
    slicesFrom step last fuel curr =
      if ∀ s ∈ slices step last fuel curr, s.1 + step ≤ UtcDateTime.maxMicros then
        .ok ((slices step last fuel curr).map stamp)
      else .error .dateOverflow := by
  induction fuel generalizing curr with
  | zero => simp [slicesFrom,slices]
  | succ fuel ih =>
    by_cases running : curr < last
    · by_cases dated : curr + step ≤ UtcDateTime.maxMicros
      · simp only [slicesFrom,slices,if_pos running,ih,List.forall_mem_cons,dated,true_and]
        split_ifs <;> rfl
      · simp [slicesFrom,slices,running,dated]
    · simp [slicesFrom,slices,running]

theorem registered_metric : ∃ definition, registered m.metricId = some definition ∧
    definition.metricId = m.metricId ∧
    definition.calculateFn = fun tenant slice asOf filters => .ok (m.calculate tenant slice asOf filters) := by
  cases m <;> exact ⟨_,rfl,rfl,rfl⟩

variable {definition : MetricDefinition} (named : definition.metricId = m.metricId)
  (calculates : definition.calculateFn = fun tenant slice asOf filters => .ok (m.calculate tenant slice asOf filters))
include named calculates

theorem evaluateSlice_counts (owned : Owned tenant data) (grain : String) {s : Int × Int} (known : s.2 ≤ asOf.micros) :
    ∃ point, evaluateSlice platform tenant definition (m.request version grain window asOf) data (stamp s) = .ok [point] ∧
      (point.numeratorValue,point.denominatorValue) = m.counts data s := by
  obtain ⟨point,made,counted⟩ := toSeriesPoint_metric (stamp s).1 (stamp s).2 m owned
  have effective : (if (stamp s).2 < (m.request version grain window asOf).asOfTime then (stamp s).2
      else (m.request version grain window asOf).asOfTime) = (stamp s).2 := by
    split_ifs with before
    · rfl
    · have late : asOf.micros ≤ s.2 := not_lt.mp before
      have same : asOf.micros = s.2 := le_antisymm late known
      exact congrArg UtcDateTime.mk same
  refine ⟨point,?_,counted⟩
  simp only [evaluateSlice,effective,named,calculates]
  exact congrArg (fun p : Except QueryRaise MetricSeriesPoint => p >>= fun point => .ok [point]) made

/-- The sums of the numerators and of the denominators. -/
def totals (points : List MetricSeriesPoint) : ℚ × ℚ :=
  ((points.map (·.numeratorValue)).sum,(points.map (·.denominatorValue)).sum)

omit named calculates in
theorem totals_cons (point : MetricSeriesPoint) (points : List MetricSeriesPoint) :
    totals (point :: points) = (point.numeratorValue,point.denominatorValue) + totals points := by
  simp [totals]

theorem mapM_counts (owned : Owned tenant data) (grain : String) (ss : List (Int × Int))
    (known : ∀ s ∈ ss, s.2 ≤ asOf.micros) :
    ∃ points, (ss.map stamp).mapM (evaluateSlice platform tenant definition (m.request version grain window asOf) data) =
        .ok points ∧
      totals points.flatten = (ss.map (m.counts data)).sum := by
  induction ss with
  | nil => exact ⟨[],rfl,rfl⟩
  | cons s ss ih =>
    obtain ⟨first,rest⟩ := List.forall_mem_cons.mp known
    obtain ⟨point,made,counted⟩ := evaluateSlice_counts platform m version window asOf named calculates owned grain first
    obtain ⟨points,others,sum⟩ := ih rest
    refine ⟨[point] :: points,?_,?_⟩
    · rw [List.map_cons,List.mapM_cons,made,others]
      rfl
    · rw [List.flatten_cons,List.singleton_append,totals_cons,counted,sum,List.map_cons,List.sum_cons]

end series

/-- The totals of the answer, if there is one. -/
def totals? (answer : Except QueryFailure MetricQueryResponse) : Option (ℚ × ℚ) :=
  answer.toOption.map (fun response => totals response.series)

section queries
variable (platform : Platform) (m : CountingMetric) (version grain : String) (window : TimeWindow) {asOf : UtcDateTime}
  (context : TenantContext) (data : MetricEvaluationDataset) {now : UtcDateTime} (digits : String)

theorem validate_counting (past : asOf ≤ now) {definition : MetricDefinition}
    (known : registered m.metricId = some definition) :
    validate (m.request version grain window asOf) (some context) now = .ok (context.tenantId,definition) := by
  have early : ¬ now < asOf := not_lt.mpr (show asOf.micros ≤ now.micros from past)
  have watermark : checkWatermark (m.request version grain window asOf) now = .ok () := if_neg early
  have metric : requireMetric (m.request version grain window asOf) = .ok definition := by
    have asked : registered (m.request version grain window asOf).metricId = some definition := known
    simp only [requireMetric,asked]
  simp only [validate,watermark,metric]
  rfl

/-- The answer of a query by its slices. -/
theorem totals_query (past : asOf ≤ now) {ss : List (Int × Int)}
    (cut : generateTimeSlices platform window grain = .ok (ss.map stamp)) (known : ∀ s ∈ ss, s.2 ≤ asOf.micros) :
    totals? (query platform (m.request version grain window asOf) (some context) data now digits) =
      some (ss.map (m.counts (filterTenantAndAsOf data context.tenantId asOf))).sum := by
  obtain ⟨definition,listed,named,calculates⟩ := registered_metric m
  have owned := owned_filter data context.tenantId asOf
  obtain ⟨points,made,sum⟩ :=
    mapM_counts platform m version window asOf named calculates owned grain ss known
  have series : evaluateSeries platform context.tenantId definition (m.request version grain window asOf) data =
      .ok points.flatten := by
    have slices : generateTimeSlices platform (m.request version grain window asOf).timeWindow
        (m.request version grain window asOf).grain = .ok (ss.map stamp) := cut
    simp only [evaluateSeries,slices]
    exact congrArg (fun p : Except QueryRaise (List (List MetricSeriesPoint)) => p >>= fun points => .ok points.flatten) made
  rw [← sum]
  simp only [query,validate_counting m version grain window context past listed,Except.mapError,bind,Except.bind,series]
  rfl

theorem totals_query_raised (past : asOf ≤ now) {exception : QueryRaise}
    (cut : generateTimeSlices platform window grain = .error exception) :
    totals? (query platform (m.request version grain window asOf) (some context) data now digits) = none := by
  obtain ⟨definition,listed,_,_⟩ := registered_metric m
  have series : evaluateSeries platform context.tenantId definition (m.request version grain window asOf) data =
      .error exception := by
    have slices : generateTimeSlices platform (m.request version grain window asOf).timeWindow
        (m.request version grain window asOf).grain = .error exception := cut
    simp only [evaluateSeries,slices]
    rfl
  simp only [query,validate_counting m version grain window context past listed,Except.mapError,bind,Except.bind,series]
  rfl

theorem snapshot_slices : generateTimeSlices platform window "AS_OF_SNAPSHOT" =
    .ok ([(window.startTime.micros,window.endTime.micros)].map stamp) := by
  have upper : platform.casing.upper "AS_OF_SNAPSHOT" = "AS_OF_SNAPSHOT" := by
    rw [platform.casing.upper_ascii _ (by decide +kernel)]
    decide +kernel
  have bare : Text.strip "AS_OF_SNAPSHOT" = "AS_OF_SNAPSHOT" := by decide +kernel
  simp only [generateTimeSlices,upper,bare,true_or,if_true]
  rfl

end queries

/-- The slices of the range partition the records: no slice runs past the last date, no
record lies on an inner edge, and, unless there is one slice only, no slice without a
customer has records of the metric up to its end. -/
structure SlicesPartition (m : CountingMetric) (data : MetricEvaluationDataset) (step : Nat) (first last : Int) :
    Prop where
  dated : ∀ k : Nat, first + k * step < last → first + k * step + step ≤ UtcDateTime.maxMicros
  clear : ∀ t ∈ m.eligibleTimes data, ∀ k : Nat, 1 ≤ k → first + k * step < last → t ≠ first + k * step
  covered : last ≤ first + step ∨ ∀ k : Nat, first + k * step < last →
    m.occupied data (first + k * step,min (first + k * step + step) last) = false →
      ∀ t ∈ m.eligibleTimes data, ¬ t ≤ min (first + k * step + step) last

section partition
variable (m : CountingMetric) {data : MetricEvaluationDataset}

theorem counts_sum (ss : List (Int × Int)) :
    (ss.map (m.counts data)).sum =
      ((((ss.map (sliceCount (m.occupied data) (m.countedTimes data))).sum : Nat) : ℚ),
        if m.isRatio then (((ss.map (sliceCount (m.occupied data) (m.eligibleTimes data))).sum : Nat) : ℚ) else 0) := by
  induction ss with
  | nil => cases m.isRatio <;> rfl
  | cons s ss ih =>
    rw [List.map_cons,List.sum_cons,ih]
    cases ratio : m.isRatio <;> simp [CountingMetric.counts,ratio]

variable {step fuel : Nat} {first last : Int}

/-- The records of the numerator may be fewer, those of the denominator decide. -/
theorem counts_iff (positive : 0 < step) (enough : last - first ≤ fuel) (running : first < last) :
    ((slices step last fuel first).map (m.counts data)).sum = m.counts data (first,last) ↔
      (∀ t ∈ m.eligibleTimes data, ∀ s ∈ (slices step last fuel first).tail, t ≠ s.1) ∧
        (last ≤ first + step ∨ ∀ s ∈ slices step last fuel first, m.occupied data s = false →
          ∀ t ∈ m.eligibleTimes data, ¬ t ≤ s.2) := by
  have eligible := total_iff (m.fallsBack data (fun t inside => inside)) positive enough running
  have counted := total_iff (m.fallsBack data (m.countedTimes_subset data)) positive enough running
  have subset := m.countedTimes_subset data
  rw [counts_sum,CountingMetric.counts,Prod.mk.injEq,Nat.cast_inj,counted]
  cases ratio : m.isRatio with
  | true =>
    simp only [if_true,Nat.cast_inj,eligible]
    constructor
    · exact fun both => both.2
    · rintro ⟨clear,covered⟩
      refine ⟨⟨fun t inside => clear t (subset t inside),?_⟩,clear,covered⟩
      exact covered.imp_right fun none_before s member vacant t inside => none_before s member vacant t (subset t inside)
  | false =>
    have same : m.countedTimes data = m.eligibleTimes data := by
      cases m with
      | orderVolume => rfl
      | shipmentVolume => rfl
      | supportTicketVolume => rfl
      | _ => cases ratio
    simp only [same]
    exact and_iff_left rfl

theorem slicesPartition_iff (positive : 0 < step) (enough : last - first ≤ fuel) :
    SlicesPartition m data step first last ↔
      (∀ s ∈ slices step last fuel first, s.1 + step ≤ UtcDateTime.maxMicros) ∧
        (∀ t ∈ m.eligibleTimes data, ∀ s ∈ (slices step last fuel first).tail, t ≠ s.1) ∧
        (last ≤ first + step ∨ ∀ s ∈ slices step last fuel first, m.occupied data s = false →
          ∀ t ∈ m.eligibleTimes data, ¬ t ≤ s.2) := by
  have member (k : Nat) (inside : first + k * step < last) :
      (first + k * step,min (first + k * step + step) last) ∈ slices step last fuel first :=
    (mem_slices positive enough _).mpr ⟨k,rfl,inside,rfl⟩
  constructor
  · rintro ⟨dated,clear,covered⟩
    refine ⟨?_,?_,?_⟩
    · intro s at_s
      obtain ⟨k,start,inside,_⟩ := (mem_slices positive enough s).mp at_s
      rw [start] at inside ⊢
      exact dated k inside
    · intro t eligible s at_s
      obtain ⟨k,late,start,inside,_⟩ := (mem_tail_slices positive enough s).mp at_s
      rw [start] at inside ⊢
      exact clear t eligible k late inside
    · refine covered.imp_right fun covered s at_s vacant => ?_
      obtain ⟨k,start,inside,finish⟩ := (mem_slices positive enough s).mp at_s
      obtain ⟨a,b⟩ := s
      simp only at start inside finish
      subst start finish
      exact covered k inside vacant
  · rintro ⟨dated,clear,covered⟩
    refine ⟨?_,?_,?_⟩
    · intro k inside
      exact dated _ (member k inside)
    · intro t eligible k late inside
      exact clear t eligible (first + k * step,min (first + k * step + step) last)
        ((mem_tail_slices positive enough _).mpr ⟨k,late,rfl,inside,rfl⟩)
    · exact covered.imp_right fun covered k inside vacant => covered _ (member k inside) vacant

end partition

theorem grainStep_pos (grain : String) : 0 < grainStep grain := by
  simp only [grainStep]
  split_ifs <;> decide

/-- The totals of the slices are those of the snapshot exactly when the slices partition
what the tenant has at the as-of time. -/
theorem slice_totals_iff (platform : Platform) (m : CountingMetric) (version grain : String) (window : TimeWindow)
    {asOf now : UtcDateTime} (context : TenantContext) (data : MetricEvaluationDataset) (digits : String)
    (sliced : Text.strip (platform.casing.upper grain) ≠ "AS_OF_SNAPSHOT") (known : window.endTime ≤ asOf)
    (past : asOf ≤ now) :
    (∃ total, totals? (query platform (m.request version grain window asOf) (some context) data now digits) =
        some total ∧
      totals? (query platform (m.request version "AS_OF_SNAPSHOT" window asOf) (some context) data now digits) =
        some total) ↔
      SlicesPartition m (filterTenantAndAsOf data context.tenantId asOf)
        (grainStep (Text.strip (platform.casing.upper grain))) window.startTime.micros window.endTime.micros := by
  have upTo : ∀ s ∈ [(window.startTime.micros,window.endTime.micros)], s.2 ≤ asOf.micros := by
    intro s member
    obtain rfl := List.mem_singleton.mp member
    exact known
  have whole := totals_query platform m version "AS_OF_SNAPSHOT" window context data digits past
    (snapshot_slices platform window) upTo
  have positive := grainStep_pos (Text.strip (platform.casing.upper grain))
  by_cases running : window.startTime.micros < window.endTime.micros
  · have enough : window.endTime.micros - window.startTime.micros ≤
        (window.endTime.micros - window.startTime.micros).toNat := Int.self_le_toNat _
    have cut : generateTimeSlices platform window grain =
        slicesFrom (grainStep (Text.strip (platform.casing.upper grain))) window.endTime.micros
          (window.endTime.micros - window.startTime.micros).toNat window.startTime.micros :=
      if_neg (not_or.mpr ⟨sliced,not_le.mpr running⟩)
    rw [slicesFrom_eq] at cut
    rw [slicesPartition_iff m positive enough,whole]
    split_ifs at cut with dated
    · have parts := totals_query platform m version grain window context data digits past cut
        (fun s member => le_trans (slices_bounds positive enough member).2.2 known)
      rw [parts,and_iff_right dated,← counts_iff m positive enough running]
      simp [eq_comm]
    · have raised := totals_query_raised platform m version grain window context data digits past cut
      rw [raised]
      refine iff_of_false ?_ (fun all => dated all.1)
      rintro ⟨_,answered,_⟩
      cases answered
  · have cut : generateTimeSlices platform window grain =
        .ok ([(window.startTime.micros,window.endTime.micros)].map stamp) :=
      if_pos (.inr (not_lt.mp running))
    have parts := totals_query platform m version grain window context data digits past cut upTo
    rw [parts,whole]
    refine iff_of_true ⟨_,rfl,rfl⟩ ⟨?_,?_,.inl (by omega)⟩
    · intro k inside
      have ahead : (0 : Int) ≤ k * grainStep (Text.strip (platform.casing.upper grain)) := by positivity
      omega
    · intro t _ k _ inside
      have ahead : (0 : Int) ≤ k * grainStep (Text.strip (platform.casing.upper grain)) := by positivity
      omega

section samples

def twoHours : TimeWindow := ⟨⟨0⟩,⟨7200000000⟩,by decide⟩

/-- The library functions on what the queries below give them. -/
def hourlyPlatform : Platform where
  casing := Text.asciiCasing
  sha256 s :=
    if s = "tnt_acme:METRIC-007:1.0.0:HOURLY:1970-01-01T00:00:00.000000Z:" ++
      "1970-01-01T02:00:00.000000Z:1970-01-01T02:00:00.000000Z:[]:[]" then "e6f43c2db79d6fe03f14dff0a8877696f0d27cb3a6de935be3935a8c0df2da4f"
    else "7e73720705f3a9ce81769ea1623b32aee5b687f845bde3ef2baa0928fd0305df"
  shownText s := "'" ++ s ++ "'"

/-- The number of orders in two hours, hour by hour or at once. -/
def askOrders (grain : String) (times : List Int) : Except QueryFailure MetricQueryResponse :=
  query hourlyPlatform (CountingMetric.orderVolume.request "1.0.0" grain twoHours ⟨7200000000⟩) (some ⟨acmeTenant⟩)
    { orders := times.map (sampleOrder acmeTenant "ord-1") } ⟨7200000000⟩ "0a"

/-- Orders before and after the full hour. -/
theorem orders_off_edge :
    (∃ total, totals? (askOrders "HOURLY" [1800000000,5400000000]) = some total ∧
      totals? (askOrders "AS_OF_SNAPSHOT" [1800000000,5400000000]) = some total) ↔
    SlicesPartition .orderVolume
      (filterTenantAndAsOf { orders := [1800000000,5400000000].map (sampleOrder acmeTenant "ord-1") } acmeTenant
        ⟨7200000000⟩)
      3600000000 0 7200000000 :=
  slice_totals_iff hourlyPlatform .orderVolume "1.0.0" "HOURLY" twoHours ⟨acmeTenant⟩ _ "0a" (by decide +kernel)
    (by decide) (by decide)

/-- An order at the full hour is in both hours. -/
theorem order_on_edge_counted_twice :
    ¬ ∃ total, totals? (askOrders "HOURLY" [3600000000]) = some total ∧
      totals? (askOrders "AS_OF_SNAPSHOT" [3600000000]) = some total := by
  have hourly : totals? (askOrders "HOURLY" [3600000000]) = some (2,0) := by decide +kernel
  have snapshot : totals? (askOrders "AS_OF_SNAPSHOT" [3600000000]) = some (1,0) := by decide +kernel
  rintro ⟨total,twice,once⟩
  rw [hourly] at twice
  rw [snapshot,← twice] at once
  exact absurd once (by decide)

end samples
end RevPilot.Analytics
