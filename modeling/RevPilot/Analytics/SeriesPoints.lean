import RevPilot.Analytics.MetricRows
import RevPilot.Analytics.Noninterference
import RevPilot.Analytics.SlicePartition

/-! What the points of an answer show of the values that the metrics calculate. A count has no
denominator, and the wrapper takes a missing one for zero. -/
namespace RevPilot.Analytics
open Library Shared Canonical MetricService

/-- The point shows the value, and whether it is that of an empty sample. -/
structure Faithful (point : MetricSeriesPoint) (value : MetricValue) : Prop where
  actual : value.value.toFloat = .ok point.actualValue
  zero : point.isZeroVolumeSample = value.isZeroSample

section values

/-- A ratio, or an amount over the number of its records. -/
structure HasDenominator (value : MetricValue) : Prop where
  stated : ∃ d, value.denominator = some d ∧ (d = 0 ↔ value.isZeroSample = true)
  vacant : value.isZeroSample = true → value.value.toFloat = .ok 0

/-- A number of records. -/
structure IsCount (value : MetricValue) : Prop where
  missing : value.denominator = none
  counted : ∃ n, value.value = .int n ∧ value.isZeroSample = (n == 0)

theorem toFloat_zero : (MetricNumber.int 0).toFloat = .ok 0 := by decide +kernel

theorem hasDenominator_ratio (id : String) (grain : MetricGrain) (tenant : TenantId) (asOf : UtcDateTime) (n d : Nat) :
    HasDenominator (ratioValue id grain tenant asOf n d) := by
  unfold ratioValue
  split
  next vacant => exact ⟨⟨0,rfl,iff_of_true rfl rfl⟩,fun _ => rfl⟩
  next some =>
    have positive : (d : ℚ) ≠ 0 := Nat.cast_ne_zero.mpr some
    exact ⟨⟨d,rfl,iff_of_false positive (by simp)⟩,fun zero => absurd zero (by simp)⟩

theorem hasDenominator_revenue {tenant : TenantId} {data : MetricEvaluationDataset} {asOf : UtcDateTime} {filters : Filters}
    {value : MetricValue} (calculated : calculateRevenueAtRisk tenant data asOf filters = .ok value) :
    HasDenominator value := by
  simp only [calculateRevenueAtRisk,Outcome.bind_eq_ok,Outcome.pure_eq_ok] at calculated
  obtain ⟨numerator,_,rfl⟩ := calculated
  generalize data.orders.filter _ = atRisk
  refine ⟨⟨_,rfl,?_⟩,?_⟩
  · rw [Nat.cast_eq_zero,beq_iff_eq]
  · intro vacant
    rw [beq_iff_eq,List.length_eq_zero_iff] at vacant
    rw [vacant]
    exact toFloat_zero

theorem isCount_value (id : String) (tenant : TenantId) (asOf : UtcDateTime) (n : Nat) :
    IsCount (countValue id tenant asOf n) :=
  ⟨rfl,n,rfl,rfl⟩

variable {definition : MetricDefinition} {tenant : TenantId} {data : MetricEvaluationDataset} {asOf : UtcDateTime}
  {filters : Filters} {value : MetricValue}

/-- The convention of each canonical metric. -/
theorem calculateFn_convention (canonical : definition ∈ canonicalMetricDefinitions)
    (calculated : definition.calculateFn tenant data asOf filters = .ok value) :
    (definition.isCount = false ∧ HasDenominator value) ∨ (definition.isCount = true ∧ IsCount value) := by
  simp only [canonicalMetricDefinitions,List.mem_cons,List.not_mem_nil,or_false] at canonical
  rcases canonical with rfl | rfl | rfl | rfl | rfl | rfl | rfl | rfl | rfl
  case inr.inl => exact .inl ⟨by decide,hasDenominator_revenue calculated⟩
  all_goals cases Except.ok.inj calculated
  all_goals first
    | exact .inl ⟨by decide,hasDenominator_ratio ..⟩
    | exact .inr ⟨by decide,isCount_value ..⟩

theorem countsRows_of_isCount (count : definition.isCount = true) : definition.countsRows = true := by
  obtain ⟨id,name,dims,calculate⟩ := definition
  simp only [MetricDefinition.isCount,List.contains_cons,List.contains_nil,Bool.or_false,Bool.or_eq_true,
    beq_iff_eq] at count
  rcases count with rfl | rfl | rfl <;> rfl

theorem isZeroSample_count (canonical : definition ∈ canonicalMetricDefinitions) (count : definition.isCount = true)
    (calculated : definition.calculateFn tenant data asOf filters = .ok value) :
    value.isZeroSample = true ↔
      ∀ row ∈ rows tenant data asOf definition.metricId, definition.counts filters row = false := by
  obtain ⟨grain,made⟩ := calculateFn_rows canonical (countsRows_of_isCount count)
  obtain rfl := Except.ok.inj (made.symm.trans calculated)
  simp [rowsValue,count,countValue,List.countP_eq_zero]

end values

section points
variable {first last : UtcDateTime} {dims : Dict String String} {point : MetricSeriesPoint} {value : MetricValue}

/-- What the wrapper reads of the value, whatever its numerator. -/
theorem toSeriesPoint_ok (made : toSeriesPoint first last dims value = .ok point) :
    if value.denominator.getD 0 = 0 ∨ value.isZeroSample = true then
      point.actualValue = 0 ∧ point.isZeroVolumeSample = true
    else value.value.toFloat = .ok point.actualValue ∧ point.isZeroVolumeSample = false := by
  unfold toSeriesPoint at made
  cases numerator : value.numerator <;> rw [numerator] at made
  all_goals
    simp only [Outcome.bind_eq_ok] at made
    obtain ⟨_,_,made⟩ := made
    split at made
    next empty =>
      cases made
      rw [if_pos empty]
      exact ⟨rfl,rfl⟩
    next some =>
      rw [Outcome.bind_eq_ok] at made
      obtain ⟨actual,shown,made⟩ := made
      cases made
      rw [if_neg some]
      exact ⟨shown,rfl⟩

theorem faithful_of_denominator (convention : HasDenominator value) (made : toSeriesPoint first last dims value = .ok point) :
    Faithful point value := by
  obtain ⟨d,stated,zero⟩ := convention.stated
  have shown := toSeriesPoint_ok made
  simp only [stated,Option.getD_some,zero,or_self] at shown
  split at shown
  next empty => exact ⟨shown.1 ▸ convention.vacant empty,shown.2.trans empty.symm⟩
  next some => exact ⟨shown.1,shown.2.trans (by simpa using some)⟩

/-- A count is shown as the value of an empty sample. -/
theorem faithful_of_count (convention : IsCount value) (made : toSeriesPoint first last dims value = .ok point) :
    Faithful point value ↔ value.isZeroSample = true := by
  obtain ⟨n,counted,zero⟩ := convention.counted
  have shown := toSeriesPoint_ok made
  rw [convention.missing,Option.getD_none,if_pos (.inl rfl)] at shown
  constructor
  · exact fun faithful => faithful.zero.symm.trans shown.2
  · intro empty
    have none : n = 0 := by
      rw [zero,beq_iff_eq] at empty
      exact empty
    subst none
    exact ⟨by rw [counted,shown.1]; exact toFloat_zero,shown.2.trans empty.symm⟩

theorem faithful_iff {definition : MetricDefinition} (canonical : definition ∈ canonicalMetricDefinitions)
    {tenant : TenantId} {data : MetricEvaluationDataset} {asOf : UtcDateTime} {filters : Filters}
    (calculated : definition.calculateFn tenant data asOf filters = .ok value)
    (made : toSeriesPoint first last dims value = .ok point) :
    Faithful point value ↔ definition.isCount = false ∨
      ∀ row ∈ rows tenant data asOf definition.metricId, definition.counts filters row = false := by
  rcases calculateFn_convention canonical calculated with ⟨share,convention⟩ | ⟨count,convention⟩
  · exact iff_of_true (faithful_of_denominator convention made) (.inl share)
  · rw [faithful_of_count convention made,isZeroSample_count canonical count calculated,count]
    simp

end points

section cells
variable (platform : Platform) (tenant : TenantId) (definition : MetricDefinition) (request : MetricQueryRequest)
  (data : MetricEvaluationDataset) (slice : UtcDateTime × UtcDateTime)

/-- The end of the slice, or the as-of time if that comes first. -/
def effectiveAsOf (last : UtcDateTime) : UtcDateTime := if last < request.asOfTime then last else request.asOfTime

/-- The filters of the points of a slice: the request's, or with each group's. -/
def cellFilters : List Filters :=
  let filters := cleanFilters request
  if request.groupByDimensions.isEmpty then [filters]
  else
    (extractGroups (sliceDataset data definition.metricId slice.1 slice.2) definition.metricId
      request.groupByDimensions filters).map (combinedFilters platform filters)

/-- The metric's value under the filters on the data of the slice. -/
def cellValue (filters : Filters) : Except QueryRaise MetricValue :=
  definition.calculateFn tenant (sliceDataset data definition.metricId slice.1 slice.2) (effectiveAsOf request slice.2)
    filters

variable {platform tenant definition request data slice}

/-- A point for each cell, or one that stands for no group. -/
theorem evaluateSlice_cells {points : List MetricSeriesPoint}
    (made : evaluateSlice platform tenant definition request data slice = .ok points) :
    (cellFilters platform definition request data slice = [] ∧
        points = [zeroGroupPoint slice.1 slice.2 request.groupByDimensions]) ∨
      List.Forall₂ (fun filters point => ∃ value dims, cellValue tenant definition request data slice filters = .ok value ∧
          toSeriesPoint slice.1 slice.2 dims value = .ok point)
        (cellFilters platform definition request data slice) points := by
  simp only [evaluateSlice] at made
  split at made
  next ungrouped =>
    simp only [Outcome.bind_eq_ok,Outcome.pure_eq_ok] at made
    obtain ⟨value,calculated,point,shown,rfl⟩ := made
    rw [cellFilters,if_pos ungrouped]
    exact .inr (.cons ⟨value,_,calculated,shown⟩ .nil)
  next grouped =>
    rw [cellFilters,if_neg grouped]
    split at made
    next none =>
      cases made
      exact .inl ⟨by rw [List.isEmpty_iff.mp none,List.map_nil],rfl⟩
    next =>
      rw [Outcome.mapM_forall₂] at made
      rw [List.forall₂_map_left_iff]
      refine .inr (made.imp ?_)
      intro group point shown
      rw [Outcome.bind_eq_ok] at shown
      obtain ⟨value,calculated,shown⟩ := shown
      exact ⟨value,group,calculated,shown⟩

end cells

section queries
variable {platform : Platform} {request : MetricQueryRequest} {context : Option TenantContext}
  {data : MetricEvaluationDataset} {now : UtcDateTime} {digits : String} {response : MetricQueryResponse}

theorem validate_registered {tenant : TenantId} {definition : MetricDefinition}
    (valid : validate request context now = .ok (tenant,definition)) : registered request.metricId = some definition := by
  simp only [validate,Outcome.bind_eq_ok,Outcome.pure_eq_ok] at valid
  obtain ⟨_,_,_,_,found,known,_,_,same⟩ := valid
  obtain ⟨rfl,rfl⟩ := Prod.mk.inj same
  simp only [requireMetric] at known
  split at known
  next found listed =>
    cases known
    exact listed
  next => cases known

/-- An answer, slice by slice. -/
theorem query_slices (answered : query platform request context data now digits = .ok response) :
    ∃ definition ∈ canonicalMetricDefinitions, registered request.metricId = some definition ∧
      response.metricId = definition.metricId ∧ (∃ c, context = some c ∧ c.tenantId = response.tenantId) ∧
      ∃ slices parts, generateTimeSlices platform request.timeWindow request.grain = .ok slices ∧
        response.series = parts.flatten ∧
        List.Forall₂ (fun slice points => evaluateSlice platform response.tenantId definition request
          (filterTenantAndAsOf data response.tenantId request.asOfTime) slice = .ok points) slices parts := by
  simp only [query,Outcome.bind_eq_ok,Outcome.mapError_eq_ok,Outcome.pure_eq_ok] at answered
  obtain ⟨⟨tenant,definition⟩,valid,series,evaluated,rfl⟩ := answered
  obtain ⟨owner,canonical⟩ := validate_ok valid
  simp only [evaluateSeries,Outcome.bind_eq_ok,Outcome.pure_eq_ok,Outcome.mapM_forall₂] at evaluated
  obtain ⟨slices,cut,parts,made,rfl⟩ := evaluated
  exact ⟨definition,canonical,validate_registered valid,rfl,owner,slices,parts,cut,rfl,made⟩

end queries

/-- The points of a slice, one for each cell, show the values under a condition. -/
def CellsShown (platform : Platform) (tenant : TenantId) (definition : MetricDefinition) (request : MetricQueryRequest)
    (data : MetricEvaluationDataset) (slice : UtcDateTime × UtcDateTime) (points : List MetricSeriesPoint)
    (shown : Filters → Prop) : Prop :=
  let cells := cellFilters platform definition request data slice
  (cells = [] ∧ points = [zeroGroupPoint slice.1 slice.2 request.groupByDimensions]) ∨
    List.Forall₂ (fun filters point => ∃ value,
      cellValue tenant definition request data slice filters = .ok value ∧ (Faithful point value ↔ shown filters)) cells points

def CountsNothing (tenant : TenantId) (definition : MetricDefinition) (request : MetricQueryRequest)
    (data : MetricEvaluationDataset) (slice : UtcDateTime × UtcDateTime) (filters : Filters) : Prop :=
  ∀ row ∈ rows tenant (sliceDataset data definition.metricId slice.1 slice.2) (effectiveAsOf request slice.2)
    definition.metricId, definition.counts filters row = false

/-- The points of an answer show the values of the metric, but for the counts of something. -/
theorem query_points {platform : Platform} {request : MetricQueryRequest} {context : Option TenantContext}
    {data : MetricEvaluationDataset} {now : UtcDateTime} {digits : String} {response : MetricQueryResponse}
    (answered : query platform request context data now digits = .ok response) :
    ∃ definition ∈ canonicalMetricDefinitions, response.metricId = definition.metricId ∧
      ∃ slices parts, generateTimeSlices platform request.timeWindow request.grain = .ok slices ∧
        response.series = parts.flatten ∧
        List.Forall₂ (fun slice points =>
          let known := filterTenantAndAsOf data response.tenantId request.asOfTime
          CellsShown platform response.tenantId definition request known slice points (fun filters =>
            definition.isCount = false ∨ CountsNothing response.tenantId definition request known slice filters))
          slices parts := by
  obtain ⟨definition,canonical,_,named,_,slices,parts,cut,series,made⟩ := query_slices answered
  refine ⟨definition,canonical,named,slices,parts,cut,series,made.imp ?_⟩
  intro slice points evaluated
  refine (evaluateSlice_cells evaluated).imp_right (fun cells => cells.imp ?_)
  rintro filters point ⟨value,dims,calculated,shown⟩
  exact ⟨value,calculated,faithful_iff canonical calculated shown⟩

section samples

def volumeRequest : MetricQueryRequest := { sampleRequest with metricId := "METRIC-007" }

def askVolume : Except QueryFailure MetricQueryResponse :=
  query samplePlatform volumeRequest (some ⟨acmeTenant⟩) { orders := [sampleOrder acmeTenant "ord-1" 2] } ⟨9⟩ "0a"

def askedPoints : Option (List (ℚ × Bool)) :=
  askVolume.toOption.map (fun response => response.series.map (fun p => (p.actualValue,p.isZeroVolumeSample)))

theorem askVolume_points : askedPoints = some [(0,true)] := by decide +kernel

theorem askVolume_answered : ∃ response, askVolume = .ok response ∧
    response.series.map (fun p => (p.actualValue,p.isZeroVolumeSample)) = [(0,true)] := by
  have points := askVolume_points
  unfold askedPoints at points
  cases answered : askVolume with
  | error e =>
    rw [answered] at points
    cases points
  | ok response =>
    rw [answered] at points
    exact ⟨response,rfl,Option.some.inj points⟩

theorem one_order_points : ∃ response, askVolume = .ok response ∧
    ∃ definition ∈ canonicalMetricDefinitions, response.metricId = definition.metricId ∧
      ∃ slices parts, generateTimeSlices samplePlatform volumeRequest.timeWindow volumeRequest.grain = .ok slices ∧
        response.series = parts.flatten ∧
        List.Forall₂ (fun slice points =>
          let known := filterTenantAndAsOf { orders := [sampleOrder acmeTenant "ord-1" 2] } response.tenantId
            volumeRequest.asOfTime
          CellsShown samplePlatform response.tenantId definition volumeRequest known slice points (fun filters =>
            definition.isCount = false ∨ CountsNothing response.tenantId definition volumeRequest known slice filters))
          slices parts := by
  obtain ⟨response,answered,_⟩ := askVolume_answered
  exact ⟨response,answered,query_points answered⟩

/-- One order is counted, but shown as none. -/
theorem one_order_shown_as_none : ¬ ∀ response, askVolume = .ok response → ∀ point ∈ response.series,
    Faithful point (calculateOrderVolume acmeTenant
      (sliceDataset { orders := [sampleOrder acmeTenant "ord-1" 2] } "METRIC-007" ⟨0⟩ ⟨10⟩) ⟨5⟩ .empty) := by
  intro all
  obtain ⟨response,answered,shown⟩ := askVolume_answered
  obtain ⟨point,single,values⟩ := List.map_eq_singleton_iff.mp shown
  have faithful := all response answered point (by simp [single])
  have counted : (calculateOrderVolume acmeTenant
      (sliceDataset { orders := [sampleOrder acmeTenant "ord-1" 2] } "METRIC-007" ⟨0⟩ ⟨10⟩) ⟨5⟩ .empty).isZeroSample =
      false := by decide +kernel
  have zero := faithful.zero
  rw [counted,(Prod.mk.inj values).2] at zero
  cases zero

end samples
end RevPilot.Analytics
