import RevPilot.Analytics.SeriesPoints
import RevPilot.Library.Lists

/-! When the groups of a query by one dimension partition the records in scope. The groups
are collected from one reading of a record and filtered by another. -/
namespace RevPilot.Analytics
open Library Shared Canonical MetricService

namespace MetricDefinition

/-- The dimensions that have one value for each record that the metric counts. -/
def singleValued (definition : MetricDefinition) (dim : String) : Bool :=
  definition.allowedDimensions.contains dim &&
    (["METRIC-003","METRIC-005","METRIC-006","METRIC-008","METRIC-009"].contains definition.metricId ||
      dim == "customer_tier" && ["METRIC-001","METRIC-007"].contains definition.metricId)

def numerator (definition : MetricDefinition) (counted : Row → Bool) (all : List Row) : Nat :=
  all.countP (if definition.isCount then counted else fun r => r.hit && counted r)

def denominator (definition : MetricDefinition) (counted : Row → Bool) (all : List Row) : Nat :=
  if definition.isCount then 0 else all.countP counted

/-- The row is counted but for a filter on the dimension. -/
def countsBut (definition : MetricDefinition) (dim : String) (filters : Filters) (row : Row) : Bool :=
  row.counted (definition.allowedDimensions.erase dim) filters

end MetricDefinition

section measures
variable (definition : MetricDefinition) {all : List Row}

/-- A further condition leaves numerator and denominator as they are if it holds of all that is counted. -/
theorem measures_and_iff (p q : Row → Bool) :
    (definition.numerator (fun r => p r && q r) all = definition.numerator p all ∧
        definition.denominator (fun r => p r && q r) all = definition.denominator p all) ↔
      ∀ r ∈ all, p r = true → q r = true := by
  unfold MetricDefinition.numerator MetricDefinition.denominator
  cases definition.isCount with
  | true =>
    simp only [if_true,and_true]
    exact countP_and_eq_iff p q all
  | false =>
    simp only [Bool.false_eq_true,if_false,countP_and_eq_iff p q all,← Bool.and_assoc,
      countP_and_eq_iff (fun r => r.hit && p r) q all]
    constructor
    · exact fun both => both.2
    · intro each
      refine ⟨?_,each⟩
      intro r inside hit
      exact each r inside (Bool.and_eq_true_iff.mp hit).2

/-- The groups of some values hold their rows once. -/
theorem measures_groups {groups : List String} (distinct : groups.Nodup) {values : Row → List String}
    (single : ∀ r ∈ all, (values r).length ≤ 1) (p : Row → Bool) :
    (groups.map (fun g => definition.numerator (fun r => p r && (values r).contains g) all)).sum =
        definition.numerator (fun r => p r && (values r).any groups.contains) all ∧
      (groups.map (fun g => definition.denominator (fun r => p r && (values r).contains g) all)).sum =
        definition.denominator (fun r => p r && (values r).any groups.contains) all := by
  unfold MetricDefinition.numerator MetricDefinition.denominator
  cases definition.isCount with
  | true =>
    simp only [if_true,sum_countP_groups distinct single p,true_and]
    simp
  | false =>
    simp only [Bool.false_eq_true,if_false,sum_countP_groups distinct single p,← Bool.and_assoc,
      sum_countP_groups distinct single (fun r => r.hit && p r),true_and]

end measures

section filters
variable {definition : MetricDefinition} {dim : String} (filters : Filters) (row : Row)

theorem counts_but (inside : dim ∈ definition.allowedDimensions) :
    definition.counts filters row = (definition.countsBut dim filters row && row.passes filters dim) := by
  have split := (List.perm_cons_erase inside).all_eq (f := row.passes filters)
  simp only [MetricDefinition.counts,MetricDefinition.countsBut,Row.counted,split,List.all_cons,Bool.and_assoc,Bool.and_comm]

/-- What a filter on the dimension is does not matter to the others. -/
theorem countsBut_set (distinct : definition.allowedDimensions.Nodup) (v : FilterValue) :
    definition.countsBut dim (filters.set dim v) row = definition.countsBut dim filters row := by
  simp only [MetricDefinition.countsBut,Row.counted]
  congr 1
  rw [Bool.eq_iff_iff,List.all_eq_true,List.all_eq_true]
  apply forall₂_congr
  intro k member
  have other : k ≠ dim := ((distinct.mem_erase_iff).mp member).1
  simp only [Row.passes,admits,Dict.get?_set,if_neg other]

theorem passes_set (g shown : String) :
    row.passes (filters.set dim ⟨some g,g,shown⟩) dim = (row.values dim).contains g := by
  simp only [Row.passes,admits,Dict.get?_set,if_true,Option.all_some,List.contains_eq_any_beq]
  rfl

theorem combinedFilters_single (platform : Platform) (g : String) :
    combinedFilters platform filters (toDict [(dim,g)]) = filters.set dim ⟨some g,g,platform.shownText g⟩ := rfl

theorem counts_group (inside : dim ∈ definition.allowedDimensions) (distinct : definition.allowedDimensions.Nodup)
    (platform : Platform) (g : String) :
    definition.counts (combinedFilters platform filters (toDict [(dim,g)])) row =
      (definition.countsBut dim filters row && (row.values dim).contains g) := by
  rw [combinedFilters_single,counts_but _ _ inside,countsBut_set _ _ distinct,passes_set]

end filters

def collects (dim : String) (all : List Row) (v : String) : Bool := all.any (fun r => (r.collected dim).contains v)

/-- Every counted row has a value that is collected; under a filter on the dimension whose
`str` is another text, as many rows have the value as have that text and are collected. -/
structure GroupsPartition (definition : MetricDefinition) (dim : String) (filters : Filters) (all : List Row) : Prop where
  covered : (∀ f, filters.get? dim = some f → f.equals f.text = true) →
    ∀ r ∈ all, definition.counts filters r = true → ∃ v ∈ r.values dim, collects dim all v = true
  alike : ∀ f, filters.get? dim = some f → f.equals f.text = false →
    let grouped (r : Row) := definition.countsBut dim filters r && ((r.values dim).contains f.text && collects dim all f.text)
    let whole (r : Row) := definition.countsBut dim filters r && (r.values dim).any f.equals
    definition.numerator grouped all = definition.numerator whole all ∧
      definition.denominator grouped all = definition.denominator whole all

section partition
variable {definition : MetricDefinition} {dim : String} {filters : Filters} {all : List Row}

theorem mem_groupValues (v : String) : v ∈ groupValues filters dim all ↔
    collects dim all v = true ∧ ∀ f, filters.get? dim = some f → v = f.text := by
  simp only [groupValues,List.mem_dedup,List.mem_filter,List.mem_flatMap,collects,List.any_eq_true,List.contains_iff_mem,
    Option.all_eq_true,beq_iff_eq]

theorem measures_congr {p q : Row → Bool} (same : ∀ r ∈ all, p r = q r) (definition : MetricDefinition) :
    definition.numerator p all = definition.numerator q all ∧
      definition.denominator p all = definition.denominator q all := by
  have counts : all.countP p = all.countP q := List.countP_congr (fun r inside => by rw [same r inside])
  have hits : all.countP (fun r => r.hit && p r) = all.countP (fun r => r.hit && q r) :=
    List.countP_congr (fun r inside => by rw [same r inside])
  unfold MetricDefinition.numerator MetricDefinition.denominator
  cases definition.isCount <;> simp [counts,hits]

theorem any_groupValues (r : Row) : (r.values dim).any (groupValues filters dim all).contains = true ↔
    ∃ v ∈ r.values dim, collects dim all v = true ∧ ∀ f, filters.get? dim = some f → v = f.text := by
  simp only [List.any_eq_true,List.contains_iff_mem,mem_groupValues]

theorem passes_iff (r : Row) : r.passes filters dim = true ↔
    ∀ f, filters.get? dim = some f → ∃ v ∈ r.values dim, f.chars = some v := by
  simp only [Row.passes,admits,Option.all_eq_true,List.any_eq_true,FilterValue.equals,beq_iff_eq]

variable (all)

/-- Under a filter whose `str` is another text, the group is that of the text. -/
theorem grouped_text {f : FilterValue} (at_dim : filters.get? dim = some f) (r : Row) :
    (r.values dim).any (groupValues filters dim all).contains =
      ((r.values dim).contains f.text && collects dim all f.text) := by
  rw [Bool.eq_iff_iff,any_groupValues,Bool.and_eq_true,List.contains_iff_mem]
  constructor
  · rintro ⟨v,known,collected,text⟩
    obtain rfl := text f at_dim
    exact ⟨known,collected⟩
  · rintro ⟨known,collected⟩
    refine ⟨f.text,known,collected,?_⟩
    intro f' at_dim'
    rw [Option.some.inj (at_dim.symm.trans at_dim')]

variable (inside : dim ∈ definition.allowedDimensions) (single : ∀ r ∈ all, (r.values dim).length ≤ 1)
include inside

/-- Under a plain filter, or none, the groups are within what is counted. -/
theorem grouped_plain (plain : ∀ f, filters.get? dim = some f → f.equals f.text = true) (r : Row) :
    (definition.countsBut dim filters r && (r.values dim).any (groupValues filters dim all).contains) =
      (definition.counts filters r && (r.values dim).any (groupValues filters dim all).contains) := by
  rw [counts_but filters r inside,Bool.and_assoc]
  cases grouped : (r.values dim).any (groupValues filters dim all).contains with
  | false => simp only [Bool.and_false]
  | true =>
    obtain ⟨v,known,_,text⟩ := (any_groupValues r).mp grouped
    have passed : r.passes filters dim = true := by
      rw [passes_iff]
      intro f at_dim
      have same := beq_iff_eq.mp (plain f at_dim)
      exact ⟨v,known,same.trans (congrArg some (text f at_dim).symm)⟩
    rw [passed,Bool.true_and]

variable {all}
include single

theorem groupsPartition_iff :
    (let grouped (r : Row) := definition.countsBut dim filters r &&
       (r.values dim).any (groupValues filters dim all).contains
     definition.numerator grouped all = definition.numerator (definition.counts filters) all ∧
      definition.denominator grouped all = definition.denominator (definition.counts filters) all) ↔
      GroupsPartition definition dim filters all := by
  by_cases plain : ∀ f, filters.get? dim = some f → f.equals f.text = true
  · have same := measures_congr (fun r (_ : r ∈ all) => grouped_plain all inside plain r) definition
    simp only [same.1,same.2,measures_and_iff]
    constructor
    · intro all_grouped
      constructor
      · intro _ r member counted
        obtain ⟨v,known,collected,_⟩ := (any_groupValues r).mp (all_grouped r member counted)
        exact ⟨v,known,collected⟩
      · intro f at_dim other
        exact absurd (plain f at_dim) (by simp [other])
    · intro partition r member counted
      obtain ⟨v,known,collected⟩ := partition.covered plain r member counted
      refine (any_groupValues r).mpr ⟨v,known,collected,?_⟩
      intro f at_dim
      rw [counts_but filters r inside,Bool.and_eq_true,passes_iff] at counted
      obtain ⟨w,known',chars⟩ := counted.2 f at_dim
      -- the one value of the row is the filter's
      have one : v = w := by
        have short := single r member
        obtain ⟨x,only⟩ := List.length_eq_one_iff.mp (le_antisymm short (List.length_pos_of_mem known))
        rw [only,List.mem_singleton] at known known'
        exact known.trans known'.symm
      have text := beq_iff_eq.mp (plain f at_dim)
      rw [one]
      exact Option.some.inj (chars.symm.trans text)
  · push Not at plain
    obtain ⟨f,at_dim,other⟩ := plain
    have grouped := measures_congr (fun r (_ : r ∈ all) =>
      congrArg (definition.countsBut dim filters r && ·) (grouped_text all at_dim r)) definition
    have named (r : Row) : definition.counts filters r =
        (definition.countsBut dim filters r && (r.values dim).any f.equals) := by
      rw [counts_but filters r inside,Row.passes,admits,at_dim,Option.all_some]
    have whole := measures_congr (fun r (_ : r ∈ all) => named r) definition
    simp only [grouped.1,grouped.2,whole.1,whole.2]
    constructor
    · intro alike
      constructor
      · intro plain
        exact absurd (plain f at_dim) other
      · intro f' at_dim' _
        obtain rfl := Option.some.inj (at_dim.symm.trans at_dim')
        exact alike
    · intro partition
      exact partition.alike f at_dim (by simpa using other)

end partition

section singles
variable {definition : MetricDefinition} {dim : String} (single : definition.singleValued dim = true)
include single

theorem singleValued_counting : definition.countsRows = true ∧ dim ∈ definition.allowedDimensions := by
  obtain ⟨id,name,dims,calculate⟩ := definition
  simp only [MetricDefinition.singleValued,MetricDefinition.countsRows,List.contains_cons,List.contains_nil,Bool.or_false,
    Bool.or_eq_true,Bool.and_eq_true,beq_iff_eq,List.contains_iff_mem] at single ⊢
  tauto

theorem values_single (tenant : TenantId) (data : MetricEvaluationDataset) (asOf : UtcDateTime) :
    ∀ r ∈ rows tenant data asOf definition.metricId, (r.values dim).length ≤ 1 := by
  have short {A : Type} (a : Option A) : a.toList.length ≤ 1 := by cases a <;> simp
  obtain ⟨id,name,dims,calculate⟩ := definition
  simp only [MetricDefinition.singleValued,List.contains_cons,List.contains_nil,Bool.or_false,Bool.or_eq_true,
    Bool.and_eq_true,beq_iff_eq] at single
  have each {A : Type} {records : List A} (row : A → Row) (here : ∀ a, ((row a).values dim).length ≤ 1) :
      ∀ r ∈ records.map row, (r.values dim).length ≤ 1 := List.forall_mem_map.mpr (fun a _ => here a)
  rcases single.2 with (rfl | rfl | rfl | rfl | rfl) | ⟨rfl,rfl | rfl⟩
  · exact each (shipmentRow tenant asOf) (fun s => short _)
  · exact each (paymentRow tenant asOf) (fun p => le_refl 1)
  · refine each (customerRow tenant asOf) (fun c => ?_)
    simp only [customerRow]
    split <;> exact le_refl 1
  · exact each (shipmentRow tenant asOf) (fun s => short _)
  · refine each (ticketRow tenant data asOf) (fun t => ?_)
    simp only [ticketRow]
    split
    · exact short _
    · exact le_refl 1
  · exact each (orderRow tenant data asOf) (fun o => short _)
  · exact each (orderRow tenant data asOf) (fun o => short _)

end singles

theorem allowedDimensions_nodup {definition : MetricDefinition} (canonical : definition ∈ canonicalMetricDefinitions) :
    definition.allowedDimensions.Nodup := by
  simp only [canonicalMetricDefinitions,List.mem_cons,List.not_mem_nil,or_false] at canonical
  rcases canonical with rfl | rfl | rfl | rfl | rfl | rfl | rfl | rfl | rfl
  all_goals simp

section totals
variable {tenant : TenantId} {definition : MetricDefinition} {request : MetricQueryRequest}
  {data : MetricEvaluationDataset} {slice : UtcDateTime × UtcDateTime}

/-- The rows that the metric reads in a slice. -/
def sliceRows (tenant : TenantId) (definition : MetricDefinition) (request : MetricQueryRequest)
    (data : MetricEvaluationDataset) (slice : UtcDateTime × UtcDateTime) : List Row :=
  rows tenant (sliceDataset data definition.metricId slice.1 slice.2) (effectiveAsOf request slice.2) definition.metricId

theorem point_measures {asOf first last : UtcDateTime} {dims : Dict String String} {grain : MetricGrain} {filters : Filters}
    {point : MetricSeriesPoint}
    (shown : toSeriesPoint first last dims (rowsValue tenant data asOf filters definition grain) = .ok point) :
    point.numeratorValue = definition.numerator (definition.counts filters) (rows tenant data asOf definition.metricId) ∧
      point.denominatorValue =
        definition.denominator (definition.counts filters) (rows tenant data asOf definition.metricId) := by
  unfold MetricDefinition.numerator MetricDefinition.denominator
  cases volume : definition.isCount with
  | true =>
    simp only [rowsValue,volume,if_true] at shown ⊢
    obtain ⟨point',made,numerator,denominator⟩ := toSeriesPoint_count first last dims definition.metricId tenant asOf
      ((rows tenant data asOf definition.metricId).countP (definition.counts filters))
    obtain rfl := Except.ok.inj (made.symm.trans shown)
    exact ⟨numerator,denominator.trans Nat.cast_zero.symm⟩
  | false =>
    simp only [rowsValue,volume,Bool.false_eq_true,if_false] at shown ⊢
    have part : (rows tenant data asOf definition.metricId).countP (fun r => r.hit && definition.counts filters r) ≤
        (rows tenant data asOf definition.metricId).countP (definition.counts filters) :=
      List.countP_mono_left (fun r _ both => (Bool.and_eq_true_iff.mp both).2)
    obtain ⟨point',made,measures⟩ :=
      toSeriesPoint_ratio first last dims definition.metricId grain tenant asOf part
    obtain rfl := Except.ok.inj (made.symm.trans shown)
    exact measures

/-- The totals of the points of the cells. -/
theorem totals_cells (canonical : definition ∈ canonicalMetricDefinitions) (counting : definition.countsRows = true)
    {cells : List Filters} {points : List MetricSeriesPoint}
    (shown : List.Forall₂ (fun filters point => ∃ value dims,
      cellValue tenant definition request data slice filters = .ok value ∧
        toSeriesPoint slice.1 slice.2 dims value = .ok point) cells points) :
    totals points =
      ((((cells.map (fun filters => definition.numerator (definition.counts filters)
          (sliceRows tenant definition request data slice))).sum : Nat) : ℚ),
        (((cells.map (fun filters => definition.denominator (definition.counts filters)
          (sliceRows tenant definition request data slice))).sum : Nat) : ℚ)) := by
  induction shown with
  | nil => rfl
  | cons here _ ih =>
    obtain ⟨value,dims,calculated,shown⟩ := here
    obtain ⟨grain,made⟩ := calculateFn_rows canonical counting
    obtain rfl := Except.ok.inj (made.symm.trans calculated)
    obtain ⟨numerator,denominator⟩ := point_measures shown
    rw [totals_cons,ih,numerator,denominator,List.map_cons,List.sum_cons,List.map_cons,List.sum_cons,Nat.cast_add,
      Nat.cast_add]
    rfl

theorem evaluateSlice_totals (canonical : definition ∈ canonicalMetricDefinitions) (counting : definition.countsRows = true)
    {platform : Platform} {points : List MetricSeriesPoint}
    (made : evaluateSlice platform tenant definition request data slice = .ok points) :
    totals points =
      (((((cellFilters platform definition request data slice).map (fun filters =>
          definition.numerator (definition.counts filters) (sliceRows tenant definition request data slice))).sum : Nat) : ℚ),
        ((((cellFilters platform definition request data slice).map (fun filters =>
          definition.denominator (definition.counts filters) (sliceRows tenant definition request data slice))).sum : Nat) :
            ℚ)) := by
  rcases evaluateSlice_cells made with ⟨none,rfl⟩ | shown
  · simp [none,totals,zeroGroupPoint]
  · exact totals_cells canonical counting shown

end totals

section slices
variable {platform : Platform} {tenant : TenantId} {definition : MetricDefinition} {request : MetricQueryRequest}
  {data : MetricEvaluationDataset} {slice : UtcDateTime × UtcDateTime} {dim : String}
  (canonical : definition ∈ canonicalMetricDefinitions) (single : definition.singleValued dim = true)
include canonical single

variable (platform tenant request data slice) in
/-- The groups of a slice, each with its rows. -/
theorem groups_measures :
    let all := sliceRows tenant definition request data slice
    let cells := cellFilters platform definition { request with groupByDimensions := [dim] } data slice
    let grouped (r : Row) := definition.countsBut dim (cleanFilters request) r &&
      (r.values dim).any (groupValues (cleanFilters request) dim all).contains
    (cells.map (fun filters => definition.numerator (definition.counts filters) all)).sum =
        definition.numerator grouped all ∧
      (cells.map (fun filters => definition.denominator (definition.counts filters) all)).sum =
        definition.denominator grouped all := by
  obtain ⟨counting,inside⟩ := singleValued_counting single
  intro all cells grouped
  have distinct := allowedDimensions_nodup canonical
  have perm : cells.Perm ((groupValues (cleanFilters request) dim all).map (fun g =>
      combinedFilters platform (cleanFilters request) (toDict [(dim,g)]))) := by
    have collected : (extractGroups (sliceDataset data definition.metricId slice.1 slice.2) definition.metricId [dim]
        (cleanFilters request)).Perm ((groupValues (cleanFilters request) dim all).map (fun v => toDict [(dim,v)])) :=
      extractGroups_perm tenant (effectiveAsOf request slice.2) (cleanFilters request) dim counting
    have combined := collected.map (combinedFilters platform (cleanFilters request))
    rwa [List.map_map] at combined
  have once : (groupValues (cleanFilters request) dim all).Nodup := List.nodup_dedup _
  have short : ∀ r ∈ all, (r.values dim).length ≤ 1 := values_single single tenant _ _
  have groups := measures_groups definition once short (definition.countsBut dim (cleanFilters request))
  have same (g : String) : definition.counts (combinedFilters platform (cleanFilters request) (toDict [(dim,g)])) =
      fun r => definition.countsBut dim (cleanFilters request) r && (r.values dim).contains g :=
    funext (fun r => counts_group (cleanFilters request) r inside distinct platform g)
  rw [(perm.map _).sum_eq,(perm.map _).sum_eq,List.map_map,List.map_map]
  simp only [Function.comp_def,same]
  exact groups

/-- On one slice the groups sum to the whole exactly when they partition its rows. -/
theorem slice_groups_iff {whole groups : List MetricSeriesPoint}
    (together : evaluateSlice platform tenant definition { request with groupByDimensions := [] } data slice = .ok whole)
    (grouped : evaluateSlice platform tenant definition { request with groupByDimensions := [dim] } data slice = .ok groups) :
    totals groups = totals whole ↔
      GroupsPartition definition dim (cleanFilters request) (sliceRows tenant definition request data slice) := by
  obtain ⟨counting,inside⟩ := singleValued_counting single
  have short : ∀ r ∈ sliceRows tenant definition request data slice, (r.values dim).length ≤ 1 :=
    values_single single tenant _ _
  have parts := evaluateSlice_totals canonical counting grouped
  have sum := evaluateSlice_totals canonical counting together
  obtain ⟨numerators,denominators⟩ := groups_measures platform tenant request data slice canonical single
  rw [← groupsPartition_iff inside short,parts,sum,Prod.mk.injEq,Nat.cast_inj,Nat.cast_inj]
  simp only [cellFilters,List.isEmpty_nil,if_true,List.map_cons,List.map_nil,List.sum_singleton]
  exact and_congr (iff_of_eq (congrArg (· = _) numerators)) (iff_of_eq (congrArg (· = _) denominators))

end slices

/-- The answers with and without groups, slice by slice: the groups sum to the whole exactly
when they partition the rows of the slice. -/
theorem query_groups_iff {platform : Platform} {request : MetricQueryRequest} {context : Option TenantContext}
    {data : MetricEvaluationDataset} {now : UtcDateTime} {digits digits' dim : String} {definition : MetricDefinition}
    {whole grouped : MetricQueryResponse} (asked : registered request.metricId = some definition)
    (single : definition.singleValued dim = true)
    (together : query platform { request with groupByDimensions := [] } context data now digits = .ok whole)
    (parted : query platform { request with groupByDimensions := [dim] } context data now digits' = .ok grouped) :
    ∃ slices parts, generateTimeSlices platform request.timeWindow request.grain = .ok slices ∧
      whole.series = (parts.map Prod.fst).flatten ∧ grouped.series = (parts.map Prod.snd).flatten ∧
      List.Forall₂ (fun slice part => totals part.2 = totals part.1 ↔
        GroupsPartition definition dim (cleanFilters request) (sliceRows whole.tenantId definition request
          (filterTenantAndAsOf data whole.tenantId request.asOfTime) slice)) slices parts := by
  obtain ⟨_,canonical,listed,_,⟨c,given,owner⟩,slices,wholes,cut,series,made⟩ := query_slices together
  obtain rfl := Option.some.inj (asked.symm.trans listed)
  obtain ⟨_,_,listed',_,⟨c',given',owner'⟩,slices',groups,cut',series',made'⟩ := query_slices parted
  obtain rfl := Option.some.inj (asked.symm.trans listed')
  obtain rfl := Except.ok.inj (cut.symm.trans cut')
  obtain rfl := Option.some.inj (given.symm.trans given')
  rw [← owner',owner] at made'
  have lengths : wholes.length = groups.length := made.length_eq.symm.trans made'.length_eq
  refine ⟨slices,wholes.zip groups,cut,?_,?_,(Pairing.zip made made').imp ?_⟩
  · rw [List.map_fst_zip lengths.le]
    exact series
  · rw [List.map_snd_zip lengths.ge]
    exact series'
  · intro slice part evaluated
    exact slice_groups_iff canonical single evaluated.1 evaluated.2

section samples

/-- The order volume of one order, at once or by the tier of its customer, who is unknown. -/
def askByTier (dims : List String) : Except QueryFailure MetricQueryResponse :=
  query samplePlatform { volumeRequest with groupByDimensions := dims } (some ⟨acmeTenant⟩)
    { orders := [sampleOrder acmeTenant "ord-1" 2] } ⟨9⟩ "0a"

theorem askByTier_totals : totals? (askByTier []) = some (1,0) ∧ totals? (askByTier ["customer_tier"]) = some (0,0) := by
  decide +kernel

theorem totals?_some {answer : Except QueryFailure MetricQueryResponse} {total : ℚ × ℚ} (known : totals? answer = some total) :
    ∃ response, answer = .ok response ∧ totals response.series = total := by
  cases answer with
  | error e => cases known
  | ok response => exact ⟨response,rfl,Option.some.inj known⟩

/-- The tiers of the order's customer against the whole. -/
theorem unknown_tier_parts : ∃ definition whole grouped, registered volumeRequest.metricId = some definition ∧
    askByTier [] = .ok whole ∧ askByTier ["customer_tier"] = .ok grouped ∧
    ∃ slices parts, generateTimeSlices samplePlatform volumeRequest.timeWindow volumeRequest.grain = .ok slices ∧
      whole.series = (parts.map Prod.fst).flatten ∧ grouped.series = (parts.map Prod.snd).flatten ∧
      List.Forall₂ (fun slice part => totals part.2 = totals part.1 ↔
        GroupsPartition definition "customer_tier" (cleanFilters volumeRequest) (sliceRows whole.tenantId definition
          volumeRequest (filterTenantAndAsOf { orders := [sampleOrder acmeTenant "ord-1" 2] } whole.tenantId
            volumeRequest.asOfTime) slice)) slices parts := by
  obtain ⟨whole,together,_⟩ := totals?_some askByTier_totals.1
  obtain ⟨grouped,parted,_⟩ := totals?_some askByTier_totals.2
  have known : (registered volumeRequest.metricId).map (·.singleValued "customer_tier") = some true := by decide +kernel
  obtain ⟨definition,asked,single⟩ := Option.map_eq_some_iff.mp known
  exact ⟨definition,whole,grouped,asked,together,parted,query_groups_iff asked single together parted⟩

/-- An order whose customer is unknown is in the whole, but in no group. -/
theorem unknown_tier_lost : ¬ ∀ whole grouped, askByTier [] = .ok whole → askByTier ["customer_tier"] = .ok grouped →
    totals grouped.series = totals whole.series := by
  intro all
  obtain ⟨whole,together,one⟩ := totals?_some askByTier_totals.1
  obtain ⟨grouped,parted,none⟩ := totals?_some askByTier_totals.2
  have same := all whole grouped together parted
  rw [one,none] at same
  exact absurd same (by decide +kernel)

end samples
end RevPilot.Analytics
