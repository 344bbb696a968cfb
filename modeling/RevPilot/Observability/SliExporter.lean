import RevPilot.Library.Dict
import RevPilot.Library.Rounding
import RevPilot.Library.Runs
import RevPilot.Library.Text
import RevPilot.Shared.Errors
import Mathlib.Data.Finset.Card

/-! The http metrics of `SliExporter`: the request counters, the latency histograms and
the two sets of tracked labels. A finite duration is a rational number; the addition of
floats, which may reach infinity, is a parameter. -/
namespace RevPilot.Observability
open Library Shared

def MAX_TRACKED_TENANTS : Nat := 100
def MAX_TRACKED_ENDPOINTS : Nat := 50

def ALLOWED_HTTP_METHODS : List String := ["GET","POST","PUT","PATCH","DELETE","HEAD","OPTIONS"]

/-- The upper bounds of the histogram in seconds, the last one infinite. -/
def LATENCY_BUCKETS : List (WithTop ℚ) :=
  [toDouble 0.05,toDouble 0.1,toDouble 0.25,toDouble 0.5,toDouble 0.8,toDouble 1,toDouble 1.5,toDouble 2,toDouble 5,
    toDouble 8,toDouble 10].map (fun bound : ℚ => (bound : WithTop ℚ)) ++ [⊤]

def cardinalityLimitExceededError (message : String) (details : List (PyKey × PyValue)) : PyError :=
  .domain { code := "CARDINALITY_LIMIT_EXCEEDED", message := message, details := details }

/-- The labels of a request counter: method, endpoint, status and tenant. -/
structure RequestLabels where
  method : String
  endpoint : String
  status : String
  tenant : String
  deriving DecidableEq

/-- The labels of a histogram. -/
def RequestLabels.histogram (labels : RequestLabels) : String × String := (labels.method,labels.endpoint)

structure SliExporter where
  knownTenants : Finset String := ∅
  knownEndpoints : Finset String := ∅
  httpRequestsTotal : Dict RequestLabels Nat := .empty
  httpDurationBuckets : Dict (String × String) (List Nat) := .empty
  httpDurationSum : Dict (String × String) (WithTop ℚ) := .empty
  httpDurationCount : Dict (String × String) Nat := .empty

/-- The arguments of `record_http_request`. -/
structure HttpRequest where
  method : String
  pathTemplate : String
  statusCode : Int
  durationSec : ℚ
  tenantId : String := "global"
  strictCardinality : Bool := false

/-- A label within the limit on its family: known, made known, mapped to the overflow
label, or refused in strict mode. -/
def boundLabel (limit : Nat) (overflow : String) (exceeded : String → PyError) (strict : Bool) (known : Finset String)
    (label : String) : Except PyError (String × Finset String) :=
  if label ∈ known then .ok (label,known)
  else if limit ≤ known.card then
    if strict then .error (exceeded label) else .ok (overflow,known)
  else .ok (label,insert label known)

def boundEndpoint : Bool → Finset String → String → Except PyError (String × Finset String) :=
  boundLabel MAX_TRACKED_ENDPOINTS "/other" fun endpoint =>
    cardinalityLimitExceededError s!"Endpoint template cardinality limit ({MAX_TRACKED_ENDPOINTS}) exceeded"
      [(.str "endpoint",.str endpoint)]

def boundTenant : Bool → Finset String → String → Except PyError (String × Finset String) :=
  boundLabel MAX_TRACKED_TENANTS "tenant_overflow" fun tenant =>
    cardinalityLimitExceededError s!"Tenant cardinality limit ({MAX_TRACKED_TENANTS}) exceeded"
      [(.str "tenant_id",.str tenant)]

/-- The counts of a histogram after one more observation. -/
def observe (bounds : List (WithTop ℚ)) (duration : ℚ) (counts : List Nat) : List Nat :=
  bounds.zipWith (fun bound count => if (duration : WithTop ℚ) ≤ bound then count + 1 else count) counts

namespace SliExporter

/-- The histogram of a key, all zero before its first observation. -/
def bucketCounts (s : SliExporter) (key : String × String) : List Nat :=
  (s.httpDurationBuckets.get? key).getD (List.replicate LATENCY_BUCKETS.length 0)

/-- The counters and the histogram after the labels have been settled. -/
def recorded (s : SliExporter) (add : WithTop ℚ → ℚ → WithTop ℚ) (labels : RequestLabels) (durationSec : ℚ) :
    SliExporter :=
  let key := labels.histogram
  { s with
    httpRequestsTotal := s.httpRequestsTotal.increment labels
    httpDurationSum := s.httpDurationSum.set key (add ((s.httpDurationSum.get? key).getD 0) (max 0 durationSec))
    httpDurationCount := s.httpDurationCount.increment key
    httpDurationBuckets := s.httpDurationBuckets.set key (observe LATENCY_BUCKETS durationSec (s.bucketCounts key)) }

/-- A call that raises leaves the endpoint it has come to know. -/
def recordHttpRequest (casing : Text.Casing) (add : WithTop ℚ → ℚ → WithTop ℚ) (s : SliExporter)
    (request : HttpRequest) : Except PyError Unit × SliExporter :=
  let method := if casing.upper request.method ∈ ALLOWED_HTTP_METHODS then casing.upper request.method else "OTHER"
  let status := toString request.statusCode
  let endpoint :=
    if Text.startsWith request.pathTemplate "/" then request.pathTemplate else s!"/{request.pathTemplate}"
  match boundEndpoint request.strictCardinality s.knownEndpoints endpoint with
  | .error e => (.error e,s)
  | .ok (endpoint,knownEndpoints) =>
    let tenant := if request.tenantId = "" then "global" else request.tenantId
    match boundTenant request.strictCardinality s.knownTenants tenant with
    | .error e => (.error e,{ s with knownEndpoints := knownEndpoints })
    | .ok (tenant,knownTenants) =>
      (.ok (),{ s with knownEndpoints := knownEndpoints, knownTenants := knownTenants }.recorded add
        ⟨method,endpoint,status,tenant⟩ request.durationSec)

/-- The tenants that carry counts. -/
def tenantLabels (s : SliExporter) : Finset String :=
  (s.httpRequestsTotal.keys.map RequestLabels.tenant).toFinset

/-- The endpoints that carry counts, in any of the families. -/
def endpointLabels (s : SliExporter) : Finset String :=
  (s.httpRequestsTotal.keys.map RequestLabels.endpoint ++ s.httpDurationBuckets.keys.map Prod.snd ++
    s.httpDurationSum.keys.map Prod.snd ++ s.httpDurationCount.keys.map Prod.snd).toFinset

end SliExporter
end RevPilot.Observability

/-! The http metrics agree with each other after any calls, raising ones included: the
labels stay within their limits, and every histogram counts the requests of its key. -/
namespace RevPilot.Observability
open Library Shared Runs

section labels
variable {limit : Nat} {overflow label bounded : String} {exceeded : String → PyError} {strict : Bool}
  {known known' : Finset String}

/-- The tracked labels and the overflow label. -/
def admitted (overflow : String) (known : Finset String) : Finset String := insert overflow known

theorem boundLabel_ok (within : known.card ≤ limit)
    (ok : boundLabel limit overflow exceeded strict known label = .ok (bounded,known')) :
    known'.card ≤ limit ∧ known ⊆ known' ∧ bounded ∈ admitted overflow known' := by
  unfold boundLabel at ok
  split at ok
  next tracked =>
    cases ok
    exact ⟨within,Finset.Subset.refl _,Finset.mem_insert_of_mem tracked⟩
  next new =>
    split at ok
    next full =>
      split at ok
      · cases ok
      · cases ok
        exact ⟨within,Finset.Subset.refl _,Finset.mem_insert_self ..⟩
    next room =>
      cases ok
      have size := Finset.card_insert_of_notMem new
      refine ⟨by omega,Finset.subset_insert ..,?_⟩
      exact Finset.mem_insert_of_mem (Finset.mem_insert_self ..)

theorem admitted_mono (grows : known ⊆ known') : admitted overflow known ⊆ admitted overflow known' :=
  Finset.insert_subset_insert _ grows

theorem card_admitted (within : known.card ≤ limit) {labels : Finset String}
    (inside : labels ⊆ admitted overflow known) : labels.card ≤ limit + 1 :=
  calc labels.card ≤ (admitted overflow known).card := Finset.card_le_card inside
    _ ≤ known.card + 1 := Finset.card_insert_le ..
    _ ≤ limit + 1 := Nat.add_le_add_right within 1

end labels

section histogram

/-- The counts of a histogram: one for each bound, not decreasing, the last one the
number of the observations. -/
structure Cumulative (bounds : List (WithTop ℚ)) (counts : List Nat) (total : Nat) : Prop where
  length : counts.length = bounds.length
  sorted : counts.Pairwise (· ≤ ·)
  last : counts.getLast? = some total

variable {bounds : List (WithTop ℚ)} {counts : List Nat} {total : Nat}

theorem cumulative_zero (inhabited : bounds ≠ []) : Cumulative bounds (List.replicate bounds.length 0) 0 := by
  refine ⟨List.length_replicate,List.pairwise_replicate.mpr (.inr (Nat.le_refl 0)),?_⟩
  have positive : bounds.length ≠ 0 := fun none => inhabited (List.length_eq_zero_iff.mp none)
  rw [List.getLast?_replicate,if_neg positive]

theorem observe_getElem (duration : ℚ) (i : Nat) (inside : i < (observe bounds duration counts).length)
    (bound : i < bounds.length) (count : i < counts.length) :
    (observe bounds duration counts)[i] =
      if (duration : WithTop ℚ) ≤ bounds[i] then counts[i] + 1 else counts[i] := by
  simp [observe]

/-- An observation counts in every bucket from the first that it fits in. -/
theorem cumulative_observe (ordered : bounds.Pairwise (· ≤ ·)) (infinite : bounds.getLast? = some ⊤)
    (cumulative : Cumulative bounds counts total) (duration : ℚ) :
    Cumulative bounds (observe bounds duration counts) (total + 1) := by
  have size : (observe bounds duration counts).length = bounds.length := by
    simp [observe,cumulative.length]
  refine ⟨size,?_,?_⟩
  · rw [List.pairwise_iff_getElem]
    intro i j insideI insideJ before
    have boundI : i < bounds.length := size ▸ insideI
    have boundJ : j < bounds.length := size ▸ insideJ
    have countI : i < counts.length := cumulative.length ▸ boundI
    have countJ : j < counts.length := cumulative.length ▸ boundJ
    have rises := List.pairwise_iff_getElem.mp cumulative.sorted i j countI countJ before
    have wider := List.pairwise_iff_getElem.mp ordered i j boundI boundJ before
    rw [observe_getElem duration i insideI boundI countI,observe_getElem duration j insideJ boundJ countJ]
    by_cases fits : (duration : WithTop ℚ) ≤ bounds[i]
    · rw [if_pos fits,if_pos (fits.trans wider)]
      omega
    · rw [if_neg fits]
      split <;> omega
  · have lastCount := cumulative.last
    rw [List.getLast?_eq_getElem?] at lastCount infinite ⊢
    rw [cumulative.length] at lastCount
    rw [size,observe,List.getElem?_zipWith,infinite,lastCount]
    simp

theorem latencyBuckets_sorted : LATENCY_BUCKETS.Pairwise (· ≤ ·) := by decide +kernel

theorem latencyBuckets_last : LATENCY_BUCKETS.getLast? = some ⊤ := by simp [LATENCY_BUCKETS]

end histogram

namespace SliExporter

/-- What holds of the metrics between any two calls. -/
structure Consistent (s : SliExporter) : Prop where
  tenants : s.tenantLabels.card ≤ MAX_TRACKED_TENANTS + 1
  endpoints : s.endpointLabels.card ≤ MAX_TRACKED_ENDPOINTS + 1
  histograms : ∀ key counts, s.httpDurationBuckets.get? key = some counts →
    Cumulative LATENCY_BUCKETS counts (s.httpDurationCount.count key)
  requests : ∀ key, s.httpDurationCount.count key =
    s.httpRequestsTotal.countWhere fun labels => labels.histogram = key

/-- The labels in use are tracked ones or the overflow labels. -/
structure Labelled (s : SliExporter) : Prop where
  fewTenants : s.knownTenants.card ≤ MAX_TRACKED_TENANTS
  fewEndpoints : s.knownEndpoints.card ≤ MAX_TRACKED_ENDPOINTS
  tenants : s.tenantLabels ⊆ admitted "tenant_overflow" s.knownTenants
  endpoints : s.endpointLabels ⊆ admitted "/other" s.knownEndpoints

/-- The families of one key agree; a histogram that is not there counts nothing. -/
structure Balanced (s : SliExporter) : Prop where
  histograms : ∀ key, Cumulative LATENCY_BUCKETS (s.bucketCounts key) (s.httpDurationCount.count key)
  requests : ∀ key, s.httpDurationCount.count key =
    s.httpRequestsTotal.countWhere fun labels => labels.histogram = key

theorem consistent_of {s : SliExporter} (labelled : s.Labelled) (balanced : s.Balanced) : s.Consistent := by
  refine ⟨card_admitted labelled.fewTenants labelled.tenants,card_admitted labelled.fewEndpoints labelled.endpoints,
    ?_,balanced.requests⟩
  intro key counts stored
  have histogram := balanced.histograms key
  rw [bucketCounts,stored] at histogram
  exact histogram

theorem tenantLabels_recorded (s : SliExporter) (add : WithTop ℚ → ℚ → WithTop ℚ) (labels : RequestLabels)
    (durationSec : ℚ) : (s.recorded add labels durationSec).tenantLabels = insert labels.tenant s.tenantLabels := by
  ext tenant
  simp only [tenantLabels,recorded,List.mem_toFinset,List.mem_map,Dict.mem_keys_increment,Finset.mem_insert]
  constructor
  · rintro ⟨used,rfl | inside,rfl⟩
    · exact .inl rfl
    · exact .inr ⟨used,inside,rfl⟩
  · rintro (rfl | ⟨used,inside,rfl⟩)
    · exact ⟨labels,.inl rfl,rfl⟩
    · exact ⟨used,.inr inside,rfl⟩

theorem endpointLabels_recorded (s : SliExporter) (add : WithTop ℚ → ℚ → WithTop ℚ) (labels : RequestLabels)
    (durationSec : ℚ) :
    (s.recorded add labels durationSec).endpointLabels ⊆ insert labels.endpoint s.endpointLabels := by
  intro endpoint
  simp only [endpointLabels,recorded,List.mem_toFinset,List.mem_append,List.mem_map,Dict.mem_keys_increment,
    Dict.mem_keys_set,Finset.mem_insert]
  rintro (((⟨used,rfl | inside,rfl⟩ | ⟨used,rfl | inside,rfl⟩) | ⟨used,rfl | inside,rfl⟩) | ⟨used,rfl | inside,rfl⟩)
  · exact .inl rfl
  · exact .inr (.inl (.inl (.inl ⟨used,inside,rfl⟩)))
  · exact .inl rfl
  · exact .inr (.inl (.inl (.inr ⟨used,inside,rfl⟩)))
  · exact .inl rfl
  · exact .inr (.inl (.inr ⟨used,inside,rfl⟩))
  · exact .inl rfl
  · exact .inr (.inr ⟨used,inside,rfl⟩)

theorem balanced_recorded {s : SliExporter} (balanced : s.Balanced) (add : WithTop ℚ → ℚ → WithTop ℚ)
    (labels : RequestLabels) (durationSec : ℚ) : (s.recorded add labels durationSec).Balanced := by
  constructor
  · intro key
    have before := balanced.histograms key
    simp only [bucketCounts,recorded,Dict.get?_set,Dict.count_increment] at before ⊢
    by_cases here : key = labels.histogram
    · subst here
      simp only [if_true,Option.getD_some]
      exact cumulative_observe latencyBuckets_sorted latencyBuckets_last before durationSec
    · simp only [if_neg here,Nat.add_zero]
      exact before
  · intro key
    have before := balanced.requests key
    simp only [recorded,Dict.count_increment,Dict.countWhere_increment,before,decide_eq_true_eq]
    simp only [eq_comm]

theorem balanced_known {s : SliExporter} (balanced : s.Balanced) (knownTenants knownEndpoints : Finset String) :
    Balanced { s with knownTenants := knownTenants, knownEndpoints := knownEndpoints } :=
  ⟨balanced.histograms,balanced.requests⟩

/-- One call, the labels first and then the counters. -/
theorem record_keeps (casing : Text.Casing) (add : WithTop ℚ → ℚ → WithTop ℚ) (s : SliExporter) (request : HttpRequest)
    (kept : s.Labelled ∧ s.Balanced) :
    (s.recordHttpRequest casing add request).2.Labelled ∧ (s.recordHttpRequest casing add request).2.Balanced := by
  obtain ⟨labelled,balanced⟩ := kept
  unfold recordHttpRequest
  dsimp only
  split
  next => exact ⟨labelled,balanced⟩
  next endpoint knownEndpoints settled =>
    obtain ⟨fewEndpoints,growsE,boundE⟩ := boundLabel_ok labelled.fewEndpoints settled
    have endpoints := labelled.endpoints.trans (admitted_mono growsE)
    split
    next => exact ⟨⟨labelled.fewTenants,fewEndpoints,labelled.tenants,endpoints⟩,balanced_known balanced _ _⟩
    next tenant knownTenants settled =>
      obtain ⟨fewTenants,growsT,boundT⟩ := boundLabel_ok labelled.fewTenants settled
      refine ⟨⟨fewTenants,fewEndpoints,?_,?_⟩,balanced_recorded (balanced_known balanced _ _) ..⟩
      · rw [tenantLabels_recorded]
        exact Finset.insert_subset boundT (labelled.tenants.trans (admitted_mono growsT))
      · exact (endpointLabels_recorded ..).trans (Finset.insert_subset boundE endpoints)

theorem fresh_kept : Labelled {} ∧ Balanced {} := by
  have inhabited : LATENCY_BUCKETS ≠ [] := by decide
  refine ⟨⟨Nat.zero_le _,Nat.zero_le _,Finset.empty_subset _,Finset.empty_subset _⟩,?_,fun _ => rfl⟩
  exact fun _ => cumulative_zero inhabited

/-- The metrics are consistent in every state that calls of `record_http_request` reach,
whether they are strict or not and whether they raise or not. -/
theorem http_metrics_consistent (casing : Text.Casing) (add : WithTop ℚ → ℚ → WithTop ℚ) (requests : List HttpRequest) :
    Consistent (run (fun (s : SliExporter) request => (s.recordHttpRequest casing add request).2) {} requests) := by
  have kept := stable_run (fun (s : SliExporter) request => (s.recordHttpRequest casing add request).2)
    (I := fun (s : SliExporter) => s.Labelled ∧ s.Balanced) (record_keeps casing add) fresh_kept requests
  exact consistent_of kept.1 kept.2

end SliExporter
end RevPilot.Observability
