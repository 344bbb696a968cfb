import RevPilot.Evidence.Domain
import RevPilot.Library.PyFloat
import RevPilot.Library.Rounding
import RevPilot.Library.Sorting
import RevPilot.Shared.Errors
import Mathlib.Data.List.Lex
import Mathlib.Data.Prod.Lex

/-! The ranking of competing hypotheses. The arithmetic of floats is a parameter; what
the code compares after clamping are exact numbers between 0 and 1. -/
namespace RevPilot.Hypothesis
open Library Shared Evidence

inductive HypothesisType : Type
  | logisticsBottleneck | paymentGatewayOutage | productQualityDefect | pricingCatalogMisconfiguration
  | externalMacroEvent | customerBehaviorShift
  deriving DecidableEq

/-- `hypothesis_type.value`. -/
def HypothesisType.value : HypothesisType → String
  | .logisticsBottleneck => "LOGISTICS_BOTTLENECK"
  | .paymentGatewayOutage => "PAYMENT_GATEWAY_OUTAGE"
  | .productQualityDefect => "PRODUCT_QUALITY_DEFECT"
  | .pricingCatalogMisconfiguration => "PRICING_CATALOG_MISCONFIGURATION"
  | .externalMacroEvent => "EXTERNAL_MACRO_EVENT"
  | .customerBehaviorShift => "CUSTOMER_BEHAVIOR_SHIFT"

inductive HypothesisStatus : Type
  | proposed | evaluating | verified | partiallySupported | refuted | needMoreEvidence
  deriving DecidableEq

structure EvidenceWeight where
  evidenceId : UUIDv7
  relevanceScore : ℚ
  relevanceAccepted : 0 ≤ relevanceScore ∧ relevanceScore ≤ 1

structure HypothesisRecord where
  hypothesisId : String
  investigationId : UUIDv7
  tenantId : TenantId
  statement : String
  hypothesisType : HypothesisType
  supportingEvidence : List EvidenceWeight := []
  contradictingEvidence : List EvidenceWeight := []
  evidenceCoverageRatio : ℚ := 0
  ordinalRank : Nat := 1
  rankingScore : ℚ := 0
  alternativeHypothesisIds : List String := []
  limitations : List String := []
  status : HypothesisStatus := .proposed
  causalStudyId : Option UUIDv7 := none
  manifestDigest : String := ""

def hypothesisError (code message : String) (details : List (PyKey × PyValue)) : PyError :=
  .domain { code := code, message := message, details := details }

/-- The float operations of the score; `sum` is the built-in one. -/
structure FloatArithmetic where
  add : FloatValue → FloatValue → FloatValue
  sub : FloatValue → FloatValue → FloatValue
  mul : FloatValue → FloatValue → FloatValue
  div : FloatValue → FloatValue → FloatValue
  sum : List ℚ → FloatValue
  round4 : FloatValue → FloatValue

/-- `max(0.0, x)`. -/
def atLeastZero : FloatValue → FloatValue
  | .finite x => .finite (max 0 x)
  | .infinite false => .infinite false
  | .infinite true | .nan => .finite 0

/-- `max(0.0, min(1.0, x))`; `min` keeps its first argument when the other is not a number. -/
def clamp : FloatValue → ℚ
  | .finite x => max 0 (min 1 x)
  | .infinite false | .nan => 1
  | .infinite true => 0

def DEFAULT_WEIGHTS : List (String × ℚ) :=
  [("w_sup",toDouble 0.4),("w_con",toDouble 0.45),("w_causal",toDouble 0.3),("w_gap",toDouble 0.25)]

def TIE_THRESHOLD : ℚ := toDouble 0.05
def CONTRADICTION_VETO_THRESHOLD : ℚ := toDouble 0.8
def COVERAGE_VERIFIED_THRESHOLD : ℚ := 3 / 4

abbrev Weights := Option (Dict String FloatValue)

/-- An entry of the default weights, updated by those of the caller. -/
def weight (weights : Weights) (name : String) : FloatValue :=
  (weights.bind fun given => given.get? name).getD (.finite ((DEFAULT_WEIGHTS.lookup name).getD 0))

/-- `max([...], default=0.0)` of the relevance scores. -/
def maxRelevance (evidence : List EvidenceWeight) : ℚ := (evidence.map (·.relevanceScore)).foldl max 0

section scoring
variable (num : FloatArithmetic)

def calculateHypothesisScore (weights : Weights) (h : HypothesisRecord) : ℚ :=
  let sSup := if h.supportingEvidence = [] then .finite 0
    else num.div (num.sum (h.supportingEvidence.map (·.relevanceScore))) (.finite h.supportingEvidence.length)
  let sCon := FloatValue.finite (maxRelevance h.contradictingEvidence)
  let sCausal := FloatValue.finite (if h.causalStudyId.isSome then 1 else 0)
  let gGap := atLeastZero (num.sub (.finite 1) (.finite h.evidenceCoverageRatio))
  let raw := num.sub (num.add (num.sub (num.mul (weight weights "w_sup") sSup) (num.mul (weight weights "w_con") sCon))
    (num.mul (weight weights "w_causal") sCausal)) (num.mul (weight weights "w_gap") gGap)
  clamp (num.round4 raw)

/-- The status before the ranking. -/
def baseStatus (h : HypothesisRecord) : HypothesisStatus :=
  if CONTRADICTION_VETO_THRESHOLD ≤ maxRelevance h.contradictingEvidence then .refuted
  else if h.evidenceCoverageRatio < COVERAGE_VERIFIED_THRESHOLD then .needMoreEvidence
  else .evaluating

def evaluated (weights : Weights) (h : HypothesisRecord) : HypothesisRecord :=
  { h with rankingScore := calculateHypothesisScore num weights h, status := baseStatus h }

/-- `tuple(-ord(c) for c in hypothesis_id)`. -/
def tieBreaker (h : HypothesisRecord) : List ℤ := h.hypothesisId.toList.map fun c => -(c.toNat : ℤ)

/-- The sort key; the sort is in reverse. -/
def rankKey (h : HypothesisRecord) : (Nat ×ₗ ℚ ×ₗ List ℤ)ᵒᵈ :=
  OrderDual.toDual (toLex (if h.status = .refuted then 0 else 1,toLex (h.rankingScore,tieBreaker h)))

/-- The status of the first candidate after the check of the top invariant. -/
def topStatus (top : HypothesisRecord) (competitors : Nat) : HypothesisStatus :=
  if top.status = .refuted then .refuted
  else if COVERAGE_VERIFIED_THRESHOLD ≤ top.evidenceCoverageRatio ∧ top.contradictingEvidence.length = 0 ∧
      2 ≤ competitors then .verified
  else .needMoreEvidence

def settleTop : List HypothesisRecord → List HypothesisRecord
  | [] => []
  | top :: rest => { top with status := topStatus top rest.length } :: rest

/-- Whether two neighbours of the ranking are flagged as equals. -/
def coEqual (c1 c2 : HypothesisRecord) : Bool :=
  c1.status != .refuted && c2.status != .refuted && c1.hypothesisType != c2.hypothesisType &&
    match num.sub (.finite c1.rankingScore) (.finite c2.rankingScore) with
    | .finite difference => decide (|difference| ≤ TIE_THRESHOLD)
    | _ => false

end scoring

/-- SHA-256 of the canonical fields, as a hex text. -/
def computeHypothesisDigest (sha256 : String → String) (h : HypothesisRecord) : String :=
  let ids (evidence : List EvidenceWeight) : PyValue :=
    .list ((sortedBy String.toList (evidence.map (·.evidenceId.value))).map .str)
  sha256 ((PyValue.dumps ⟨true,true⟩ PyValue.noDefault (.dict
    [(.str "hypothesis_id",.str h.hypothesisId),(.str "investigation_id",.str h.investigationId.value),
      (.str "tenant_id",.str h.tenantId.value),(.str "statement",.str h.statement),
      (.str "hypothesis_type",.str h.hypothesisType.value),(.str "supporting",ids h.supportingEvidence),
      (.str "contradicting",ids h.contradictingEvidence)])).getD "")

def tieMessage : String :=
  "AMBIGUOUS_COMPETING_CAUSES: Score difference <= 0.05 with competing candidate"

section ranking
variable (num : FloatArithmetic) (sha256 : String → String)

/-- The record of a candidate with its rank, its rivals and its digest. -/
def finished (allIds : List String) (rank : Nat) (tied : Bool) (c : HypothesisRecord) : HypothesisRecord :=
  { c with
    ordinalRank := rank
    alternativeHypothesisIds := allIds.filter (· ≠ c.hypothesisId)
    limitations := if tied ∧ tieMessage ∉ c.limitations then c.limitations ++ [tieMessage] else c.limitations
    manifestDigest := computeHypothesisDigest sha256 c }

/-- The last pass, with the candidate before and the rank of the first one left. -/
def finishFrom (allIds : List String) : Option HypothesisRecord → Nat → List HypothesisRecord → List HypothesisRecord
  | _, _, [] => []
  | before, rank, c :: rest =>
    finished sha256 allIds rank (before.any (coEqual num · c) || rest.head?.any (coEqual num c ·)) c ::
      finishFrom allIds (some c) (rank + 1) rest

def ranking (weights : Weights) (hypotheses : List HypothesisRecord) : List HypothesisRecord :=
  let candidates := settleTop (sortedBy rankKey (hypotheses.map (evaluated num weights)))
  finishFrom num sha256 (candidates.map (·.hypothesisId)) none 1 candidates

def rankCompetingHypotheses (hypotheses : List HypothesisRecord) (bundle : Option EvidenceBundle) (weights : Weights) :
    Except PyError (List HypothesisRecord) :=
  match hypotheses with
  | base :: other :: rest =>
    match (other :: rest).find? (fun h => h.tenantId ≠ base.tenantId) with
    | some h =>
      .error (hypothesisError "ERR_TENANT_MISMATCH" "Cross-tenant hypothesis evaluation forbidden"
        [(.str "expected_tenant",.str base.tenantId.value),(.str "actual_tenant",.str h.tenantId.value)])
    | none =>
      match bundle.filter (fun b => b.tenantId ≠ base.tenantId) with
      | some b =>
        .error (hypothesisError "ERR_TENANT_MISMATCH" "Evidence bundle tenant does not match hypothesis tenant"
          [(.str "expected_tenant",.str base.tenantId.value),(.str "bundle_tenant",.str b.tenantId.value)])
      | none => .ok (ranking num sha256 weights hypotheses)
  | _ =>
    .error (hypothesisError "ERR_MULTI_HYPOTHESIS_VIOLATION"
      "Multi-hypothesis competition invariant violated: at least 2 competing hypotheses required"
      [(.str "candidate_count",.int hypotheses.length)])

end ranking
end RevPilot.Hypothesis

/-! What a ranking of competing hypotheses is: the same hypotheses under ordinal ranks,
the refuted ones last, at most the first one verified, and no trace of the order in
which they came. -/
namespace RevPilot.Hypothesis
open Library Shared Evidence

/-- A record without what a ranking writes. -/
def plain (h : HypothesisRecord) : HypothesisRecord :=
  { h with
    ordinalRank := 1, rankingScore := 0, alternativeHypothesisIds := [], limitations := [], status := .proposed
    manifestDigest := "" }

/-- The hypothesis of a record and its status. -/
def standing (h : HypothesisRecord) : HypothesisStatus × HypothesisRecord := (h.status,plain h)

def vetoed (h : HypothesisRecord) : Prop := CONTRADICTION_VETO_THRESHOLD ≤ maxRelevance h.contradictingEvidence

section statuses

theorem baseStatus_refuted (h : HypothesisRecord) : baseStatus h = .refuted ↔ vetoed h := by
  unfold baseStatus vetoed
  split_ifs with vetoed low
  · exact iff_of_true rfl vetoed
  · exact iff_of_false nofun vetoed
  · exact iff_of_false nofun vetoed

theorem baseStatus_unverified (h : HypothesisRecord) : baseStatus h ≠ .verified := by
  unfold baseStatus
  split_ifs <;> nofun

theorem topStatus_refuted (top : HypothesisRecord) (competitors : Nat) :
    topStatus top competitors = .refuted ↔ top.status = .refuted := by
  unfold topStatus
  split_ifs with refuted good
  · exact iff_of_true rfl refuted
  · exact iff_of_false nofun refuted
  · exact iff_of_false nofun refuted

theorem topStatus_verified {top : HypothesisRecord} {competitors : Nat}
    (verified : topStatus top competitors = .verified) :
    COVERAGE_VERIFIED_THRESHOLD ≤ top.evidenceCoverageRatio ∧ top.contradictingEvidence = [] ∧ 2 ≤ competitors := by
  unfold topStatus at verified
  split_ifs at verified with refuted good
  exact ⟨good.1,List.length_eq_zero_iff.mp good.2.1,good.2.2⟩

end statuses

section passes
variable (num : FloatArithmetic) (sha256 : String → String)

/-- The last pass leaves the hypotheses and their statuses alone. -/
theorem finishFrom_standing (allIds : List String) (before : Option HypothesisRecord) (rank : Nat)
    (candidates : List HypothesisRecord) :
    (finishFrom num sha256 allIds before rank candidates).map standing = candidates.map standing := by
  induction candidates generalizing before rank with
  | nil => rfl
  | cons c rest ih =>
    rw [finishFrom,List.map_cons,ih,List.map_cons]
    rfl

theorem finishFrom_ranks (allIds : List String) (before : Option HypothesisRecord) (rank : Nat)
    (candidates : List HypothesisRecord) :
    (finishFrom num sha256 allIds before rank candidates).map (·.ordinalRank) = List.range' rank candidates.length := by
  induction candidates generalizing before rank with
  | nil => rfl
  | cons c rest ih =>
    rw [finishFrom,List.map_cons,ih,List.length_cons,List.range'_succ]
    rfl

/-- A record of the result stands where a candidate stood. -/
theorem standing_mem {candidates ranked : List HypothesisRecord}
    (same : ranked.map standing = candidates.map standing) {r : HypothesisRecord} (inside : r ∈ ranked) :
    ∃ c ∈ candidates, r.status = c.status ∧ plain r = plain c := by
  have listed : standing r ∈ candidates.map standing := by
    rw [← same]
    exact List.mem_map_of_mem inside
  obtain ⟨c,member,equal⟩ := List.mem_map.mp listed
  exact ⟨c,member,(Prod.mk.inj equal).1.symm,(Prod.mk.inj equal).2.symm⟩

theorem contradicting_plain {a b : HypothesisRecord} (same : plain a = plain b) :
    a.contradictingEvidence = b.contradictingEvidence := by
  have fields : (plain a).contradictingEvidence = (plain b).contradictingEvidence := congrArg _ same
  exact fields

theorem statuses_of_standing {candidates ranked : List HypothesisRecord}
    (same : ranked.map standing = candidates.map standing) :
    ranked.map (·.status) = candidates.map (·.status) := by
  have first := congrArg (List.map Prod.fst) same
  rwa [List.map_map,List.map_map] at first

end passes

section sorted
variable (num : FloatArithmetic) (weights : Weights)

/-- The candidates in the order of their keys, as evaluated hypotheses. -/
def ordered (hypotheses : List HypothesisRecord) : List HypothesisRecord :=
  sortedBy (fun h => rankKey (evaluated num weights h)) hypotheses

theorem sorted_evaluated (hypotheses : List HypothesisRecord) :
    sortedBy rankKey (hypotheses.map (evaluated num weights)) =
      (ordered num weights hypotheses).map (evaluated num weights) := by
  have same := List.map_insertionSort (fun a b => rankKey (evaluated num weights a) ≤ rankKey (evaluated num weights b))
    (fun a b => rankKey a ≤ rankKey b) (evaluated num weights) hypotheses (fun _ _ _ _ => Iff.rfl)
  exact same.symm

/-- What precedes a refuted candidate in the order of the keys. -/
theorem refuted_of_key {a b : HypothesisRecord} (before : rankKey a ≤ rankKey b) (refuted : a.status = .refuted) :
    b.status = .refuted := by
  unfold rankKey at before
  rw [OrderDual.toDual_le_toDual,Prod.Lex.toLex_le_toLex,if_pos refuted] at before
  by_contra standing
  rw [if_neg standing] at before
  simp at before

theorem tieBreaker_injective {a b : HypothesisRecord} (same : tieBreaker a = tieBreaker b) :
    a.hypothesisId = b.hypothesisId := by
  have injective : Function.Injective fun c : Char => -(c.toNat : ℤ) := by
    intro c d equal
    have codes : c.toNat = d.toNat := Int.ofNat.inj (neg_injective equal)
    rw [← Char.ofNat_toNat c,codes,Char.ofNat_toNat]
  exact String.toList_injective (List.map_injective_iff.mpr injective same)

theorem rankKey_apart {a b : HypothesisRecord} (same : rankKey a = rankKey b) : a.hypothesisId = b.hypothesisId := by
  unfold rankKey at same
  have parts := toLex.injective (OrderDual.toDual.injective same)
  exact tieBreaker_injective (Prod.mk.inj (toLex.injective (Prod.mk.inj parts).2)).2

/-- Hypotheses of distinct identifiers are ordered in one way. -/
theorem ordered_congr {hypotheses reordered : List HypothesisRecord} (perm : reordered.Perm hypotheses)
    (distinct : (hypotheses.map (·.hypothesisId)).Nodup) :
    ordered num weights reordered = ordered num weights hypotheses := by
  refine (sortedBy_congr _ perm.symm ?_).symm
  intro a insideA b insideB same
  have ids : (evaluated num weights a).hypothesisId = (evaluated num weights b).hypothesisId := rankKey_apart same
  exact List.inj_on_of_nodup_map distinct insideA insideB ids

end sorted

/-- What is promised of the records that a ranking of the hypotheses returns. -/
structure Ranked (hypotheses ranked : List HypothesisRecord) : Prop where
  permuted : (ranked.map plain).Perm (hypotheses.map plain)
  ranks : ranked.map (·.ordinalRank) = List.range' 1 hypotheses.length
  refuted : ∀ r ∈ ranked, r.status = .refuted ↔ vetoed r
  last : ranked.Pairwise fun a b => a.status = .refuted → b.status = .refuted
  single : ranked.countP (fun r => r.status = .verified) ≤ 1
  verified : ∀ r ∈ ranked, r.status = .verified → r.ordinalRank = 1 ∧
    COVERAGE_VERIFIED_THRESHOLD ≤ r.evidenceCoverageRatio ∧ r.contradictingEvidence = [] ∧ 3 ≤ hypotheses.length

section ranked
variable (num : FloatArithmetic) (sha256 : String → String) (weights : Weights) (hypotheses : List HypothesisRecord)

/-- The candidates with the status of the first one settled. -/
def candidates : List HypothesisRecord := settleTop ((ordered num weights hypotheses).map (evaluated num weights))

theorem ranking_eq :
    ranking num sha256 weights hypotheses = finishFrom num sha256
      ((candidates num weights hypotheses).map (·.hypothesisId)) none 1 (candidates num weights hypotheses) := by
  unfold ranking candidates
  rw [sorted_evaluated]

theorem settleTop_length (records : List HypothesisRecord) : (settleTop records).length = records.length := by
  cases records <;> rfl

theorem settleTop_plain (records : List HypothesisRecord) : (settleTop records).map plain = records.map plain := by
  cases records <;> rfl

theorem candidates_length : (candidates num weights hypotheses).length = hypotheses.length := by
  rw [candidates,settleTop_length,List.length_map]
  exact (sortedBy_perm _ hypotheses).length_eq

theorem candidates_plain : ((candidates num weights hypotheses).map plain).Perm (hypotheses.map plain) := by
  rw [candidates,settleTop_plain,List.map_map]
  exact (sortedBy_perm _ hypotheses).map plain

/-- Settling the top changes nobody's being refuted. -/
theorem candidates_refuted : ∀ c ∈ candidates num weights hypotheses, c.status = .refuted ↔ vetoed c := by
  unfold candidates
  cases ordered num weights hypotheses with
  | nil => exact fun c inside => absurd inside List.not_mem_nil
  | cons first others =>
    intro c inside
    rcases List.mem_cons.mp inside with rfl | later
    · exact (topStatus_refuted ..).trans (baseStatus_refuted first)
    · obtain ⟨h,_,rfl⟩ := List.mem_map.mp later
      exact baseStatus_refuted h

theorem settleTop_last {records : List HypothesisRecord}
    (sorted : records.Pairwise fun a b => a.status = .refuted → b.status = .refuted) :
    (settleTop records).Pairwise fun a b => a.status = .refuted → b.status = .refuted := by
  cases records with
  | nil => exact .nil
  | cons top rest =>
    obtain ⟨first,later⟩ := List.pairwise_cons.mp sorted
    refine List.pairwise_cons.mpr ⟨?_,later⟩
    intro b inside refuted
    exact first b inside ((topStatus_refuted top rest.length).mp refuted)

/-- In the order of the keys the refuted hypotheses come last. -/
theorem candidates_last :
    (candidates num weights hypotheses).Pairwise fun a b => a.status = .refuted → b.status = .refuted := by
  refine settleTop_last ?_
  rw [List.pairwise_map]
  refine (sortedBy_pairwise (fun h => rankKey (evaluated num weights h)) hypotheses).imp ?_
  intro a b before
  exact refuted_of_key before

/-- Only the first candidate can be verified, on its coverage and against two others. -/
theorem candidates_verified {top : HypothesisRecord} {rest : List HypothesisRecord}
    (listed : candidates num weights hypotheses = top :: rest) :
    (∀ c ∈ rest, c.status ≠ .verified) ∧ (top.status = .verified →
      COVERAGE_VERIFIED_THRESHOLD ≤ top.evidenceCoverageRatio ∧ top.contradictingEvidence = [] ∧
        3 ≤ hypotheses.length) := by
  have size := candidates_length num weights hypotheses
  rw [listed] at size
  unfold candidates at listed
  cases found : ordered num weights hypotheses with
  | nil =>
    rw [found] at listed
    cases listed
  | cons first others =>
    rw [found] at listed
    cases listed
    constructor
    · intro c inside
      obtain ⟨h,_,rfl⟩ := List.mem_map.mp inside
      exact baseStatus_unverified h
    · intro verified
      obtain ⟨coverage,free,rivals⟩ := topStatus_verified verified
      refine ⟨coverage,free,?_⟩
      rw [← size,List.length_cons]
      exact Nat.succ_le_succ rivals

theorem ranking_ranked : Ranked hypotheses (ranking num sha256 weights hypotheses) := by
  rw [ranking_eq]
  generalize ids : (candidates num weights hypotheses).map (·.hypothesisId) = allIds
  have same := finishFrom_standing num sha256 allIds none 1 (candidates num weights hypotheses)
  have statuses := statuses_of_standing same
  have unverified := fun top rest => @candidates_verified num weights hypotheses top rest
  constructor
  · have plains := congrArg (List.map Prod.snd) same
    rw [List.map_map,List.map_map] at plains
    exact plains ▸ candidates_plain num weights hypotheses
  · rw [finishFrom_ranks,candidates_length]
  · intro r inside
    obtain ⟨c,member,status,kept⟩ := standing_mem same inside
    rw [status,candidates_refuted num weights hypotheses c member,vetoed,vetoed,contradicting_plain kept]
  · have sorted := candidates_last num weights hypotheses
    have read (records : List HypothesisRecord) :
        (records.Pairwise fun a b => a.status = .refuted → b.status = .refuted) ↔
          (records.map (·.status)).Pairwise fun s t => s = HypothesisStatus.refuted → t = .refuted := by
      rw [List.pairwise_map]
    rw [read,statuses,← read]
    exact sorted
  · have read (records : List HypothesisRecord) : records.countP (fun r => r.status = .verified) =
        (records.map (·.status)).countP fun s => s = HypothesisStatus.verified := by
      rw [List.countP_map]
      rfl
    rw [read,statuses,← read]
    cases listed : candidates num weights hypotheses with
    | nil => exact Nat.zero_le 1
    | cons top rest =>
      have none : rest.countP (fun r => r.status = .verified) = 0 := by
        rw [List.countP_eq_zero]
        intro c inside
        simpa using (unverified top rest listed).1 c inside
      rw [List.countP_cons,none]
      split <;> simp
  · intro r inside verified
    cases listed : candidates num weights hypotheses with
    | nil =>
      rw [listed] at inside
      cases inside
    | cons top rest =>
      obtain ⟨others,first⟩ := unverified top rest listed
      rw [listed] at inside
      rcases List.mem_cons.mp inside with rfl | later
      · exact ⟨rfl,first verified⟩
      · obtain ⟨c,member,status,_⟩ := standing_mem (finishFrom_standing num sha256 allIds (some top) 2 rest) later
        exact absurd (status ▸ verified) (others c member)

end ranked

/-- Hypotheses of one tenant, at least two of them and with distinct identifiers, are
ranked, and in one way whatever their order. -/
theorem rankCompetingHypotheses_ranks (num : FloatArithmetic) (sha256 : String → String) (weights : Weights)
    (tenant : TenantId) (bundle : Option EvidenceBundle) (hypotheses : List HypothesisRecord)
    (several : 2 ≤ hypotheses.length) (one : ∀ h ∈ hypotheses, h.tenantId = tenant)
    (own : ∀ b, bundle = some b → b.tenantId = tenant) (distinct : (hypotheses.map (·.hypothesisId)).Nodup) :
    ∃ ranked, rankCompetingHypotheses num sha256 hypotheses bundle weights = .ok ranked ∧ Ranked hypotheses ranked ∧
      ∀ reordered, reordered.Perm hypotheses →
        rankCompetingHypotheses num sha256 reordered bundle weights = .ok ranked := by
  have answered {records : List HypothesisRecord} (perm : records.Perm hypotheses) :
      rankCompetingHypotheses num sha256 records bundle weights = .ok (ranking num sha256 weights records) := by
    have size := perm.length_eq
    have tenants : ∀ h ∈ records, h.tenantId = tenant := fun h inside => one h (perm.mem_iff.mp inside)
    match records with
    | [] => simp at size; omega
    | [_] => simp at size; omega
    | base :: other :: rest =>
      have base_tenant := tenants base (List.mem_cons_self ..)
      have same : (other :: rest).find? (fun h => h.tenantId ≠ base.tenantId) = none := by
        rw [List.find?_eq_none]
        intro h inside
        simp [tenants h (List.mem_cons_of_mem _ inside),base_tenant]
      have bundled : bundle.filter (fun b => b.tenantId ≠ base.tenantId) = none := by
        rw [Option.filter_eq_none_iff]
        intro b given
        simp [own b given,base_tenant]
      unfold rankCompetingHypotheses
      dsimp only
      rw [same,bundled]
  refine ⟨ranking num sha256 weights hypotheses,answered (.refl _),ranking_ranked num sha256 weights hypotheses,?_⟩
  intro reordered perm
  rw [answered perm,ranking_eq,ranking_eq,candidates,candidates,ordered_congr num weights perm distinct]

section samples

/-- Double arithmetic as long as the values stay finite. -/
def roundedArithmetic : FloatArithmetic where
  add := fun | .finite x, .finite y => .finite (toDouble (x + y)) | _, _ => .nan
  sub := fun | .finite x, .finite y => .finite (toDouble (x - y)) | _, _ => .nan
  mul := fun | .finite x, .finite y => .finite (toDouble (x * y)) | _, _ => .nan
  div := fun | .finite x, .finite y => .finite (toDouble (x / y)) | _, _ => .nan
  sum := fun xs => .finite (xs.foldl (fun total x => toDouble (total + x)) 0)
  round4 := fun | .finite x => .finite (toDouble (round (x * 10000) / 10000)) | x => x

def candidate (id : String) (coverage : ℚ) : HypothesisRecord where
  hypothesisId := id
  investigationId := ⟨"i"⟩
  tenantId := ⟨"tnt_acme",Eq.refl true⟩
  statement := "s"
  hypothesisType := .logisticsBottleneck
  evidenceCoverageRatio := coverage

/-- Three candidates of one tenant, the second with the full coverage. -/
theorem three_candidates_ranked :
    ∃ ranked, rankCompetingHypotheses roundedArithmetic id [candidate "a" 0,candidate "b" 1,candidate "c" 0] none none =
      .ok ranked ∧ Ranked [candidate "a" 0,candidate "b" 1,candidate "c" 0] ranked ∧
      ∀ reordered, reordered.Perm [candidate "a" 0,candidate "b" 1,candidate "c" 0] →
        rankCompetingHypotheses roundedArithmetic id reordered none none = .ok ranked :=
  rankCompetingHypotheses_ranks roundedArithmetic id none (candidate "a" 0).tenantId none
    [candidate "a" 0,candidate "b" 1,candidate "c" 0] (by decide) (by simp [candidate]) (by simp) (by decide)

end samples
end RevPilot.Hypothesis
