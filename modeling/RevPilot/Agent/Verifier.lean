import RevPilot.Evidence.Domain
import RevPilot.Library.Rounding
import RevPilot.Library.Sorting
import Mathlib.Data.Prod.Lex

/-! `InvestigationVerifier`: each hypothesis is evaluated against the bundle, the
evaluations are ranked by a key of four parts and the verdict is read off the first. -/
namespace RevPilot.Agent
open Library Shared Evidence

/-- A score is a float between 0 and 1. -/
structure Hypothesis where
  hypothesisId : String
  likelihoodScore : ℚ
  supportingEvidenceIds : List UUIDv7
  contradictingEvidenceIds : List UUIDv7 := []
  unverifiedClaims : List String := []
  scoreAccepted : 0 ≤ likelihoodScore ∧ likelihoodScore ≤ 1

inductive VerificationStatus : Type
  | verified | refuted | needMoreEvidence
  deriving DecidableEq

structure VerificationResult where
  investigationId : UUIDv7
  tenantId : TenantId
  status : VerificationStatus
  rankedHypotheses : List Hypothesis
  topHypothesisId : Option String := none
  evidenceCoverageRatio : ℚ
  unsupportedClaimCount : Nat
  contradictionCount : Nat
  missingEvidenceDescriptors : List String := []
  verifiedAt : UtcDateTime

structure HypothesisEvaluation where
  hypothesis : Hypothesis
  coverage : ℚ
  unsupported : Nat
  contradictions : Nat
  descriptors : List String

namespace HypothesisEvaluation

def isContradicted (e : HypothesisEvaluation) : Bool := decide (0 < e.contradictions)

/-- Not contradicted first, then the coverage, the fewest unsupported claims and the
likelihood; the sort is in reverse. -/
def rankKey (e : HypothesisEvaluation) : (Bool ×ₗ ℚ ×ₗ ℤ ×ₗ ℚ)ᵒᵈ :=
  OrderDual.toDual (toLex (!e.isContradicted,
    toLex (e.coverage,toLex (-(e.unsupported : ℤ),e.hypothesis.likelihoodScore))))

end HypothesisEvaluation

namespace InvestigationVerifier

/-- Why a citation does not count, if it does not. -/
def citationProblem (bundle : EvidenceBundle) (h : Hypothesis) (evidenceId : UUIDv7) : Option String :=
  match bundle.evidenceMap.get? evidenceId.value with
  | none => some s!"Hypothesis {h.hypothesisId} cites non-existent evidence ID: {evidenceId.value}."
  | some record =>
    if record.tenantId.value ≠ bundle.tenantId.value then
      some s!"Hypothesis {h.hypothesisId} cites cross-tenant evidence ID: {evidenceId.value}."
    else if record.supersessionStatus ≠ .active then
      some s!"Hypothesis {h.hypothesisId} cites non-active evidence ID: {evidenceId.value} ({record.supersessionStatus.value})."
    else none

/-- The problems with the citations of a hypothesis; to have none is one. -/
def citationProblems (bundle : EvidenceBundle) (h : Hypothesis) : List String :=
  if h.supportingEvidenceIds = [] then
    [s!"Hypothesis {h.hypothesisId} lacks supporting evidence citations."]
  else h.supportingEvidenceIds.filterMap (citationProblem bundle h)

def contradictionsFound (bundle : EvidenceBundle) (h : Hypothesis) : List UUIDv7 :=
  h.contradictingEvidenceIds.filter fun id => (bundle.evidenceMap.get? id.value).isSome

/-- `max(0.0, min(1.0, valid / total))`, and 0 where there is nothing to divide by. -/
def coverageRatio (valid total : Nat) : ℚ :=
  if total = 0 then 0 else max 0 (min 1 (toDouble ((valid : ℚ) / total)))

def evaluate (bundle : EvidenceBundle) (h : Hypothesis) : HypothesisEvaluation where
  hypothesis := h
  coverage := coverageRatio (h.supportingEvidenceIds.countP fun id => citationProblem bundle h id = none)
    (h.supportingEvidenceIds.length + h.unverifiedClaims.length)
  unsupported := (citationProblems bundle h).length + h.unverifiedClaims.length
  contradictions := (contradictionsFound bundle h).length
  descriptors := citationProblems bundle h ++
    h.unverifiedClaims.map (fun claim => s!"Hypothesis {h.hypothesisId} has unverified claim: {claim}") ++
    (contradictionsFound bundle h).map
      (fun id => s!"Hypothesis {h.hypothesisId} contradicted by bundle evidence ID: {id.value}.")

/-- The verdict, from the first of the ranked evaluations and a look at all of them. -/
def verdict (evaluations : List HypothesisEvaluation) (top : HypothesisEvaluation) : VerificationStatus :=
  if top.isContradicted ∧ ¬ ∃ e ∈ evaluations, e.isContradicted = false ∧ toDouble 0.7 ≤ e.coverage then .refuted
  else if 0 < top.unsupported ∨ top.coverage < toDouble 0.7 ∨ top.hypothesis.likelihoodScore < toDouble 0.8 ∨
      top.hypothesis.supportingEvidenceIds = [] then .needMoreEvidence
  else .verified

/-- The result where nothing has been ranked. -/
def unranked (bundle : EvidenceBundle) (hypotheses : List Hypothesis) (unsupported : Nat) (descriptor : String)
    (verifiedAt : UtcDateTime) : VerificationResult where
  investigationId := bundle.investigationId
  tenantId := bundle.tenantId
  status := .needMoreEvidence
  rankedHypotheses := hypotheses
  topHypothesisId := hypotheses.head?.map (·.hypothesisId)
  evidenceCoverageRatio := 0
  unsupportedClaimCount := unsupported
  contradictionCount := 0
  missingEvidenceDescriptors := [descriptor]
  verifiedAt := verifiedAt

def verifyHypotheses (hypotheses : List Hypothesis) (bundle : EvidenceBundle) (verifiedAt : UtcDateTime) :
    VerificationResult :=
  if bundle.evidenceItems = [] ∧ hypotheses ≠ [] then
    unranked bundle hypotheses
      (hypotheses.map fun h => max h.supportingEvidenceIds.length 1 + h.unverifiedClaims.length).sum
      "Evidence bundle contains zero evidence records." verifiedAt
  else
    let evaluations := hypotheses.map (evaluate bundle)
    match sortedBy HypothesisEvaluation.rankKey evaluations with
    | [] => unranked bundle [] 0 "No hypotheses submitted for verification." verifiedAt
    | top :: rest =>
      { investigationId := bundle.investigationId
        tenantId := bundle.tenantId
        status := verdict (top :: rest) top
        rankedHypotheses := (top :: rest).map (·.hypothesis)
        topHypothesisId := some top.hypothesis.hypothesisId
        evidenceCoverageRatio := top.coverage
        unsupportedClaimCount := (evaluations.map (·.unsupported)).sum
        contradictionCount := (evaluations.map (·.contradictions)).sum
        missingEvidenceDescriptors := evaluations.flatMap (·.descriptors)
        verifiedAt := verifiedAt }

/-- A citation of an active record of the bundle's tenant. -/
def Supported (bundle : EvidenceBundle) (evidenceId : UUIDv7) : Prop :=
  ∃ record, bundle.evidenceMap.get? evidenceId.value = some record ∧ record ∈ bundle.evidenceItems ∧
    record.tenantId = bundle.tenantId ∧ record.supersessionStatus = .active

/-- None of the identifiers is that of a record of the bundle. -/
def Uncontradicted (bundle : EvidenceBundle) (h : Hypothesis) : Prop :=
  ∀ id ∈ h.contradictingEvidenceIds, ∀ record ∈ bundle.evidenceItems, record.evidenceId ≠ id

/-- What a hypothesis must be like to be accepted. -/
structure Qualifies (bundle : EvidenceBundle) (h : Hypothesis) : Prop where
  citing : h.supportingEvidenceIds ≠ []
  supported : ∀ id ∈ h.supportingEvidenceIds, Supported bundle id
  verified : h.unverifiedClaims = []
  uncontradicted : Uncontradicted bundle h
  likely : toDouble 0.8 ≤ h.likelihoodScore

section evaluation
variable {bundle : EvidenceBundle} {h : Hypothesis}

theorem citationProblem_none (id : UUIDv7) : citationProblem bundle h id = none ↔ Supported bundle id := by
  unfold citationProblem Supported
  cases found : bundle.evidenceMap.get? id.value with
  | none => simp
  | some record =>
    have inside := (evidenceMap_member found).1
    have tenant : record.tenantId.value = bundle.tenantId.value ↔ record.tenantId = bundle.tenantId := by
      constructor
      · intro same
        cases left : record.tenantId with
        | mk value accepted =>
          cases right : bundle.tenantId with
          | mk other _ =>
            rw [left,right] at same
            obtain rfl : value = other := same
            rfl
      · exact congrArg _
    simp only [Option.some.injEq]
    by_cases own : record.tenantId = bundle.tenantId
    · by_cases active : record.supersessionStatus = .active
      · simp [own,active,inside]
      · simp [own,active]
    · simp [tenant,own]

theorem unsupported_zero :
    (evaluate bundle h).unsupported = 0 ↔
      h.supportingEvidenceIds ≠ [] ∧ (∀ id ∈ h.supportingEvidenceIds, Supported bundle id) ∧
        h.unverifiedClaims = [] := by
  simp only [evaluate,citationProblems,Nat.add_eq_zero_iff,List.length_eq_zero_iff]
  by_cases silent : h.supportingEvidenceIds = []
  · simp [silent]
  · simp [silent,List.filterMap_eq_nil_iff,citationProblem_none]

theorem contradicted_iff : (evaluate bundle h).isContradicted = false ↔ Uncontradicted bundle h := by
  have nothing : (evaluate bundle h).isContradicted = false ↔ contradictionsFound bundle h = [] := by
    unfold HypothesisEvaluation.isContradicted
    rw [decide_eq_false_iff_not,not_lt,Nat.le_zero]
    exact List.length_eq_zero_iff
  rw [nothing,contradictionsFound,List.filter_eq_nil_iff]
  refine forall_congr' fun id => forall_congr' fun _ => ?_
  rw [← evidenceMap_absent id,Bool.not_eq_true,Option.isSome_eq_false_iff,Option.isNone_iff_eq_none]

/-- Whatever the division gives, a coverage is at most 1. -/
theorem coverageRatio_le (valid total : Nat) : coverageRatio valid total ≤ 1 := by
  unfold coverageRatio
  split
  · exact zero_le_one
  · exact max_le zero_le_one (min_le_left ..)

theorem coverageRatio_full {total : Nat} (some_claim : total ≠ 0) : coverageRatio total total = 1 := by
  have whole : (total : ℚ) / total = 1 := div_self (Nat.cast_ne_zero.mpr some_claim)
  have one : toDouble 1 = 1 := by simpa using toDouble_two_pow 0
  rw [coverageRatio,if_neg some_claim,whole,one]
  simp

/-- A qualifying hypothesis has the full coverage. -/
theorem coverage_qualifies (qualifies : Qualifies bundle h) : (evaluate bundle h).coverage = 1 := by
  have all : (h.supportingEvidenceIds.countP fun id => citationProblem bundle h id = none) =
      h.supportingEvidenceIds.length := by
    rw [List.countP_eq_length]
    intro id inside
    exact decide_eq_true ((citationProblem_none id).mpr (qualifies.supported id inside))
  have total : h.supportingEvidenceIds.length + h.unverifiedClaims.length = h.supportingEvidenceIds.length := by
    rw [qualifies.verified]
    rfl
  have positive : h.supportingEvidenceIds.length ≠ 0 := fun none => qualifies.citing (List.length_eq_zero_iff.mp none)
  change coverageRatio _ _ = 1
  rw [all,total]
  exact coverageRatio_full positive

theorem qualifies_iff : Qualifies bundle h ↔ (evaluate bundle h).isContradicted = false ∧
    (evaluate bundle h).unsupported = 0 ∧ toDouble 0.8 ≤ h.likelihoodScore := by
  rw [contradicted_iff,unsupported_zero]
  constructor
  · intro q
    exact ⟨q.uncontradicted,⟨q.citing,q.supported,q.verified⟩,q.likely⟩
  · rintro ⟨uncontradicted,⟨citing,supported,verified⟩,likely⟩
    exact ⟨citing,supported,verified,uncontradicted,likely⟩

end evaluation
section ranking
variable {bundle : EvidenceBundle} {hypotheses : List Hypothesis} {top : HypothesisEvaluation}

/-- The parts of the key, compared in their order. -/
theorem rankKey_le (e f : HypothesisEvaluation) :
    e.rankKey ≤ f.rankKey ↔
      (!f.isContradicted) < (!e.isContradicted) ∨ f.isContradicted = e.isContradicted ∧
        (f.coverage < e.coverage ∨ f.coverage = e.coverage ∧
          (e.unsupported < f.unsupported ∨ f.unsupported = e.unsupported ∧
            f.hypothesis.likelihoodScore ≤ e.hypothesis.likelihoodScore)) := by
  unfold HypothesisEvaluation.rankKey
  rw [OrderDual.toDual_le_toDual,Prod.Lex.toLex_le_toLex,Prod.Lex.toLex_le_toLex,Prod.Lex.toLex_le_toLex]
  simp

/-- The first of the ranking is one of the evaluations, and no other ranks before it. -/
structure Leads (bundle : EvidenceBundle) (hypotheses : List Hypothesis) (top : HypothesisEvaluation) : Prop where
  evaluated : ∃ h ∈ hypotheses, top = evaluate bundle h
  first : ∀ h ∈ hypotheses, top.rankKey ≤ (evaluate bundle h).rankKey

theorem leads_of_ranking {rest : List HypothesisEvaluation}
    (ranked : sortedBy HypothesisEvaluation.rankKey (hypotheses.map (evaluate bundle)) = top :: rest) :
    Leads bundle hypotheses top := by
  have members := mem_sortedBy HypothesisEvaluation.rankKey (hypotheses.map (evaluate bundle))
  have ordered := sortedBy_pairwise HypothesisEvaluation.rankKey (hypotheses.map (evaluate bundle))
  rw [ranked] at members ordered
  constructor
  · obtain ⟨h,inside,same⟩ := List.mem_map.mp ((members top).mp (List.mem_cons_self ..))
    exact ⟨h,inside,same.symm⟩
  · intro h inside
    have listed := (members (evaluate bundle h)).mpr (List.mem_map_of_mem inside)
    rcases List.mem_cons.mp listed with same | later
    · rw [same]
    · exact (List.pairwise_cons.mp ordered).1 _ later

/-- The first is contradicted only if all are. -/
theorem leads_contradicted (leads : Leads bundle hypotheses top) (contradicted : top.isContradicted = true) :
    ∀ h ∈ hypotheses, (evaluate bundle h).isContradicted = true := by
  intro h inside
  have key := (rankKey_le top (evaluate bundle h)).mp (leads.first h inside)
  rw [contradicted] at key
  rcases key with less | ⟨same,_⟩
  · exact absurd less (by cases (evaluate bundle h).isContradicted <;> decide)
  · exact same

/-- A qualifying hypothesis makes the first one qualify. -/
theorem leads_qualifies (leads : Leads bundle hypotheses top) {h : Hypothesis} (inside : h ∈ hypotheses)
    (qualifies : Qualifies bundle h) :
    top.isContradicted = false ∧ top.unsupported = 0 ∧ toDouble 0.8 ≤ top.hypothesis.likelihoodScore := by
  obtain ⟨other,_,own⟩ := leads.evaluated
  have bounded : top.coverage ≤ 1 := by
    rw [own]
    exact coverageRatio_le ..
  have full := coverage_qualifies qualifies
  obtain ⟨uncontradicted,supported,likely⟩ := qualifies_iff.mp qualifies
  have key := (rankKey_le top (evaluate bundle h)).mp (leads.first h inside)
  rw [uncontradicted,supported,full] at key
  rcases key with less | ⟨same,less | ⟨_,fewer | ⟨none,likelier⟩⟩⟩
  · exact absurd less (by cases top.isContradicted <;> decide)
  · exact absurd less (not_lt.mpr bounded)
  · exact absurd fewer (Nat.not_lt_zero _)
  · exact ⟨same.symm,none.symm,likely.trans likelier⟩

theorem threshold_low : ¬ (1 : ℚ) < toDouble 0.7 := by decide +kernel

/-- The verdict on what leads a ranking of the hypotheses. -/
theorem verdict_verified {evaluations : List HypothesisEvaluation} (leads : Leads bundle hypotheses top)
    (all : ∀ e ∈ evaluations, ∃ h ∈ hypotheses, e = evaluate bundle h) :
    verdict evaluations top = .verified ↔ ∃ h ∈ hypotheses, Qualifies bundle h := by
  obtain ⟨own,mine,evaluated⟩ := leads.evaluated
  constructor
  · intro verified
    unfold verdict at verified
    split_ifs at verified with refuted lacking
    simp only [not_or,not_lt,Nat.le_zero] at lacking
    refine ⟨own,mine,qualifies_iff.mpr ⟨?_,?_,?_⟩⟩
    · by_contra contradicted
      have contradicted : top.isContradicted = true := by
        rw [evaluated]
        simpa using contradicted
      refine refuted ⟨contradicted,?_⟩
      rintro ⟨e,listed,free,_⟩
      obtain ⟨h,inside,same⟩ := all e listed
      have bad := leads_contradicted leads contradicted h inside
      rw [← same,free] at bad
      cases bad
    · rw [← evaluated]
      exact lacking.1
    · have likely := lacking.2.2.1
      rw [evaluated] at likely
      exact likely
  · rintro ⟨h,inside,qualifies⟩
    obtain ⟨uncontradicted,supported,likely⟩ := leads_qualifies leads inside qualifies
    have itself : Qualifies bundle own := by
      rw [evaluated] at uncontradicted supported likely
      exact qualifies_iff.mpr ⟨uncontradicted,supported,likely⟩
    have full : top.coverage = 1 := by
      rw [evaluated]
      exact coverage_qualifies itself
    have citing : top.hypothesis.supportingEvidenceIds ≠ [] := by
      rw [evaluated]
      exact itself.citing
    unfold verdict
    rw [if_neg (by simp [uncontradicted]),if_neg]
    rintro (some | low | unlikely | silent)
    · omega
    · exact threshold_low (full ▸ low)
    · exact absurd unlikely (not_lt.mpr likely)
    · exact citing silent

theorem verdict_refuted {evaluations : List HypothesisEvaluation} (leads : Leads bundle hypotheses top)
    (all : ∀ e ∈ evaluations, ∃ h ∈ hypotheses, e = evaluate bundle h) :
    verdict evaluations top = .refuted ↔ ∀ h ∈ hypotheses, ¬ Uncontradicted bundle h := by
  obtain ⟨own,mine,evaluated⟩ := leads.evaluated
  constructor
  · intro refuted h inside free
    unfold verdict at refuted
    split_ifs at refuted with contradicted lacking
    have bad := leads_contradicted leads contradicted.1 h inside
    rw [contradicted_iff.mpr free] at bad
    cases bad
  · intro contradicted
    have bad (h : Hypothesis) (inside : h ∈ hypotheses) : (evaluate bundle h).isContradicted = true := by
      by_contra free
      exact contradicted h inside (contradicted_iff.mp (by simpa using free))
    unfold verdict
    rw [if_pos]
    refine ⟨by rw [evaluated]; exact bad own mine,?_⟩
    rintro ⟨e,listed,free,_⟩
    obtain ⟨h,inside,same⟩ := all e listed
    have both := bad h inside
    rw [← same,free] at both
    cases both

end ranking

section verdicts
variable {bundle : EvidenceBundle} {hypotheses : List Hypothesis}

/-- With hypotheses and evidence the status is the verdict on the leading evaluation. -/
theorem status_eq (some_hypothesis : hypotheses ≠ []) (some_evidence : bundle.evidenceItems ≠ [])
    (verifiedAt : UtcDateTime) :
    ∃ evaluations top, (verifyHypotheses hypotheses bundle verifiedAt).status = verdict evaluations top ∧
      Leads bundle hypotheses top ∧ ∀ e ∈ evaluations, ∃ h ∈ hypotheses, e = evaluate bundle h := by
  unfold verifyHypotheses
  rw [if_neg (fun both => some_evidence both.1)]
  have perm := sortedBy_perm HypothesisEvaluation.rankKey (hypotheses.map (evaluate bundle))
  cases ranked : sortedBy HypothesisEvaluation.rankKey (hypotheses.map (evaluate bundle)) with
  | nil =>
    rw [ranked] at perm
    exact absurd (List.map_eq_nil_iff.mp perm.symm.eq_nil) some_hypothesis
  | cons top rest =>
    refine ⟨top :: rest,top,by simp only [ranked],leads_of_ranking ranked,?_⟩
    intro e listed
    rw [ranked] at perm
    obtain ⟨h,inside,same⟩ := List.mem_map.mp (perm.mem_iff.mp listed)
    exact ⟨h,inside,same.symm⟩

/-- Verified is exactly what has a qualifying hypothesis, and no verdict depends on the
order of the hypotheses. -/
theorem verifyHypotheses_verdict (some_hypothesis : hypotheses ≠ []) (some_evidence : bundle.evidenceItems ≠ [])
    (verifiedAt : UtcDateTime) :
    ((verifyHypotheses hypotheses bundle verifiedAt).status = .verified ↔ ∃ h ∈ hypotheses, Qualifies bundle h) ∧
    ∀ reordered, reordered.Perm hypotheses →
      (verifyHypotheses reordered bundle verifiedAt).status = (verifyHypotheses hypotheses bundle verifiedAt).status := by
  obtain ⟨evaluations,top,status,leads,all⟩ := status_eq some_hypothesis some_evidence verifiedAt
  rw [status]
  refine ⟨verdict_verified leads all,?_⟩
  intro reordered perm
  have some_reordered : reordered ≠ [] := by
    rintro rfl
    exact some_hypothesis perm.symm.eq_nil
  obtain ⟨evaluations',top',status',leads',all'⟩ := status_eq some_reordered some_evidence verifiedAt
  rw [status']
  have verified : verdict evaluations' top' = .verified ↔ verdict evaluations top = .verified := by
    rw [verdict_verified leads' all',verdict_verified leads all]
    simp only [perm.mem_iff]
  have refuted : verdict evaluations' top' = .refuted ↔ verdict evaluations top = .refuted := by
    rw [verdict_refuted leads' all',verdict_refuted leads all]
    simp only [perm.mem_iff]
  generalize verdict evaluations' top' = left at verified refuted
  generalize verdict evaluations top = right at verified refuted
  cases left <;> cases right <;> simp at verified refuted ⊢

end verdicts

section samples

def activeRecord : EvidenceRecord where
  evidenceId := ⟨"e"⟩
  tenantId := ⟨"tnt_acme",Eq.refl true⟩
  sourceObjectRef := "r"
  contentDigest := "d"
  eventTime := ⟨0⟩
  effectiveTime := ⟨0⟩
  supersessionStatus := .active
  supersessionAccepted := nofun

def oneRecord : EvidenceBundle := ⟨⟨"b"⟩,⟨"i"⟩,activeRecord.tenantId,1,[activeRecord],"",⟨0⟩⟩

/-- Likelier, but with a citation that the bundle does not have. -/
def phantom : Hypothesis := ⟨"h1",1,[⟨"e"⟩,⟨"f"⟩],[],[],by norm_num⟩

def grounded : Hypothesis := ⟨"h2",9 / 10,[⟨"e"⟩,⟨"e"⟩],[],[],by norm_num⟩

theorem grounded_qualifies : Qualifies oneRecord grounded where
  citing := by decide
  supported := by
    intro id inside
    have same : id = ⟨"e"⟩ := by simpa [grounded] using inside
    subst same
    exact ⟨activeRecord,rfl,List.mem_cons_self ..,rfl,rfl⟩
  verified := rfl
  uncontradicted := nofun
  likely := by decide +kernel

/-- A phantom citation before it does not keep the grounded hypothesis from its verdict. -/
theorem verifyHypotheses_grounded :
    (verifyHypotheses [phantom,grounded] oneRecord ⟨0⟩).status = .verified ∧
      (verifyHypotheses [grounded,phantom] oneRecord ⟨0⟩).status = .verified := by
  have both := @verifyHypotheses_verdict oneRecord [phantom,grounded] (by simp) (by simp [oneRecord]) ⟨0⟩
  have verified := both.1.mpr ⟨grounded,by simp,grounded_qualifies⟩
  exact ⟨verified,(both.2 [grounded,phantom] (List.Perm.swap ..)).trans verified⟩

end samples
end InvestigationVerifier
end RevPilot.Agent
