import RevPilot.Evidence.Domain
import RevPilot.Shared.Errors

/-! `verify_claim`: the rejection rules in their order, the check of each cited record
and the search for a contradiction. The Unicode tables behind `lower` and `\w` and the
order of unknown objects are parameters. -/
namespace RevPilot.Verifier
open Library Shared Evidence

inductive ClaimCategory : Type
  | directlyObserved | derivedStatistic | association | causalEstimate | unsupportedInference | policyActionClaim
  deriving DecidableEq

inductive ClaimVerifierStatus : Type
  | verified | partiallySupported | unsupported | contradicted | needMoreEvidence | unavailable
  deriving DecidableEq

structure VerifiedClaim where
  claimId : String
  hypothesisId : String
  statement : String
  category : ClaimCategory
  evidenceReferences : List UUIDv7 := []
  temporalAsOf : UtcDateTime
  verifierStatus : ClaimVerifierStatus
  rejectionReason : Option String := none
  verifiedAt : UtcDateTime

/-- What the rules ask of the runtime: case mapping, `str.isalnum` of a character, and
`o > 0` of an object that `json` does not know. -/
structure Runtime where
  casing : Text.Casing
  isAlnum : Char → Bool
  exceedsZero : String → Except PyError Bool

section search
variable (isAlnum : Char → Bool)

/-- Whether `\w` matches at a place of the text. -/
def wordAt : Option Char → Bool
  | some c => isAlnum c || c == '_'
  | none => false

/-- `\b` before and after one occurrence of the phrase. -/
def standsAt (before : Option Char) (phrase text : List Char) : Bool :=
  phrase.isPrefixOf text && wordAt isAlnum before != wordAt isAlnum text.head? &&
    wordAt isAlnum phrase.getLast? != wordAt isAlnum (text.drop phrase.length).head?

def searchFrom (phrase : List Char) : Option Char → List Char → Bool
  | before, [] => standsAt isAlnum before phrase []
  | before, c :: text => standsAt isAlnum before phrase (c :: text) || searchFrom phrase (some c) text

/-- `re.search` of any of the phrases between word boundaries. -/
def searchAny (phrases : List String) (text : String) : Bool :=
  phrases.any fun phrase => searchFrom isAlnum phrase.toList none text.toList

end search

/-- The alternatives of the patterns; `[s]?` gives two of them. -/
def CAUSAL_KEYWORDS : List String :=
  ["caused","causes","causing","drive","drives","driven by","led to","leads to","resulted in","results in","due to",
    "because of","root cause"]

def SELF_AUTHORIZATION_KEYWORDS : List String :=
  ["authorize","authorizes","waive","waives","approve","approves","override policy","overrides policy","grant access",
    "grants access"]

def checkCitationSpan (record : EvidenceRecord) : Bool :=
  match record.citationSpan with
  | none => true
  | some span => decide (span.startChar < span.endChar) && decide (0 < (Text.strip span.snippetText).toList.length)

def checkTemporalLeakage (claim : VerifiedClaim) (asOfTime : UtcDateTime) : Bool :=
  decide (asOfTime < claim.temporalAsOf)

def checkCorrelationCausationFallacy (runtime : Runtime) (claim : VerifiedClaim) : Bool :=
  claim.category == .association &&
    searchAny runtime.isAlnum CAUSAL_KEYWORDS (runtime.casing.lower claim.statement)

def checkSelfAuthorization (runtime : Runtime) (claim : VerifiedClaim) : Bool :=
  searchAny runtime.isAlnum SELF_AUTHORIZATION_KEYWORDS (runtime.casing.lower claim.statement)

def VerifiedClaim.settle (claim : VerifiedClaim) (status : ClaimVerifierStatus) (reason : Option String)
    (now : UtcDateTime) : VerifiedClaim :=
  { claim with verifierStatus := status, rejectionReason := reason, verifiedAt := now }

/-- The cited records in order, or the first reference that the bundle does not have. -/
def citedRecords (bundle : EvidenceBundle) : List UUIDv7 → Except String (List EvidenceRecord)
  | [] => .ok []
  | ref :: refs =>
    match bundle.evidenceMap.get? ref.value with
    | none => .error ref.value
    | some record => (citedRecords bundle refs).map (record :: ·)

/-- The first rule that rejects a cited record. -/
def recordRejection (bundle : EvidenceBundle) (asOfTime : UtcDateTime) (record : EvidenceRecord) : Option String :=
  if record.tenantId ≠ bundle.tenantId then some "ERR_TENANT_MISMATCH: Cited evidence belongs to another tenant"
  else if record.supersessionStatus ≠ .active ∧ passed record.supersededAt asOfTime then
    some "ERR_SUPERSEDED_EVIDENCE: Cited evidence was superseded before as_of_time"
  else if record.supersessionStatus ≠ .active ∧ passed record.expirationTime asOfTime then
    some "ERR_EXPIRED_EVIDENCE: Cited evidence was expired before as_of_time"
  else if asOfTime < record.effectiveTime ∨ asOfTime < record.eventTime then
    some "ERR_TEMPORAL_LEAKAGE: Cited evidence timestamp exceeds as_of_time"
  else if record.contentDigest = "" ∨ record.sourceObjectRef = "" then
    some "ERR_UNPROVENANCED_EVIDENCE: Missing source object ref or content digest"
  else if checkCitationSpan record = false then
    some "ERR_INVALID_CITATION_SPAN: Character offsets or snippet invalid"
  else none

/-- `payload.get("status") in ("OUTAGE", "DELAYED", "FAILED")`. -/
def reportsTrouble (payload : Dict String PyValue) : Bool :=
  match payload.get? "status" with
  | some (.str status) => ["OUTAGE","DELAYED","FAILED"].contains status
  | _ => false

/-- `v > 0`; texts, containers and `None` are not ordered with a number. -/
def exceedsZero (runtime : Runtime) : PyValue → Except PyError Bool
  | .int i => .ok (decide (0 < i))
  | .bool b => .ok b
  | .float x =>
    .ok (x.text.head? != some '-' && x.text != ['0','.','0'] && x.text != ['N','a','N'])
  | .other text _ => runtime.exceedsZero text
  | _ => .error .typeError

/-- Whether a record refutes that all is well, record by record until one does. -/
def refutedBy (runtime : Runtime) : List EvidenceRecord → Except PyError Bool
  | [] => .ok false
  | record :: rest =>
    if reportsTrouble record.payload then .ok true
    else do
      if ← exceedsZero runtime ((record.payload.get? "delay_minutes").getD (.int 0)) then return true
      else refutedBy runtime rest

/-- The statement says that all is well. -/
def claimsNoTrouble (runtime : Runtime) (claim : VerifiedClaim) : Bool :=
  ["no issue","no outage","zero delay"].any fun phrase =>
    Text.contains (runtime.casing.lower claim.statement) phrase

def contradiction (runtime : Runtime) (claim : VerifiedClaim) (cited : List EvidenceRecord) : Except PyError Bool :=
  if claimsNoTrouble runtime claim then refutedBy runtime cited else .ok false

def verifyClaim (runtime : Runtime) (claim : VerifiedClaim) (bundle : EvidenceBundle) (asOfTime now : UtcDateTime) :
    Except PyError VerifiedClaim :=
  let reject (reason : String) : Except PyError VerifiedClaim := .ok (claim.settle .unsupported (some reason) now)
  if checkTemporalLeakage claim asOfTime then
    reject "ERR_TEMPORAL_LEAKAGE: Claim as_of exceeds evaluation as_of_time"
  else if checkSelfAuthorization runtime claim then
    reject "ERR_SELF_AUTHORIZATION: Claims cannot authorize actions or override policy"
  else if checkCorrelationCausationFallacy runtime claim then
    reject "ERR_CORRELATION_AS_CAUSATION: Association claim asserts causal intervention effect"
  else if claim.category = .unsupportedInference then
    reject "ERR_UNSUPPORTED_INFERENCE: Speculative or ungrounded statement"
  else if claim.evidenceReferences = [] then
    reject "ERR_MISSING_EVIDENCE: Zero evidence references cited"
  else
    match citedRecords bundle claim.evidenceReferences with
    | .error ref => reject s!"ERR_UNGROUNDED_EVIDENCE: Cited reference {ref} not in evidence bundle"
    | .ok cited =>
      match cited.findSome? (recordRejection bundle asOfTime) with
      | some reason => reject reason
      | none => do
        if ← contradiction runtime claim cited then
          return claim.settle .contradicted
            (some "ERR_CONTRADICTED_BY_EVIDENCE: Canonical record directly refutes claim") now
        else return claim.settle .verified none now

end RevPilot.Verifier

/-! Where the verifier and the evidence filter disagree about a cited record. The
verifier asks for the expiration only of records that are no longer active, and lets a
revoked or expired record stand whose instants have not passed. -/
namespace RevPilot.Verifier
open Library Shared Evidence

section records
variable {bundle : EvidenceBundle} {asOfTime : UtcDateTime} {record : EvidenceRecord}

/-- An active record whose expiration has passed, or a revoked or expired one without
an instant that has. -/
def Overlooked (record : EvidenceRecord) (asOfTime : UtcDateTime) : Prop :=
  match record.supersessionStatus with
  | .active => passed record.expirationTime asOfTime = true
  | .superseded => False
  | .revoked | .expired =>
    passed record.supersededAt asOfTime = false ∧ passed record.expirationTime asOfTime = false

/-- What a record that no rule rejects is like. -/
structure Accepted (bundle : EvidenceBundle) (asOfTime : UtcDateTime) (record : EvidenceRecord) : Prop where
  tenant : record.tenantId = bundle.tenantId
  unsuperseded : record.supersessionStatus ≠ .active → passed record.supersededAt asOfTime = false
  unexpired : record.supersessionStatus ≠ .active → passed record.expirationTime asOfTime = false
  effective : ¬ asOfTime < record.effectiveTime

theorem accepted_of_none (kept : recordRejection bundle asOfTime record = none) : Accepted bundle asOfTime record := by
  unfold recordRejection at kept
  split_ifs at kept with tenant superseded expired leaking unprovenanced span
  constructor
  · exact not_not.mp tenant
  · intro inactive
    by_contra gone
    exact superseded ⟨inactive,by simpa using gone⟩
  · intro inactive
    by_contra gone
    exact expired ⟨inactive,by simpa using gone⟩
  · intro future
    exact leaking (.inl future)

/-- A superseded record names its instant, so for it the two agree. -/
theorem later_of_superseded (status : record.supersessionStatus = .superseded)
    (future : passed record.supersededAt asOfTime = false) :
    (record.supersededAt.any fun at_ => decide (asOfTime < at_)) = true := by
  obtain ⟨instant,named⟩ := Option.isSome_iff_exists.mp (record.supersessionAccepted status)
  rw [named] at future ⊢
  have after : ¬ instant.micros ≤ asOfTime.micros := of_decide_eq_false future
  exact decide_eq_true (show asOfTime.micros < instant.micros from not_le.mp after)

theorem valid_iff (accepted : Accepted bundle asOfTime record) :
    isEvidenceTemporallyValid record asOfTime = true ↔ ¬ Overlooked record asOfTime := by
  have unsuperseded := accepted.unsuperseded
  have unexpired := accepted.unexpired
  unfold isEvidenceTemporallyValid Overlooked
  rw [if_neg accepted.effective]
  cases status : record.supersessionStatus with
  | active => cases passed record.expirationTime asOfTime <;> simp
  | superseded =>
    have later := later_of_superseded status (unsuperseded (by simp [status]))
    simp [unexpired (by simp [status]),later]
  | revoked => simp [unsuperseded (by simp [status]),unexpired (by simp [status])]
  | expired => simp [unsuperseded (by simp [status]),unexpired (by simp [status])]

end records

section citations
variable {bundle : EvidenceBundle}

theorem citedRecords_ok {refs : List UUIDv7} {cited : List EvidenceRecord}
    (ok : citedRecords bundle refs = .ok cited) :
    cited.map some = refs.map fun ref => bundle.evidenceMap.get? ref.value := by
  induction refs generalizing cited with
  | nil =>
    cases ok
    rfl
  | cons ref refs ih =>
    unfold citedRecords at ok
    split at ok
    next => cases ok
    next record found =>
      cases later : citedRecords bundle refs with
      | error missing =>
        rw [later] at ok
        cases ok
      | ok rest =>
        rw [later] at ok
        cases ok
        rw [List.map_cons,List.map_cons,ih later,found]

/-- The records a claim cites, as the bundle resolves its references. -/
def Cites (claim : VerifiedClaim) (bundle : EvidenceBundle) (record : EvidenceRecord) : Prop :=
  ∃ ref ∈ claim.evidenceReferences, bundle.evidenceMap.get? ref.value = some record

theorem mem_cited_iff {claim : VerifiedClaim} {cited : List EvidenceRecord}
    (ok : citedRecords bundle claim.evidenceReferences = .ok cited) (record : EvidenceRecord) :
    record ∈ cited ↔ Cites claim bundle record := by
  have listed : some record ∈ cited.map some ↔ record ∈ cited := by simp
  rw [← listed,citedRecords_ok ok]
  simp [Cites]

theorem cited_of_ref {claim : VerifiedClaim} {cited : List EvidenceRecord}
    (ok : citedRecords bundle claim.evidenceReferences = .ok cited) {ref : UUIDv7}
    (inside : ref ∈ claim.evidenceReferences) : ∃ record ∈ cited, bundle.evidenceMap.get? ref.value = some record := by
  have member : bundle.evidenceMap.get? ref.value ∈ cited.map some := by
    rw [citedRecords_ok ok]
    exact List.mem_map.mpr ⟨ref,inside,rfl⟩
  obtain ⟨record,member,found⟩ := List.mem_map.mp member
  exact ⟨record,member,found.symm⟩

end citations

section claims
variable (runtime : Runtime) (claim : VerifiedClaim) (bundle : EvidenceBundle) (asOfTime now : UtcDateTime)

/-- None of the rules objects to the claim. -/
structure Passes : Prop where
  timely : checkTemporalLeakage claim asOfTime = false
  unassuming : checkSelfAuthorization runtime claim = false
  uncausal : checkCorrelationCausationFallacy runtime claim = false
  grounded : claim.category ≠ .unsupportedInference
  citing : claim.evidenceReferences ≠ []
  cited : ∃ cited, citedRecords bundle claim.evidenceReferences = .ok cited ∧
    (∀ record ∈ cited, recordRejection bundle asOfTime record = none) ∧
    contradiction runtime claim cited = .ok false

theorem verified_iff :
    (∃ result, verifyClaim runtime claim bundle asOfTime now = .ok result ∧ result.verifierStatus = .verified) ↔
      Passes runtime claim bundle asOfTime := by
  constructor
  · rintro ⟨result,ok,verified⟩
    unfold verifyClaim at ok
    dsimp only at ok
    split_ifs at ok with leaking assuming causal ungrounded silent
    any_goals
      cases ok
      cases verified
    split at ok
    next =>
      cases ok
      cases verified
    next cited found =>
      split at ok
      next =>
        cases ok
        cases verified
      next unrejected =>
        refine ⟨by simpa using leaking,by simpa using assuming,by simpa using causal,ungrounded,silent,cited,found,
          List.findSome?_eq_none_iff.mp unrejected,?_⟩
        cases refuted : contradiction runtime claim cited with
        | error e =>
          rw [refuted] at ok
          cases ok
        | ok answer =>
          rw [refuted] at ok
          cases answer with
          | false => rfl
          | true =>
            cases ok
            cases verified
  · rintro ⟨timely,unassuming,uncausal,grounded,citing,cited,found,unrejected,consistent⟩
    refine ⟨claim.settle .verified none now,?_,rfl⟩
    unfold verifyClaim
    simp only [timely,unassuming,uncausal,Bool.false_eq_true,if_false,if_neg grounded,if_neg citing,found,
      List.findSome?_eq_none_iff.mpr unrejected,consistent]
    rfl

/-- A verified claim cites records of the bundle, of its tenant and valid at the instant. -/
def Agrees : Prop :=
  ∀ result, verifyClaim runtime claim bundle asOfTime now = .ok result → result.verifierStatus = .verified →
    ∀ ref ∈ claim.evidenceReferences, ∃ record ∈ bundle.evidenceItems, bundle.evidenceMap.get? ref.value = some record ∧
      record.tenantId = bundle.tenantId ∧ isEvidenceTemporallyValid record asOfTime = true

/-- The verifier agrees with the filter exactly on the claims that a rule rejects and on
those that cite no overlooked record. -/
theorem verifier_agrees_iff :
    Agrees runtime claim bundle asOfTime now ↔
      (Passes runtime claim bundle asOfTime → ∀ record, Cites claim bundle record → ¬ Overlooked record asOfTime) := by
  constructor
  · rintro agrees passes record ⟨ref,inside,found⟩
    obtain ⟨result,ok,verified⟩ := (verified_iff runtime claim bundle asOfTime now).mpr passes
    obtain ⟨other,_,same,_,valid⟩ := agrees result ok verified ref inside
    obtain rfl : record = other := Option.some.inj (found.symm.trans same)
    obtain ⟨cited,listed,unrejected,_⟩ := passes.cited
    have accepted := accepted_of_none (unrejected record ((mem_cited_iff listed record).mpr ⟨ref,inside,found⟩))
    exact (valid_iff accepted).mp valid
  · intro clean result ok verified ref inside
    have passes := (verified_iff runtime claim bundle asOfTime now).mp ⟨result,ok,verified⟩
    obtain ⟨cited,listed,unrejected,_⟩ := passes.cited
    obtain ⟨record,member,found⟩ := cited_of_ref listed inside
    have accepted := accepted_of_none (unrejected record member)
    have valid := (valid_iff accepted).mpr (clean passes record ⟨ref,inside,found⟩)
    exact ⟨record,(evidenceMap_member found).1,found,accepted.tenant,valid⟩

end claims

section samples

def sampleRuntime : Runtime := ⟨Text.asciiCasing,Char.isAlphanum,fun _ => .error .typeError⟩

def acmeTenant : TenantId := ⟨"tnt_acme",Eq.refl true⟩

/-- A record of instant 0 with the given end and status. -/
def sampleRecord (status : SupersessionStatus) (expiration : Option UtcDateTime)
    (accepted : status ≠ .superseded) : EvidenceRecord where
  evidenceId := ⟨"e"⟩
  tenantId := acmeTenant
  sourceObjectRef := "r"
  contentDigest := "d"
  eventTime := ⟨0⟩
  effectiveTime := ⟨0⟩
  expirationTime := expiration
  supersessionStatus := status
  supersessionAccepted := fun same => absurd same accepted

def sampleBundle (record : EvidenceRecord) : EvidenceBundle :=
  ⟨⟨"b"⟩,⟨"i"⟩,acmeTenant,1,[record],"",⟨0⟩⟩

def sampleClaim : VerifiedClaim where
  claimId := "c"
  hypothesisId := "h"
  statement := "ok"
  category := .directlyObserved
  evidenceReferences := [⟨"e"⟩]
  temporalAsOf := ⟨0⟩
  verifierStatus := .needMoreEvidence
  verifiedAt := ⟨0⟩

/-- At instant 5 the claim is verified on a record that expired at 3, and on a revoked
one; the filter takes neither. -/
theorem verifier_overlooks :
    ¬ Agrees sampleRuntime sampleClaim (sampleBundle (sampleRecord .active (some ⟨3⟩) (by decide))) ⟨5⟩ ⟨9⟩ ∧
    ¬ Agrees sampleRuntime sampleClaim (sampleBundle (sampleRecord .revoked none (by decide))) ⟨5⟩ ⟨9⟩ := by
  constructor
  · intro agrees
    obtain ⟨record,inside,_,_,valid⟩ := agrees (sampleClaim.settle .verified none ⟨9⟩) (by rfl) rfl ⟨"e"⟩
      (List.mem_cons_self ..)
    obtain rfl := List.mem_singleton.mp inside
    exact absurd valid (by decide)
  · intro agrees
    obtain ⟨record,inside,_,_,valid⟩ := agrees (sampleClaim.settle .verified none ⟨9⟩) (by rfl) rfl ⟨"e"⟩
      (List.mem_cons_self ..)
    obtain rfl := List.mem_singleton.mp inside
    exact absurd valid (by decide)

end samples
end RevPilot.Verifier
