import RevPilot.Library.Outcome
import RevPilot.ToolGateway.Binding

/-! A dry run and the run it stands for. The dry run returns before a credential is issued,
so it says nothing of the credential's life, and it hashes a payload from which the
credential's own texts have not been scrubbed. -/
namespace RevPilot.ToolGateway
open Library Shared Program Approval RevPilot.Action ActionCapabilityGateway

def ActionCapabilityRequest.dry (req : ActionCapabilityRequest) : ActionCapabilityRequest := { req with isDryRun := true }

def ActionCapabilityRequest.live (req : ActionCapabilityRequest) : ActionCapabilityRequest := { req with isDryRun := false }

/-- The digest of the payload without the secrets that are known. -/
def digestKnowing (rt : Runtime) (secrets : List String) (payload : Payload) : Except PyError String := do
  let scrubbed ← scrubSecrets rt.casing secrets payload.value
  computeCanonicalDigest rt.sha256 scrubbed

/-- The texts of the credential that gate 4 would issue. -/
def issuedSecrets (token : CredentialBroker.TokenReadings) : List String := ["tok_eph_" ++ token.tokenHex,token.tokenSecret]

section unmentioned
variable (casing : Text.Casing) (secrets : List String)

mutual
/-- No text of the value contains one of the secrets once its bearer tokens are gone. -/
def Unmentioned : PyValue → Prop
  | .dict members => UnmentionedMembers members
  | .list items => UnmentionedItems items
  | .str s => ∀ secret ∈ secrets, Text.contains (if hasBearer s then redactBearer s else s) secret = false
  | _ => True
def UnmentionedMembers : List (PyKey × PyValue) → Prop
  | [] => True
  | (_,value) :: members => Unmentioned value ∧ UnmentionedMembers members
def UnmentionedItems : List PyValue → Prop
  | [] => True
  | item :: items => Unmentioned item ∧ UnmentionedItems items
end

theorem scrubText_unmentioned {s : String}
    (free : ∀ secret ∈ secrets, Text.contains (if hasBearer s then redactBearer s else s) secret = false) :
    scrubText secrets s = scrubText [] s := by
  unfold scrubText
  generalize (if hasBearer s then redactBearer s else s) = text at free ⊢
  induction secrets with
  | nil => rfl
  | cons secret secrets ih =>
    have absent := free secret List.mem_cons_self
    simp only [List.foldl_cons,absent,Bool.false_eq_true,and_false,if_false]
    exact ih fun other member => free other (List.mem_cons_of_mem _ member)

mutual
/-- Secrets that are not mentioned leave no trace. -/
theorem scrub_unmentioned : ∀ value, Unmentioned secrets value →
    scrubSecrets casing secrets value = scrubSecrets casing [] value
  | .dict members, free => by
    simp only [scrubSecrets]
    rw [scrubMembers_unmentioned members free]
  | .list items, free => by
    simp only [scrubSecrets]
    rw [scrubItems_unmentioned items free]
  | .str s, free => by
    simp only [scrubSecrets]
    rw [scrubText_unmentioned secrets free]
  | .none, _ => rfl
  | .bool _, _ => rfl
  | .int _, _ => rfl
  | .float _, _ => rfl
  | .tuple _, _ => rfl
  | .other _ _, _ => rfl
theorem scrubMembers_unmentioned : ∀ members, UnmentionedMembers secrets members →
    scrubMembers casing secrets members = scrubMembers casing [] members
  | [], _ => rfl
  | (key,value) :: members, ⟨free,rest⟩ => by
    simp only [scrubMembers]
    rw [scrub_unmentioned value free,scrubMembers_unmentioned members rest]
theorem scrubItems_unmentioned : ∀ items, UnmentionedItems secrets items →
    scrubItems casing secrets items = scrubItems casing [] items
  | [], _ => rfl
  | item :: items, ⟨free,rest⟩ => by
    simp only [scrubItems]
    rw [scrub_unmentioned item free,scrubItems_unmentioned items rest]
end

end unmentioned

section parity
variable (rt : Runtime) (gateway : ActionCapabilityGateway) (ctx : TenantContext) (req : ActionCapabilityRequest)
  (approvalArtifact : Option ApprovalArtifact) (dryReadings readings : DispatchReadings)

/-- What a dispatch returns. -/
def outcome {V : Type} (adapter : ProviderAdapter V) (w : GatewayWorld V) (request : ActionCapabilityRequest)
    (readings : DispatchReadings) : Except PyError (Except DomainError ActionLedgerRecord) :=
  ((gateway.dispatchAction rt ctx request approvalArtifact readings).exec (serve adapter) w).1

/-- A dry run that succeeds stands for a run that reaches the adapter, and both record one
digest, whatever the adapter does. -/
def DryRunParity : Prop :=
  ∀ (V : Type) (adapter : ProviderAdapter V) (w : GatewayWorld V) (record : ActionLedgerRecord),
    outcome rt gateway ctx approvalArtifact adapter w req.dry dryReadings = .ok (.ok record) →
    (∃ credential, (dispatched rt gateway ctx req.live approvalArtifact readings adapter w).executed =
      w.executed ++ [providerRequest req.live credential]) ∧
    ∀ actual, outcome rt gateway ctx approvalArtifact adapter w req.live readings = .ok (.ok actual) →
      actual.requestDigest = record.requestDigest

/-- The gates before the dry run's exit. -/
structure FirstGatesOpen : Prop where
  providerAllowed : gateway.mockForbidden rt = false
  sameTenant : ctx.tenantId = req.tenantId
  verified : artifactVerifies rt req approvalArtifact = .ok true

/-- Gates 4 and 5: the provider has a name, and the token outlives the request's time. -/
def CredentialLives : Prop :=
  gateway.defaultProvider ≠ "" ∧
    ∃ expiresAt, readings.token.issuedAt.plusSeconds 900 = some expiresAt ∧ req.asOfTime < expiresAt

theorem issued_iff (tenantId : TenantId) (provider actionType : String) (token : CredentialBroker.TokenReadings)
    (credential : EphemeralCredential) :
    CredentialBroker.issueEphemeralToken tenantId provider actionType token = .ok credential ↔
      provider ≠ "" ∧ token.issuedAt.plusSeconds 900 = some credential.expiresAt ∧
        knownSecrets credential = issuedSecrets token ∧ credential.targetProvider = provider ∧
        credential.scope = CredentialBroker.tokenScope tenantId provider actionType := by
  unfold CredentialBroker.issueEphemeralToken
  have allowed : ¬ CredentialBroker.maxTtlSeconds < (900 : Int) := by decide
  rw [if_neg allowed]
  cases ends : token.issuedAt.plusSeconds 900 with
  | none => simp
  | some expiresAt =>
    by_cases known : provider ≠ ""
    · simp only [known,dite_true,Except.ok.injEq,ne_eq,not_false_eq_true,true_and,Option.some.injEq]
      constructor
      · rintro rfl
        exact ⟨rfl,rfl,rfl,rfl⟩
      · rintro ⟨expires,secrets,target,scope⟩
        obtain ⟨tokenId,targetProvider,tokenScope,expiresAt',tokenSecret,accepted⟩ := credential
        simp only [knownSecrets,issuedSecrets,List.cons.injEq,and_true] at secrets
        obtain ⟨rfl,rfl⟩ := secrets
        simp only at expires target scope
        subst expires target scope
        rfl
    · simp [known]

theorem gatesOpen_live_iff : GatesOpen rt gateway ctx req.live approvalArtifact readings ↔
    FirstGatesOpen rt gateway ctx req approvalArtifact ∧ CredentialLives gateway req readings ∧
      ∃ digest, digestKnowing rt (issuedSecrets readings.token) req.payload = .ok digest := by
  constructor
  · rintro ⟨allowed,same,verified,_,credential,issued,fresh,digest,hashed⟩
    obtain ⟨known,ends,secrets,_,_⟩ := (issued_iff _ _ _ _ credential).mp issued
    change digestKnowing rt (knownSecrets credential) req.payload = .ok digest at hashed
    rw [secrets] at hashed
    exact ⟨⟨allowed,same,verified⟩,⟨known,_,ends,fresh⟩,digest,hashed⟩
  · rintro ⟨⟨allowed,same,verified⟩,⟨known,expiresAt,ends,fresh⟩,digest,hashed⟩
    let credential : EphemeralCredential := {
      tokenId := "tok_eph_" ++ readings.token.tokenHex
      targetProvider := gateway.defaultProvider
      scope := CredentialBroker.tokenScope req.tenantId gateway.defaultProvider req.actionType
      expiresAt := expiresAt
      tokenSecret := readings.token.tokenSecret
      fieldsAccepted := ⟨CredentialBroker.lead_ne_empty _ (by decide),known,by
        simp only [CredentialBroker.tokenScope,String.append_assoc]
        exact CredentialBroker.lead_ne_empty _ (by decide)⟩ }
    have issued : CredentialBroker.issueEphemeralToken req.tenantId gateway.defaultProvider req.actionType
        readings.token = .ok credential :=
      (issued_iff _ _ _ _ credential).mpr ⟨known,ends,rfl,rfl,rfl⟩
    exact ⟨allowed,same,verified,rfl,credential,issued,fresh,digest,hashed⟩

theorem simulate_ok {record : ActionLedgerRecord} (simulated : gateway.simulate rt req.dry dryReadings = .ok record) :
    digestKnowing rt [] req.payload = .ok record.requestDigest := by
  unfold simulate at simulated
  obtain ⟨scrubbed,cleaned,rest⟩ := Outcome.bind_eq_ok.mp simulated
  obtain ⟨digest,hashed,rest⟩ := Outcome.bind_eq_ok.mp rest
  obtain ⟨answered,_,made⟩ := Outcome.bind_eq_ok.mp rest
  cases made
  exact Outcome.bind_eq_ok.mpr ⟨scrubbed,cleaned,hashed⟩

theorem simulate_of_digest {digest : String} (hashed : digestKnowing rt [] req.payload = .ok digest) :
    ∃ record, gateway.simulate rt req.dry dryReadings = .ok record := by
  obtain ⟨scrubbed,cleaned,sealed⟩ := Outcome.bind_eq_ok.mp hashed
  have answer : ∃ answered, computeCanonicalDigest rt.sha256
      (dictOf [("status",.str "DRY_RUN_ACCEPTED"),("action_type",.str req.dry.actionType),
        ("targets_count",.int req.dry.targetEntities.length),("zero_side_effect",.bool true)]) = .ok answered := by
    simp only [computeCanonicalDigest,PyValue.dumps,dictOf,List.map_cons,List.map_nil,PyValue.toTree,PyValue.toMembers]
    simp +decide [sortMembers,ranked?,PyKey.string?,sortRanked]
  obtain ⟨answered,said⟩ := answer
  have cleanedDry : scrubSecrets rt.casing [] req.dry.payload.value = .ok scrubbed := cleaned
  unfold simulate
  simp only [cleanedDry,sealed,said,bind,Except.bind,pure,Except.pure]
  exact ⟨_,rfl⟩

variable {V : Type} (adapter : ProviderAdapter V) (w : GatewayWorld V)

/-- A dry run succeeds exactly where its gates are open and its record can be made. -/
theorem dry_outcome (record : ActionLedgerRecord) :
    outcome rt gateway ctx approvalArtifact adapter w req.dry dryReadings = .ok (.ok record) ↔
      FirstGatesOpen rt gateway ctx req approvalArtifact ∧ gateway.simulate rt req.dry dryReadings = .ok record := by
  unfold outcome dispatchAction
  constructor
  · split
    next => rintro ⟨⟩
    next allowed =>
      split
      next => rintro ⟨⟩
      next same =>
        split
        next => rintro ⟨⟩
        next =>
          cases verified : artifactVerifies rt req.dry approvalArtifact with
          | error raised => rintro ⟨⟩
          | ok accepted =>
            cases accepted with
            | false => rintro ⟨⟩
            | true =>
              simp only [Prog.ofExcept_ok,Prog.ret_bind,Bool.not_true,Bool.false_eq_true,if_false]
              rw [if_pos (show req.dry.isDryRun = true from rfl)]
              cases simulated : gateway.simulate rt req.dry dryReadings with
              | error raised => rintro ⟨⟩
              | ok made =>
                rintro ⟨rfl⟩
                exact ⟨⟨Bool.eq_false_iff.mpr allowed,not_not.mp same,verified⟩,rfl⟩
  · rintro ⟨⟨allowed,same,verified⟩,simulated⟩
    have digestFits : req.dry.approvalDigest.length = 64 := req.fieldsAccepted.1
    have sameDry : ctx.tenantId = req.dry.tenantId := same
    have verifiedDry : artifactVerifies rt req.dry approvalArtifact = .ok true := verified
    have isDry : req.dry.isDryRun = true := rfl
    simp only [allowed,sameDry,digestFits,verifiedDry,isDry,simulated,Bool.false_eq_true,if_false,ne_eq,
      not_true_eq_false,Prog.ofExcept_ok,Prog.ret_bind,Bool.not_true,if_true]
    rfl

theorem recordAnswer_digest {request : ActionCapabilityRequest} {credential : EphemeralCredential} {digest : String}
    {answer : Except DomainError ProviderResponse} {record : ActionLedgerRecord}
    (recorded : gateway.recordAnswer rt request credential digest readings answer = .ok record) :
    record.requestDigest = digest := by
  cases answer with
  | error err =>
    obtain ⟨status,_,made⟩ := Outcome.bind_eq_ok.mp recorded
    cases made
    rfl
  | ok response =>
    obtain ⟨scrubbed,_,rest⟩ := Outcome.bind_eq_ok.mp recorded
    obtain ⟨answered,_,made⟩ := Outcome.bind_eq_ok.mp rest
    cases made
    rfl

theorem dispatchWith_digest {request : ActionCapabilityRequest} {credential : EphemeralCredential}
    {actual : ActionLedgerRecord}
    (returned : ((gateway.dispatchWith rt request credential readings).exec (serve adapter) w).1 = .ok (.ok actual)) :
    digestKnowing rt (knownSecrets credential) request.payload = .ok actual.requestDigest := by
  unfold dispatchWith at returned
  cases valid : CredentialBroker.validateToken credential request.tenantId gateway.defaultProvider request.actionType
      request.asOfTime with
  | error refused =>
    rw [valid] at returned
    cases returned
  | ok _ =>
    simp only [valid] at returned
    cases hashed : outboundDigest rt request credential with
    | error raised =>
      rw [hashed] at returned
      cases returned
    | ok digest =>
      simp only [hashed,Prog.ofExcept_ok,Prog.ret_bind,Prog.call_bind,Prog.exec_await,serve] at returned
      cases answered : (adapter w.outside (providerRequest request credential)).1 with
      | error raised =>
        rw [answered] at returned
        cases returned
      | ok answer =>
        simp only [answered,Prog.ofExcept_ok,Prog.ret_bind] at returned
        cases recorded : gateway.recordAnswer rt request credential digest readings answer with
        | error raised =>
          rw [recorded] at returned
          cases returned
        | ok record =>
          rw [recorded] at returned
          cases returned
          rw [recordAnswer_digest rt gateway readings recorded]
          exact hashed

/-- The digest that a live run records is that of gate 6. -/
theorem live_outcome {actual : ActionLedgerRecord}
    (returned : outcome rt gateway ctx approvalArtifact adapter w req.live readings = .ok (.ok actual)) :
    digestKnowing rt (issuedSecrets readings.token) req.payload = .ok actual.requestDigest := by
  unfold outcome dispatchAction at returned
  split at returned
  next => cases returned
  next =>
    split at returned
    next => cases returned
    next =>
      split at returned
      next => cases returned
      next =>
        cases verified : artifactVerifies rt req.live approvalArtifact with
        | error raised =>
          rw [verified] at returned
          cases returned
        | ok accepted =>
          cases accepted with
          | false =>
            rw [verified] at returned
            cases returned
          | true =>
            simp only [verified,Prog.ofExcept_ok,Prog.ret_bind,Bool.not_true,Bool.false_eq_true,if_false] at returned
            rw [if_neg (show ¬ req.live.isDryRun = true from Bool.false_ne_true)] at returned
            cases issued : CredentialBroker.issueEphemeralToken req.live.tenantId gateway.defaultProvider
                req.live.actionType readings.token with
            | error raised =>
              rw [issued] at returned
              cases raised <;> cases returned
            | ok credential =>
              simp only [issued,Prog.call_bind,Prog.exec_await] at returned
              have hashed := dispatchWith_digest rt gateway readings adapter _ returned
              rw [((issued_iff _ _ _ _ credential).mp issued).2.2.1] at hashed
              exact hashed

/-- An adapter that always answers with an empty payload. -/
def accepting : ProviderAdapter Unit := fun _ _ => (.ok (.ok ⟨200,"tx_1",.empty,0,by decide⟩),())

/-- With every gate open such an adapter leads to a record. -/
theorem accepting_records (gates : GatesOpen rt gateway ctx req.live approvalArtifact readings) :
    ∃ actual, outcome rt gateway ctx approvalArtifact accepting ⟨(),.empty,[]⟩ req.live readings = .ok (.ok actual) := by
  obtain ⟨allowed,same,verified,forReal,credential,issued,valid,digest,hashed⟩ := gates
  have fresh := (CredentialBroker.validateToken_issued req.live.asOfTime issued).mpr valid
  have digestFits : req.live.approvalDigest.length = 64 := req.fieldsAccepted.1
  unfold outcome dispatchAction
  simp only [allowed,same,digestFits,verified,forReal,issued,Bool.false_eq_true,if_false,ne_eq,
    not_true_eq_false,Prog.ofExcept_ok,Prog.ret_bind,Bool.not_true,Prog.call_bind,Prog.exec_await,serve,dispatchWith,
    fresh,hashed,accepting]
  exact ⟨_,rfl⟩

/-- Parity holds exactly where a dry run that can succeed stands for a token that lives
past the request's time and leaves no trace in the payload's digest. -/
theorem dry_run_parity_iff :
    DryRunParity rt gateway ctx req approvalArtifact dryReadings readings ↔
      ∀ digest, FirstGatesOpen rt gateway ctx req approvalArtifact → digestKnowing rt [] req.payload = .ok digest →
        CredentialLives gateway req readings ∧ digestKnowing rt (issuedSecrets readings.token) req.payload = .ok digest := by
  constructor
  · intro parity digest first hashed
    obtain ⟨record,simulated⟩ := simulate_of_digest rt gateway req dryReadings hashed
    have returned := (dry_outcome rt gateway ctx req approvalArtifact dryReadings accepting ⟨(),.empty,[]⟩ record).mpr
      ⟨first,simulated⟩
    obtain ⟨⟨credential,reached⟩,same⟩ := parity Unit accepting ⟨(),.empty,[]⟩ record returned
    have gates : GatesOpen rt gateway ctx req.live approvalArtifact readings := by
      by_contra shut
      rw [silent_of_not_gatesOpen rt gateway ctx req.live approvalArtifact readings accepting _ shut] at reached
      simp at reached
    obtain ⟨actual,recorded⟩ := accepting_records rt gateway ctx req approvalArtifact readings gates
    have equal := same actual recorded
    have dryDigest := simulate_ok rt gateway req dryReadings simulated
    have liveDigest := live_outcome rt gateway ctx req approvalArtifact readings accepting _ recorded
    rw [hashed] at dryDigest
    rw [liveDigest,equal,← dryDigest]
    exact ⟨((gatesOpen_live_iff rt gateway ctx req approvalArtifact readings).mp gates).2.1,rfl⟩
  · intro condition V adapter w record returned
    obtain ⟨first,simulated⟩ := (dry_outcome rt gateway ctx req approvalArtifact dryReadings adapter w record).mp returned
    obtain ⟨lives,hashed⟩ := condition _ first (simulate_ok rt gateway req dryReadings simulated)
    have gates := (gatesOpen_live_iff rt gateway ctx req approvalArtifact readings).mpr ⟨first,lives,_,hashed⟩
    refine ⟨executes_of_gatesOpen rt gateway ctx req.live approvalArtifact readings adapter w gates,?_⟩
    intro actual recorded
    have liveDigest := live_outcome rt gateway ctx req approvalArtifact readings adapter w recorded
    exact Except.ok.inj (liveDigest.symm.trans hashed)

end parity

section samples

/-- The refund of the samples, asked for as of an instant at which the token has run out. -/
def lateRefund : ActionCapabilityRequest := { unsealedRefund with asOfTime := ⟨900000000⟩ }

theorem lateRefund_hashes (known : List String) : ∃ digest, digestKnowing sampleRuntime known lateRefund.payload = .ok digest := by
  have clean : scrubSecrets Text.asciiCasing known (.dict [(.str "amount",.int 25)]) = .ok (.dict [(.str "amount",.int 25)]) := by
    simp only [scrubSecrets,scrubMembers,isContainer,amount_not_sensitive]
    rfl
  have members : lateRefund.payload.value = .dict [(.str "amount",.int 25)] := rfl
  refine ⟨sampleRuntime.sha256 (JsonText.render asciiCompact (.obj [("amount",.int 25)])),?_⟩
  unfold digestKnowing
  rw [members,show sampleRuntime.casing = Text.asciiCasing from rfl,clean]
  rfl

/-- The dry run succeeds, and the live run stops at gate 5. -/
theorem late_refund_simulated :
    ¬ DryRunParity sampleRuntime testGateway acme lateRefund none sampleReadings sampleReadings := by
  intro parity
  obtain ⟨digest,hashed⟩ := lateRefund_hashes []
  obtain ⟨record,simulated⟩ := simulate_of_digest sampleRuntime testGateway lateRefund sampleReadings hashed
  have first : FirstGatesOpen sampleRuntime testGateway acme lateRefund none := ⟨rfl,rfl,rfl⟩
  have returned := (dry_outcome sampleRuntime testGateway acme lateRefund none sampleReadings accepting ⟨(),.empty,[]⟩
    record).mpr ⟨first,simulated⟩
  obtain ⟨⟨credential,reached⟩,_⟩ := parity Unit accepting ⟨(),.empty,[]⟩ record returned
  have shut : ¬ GatesOpen sampleRuntime testGateway acme lateRefund.live none sampleReadings := by
    intro gates
    obtain ⟨_,⟨_,expiresAt,ends,fresh⟩,_⟩ := (gatesOpen_live_iff sampleRuntime testGateway acme lateRefund none
      sampleReadings).mp gates
    have expires : expiresAt = ⟨900000000⟩ := (Option.some.inj ends).symm
    rw [expires] at fresh
    exact absurd fresh (by decide)
  rw [silent_of_not_gatesOpen sampleRuntime testGateway acme lateRefund.live none sampleReadings accepting _ shut] at reached
  simp at reached

end samples
end RevPilot.ToolGateway
