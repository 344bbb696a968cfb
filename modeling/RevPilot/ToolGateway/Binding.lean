import RevPilot.Library.Lists
import RevPilot.ToolGateway.Gateway

/-! Whether what is executed is what was approved. Only an artifact that comes with
a dispatch is verified, and only against the digest: its own fields are never
compared with those of the request. -/
namespace RevPilot.ToolGateway
open Library Shared Program Approval RevPilot.Action JsonText

section artifacts
variable (sha256 : String → String)

/-- The members of an artifact's canonical JSON, in the order of their names. -/
def artifactTree (artifact : ApprovalArtifact) (payload : Tree) : Tree :=
  .obj [("action_type",.str artifact.actionType),("created_by",.str artifact.createdBy),
    ("expires_at",.str artifact.expiresAt),("payload",payload),("policy_version",.str artifact.policyVersion),
    ("required_tier",.str artifact.requiredTier),("target_entities",.arr (artifact.targetEntities.map .str)),
    ("tenant_id",.str artifact.tenantId)]

/-- The canonical tree of a payload, if it is JSON. -/
def payloadTree (payload : Payload) : Option Tree := payload.value.toTree PyValue.noDefault

theorem asdict_toTree (artifact : ApprovalArtifact) :
    artifact.asdict.toTree PyValue.noDefault = (payloadTree artifact.payload).map (artifactTree artifact) := by
  simp only [ApprovalArtifact.asdict,dictOf,List.map_cons,List.map_nil,PyValue.toTree,PyValue.toMembers,texts,
    toTrees_texts,Option.map_some]
  unfold payloadTree
  cases artifact.payload.value.toTree PyValue.noDefault with
  | none => rfl
  -- the eight names are sorted by evaluation
  | some tree => simp +decide [sortMembers,ranked?,PyKey.string?,sortRanked,artifactTree,PyKey.text]

theorem computeApprovalDigest_ok_iff (artifact : ApprovalArtifact) (digest : String) :
    computeApprovalDigest sha256 artifact = .ok digest ↔
      ∃ tree, payloadTree artifact.payload = some tree ∧
        sha256 (render plainCompact (artifactTree artifact tree)) = digest := by
  unfold computeApprovalDigest digestOf PyValue.dumps
  rw [asdict_toTree]
  cases payloadTree artifact.payload <;> simp

/-- Two artifacts that say the same of what is done: the payload up to its JSON text. -/
structure SameAction (a b : ApprovalArtifact) : Prop where
  tenant : a.tenantId = b.tenantId
  action : a.actionType = b.actionType
  targets : a.targetEntities = b.targetEntities
  payload : payloadTree a.payload = payloadTree b.payload

theorem sameAction_of_digest (injective : Function.Injective sha256) {a b : ApprovalArtifact} {digest : String}
    (first : computeApprovalDigest sha256 a = .ok digest) (second : computeApprovalDigest sha256 b = .ok digest) :
    SameAction a b := by
  obtain ⟨tree,jsonA,sealA⟩ := (computeApprovalDigest_ok_iff sha256 a digest).mp first
  obtain ⟨other,jsonB,sealB⟩ := (computeApprovalDigest_ok_iff sha256 b digest).mp second
  have same := render_injective plainCompact (injective (sealA.trans sealB.symm))
  simp only [artifactTree,Tree.obj.injEq,List.cons.injEq,Prod.mk.injEq,Tree.str.injEq,Tree.arr.injEq,true_and,
    and_true] at same
  obtain ⟨action,_,_,payload,_,_,targets,tenant⟩ := same
  have texts : a.targetEntities = b.targetEntities :=
    List.map_injective_iff.mpr (fun _ _ equal => Tree.str.inj equal) targets
  exact ⟨tenant,action,texts,by rw [jsonA,jsonB,payload]⟩

/-- The digest sees nothing but the texts of the fields. -/
theorem digest_of_payload {artifact : ApprovalArtifact} {payload : Payload}
    (same : payloadTree artifact.payload = payloadTree payload) :
    computeApprovalDigest sha256 { artifact with payload := payload } = computeApprovalDigest sha256 artifact := by
  unfold computeApprovalDigest digestOf PyValue.dumps
  rw [asdict_toTree,asdict_toTree,same]
  rfl

end artifacts

theorem digest_of_verified (sha256 : String → String) {artifact : ApprovalArtifact} {expected : String}
    (verified : verifyApprovalDigest sha256 artifact expected = .ok true) :
    computeApprovalDigest sha256 artifact = .ok expected := by
  unfold verifyApprovalDigest at verified
  cases computed : computeApprovalDigest sha256 artifact with
  | error raised => rw [computed] at verified; cases verified
  | ok digest =>
    rw [computed] at verified
    change compareDigest digest expected = .ok true at verified
    unfold compareDigest at verified
    split at verified
    · have equal : digest = expected := by simpa using verified
      rw [equal]
    · cases verified

/-- The artifact with the request's own tenant, action, targets and payload, and the
rest as given. -/
def ActionCapabilityRequest.sealedAs (req : ActionCapabilityRequest) (rest : ApprovalArtifact) : ApprovalArtifact :=
  { rest with
    tenantId := req.tenantId.value
    actionType := req.actionType
    targetEntities := req.targetEntities
    payload := req.payload }

/-- An artifact is about the action of a request. -/
structure Describes (artifact : ApprovalArtifact) (req : ActionCapabilityRequest) : Prop where
  tenant : artifact.tenantId = req.tenantId.value
  action : artifact.actionType = req.actionType
  targets : artifact.targetEntities = req.targetEntities
  payload : artifact.payload = req.payload

/-- The request's digest seals an artifact about its own action. -/
def ExactlyBound (sha256 : String → String) (req : ActionCapabilityRequest) : Prop :=
  ∃ artifact, computeApprovalDigest sha256 artifact = .ok req.approvalDigest ∧ Describes artifact req

theorem exactlyBound_iff_same {sha256 : String → String} (injective : Function.Injective sha256)
    {req : ActionCapabilityRequest} {artifact : ApprovalArtifact}
    (sealed : computeApprovalDigest sha256 artifact = .ok req.approvalDigest) :
    ExactlyBound sha256 req ↔ SameAction artifact (req.sealedAs artifact) := by
  constructor
  · rintro ⟨other,digest,about⟩
    have same := sameAction_of_digest sha256 injective sealed digest
    exact ⟨same.tenant.trans about.tenant,same.action.trans about.action,same.targets.trans about.targets,
      same.payload.trans (congrArg payloadTree about.payload)⟩
  · intro fits
    exact ⟨{ artifact with payload := req.payload },(digest_of_payload sha256 fits.payload).trans sealed,
      fits.tenant,fits.action,fits.targets,rfl⟩

theorem exactlyBound_iff_sealed (sha256 : String → String) (req : ActionCapabilityRequest) :
    ExactlyBound sha256 req ↔ ∃ rest, computeApprovalDigest sha256 (req.sealedAs rest) = .ok req.approvalDigest := by
  constructor
  · rintro ⟨artifact,digest,tenant,action,targets,payload⟩
    refine ⟨artifact,?_⟩
    unfold ActionCapabilityRequest.sealedAs
    rwa [← tenant,← action,← targets,← payload]
  · rintro ⟨rest,digest⟩
    exact ⟨_,digest,rfl,rfl,rfl,rfl⟩

section gates
variable (rt : Runtime) (gateway : ActionCapabilityGateway) (ctx : TenantContext) (req : ActionCapabilityRequest)
  (approvalArtifact : Option ApprovalArtifact) (readings : DispatchReadings)

/-- No gate before the provider stops the request. -/
structure GatesOpen : Prop where
  providerAllowed : gateway.mockForbidden rt = false
  sameTenant : ctx.tenantId = req.tenantId
  verified : ActionCapabilityGateway.artifactVerifies rt req approvalArtifact = .ok true
  forReal : req.isDryRun = false
  credentialed : ∃ credential, CredentialBroker.issueEphemeralToken req.tenantId gateway.defaultProvider
      req.actionType readings.token = .ok credential ∧ req.asOfTime < credential.expiresAt ∧
    ∃ digest, ActionCapabilityGateway.outboundDigest rt req credential = .ok digest

variable {V : Type} (adapter : ProviderAdapter V) (w : GatewayWorld V)

/-- The world after one dispatch. -/
def dispatched : GatewayWorld V :=
  ((gateway.dispatchAction rt ctx req approvalArtifact readings).exec (serve adapter) w).2

theorem exec_ofExcept_world {A B : Type} (result : Except PyError A) (finish : A → B) :
    ((Prog.ofExcept result >>= fun a => Prog.ret (finish a) : GatewayProg B).exec (serve adapter) w).2 = w := by
  cases result <;> rfl

theorem dispatchWith_passed {credential : EphemeralCredential} {digest : String}
    (valid : CredentialBroker.validateToken credential req.tenantId gateway.defaultProvider req.actionType
      req.asOfTime = .ok ())
    (hashed : ActionCapabilityGateway.outboundDigest rt req credential = .ok digest) :
    ((gateway.dispatchWith rt req credential readings).exec (serve adapter) w).2.executed =
      w.executed ++ [ActionCapabilityGateway.providerRequest req credential] := by
  simp only [ActionCapabilityGateway.dispatchWith,valid,hashed,Prog.ofExcept_ok,Prog.ret_bind,Prog.call_bind,
    Prog.exec_await,serve,Prog.pure_eq]
  cases (adapter w.outside (ActionCapabilityGateway.providerRequest req credential)).1 with
  | error raised => rfl
  | ok answer =>
    simp only [Prog.ofExcept_ok,Prog.ret_bind]
    rw [exec_ofExcept_world]

theorem dispatchWith_stopped {credential : EphemeralCredential}
    (stopped : ¬ (CredentialBroker.validateToken credential req.tenantId gateway.defaultProvider req.actionType
      req.asOfTime = .ok () ∧ ∃ digest, ActionCapabilityGateway.outboundDigest rt req credential = .ok digest)) :
    ((gateway.dispatchWith rt req credential readings).exec (serve adapter) w).2.executed = w.executed := by
  unfold ActionCapabilityGateway.dispatchWith
  cases valid : CredentialBroker.validateToken credential req.tenantId gateway.defaultProvider req.actionType
      req.asOfTime with
  | error refused => rfl
  | ok _ =>
    cases hashed : ActionCapabilityGateway.outboundDigest rt req credential with
    | error raised => rfl
    | ok digest => exact absurd ⟨valid,digest,hashed⟩ stopped

/-- With every gate open the adapter gets exactly the request's own fields. -/
theorem executes_of_gatesOpen (open_ : GatesOpen rt gateway ctx req approvalArtifact readings) :
    ∃ credential, (dispatched rt gateway ctx req approvalArtifact readings adapter w).executed =
      w.executed ++ [ActionCapabilityGateway.providerRequest req credential] := by
  obtain ⟨allowed,same,verified,forReal,credential,issued,valid,digest,hashed⟩ := open_
  have fresh := (CredentialBroker.validateToken_issued req.asOfTime issued).mpr valid
  refine ⟨credential,?_⟩
  unfold dispatched ActionCapabilityGateway.dispatchAction
  simp only [allowed,same,req.fieldsAccepted.1,verified,forReal,issued,Bool.false_eq_true,if_false,ne_eq,
    not_true_eq_false,Prog.ofExcept_ok,Prog.ret_bind,Bool.not_true,Prog.call_bind,Prog.exec_await,serve]
  rw [dispatchWith_passed rt gateway req readings adapter _ fresh hashed]

/-- With a gate shut the adapter is not called. -/
theorem silent_of_not_gatesOpen (shut : ¬ GatesOpen rt gateway ctx req approvalArtifact readings) :
    (dispatched rt gateway ctx req approvalArtifact readings adapter w).executed = w.executed := by
  unfold dispatched ActionCapabilityGateway.dispatchAction
  split
  next => rfl
  next allowed =>
    split
    next => rfl
    next same =>
      split
      next short => exact absurd req.fieldsAccepted.1 short
      next =>
        cases verified : ActionCapabilityGateway.artifactVerifies rt req approvalArtifact with
        | error raised => rfl
        | ok accepted =>
          cases accepted with
          | false => rfl
          | true =>
            simp only [Prog.ofExcept_ok,Prog.ret_bind,Bool.not_true,Bool.false_eq_true,if_false]
            split
            next => exact congrArg GatewayWorld.executed (exec_ofExcept_world adapter w _ _)
            next forReal =>
              cases issued : CredentialBroker.issueEphemeralToken req.tenantId gateway.defaultProvider req.actionType
                  readings.token with
              | error raised => cases raised <;> rfl
              | ok credential =>
                simp only [Prog.call_bind,Prog.exec_await,serve]
                rw [dispatchWith_stopped]
                rintro ⟨valid,hashed⟩
                exact shut ⟨Bool.eq_false_iff.mpr allowed,not_not.mp same,verified,Bool.eq_false_iff.mpr forReal,
                  credential,issued,(CredentialBroker.validateToken_issued req.asOfTime issued).mp valid,hashed⟩

/-- A dispatch that reaches the provider is bound to an approval exactly when a gate
stops it, or it came with an artifact about its own action, or without any artifact
its digest happens to seal one. -/
theorem executed_bound_iff (injective : Function.Injective rt.sha256) :
    ((∃ sent, (dispatched rt gateway ctx req approvalArtifact readings adapter w).executed = w.executed ++ [sent]) →
      ExactlyBound rt.sha256 req) ↔
    ¬ GatesOpen rt gateway ctx req approvalArtifact readings ∨
      match ActionCapabilityGateway.effectiveArtifact req approvalArtifact with
      | some artifact => SameAction artifact (req.sealedAs artifact)
      | none => ∃ rest, computeApprovalDigest rt.sha256 (req.sealedAs rest) = .ok req.approvalDigest := by
  by_cases passes : GatesOpen rt gateway ctx req approvalArtifact readings
  · obtain ⟨credential,sent⟩ := executes_of_gatesOpen rt gateway ctx req approvalArtifact readings adapter w passes
    have verified := passes.verified
    unfold ActionCapabilityGateway.artifactVerifies at verified
    rw [sent]
    simp only [passes,not_true_eq_false,false_or]
    have reached : (∃ request, w.executed ++ [ActionCapabilityGateway.providerRequest req credential] =
      w.executed ++ [request]) := ⟨_,rfl⟩
    simp only [reached,true_imp_iff]
    cases effective : ActionCapabilityGateway.effectiveArtifact req approvalArtifact with
    | none => exact exactlyBound_iff_sealed rt.sha256 req
    | some artifact =>
      rw [effective] at verified
      exact exactlyBound_iff_same injective (digest_of_verified rt.sha256 verified)
  · have silent := silent_of_not_gatesOpen rt gateway ctx req approvalArtifact readings adapter w passes
    simp [passes,silent]

end gates

section samples

/-- A hash with given values on some texts and a different text for every other one. -/
def tabled (table : List (String × String)) (text : String) : String :=
  (table.lookup text).getD ("preimage of " ++ text)

/-- No value of the table is one of the other texts. -/
def Apart (table : List (String × String)) : Prop := ∀ entry ∈ table, entry.2.toList.head? ≠ some 'p'

theorem tabled_injective (table : List (String × String)) (distinct : (table.map Prod.snd).Nodup)
    (apart : Apart table) : Function.Injective (tabled table) := by
  have written : Function.Injective ("preimage of " ++ ·) := fun _ _ same => (String.append_right_inj _).mp same
  apply Library.tabled_injective written distinct
  intro entry member text same
  apply apart entry member
  rw [← same]
  simp

/-- SHA-256 on the three texts of the samples. -/
@[irreducible] def sampleTable : List (String × String) :=
  [("\x7b\"action_type\":\"REFUND\",\"created_by\":\"usr_ops\",\"expires_at\":\"2026-10-01T00:00:00Z\",\"payload\":\x7b\"amount\":25\x7d,\"policy_version\":\"revpilot_policy_2026_09\",\"required_tier\":\"TIER_1\",\"target_entities\":[\"inv_7\"],\"tenant_id\":\"tnt_acme\"\x7d",
      "e37dd8273481a688ae40c3e5b514c21c88b29ded6c740ddb4ca1e740940456c1"),
    ("\x7b\"amount\":25\x7d","6ddd939db1eb030112a2f88b96a28a4308106b276483040449effe57637a9091"),
    ("\x7b\"amount\":2500\x7d","710e226680295eef7856cdb05bae79487072494c8210b6f573e2648f980757fb")]

def sampleRuntime : Runtime where
  sha256 := tabled sampleTable
  casing := Text.asciiCasing
  laxInt
    | .int i => .ok (some i)
    | .none => .ok none
    | _ => .error .validationError

theorem sampleRuntime_sha256 : sampleRuntime.sha256 = tabled sampleTable := rfl

theorem head_ne_of_chars {c : Char} {cs : List Char} (other : c ≠ 'p') :
    (String.ofList (c :: cs)).toList.head? ≠ some 'p' := by
  rw [String.toList_ofList]
  exact fun same => other (Option.some.inj same)

theorem sampleTable_apart : Apart sampleTable := by
  unfold Apart sampleTable
  refine List.forall_mem_cons.mpr ⟨head_ne_of_chars (by decide),List.forall_mem_cons.mpr ⟨head_ne_of_chars (by decide),?_⟩⟩
  exact List.forall_mem_cons.mpr ⟨head_ne_of_chars (by decide),List.forall_mem_nil _⟩

theorem sample_injective : Function.Injective sampleRuntime.sha256 := by
  rw [sampleRuntime_sha256]
  exact tabled_injective sampleTable (by decide +kernel) sampleTable_apart

def testGateway : ActionCapabilityGateway where
  environment := "test"
  mockInstance := true
  adapterClass := "MockProviderAdapter"

def approvedRefund : ApprovalArtifact where
  tenantId := "tnt_acme"
  actionType := "REFUND"
  targetEntities := ["inv_7"]
  payload := Dict.empty.set "amount" (.int 25)
  policyVersion := "revpilot_policy_2026_09"
  requiredTier := "TIER_1"
  expiresAt := "2026-10-01T00:00:00Z"
  createdBy := "usr_ops"

def acme : TenantContext := ⟨⟨"tnt_acme",Eq.refl true⟩⟩

/-- A dispatch of a refund of the given amount, under the given digest. -/
def refundRequest (amount : Int) (digest : String) (sealing : digest.length = 64) : ActionCapabilityRequest where
  intentId := ⟨"01890a5d-ac96-774b-bcce-b302099a9001"⟩
  tenantId := acme.tenantId
  approvalId := ⟨"01890a5d-ac96-774b-bcce-b302099a8057"⟩
  approvalDigest := digest
  actionType := "REFUND"
  idempotencyKey := "idem-1"
  targetEntities := ["inv_7"]
  payload := Dict.empty.set "amount" (.int amount)
  asOfTime := ⟨0⟩
  fieldsAccepted := ⟨sealing,by decide,by decide⟩

def approvedDigest : String := "e37dd8273481a688ae40c3e5b514c21c88b29ded6c740ddb4ca1e740940456c1"

def zeroDigest : String := "0000000000000000000000000000000000000000000000000000000000000000"

theorem approvedDigest_length : approvedDigest.length = 64 := by decide +kernel

theorem zeroDigest_length : zeroDigest.length = 64 := by decide +kernel

/-- A refund of some amount under the digest of the approved one. -/
def sealedRefund (amount : Int) : ActionCapabilityRequest := refundRequest amount approvedDigest approvedDigest_length

def unsealedRefund : ActionCapabilityRequest := refundRequest 25 zeroDigest zeroDigest_length

def sampleReadings : DispatchReadings where
  token := ⟨"00","00",⟨0⟩⟩
  ledgerId := ⟨"01890a5d-ac96-774b-bcce-b302099aa001"⟩
  completedAt := ⟨1⟩

/-- A provider that refuses every call. -/
def refusing : ProviderAdapter Unit := fun _ _ =>
  (.ok (.error (gatewayError "ERR_PROVIDER_EXECUTION_FAILED" "Mock provider simulated external service failure (500)")),())

/-- The dispatch of the request with or without an artifact reaches the provider. -/
def Reaches (req : ActionCapabilityRequest) (artifact : Option ApprovalArtifact) : Prop :=
  ∃ sent, (dispatched sampleRuntime testGateway acme req artifact sampleReadings refusing { outside := () }).executed =
    [] ++ [sent]

theorem amount_not_sensitive : isSensitive Text.asciiCasing (.str "amount") = .ok false := by
  unfold isSensitive
  exact congrArg Except.ok (by decide +kernel)

theorem refund_hashes (amount : Int) (digest : String) (sealing : digest.length = 64)
    (credential : EphemeralCredential) :
    ∃ hashed, ActionCapabilityGateway.outboundDigest sampleRuntime (refundRequest amount digest sealing) credential =
      .ok hashed := by
  have clean (known : List String) : scrubSecrets Text.asciiCasing known (.dict [(.str "amount",.int amount)]) =
      .ok (.dict [(.str "amount",.int amount)]) := by
    simp only [scrubSecrets,scrubMembers,isContainer,amount_not_sensitive]
    rfl
  refine ⟨sampleRuntime.sha256 (render asciiCompact (.obj [("amount",.int amount)])),?_⟩
  have members : (refundRequest amount digest sealing).payload.value = .dict [(.str "amount",.int amount)] := rfl
  unfold ActionCapabilityGateway.outboundDigest
  rw [members,show sampleRuntime.casing = Text.asciiCasing from rfl,clean]
  rfl

theorem reaches_of_verified (amount : Int) (digest : String) (sealing : digest.length = 64)
    (artifact : Option ApprovalArtifact)
    (verified : ActionCapabilityGateway.artifactVerifies sampleRuntime (refundRequest amount digest sealing) artifact =
      .ok true) :
    Reaches (refundRequest amount digest sealing) artifact := by
  have valid : (⟨0⟩ : UtcDateTime) < ⟨900000000⟩ := by decide
  have passes : GatesOpen sampleRuntime testGateway acme (refundRequest amount digest sealing) artifact
      sampleReadings := ⟨rfl,rfl,verified,rfl,_,rfl,valid,refund_hashes amount digest sealing _⟩
  obtain ⟨credential,sent⟩ := executes_of_gatesOpen _ _ _ _ _ _ refusing { outside := () } passes
  exact ⟨_,sent⟩

set_option maxRecDepth 4000 in
/-- The first text of the table is the one that the approved refund is sealed by. -/
theorem approvedRefund_tabled : ∃ rest, sampleTable =
    (render plainCompact (artifactTree approvedRefund (.obj [("amount",.int 25)])),approvedDigest) :: rest := by
  unfold sampleTable
  -- the characters are compared, without decoding the long text
  exact ⟨_,congrArg (fun text => (text,approvedDigest) :: _) (congrArg String.ofList (by decide +kernel))⟩

theorem approvedRefund_sealed : computeApprovalDigest sampleRuntime.sha256 approvedRefund = .ok approvedDigest := by
  refine (computeApprovalDigest_ok_iff _ _ _).mpr ⟨.obj [("amount",.int 25)],rfl,?_⟩
  obtain ⟨rest,table⟩ := approvedRefund_tabled
  rw [sampleRuntime_sha256,tabled,table,List.lookup_cons_self]
  rfl

theorem approvedRefund_verifies (amount : Int) :
    ActionCapabilityGateway.artifactVerifies sampleRuntime (sealedRefund amount)
      (some approvedRefund) = .ok true := by
  change (computeApprovalDigest sampleRuntime.sha256 approvedRefund).bind (compareDigest · approvedDigest) = .ok true
  rw [approvedRefund_sealed]
  have ascii : Text.isAscii approvedDigest = true := by decide +kernel
  simp [Except.bind,compareDigest,ascii]

theorem sealedRefund_reaches (amount : Int) : Reaches (sealedRefund amount) (some approvedRefund) :=
  reaches_of_verified amount approvedDigest approvedDigest_length _ (approvedRefund_verifies amount)

theorem unsealedRefund_reaches : Reaches unsealedRefund none :=
  reaches_of_verified 25 zeroDigest zeroDigest_length none rfl

/-- The approved refund itself is bound to its approval. -/
theorem approved_refund_bound : Reaches (sealedRefund 25) (some approvedRefund) ∧
    (Reaches (sealedRefund 25) (some approvedRefund) → ExactlyBound sampleRuntime.sha256 (sealedRefund 25)) :=
  ⟨sealedRefund_reaches 25,
    (executed_bound_iff sampleRuntime testGateway acme (sealedRefund 25) (some approvedRefund)
      sampleReadings refusing { outside := () } sample_injective).mpr (.inr ⟨rfl,rfl,rfl,rfl⟩)⟩

/-- A refund of a hundred times the approved amount goes out under the approval's
artifact; and any refund goes out under a digest of nothing. -/
theorem unapproved_refunds_dispatched :
    ¬ (Reaches (sealedRefund 2500) (some approvedRefund) → ExactlyBound sampleRuntime.sha256 (sealedRefund 2500)) ∧
    ¬ (Reaches unsealedRefund none → ExactlyBound sampleRuntime.sha256 unsealedRefund) := by
  constructor
  · intro bound
    have same := (exactlyBound_iff_same sample_injective approvedRefund_sealed).mp (bound (sealedRefund_reaches 2500))
    have payload : some (Tree.obj [("amount",.int 25)]) = some (Tree.obj [("amount",.int 2500)]) := same.payload
    simp at payload
  · intro bound
    obtain ⟨artifact,digest,_⟩ := bound unsealedRefund_reaches
    obtain ⟨tree,_,hashed⟩ := (computeApprovalDigest_ok_iff _ _ _).mp digest
    rw [sampleRuntime_sha256] at hashed
    have unknown : ∀ entry ∈ sampleTable, entry.2 ≠ zeroDigest := by decide +kernel
    rcases Library.tabled_cases ("preimage of " ++ ·) sampleTable (render plainCompact (artifactTree artifact tree)) with found | other
    · exact unknown _ found hashed
    · have clash := congrArg (fun text => text.toList.head?) (other.symm.trans hashed)
      simp [unsealedRefund,refundRequest,zeroDigest] at clash

end samples
end RevPilot.ToolGateway
