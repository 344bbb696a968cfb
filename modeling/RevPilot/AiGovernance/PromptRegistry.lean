import RevPilot.Library.Runs
import RevPilot.Library.Text
import RevPilot.Library.Dict
import RevPilot.Shared.Errors
import RevPilot.Shared.Temporal

/-! The prompt registry: templates pinned by the digest of their text, the active definition of
each template, and the history of its versions. -/
namespace RevPilot.AiGovernance
open Library Shared Runs

def promptDigestMismatchError (message : String) (details : List (PyKey × PyValue)) : PyError :=
  .domain { code := "PROMPT_DIGEST_MISMATCH", message := message, details := details }

structure PromptDefinition where
  promptId : String
  templateName : String
  rawTemplate : String
  sha256Digest : String
  version : String
  registeredAt : UtcDateTime
  authorPrincipal : String
  status : String := "ACTIVE"
  deriving DecidableEq

structure RegistryAuditEvent where
  eventId : String
  occurredAt : String
  eventType : String
  details : List (PyKey × PyValue)

/-- The identifier and the instant that an audit event is given. -/
structure AuditStamp where
  eventId : String
  occurredAt : UtcDateTime

structure PromptRegistryService where
  activePrompts : Dict String PromptDefinition := .empty
  versionHistory : Dict (String × String) PromptDefinition := .empty
  auditEvents : List RegistryAuditEvent := []

namespace PromptRegistryService

def emitAudit (s : PromptRegistryService) (eventType : String) (details : List (PyKey × PyValue))
    (stamp : AuditStamp) : PromptRegistryService :=
  { s with auditEvents := s.auditEvents ++ [⟨stamp.eventId,stamp.occurredAt.isoformat,eventType,details⟩] }

variable (sha256 : String → String)

def computeDigest (text : String) : String := "pr_sha256:" ++ sha256 (Text.strip text)

def registerPrompt (s : PromptRegistryService) (promptId : String) (now : UtcDateTime) (stamp : AuditStamp)
    (templateName rawTemplate : String) (version : String := "v1.0")
    (authorPrincipal : String := "principal:ai-lead") : PromptRegistryService × Except PyError PromptDefinition :=
  let digest := computeDigest sha256 rawTemplate
  let definition : PromptDefinition :=
    ⟨promptId,templateName,rawTemplate,digest,version,now,authorPrincipal,"ACTIVE"⟩
  let stored := { s with
    activePrompts := s.activePrompts.set templateName definition
    versionHistory := s.versionHistory.set (templateName,version) definition }
  (stored.emitAudit "PROMPT_REGISTERED"
    [(.str "prompt_id",.str promptId),(.str "template_name",.str templateName),(.str "version",.str version),
      (.str "digest",.str digest),(.str "author",.str authorPrincipal)] stamp,.ok definition)

def validatePromptExecution (s : PromptRegistryService) (stamp : AuditStamp) (templateName candidatePromptText : String) :
    PromptRegistryService × Except PyError PromptDefinition :=
  match s.activePrompts.get? templateName with
  | none =>
    (s.emitAudit "UNREGISTERED_PROMPT_EXECUTION_ATTEMPT" [(.str "template_name",.str templateName)] stamp,
      .error (promptDigestMismatchError
        ("Untrusted prompt rejected: template '" ++ templateName ++ "' is not registered in registry")
        [(.str "template_name",.str templateName)]))
  | some registered =>
    let candidateDigest := computeDigest sha256 candidatePromptText
    if candidateDigest ≠ registered.sha256Digest then
      (s.emitAudit "PROMPT_TAMPER_DETECTED"
        [(.str "template_name",.str templateName),(.str "expected_digest",.str registered.sha256Digest),
          (.str "candidate_digest",.str candidateDigest)] stamp,
        .error (promptDigestMismatchError
          ("Untrusted prompt rejected: digest mismatch for '" ++ templateName ++ "' (expected=" ++
            registered.sha256Digest ++ ", computed=" ++ candidateDigest ++ ")")
          [(.str "template_name",.str templateName),(.str "expected_digest",.str registered.sha256Digest),
            (.str "computed_digest",.str candidateDigest)]))
    else (s,.ok registered)

def revertPrompt (s : PromptRegistryService) (stamp : AuditStamp) (templateName toVersion : String) :
    PromptRegistryService × Except PyError PromptDefinition :=
  match s.versionHistory.get? (templateName,toVersion) with
  | none => (s,.error .valueError)
  | some previous =>
    let reverted := { s with activePrompts := s.activePrompts.set templateName previous }
    (reverted.emitAudit "PROMPT_REVERTED"
      [(.str "template_name",.str templateName),(.str "reverted_to_version",.str toVersion),
        (.str "digest",.str previous.sha256Digest)] stamp,.ok previous)

@[simp] theorem emitAudit_active (s : PromptRegistryService) (eventType : String) (details : List (PyKey × PyValue))
    (stamp : AuditStamp) : (s.emitAudit eventType details stamp).activePrompts = s.activePrompts := rfl

@[simp] theorem emitAudit_history (s : PromptRegistryService) (eventType : String) (details : List (PyKey × PyValue))
    (stamp : AuditStamp) : (s.emitAudit eventType details stamp).versionHistory = s.versionHistory := rfl

end PromptRegistryService

/-- A call with what it reads from its environment. -/
inductive RegistryOp : Type
  | registerPrompt (promptId : String) (now : UtcDateTime) (templateName rawTemplate version authorPrincipal : String)
  | validatePromptExecution (templateName candidatePromptText : String)
  | revertPrompt (templateName toVersion : String)

structure RegistryCall where
  op : RegistryOp
  stamp : AuditStamp

section service
open PromptRegistryService
variable (sha256 : String → String)

def PromptRegistryService.serve (s : PromptRegistryService) (call : RegistryCall) :
    PromptRegistryService × Except PyError PromptDefinition :=
  match call.op with
  | .registerPrompt promptId now templateName rawTemplate version authorPrincipal =>
    s.registerPrompt sha256 promptId now call.stamp templateName rawTemplate version authorPrincipal
  | .validatePromptExecution templateName candidatePromptText =>
    s.validatePromptExecution sha256 call.stamp templateName candidatePromptText
  | .revertPrompt templateName toVersion => s.revertPrompt call.stamp templateName toVersion

/-- The registry of a run, with the digest that each pair of template and version was first
registered with. -/
structure RegistryRun where
  registry : PromptRegistryService := {}
  first : Dict (String × String) String := .empty

def firstDigests (first : Dict (String × String) String) : RegistryOp → Dict (String × String) String
  | .registerPrompt _ _ templateName rawTemplate version _ =>
    match first.get? (templateName,version) with
    | none => first.set (templateName,version) (computeDigest sha256 rawTemplate)
    | some _ => first
  | _ => first

def registryStep (r : RegistryRun) (call : RegistryCall) : RegistryRun :=
  ⟨(r.registry.serve sha256 call).1,firstDigests sha256 r.first call.op⟩

/-- Reverting to a registered pair activates a definition with the digest first registered. -/
def PinnedVersions (r : RegistryRun) : Prop :=
  ∀ templateName version digest stamp, r.first.get? (templateName,version) = some digest →
    ∃ definition, (r.registry.revertPrompt stamp templateName version).2 = .ok definition ∧
      definition.sha256Digest = digest ∧
      (r.registry.revertPrompt stamp templateName version).1.activePrompts.get? templateName = some definition

/-- Execution is accepted for exactly the texts of the active template, up to surrounding
whitespace. -/
def ExactExecution (s : PromptRegistryService) : Prop :=
  ∀ templateName candidate stamp,
    (∃ definition, (s.validatePromptExecution sha256 stamp templateName candidate).2 = .ok definition) ↔
      ∃ active, s.activePrompts.get? templateName = some active ∧ Text.strip candidate = Text.strip active.rawTemplate

/-- A version registered again has the text it already has. -/
def KeepsText (r : RegistryRun) (call : RegistryCall) : Prop :=
  match call.op with
  | .registerPrompt _ _ templateName rawTemplate version _ =>
    ∀ known, r.registry.versionHistory.get? (templateName,version) = some known →
      Text.strip rawTemplate = Text.strip known.rawTemplate
  | _ => True

/-- Definitions carry the digest of their text, and the pairs in the history are those registered. -/
structure Digested (r : RegistryRun) : Prop where
  active : ∀ templateName definition, r.registry.activePrompts.get? templateName = some definition →
    definition.sha256Digest = computeDigest sha256 definition.rawTemplate
  history : ∀ pair definition, r.registry.versionHistory.get? pair = some definition →
    definition.sha256Digest = computeDigest sha256 definition.rawTemplate
  registered : ∀ pair, r.first.get? pair = none ↔ r.registry.versionHistory.get? pair = none

variable {sha256} {r : RegistryRun}

theorem computeDigest_eq_iff (injective : Function.Injective sha256) (a b : String) :
    computeDigest sha256 a = computeDigest sha256 b ↔ Text.strip a = Text.strip b := by
  constructor
  · intro same
    apply injective
    exact (String.append_right_inj _).mp same
  · intro same
    rw [computeDigest,same,computeDigest]

theorem revertPrompt_cases (s : PromptRegistryService) (stamp : AuditStamp) (templateName toVersion : String) :
    (s.versionHistory.get? (templateName,toVersion) = none ∧
      s.revertPrompt stamp templateName toVersion = (s,.error .valueError)) ∨
    ∃ previous, s.versionHistory.get? (templateName,toVersion) = some previous ∧
      (s.revertPrompt stamp templateName toVersion).2 = .ok previous ∧
      (s.revertPrompt stamp templateName toVersion).1.activePrompts = s.activePrompts.set templateName previous ∧
      (s.revertPrompt stamp templateName toVersion).1.versionHistory = s.versionHistory := by
  cases known : s.versionHistory.get? (templateName,toVersion) with
  | none => exact .inl ⟨rfl,by simp only [revertPrompt,known]⟩
  | some previous => exact .inr ⟨previous,rfl,by simp only [revertPrompt,known],by simp only [revertPrompt,known,emitAudit_active],
      by simp only [revertPrompt,known,emitAudit_history]⟩

/-- Validation changes neither the active definitions nor the history. -/
theorem validate_frame (s : PromptRegistryService) (stamp : AuditStamp) (templateName candidate : String) :
    (s.validatePromptExecution sha256 stamp templateName candidate).1.activePrompts = s.activePrompts ∧
      (s.validatePromptExecution sha256 stamp templateName candidate).1.versionHistory = s.versionHistory := by
  unfold validatePromptExecution
  cases s.activePrompts.get? templateName with
  | none => exact ⟨rfl,rfl⟩
  | some registered =>
    dsimp only
    split
    · exact ⟨rfl,rfl⟩
    · exact ⟨rfl,rfl⟩

theorem validate_accepts_iff (s : PromptRegistryService) (stamp : AuditStamp) (templateName candidate : String) :
    (∃ definition, (s.validatePromptExecution sha256 stamp templateName candidate).2 = .ok definition) ↔
      ∃ active, s.activePrompts.get? templateName = some active ∧
        computeDigest sha256 candidate = active.sha256Digest := by
  unfold validatePromptExecution
  cases s.activePrompts.get? templateName with
  | none => simp
  | some registered =>
    by_cases same : computeDigest sha256 candidate = registered.sha256Digest
    · simp [same]
    · simp [same]

theorem exactExecution (injective : Function.Injective sha256) (digested : Digested sha256 r) :
    ExactExecution sha256 r.registry := by
  intro templateName candidate stamp
  rw [validate_accepts_iff]
  constructor
  · rintro ⟨active,known,same⟩
    rw [digested.active _ _ known] at same
    exact ⟨active,known,(computeDigest_eq_iff injective _ _).mp same⟩
  · rintro ⟨active,known,same⟩
    refine ⟨active,known,?_⟩
    rw [digested.active _ _ known]
    exact (computeDigest_eq_iff injective _ _).mpr same

theorem pinned_iff (r : RegistryRun) : PinnedVersions r ↔
    ∀ pair digest, r.first.get? pair = some digest →
      ∃ definition, r.registry.versionHistory.get? pair = some definition ∧ definition.sha256Digest = digest := by
  constructor
  · rintro pinned ⟨templateName,version⟩ digest registered
    obtain ⟨definition,done,same,_⟩ := pinned templateName version digest ⟨"",⟨0⟩⟩ registered
    rcases revertPrompt_cases r.registry ⟨"",⟨0⟩⟩ templateName version with ⟨_,failed⟩ | ⟨previous,known,found,_⟩
    · rw [failed] at done
      cases done
    · obtain rfl : previous = definition := Except.ok.inj (found.symm.trans done)
      exact ⟨previous,known,same⟩
  · intro pinned templateName version digest stamp registered
    obtain ⟨definition,known,same⟩ := pinned _ _ registered
    rcases revertPrompt_cases r.registry stamp templateName version with ⟨absent,_⟩ | ⟨previous,found,done,active,_⟩
    · rw [known] at absent
      cases absent
    · obtain rfl : previous = definition := Option.some.inj (found.symm.trans known)
      refine ⟨previous,done,same,?_⟩
      rw [active,Dict.get?_set_self]

theorem digested_step (call : RegistryCall) (digested : Digested sha256 r) :
    Digested sha256 (registryStep sha256 r call) := by
  obtain ⟨op,stamp⟩ := call
  cases op with
  | registerPrompt promptId now templateName rawTemplate version authorPrincipal =>
    constructor
    · intro name definition known
      change (r.registry.activePrompts.set templateName _).get? name = some definition at known
      rw [Dict.get?_set] at known
      split at known
      · cases known
        rfl
      · exact digested.active name definition known
    · intro pair definition known
      change (r.registry.versionHistory.set (templateName,version) _).get? pair = some definition at known
      rw [Dict.get?_set] at known
      split at known
      · cases known
        rfl
      · exact digested.history pair definition known
    · intro pair
      change (firstDigests sha256 r.first (.registerPrompt promptId now templateName rawTemplate version authorPrincipal)).get? pair
        = none ↔ (r.registry.versionHistory.set (templateName,version) _).get? pair = none
      cases known : r.first.get? (templateName,version) with
      | none =>
        simp only [firstDigests,known]
        rw [Dict.get?_set,Dict.get?_set]
        split
        · exact iff_of_false (by simp) (by simp)
        · exact digested.registered pair
      | some digest =>
        simp only [firstDigests,known]
        rw [Dict.get?_set]
        split
        next own =>
          rw [own,known]
          exact iff_of_false (by simp) (by simp)
        next other => exact digested.registered pair
  | validatePromptExecution templateName candidate =>
    obtain ⟨active,history⟩ := @validate_frame sha256 r.registry stamp templateName candidate
    constructor
    · intro name definition known
      exact digested.active name definition (active ▸ known)
    · intro pair definition known
      exact digested.history pair definition (history ▸ known)
    · intro pair
      exact (digested.registered pair).trans (by rw [← history]; exact Iff.rfl)
  | revertPrompt templateName toVersion =>
    rcases revertPrompt_cases r.registry stamp templateName toVersion with ⟨_,failed⟩ | ⟨previous,found,_,active,history⟩
    · have same : registryStep sha256 r ⟨.revertPrompt templateName toVersion,stamp⟩ = r := by
        change RegistryRun.mk (r.registry.revertPrompt stamp templateName toVersion).1 r.first = r
        rw [failed]
      rwa [same]
    · constructor
      · intro name definition known
        change (r.registry.revertPrompt stamp templateName toVersion).1.activePrompts.get? name = some definition at known
        rw [active,Dict.get?_set] at known
        split at known
        · cases known
          exact digested.history _ _ found
        · exact digested.active name definition known
      · intro pair definition known
        exact digested.history pair definition (history ▸ known)
      · intro pair
        exact (digested.registered pair).trans (by rw [← history]; exact Iff.rfl)

/-- One call keeps the versions pinned exactly if it keeps the text of the version it registers. -/
theorem pinned_step (injective : Function.Injective sha256) (digested : Digested sha256 r) (pinned : PinnedVersions r)
    (call : RegistryCall) : KeepsText r call ↔ PinnedVersions (registryStep sha256 r call) := by
  rw [pinned_iff] at pinned ⊢
  obtain ⟨op,stamp⟩ := call
  have framed {after : PromptRegistryService} (history : after.versionHistory = r.registry.versionHistory) :
      ∀ pair digest, r.first.get? pair = some digest →
        ∃ definition, after.versionHistory.get? pair = some definition ∧ definition.sha256Digest = digest := by
    rw [history]
    exact pinned
  cases op with
  | registerPrompt promptId now templateName rawTemplate version authorPrincipal =>
    have history : (registryStep sha256 r ⟨.registerPrompt promptId now templateName rawTemplate version authorPrincipal,stamp⟩).registry.versionHistory =
      r.registry.versionHistory.set (templateName,version) ⟨promptId,templateName,rawTemplate,computeDigest sha256 rawTemplate,version,now,authorPrincipal,"ACTIVE"⟩ := rfl
    have first : (registryStep sha256 r ⟨.registerPrompt promptId now templateName rawTemplate version authorPrincipal,stamp⟩).first =
      firstDigests sha256 r.first (.registerPrompt promptId now templateName rawTemplate version authorPrincipal) := rfl
    rw [history,first]
    cases known : r.registry.versionHistory.get? (templateName,version) with
    | none =>
      have unregistered : r.first.get? (templateName,version) = none := (digested.registered _).mpr known
      simp only [firstDigests,unregistered]
      apply iff_of_true
      · intro other stored
        rw [known] at stored
        cases stored
      · intro pair digest registered
        rw [Dict.get?_set] at registered ⊢
        split at registered
        next own =>
          cases registered
          exact ⟨_,if_pos own,rfl⟩
        next other =>
          rw [if_neg other]
          exact pinned pair digest registered
    | some definition =>
      cases unregistered : r.first.get? (templateName,version) with
      | none =>
        rw [(digested.registered _).mp unregistered] at known
        cases known
      | some digest =>
        simp only [firstDigests,unregistered]
        obtain ⟨same,found,held⟩ := pinned _ _ unregistered
        obtain rfl : definition = same := Option.some.inj (known.symm.trans found)
        constructor
        · intro keeps pair other registered
          rw [Dict.get?_set]
          split
          next own =>
            subst own
            refine ⟨_,rfl,?_⟩
            rw [unregistered] at registered
            cases registered
            rw [← held,digested.history _ _ known]
            exact (computeDigest_eq_iff injective _ _).mpr (keeps definition known)
          next other => exact pinned pair _ registered
        · intro after stored isKnown
          obtain rfl : definition = stored := Option.some.inj (known.symm.trans isKnown)
          obtain ⟨last,own,digests⟩ := after _ _ unregistered
          rw [Dict.get?_set_self] at own
          cases own
          rw [← held,digested.history _ _ known] at digests
          exact (computeDigest_eq_iff injective _ _).mp digests
  | validatePromptExecution templateName candidate =>
    exact iff_of_true trivial (framed (validate_frame r.registry stamp templateName candidate).2)
  | revertPrompt templateName toVersion =>
    apply iff_of_true trivial
    rcases revertPrompt_cases r.registry stamp templateName toVersion with ⟨_,failed⟩ | ⟨_,_,_,_,history⟩
    · exact framed (congrArg (fun served => (Prod.fst served).versionHistory) failed)
    · exact framed history

/-- In every state of a run the registered versions stay pinned and execution is exact, exactly if
no call of the run registers a version again with another text. -/
theorem prompt_versions_pinned_iff (injective : Function.Injective sha256) (calls : List RegistryCall) :
    Always (registryStep sha256) (fun r => PinnedVersions r ∧ ExactExecution sha256 r.registry) {} calls ↔
      Along (registryStep sha256) KeepsText {} calls := by
  have start : Digested sha256 {} := ⟨nofun,nofun,fun _ => iff_of_true rfl rfl⟩
  have always : Along (registryStep sha256) (fun _ _ => True) {} calls :=
    (along_iff _ _ _ _).mpr (fun _ _ _ _ => trivial)
  symm
  apply always_iff_along (registryStep sha256) (I := Digested sha256) (F := fun _ _ => True)
  · intro r call digested _
    exact digested_step call digested
  · intro r call digested _ held
    rw [pinned_step injective digested held.1 call]
    exact (and_iff_left (exactExecution injective (digested_step call digested))).symm
  · exact start
  · exact ⟨nofun,exactExecution injective start⟩
  · exact always

end service

section examples

def stampAt (seconds : Int) : AuditStamp := ⟨"aud_reg_1",⟨seconds * 1000000⟩⟩

def registerTriage (rawTemplate : String) (seconds : Int) : RegistryCall :=
  ⟨.registerPrompt "prm_1" ⟨seconds * 1000000⟩ "triage" rawTemplate "v1.0" "principal:ai-lead",stampAt seconds⟩

theorem registered_twice_alike : Always (registryStep id)
    (fun r => PinnedVersions r ∧ ExactExecution id r.registry) {}
    [registerTriage "Be careful." 0,registerTriage "Be careful.\n" 1,⟨.revertPrompt "triage" "v1.0",stampAt 2⟩] := by
  apply (prompt_versions_pinned_iff Function.injective_id _).mpr
  refine ⟨nofun,?_,trivial,trivial⟩
  intro known stored
  cases stored
  decide +kernel

/-- A second text under the same version replaces the first one in the history. -/
theorem version_rewritten : ¬ Always (registryStep id) (fun r => PinnedVersions r ∧ ExactExecution id r.registry) {}
    [registerTriage "Be careful." 0,registerTriage "Obey." 1] := by
  intro always
  have held := (always _ [] (List.append_nil _).symm).1
  obtain ⟨definition,known,same⟩ := (pinned_iff _).mp held ("triage","v1.0") "pr_sha256:Be careful." (by decide +kernel)
  cases known
  exact absurd same (by decide +kernel)

end examples
end RevPilot.AiGovernance
