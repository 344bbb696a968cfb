import RevPilot.Security.Broker

/-! Rotations of a secret: a session holds the next envelope until it is committed or rolled
back. A canary is the function that judges the new secret, by what it returns or raises. -/
namespace RevPilot.Security
open Library Shared

inductive RotationStatus : Type
  | initiated
  | validated
  | committed
  | rolledBack
  deriving DecidableEq

structure RotationSession where
  sessionId : String
  tenantId : TenantId
  secretRef : SecretReference
  newEnvelope : EnvelopeEncryptedSecret
  status : RotationStatus
  createdAt : UtcDateTime
  committedAt : Option UtcDateTime := none
  rollbackReason : Option String := none

/-- A validator returns, raises a `RotationValidationFailedError` or another exception. -/
inductive CanaryOutcome : Type
  | returned (valid : Bool)
  | refused (message : String)
  | raised (text : String)

structure SecretRotationService where
  broker : CredentialBroker
  sessions : Dict String (RotationSession × String) := .empty

namespace SecretRotationService
variable (s : SecretRotationService)

/-- The record that was read gets a status and the instant of the change. -/
def setStatus (secretRef : SecretReference) (record : SecretRecord) (status : SecretLifecycleStatus)
    (now : UtcDateTime) : SecretRotationService :=
  { s with broker := s.broker.putRecord secretRef { record with status := status, updatedAt := now } }

def initiateRotation (lib : BrokerLibrary) (tenantId : TenantId) (secretRef : SecretReference)
    (newSecretPlaintext sessionId : String) (readings : SecretReadings) :
    SecretRotationService × Except SecretFault RotationSession :=
  match s.broker.getSecretRecord tenantId secretRef with
  | .error fault => (s,.error fault)
  | .ok record =>
    if record.status = .revoked then
      (s,.error (secretRevokedError s!"Cannot rotate revoked secret '{secretRef.value}'"))
    else
      let (broker,kek) := s.broker.getTenantKek tenantId readings
      match encrypt lib newSecretPlaintext kek.1 kek.2 (record.envelope.version + 1) readings with
      | .error fault => ({ s with broker := broker },.error fault)
      | .ok newEnvelope =>
        let session : RotationSession := {
          sessionId := sessionId
          tenantId := tenantId
          secretRef := secretRef
          newEnvelope := newEnvelope
          status := .initiated
          createdAt := readings.now }
        let rotating : SecretRotationService :=
          setStatus { s with broker := broker.track newSecretPlaintext } secretRef record .rotating readings.now
        ({ rotating with sessions := s.sessions.set sessionId (session,newSecretPlaintext) },.ok session)

def rollbackRotation (sessionId reason : String) (now : UtcDateTime) :
    SecretRotationService × Except SecretFault Unit :=
  match s.sessions.get? sessionId with
  | none => (s,.error (secretNotFoundError s!"Rotation session '{sessionId}' not found"))
  | some (session,plaintext) =>
    -- only a committed session is refused, not one that was rolled back before
    if session.status = .committed then (s,.error (.raised .valueError "Cannot rollback already committed rotation session"))
    else
      match s.broker.getSecretRecord session.tenantId session.secretRef with
      | .error fault => (s,.error fault)
      | .ok record =>
        let rolledBack := { session with status := .rolledBack, committedAt := none, rollbackReason := some reason }
        ({ s.setStatus session.secretRef record .active now with sessions := s.sessions.set sessionId (rolledBack,plaintext) },.ok ())

/-- The new version replaces the current one, which is kept as the previous one. -/
def promote (sessionId : String) (session : RotationSession) (plaintext : String) (now : UtcDateTime) :
    SecretRotationService × Except SecretFault Unit :=
  match s.broker.getSecretRecord session.tenantId session.secretRef with
  | .error fault => (s,.error fault)
  | .ok record =>
    let promoted := { record with previousEnvelope := some record.envelope, envelope := session.newEnvelope }
    let committed := { session with status := .committed, committedAt := some now, rollbackReason := none }
    let after := { s.setStatus session.secretRef promoted .active now with sessions := s.sessions.set sessionId (committed,plaintext) }
    ({ after with broker := after.broker.purgeCache (some session.tenantId) (some session.secretRef) },.ok ())

/-- The handler of an exception that the canary or its rollback raises. -/
def rollBackAfter (sessionId text : String) (now : UtcDateTime) : SecretRotationService × Except SecretFault Unit :=
  match s.rollbackRotation sessionId s!"Canary validation exception: {text}" now with
  | (after,.ok ()) =>
    (after,.error (rotationValidationFailedError s!"Rotation validation failed: canary error: {text}"))
  | (after,.error fault) => (after,.error fault)

/-- The rest of the commit once the canary, if there is one, has judged the new secret. -/
def commitJudged (sessionId : String) (session : RotationSession) (plaintext : String) (now : UtcDateTime) :
    Option CanaryOutcome → SecretRotationService × Except SecretFault Unit
  | none | some (.returned true) => s.promote sessionId session plaintext now
  | some (.returned false) =>
    match s.rollbackRotation sessionId "Canary validation returned False" now with
    | (after,.ok ()) =>
      (after,.error (rotationValidationFailedError
        "Rotation validation failed: external canary rejected new key credentials"))
    | (after,.error fault) => after.rollBackAfter sessionId fault.text now
  | some (.refused message) => (s,.error (rotationValidationFailedError message))
  | some (.raised text) => s.rollBackAfter sessionId text now

def validateAndCommitRotation (sessionId : String) (canaryValidator : Option (String → CanaryOutcome))
    (now : UtcDateTime) : SecretRotationService × Except SecretFault Unit :=
  match s.sessions.get? sessionId with
  | none => (s,.error (secretNotFoundError s!"Rotation session '{sessionId}' not found"))
  | some (session,plaintext) =>
    match session.status with
    | .committed => (s,.ok ())
    | .rolledBack =>
      let reason := session.rollbackReason.getD "None"
      (s,.error (rotationValidationFailedError s!"Rotation session '{sessionId}' was already rolled back: {reason}"))
    | .initiated | .validated =>
      s.commitJudged sessionId session plaintext now (canaryValidator.map fun canary => canary plaintext)

def revokeSecret (tenantId : TenantId) (secretRef : SecretReference) (now : UtcDateTime) :
    SecretRotationService × Except SecretFault Unit :=
  match s.broker.getSecretRecord tenantId secretRef with
  | .error fault => (s,.error fault)
  | .ok record =>
    let revoked := s.setStatus secretRef record .revoked now
    ({ revoked with broker := revoked.broker.purgeCache (some tenantId) (some secretRef) },.ok ())

end SecretRotationService
end RevPilot.Security

/-! What the calls of the rotation service do to the secrets and to the sessions. -/
namespace RevPilot.Security
open Library Shared

inductive RotationOp : Type
  | initiate (tenantId : TenantId) (secretRef : SecretReference) (newSecretPlaintext sessionId : String)
      (readings : SecretReadings)
  | commit (sessionId : String) (canaryValidator : Option (String → CanaryOutcome)) (now : UtcDateTime)
  | rollback (sessionId reason : String) (now : UtcDateTime)

/-- The session that a call ends if it succeeds. -/
def RotationOp.endedSession : RotationOp → Option String
  | .initiate _ _ _ _ _ => none
  | .commit sessionId _ _ => some sessionId
  | .rollback sessionId _ _ => some sessionId

namespace SecretRotationService
variable (s : SecretRotationService)

def serveRotation (lib : BrokerLibrary) : RotationOp → SecretRotationService × Except SecretFault Unit
  | .initiate tenantId secretRef newSecretPlaintext sessionId readings =>
    let (after,result) := s.initiateRotation lib tenantId secretRef newSecretPlaintext sessionId readings
    (after,result.map fun _ => ())
  | .commit sessionId canaryValidator now => s.validateAndCommitRotation sessionId canaryValidator now
  | .rollback sessionId reason now => s.rollbackRotation sessionId reason now

/-- The call ends a session, and `record` is the one it writes. -/
def Completes (op : RotationOp) (session : RotationSession) (record : SecretRecord) : Prop :=
  match op with
  | .initiate _ _ _ _ _ => False
  | .commit sessionId canaryValidator _ =>
    ∃ plaintext, s.sessions.get? sessionId = some (session,plaintext) ∧
      (session.status = .initiated ∨ session.status = .validated) ∧
      (∀ message, canaryValidator.map (fun canary => canary plaintext) ≠ some (.refused message)) ∧
      s.broker.getSecretRecord session.tenantId session.secretRef = .ok record
  | .rollback sessionId _ _ =>
    ∃ plaintext, s.sessions.get? sessionId = some (session,plaintext) ∧ session.status ≠ .committed ∧
      s.broker.getSecretRecord session.tenantId session.secretRef = .ok record

end SecretRotationService

section broker
variable {b : CredentialBroker} {tenantId : TenantId} {secretRef : SecretReference} {record : SecretRecord}

@[simp] theorem getTenantKek_secrets (readings : SecretReadings) :
    (b.getTenantKek tenantId readings).1.secrets = b.secrets := by
  unfold CredentialBroker.getTenantKek
  cases b.tenantKeks.get? tenantId with
  | some kek => rfl
  | none => rfl

@[simp] theorem track_secrets (plaintext : String) : (b.track plaintext).secrets = b.secrets := by
  unfold CredentialBroker.track
  split
  · rfl
  · rfl

@[simp] theorem purgeCache_secrets (tenantId : Option TenantId) (secretRef : Option SecretReference) :
    (b.purgeCache tenantId secretRef).secrets = b.secrets := by
  unfold CredentialBroker.purgeCache
  split
  · rfl
  · rfl

@[simp] theorem putRecord_secrets :
    (b.putRecord secretRef record).secrets = b.secrets.set secretRef.value record := rfl

theorem getSecretRecord_ok (known : b.getSecretRecord tenantId secretRef = .ok record) :
    b.secrets.get? secretRef.value = some record ∧ record.tenantId = tenantId := by
  unfold CredentialBroker.getSecretRecord at known
  cases stored : b.secrets.get? secretRef.value with
  | none =>
    rw [stored] at known
    cases known
  | some found =>
    simp only [stored] at known
    split at known
    · cases known
    · rename_i own
      cases known
      exact ⟨rfl,not_not.mp own⟩

end broker

/-- How a session that is not pending any more is stored. -/
structure Ended (session ended : RotationSession) : Prop where
  same : ended.secretRef = session.secretRef
  ended : ended.status = .committed ∨ ended.status = .rolledBack

/-- What a call of the rotation service does to the secrets and the sessions. -/
inductive RotationTurn (s : SecretRotationService) : RotationOp → SecretRotationService → Prop
  | quiet {op : RotationOp} {after : SecretRotationService} (secrets : after.broker.secrets = s.broker.secrets)
      (sessions : after.sessions = s.sessions) (incomplete : ∀ session record, ¬ s.Completes op session record) :
      RotationTurn s op after
  | started {tenantId : TenantId} {secretRef : SecretReference} {newSecretPlaintext sessionId : String}
      {readings : SecretReadings} {after : SecretRotationService} {record rotating : SecretRecord}
      {session : RotationSession}
      (known : s.broker.getSecretRecord tenantId secretRef = .ok record) (unrevoked : record.status ≠ .revoked)
      (status : rotating.status = .rotating) (envelope : rotating.envelope = record.envelope)
      (secrets : after.broker.secrets = s.broker.secrets.set secretRef.value rotating)
      (own : session.secretRef = secretRef) (initiated : session.status = .initiated)
      (version : session.newEnvelope.version = record.envelope.version + 1)
      (sessions : after.sessions = s.sessions.set sessionId (session,newSecretPlaintext)) :
      RotationTurn s (.initiate tenantId secretRef newSecretPlaintext sessionId readings) after
  | completed {op : RotationOp} {after : SecretRotationService} {session ended : RotationSession}
      {record written : SecretRecord} {sessionId plaintext : String}
      (completes : s.Completes op session record) (asked : op.endedSession = some sessionId)
      (known : s.broker.getSecretRecord session.tenantId session.secretRef = .ok record)
      (stored : s.sessions.get? sessionId = some (session,plaintext))
      (active : written.status = .active)
      (secrets : after.broker.secrets = s.broker.secrets.set session.secretRef.value written)
      (ends : Ended session ended)
      (sessions : after.sessions = s.sessions.set sessionId (ended,plaintext)) :
      RotationTurn s op after

section turns
variable {s : SecretRotationService}

theorem completes_session {rotation : RotationOp} {session : RotationSession} {record : SecretRecord}
    (completes : s.Completes rotation session record) :
    ∃ sessionId plaintext, rotation.endedSession = some sessionId ∧ s.sessions.get? sessionId = some (session,plaintext) ∧
      s.broker.getSecretRecord session.tenantId session.secretRef = .ok record := by
  cases rotation with
  | initiate => exact completes.elim
  | commit sessionId canaryValidator now =>
    obtain ⟨plaintext,stored,_,_,known⟩ := completes
    exact ⟨sessionId,plaintext,rfl,stored,known⟩
  | rollback sessionId reason now =>
    obtain ⟨plaintext,stored,_,known⟩ := completes
    exact ⟨sessionId,plaintext,rfl,stored,known⟩

theorem rollback_cases (s : SecretRotationService) (sessionId reason : String) (now : UtcDateTime) :
    (∃ fault, s.rollbackRotation sessionId reason now = (s,.error fault) ∧
        ∀ session plaintext record, s.sessions.get? sessionId = some (session,plaintext) → session.status ≠ .committed →
          s.broker.getSecretRecord session.tenantId session.secretRef ≠ .ok record) ∨
      ∃ session plaintext record, s.sessions.get? sessionId = some (session,plaintext) ∧ session.status ≠ .committed ∧
        s.broker.getSecretRecord session.tenantId session.secretRef = .ok record ∧
        s.rollbackRotation sessionId reason now =
          ({ s.setStatus session.secretRef record .active now with
            sessions := s.sessions.set sessionId
              ({ session with status := .rolledBack, committedAt := none, rollbackReason := some reason },plaintext) },
            .ok ()) := by
  unfold SecretRotationService.rollbackRotation
  cases stored : s.sessions.get? sessionId with
  | none =>
    refine .inl ⟨_,rfl,?_⟩
    intro session plaintext record known
    cases known
  | some entry =>
    obtain ⟨session,plaintext⟩ := entry
    by_cases committed : session.status = .committed
    · refine .inl ⟨_,if_pos committed,?_⟩
      intro other text record known pending
      cases known
      exact absurd committed pending
    · simp only [if_neg committed]
      cases known : s.broker.getSecretRecord session.tenantId session.secretRef with
      | error fault =>
        refine .inl ⟨fault,rfl,?_⟩
        intro other text record same _ found
        cases same
        rw [known] at found
        cases found
      | ok record => exact .inr ⟨session,plaintext,record,rfl,committed,known,rfl⟩

/-- A rollback that finds its secret ends the session. -/
theorem rolledBack_turn {op : RotationOp} {sessionId reason : String} {now : UtcDateTime} {session : RotationSession}
    {plaintext : String} {record : SecretRecord} (completes : s.Completes op session record)
    (asked : op.endedSession = some sessionId) (stored : s.sessions.get? sessionId = some (session,plaintext))
    (known : s.broker.getSecretRecord session.tenantId session.secretRef = .ok record) :
    RotationTurn s op { s.setStatus session.secretRef record .active now with
      sessions := s.sessions.set sessionId
        ({ session with status := .rolledBack, committedAt := none, rollbackReason := some reason },plaintext) } := by
  refine .completed completes asked known stored ?_ rfl ⟨?_,?_⟩ rfl
  · rfl
  · rfl
  · exact .inr rfl

theorem initiate_turn (lib : BrokerLibrary) (tenantId : TenantId) (secretRef : SecretReference)
    (newSecretPlaintext sessionId : String) (readings : SecretReadings) :
    RotationTurn s (.initiate tenantId secretRef newSecretPlaintext sessionId readings)
      (s.initiateRotation lib tenantId secretRef newSecretPlaintext sessionId readings).1 := by
  unfold SecretRotationService.initiateRotation
  cases known : s.broker.getSecretRecord tenantId secretRef with
  | error fault => exact .quiet rfl rfl (fun _ _ => id)
  | ok record =>
    by_cases revoked : record.status = .revoked
    · simp only [if_pos revoked]
      exact .quiet rfl rfl (fun _ _ => id)
    · simp only [if_neg revoked]
      have keks := @getTenantKek_secrets s.broker tenantId readings
      cases sealed_ : encrypt lib newSecretPlaintext (s.broker.getTenantKek tenantId readings).2.1
          (s.broker.getTenantKek tenantId readings).2.2 (record.envelope.version + 1) readings with
      | error fault => exact .quiet keks rfl (fun _ _ => id)
      | ok newEnvelope =>
        have version : newEnvelope.version = record.envelope.version + 1 := by
          unfold encrypt at sealed_
          split at sealed_
          · cases sealed_
          · cases sealed_
            rfl
        have rotated : ((s.broker.getTenantKek tenantId readings).1.track newSecretPlaintext).secrets.set secretRef.value
            { record with status := .rotating, updatedAt := readings.now } =
              s.broker.secrets.set secretRef.value { record with status := .rotating, updatedAt := readings.now } := by
          rw [track_secrets,keks]
        refine .started known revoked ?_ ?_ rotated ?_ ?_ version rfl
        · rfl
        · rfl
        · rfl
        · rfl

theorem promote_cases (s : SecretRotationService) (sessionId : String) (session : RotationSession) (plaintext : String)
    (now : UtcDateTime) :
    (∃ fault, s.broker.getSecretRecord session.tenantId session.secretRef = .error fault ∧
        s.promote sessionId session plaintext now = (s,.error fault)) ∨
      ∃ record, s.broker.getSecretRecord session.tenantId session.secretRef = .ok record ∧
        (s.promote sessionId session plaintext now).2 = .ok () ∧
        (s.promote sessionId session plaintext now).1.broker.secrets = s.broker.secrets.set session.secretRef.value
          { record with
            previousEnvelope := some record.envelope, envelope := session.newEnvelope, status := .active, updatedAt := now } ∧
        (s.promote sessionId session plaintext now).1.sessions = s.sessions.set sessionId
          ({ session with status := .committed, committedAt := some now, rollbackReason := none },plaintext) := by
  unfold SecretRotationService.promote
  cases known : s.broker.getSecretRecord session.tenantId session.secretRef with
  | error fault => exact .inl ⟨fault,rfl,rfl⟩
  | ok record => exact .inr ⟨record,rfl,rfl,purgeCache_secrets _ _,rfl⟩

/-- After a failed canary the session is rolled back, or nothing happens. -/
theorem rollBackAfter_fst (sessionId text : String) (now : UtcDateTime) :
    (s.rollBackAfter sessionId text now).1 =
      (s.rollbackRotation sessionId s!"Canary validation exception: {text}" now).1 := by
  unfold SecretRotationService.rollBackAfter
  generalize s.rollbackRotation sessionId s!"Canary validation exception: {text}" now = outcome
  obtain ⟨after,result⟩ := outcome
  cases result with
  | ok _ => rfl
  | error fault => rfl

theorem rollback_turn {op : RotationOp} {sessionId : String} {session : RotationSession} {plaintext : String}
    (asked : op.endedSession = some sessionId) (stored : s.sessions.get? sessionId = some (session,plaintext)) (pending : session.status ≠ .committed)
    (known : ∀ found record, s.Completes op found record →
      found = session ∧ s.broker.getSecretRecord session.tenantId session.secretRef = .ok record)
    (completes : ∀ record, s.broker.getSecretRecord session.tenantId session.secretRef = .ok record →
      s.Completes op session record) (reason : String) (now : UtcDateTime) :
    RotationTurn s op (s.rollbackRotation sessionId reason now).1 := by
  rcases rollback_cases s sessionId reason now with ⟨fault,run,lost⟩ | ⟨found,text,record,same,_,secret,run⟩
  · rw [run]
    refine .quiet rfl rfl ?_
    intro found record done
    obtain ⟨rfl,secret⟩ := known found record done
    exact lost found plaintext record stored pending secret
  · rw [run]
    rw [stored] at same
    cases same
    exact rolledBack_turn (completes record secret) asked stored secret

/-- The end of a session that was pending, whatever the canary says. -/
theorem judged_turn {op : RotationOp} {sessionId : String} {session : RotationSession} {plaintext : String}
    {outcome : Option CanaryOutcome} (asked : op.endedSession = some sessionId)
    (stored : s.sessions.get? sessionId = some (session,plaintext))
    (pending : session.status ≠ .committed)
    (completes : ∀ found record, s.Completes op found record ↔ found = session ∧
      (∀ message, outcome ≠ some (.refused message)) ∧
      s.broker.getSecretRecord session.tenantId session.secretRef = .ok record) (now : UtcDateTime) :
    RotationTurn s op (s.commitJudged sessionId session plaintext now outcome).1 := by
  have promoted (accepted : ∀ message, outcome ≠ some (.refused message)) :
      RotationTurn s op (s.promote sessionId session plaintext now).1 := by
    rcases promote_cases s sessionId session plaintext now with ⟨fault,lost,run⟩ | ⟨record,known,_,secrets,sessions⟩
    · rw [run]
      refine .quiet rfl rfl ?_
      intro found record done
      have known := ((completes found record).mp done).2.2
      rw [lost] at known
      cases known
    · refine .completed ((completes session record).mpr ⟨rfl,accepted,known⟩) asked known stored ?_ secrets ⟨?_,?_⟩ sessions
      · rfl
      · rfl
      · exact .inl rfl
  have back (accepted : ∀ message, outcome ≠ some (.refused message)) (reason : String) :
      RotationTurn s op (s.rollbackRotation sessionId reason now).1 := by
    apply rollback_turn asked stored pending
    · intro found record done
      obtain ⟨same,_,known⟩ := (completes found record).mp done
      exact ⟨same,known⟩
    · intro record known
      exact (completes session record).mpr ⟨rfl,accepted,known⟩
  unfold SecretRotationService.commitJudged
  cases outcome with
  | none => exact promoted (fun _ => by simp)
  | some judged =>
    cases judged with
    | returned valid =>
      cases valid with
      | true => exact promoted (fun _ => by simp)
      | false =>
        have undone := back (fun _ => by simp) "Canary validation returned False"
        dsimp only
        rcases rollback_cases s sessionId "Canary validation returned False" now with
          ⟨fault,run,_⟩ | ⟨found,text,record,_,_,_,run⟩
        · simp only [run,rollBackAfter_fst]
          exact back (fun _ => by simp) _
        · simp only [run] at undone ⊢
          exact undone
    | refused message =>
      refine .quiet rfl rfl ?_
      intro found record done
      exact ((completes found record).mp done).2.1 message rfl
    | raised text =>
      dsimp only
      rw [rollBackAfter_fst]
      exact back (fun _ => by simp) _

theorem commit_turn (sessionId : String) (canaryValidator : Option (String → CanaryOutcome)) (now : UtcDateTime) :
    RotationTurn s (.commit sessionId canaryValidator now) (s.validateAndCommitRotation sessionId canaryValidator now).1 := by
  unfold SecretRotationService.validateAndCommitRotation
  cases stored : s.sessions.get? sessionId with
  | none =>
    refine .quiet rfl rfl ?_
    rintro session record ⟨plaintext,known,_⟩
    rw [stored] at known
    cases known
  | some entry =>
    obtain ⟨session,plaintext⟩ := entry
    have ended (closed : ¬ (session.status = .initiated ∨ session.status = .validated)) (found : RotationSession)
        (record : SecretRecord) : ¬ s.Completes (.commit sessionId canaryValidator now) found record := by
      rintro ⟨text,known,pending,_⟩
      rw [stored] at known
      cases known
      exact closed pending
    have judged (pending : session.status = .initiated ∨ session.status = .validated) :
        RotationTurn s (.commit sessionId canaryValidator now)
          (s.commitJudged sessionId session plaintext now (canaryValidator.map fun canary => canary plaintext)).1 := by
      apply judged_turn rfl stored
      · rcases pending with initiated | validated
        · simp [initiated]
        · simp [validated]
      · intro found record
        constructor
        · rintro ⟨text,known,_,accepted,secret⟩
          rw [stored] at known
          cases known
          exact ⟨rfl,accepted,secret⟩
        · rintro ⟨rfl,accepted,secret⟩
          exact ⟨plaintext,stored,pending,accepted,secret⟩
    cases status : session.status with
    | committed =>
      simp only [status]
      exact .quiet rfl rfl (ended (by simp [status]))
    | rolledBack =>
      simp only [status]
      exact .quiet rfl rfl (ended (by simp [status]))
    | initiated =>
      simp only [status]
      exact judged (.inl status)
    | validated =>
      simp only [status]
      exact judged (.inr status)

theorem serveRotation_turn (lib : BrokerLibrary) (s : SecretRotationService) (op : RotationOp) :
    RotationTurn s op (s.serveRotation lib op).1 := by
  cases op with
  | initiate tenantId secretRef newSecretPlaintext sessionId readings =>
    exact initiate_turn lib tenantId secretRef newSecretPlaintext sessionId readings
  | commit sessionId canaryValidator now => exact commit_turn sessionId canaryValidator now
  | rollback sessionId reason now =>
    change RotationTurn s _ (s.rollbackRotation sessionId reason now).1
    cases stored : s.sessions.get? sessionId with
    | none =>
      rcases rollback_cases s sessionId reason now with ⟨fault,run,_⟩ | ⟨found,text,record,known,_⟩
      · rw [run]
        refine .quiet rfl rfl ?_
        rintro session record ⟨plaintext,known,_⟩
        rw [stored] at known
        cases known
      · rw [stored] at known
        cases known
    | some entry =>
      obtain ⟨session,plaintext⟩ := entry
      by_cases committed : session.status = .committed
      · rcases rollback_cases s sessionId reason now with ⟨fault,run,_⟩ | ⟨found,text,record,known,pending,_⟩
        · rw [run]
          refine .quiet rfl rfl ?_
          rintro other record ⟨text,known,pending,_⟩
          rw [stored] at known
          cases known
          exact pending committed
        · rw [stored] at known
          cases known
          exact absurd committed pending
      · apply rollback_turn rfl stored committed
        · rintro found record ⟨text,known,_,secret⟩
          rw [stored] at known
          cases known
          exact ⟨rfl,secret⟩
        · intro record secret
          exact ⟨plaintext,stored,committed,secret⟩

end turns

section examples

/-- Ciphers that leave the text as it is. -/
def plainLibrary : BrokerLibrary where
  encipher plaintext _ _ _ _ := ⟨plaintext,"","",""⟩
  decrypt envelope _ := .ok envelope.ciphertextB64
  sha256 := id
  repr := id

def readingsAt (micros : Int) : SecretReadings := ⟨⟨micros⟩,0,.replicate 32 0,"00"⟩

def crmSecret : SecretReference := ⟨"sec_ref_crm"⟩

def newService : SecretRotationService where
  broker := { defaultTtlSeconds := 900, ttlAccepted := by decide }

end examples
end RevPilot.Security
