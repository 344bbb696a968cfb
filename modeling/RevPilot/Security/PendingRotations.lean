import RevPilot.Library.Runs
import RevPilot.Security.Rotation

/-! Overlapping rotations of one secret. -/
namespace RevPilot.Security
open Library Shared Runs

variable (lib : BrokerLibrary)

def rotationStep (s : SecretRotationService) (op : RotationOp) : SecretRotationService := (s.serveRotation lib op).1

/-- The secret of an initiated session is ROTATING. -/
def RotatesWhilePending (s : SecretRotationService) : Prop :=
  ∀ sessionId session plaintext, s.sessions.get? sessionId = some (session,plaintext) → session.status = .initiated →
    ∃ record, s.broker.secrets.get? session.secretRef.value = some record ∧ record.status = .rotating

/-- A commit that succeeds and is not a repetition replaces a version by a greater one, and keeps it. -/
def InstallsGreater (s : SecretRotationService) (op : RotationOp) : Prop :=
  match op with
  | .commit sessionId _ _ =>
    ∀ session plaintext, s.sessions.get? sessionId = some (session,plaintext) → session.status ≠ .committed →
      (s.serveRotation lib op).2 = .ok () →
        ∃ before after, s.broker.secrets.get? session.secretRef.value = some before ∧
          (rotationStep lib s op).broker.secrets.get? session.secretRef.value = some after ∧
          after.envelope = session.newEnvelope ∧ before.envelope.version < after.envelope.version ∧
          after.previousEnvelope = some before.envelope
  | _ => True

/-- When a session ends, no other session of its secret is initiated. -/
def EndsAlone (s : SecretRotationService) (op : RotationOp) : Prop :=
  ∀ session record, s.Completes op session record → ∀ other pending plaintext, op.endedSession ≠ some other →
    s.sessions.get? other = some (pending,plaintext) → pending.status = .initiated →
      pending.secretRef ≠ session.secretRef

/-- No session is VALIDATED, and an initiated one holds a greater version than its secret, which is ROTATING. -/
def PendingGreater (s : SecretRotationService) : Prop :=
  ∀ sessionId session plaintext, s.sessions.get? sessionId = some (session,plaintext) → session.status ≠ .validated ∧
    (session.status = .initiated → ∃ record, s.broker.secrets.get? session.secretRef.value = some record ∧
      record.status = .rotating ∧ record.envelope.version < session.newEnvelope.version)

section commits
variable {s : SecretRotationService}

theorem rollBackAfter_raises (sessionId text : String) (now : UtcDateTime) :
    (s.rollBackAfter sessionId text now).2 ≠ .ok () := by
  unfold SecretRotationService.rollBackAfter
  generalize s.rollbackRotation sessionId s!"Canary validation exception: {text}" now = outcome
  obtain ⟨after,result⟩ := outcome
  cases result with
  | ok _ => simp
  | error fault => simp

/-- A pending session that is committed with success was promoted. -/
theorem judged_promotes {sessionId plaintext : String} {session : RotationSession} {now : UtcDateTime}
    {outcome : Option CanaryOutcome} (done : (s.commitJudged sessionId session plaintext now outcome).2 = .ok ()) :
    s.commitJudged sessionId session plaintext now outcome = s.promote sessionId session plaintext now := by
  cases outcome with
  | none => rfl
  | some judged =>
    cases judged with
    | returned valid =>
      cases valid with
      | true => rfl
      | false =>
        simp only [SecretRotationService.commitJudged] at done
        rcases rollback_cases s sessionId "Canary validation returned False" now with
          ⟨fault,run,_⟩ | ⟨found,text,record,_,_,_,run⟩
        · simp only [run] at done
          exact absurd done (rollBackAfter_raises sessionId _ now)
        · simp only [run] at done
          cases done
    | refused message => cases done
    | raised text => exact absurd done (rollBackAfter_raises sessionId text now)

theorem commit_installs {sessionId plaintext : String} {session : RotationSession}
    {canaryValidator : Option (String → CanaryOutcome)} {now : UtcDateTime}
    (stored : s.sessions.get? sessionId = some (session,plaintext)) (pending : session.status ≠ .committed)
    (done : (s.validateAndCommitRotation sessionId canaryValidator now).2 = .ok ()) :
    (session.status = .initiated ∨ session.status = .validated) ∧
      ∃ record, s.broker.secrets.get? session.secretRef.value = some record ∧
        (s.validateAndCommitRotation sessionId canaryValidator now).1.broker.secrets.get? session.secretRef.value =
          some { record with
            previousEnvelope := some record.envelope, envelope := session.newEnvelope, status := .active,
            updatedAt := now } := by
  have installed (run : s.validateAndCommitRotation sessionId canaryValidator now =
      s.commitJudged sessionId session plaintext now (canaryValidator.map fun canary => canary plaintext)) :
      ∃ record, s.broker.secrets.get? session.secretRef.value = some record ∧
        (s.validateAndCommitRotation sessionId canaryValidator now).1.broker.secrets.get? session.secretRef.value =
          some { record with
            previousEnvelope := some record.envelope, envelope := session.newEnvelope, status := .active,
            updatedAt := now } := by
    rw [run] at done ⊢
    have promoted := judged_promotes done
    rw [promoted] at done ⊢
    rcases promote_cases s sessionId session plaintext now with ⟨fault,_,failed⟩ | ⟨record,known,_,secrets,_⟩
    · rw [failed] at done
      cases done
    · refine ⟨record,(getSecretRecord_ok known).1,?_⟩
      rw [secrets]
      exact Dict.get?_set_self _ _ _
  cases status : session.status with
  | committed => exact absurd status pending
  | rolledBack =>
    simp only [SecretRotationService.validateAndCommitRotation,stored,status] at done
    cases done
  | initiated =>
    refine ⟨.inl rfl,installed ?_⟩
    simp only [SecretRotationService.validateAndCommitRotation,stored,status]
  | validated =>
    refine ⟨.inr rfl,installed ?_⟩
    simp only [SecretRotationService.validateAndCommitRotation,stored,status]

end commits

section steps
variable {s after : SecretRotationService} {op : RotationOp}

theorem pending_turn (turn : RotationTurn s op after) (greater : PendingGreater s) (alone : EndsAlone s op) :
    PendingGreater after := by
  intro sessionId session plaintext stored
  cases turn with
  | quiet secrets sessions incomplete =>
    rw [sessions] at stored
    rw [secrets]
    exact greater sessionId session plaintext stored
  | @started tenantId secretRef _ newId _ _ record rotating made known unrevoked status envelope secrets own initiated
      version sessions =>
    have recorded := (getSecretRecord_ok known).1
    rw [sessions,Dict.get?_set] at stored
    rw [secrets]
    split at stored
    · cases stored
      refine ⟨by simp [initiated],fun _ => ⟨rotating,?_,status,?_⟩⟩
      · rw [own]
        exact Dict.get?_set_self _ _ _
      · rw [envelope,version]
        omega
    · refine (greater sessionId session plaintext stored).imp id ?_
      intro before pending
      obtain ⟨found,kept,wasRotating,newer⟩ := before pending
      by_cases same : session.secretRef.value = secretRef.value
      · rw [same] at kept ⊢
        obtain rfl : record = found := Option.some.inj (recorded.symm.trans kept)
        exact ⟨rotating,Dict.get?_set_self _ _ _,status,by rw [envelope]; exact newer⟩
      · exact ⟨found,(Dict.get?_set_ne _ _ same).trans kept,wasRotating,newer⟩
  | @completed _ _ ending ended record written endedId text completes asked known recorded active secrets ends sessions =>
    rw [sessions,Dict.get?_set] at stored
    rw [secrets]
    split at stored
    · cases stored
      rcases ends.ended with committed | rolledBack
      · simp [committed]
      · simp [rolledBack]
    · rename_i apart
      refine (greater sessionId session plaintext stored).imp id ?_
      intro before pending
      obtain ⟨found,kept,wasRotating,newer⟩ := before pending
      have other : session.secretRef.value ≠ ending.secretRef.value := by
        intro same
        refine alone ending record completes sessionId session plaintext ?_ stored pending ?_
        · rw [asked]
          exact fun equal => apart (Option.some.inj equal).symm
        · cases h : session.secretRef
          cases k : ending.secretRef
          simpa [h,k] using same
      exact ⟨found,(Dict.get?_set_ne _ _ other).trans kept,wasRotating,newer⟩

/-- A session that ends beside another one of its secret leaves that one without its status. -/
theorem completed_alone (turn : RotationTurn s op after) (rotates : RotatesWhilePending after) : EndsAlone s op := by
  intro session record completes other pending plaintext named stored initiated same
  cases turn with
  | quiet secrets sessions incomplete => exact incomplete session record completes
  | started => exact completes.elim
  | @completed _ _ ending ended _ written endedId text _ asked known recorded active secrets ends sessions =>
    obtain ⟨key,found,keyed,kept,_⟩ := completes_session completes
    rw [asked] at keyed
    cases keyed
    rw [recorded] at kept
    cases kept
    have apart : other ≠ endedId := by
      rintro rfl
      exact named asked
    have still : after.sessions.get? other = some (pending,plaintext) := by
      rw [sessions,Dict.get?_set_ne _ _ apart]
      exact stored
    obtain ⟨current,held,rotating⟩ := rotates other pending plaintext still initiated
    rw [secrets,same,Dict.get?_set_self] at held
    obtain rfl : written = current := Option.some.inj held
    rw [active] at rotating
    cases rotating

theorem pending_installs (greater : PendingGreater s) (op : RotationOp) : InstallsGreater lib s op := by
  cases op with
  | initiate => trivial
  | rollback => trivial
  | commit sessionId canaryValidator now =>
    intro session plaintext stored pending done
    obtain ⟨unfinished,record,known,installed⟩ := commit_installs stored pending done
    refine ⟨record,_,known,installed,rfl,?_,rfl⟩
    obtain ⟨unvalidated,newer⟩ := greater sessionId session plaintext stored
    obtain ⟨found,kept,_,version⟩ := newer (unfinished.resolve_right unvalidated)
    obtain rfl : record = found := Option.some.inj (known.symm.trans kept)
    exact version

end steps

/-- From a service without sessions, commits install greater versions and secrets of initiated
sessions are ROTATING exactly if sessions end when no other session of their secret is initiated. -/
theorem rotations_ordered_iff {start : SecretRotationService} (unused : start.sessions = .empty) (ops : List RotationOp) :
    Along (rotationStep lib) (InstallsGreater lib) start ops ∧ Always (rotationStep lib) RotatesWhilePending start ops ↔
      Along (rotationStep lib) EndsAlone start ops := by
  constructor
  · rintro ⟨_,rotates⟩
    rw [along_iff]
    rintro pre op post rfl
    have later := rotates (pre ++ [op]) post (by simp)
    rw [run_concat] at later
    exact completed_alone (serveRotation_turn lib _ op) later
  · intro alone
    have greater : Always (rotationStep lib) PendingGreater start ops := by
      refine invariant_always (rotationStep lib) ?_ ?_ alone
      · intro s op held ends
        exact pending_turn (serveRotation_turn lib s op) held ends
      · intro sessionId session plaintext stored
        rw [unused] at stored
        cases stored
    constructor
    · rw [along_iff]
      intro pre op post split
      exact pending_installs lib (greater pre (op :: post) split) op
    · refine always_mono (rotationStep lib) ?_ greater
      intro s held sessionId session plaintext stored initiated
      obtain ⟨record,known,rotating,_⟩ := (held sessionId session plaintext stored).2 initiated
      exact ⟨record,known,rotating⟩

section examples

def storedCrm : SecretRecord where
  secretRef := crmSecret
  tenantId := ⟨"tnt_acme",Eq.refl true⟩
  providerName := "salesforce"
  grantedScopes := []
  allowedAudiences := []
  envelope := { ciphertextB64 := "first", nonceB64 := "", tagHex := "", wrappedDekB64 := "", kekId := "kek_1", createdAt := ⟨0⟩ }
  createdAt := ⟨0⟩
  updatedAt := ⟨0⟩

def crmService : SecretRotationService := { newService with broker := newService.broker.putRecord crmSecret storedCrm }

def startCrm (sessionId plaintext : String) : RotationOp :=
  .initiate ⟨"tnt_acme",Eq.refl true⟩ crmSecret plaintext sessionId (readingsAt 1)

theorem single_rotation_ordered :
    Along (rotationStep plainLibrary) (InstallsGreater plainLibrary) crmService
        [startCrm "rot_sess_1" "second",.commit "rot_sess_1" none ⟨2⟩] ∧
      Always (rotationStep plainLibrary) RotatesWhilePending crmService
        [startCrm "rot_sess_1" "second",.commit "rot_sess_1" none ⟨2⟩] := by
  refine (rotations_ordered_iff plainLibrary rfl _).mpr ⟨?_,?_,trivial⟩
  · intro session record completes
    exact completes.elim
  · rintro session record _ other pending plaintext named stored _ _
    have apart : other ≠ "rot_sess_1" := fun same => named (by rw [same]; rfl)
    change (Dict.empty.set "rot_sess_1" _).get? other = some (pending,plaintext) at stored
    rw [Dict.get?_set_ne _ _ apart] at stored
    cases stored

/-- Of two open rotations each installs the second version. -/
theorem second_commit_overwrites : ¬ Along (rotationStep plainLibrary) (InstallsGreater plainLibrary) crmService
    [startCrm "rot_sess_1" "second",startCrm "rot_sess_2" "third",.commit "rot_sess_2" none ⟨2⟩,
      .commit "rot_sess_1" none ⟨3⟩] := by
  intro installs
  obtain ⟨before,after,stored,_,installed,greater,_⟩ := installs.2.2.2.1 _ _ rfl (by decide) rfl
  cases stored
  rw [installed] at greater
  exact absurd greater (by decide)

end examples
end RevPilot.Security
