import RevPilot.Library.Runs
import RevPilot.Security.Rotation

/-! A revoked secret over the runs of the broker and of the rotation service. -/
namespace RevPilot.Security
open Library Shared Runs

inductive SecretOp : Type
  | rotation (op : RotationOp)
  | revoke (tenantId : TenantId) (secretRef : SecretReference) (now : UtcDateTime)
  | registerSecret (tenantId : TenantId) (secretRef : SecretReference) (plaintextSecret providerName : String)
      (grantedScopes allowedAudiences : List String) (readings : SecretReadings)
  | getScopedToken (tenantId : TenantId) (secretRef : SecretReference) (requiredScope audience : String)
      (asOfTime : Option UtcDateTime) (readings : SecretReadings)
  | registerTenantKek (tenantId : TenantId) (kek : List UInt8) (kekId : Option String) (tokenHex : String)
  | purgeCache (tenantId : Option TenantId) (secretRef : Option SecretReference)
  | setOutage (enabled : Bool)

namespace SecretRotationService
variable (lib : BrokerLibrary) (s : SecretRotationService)

/-- The service after a call of its broker. -/
def onBroker {A : Type} (outcome : CredentialBroker × Except SecretFault A) :
    SecretRotationService × Except SecretFault Unit :=
  ({ s with broker := outcome.1 },outcome.2.map fun _ => ())

def serveSecret : SecretOp → SecretRotationService × Except SecretFault Unit
  | .rotation op => s.serveRotation lib op
  | .revoke tenantId secretRef now => s.revokeSecret tenantId secretRef now
  | .registerSecret tenantId secretRef plaintextSecret providerName grantedScopes allowedAudiences readings =>
    s.onBroker (s.broker.registerSecret lib tenantId secretRef plaintextSecret providerName grantedScopes
      allowedAudiences readings)
  | .getScopedToken tenantId secretRef requiredScope audience asOfTime readings =>
    s.onBroker (s.broker.getScopedToken lib tenantId secretRef requiredScope audience asOfTime readings)
  | .registerTenantKek tenantId kek kekId tokenHex =>
    ({ s with broker := (s.broker.registerTenantKek tenantId kek kekId tokenHex).1 },.ok ())
  | .purgeCache tenantId secretRef => ({ s with broker := s.broker.purgeCache tenantId secretRef },.ok ())
  | .setOutage enabled => ({ s with broker := s.broker.setOutage enabled },.ok ())

end SecretRotationService

variable (lib : BrokerLibrary)

def secretStep (s : SecretRotationService) (op : SecretOp) : SecretRotationService := (s.serveSecret lib op).1

/-- The call revokes the secret, and it succeeds. -/
def Revokes (secretRef : SecretReference) (s : SecretRotationService) (op : SecretOp) : Prop :=
  match op with
  | .revoke _ asked _ => asked = secretRef ∧ (s.serveSecret lib op).2 = .ok ()
  | _ => False

/-- The call registers the secret anew, and it succeeds. -/
def Registers (secretRef : SecretReference) (s : SecretRotationService) (op : SecretOp) : Prop :=
  match op with
  | .registerSecret _ asked _ _ _ _ _ => asked = secretRef ∧ (s.serveSecret lib op).2 = .ok ()
  | _ => False

def Revoked (secretRef : SecretReference) (s : SecretRotationService) : Prop :=
  ∃ record, s.broker.secrets.get? secretRef.value = some record ∧ record.status = .revoked

/-- The secret is revoked, and whoever asks for a token of it gets an error. -/
def RevokedAndRefused (secretRef : SecretReference) (s : SecretRotationService) : Prop :=
  Revoked secretRef s ∧ ∀ tenantId requiredScope audience asOfTime readings, ∃ fault,
    (s.broker.getScopedToken lib tenantId secretRef requiredScope audience asOfTime readings).2 = .error fault

/-- No rotation ends for a revoked secret. -/
def SparesRevoked (s : SecretRotationService) (op : SecretOp) : Prop :=
  match op with
  | .rotation op => ∀ session record, s.Completes op session record → record.status ≠ .revoked
  | _ => True

section broker
variable {b : CredentialBroker}

@[simp] theorem issueToken_secrets (record : SecretRecord) (tenantId : TenantId) (secretRef : SecretReference)
    (requiredScope audience : String) (now : UtcDateTime) (readings : SecretReadings) :
    (b.issueToken lib record tenantId secretRef requiredScope audience now readings).1.secrets = b.secrets := by
  have keks := @getTenantKek_secrets b tenantId readings
  unfold CredentialBroker.issueToken
  dsimp only
  split
  · rfl
  · split
    · exact keks
    · split
      · exact keks
      · exact keks

@[simp] theorem getScopedToken_secrets (tenantId : TenantId) (secretRef : SecretReference)
    (requiredScope audience : String) (asOfTime : Option UtcDateTime) (readings : SecretReadings) :
    (b.getScopedToken lib tenantId secretRef requiredScope audience asOfTime readings).1.secrets = b.secrets := by
  unfold CredentialBroker.getScopedToken
  split
  · rfl
  · cases b.getSecretRecord tenantId secretRef with
    | error fault => rfl
    | ok record =>
      dsimp only
      repeat' split
      all_goals first | rfl | exact issueToken_secrets lib record tenantId secretRef requiredScope audience _ readings

theorem registerSecret_cases (tenantId : TenantId) (secretRef : SecretReference) (plaintextSecret providerName : String)
    (grantedScopes allowedAudiences : List String) (readings : SecretReadings) :
    (∃ fault, (b.registerSecret lib tenantId secretRef plaintextSecret providerName grantedScopes allowedAudiences
        readings).2 = .error fault ∧
      (b.registerSecret lib tenantId secretRef plaintextSecret providerName grantedScopes allowedAudiences
        readings).1.secrets = b.secrets) ∨
      ∃ record, (b.registerSecret lib tenantId secretRef plaintextSecret providerName grantedScopes allowedAudiences
          readings).2 = .ok record ∧ record.status = .active ∧
        (b.registerSecret lib tenantId secretRef plaintextSecret providerName grantedScopes allowedAudiences
          readings).1.secrets = b.secrets.set secretRef.value record := by
  have keks := @getTenantKek_secrets b tenantId readings
  unfold CredentialBroker.registerSecret
  dsimp only
  cases encrypt lib plaintextSecret (b.getTenantKek tenantId readings).2.1 (b.getTenantKek tenantId readings).2.2 1
      readings with
  | error fault => exact .inl ⟨fault,rfl,keks⟩
  | ok envelope => exact .inr ⟨_,rfl,rfl,by simp only [putRecord_secrets,track_secrets,keks]⟩

/-- No token is issued for a revoked secret. -/
theorem revoked_refuses {tenantId : TenantId} {secretRef : SecretReference} {record : SecretRecord}
    (stored : b.secrets.get? secretRef.value = some record) (revoked : record.status = .revoked)
    (requiredScope audience : String) (asOfTime : Option UtcDateTime) (readings : SecretReadings) :
    ∃ fault, (b.getScopedToken lib tenantId secretRef requiredScope audience asOfTime readings).2 = .error fault := by
  unfold CredentialBroker.getScopedToken
  split
  · exact ⟨_,rfl⟩
  · cases known : b.getSecretRecord tenantId secretRef with
    | error fault => exact ⟨fault,rfl⟩
    | ok found =>
      have same := (getSecretRecord_ok known).1
      obtain rfl : record = found := Option.some.inj (stored.symm.trans same)
      simp only [if_pos revoked]
      exact ⟨_,rfl⟩

end broker

section turns
variable {s after : SecretRotationService} {secretRef : SecretReference} {op : SecretOp}

/-- What a call does to the secrets. -/
inductive SecretTurn (s : SecretRotationService) (op : SecretOp) (after : SecretRotationService) : Prop
  | rotated (rotation : RotationOp) (same : op = .rotation rotation) (turn : RotationTurn s rotation after)
  | kept (other : ∀ rotation, op ≠ .rotation rotation) (secrets : after.broker.secrets = s.broker.secrets)
      (unrevoked : ∀ secretRef, ¬ Revokes lib secretRef s op) (unregistered : ∀ secretRef, ¬ Registers lib secretRef s op)
  | revoked (secretRef : SecretReference) (record : SecretRecord) (other : ∀ rotation, op ≠ .rotation rotation)
      (revokes : Revokes lib secretRef s op) (unregistered : ∀ secretRef, ¬ Registers lib secretRef s op)
      (status : record.status = .revoked) (secrets : after.broker.secrets = s.broker.secrets.set secretRef.value record)
  | registered (secretRef : SecretReference) (record : SecretRecord) (other : ∀ rotation, op ≠ .rotation rotation)
      (unrevoked : ∀ secretRef, ¬ Revokes lib secretRef s op) (registers : Registers lib secretRef s op)
      (status : record.status = .active) (secrets : after.broker.secrets = s.broker.secrets.set secretRef.value record)

theorem serveSecret_turn (s : SecretRotationService) (op : SecretOp) : SecretTurn lib s op (secretStep lib s op) := by
  cases op with
  | rotation op => exact .rotated op rfl (serveRotation_turn lib s op)
  | revoke tenantId secretRef now =>
    cases known : s.broker.getSecretRecord tenantId secretRef with
    | error fault =>
      have run : s.serveSecret lib (.revoke tenantId secretRef now) = (s,.error fault) := by
        simp only [SecretRotationService.serveSecret,SecretRotationService.revokeSecret,known]
      refine .kept (fun _ => by simp) ?_ ?_ (fun _ => id)
      · rw [secretStep,run]
      · rintro other ⟨_,done⟩
        rw [run] at done
        cases done
    | ok record =>
      refine .revoked secretRef { record with status := .revoked, updatedAt := now } (fun _ => by simp) ⟨rfl,?_⟩
        (fun _ => id) rfl ?_
      · simp only [SecretRotationService.serveSecret,SecretRotationService.revokeSecret,known]
      · simp only [secretStep,SecretRotationService.serveSecret,SecretRotationService.revokeSecret,known,
          purgeCache_secrets,SecretRotationService.setStatus,putRecord_secrets]
  | registerSecret tenantId secretRef plaintextSecret providerName grantedScopes allowedAudiences readings =>
    rcases @registerSecret_cases lib s.broker tenantId secretRef plaintextSecret providerName grantedScopes
        allowedAudiences readings with ⟨fault,failed,secrets⟩ | ⟨record,done,status,secrets⟩
    · refine .kept (fun _ => by simp) secrets (fun _ => id) ?_
      rintro other ⟨_,done⟩
      simp only [SecretRotationService.serveSecret,SecretRotationService.onBroker,failed] at done
      cases done
    · refine .registered secretRef record (fun _ => by simp) (fun _ => id) ⟨rfl,?_⟩ status secrets
      simp only [SecretRotationService.serveSecret,SecretRotationService.onBroker,done]
      rfl
  | getScopedToken tenantId secretRef requiredScope audience asOfTime readings =>
    exact .kept (fun _ => by simp) (getScopedToken_secrets lib tenantId secretRef requiredScope audience asOfTime readings)
      (fun _ => id) (fun _ => id)
  | registerTenantKek tenantId kek kekId tokenHex => exact .kept (fun _ => by simp) rfl (fun _ => id) (fun _ => id)
  | purgeCache tenantId secretRef =>
    exact .kept (fun _ => by simp) (purgeCache_secrets tenantId secretRef) (fun _ => id) (fun _ => id)
  | setOutage enabled => exact .kept (fun _ => by simp) rfl (fun _ => id) (fun _ => id)

theorem revoked_same (secrets : after.broker.secrets = s.broker.secrets) :
    Revoked secretRef after ↔ Revoked secretRef s := by
  unfold Revoked
  rw [secrets]

theorem revoked_set {changed : SecretReference} {written : SecretRecord}
    (secrets : after.broker.secrets = s.broker.secrets.set changed.value written) :
    Revoked secretRef after ↔ if secretRef = changed then written.status = .revoked else Revoked secretRef s := by
  have keys : secretRef.value = changed.value ↔ secretRef = changed := by
    cases secretRef
    cases changed
    simp
  unfold Revoked
  rw [secrets,Dict.get?_set]
  by_cases same : secretRef = changed
  · simp [same]
  · simp [keys,same]

theorem revokedAndRefused_iff : RevokedAndRefused lib secretRef s ↔ Revoked secretRef s := by
  constructor
  · intro held
    exact held.1
  · rintro ⟨record,stored,status⟩
    refine ⟨⟨record,stored,status⟩,?_⟩
    intro tenantId requiredScope audience asOfTime readings
    exact revoked_refuses lib stored status requiredScope audience asOfTime readings

/-- The call does not end a rotation of the secret. -/
def Spares (secretRef : SecretReference) (s : SecretRotationService) (op : SecretOp) : Prop :=
  ∀ rotation session record, op = .rotation rotation → s.Completes rotation session record → session.secretRef ≠ secretRef

theorem revokes_revoked (revokes : Revokes lib secretRef s op) : Revoked secretRef (secretStep lib s op) := by
  cases serveSecret_turn lib s op with
  | rotated rotation same turn =>
    rw [same] at revokes
    exact revokes.elim
  | kept other secrets unrevoked unregistered => exact absurd revokes (unrevoked secretRef)
  | revoked changed record other asked unregistered status secrets =>
    have same : changed = secretRef := by
      cases op with
      | revoke tenantId named now => exact asked.1.symm.trans revokes.1
      | _ => exact revokes.elim
    rw [revoked_set secrets,if_pos same.symm]
    exact status
  | registered changed record other unrevoked registers status secrets => exact absurd revokes (unrevoked secretRef)

/-- A revoked secret stays revoked exactly if no rotation of it ends. -/
theorem revoked_step (revoked : Revoked secretRef s) (unregistered : ¬ Registers lib secretRef s op) :
    Spares secretRef s op ↔ Revoked secretRef (secretStep lib s op) := by
  cases serveSecret_turn lib s op with
  | rotated rotation same turn =>
    cases turn with
    | quiet secrets sessions incomplete =>
      refine iff_of_true ?_ ((revoked_same secrets).mpr revoked)
      intro other session record asked completes
      rw [same] at asked
      cases asked
      exact absurd completes (incomplete session record)
    | @started tenantId changed _ _ _ _ record rotating session known unrevoked status envelope secrets =>
      have apart : secretRef ≠ changed := by
        rintro rfl
        obtain ⟨found,stored,status⟩ := revoked
        obtain rfl : record = found := Option.some.inj ((getSecretRecord_ok known).1.symm.trans stored)
        exact unrevoked status
      refine iff_of_true ?_ ?_
      · intro other session record asked completes
        rw [same] at asked
        cases asked
        exact completes.elim
      · rw [revoked_set secrets,if_neg apart]
        exact revoked
    | @completed _ _ session ended record written sessionId plaintext completes asked known stored active secrets =>
      rw [revoked_set secrets]
      by_cases own : secretRef = session.secretRef
      · rw [if_pos own,active]
        refine iff_of_false ?_ (by simp)
        intro spared
        exact spared rotation session record same completes own.symm
      · rw [if_neg own]
        refine iff_of_true ?_ revoked
        intro other found record called done
        rw [same] at called
        cases called
        obtain ⟨key,text,named,kept,_⟩ := completes_session done
        rw [asked] at named
        cases named
        rw [stored] at kept
        cases kept
        exact Ne.symm own
  | kept other secrets unrevoked unregistered =>
    exact iff_of_true (fun rotation _ _ same => absurd same (other rotation)) ((revoked_same secrets).mpr revoked)
  | revoked changed record other revokes unregistered status secrets =>
    refine iff_of_true (fun rotation _ _ same => absurd same (other rotation)) ?_
    rw [revoked_set secrets]
    split
    · exact status
    · exact revoked
  | registered changed record other unrevoked registers status secrets =>
    have apart : secretRef ≠ changed := by
      rintro rfl
      exact unregistered registers
    refine iff_of_true (fun rotation _ _ same => absurd same (other rotation)) ?_
    rw [revoked_set secrets,if_neg apart]
    exact revoked

/-- Only a revocation makes a secret revoked. -/
theorem revoked_origin (revoked : Revoked secretRef (secretStep lib s op)) :
    Revokes lib secretRef s op ∨ (Revoked secretRef s ∧ ¬ Registers lib secretRef s op) := by
  cases serveSecret_turn lib s op with
  | rotated rotation same turn =>
    refine .inr ⟨?_,by rw [same]; exact id⟩
    cases turn with
    | quiet secrets => exact (revoked_same secrets).mp revoked
    | started known unrevoked status envelope secrets =>
      rw [revoked_set secrets,status] at revoked
      split at revoked
      · cases revoked
      · exact revoked
    | completed completes asked known stored active secrets =>
      rw [revoked_set secrets,active] at revoked
      split at revoked
      · cases revoked
      · exact revoked
  | kept other secrets unrevoked unregistered => exact .inr ⟨(revoked_same secrets).mp revoked,unregistered secretRef⟩
  | revoked changed record other revokes unregistered status secrets =>
    rw [revoked_set secrets] at revoked
    split at revoked
    · rename_i same
      exact .inl (same ▸ revokes)
    · exact .inr ⟨revoked,unregistered secretRef⟩
  | registered changed record other unrevoked registers status secrets =>
    rw [revoked_set secrets,status] at revoked
    split at revoked
    · cases revoked
    · rename_i apart
      refine .inr ⟨revoked,?_⟩
      intro again
      cases op with
      | registerSecret => exact apart (again.1.symm.trans registers.1)
      | _ => exact again.elim

end turns

/-- In a run that starts without revoked secrets every revocation lasts, with every token refused,
until the secret is registered again, exactly if no rotation of a revoked secret ends. -/
theorem revocation_lasts_iff {start : SecretRotationService} (unrevoked : ∀ secretRef, ¬ Revoked secretRef start)
    (ops : List SecretOp) :
    (∀ secretRef, Lasts (secretStep lib) (Revokes lib secretRef) (Registers lib secretRef)
        (RevokedAndRefused lib secretRef) start ops) ↔
      Along (secretStep lib) SparesRevoked start ops := by
  have each (secretRef : SecretReference) : Lasts (secretStep lib) (Revokes lib secretRef) (Registers lib secretRef)
        (RevokedAndRefused lib secretRef) start ops ↔
      Along (secretStep lib) (fun s op => Revoked secretRef s → ¬ Registers lib secretRef s op → Spares secretRef s op)
        start ops := by
    have same : RevokedAndRefused lib secretRef = Revoked secretRef := by
      funext s
      exact propext (revokedAndRefused_iff lib)
    rw [same]
    apply lasts_iff
    · intro s op revokes
      exact revokes_revoked lib revokes
    · intro s op revoked unregistered
      exact revoked_step lib revoked unregistered
    · intro s op revoked
      exact revoked_origin lib revoked
    · exact unrevoked secretRef
  simp only [each]
  constructor
  · intro all
    rw [along_iff]
    intro pre op post split
    cases op with
    | rotation rotation =>
      intro session record completes revoked
      obtain ⟨_,_,_,_,known⟩ := completes_session completes
      exact along_at (secretStep lib) (all session.secretRef) split ⟨record,(getSecretRecord_ok known).1,revoked⟩ id
        rotation session record rfl completes rfl
    | _ => trivial
  · intro spared secretRef
    apply along_mono (secretStep lib) _ spared
    rintro s op good ⟨found,stored,status⟩ _ rotation session record rfl completes rfl
    obtain ⟨_,_,_,_,known⟩ := completes_session completes
    obtain rfl : record = found := Option.some.inj ((getSecretRecord_ok known).1.symm.trans stored)
    exact good session record completes status

section examples

def registerCrm : SecretOp :=
  .registerSecret ⟨"tnt_acme",Eq.refl true⟩ crmSecret "salesforce" "first" ["api:read"] [] (readingsAt 0)

def rotateAndRevoke : List SecretOp :=
  [registerCrm,.rotation (.initiate ⟨"tnt_acme",Eq.refl true⟩ crmSecret "second" "rot_sess_1" (readingsAt 1)),
    .rotation (.commit "rot_sess_1" none ⟨2⟩),.revoke ⟨"tnt_acme",Eq.refl true⟩ crmSecret ⟨3⟩]

theorem rotated_secret_stays_revoked :
    Lasts (secretStep plainLibrary) (Revokes plainLibrary crmSecret) (Registers plainLibrary crmSecret)
      (RevokedAndRefused plainLibrary crmSecret) newService rotateAndRevoke := by
  have clean : ∀ secretRef, ¬Revoked secretRef newService := by
    rintro secretRef ⟨record,stored,_⟩
    cases stored
  have spared : Along (secretStep plainLibrary) SparesRevoked newService rotateAndRevoke := by
    refine ⟨trivial,?_,?_,trivial,trivial⟩
    · intro session record completes
      exact completes.elim
    · rintro session record ⟨plaintext,stored,_,_,known⟩ revoked
      cases stored
      cases known
      cases revoked
  exact (revocation_lasts_iff plainLibrary clean _).mpr spared crmSecret

/-- A rotation that was open when its secret was revoked makes it active again. -/
theorem late_commit_revives : ¬ ∀ secretRef, Lasts (secretStep plainLibrary) (Revokes plainLibrary secretRef)
    (Registers plainLibrary secretRef) (RevokedAndRefused plainLibrary secretRef) newService
    [registerCrm,.rotation (.initiate ⟨"tnt_acme",Eq.refl true⟩ crmSecret "second" "rot_sess_1" (readingsAt 1)),
      .revoke ⟨"tnt_acme",Eq.refl true⟩ crmSecret ⟨2⟩,.rotation (.commit "rot_sess_1" none ⟨3⟩)] := by
  intro lasts
  obtain ⟨⟨record,stored,status⟩,_⟩ := lasts crmSecret [registerCrm,_] _ [_] [] rfl ⟨rfl,rfl⟩ ⟨id,trivial⟩
  cases stored
  cases status

end examples
end RevPilot.Security
