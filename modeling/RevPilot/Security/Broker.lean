import RevPilot.Library.Dict
import RevPilot.Library.Replacement
import RevPilot.Library.Rounding
import RevPilot.Library.Sorting
import RevPilot.Library.Text
import RevPilot.Shared.Errors
import RevPilot.Shared.Identifiers
import RevPilot.Shared.Temporal
import Mathlib.Data.List.Dedup
import Mathlib.Data.String.Basic

/-! The broker of connector secrets: enveloped secrets with a lifecycle, and the short-lived
tokens that are issued for them. Texts are scrubbed of the secrets that were registered. -/
namespace RevPilot.Security
open Library Shared

inductive SecretLifecycleStatus : Type
  | active
  | rotating
  | revoked
  | expired
  deriving DecidableEq

/-- A `SecretSecurityError` with its code and HTTP status, or another exception. -/
inductive SecretFault : Type
  | securityError (code message : String) (statusCode : Nat)
  | raised (error : PyError) (text : String)

/-- `str(err)`. -/
def SecretFault.text : SecretFault → String
  | .securityError _ message _ => message
  | .raised _ text => text

def secretNotFoundError (message : String) : SecretFault := .securityError "SECRET_NOT_FOUND" message 404

def secretRevokedError (message : String) : SecretFault := .securityError "SECRET_REVOKED" message 403

def secretExpiredError (message : String) : SecretFault := .securityError "SECRET_EXPIRED" message 403

def rotationValidationFailedError (message : String) : SecretFault :=
  .securityError "ROTATION_VALIDATION_FAILED" message 422

def brokerUnavailableError (message : String) : SecretFault := .securityError "BROKER_UNAVAILABLE" message 503

def scopeExpansionDeniedError (message : String) : SecretFault := .securityError "SCOPE_EXPANSION_DENIED" message 403

def secretAccessDeniedError (message : String) : SecretFault := .securityError "SECRET_ACCESS_DENIED" message 403

structure SecretReference where
  value : String
  deriving DecidableEq

structure EnvelopeEncryptedSecret where
  ciphertextB64 : String
  nonceB64 : String
  tagHex : String
  wrappedDekB64 : String
  kekId : String
  algorithm : String := "AES-256-GCM"
  version : Int := 1
  createdAt : UtcDateTime

/-- The texts of one encryption. -/
structure SealedTexts where
  ciphertextB64 : String
  nonceB64 : String
  tagHex : String
  wrappedDekB64 : String

/-- The ciphers of the envelope service, `sha256` and `repr`. Random bytes are the number of
the draw they come from. -/
structure BrokerLibrary where
  encipher : String → List UInt8 → String → Int → Nat → SealedTexts
  decrypt : EnvelopeEncryptedSecret → List UInt8 → Except SecretFault String
  sha256 : String → String
  repr : String → String

/-- What one call reads of the clock and of the random source. -/
structure SecretReadings where
  now : UtcDateTime
  draw : Nat
  autoKek : Vector UInt8 32
  tokenHex : String

def encrypt (lib : BrokerLibrary) (plaintext : String) (kek : List UInt8) (kekId : String) (version : Int)
    (readings : SecretReadings) : Except SecretFault EnvelopeEncryptedSecret :=
  if kek.length < 16 then .error (.raised .valueError "KEK must be at least 16 bytes")
  else
    let texts := lib.encipher plaintext kek kekId version readings.draw
    .ok {
      ciphertextB64 := texts.ciphertextB64
      nonceB64 := texts.nonceB64
      tagHex := texts.tagHex
      wrappedDekB64 := texts.wrappedDekB64
      kekId := kekId
      version := version
      createdAt := readings.now }

structure EphemeralProviderToken where
  token : String
  tokenType : String := "Bearer"
  expiresAt : UtcDateTime
  grantedScope : String
  audience : String
  tenantId : TenantId
  secretRef : SecretReference
  issuedAt : UtcDateTime

/-- The timestamps are compared as doubles. -/
def EphemeralProviderToken.isExpired (token : EphemeralProviderToken) (asOf : UtcDateTime) : Bool :=
  toDouble (token.expiresAt.micros / 1000000) ≤ toDouble (asOf.micros / 1000000)

structure SecretRecord where
  secretRef : SecretReference
  tenantId : TenantId
  providerName : String
  grantedScopes : List String
  allowedAudiences : List String
  envelope : EnvelopeEncryptedSecret
  previousEnvelope : Option EnvelopeEncryptedSecret := none
  status : SecretLifecycleStatus := .active
  createdAt : UtcDateTime
  updatedAt : UtcDateTime

structure CredentialBroker where
  defaultTtlSeconds : Int
  secrets : Dict String SecretRecord := .empty
  tenantKeks : Dict TenantId (List UInt8 × String) := .empty
  tokenCache : Dict String EphemeralProviderToken := .empty
  outageMode : Bool := false
  scrubRegistry : List String := []
  ttlAccepted : defaultTtlSeconds ≤ 3600

namespace CredentialBroker
variable (b : CredentialBroker)

def setOutage (enabled : Bool) : CredentialBroker := { b with outageMode := enabled }

def registerTenantKek (tenantId : TenantId) (kek : List UInt8) (kekId : Option String) (tokenHex : String) :
    CredentialBroker × String :=
  let kid :=
    match kekId with
    | some given => if given = "" then s!"kek_{tenantId.value}_{tokenHex}" else given
    | none => s!"kek_{tenantId.value}_{tokenHex}"
  ({ b with tenantKeks := b.tenantKeks.set tenantId (kek,kid) },kid)

def getTenantKek (tenantId : TenantId) (readings : SecretReadings) : CredentialBroker × (List UInt8 × String) :=
  match b.tenantKeks.get? tenantId with
  | some kek => (b,kek)
  | none =>
    let kek := (readings.autoKek.toList,s!"kek_{tenantId.value}_default")
    ({ b with tenantKeks := b.tenantKeks.set tenantId kek },kek)

/-- `_scrub_registry.add`, for a text that is not empty. -/
def track (plaintext : String) : CredentialBroker :=
  if plaintext = "" then b else { b with scrubRegistry := b.scrubRegistry.insert plaintext }

def putRecord (secretRef : SecretReference) (record : SecretRecord) : CredentialBroker :=
  { b with secrets := b.secrets.set secretRef.value record }

def registerSecret (lib : BrokerLibrary) (tenantId : TenantId) (secretRef : SecretReference)
    (plaintextSecret providerName : String) (grantedScopes allowedAudiences : List String) (readings : SecretReadings) :
    CredentialBroker × Except SecretFault SecretRecord :=
  let (b,kek) := b.getTenantKek tenantId readings
  match encrypt lib plaintextSecret kek.1 kek.2 1 readings with
  | .error fault => (b,.error fault)
  | .ok envelope =>
    let record : SecretRecord := {
      secretRef := secretRef
      tenantId := tenantId
      providerName := providerName
      grantedScopes := grantedScopes.dedup
      allowedAudiences := allowedAudiences.dedup
      envelope := envelope
      createdAt := readings.now
      updatedAt := readings.now }
    ((b.track plaintextSecret).putRecord secretRef record,.ok record)

def getSecretRecord (tenantId : TenantId) (secretRef : SecretReference) : Except SecretFault SecretRecord :=
  match b.secrets.get? secretRef.value with
  | none => .error (secretNotFoundError s!"Secret reference '{secretRef.value}' not found")
  | some record =>
    if record.tenantId ≠ tenantId then
      .error (secretAccessDeniedError "Cross-tenant secret resolution prohibited (INV-TEN-001)")
    else .ok record

/-- `re.split(r"[\s,]+", …)` without its empty parts. -/
def splitScopes (requiredScope : String) : List String :=
  ((requiredScope.toList.splitOnP (fun c => Text.isSpace c || c == ',')).map String.ofList).filter (· ≠ "")

/-- `sorted(texts)` as an f-string writes it. -/
def listText (lib : BrokerLibrary) (texts : List String) : String :=
  "[" ++ String.intercalate ", " ((sortedBy id texts).map lib.repr) ++ "]"

def cacheKey (tenantId : TenantId) (secretRef : SecretReference) (requiredScope audience : String) : String :=
  s!"{tenantId.value}:{secretRef.value}:{requiredScope}:{audience}"

/-- The token of a record that may be used, from the cache or new. -/
def issueToken (lib : BrokerLibrary) (record : SecretRecord) (tenantId : TenantId) (secretRef : SecretReference)
    (requiredScope audience : String) (now : UtcDateTime) (readings : SecretReadings) :
    CredentialBroker × Except SecretFault EphemeralProviderToken :=
  let key := cacheKey tenantId secretRef requiredScope audience
  match (b.tokenCache.get? key).filter (fun cached => !cached.isExpired now) with
  | some cached => (b,.ok cached)
  | none =>
    let (b,kek) := b.getTenantKek tenantId readings
    match lib.decrypt record.envelope kek.1 with
    | .error fault => (b,.error fault)
    | .ok _ =>
      let tokenHash := String.ofList ((lib.sha256 s!"{readings.tokenHex}:{key}:{now.isoformat}").toList.take 24)
      match now.plusSeconds b.defaultTtlSeconds with
      | none => (b,.error (.raised .overflowError "date value out of range"))
      | some expiresAt =>
        let token : EphemeralProviderToken := {
          token := s!"eph_{record.providerName}_{tokenHash}"
          expiresAt := expiresAt
          grantedScope := requiredScope
          audience := audience
          tenantId := tenantId
          secretRef := secretRef
          issuedAt := now }
        ({ b with tokenCache := b.tokenCache.set key token },.ok token)

def getScopedToken (lib : BrokerLibrary) (tenantId : TenantId) (secretRef : SecretReference)
    (requiredScope audience : String) (asOfTime : Option UtcDateTime) (readings : SecretReadings) :
    CredentialBroker × Except SecretFault EphemeralProviderToken :=
  if b.outageMode then
    (b,.error (brokerUnavailableError "Secret broker unavailable: secret store or KMS unreachable"))
  else
    match b.getSecretRecord tenantId secretRef with
    | .error fault => (b,.error fault)
    | .ok record =>
      if record.status = .revoked then
        (b,.error (secretRevokedError s!"Secret '{secretRef.value}' has been revoked"))
      else if record.status = .expired then
        (b,.error (secretExpiredError s!"Secret '{secretRef.value}' has expired"))
      else
        let excess := (splitScopes requiredScope).dedup.filter (fun scope => scope ∉ record.grantedScopes)
        if excess ≠ [] then
          (b,.error (scopeExpansionDeniedError ("Scope expansion denied: requested scope(s) " ++ listText lib excess ++
            " exceed granted permissions " ++ listText lib record.grantedScopes)))
        else if record.allowedAudiences ≠ [] ∧ audience ∉ record.allowedAudiences then
          (b,.error (scopeExpansionDeniedError (s!"Audience denied: target audience '{audience}' " ++
            "not in allowed audiences " ++ listText lib record.allowedAudiences)))
        else b.issueToken lib record tenantId secretRef requiredScope audience (asOfTime.getD readings.now) readings

def purgeCache (tenantId : Option TenantId) (secretRef : Option SecretReference) : CredentialBroker :=
  if tenantId = none ∧ secretRef = none then { b with tokenCache := .empty }
  else
    let matched (key : String) : Bool :=
      let parts := (key.toList.splitOn ':').map String.ofList
      let tVal := parts.headD ""
      let sVal := parts.getD 1 ""
      tenantId.all (fun tenantId => tenantId.value = tVal) && secretRef.all (fun secretRef => secretRef.value = sVal)
    { b with tokenCache := (b.tokenCache.keys.filter matched).foldl Dict.erase b.tokenCache }

/-- The texts of `_scrub_registry`: a set without the empty text. -/
structure RegisteredSecrets where
  values : List String
  nodup : values.Nodup
  solid : "" ∉ values

/-- What `track` registers is such a set. -/
def trackedSecrets (nodup : b.scrubRegistry.Nodup) (solid : "" ∉ b.scrubRegistry) (plaintext : String) : RegisteredSecrets where
  values := (b.track plaintext).scrubRegistry
  nodup := by
    rw [track]
    split
    · exact nodup
    · exact nodup.insert
  solid := by
    rw [track]
    split
    · exact solid
    next some =>
      rw [List.mem_insert_iff,not_or]
      exact ⟨Ne.symm some,solid⟩

def redactedSecret : String := "[REDACTED_SECRET]"

/-- `order` is the order in which the set is read. -/
def scrubText (order : List String) (text : String) : String :=
  order.foldl (fun scrubbed secretVal =>
    if secretVal ≠ "" && Text.contains scrubbed secretVal then Text.replace scrubbed secretVal redactedSecret
    else scrubbed) text

/-- In whatever order the set is read, no registered secret is left, and the text is the
same. -/
structure Scrubs (secrets : RegisteredSecrets) (text : String) : Prop where
  clean : ∀ order, order.Perm secrets.values → ∀ secret ∈ secrets.values,
    Text.contains (scrubText order text) secret = false
  sameText : ∀ order order', order.Perm secrets.values → order'.Perm secrets.values →
    scrubText order text = scrubText order' text

/-- The text reads as registered secrets and the characters between them: whichever secrets
have been replaced, another one begins in its own pieces only, and none is left at last. -/
def SetApart (secrets : RegisteredSecrets) (text : String) : Prop :=
  Replacement.Settled redactedSecret.toList (secrets.values.map String.toList) text.toList

/-- No secret overlaps the marker, or one lies inside it, or there is only one. -/
def MarkerDecides (secrets : RegisteredSecrets) : Prop :=
  (∀ secret ∈ secrets.values, ¬ Text.Meets secret.toList redactedSecret.toList) ∨
    (∃ secret ∈ secrets.values, Text.contains redactedSecret secret = true) ∨ ∃ secret, secrets.values = [secret]

section scrubText
variable {secrets : RegisteredSecrets} {order : List String} {text : String}

theorem toList_scrubText (solid : "" ∉ order) (text : String) :
    (scrubText order text).toList =
      Replacement.replaceEach redactedSecret.toList (order.map String.toList) text.toList := by
  induction order generalizing text with
  | nil => rfl
  | cons secretVal order ih =>
    rw [List.mem_cons,not_or] at solid
    rw [scrubText,List.foldl_cons,← scrubText,ih solid.2,List.map_cons,Replacement.replaceEach,Replacement.replaceEach,
      List.foldl_cons]
    congr 1
    split
    next => rw [Replacement.replace_eq,String.toList_ofList]
    next skipped =>
      have absent : Text.contains text secretVal = false := by simpa [Ne.symm solid.1] using skipped
      exact (Replacement.replaceAll_free (of_decide_eq_false absent)).symm

theorem RegisteredSecrets.words (secrets : RegisteredSecrets) : Replacement.Words (secrets.values.map String.toList) where
  nodup := secrets.nodup.map (fun _ _ same => String.toList_injective same)
  solid := by
    intro word inside
    obtain ⟨secret,known,rfl⟩ := List.mem_map.mp inside
    intro empty
    have none : secret = "" := String.toList_injective empty
    exact secrets.solid (none ▸ known)

theorem toList_scrubText_perm (perm : order.Perm secrets.values) (text : String) :
    (scrubText order text).toList =
      Replacement.replaceEach redactedSecret.toList (order.map String.toList) text.toList :=
  toList_scrubText (fun inside => secrets.solid (perm.subset inside)) text

/-- The orders of a set of secrets are the orders of their characters. -/
theorem order_of_words {words : List (List Char)} (perm : words.Perm (secrets.values.map String.toList)) :
    ∃ order : List String, order.Perm secrets.values ∧ words = order.map String.toList := by
  refine ⟨words.map String.ofList,?_,by simp⟩
  have same := perm.map String.ofList
  simpa using same

theorem scrubs_iff_cleans :
    Scrubs secrets text ↔
      Replacement.Cleans redactedSecret.toList (secrets.values.map String.toList) text.toList := by
  constructor
  · rintro ⟨clean,sameText⟩
    constructor
    · intro words perm word inside
      obtain ⟨order,read,rfl⟩ := order_of_words perm
      obtain ⟨secret,known,rfl⟩ := List.mem_map.mp inside
      have free := of_decide_eq_false (clean order read secret known)
      rwa [toList_scrubText_perm read] at free
    · intro words words' perm perm'
      obtain ⟨order,read,rfl⟩ := order_of_words perm
      obtain ⟨order',read',rfl⟩ := order_of_words perm'
      rw [← toList_scrubText_perm read,← toList_scrubText_perm read',sameText order order' read read']
  · rintro ⟨free,agrees⟩
    constructor
    · intro order perm secret inside
      have gone := free _ (perm.map String.toList) _ (List.mem_map_of_mem inside)
      rw [← toList_scrubText_perm perm] at gone
      exact decide_eq_false gone
    · intro order order' perm perm'
      apply String.toList_injective
      rw [toList_scrubText_perm perm,toList_scrubText_perm perm']
      exact agrees _ _ (perm.map String.toList) (perm'.map String.toList)

theorem redactedSecret_unbordered : Replacement.Unbordered redactedSecret.toList := by decide

/-- Scrubbing is clean and does not depend on the order in texts whose secrets are set
apart, and, where the marker decides, in no others. -/
theorem scrubs_of_setApart (secrets : RegisteredSecrets) (text : String) :
    (SetApart secrets text → Scrubs secrets text) ∧
      (MarkerDecides secrets → Scrubs secrets text → SetApart secrets text) := by
  constructor
  · intro apart
    exact scrubs_iff_cleans.mpr (apart.cleans secrets.words)
  · intro decides scrubs
    apply (scrubs_iff_cleans.mp scrubs).settled redactedSecret_unbordered (by decide) secrets.words
    rcases decides with apart | ⟨secret,inside,within⟩ | ⟨secret,single⟩
    · refine .inl fun word inside => ?_
      obtain ⟨secret,known,rfl⟩ := List.mem_map.mp inside
      exact apart secret known
    · exact .inr (.inl ⟨secret.toList,List.mem_map_of_mem inside,of_decide_eq_true within⟩)
    · exact .inr (.inr ⟨secret.toList,by rw [single]; rfl⟩)

theorem quarter_accepted : (900 : Int) ≤ 3600 := by decide

def emptyBroker : CredentialBroker where
  defaultTtlSeconds := 900
  ttlAccepted := quarter_accepted

/-- A secret and the one that it was rotated to. -/
def rotatedSecrets : RegisteredSecrets :=
  trackedSecrets (emptyBroker.track "s3cr3t") (by decide) (by decide) "s3cr3t-2"

def markerSecret : RegisteredSecrets where
  values := ["SECRET"]
  nodup := by decide
  solid := by decide

/-- A secret that begins with another one is cut short where that one goes first, and a
secret that is a part of the marker is written by the marker. -/
theorem scrubText_keeps_secret :
    scrubText ["s3cr3t","s3cr3t-2"] "key=s3cr3t-2" = "key=[REDACTED_SECRET]-2" ∧
      scrubText ["s3cr3t-2","s3cr3t"] "key=s3cr3t-2" = "key=[REDACTED_SECRET]" ∧
      scrubText ["SECRET"] "SECRET" = "[REDACTED_SECRET]" ∧
      ¬ Scrubs rotatedSecrets "key=s3cr3t-2" ∧ ¬ Scrubs markerSecret "SECRET" := by
  have shortFirst : scrubText ["s3cr3t","s3cr3t-2"] "key=s3cr3t-2" = "key=[REDACTED_SECRET]-2" := by decide
  have longFirst : scrubText ["s3cr3t-2","s3cr3t"] "key=s3cr3t-2" = "key=[REDACTED_SECRET]" := by decide
  have marked : scrubText ["SECRET"] "SECRET" = "[REDACTED_SECRET]" := by decide
  refine ⟨shortFirst,longFirst,marked,?_,?_⟩
  · rintro ⟨_,sameText⟩
    have read : rotatedSecrets.values = ["s3cr3t-2","s3cr3t"] := by decide
    have same := sameText ["s3cr3t","s3cr3t-2"] ["s3cr3t-2","s3cr3t"] (read ▸ List.Perm.swap _ _ _) (read ▸ List.Perm.refl _)
    rw [shortFirst,longFirst] at same
    exact absurd same (by decide)
  · rintro ⟨clean,_⟩
    have gone := clean ["SECRET"] (List.Perm.refl _) "SECRET" List.mem_cons_self
    rw [marked] at gone
    exact absurd gone (by decide)

def tokenSecrets : RegisteredSecrets where
  values := ["tok-a","tok-b"]
  nodup := by decide
  solid := by decide

theorem tokenSecrets_apart : ∀ secret ∈ tokenSecrets.values, ¬ Text.Meets secret.toList redactedSecret.toList := by
  intro secret inside
  rcases List.mem_cons.mp inside with rfl | inside
  · exact Text.not_meets_of_disjoint (List.cons_ne_nil _ _) (List.cons_ne_nil _ _) (Text.chars_of_all rfl)
  · obtain rfl := List.mem_singleton.mp inside
    exact Text.not_meets_of_disjoint (List.cons_ne_nil _ _) (List.cons_ne_nil _ _) (Text.chars_of_all rfl)

theorem tokenSecrets_settled : SetApart tokenSecrets "tok-a,tok-b" := by
  have separated : Replacement.Separated (tokenSecrets.values.map String.toList) "tok-a,tok-b".toList := by
    have second : Replacement.Separated (tokenSecrets.values.map String.toList) ("tok-b".toList ++ []) :=
      .cut (by decide) (by decide) .nil
    have comma : Replacement.Separated (tokenSecrets.values.map String.toList) (',' :: ("tok-b".toList ++ [])) :=
      .keep (by decide) second
    have first : Replacement.Separated (tokenSecrets.values.map String.toList)
        ("tok-a".toList ++ (',' :: ("tok-b".toList ++ []))) := .cut (by decide) (by decide) comma
    exact first
  apply separated.settled
  refine { tokenSecrets.words with apart := ?_ }
  intro word inside
  obtain ⟨secret,known,rfl⟩ := List.mem_map.mp inside
  exact tokenSecrets_apart secret known

theorem tokenSecrets_scrubbed :
    Scrubs tokenSecrets "tok-a,tok-b" ∧ SetApart tokenSecrets "tok-a,tok-b" := by
  have scrubbed := (scrubs_of_setApart tokenSecrets "tok-a,tok-b").1 tokenSecrets_settled
  exact ⟨scrubbed,(scrubs_of_setApart tokenSecrets "tok-a,tok-b").2 (.inl tokenSecrets_apart) scrubbed⟩

end scrubText

end CredentialBroker
end RevPilot.Security
