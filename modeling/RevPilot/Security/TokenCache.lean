import RevPilot.Library.Runs
import RevPilot.Library.Separators
import RevPilot.Security.Rotation

/-! The token cache of the broker over its runs. Its keys join tenant, reference, scope and
audience with colons, and only a tenant is known to contain none. -/
namespace RevPilot.Security
open Library Shared Runs

inductive TokenOp : Type
  | registerSecret (tenantId : TenantId) (secretRef : SecretReference) (plaintextSecret providerName : String)
      (grantedScopes allowedAudiences : List String) (readings : SecretReadings)
  | getScopedToken (tenantId : TenantId) (secretRef : SecretReference) (requiredScope audience : String)
      (asOfTime : Option UtcDateTime) (readings : SecretReadings)
  | purgeCache (tenantId : Option TenantId) (secretRef : Option SecretReference)
  | registerTenantKek (tenantId : TenantId) (kek : List UInt8) (kekId : Option String) (tokenHex : String)
  | setOutage (enabled : Bool)

namespace CredentialBroker
variable (lib : BrokerLibrary) (b : CredentialBroker)

/-- The constructor. -/
def create (defaultTtlSeconds : Int) : CredentialBroker where
  defaultTtlSeconds := min defaultTtlSeconds 3600
  ttlAccepted := min_le_right _ _

def apply : TokenOp → CredentialBroker
  | .registerSecret tenantId secretRef plaintextSecret providerName grantedScopes allowedAudiences readings =>
    (b.registerSecret lib tenantId secretRef plaintextSecret providerName grantedScopes allowedAudiences readings).1
  | .getScopedToken tenantId secretRef requiredScope audience asOfTime readings =>
    (b.getScopedToken lib tenantId secretRef requiredScope audience asOfTime readings).1
  | .purgeCache tenantId secretRef => b.purgeCache tenantId secretRef
  | .registerTenantKek tenantId kek kekId tokenHex => (b.registerTenantKek tenantId kek kekId tokenHex).1
  | .setOutage enabled => b.setOutage enabled

/-- The checks in front of the cache. -/
def Admits (tenantId : TenantId) (secretRef : SecretReference) (requiredScope audience : String) : Prop :=
  b.outageMode = false ∧ ∃ record, b.getSecretRecord tenantId secretRef = .ok record ∧
    record.status ≠ .revoked ∧ record.status ≠ .expired ∧
    (∀ scope ∈ splitScopes requiredScope, scope ∈ record.grantedScopes) ∧
    (record.allowedAudiences = [] ∨ audience ∈ record.allowedAudiences)

/-- The token that the cache has for a call. -/
def cached (tenantId : TenantId) (secretRef : SecretReference) (requiredScope audience : String) (now : UtcDateTime) :
    Option EphemeralProviderToken :=
  (b.tokenCache.get? (cacheKey tenantId secretRef requiredScope audience)).filter (fun cached => !cached.isExpired now)

end CredentialBroker

/-- The token is for this tenant, reference, scope and audience. -/
structure EphemeralProviderToken.IsFor (token : EphemeralProviderToken) (tenantId : TenantId)
    (secretRef : SecretReference) (requiredScope audience : String) : Prop where
  tenantId : token.tenantId = tenantId
  secretRef : token.secretRef = secretRef
  grantedScope : token.grantedScope = requiredScope
  audience : token.audience = audience

/-- The text that the fields of a token join to. -/
def EphemeralProviderToken.key (token : EphemeralProviderToken) : String :=
  CredentialBroker.cacheKey token.tenantId token.secretRef token.grantedScope token.audience

/-- A purge for this tenant and this reference is for the token. -/
def Covers (tenantId : Option TenantId) (secretRef : Option SecretReference) (token : EphemeralProviderToken) : Prop :=
  (∀ asked ∈ tenantId, token.tenantId = asked) ∧ ∀ asked ∈ secretRef, token.secretRef = asked

section broker
variable {lib : BrokerLibrary} {b : CredentialBroker} {tenantId : TenantId} {secretRef : SecretReference}
  {requiredScope audience : String} {readings : SecretReadings}

theorem getTenantKek_tokenCache : (b.getTenantKek tenantId readings).1.tokenCache = b.tokenCache := by
  unfold CredentialBroker.getTenantKek
  cases b.tenantKeks.get? tenantId with
  | some kek => rfl
  | none => rfl

theorem registerSecret_tokenCache {plaintextSecret providerName : String} {grantedScopes allowedAudiences : List String} :
    (b.registerSecret lib tenantId secretRef plaintextSecret providerName grantedScopes allowedAudiences
      readings).1.tokenCache = b.tokenCache := by
  have keks := @getTenantKek_tokenCache b tenantId readings
  have tracked (b : CredentialBroker) : (b.track plaintextSecret).tokenCache = b.tokenCache := by
    unfold CredentialBroker.track
    split <;> rfl
  unfold CredentialBroker.registerSecret
  dsimp only
  split
  · exact keks
  · exact (tracked _).trans keks

/-- A call fails in front of the cache, is served from it, or gets a new token for its own fields. -/
theorem getScopedToken_cases (lib : BrokerLibrary) (b : CredentialBroker) (tenantId : TenantId)
    (secretRef : SecretReference) (requiredScope audience : String) (asOfTime : Option UtcDateTime)
    (readings : SecretReadings) :
    (∃ fault after, b.getScopedToken lib tenantId secretRef requiredScope audience asOfTime readings =
        (after,.error fault) ∧ after.tokenCache = b.tokenCache ∧
        (b.Admits tenantId secretRef requiredScope audience →
          b.cached tenantId secretRef requiredScope audience (asOfTime.getD readings.now) = none)) ∨
    (∃ token, b.Admits tenantId secretRef requiredScope audience ∧
      b.cached tenantId secretRef requiredScope audience (asOfTime.getD readings.now) = some token ∧
      b.getScopedToken lib tenantId secretRef requiredScope audience asOfTime readings = (b,.ok token)) ∨
    ∃ token after, b.cached tenantId secretRef requiredScope audience (asOfTime.getD readings.now) = none ∧
      b.getScopedToken lib tenantId secretRef requiredScope audience asOfTime readings = (after,.ok token) ∧
      token.IsFor tenantId secretRef requiredScope audience ∧
      after.tokenCache = b.tokenCache.set (CredentialBroker.cacheKey tenantId secretRef requiredScope audience) token := by
  have refused {fault : SecretFault} (barred : ¬ b.Admits tenantId secretRef requiredScope audience) :
      ∃ fault' after, (b,(.error fault : Except SecretFault EphemeralProviderToken)) = (after,.error fault') ∧
        after.tokenCache = b.tokenCache ∧ (b.Admits tenantId secretRef requiredScope audience →
          b.cached tenantId secretRef requiredScope audience (asOfTime.getD readings.now) = none) :=
    ⟨fault,b,rfl,rfl,fun admits => absurd admits barred⟩
  unfold CredentialBroker.getScopedToken
  by_cases outage : b.outageMode = true
  · rw [if_pos outage]
    exact .inl (refused (fun admits => by simp [admits.1] at outage))
  · rw [if_neg outage]
    cases known : b.getSecretRecord tenantId secretRef with
    | error fault =>
      refine .inl (refused ?_)
      rintro ⟨_,record,found,_⟩
      rw [known] at found
      cases found
    | ok record =>
      have admits_iff : b.Admits tenantId secretRef requiredScope audience ↔
          record.status ≠ .revoked ∧ record.status ≠ .expired ∧
            (∀ scope ∈ CredentialBroker.splitScopes requiredScope, scope ∈ record.grantedScopes) ∧
            (record.allowedAudiences = [] ∨ audience ∈ record.allowedAudiences) := by
        unfold CredentialBroker.Admits
        simp [known,outage]
      dsimp only
      by_cases revoked : record.status = .revoked
      · rw [if_pos revoked]
        exact .inl (refused (fun admits => (admits_iff.mp admits).1 revoked))
      rw [if_neg revoked]
      by_cases expired : record.status = .expired
      · rw [if_pos expired]
        exact .inl (refused (fun admits => (admits_iff.mp admits).2.1 expired))
      rw [if_neg expired]
      have granted : (CredentialBroker.splitScopes requiredScope).dedup.filter (fun scope => scope ∉ record.grantedScopes) = [] ↔
          ∀ scope ∈ CredentialBroker.splitScopes requiredScope, scope ∈ record.grantedScopes := by
        simp [List.filter_eq_nil_iff]
      by_cases excess : (CredentialBroker.splitScopes requiredScope).dedup.filter (fun scope => scope ∉ record.grantedScopes) = []
      · rw [if_neg (not_not_intro excess)]
        by_cases audiences : record.allowedAudiences ≠ [] ∧ audience ∉ record.allowedAudiences
        · rw [if_pos audiences]
          refine .inl (refused ?_)
          intro admits
          rcases (admits_iff.mp admits).2.2.2 with none | named
          · exact audiences.1 none
          · exact audiences.2 named
        · rw [if_neg audiences]
          have admits : b.Admits tenantId secretRef requiredScope audience :=
            admits_iff.mpr ⟨revoked,expired,granted.mp excess,by tauto⟩
          have keks := @getTenantKek_tokenCache b tenantId readings
          unfold CredentialBroker.issueToken
          dsimp only
          cases found : (b.tokenCache.get? (CredentialBroker.cacheKey tenantId secretRef requiredScope audience)).filter
              (fun cached => !cached.isExpired (asOfTime.getD readings.now)) with
          | some token => exact .inr (.inl ⟨token,admits,found,rfl⟩)
          | none =>
            dsimp only
            split
            · exact .inl ⟨_,_,rfl,keks,fun _ => found⟩
            · split
              · exact .inl ⟨_,_,rfl,keks,fun _ => found⟩
              · exact .inr (.inr ⟨_,_,found,rfl,⟨rfl,rfl,rfl,rfl⟩,by rw [keks]⟩)
      · rw [if_pos excess]
        exact .inl (refused (fun admits => excess (granted.mpr (admits_iff.mp admits).2.2.1)))

theorem cacheKey_chars (tenantId : TenantId) (secretRef : SecretReference) (requiredScope audience : String) :
    (CredentialBroker.cacheKey tenantId secretRef requiredScope audience).toList =
      tenantId.value.toList ++ ':' :: (secretRef.value.toList ++ ':' :: (requiredScope.toList ++ ':' :: audience.toList)) := by
  have text : CredentialBroker.cacheKey tenantId secretRef requiredScope audience =
      tenantId.value ++ ":" ++ secretRef.value ++ ":" ++ requiredScope ++ ":" ++ audience := by
    simp [CredentialBroker.cacheKey]
    rfl
  rw [text]
  simp

/-- The keys that a purge takes out. -/
def purgedKey (tenantId : Option TenantId) (secretRef : Option SecretReference) (key : String) : Bool :=
  let parts := (key.toList.splitOn ':').map String.ofList
  tenantId.all (fun tenantId => tenantId.value = parts.headD "") &&
    secretRef.all (fun secretRef => secretRef.value = parts.getD 1 "")

theorem purgeCache_get? (tenantId : Option TenantId) (secretRef : Option SecretReference) (key : String) :
    (b.purgeCache tenantId secretRef).tokenCache.get? key =
      if purgedKey tenantId secretRef key then none else b.tokenCache.get? key := by
  have erased (keys : List String) (d : Dict String EphemeralProviderToken) :
      (keys.foldl Dict.erase d).get? key = if key ∈ keys then none else d.get? key := by
    induction keys generalizing d with
    | nil => simp
    | cons k keys ih =>
      rw [List.foldl_cons,ih,Dict.get?_erase]
      by_cases same : key = k
      · simp [same]
      · simp [same]
  unfold CredentialBroker.purgeCache
  by_cases all : tenantId = none ∧ secretRef = none
  · obtain ⟨rfl,rfl⟩ := all
    simp [purgedKey]
  · rw [if_neg all]
    dsimp only
    rw [erased]
    change (if key ∈ b.tokenCache.keys.filter (purgedKey tenantId secretRef) then none else _) = _
    simp only [List.mem_filter]
    by_cases purged : purgedKey tenantId secretRef key = true
    · rw [if_pos purged]
      by_cases known : key ∈ b.tokenCache.keys
      · rw [if_pos ⟨known,purged⟩]
      · rw [if_neg (fun both => known both.1)]
        by_contra stored
        exact known ((Dict.mem_keys_iff _ _).mpr stored)
    · rw [if_neg purged,if_neg (fun both => purged both.2)]

/-- A purge takes out the tokens it is for, if the named reference contains no colon. -/
theorem purgedKey_covers {asked : Option TenantId} {named : Option SecretReference} {token : EphemeralProviderToken}
    (free : ∀ secretRef ∈ named, ':' ∉ secretRef.value.toList) (covers : Covers asked named token) :
    purgedKey asked named token.key = true := by
  unfold purgedKey
  dsimp only
  rw [EphemeralProviderToken.key,cacheKey_chars,List.splitOn_append_cons_self_of_not_mem (identifier_free token.tenantId)]
  rw [Bool.and_eq_true]
  constructor
  · cases asked with
    | none => rfl
    | some tenantId => simp [covers.1 tenantId rfl]
  · cases named with
    | none => rfl
    | some secretRef =>
      have same := covers.2 secretRef rfl
      rw [same,List.splitOn_append_cons_self_of_not_mem (free secretRef rfl)]
      simp

/-- A reference with a colon is never found again in a key. -/
theorem purgedKey_missed {asked : Option TenantId} {named : Option SecretReference} {token : EphemeralProviderToken}
    {secretRef : SecretReference} (given : secretRef ∈ named) (covers : Covers asked named token)
    (colon : ':' ∈ secretRef.value.toList) : purgedKey asked named token.key = false := by
  obtain rfl : named = some secretRef := given
  obtain ⟨first,rest,split,free⟩ := List.eq_append_cons_of_mem colon
  have same := covers.2 secretRef rfl
  unfold purgedKey
  dsimp only
  rw [EphemeralProviderToken.key,cacheKey_chars,
    List.splitOn_append_cons_self_of_not_mem (identifier_free token.tenantId),same,split,List.append_assoc,
    List.cons_append,List.splitOn_append_cons_self_of_not_mem free]
  rw [Bool.and_eq_false_iff]
  right
  simp only [List.map_cons,List.getD_cons_succ,List.getD_cons_zero,Option.all_some,decide_eq_false_iff_not]
  intro whole
  have chars := congrArg String.toList whole
  rw [split,String.toList_ofList] at chars
  exact absurd (congrArg List.length chars) (by simp)

end broker

section runs
variable (lib : BrokerLibrary)

def brokerStep (b : CredentialBroker) (op : TokenOp) : CredentialBroker := b.apply lib op

/-- The call returns the token. -/
def Returns (b : CredentialBroker) (op : TokenOp) (token : EphemeralProviderToken) : Prop :=
  match op with
  | .getScopedToken tenantId secretRef requiredScope audience asOfTime readings =>
    (b.getScopedToken lib tenantId secretRef requiredScope audience asOfTime readings).2 = .ok token
  | _ => False

/-- The call returns the token, and not from the cache. -/
def Mints (b : CredentialBroker) (op : TokenOp) (token : EphemeralProviderToken) : Prop :=
  match op with
  | .getScopedToken tenantId secretRef requiredScope audience asOfTime readings =>
    (b.getScopedToken lib tenantId secretRef requiredScope audience asOfTime readings).2 = .ok token ∧
      b.cached tenantId secretRef requiredScope audience (asOfTime.getD readings.now) = none
  | _ => False

/-- A returned token carries what the call asked for. -/
def AnswersOwn (b : CredentialBroker) (op : TokenOp) : Prop :=
  match op with
  | .getScopedToken tenantId secretRef requiredScope audience _ _ =>
    ∀ token, Returns lib b op token → token.IsFor tenantId secretRef requiredScope audience
  | _ => True

/-- No token that a purge is for is left in the cache. -/
def PurgesAll (b : CredentialBroker) (op : TokenOp) : Prop :=
  match op with
  | .purgeCache tenantId secretRef =>
    ∀ key token, (b.purgeCache tenantId secretRef).tokenCache.get? key = some token → ¬ Covers tenantId secretRef token
  | _ => True

/-- A token returned after a purge that is for it was minted after that purge. -/
def NeverStale (start : CredentialBroker) (ops : List TokenOp) : Prop :=
  ∀ pre tenantId secretRef mid op post token, ops = pre ++ .purgeCache tenantId secretRef :: (mid ++ op :: post) →
    Covers tenantId secretRef token →
    Returns lib (run (brokerStep lib) start (pre ++ .purgeCache tenantId secretRef :: mid)) op token →
    ∃ later mint rest, mid ++ [op] = later ++ mint :: rest ∧
      Mints lib (run (brokerStep lib) start (pre ++ .purgeCache tenantId secretRef :: later)) mint token

/-- If the call gets to the cache, no unexpired token there joins to the same text from
other fields. -/
def Unambiguous (b : CredentialBroker) (op : TokenOp) : Prop :=
  match op with
  | .getScopedToken tenantId secretRef requiredScope audience asOfTime readings =>
    b.Admits tenantId secretRef requiredScope audience →
      ∀ key token, b.tokenCache.get? key = some token → token.isExpired (asOfTime.getD readings.now) = false →
        token.key = CredentialBroker.cacheKey tenantId secretRef requiredScope audience →
        token.IsFor tenantId secretRef requiredScope audience
  | _ => True

/-- If the named reference contains a colon, no cached token is for the purge. -/
def PlainlyNamed (b : CredentialBroker) (op : TokenOp) : Prop :=
  match op with
  | .purgeCache tenantId secretRef =>
    ∀ named ∈ secretRef, ':' ∈ named.value.toList →
      ∀ key token, b.tokenCache.get? key = some token → ¬ Covers tenantId secretRef token
  | _ => True

/-- Every cached token is stored under the text of its own fields. -/
def OwnKeys (b : CredentialBroker) : Prop := ∀ key token, b.tokenCache.get? key = some token → token.key = key

variable {lib} {b : CredentialBroker} {op : TokenOp}

/-- What a call leaves in the cache was there or is minted. -/
theorem cached_origin {key : String} {token : EphemeralProviderToken}
    (stored : (brokerStep lib b op).tokenCache.get? key = some token) :
    (Mints lib b op token ∧ token.key = key) ∨ b.tokenCache.get? key = some token := by
  cases op with
  | registerSecret tenantId secretRef plaintextSecret providerName grantedScopes allowedAudiences readings =>
    have served : brokerStep lib b (.registerSecret tenantId secretRef plaintextSecret providerName grantedScopes
        allowedAudiences readings) = (b.registerSecret lib tenantId secretRef plaintextSecret providerName grantedScopes
        allowedAudiences readings).1 := rfl
    rw [served,registerSecret_tokenCache] at stored
    exact .inr stored
  | getScopedToken tenantId secretRef requiredScope audience asOfTime readings =>
    have served : brokerStep lib b (.getScopedToken tenantId secretRef requiredScope audience asOfTime readings) =
      (b.getScopedToken lib tenantId secretRef requiredScope audience asOfTime readings).1 := rfl
    rw [served] at stored
    rcases getScopedToken_cases lib b tenantId secretRef requiredScope audience asOfTime readings with
      ⟨_,_,result,same,_⟩ | ⟨_,_,_,result⟩ | ⟨fresh,_,absent,result,own,same⟩
    · rw [result,same] at stored
      exact .inr stored
    · rw [result] at stored
      exact .inr stored
    · rw [result,same,Dict.get?_set] at stored
      split at stored
      next here =>
        obtain rfl : fresh = token := Option.some.inj stored
        refine .inl ⟨⟨by rw [result],absent⟩,?_⟩
        rw [here,EphemeralProviderToken.key,own.tenantId,own.secretRef,own.grantedScope,own.audience]
      next => exact .inr stored
  | purgeCache tenantId secretRef =>
    right
    have served : brokerStep lib b (.purgeCache tenantId secretRef) = b.purgeCache tenantId secretRef := rfl
    rw [served,purgeCache_get?] at stored
    split at stored
    · cases stored
    · exact stored
  | registerTenantKek => exact .inr stored
  | setOutage => exact .inr stored

theorem ownKeys_step (own : OwnKeys b) : OwnKeys (brokerStep lib b op) := by
  intro key token stored
  rcases cached_origin stored with ⟨_,same⟩ | kept
  · exact same
  · exact own key token kept

theorem cached_some {tenantId : TenantId} {secretRef : SecretReference} {requiredScope audience : String}
    {now : UtcDateTime} {token : EphemeralProviderToken} :
    b.cached tenantId secretRef requiredScope audience now = some token ↔
      b.tokenCache.get? (CredentialBroker.cacheKey tenantId secretRef requiredScope audience) = some token ∧
        token.isExpired now = false := by
  simp [CredentialBroker.cached,Option.filter_eq_some_iff]

/-- An admitted call is served from the cache. -/
theorem returns_cached {tenantId : TenantId} {secretRef : SecretReference} {requiredScope audience : String}
    {asOfTime : Option UtcDateTime} {readings : SecretReadings} {token : EphemeralProviderToken}
    (admits : b.Admits tenantId secretRef requiredScope audience)
    (found : b.cached tenantId secretRef requiredScope audience (asOfTime.getD readings.now) = some token) :
    Returns lib b (.getScopedToken tenantId secretRef requiredScope audience asOfTime readings) token := by
  change (b.getScopedToken lib tenantId secretRef requiredScope audience asOfTime readings).2 = _
  rcases getScopedToken_cases lib b tenantId secretRef requiredScope audience asOfTime readings with
    ⟨_,_,_,_,absent⟩ | ⟨served,_,kept,result⟩ | ⟨_,_,absent,_⟩
  · rw [absent admits] at found
    cases found
  · rw [found] at kept
    obtain rfl : token = served := Option.some.inj kept
    rw [result]
  · rw [absent] at found
    cases found

theorem answersOwn_iff (own : OwnKeys b) : AnswersOwn lib b op ↔ Unambiguous b op := by
  cases op with
  | getScopedToken tenantId secretRef requiredScope audience asOfTime readings =>
    constructor
    · intro answers admits key token stored fresh same
      have found : b.cached tenantId secretRef requiredScope audience (asOfTime.getD readings.now) = some token := by
        rw [cached_some,← same,own key token stored]
        exact ⟨stored,fresh⟩
      exact answers token (returns_cached admits found)
    · intro unambiguous token returned
      change (b.getScopedToken lib tenantId secretRef requiredScope audience asOfTime readings).2 = _ at returned
      rcases getScopedToken_cases lib b tenantId secretRef requiredScope audience asOfTime readings with
        ⟨_,_,result,_⟩ | ⟨served,admits,kept,result⟩ | ⟨fresh,_,_,result,isFor,_⟩
      · rw [result] at returned
        cases returned
      · rw [result] at returned
        obtain rfl : served = token := Except.ok.inj returned
        have stored := cached_some.mp kept
        exact unambiguous admits _ served stored.1 stored.2 (own _ served stored.1)
      · rw [result] at returned
        obtain rfl : fresh = token := Except.ok.inj returned
        exact isFor
  | _ => exact Iff.rfl

theorem purgesAll_iff (own : OwnKeys b) : PurgesAll b op ↔ PlainlyNamed b op := by
  cases op with
  | purgeCache tenantId secretRef =>
    constructor
    · intro all named given colon key token stored covers
      refine all key token ?_ covers
      rw [purgeCache_get?,← own key token stored,purgedKey_missed given covers colon,own key token stored]
      exact stored
    · intro plain key token left covers
      rw [purgeCache_get?] at left
      split at left
      · cases left
      next kept =>
        have stored : b.tokenCache.get? key = some token := left
        have free : ∀ named ∈ secretRef, ':' ∉ named.value.toList :=
          fun named given colon => plain named given colon key token stored covers
        have purged := purgedKey_covers free covers
        rw [own key token stored] at purged
        exact kept purged
  | _ => exact Iff.rfl

theorem create_ownKeys (ttl : Int) : OwnKeys (.create ttl) := fun _ _ stored => nomatch stored

theorem run_ownKeys (ttl : Int) (ops : List TokenOp) : OwnKeys (run (brokerStep lib) (.create ttl) ops) :=
  stable_run (brokerStep lib) (fun _ _ => ownKeys_step) (create_ownKeys ttl) ops

/-- A token that is served after a complete purge comes from a later call. -/
theorem neverStale {start : CredentialBroker} {ops : List TokenOp} (complete : Along (brokerStep lib) PurgesAll start ops) :
    NeverStale lib start ops := by
  intro pre tenantId secretRef mid op post token split covers returned
  have after : ∀ key token, (run (brokerStep lib) start (pre ++ [.purgeCache tenantId secretRef])).tokenCache.get? key =
      some token → ¬ Covers tenantId secretRef token := by
    rw [run_concat]
    exact along_at (brokerStep lib) complete split
  have through (later : List TokenOp) : run (brokerStep lib) start (pre ++ .purgeCache tenantId secretRef :: later) =
      run (brokerStep lib) (run (brokerStep lib) start (pre ++ [.purgeCache tenantId secretRef])) later := by
    rw [← run_append]
    simp
  rw [through mid] at returned
  suffices found : ∃ later mint rest, mid ++ [op] = later ++ mint :: rest ∧ Mints lib (run (brokerStep lib)
      (run (brokerStep lib) start (pre ++ [.purgeCache tenantId secretRef])) later) mint token by
    obtain ⟨later,mint,rest,parts,mints⟩ := found
    refine ⟨later,mint,rest,parts,?_⟩
    rw [through later]
    exact mints
  generalize run (brokerStep lib) start (pre ++ [.purgeCache tenantId secretRef]) = b at after returned ⊢
  by_cases minted : Mints lib (run (brokerStep lib) b mid) op token
  · exact ⟨mid,op,[],rfl,minted⟩
  · have kept : ∃ key, (run (brokerStep lib) b mid).tokenCache.get? key = some token := by
      cases op with
      | getScopedToken tenantId secretRef requiredScope audience asOfTime readings =>
        rcases getScopedToken_cases lib (run (brokerStep lib) b mid) tenantId secretRef requiredScope audience asOfTime
            readings with ⟨_,_,result,_⟩ | ⟨served,_,found,result⟩ | ⟨_,_,absent,_⟩
        · have refused := returned
          simp only [Returns,result] at refused
          cases refused
        · have same := returned
          simp only [Returns,result] at same
          obtain rfl : served = token := Except.ok.inj same
          exact ⟨_,(cached_some.mp found).1⟩
        · exact absurd ⟨returned,absent⟩ minted
      | _ => exact returned.elim
    have origin (s : CredentialBroker) (op : TokenOp) (held : ∃ key, (brokerStep lib s op).tokenCache.get? key = some token) :
        Mints lib s op token ∨ ((∃ key, s.tokenCache.get? key = some token) ∧ ¬ False) := by
      obtain ⟨key,stored⟩ := held
      rcases cached_origin stored with ⟨minted,_⟩ | before
      · exact .inl minted
      · exact .inr ⟨⟨key,before⟩,id⟩
    have unheld : ¬ ∃ key, b.tokenCache.get? key = some token := by
      rintro ⟨key,stored⟩
      exact after key token stored covers
    obtain ⟨later,mint,rest,parts,mints,_⟩ := @started_before _ _ (brokerStep lib) (fun s op => Mints lib s op token)
      (fun _ _ => False) (fun s => ∃ key, s.tokenCache.get? key = some token) origin _ unheld _ kept
    exact ⟨later,mint,rest ++ [op],by rw [parts]; simp,mints⟩

/-- Over every run of a new broker: returned tokens carry what was asked for exactly if no call
finds another token under its own text, and a purge takes out all that it is for exactly if it
names no reference with a colon that has a token; then nothing stale is served. -/
theorem scoped_tokens_iff (lib : BrokerLibrary) (ttl : Int) (ops : List TokenOp) :
    (Along (brokerStep lib) (AnswersOwn lib) (.create ttl) ops ↔ Along (brokerStep lib) Unambiguous (.create ttl) ops) ∧
      (Along (brokerStep lib) PurgesAll (.create ttl) ops ↔ Along (brokerStep lib) PlainlyNamed (.create ttl) ops) ∧
      (Along (brokerStep lib) PlainlyNamed (.create ttl) ops → NeverStale lib (.create ttl) ops) := by
  have purges : Along (brokerStep lib) PurgesAll (.create ttl) ops ↔ Along (brokerStep lib) PlainlyNamed (.create ttl) ops := by
    rw [along_iff,along_iff]
    constructor
    · intro all pre op post split
      exact (purgesAll_iff (run_ownKeys ttl pre)).mp (all pre op post split)
    · intro all pre op post split
      exact (purgesAll_iff (run_ownKeys ttl pre)).mpr (all pre op post split)
  refine ⟨?_,purges,fun plain => neverStale (purges.mpr plain)⟩
  rw [along_iff,along_iff]
  constructor
  · intro all pre op post split
    exact (answersOwn_iff (run_ownKeys ttl pre)).mp (all pre op post split)
  · intro all pre op post split
    exact (answersOwn_iff (run_ownKeys ttl pre)).mpr (all pre op post split)

end runs

section examples

def acme : TenantId := ⟨"tnt_acme",Eq.refl true⟩

/-- A secret with its scopes and one token for it. -/
def tokenFor (secretRef : SecretReference) (requiredScope audience : String) : List TokenOp :=
  [.registerSecret acme secretRef "first" "salesforce" ["crm","crm:read"] [] (readingsAt 0),
    .getScopedToken acme secretRef requiredScope audience none (readingsAt 1)]

/-- The state of a run has an unexpired token under the text of a call. -/
theorem cached_of_decide {b : CredentialBroker} {tenantId : TenantId} {secretRef : SecretReference}
    {requiredScope audience : String} {now : UtcDateTime} {p : EphemeralProviderToken → Bool}
    (found : (b.cached tenantId secretRef requiredScope audience now).any p = true) :
    ∃ token, b.cached tenantId secretRef requiredScope audience now = some token ∧ p token = true := by
  simpa [Option.any_eq_true] using found

/-- The token that was issued first is served for other fields that join to the same text, and
a token for a reference with a colon outlives its purge. -/
theorem foreign_and_stale_served :
    (¬ Along (brokerStep plainLibrary) (AnswersOwn plainLibrary) (.create 900)
      (tokenFor crmSecret "crm:read" "api" ++ [.getScopedToken acme crmSecret "crm" "read:api" none (readingsAt 2)])) ∧
    ¬ NeverStale plainLibrary (.create 900) (tokenFor ⟨"vault:eu"⟩ "crm" "api" ++
      [.purgeCache none (some ⟨"vault:eu"⟩),.getScopedToken acme ⟨"vault:eu"⟩ "crm" "api" none (readingsAt 2)]) := by
  constructor
  · intro answers
    have last := @along_at _ _ (brokerStep plainLibrary) _ _ _ (tokenFor crmSecret "crm:read" "api") [] _ answers rfl
    rw [answersOwn_iff (run_ownKeys 900 _)] at last
    have admits : (run (brokerStep plainLibrary) (.create 900) (tokenFor crmSecret "crm:read" "api")).Admits acme crmSecret
        "crm" "read:api" := by
      refine ⟨rfl,_,rfl,by decide,by decide,by decide,.inl rfl⟩
    obtain ⟨token,found,scope⟩ := @cached_of_decide
      (run (brokerStep plainLibrary) (.create 900) (tokenFor crmSecret "crm:read" "api")) acme crmSecret "crm" "read:api" ⟨2⟩
      (fun token => token.grantedScope = "crm:read") (by decide +kernel)
    have stored := cached_some.mp found
    have own := last admits _ token stored.1 stored.2 (run_ownKeys 900 _ _ token stored.1)
    rw [own.grantedScope] at scope
    exact absurd scope (by decide)
  · intro never
    obtain ⟨token,found,covered⟩ := @cached_of_decide
      (run (brokerStep plainLibrary) (.create 900) (tokenFor ⟨"vault:eu"⟩ "crm" "api" ++
        [.purgeCache none (some ⟨"vault:eu"⟩)])) acme ⟨"vault:eu"⟩ "crm" "api" ⟨2⟩
      (fun token => token.secretRef = ⟨"vault:eu"⟩) (by decide +kernel)
    have admits : (run (brokerStep plainLibrary) (.create 900) (tokenFor ⟨"vault:eu"⟩ "crm" "api" ++
        [.purgeCache none (some ⟨"vault:eu"⟩)])).Admits acme ⟨"vault:eu"⟩ "crm" "api" := by
      refine ⟨rfl,_,rfl,by decide,by decide,by decide,.inl rfl⟩
    have covers : Covers none (some ⟨"vault:eu"⟩) token := by
      refine ⟨nofun,?_⟩
      rintro _ ⟨rfl⟩
      simpa using covered
    obtain ⟨later,mint,rest,parts,mints⟩ := never (tokenFor ⟨"vault:eu"⟩ "crm" "api") none (some ⟨"vault:eu"⟩) []
      (.getScopedToken acme ⟨"vault:eu"⟩ "crm" "api" none (readingsAt 2)) [] token rfl covers (returns_cached admits found)
    cases later with
    | nil =>
      obtain ⟨rfl,rfl⟩ := List.cons.inj parts
      cases mints.2.symm.trans found
    | cons op later => exact absurd (congrArg List.length parts) (by simp)

/-- Two secrets, a token for each, a purge of one and its next token. -/
theorem plain_references_separate : NeverStale plainLibrary (.create 900) (tokenFor crmSecret "crm:read" "api" ++
    [.purgeCache none (some crmSecret),.getScopedToken acme crmSecret "crm:read" "api" none (readingsAt 2)]) := by
  apply (scoped_tokens_iff plainLibrary 900 _).2.2
  rw [along_iff]
  intro pre op post split
  have member : op ∈ tokenFor crmSecret "crm:read" "api" ++
      [.purgeCache none (some crmSecret),.getScopedToken acme crmSecret "crm:read" "api" none (readingsAt 2)] := by
    rw [split]
    simp
  simp only [tokenFor,List.cons_append,List.nil_append,List.mem_cons,List.not_mem_nil,or_false] at member
  rcases member with rfl | rfl | rfl | rfl
  · trivial
  · trivial
  · rintro _ ⟨rfl⟩ colon
    exact absurd colon (by decide)
  · trivial

end examples
end RevPilot.Security
