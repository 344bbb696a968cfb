import RevPilot.Finops.Quota
import RevPilot.Identity.TokenVerifier
import RevPilot.Library.Text

/-! The validator of OIDC id tokens: its declared errors, what else escapes it, and its anti-replay
store. HMAC, `json.loads`, `str.upper` and the texts of values and floats are parameters, and so is
what the remote key provider answers. -/
namespace RevPilot.Iam
open Library JsonText Shared Approval Finops Identity

/-- The subclasses of `OidcValidationError`. -/
inductive OidcKind : Type
  | tokenExpired
  | invalidSignature
  | issuerMismatch
  | tokenReplay
  deriving DecidableEq

def OidcKind.code : OidcKind → String
  | .tokenExpired => "TOKEN_EXPIRED"
  | .invalidSignature => "INVALID_SIGNATURE"
  | .issuerMismatch => "ISSUER_MISMATCH"
  | .tokenReplay => "TOKEN_REPLAY"

inductive OidcDetail : Type
  | value (v : Tree)
  | seconds (x : FloatValue)

structure OidcValidationError where
  kind : OidcKind
  message : String
  details : List (String × OidcDetail) := []

/-- What a call can raise: a declared error, or any other exception. -/
inductive OidcFailure : Type
  | oidc (error : OidcValidationError)
  | other (error : PyError)

structure OidcLibrary where
  hmacSha256 : List UInt8 → List UInt8 → List UInt8
  loads : String → Except String Tree
  upper : String → String
  /-- `str` of a value that is no text. -/
  str : Tree → String
  reprFloat : FloatValue → String
  /-- The text of the exception that bytes raise which are no base64 or no UTF-8. -/
  undecodable : List UInt8 → String

structure OidcClaimMapping where
  groupToRole : List (String × String) :=
    [("SecOps_Admins","tenant_admin"),("Revenue_Analysts","analyst"),("General_Users","operator")]
  defaultRole : String := "operator"

structure OidcTenantConfiguration where
  tenantId : TenantId
  issuerUrl : String
  clientId : String
  allowedClockSkewSeconds : Int := 60
  claimMapping : OidcClaimMapping := {}

section floats

/-- `float(v)`. -/
def toFloat : Tree → Except PyError FloatValue
  | .bool b => .ok (.finite (if b then 1 else 0))
  | .int i =>
    match FloatValue.ofInt? i with
    | some x => .ok x
    | none => .error .overflowError
  | .float x => .ok x.value
  | .str s =>
    match FloatText.float? s with
    | some x => .ok x
    | none => .error .valueError
  | _ => .error .typeError

/-- `n` in the sum or difference of a float and an integer. -/
def asFloat (n : Int) : Except PyError FloatValue :=
  match FloatValue.ofInt? n with
  | some x => .ok x
  | none => .error .overflowError

/-- The microseconds that `datetime.fromtimestamp` rounds a float to: whole seconds, and the rest half to even
after a product of floats. -/
def microsOf (x : ℚ) : Int :=
  let seconds := x.num.tdiv x.den
  match FloatValue.nearest ((x - seconds) * 1000000) with
  | .finite rest => seconds * 1000000 + (if rest < 0 then -1 else 1) * (halfEven rest.num.natAbs rest.den : Int)
  | _ => seconds * 1000000

/-- `UtcDateTime(datetime.fromtimestamp(x, tz=timezone.utc))`. -/
def fromTimestamp : FloatValue → Except PyError UtcDateTime
  | .finite x =>
    let seconds := x.num.tdiv x.den
    if UtcDateTime.minMicros ≤ microsOf x ∧ microsOf x ≤ UtcDateTime.maxMicros then .ok ⟨microsOf x⟩
    else if seconds < -9223372036854775808 ∨ 9223372036854775808 ≤ seconds then .error .overflowError
    else if seconds < -67768040609740800 ∨ 67768036191676799 < seconds then .error (.runtime "OSError")
    else .error .valueError
  | .infinite _ => .error .overflowError
  | .nan => .error .valueError

end floats

section keys
variable (lib : OidcLibrary)

abbrev JwksKey := List (String × Tree)

structure JwksClient where
  cache : List (PyKey × JwksKey) := []
  fetchCount : Nat := 0

/-- The remote provider by its answer. -/
abbrev RemoteProvider := Option (Except PyError (List JwksKey))

/-- The loop of `refresh_keys`, which keeps what it has stored when it raises. -/
def storeKeys (cache : List (PyKey × JwksKey)) : List JwksKey → Except PyError Unit × List (PyKey × JwksKey)
  | [] => (.ok (),cache)
  | k :: remoteKeys =>
    let kid := Tree.getD k "kid" .null
    if kid.truthy then
      match kid.key? with
      | some key => storeKeys (setKey cache key k) remoteKeys
      | none => (.error .typeError,cache)
    else storeKeys cache remoteKeys

def JwksClient.refreshKeys (client : JwksClient) (remoteProvider : RemoteProvider) : Except PyError Unit × JwksClient :=
  match remoteProvider with
  | none => (.ok (),{ client with fetchCount := client.fetchCount + 1 })
  | some (.error e) => (.error e,{ client with fetchCount := client.fetchCount + 1 })
  | some (.ok remoteKeys) =>
    let stored := storeKeys client.cache remoteKeys
    (stored.1,{ cache := stored.2, fetchCount := client.fetchCount + 1 })

def JwksClient.getKey (client : JwksClient) (remoteProvider : RemoteProvider) (kid : Tree) :
    Except PyError (Option JwksKey) × JwksClient :=
  match hashed kid with
  | .error e => (.error e,client)
  | .ok key =>
    match Library.getKey client.cache key with
    | some k => (.ok (some k),client)
    | none =>
      let refreshed := client.refreshKeys remoteProvider
      (refreshed.1.map fun _ => Library.getKey refreshed.2.cache key,refreshed.2)

/-- `_b64url_encode`. -/
def b64urlEncode (data : List UInt8) : String :=
  String.ofList ((Bytes.ofAscii (Bytes.urlsafeEncode data)).toList.rdropWhile (· = '='))

/-- `_b64url_decode(encoded).decode("utf-8")`. -/
def b64urlDecode (encoded : String) : Except String String :=
  let rem := encoded.toList.length % 4
  let padded := if 0 < rem then encoded ++ String.ofList (List.replicate (4 - rem) '=') else encoded
  match (Bytes.urlsafeDecode (Bytes.utf8 padded)).bind Bytes.decodeUtf8 with
  | some text => .ok text
  | none => .error (lib.undecodable (Bytes.utf8 padded))

def expectedSignature (secret headerB64 payloadB64 : String) : String :=
  b64urlEncode (lib.hmacSha256 (Bytes.utf8 secret) (Bytes.utf8 (headerB64 ++ "." ++ payloadB64)))

def JwksClient.verifySignature (headerB64 payloadB64 sigB64 : String) (key : JwksKey) : Except PyError Bool :=
  match Tree.getD key "secret" (.str "") with
  | .str secret => compareDigest sigB64 (expectedSignature lib secret headerB64 payloadB64)
  | _ => .error .attributeError

end keys

section mapping

/-- `map_groups` on the keys of a loop. -/
def OidcClaimMapping.mapGroups (mapping : OidcClaimMapping) (groups : List PyKey) : List String :=
  let roles := (groups.filterMap fun g => g.string?.bind fun s => mapping.groupToRole.lookup s).dedup
  if roles = [] ∧ mapping.defaultRole ≠ "" then [mapping.defaultRole] else roles

/-- `payload.get("groups", []) or payload.get("roles", [])`. -/
def groupsOf (payload : List (String × Tree)) : Tree :=
  let groups := Tree.getD payload "groups" (.arr [])
  if groups.truthy then groups else Tree.getD payload "roles" (.arr [])

/-- What `map_groups` loops over; a text is one group. -/
def groupKeys? (groups : Tree) : Option (List PyKey) :=
  match groups with
  | .str s => some [.str s]
  | other => other.elements?

/-- The loop of `map_groups` over a value. -/
def loopOver (groups : Tree) : Except PyError (List PyKey) :=
  match groupKeys? groups with
  | some keys => .ok keys
  | none => .error .typeError

end mapping

structure OidcCall where
  idTokenRaw : String
  expectedNonce : Option String
  config : OidcTenantConfiguration
  asOfTime : Option UtcDateTime := none
  now : UtcDateTime
  remoteProvider : RemoteProvider := none

/-- `now_ts`. -/
def OidcCall.nowTs (call : OidcCall) : ℚ := timestamp (call.asOfTime.getD call.now)

/-- `now_ts + 3600.0`. -/
def OidcCall.later (call : OidcCall) : FloatValue := (FloatValue.finite call.nowTs).add (.finite 3600)

structure OidcValidator where
  jwksClient : JwksClient := {}
  antiReplayStore : List (PyKey × FloatValue) := []

namespace OidcValidator
variable (lib : OidcLibrary)

def invalidSignature (message : String) (details : List (String × OidcDetail) := []) : OidcFailure :=
  .oidc { kind := .invalidSignature, message := message, details := details }

/-- Any other exception of a step. -/
def lifted {α : Type} (x : Except PyError α) : Except OidcFailure α := x.mapError .other

/-- `str(v)`. -/
def strOf : Tree → String
  | .str s => s
  | v => lib.str v

structure JwtParts where
  headerB64 : String
  payloadB64 : String
  sigB64 : String
  header : Tree
  payload : Tree

/-- Step 1. -/
def parseToken (idTokenRaw : String) : Except OidcFailure JwtParts :=
  match (idTokenRaw.toList.splitOn '.').map String.ofList with
  | [headerB64,payloadB64,sigB64] =>
    Except.mapError (fun err => invalidSignature ("Malformed token JSON: " ++ err)) do
      let header ← lib.loads (← b64urlDecode lib headerB64)
      let payload ← lib.loads (← b64urlDecode lib payloadB64)
      return ⟨headerB64,payloadB64,sigB64,header,payload⟩
  | _ => .error (invalidSignature "Malformed token structure: expected header.payload.signature")

/-- `d.get` of a value that may be no dict. -/
def members : Tree → Except OidcFailure (List (String × Tree))
  | .obj entries => .ok entries
  | _ => .error (.other .attributeError)

/-- Step 2 and the key identifier of step 3. -/
def selectKid (header : Tree) : Except OidcFailure Tree := do
  let entries ← members header
  let alg := lib.upper (strOf lib (Tree.getD entries "alg" (.str "")))
  if alg = "NONE" ∨ alg = "" then throw (invalidSignature "Insecure algorithm 'none' is strictly prohibited")
  let kid := Tree.getD entries "kid" .null
  if kid.truthy = false then throw (invalidSignature "Missing 'kid' header parameter in JWT")
  return kid

/-- The rest of step 3. -/
def checkSignature (token : JwtParts) (kid : Tree) (key : Option JwksKey) : Except OidcFailure Unit :=
  match key with
  | none => throw (invalidSignature ("Unknown JWKS key ID: '" ++ strOf lib kid ++ "' after rotation"))
  | some key => do
    let genuine ← lifted (JwksClient.verifySignature lib token.headerB64 token.payloadB64 token.sigB64 key)
    if genuine = false then throw (invalidSignature "Invalid cryptographic token signature")

def isText (s : String) : Tree → Bool
  | .str t => t == s
  | _ => false

/-- The audiences of a token. -/
def audiences : Tree → List Tree
  | .arr items => items
  | v => [v]

/-- Steps 4 and 5. -/
def checkParties (config : OidcTenantConfiguration) (payload : List (String × Tree)) : Except OidcFailure Unit := do
  let tokenIss := Tree.getD payload "iss" .null
  if isText config.issuerUrl tokenIss = false then
    throw (.oidc {
      kind := .issuerMismatch
      message := "Issuer mismatch: expected '" ++ config.issuerUrl ++ "', got '" ++ strOf lib tokenIss ++ "'"
      details := [("expected",.value (.str config.issuerUrl)),("actual",.value tokenIss)] })
  let tokenAud := Tree.getD payload "aud" .null
  if (audiences tokenAud).any (isText config.clientId) = false then
    throw (.oidc {
      kind := .issuerMismatch
      message := "Audience mismatch: expected '" ++ config.clientId ++ "', got '" ++ strOf lib tokenAud ++ "'"
      details := [("expected",.value (.str config.clientId)),("actual",.value tokenAud)] })

def tokenExpired (call : OidcCall) (lead name : String) (claim : Tree) : OidcValidationError where
  kind := .tokenExpired
  message := lead ++ ": " ++ name ++ "=" ++ strOf lib claim ++ ", now=" ++ lib.reprFloat (.finite call.nowTs) ++
    ", skew=" ++ call.config.allowedClockSkewSeconds.repr ++ "s"
  details := [(name,.value claim),("now",.seconds (.finite call.nowTs)),
    ("allowed_skew",.value (.int call.config.allowedClockSkewSeconds))]

def isNone : Tree → Bool
  | .null => true
  | _ => false

/-- A time beside the tolerance; `None` stands for no time. -/
def checkTime (call : OidcCall) (claim : Tree) (outside : FloatValue → FloatValue → Bool) (error : OidcValidationError) :
    Except OidcFailure Unit := do
  if isNone claim then return ()
  let time ← lifted (toFloat claim)
  let skew ← lifted (asFloat call.config.allowedClockSkewSeconds)
  if outside time skew then throw (.oidc error)

/-- The expiry of step 6. -/
def checkExpiry (call : OidcCall) (payload : List (String × Tree)) : Except OidcFailure Unit :=
  let exp := Tree.getD payload "exp" .null
  checkTime call exp (fun time skew => (time.add skew).atMost call.nowTs) (tokenExpired lib call "Token has expired" "exp" exp)

/-- The opening of step 6. -/
def checkOpening (call : OidcCall) (payload : List (String × Tree)) : Except OidcFailure Unit :=
  let nbf := Tree.getD payload "nbf" .null
  checkTime call nbf (fun time skew => (time.add skew.neg).above call.nowTs)
    (tokenExpired lib call "Token is not yet valid" "nbf" nbf)

/-- Step 7. -/
def checkNonce (call : OidcCall) (payload : List (String × Tree)) : Except OidcFailure Unit :=
  match call.expectedNonce with
  | none => .ok ()
  | some nonce =>
    let tokenNonce := Tree.getD payload "nonce" .null
    if isText nonce tokenNonce then .ok ()
    else .error (invalidSignature ("Nonce mismatch: expected '" ++ nonce ++ "', got '" ++ strOf lib tokenNonce ++ "'")
      [("expected",.value (.str nonce)),("actual",.value tokenNonce)])

/-- Steps 4 to 7. -/
def checkClaims (call : OidcCall) (payload : Tree) : Except OidcFailure (List (String × Tree)) := do
  let entries ← members payload
  checkParties lib call.config entries
  checkExpiry lib call entries
  checkOpening lib call entries
  checkNonce lib call entries
  return entries

/-- The expiry of a stored jti. -/
def replayExpiry (call : OidcCall) (exp : Tree) : Except PyError FloatValue :=
  if exp.truthy then toFloat exp else .ok call.later

/-- Step 8, with the store that it leaves. -/
def checkReplay (call : OidcCall) (payload : List (String × Tree)) (store : List (PyKey × FloatValue)) :
    Except OidcFailure (List (PyKey × FloatValue)) := do
  let jti := Tree.getD payload "jti" .null
  if jti.truthy = false then return store
  let key ← lifted (hashed jti)
  if (Library.getKey store key).isSome then
    throw (.oidc {
      kind := .tokenReplay
      message := "Token replay rejected: JTI '" ++ strOf lib jti ++ "' was already presented"
      details := [("jti",.value jti)] })
  let expiry ← lifted (replayExpiry call (Tree.getD payload "exp" .null))
  return setKey store key expiry

/-- The subject with the prefix of a user where it has none. -/
def subjectOf (payload : List (String × Tree)) : String :=
  let sub := strOf lib (Tree.getD payload "sub" (.str ""))
  if Text.startsWith sub "usr_" || Text.startsWith sub "svc_" then sub else "usr_" ++ sub

/-- `float(payload.get("iat", now_ts))`. -/
def issuedAt (call : OidcCall) (payload : List (String × Tree)) : Except PyError FloatValue :=
  match payload.lookup "iat" with
  | none => .ok (.finite call.nowTs)
  | some iat => toFloat iat

/-- `float(exp_val)`. -/
def expiresAt (call : OidcCall) (payload : List (String × Tree)) : Except PyError FloatValue :=
  let exp := Tree.getD payload "exp" .null
  if isNone exp then .ok call.later else toFloat exp

/-- Step 9. -/
def mapClaims (call : OidcCall) (payload : List (String × Tree)) : Except PyError AuthTokenClaims := do
  let groups ← loopOver (groupsOf payload)
  let mappedRoles := call.config.claimMapping.mapGroups groups
  let expDt ← fromTimestamp (← expiresAt call payload)
  let iatDt ← fromTimestamp (← issuedAt call payload)
  AuthTokenClaims.make (.str (subjectOf lib payload)) (Tree.getD payload "iss" .null) (.str call.config.clientId) expDt iatDt
    none (.str call.config.tenantId.value) (mappedRoles.map .str) [] (Tree.getD payload "email" .null)
    (Tree.getD payload "jti" .null)

/-- `validate_id_token`, with the validator that it leaves behind. -/
def validateIdToken (v : OidcValidator) (call : OidcCall) : Except OidcFailure AuthTokenClaims × OidcValidator :=
  match parseToken lib call.idTokenRaw with
  | .error e => (.error e,v)
  | .ok token =>
    match selectKid lib token.header with
    | .error e => (.error e,v)
    | .ok kid =>
      let asked := v.jwksClient.getKey call.remoteProvider kid
      let w := { v with jwksClient := asked.2 }
      match lifted asked.1 with
      | .error e => (.error e,w)
      | .ok key =>
        match checkSignature lib token kid key with
        | .error e => (.error e,w)
        | .ok () =>
          match checkClaims lib call token.payload with
          | .error e => (.error e,w)
          | .ok payload =>
            match checkReplay lib call payload w.antiReplayStore with
            | .error e => (.error e,w)
            | .ok store => (lifted (mapClaims lib call payload),{ w with antiReplayStore := store })

section declared
variable {α β : Type}

/-- A step ends in a value or in a declared error. -/
def Declared (x : Except OidcFailure α) : Prop := ∀ e, x ≠ .error (.other e)

theorem declared_ok (a : α) : Declared (.ok a) := nofun

theorem declared_oidc (error : OidcValidationError) : Declared (.error (.oidc error) : Except OidcFailure α) := nofun

theorem declared_bind {x : Except OidcFailure α} {f : α → Except OidcFailure β} :
    Declared (x >>= f) ↔ Declared x ∧ ∀ a, x = .ok a → Declared (f a) := by
  cases x with
  | ok a => simp [Declared,bind,Except.bind]
  | error e => simp [Declared,bind,Except.bind]

theorem declared_lifted {x : Except PyError α} : Declared (lifted x) ↔ ∃ a, x = .ok a := by
  cases x with
  | ok a => simp [Declared,lifted,Except.mapError]
  | error e => simp [Declared,lifted,Except.mapError]

theorem lifted_ok {x : Except PyError α} {a : α} : lifted x = .ok a ↔ x = .ok a := Outcome.mapError_eq_ok

theorem declared_guard {p : Prop} [Decidable p] {error : OidcValidationError} {x : Except OidcFailure α} :
    Declared (if p then throw (.oidc error) else x) ↔ (¬ p → Declared x) := by
  by_cases here : p
  · simp only [here,if_true,not_true_eq_false,false_implies,iff_true]
    exact declared_oidc error
  · simp [here]

theorem validateIdToken_fst (v : OidcValidator) (call : OidcCall) : (v.validateIdToken lib call).1 = (do
    let token ← parseToken lib call.idTokenRaw
    let kid ← selectKid lib token.header
    let key ← lifted (v.jwksClient.getKey call.remoteProvider kid).1
    checkSignature lib token kid key
    let payload ← checkClaims lib call token.payload
    let _ ← checkReplay lib call payload v.antiReplayStore
    lifted (mapClaims lib call payload)) := by
  have next {α β : Type} (a : α) (f : α → Except OidcFailure β) : (Except.ok a >>= f) = f a := rfl
  unfold validateIdToken
  cases parseToken lib call.idTokenRaw with
  | error e => rfl
  | ok token =>
    rw [next]
    dsimp only
    cases selectKid lib token.header with
    | error e => rfl
    | ok kid =>
      rw [next]
      dsimp only
      cases lifted (v.jwksClient.getKey call.remoteProvider kid).1 with
      | error e => rfl
      | ok key =>
        rw [next]
        dsimp only
        cases checkSignature lib token kid key with
        | error e => rfl
        | ok u =>
          rw [next]
          dsimp only
          cases checkClaims lib call token.payload with
          | error e => rfl
          | ok payload =>
            rw [next]
            dsimp only
            cases checkReplay lib call payload v.antiReplayStore with
            | error e => rfl
            | ok store => rfl

end declared

section steps
variable {lib} {call : OidcCall} {token : JwtParts} {entries : List (String × Tree)}

structure Parses (lib : OidcLibrary) (idTokenRaw : String) (token : JwtParts) : Prop where
  parts : (idTokenRaw.toList.splitOn '.').map String.ofList = [token.headerB64,token.payloadB64,token.sigB64]
  header : ∃ text, b64urlDecode lib token.headerB64 = .ok text ∧ lib.loads text = .ok token.header
  payload : ∃ text, b64urlDecode lib token.payloadB64 = .ok text ∧ lib.loads text = .ok token.payload

theorem parseToken_declared (idTokenRaw : String) : Declared (parseToken lib idTokenRaw) := by
  unfold parseToken
  split
  next =>
    intro e raised
    generalize (do
      let header ← lib.loads (← b64urlDecode lib _)
      let payload ← lib.loads (← b64urlDecode lib _)
      return (⟨_,_,_,header,payload⟩ : JwtParts)) = read at raised
    cases read <;> cases raised
  next => exact nofun

theorem parseToken_ok {idTokenRaw : String} : parseToken lib idTokenRaw = .ok token ↔ Parses lib idTokenRaw token := by
  unfold parseToken
  split
  next headerB64 payloadB64 sigB64 parts =>
    simp only [Outcome.mapError_eq_ok,Outcome.bind_eq_ok,Outcome.pure_eq_ok]
    constructor
    · rintro ⟨text,decoded,header,loaded,text',decoded',payload,loaded',rfl⟩
      exact ⟨parts,⟨text,decoded,loaded⟩,⟨text',decoded',loaded'⟩⟩
    · rintro ⟨split,⟨text,decoded,loaded⟩,⟨text',decoded',loaded'⟩⟩
      rw [parts] at split
      obtain ⟨rfl,rfl,rfl⟩ : headerB64 = token.headerB64 ∧ payloadB64 = token.payloadB64 ∧ sigB64 = token.sigB64 := by
        simpa using split
      exact ⟨text,decoded,token.header,loaded,text',decoded',token.payload,loaded',rfl⟩
  next other =>
    refine iff_of_false (fun read => by cases read) ?_
    rintro ⟨parts,_⟩
    exact other _ _ _ parts

theorem members_ok {v : Tree} : members v = .ok entries ↔ v = .obj entries := by
  cases v <;> simp [members]

theorem members_declared {v : Tree} : Declared (members v) ↔ ∃ entries, v = .obj entries := by
  cases v <;> simp [members,Declared]

/-- A header with an algorithm and a key identifier. -/
structure Selects (lib : OidcLibrary) (header kid : Tree) : Prop where
  entries : ∃ entries, header = .obj entries ∧ lib.upper (strOf lib (Tree.getD entries "alg" (.str ""))) ≠ "NONE" ∧
    lib.upper (strOf lib (Tree.getD entries "alg" (.str ""))) ≠ "" ∧ Tree.getD entries "kid" .null = kid
  truthy : kid.truthy = true

theorem selectKid_declared {header : Tree} : Declared (selectKid lib header) ↔ ∃ entries, header = .obj entries := by
  unfold selectKid
  rw [declared_bind,members_declared]
  refine and_iff_left ?_
  intro entries _
  exact declared_guard.mpr fun _ => declared_guard.mpr fun _ => declared_ok _

theorem selectKid_ok {header kid : Tree} : selectKid lib header = .ok kid ↔ Selects lib header kid := by
  unfold selectKid
  simp only [Outcome.bind_eq_ok,members_ok]
  constructor
  · rintro ⟨entries,object,rest⟩
    simp [Outcome.throw_map] at rest
    obtain ⟨⟨named,given⟩,truthy,rfl⟩ := rest
    exact ⟨⟨entries,object,named,given,rfl⟩,truthy⟩
  · rintro ⟨⟨entries,object,named,given,rfl⟩,truthy⟩
    refine ⟨entries,object,?_⟩
    simp [named,given,truthy]

/-- What the remote provider answers, where it is asked. -/
def RemoteShaped (remoteProvider : RemoteProvider) : Prop :=
  ∀ answer ∈ remoteProvider, ∃ keys, answer = .ok keys ∧
    ∀ k ∈ keys, (Tree.getD k "kid" .null).truthy = true → ∃ key, (Tree.getD k "kid" .null).key? = some key

theorem storeKeys_isOk {cache : List (PyKey × JwksKey)} {keys : List JwksKey} : (∃ u, (storeKeys cache keys).1 = .ok u) ↔
    ∀ k ∈ keys, (Tree.getD k "kid" .null).truthy = true → ∃ key, (Tree.getD k "kid" .null).key? = some key := by
  induction keys generalizing cache with
  | nil => simp [storeKeys]
  | cons k keys ih =>
    rw [List.forall_mem_cons,storeKeys]
    cases given : (Tree.getD k "kid" .null).truthy with
    | false => simp [ih]
    | true =>
      cases known : (Tree.getD k "kid" .null).key? with
      | none => simp
      | some key => simp [ih]

theorem getKey_isOk {client : JwksClient} {remoteProvider : RemoteProvider} {kid : Tree} :
    (∃ k, (client.getKey remoteProvider kid).1 = .ok k) ↔
      ∃ key, kid.key? = some key ∧ (Library.getKey client.cache key = none → RemoteShaped remoteProvider) := by
  unfold JwksClient.getKey hashed
  cases kid.key? with
  | none => simp
  | some key =>
    dsimp only
    cases stored : Library.getKey client.cache key with
    | some k => simp [stored]
    | none =>
      have mapped {x : Except PyError Unit} {k : Option JwksKey} :
          (∃ k', x.map (fun _ => k) = .ok k') ↔ ∃ u, x = .ok u := by
        cases x <;> simp [Except.map]
      dsimp only
      rw [mapped]
      cases remoteProvider with
      | none => simp [JwksClient.refreshKeys,RemoteShaped]
      | some answer =>
        cases answer with
        | error e => simp [JwksClient.refreshKeys,RemoteShaped,stored]
        | ok keys =>
          simp only [JwksClient.refreshKeys,storeKeys_isOk,RemoteShaped,Option.mem_def,Option.some.injEq,
            forall_eq',Except.ok.injEq,exists_eq_left']
          simp [stored]

theorem expectedSignature_ascii (secret headerB64 payloadB64 : String) :
    Text.isAscii (expectedSignature lib secret headerB64 payloadB64) = true := by
  have all : ∀ n < 128, (Char.ofNat n).toNat < 128 := by decide
  rw [Text.isAscii,List.all_eq_true]
  intro c inside
  rw [expectedSignature,b64urlEncode,String.toList_ofList] at inside
  have whole := (List.rdropWhile_prefix _ _).subset inside
  rw [Bytes.ofAscii,String.toList_ofList] at whole
  obtain ⟨b,member,rfl⟩ := List.mem_map.mp whole
  exact decide_eq_true (all _ (Bytes.urlsafeEncode_plain _ b member).1)

/-- The signature of a token under a key. -/
def Verifies (lib : OidcLibrary) (token : JwtParts) (key : JwksKey) : Prop :=
  ∃ secret, Tree.getD key "secret" (.str "") = .str secret ∧
    token.sigB64 = expectedSignature lib secret token.headerB64 token.payloadB64

/-- A key with a text as its secret, and a signature in ASCII. -/
def SignatureShaped (token : JwtParts) (key : JwksKey) : Prop :=
  (∃ secret, Tree.getD key "secret" (.str "") = .str secret) ∧ Text.isAscii token.sigB64 = true

theorem verifySignature_isOk {key : JwksKey} : (∃ same, JwksClient.verifySignature lib token.headerB64 token.payloadB64 token.sigB64 key =
    .ok same) ↔ SignatureShaped token key := by
  unfold JwksClient.verifySignature SignatureShaped
  split
  next secret given =>
    unfold compareDigest
    rw [expectedSignature_ascii,Bool.and_true]
    cases Text.isAscii token.sigB64 <;> simp [given]
  next other =>
    refine iff_of_false nofun ?_
    rintro ⟨⟨secret,given⟩,_⟩
    exact other secret given

theorem checkSignature_declared {kid : Tree} {key : Option JwksKey} :
    Declared (checkSignature lib token kid key) ↔ ∀ k ∈ key, SignatureShaped token k := by
  cases key with
  | none => exact iff_of_true (declared_oidc _) nofun
  | some k =>
    have passed (same : Bool) : Declared (if same = false then
        throw (invalidSignature "Invalid cryptographic token signature") else pure ()) :=
      declared_guard.mpr fun _ => declared_ok ()
    rw [checkSignature,declared_bind,declared_lifted,verifySignature_isOk]
    refine (and_iff_left fun same _ => passed same).trans ?_
    simp

theorem checkSignature_ok {kid : Tree} {key : Option JwksKey} {u : Unit} :
    checkSignature lib token kid key = .ok u ↔ ∃ k ∈ key, Verifies lib token k := by
  cases key with
  | none => simp [checkSignature]
  | some k =>
    have genuine : JwksClient.verifySignature lib token.headerB64 token.payloadB64 token.sigB64 k = .ok true ↔
        Verifies lib token k := by
      unfold JwksClient.verifySignature Verifies
      split
      next secret given => simp [given,compareDigest_true (expectedSignature_ascii _ _ _)]
      next other =>
        refine iff_of_false nofun ?_
        rintro ⟨secret,given,_⟩
        exact other secret given
    simp [checkSignature,lifted_ok,genuine]

/-- The issuer and one of the audiences are those of the configuration. -/
def Addressed (config : OidcTenantConfiguration) (entries : List (String × Tree)) : Prop :=
  Tree.getD entries "iss" .null = .str config.issuerUrl ∧
    .str config.clientId ∈ audiences (Tree.getD entries "aud" .null)

theorem isText_iff {s : String} {v : Tree} : isText s v = true ↔ v = .str s := by
  cases v <;> simp [isText]

theorem checkParties_declared (config : OidcTenantConfiguration) : Declared (checkParties lib config entries) :=
  declared_guard.mpr fun _ => declared_guard.mpr fun _ => declared_ok ()

theorem checkParties_ok {config : OidcTenantConfiguration} {u : Unit} :
    checkParties lib config entries = .ok u ↔ Addressed config entries := by
  have listed : (audiences (Tree.getD entries "aud" .null)).any (isText config.clientId) = true ↔
      .str config.clientId ∈ audiences (Tree.getD entries "aud" .null) := by
    simp [isText_iff]
  unfold checkParties Addressed
  rw [← isText_iff,← listed]
  simp

/-- A claim that is null, or a number beside a tolerance that is a float. -/
def TimeShaped (call : OidcCall) (claim : Tree) : Prop :=
  claim = .null ∨ ∃ time skew, toFloat claim = .ok time ∧ asFloat call.config.allowedClockSkewSeconds = .ok skew

/-- A claim that is null, or a number within its tolerance. -/
def Within (call : OidcCall) (claim : Tree) (outside : FloatValue → FloatValue → Bool) : Prop :=
  claim = .null ∨ ∃ time skew, toFloat claim = .ok time ∧ asFloat call.config.allowedClockSkewSeconds = .ok skew ∧
    outside time skew = false

theorem isNone_iff {v : Tree} : isNone v = true ↔ v = .null := by
  cases v <;> simp [isNone]

section times
variable {claim : Tree} {outside : FloatValue → FloatValue → Bool} {error : OidcValidationError}

theorem checkTime_declared : Declared (checkTime call claim outside error) ↔ TimeShaped call claim := by
  unfold checkTime TimeShaped
  rw [← isNone_iff]
  cases isNone claim with
  | true => exact iff_of_true (declared_ok ()) (.inl rfl)
  | false =>
    simp only [Bool.false_eq_true,if_false,false_or,declared_bind,declared_lifted,lifted_ok]
    constructor
    · rintro ⟨⟨time,read⟩,rest⟩
      obtain ⟨⟨skew,known⟩,_⟩ := rest time read
      exact ⟨time,skew,read,known⟩
    · rintro ⟨time,skew,read,known⟩
      refine ⟨⟨time,read⟩,?_⟩
      intro _ _
      exact ⟨⟨skew,known⟩,fun _ _ => declared_guard.mpr fun _ => declared_ok ()⟩

theorem checkTime_ok {u : Unit} : checkTime call claim outside error = .ok u ↔ Within call claim outside := by
  unfold checkTime Within
  rw [← isNone_iff]
  cases isNone claim with
  | true => exact iff_of_true rfl (.inl rfl)
  | false => simp [lifted_ok]

end times

/-- The time of the call is not past the expiry. -/
def Unexpired (call : OidcCall) (entries : List (String × Tree)) : Prop :=
  Within call (Tree.getD entries "exp" .null) fun time skew => (time.add skew).atMost call.nowTs

/-- The time of the call is not in front of the opening. -/
def InForce (call : OidcCall) (entries : List (String × Tree)) : Prop :=
  Within call (Tree.getD entries "nbf" .null) fun time skew => (time.add skew.neg).above call.nowTs

def NonceMatches (call : OidcCall) (entries : List (String × Tree)) : Prop :=
  ∀ nonce ∈ call.expectedNonce, Tree.getD entries "nonce" .null = .str nonce

theorem checkNonce_declared : Declared (checkNonce lib call entries) := by
  unfold checkNonce
  split
  next => exact declared_ok ()
  next =>
    dsimp only
    split
    · exact declared_ok ()
    · exact declared_oidc _

theorem checkNonce_ok {u : Unit} : checkNonce lib call entries = .ok u ↔ NonceMatches call entries := by
  unfold checkNonce NonceMatches
  cases call.expectedNonce with
  | none => simp
  | some nonce => simp [← isText_iff]

/-- Claims for this configuration and time. -/
structure Current (call : OidcCall) (payload : Tree) (entries : List (String × Tree)) : Prop where
  object : payload = .obj entries
  addressed : Addressed call.config entries
  unexpired : Unexpired call entries
  inForce : InForce call entries
  nonce : NonceMatches call entries

/-- An object whose times are numbers, as far as the checks look at them. -/
def ClaimsShaped (call : OidcCall) (payload : Tree) : Prop :=
  ∃ entries, payload = .obj entries ∧ (Addressed call.config entries → TimeShaped call (Tree.getD entries "exp" .null) ∧
    (Unexpired call entries → TimeShaped call (Tree.getD entries "nbf" .null)))

theorem checkClaims_declared {payload : Tree} : Declared (checkClaims lib call payload) ↔ ClaimsShaped call payload := by
  unfold checkClaims ClaimsShaped
  simp only [declared_bind,members_declared,members_ok,checkParties_ok]
  constructor
  · rintro ⟨⟨entries,object⟩,rest⟩
    refine ⟨entries,object,?_⟩
    intro addressed
    obtain ⟨expiry,later⟩ := (rest entries object).2 () addressed
    exact ⟨checkTime_declared.mp expiry,fun unexpired => checkTime_declared.mp (later () (checkTime_ok.mpr unexpired)).1⟩
  · rintro ⟨entries,rfl,shaped⟩
    refine ⟨⟨entries,rfl⟩,?_⟩
    rintro _ ⟨⟩
    refine ⟨checkParties_declared _,?_⟩
    intro _ addressed
    obtain ⟨expiry,opening⟩ := shaped addressed
    refine ⟨checkTime_declared.mpr expiry,?_⟩
    intro _ unexpired
    exact ⟨checkTime_declared.mpr (opening (checkTime_ok.mp unexpired)),fun _ _ => ⟨checkNonce_declared,fun _ _ => declared_ok _⟩⟩

theorem checkClaims_ok {payload : Tree} : checkClaims lib call payload = .ok entries ↔ Current call payload entries := by
  unfold checkClaims
  simp only [Outcome.bind_eq_ok,Outcome.pure_eq_ok,members_ok,checkParties_ok,checkNonce_ok]
  constructor
  · rintro ⟨_,object,_,addressed,_,unexpired,_,inForce,_,nonce,rfl⟩
    exact ⟨object,addressed,checkTime_ok.mp unexpired,checkTime_ok.mp inForce,nonce⟩
  · intro current
    exact ⟨entries,current.object,(),current.addressed,(),checkTime_ok.mpr current.unexpired,(),
      checkTime_ok.mpr current.inForce,(),current.nonce,rfl⟩

/-- A jti that is not in the store. -/
def Fresh (store : List (PyKey × FloatValue)) (entries : List (String × Tree)) : Prop :=
  (Tree.getD entries "jti" .null).truthy = true →
    ∀ key, (Tree.getD entries "jti" .null).key? = some key → Library.getKey store key = none

/-- A jti that a dict can hold. -/
def JtiShaped (entries : List (String × Tree)) : Prop :=
  (Tree.getD entries "jti" .null).truthy = true → ∃ key, (Tree.getD entries "jti" .null).key? = some key

theorem replayExpiry_isOk (unexpired : Unexpired call entries) :
    ∃ expiry, replayExpiry call (Tree.getD entries "exp" .null) = .ok expiry := by
  unfold replayExpiry
  rcases unexpired with null | ⟨time,_,read,_⟩
  · rw [null]
    exact ⟨_,rfl⟩
  · split
    · exact ⟨time,read⟩
    · exact ⟨_,rfl⟩

theorem checkReplay_cases (unexpired : Unexpired call entries) (store : List (PyKey × FloatValue)) :
    ((Tree.getD entries "jti" .null).truthy = false ∧ checkReplay lib call entries store = .ok store) ∨
    ((Tree.getD entries "jti" .null).truthy = true ∧ (Tree.getD entries "jti" .null).key? = none ∧
      checkReplay lib call entries store = .error (.other .typeError)) ∨
    ((Tree.getD entries "jti" .null).truthy = true ∧ ∃ key, (Tree.getD entries "jti" .null).key? = some key ∧
      ((Library.getKey store key ≠ none ∧ ∃ error, checkReplay lib call entries store = .error (.oidc error)) ∨
        (Library.getKey store key = none ∧ ∃ expiry, checkReplay lib call entries store = .ok (setKey store key expiry)))) := by
  obtain ⟨expiry,read⟩ := replayExpiry_isOk unexpired
  unfold checkReplay
  dsimp only
  cases given : (Tree.getD entries "jti" .null).truthy with
  | false => exact .inl ⟨rfl,rfl⟩
  | true =>
    right
    rw [if_neg (by decide),hashed]
    cases known : (Tree.getD entries "jti" .null).key? with
    | none => exact .inl ⟨rfl,rfl,rfl⟩
    | some key =>
      refine .inr ⟨rfl,key,rfl,?_⟩
      have next {α β : Type} (a : α) (f : α → Except OidcFailure β) : (lifted (.ok a) >>= f) = f a := rfl
      dsimp only
      rw [next]
      cases stored : Library.getKey store key with
      | some expiry' => exact .inl ⟨Option.some_ne_none expiry',_,rfl⟩
      | none =>
        rw [Option.isSome_none,if_neg Bool.false_ne_true,read]
        exact .inr ⟨rfl,expiry,rfl⟩

theorem checkReplay_declared (unexpired : Unexpired call entries) {store : List (PyKey × FloatValue)} :
    Declared (checkReplay lib call entries store) ↔ JtiShaped entries := by
  unfold JtiShaped
  rcases @checkReplay_cases lib call entries unexpired store with ⟨none,ended⟩ | ⟨given,unknown,raised⟩ | ⟨given,key,known,outcome⟩
  · rw [ended,none]
    exact iff_of_true (declared_ok _) nofun
  · rw [raised]
    refine iff_of_false (fun declared => declared _ rfl) ?_
    intro shaped
    obtain ⟨key,known⟩ := shaped given
    rw [unknown] at known
    cases known
  · refine iff_of_true ?_ (fun _ => ⟨key,known⟩)
    rcases outcome with ⟨_,error,raised⟩ | ⟨_,expiry,ended⟩
    · rw [raised]
      exact declared_oidc error
    · rw [ended]
      exact declared_ok _

theorem checkReplay_isOk (unexpired : Unexpired call entries) {store : List (PyKey × FloatValue)} :
    (∃ after, checkReplay lib call entries store = .ok after) ↔ JtiShaped entries ∧ Fresh store entries := by
  unfold JtiShaped Fresh
  rcases @checkReplay_cases lib call entries unexpired store with ⟨none,ended⟩ | ⟨given,unknown,raised⟩ | ⟨given,key,known,outcome⟩
  · rw [none]
    exact iff_of_true ⟨_,ended⟩ ⟨nofun,nofun⟩
  · refine iff_of_false ?_ ?_
    · rintro ⟨after,ok⟩
      rw [raised] at ok
      cases ok
    · rintro ⟨shaped,_⟩
      obtain ⟨key,known⟩ := shaped given
      rw [unknown] at known
      cases known
  · rcases outcome with ⟨stored,error,raised⟩ | ⟨absent,expiry,ended⟩
    · refine iff_of_false ?_ (fun both => stored (both.2 given key known))
      rintro ⟨after,ok⟩
      rw [raised] at ok
      cases ok
    · refine iff_of_true ⟨_,ended⟩ ⟨fun _ => ⟨key,known⟩,?_⟩
      intro _ key' known'
      rw [known] at known'
      cases known'
      exact absent

/-- A float that `datetime` has a time for. -/
def InCalendar (x : FloatValue) : Prop :=
  ∃ value, x = .finite value ∧ UtcDateTime.minMicros ≤ microsOf value ∧ microsOf value ≤ UtcDateTime.maxMicros

theorem fromTimestamp_isOk {x : FloatValue} : (∃ t, fromTimestamp x = .ok t) ↔ InCalendar x := by
  unfold InCalendar
  cases x with
  | finite value =>
    unfold fromTimestamp
    dsimp only
    split_ifs with calendar
    · exact iff_of_true ⟨_,rfl⟩ ⟨value,rfl,calendar⟩
    all_goals
      refine iff_of_false (fun ⟨_,ok⟩ => nomatch ok) ?_
      rintro ⟨other,same,range⟩
      cases same
      exact calendar range
  | infinite negative => exact iff_of_false (fun ⟨_,ok⟩ => nomatch ok) (fun ⟨_,same,_⟩ => nomatch same)
  | nan => exact iff_of_false (fun ⟨_,ok⟩ => nomatch ok) (fun ⟨_,same,_⟩ => nomatch same)

/-- What step 9 needs to end in claims. -/
structure Completes (call : OidcCall) (entries : List (String × Tree)) : Prop where
  groups : ∃ keys, groupKeys? (groupsOf entries) = some keys
  exp : ∃ x, expiresAt call entries = .ok x ∧ InCalendar x
  iat : ∃ x, issuedAt call entries = .ok x ∧ InCalendar x
  issuer : Text.strip call.config.issuerUrl ≠ ""
  client : Text.strip call.config.clientId ≠ ""
  email : ∃ o, Tree.getD entries "email" .null = nullableText o
  jti : Tree.getD entries "jti" .null = .null ∨ ∃ s, Filled (Tree.getD entries "jti" .null) s

theorem subjectOf_lead : Text.startsWith (Text.strip (subjectOf lib entries)) "usr_" = true ∨
    Text.startsWith (Text.strip (subjectOf lib entries)) "svc_" = true := by
  have lead : Text.startsWith (subjectOf lib entries) "usr_" = true ∨ Text.startsWith (subjectOf lib entries) "svc_" = true := by
    unfold subjectOf
    dsimp only
    split
    next known => exact Bool.or_eq_true _ _ ▸ known
    next =>
      left
      rw [Text.startsWith,List.isPrefixOf_iff_prefix,String.toList_append]
      exact List.prefix_append _ _
  exact lead.imp (Text.startsWith_strip (Text.chars_of_all rfl)) (Text.startsWith_strip (Text.chars_of_all rfl))

theorem loopOver_ok {groups : Tree} {keys : List PyKey} : loopOver groups = .ok keys ↔ groupKeys? groups = some keys := by
  unfold loopOver
  cases groupKeys? groups <;> simp

theorem mapClaims_isOk (addressed : Addressed call.config entries) :
    (∃ claims, mapClaims lib call entries = .ok claims) ↔ Completes call entries := by
  have tenant : Filled (.str call.config.tenantId.value) call.config.tenantId.value := by
    refine ⟨rfl,?_⟩
    rw [EntityId.strip_value]
    exact EntityId.value_ne _
  unfold mapClaims
  simp only [Outcome.bind_eq_ok,loopOver_ok]
  constructor
  · rintro ⟨claims,groups,looped,x,expiry,expDt,dated,y,issued,iatDt,dated',made⟩
    obtain ⟨_,⟨i,named,solid⟩,⟨a,given,heard⟩,_,mail,replay⟩ := make_isOk.mp ⟨claims,made⟩
    rw [addressed.1] at named
    cases named
    cases given
    exact ⟨⟨groups,looped⟩,⟨x,expiry,fromTimestamp_isOk.mp ⟨expDt,dated⟩⟩,⟨y,issued,fromTimestamp_isOk.mp ⟨iatDt,dated'⟩⟩,
      solid,heard,mail,replay⟩
  · intro completes
    obtain ⟨keys,known⟩ := completes.groups
    obtain ⟨x,expiry,dated⟩ := completes.exp
    obtain ⟨y,issued,dated'⟩ := completes.iat
    obtain ⟨expDt,read⟩ := fromTimestamp_isOk.mpr dated
    obtain ⟨iatDt,read'⟩ := fromTimestamp_isOk.mpr dated'
    obtain ⟨claims,made⟩ := @make_isOk (.str (subjectOf lib entries)) _ (.str call.config.clientId) expDt iatDt none _
      ((call.config.claimMapping.mapGroups keys).map .str) [] _ _ |>.mpr ⟨⟨_,rfl,subjectOf_lead⟩,
        ⟨_,addressed.1,completes.issuer⟩,⟨_,rfl,completes.client⟩,.inr ⟨_,tenant⟩,completes.email,completes.jti⟩
    exact ⟨claims,keys,known,x,expiry,expDt,read,y,issued,iatDt,read',made⟩

end steps

section outcomes
variable {lib} {v : OidcValidator} {call : OidcCall}

/-- The steps of a call from its key on get what they handle. -/
def KeyedShaped (lib : OidcLibrary) (v : OidcValidator) (call : OidcCall) (token : JwtParts) (k : JwksKey) : Prop :=
  SignatureShaped token k ∧ (Verifies lib token k → ClaimsShaped call token.payload ∧
    ∀ entries, Current call token.payload entries → JtiShaped entries ∧ (Fresh v.antiReplayStore entries → Completes call entries))

/-- Whatever a call gets to look at has the shape that its code handles. -/
def WellShaped (lib : OidcLibrary) (v : OidcValidator) (call : OidcCall) : Prop :=
  ∀ token, Parses lib call.idTokenRaw token → (∃ entries, token.header = .obj entries) ∧
    ∀ kid, Selects lib token.header kid →
      (∃ key, kid.key? = some key ∧ (Library.getKey v.jwksClient.cache key = none → RemoteShaped call.remoteProvider)) ∧
      ∀ k, (v.jwksClient.getKey call.remoteProvider kid).1 = .ok (some k) → KeyedShaped lib v call token k

theorem declared_iff : Declared (v.validateIdToken lib call).1 ↔ WellShaped lib v call := by
  rw [validateIdToken_fst]
  simp only [declared_bind,declared_lifted,lifted_ok,parseToken_ok,selectKid_declared,selectKid_ok,getKey_isOk,
    checkSignature_declared,checkSignature_ok,checkClaims_declared,checkClaims_ok]
  unfold WellShaped KeyedShaped
  constructor
  · rintro ⟨_,parsed⟩ token parses
    obtain ⟨header,selected⟩ := parsed token parses
    refine ⟨header,?_⟩
    intro kid selects
    obtain ⟨hashable,keyed⟩ := selected kid selects
    refine ⟨hashable,?_⟩
    intro k found
    obtain ⟨shaped,verified⟩ := keyed (some k) found
    refine ⟨shaped k rfl,?_⟩
    intro verifies
    obtain ⟨claims,addressed⟩ := verified () ⟨k,rfl,verifies⟩
    refine ⟨claims,?_⟩
    intro entries current
    obtain ⟨replayed,rest⟩ := addressed entries current
    have jti := (checkReplay_declared current.unexpired).mp replayed
    refine ⟨jti,?_⟩
    intro fresh
    obtain ⟨after,stored⟩ := (checkReplay_isOk current.unexpired).mpr ⟨jti,fresh⟩
    exact (mapClaims_isOk current.addressed).mp (rest after stored)
  · intro shaped
    refine ⟨parseToken_declared _,?_⟩
    intro token parses
    obtain ⟨header,selected⟩ := shaped token parses
    refine ⟨header,?_⟩
    intro kid selects
    obtain ⟨hashable,keyed⟩ := selected kid selects
    refine ⟨hashable,?_⟩
    intro key found
    refine ⟨?_,?_⟩
    · rintro k ⟨⟩
      exact (keyed k found).1
    · rintro _ ⟨k,⟨⟩,verifies⟩
      obtain ⟨claims,rest⟩ := (keyed k found).2 verifies
      refine ⟨claims,?_⟩
      intro entries current
      obtain ⟨jti,completes⟩ := rest entries current
      refine ⟨(checkReplay_declared current.unexpired).mpr jti,?_⟩
      intro after stored
      exact (mapClaims_isOk current.addressed).mpr (completes ((checkReplay_isOk current.unexpired).mp ⟨after,stored⟩).2)

/-- A call that stores a new jti. -/
structure Stores (lib : OidcLibrary) (v : OidcValidator) (call : OidcCall) (entries : List (String × Tree)) (key : PyKey) : Prop where
  signed : ∃ token kid k, Parses lib call.idTokenRaw token ∧ Selects lib token.header kid ∧
    (v.jwksClient.getKey call.remoteProvider kid).1 = .ok (some k) ∧ Verifies lib token k ∧ Current call token.payload entries
  truthy : (Tree.getD entries "jti" .null).truthy = true
  jti : (Tree.getD entries "jti" .null).key? = some key
  fresh : Library.getKey v.antiReplayStore key = none

theorem setKey_ne {store : List (PyKey × FloatValue)} {key : PyKey} (absent : Library.getKey store key = none)
    (expiry : FloatValue) : setKey store key expiry ≠ store := by
  have nobody : (store.any fun entry => entry.1.same key) = false := by
    rw [Library.getKey,Option.map_eq_none_iff,List.find?_eq_none] at absent
    rw [List.any_eq_false]
    exact absent
  intro same
  have lengths := congrArg List.length same
  simp [setKey,nobody] at lengths

theorem stores_ended {entries : List (String × Tree)} {key : PyKey} (stores : Stores lib v call entries key) :
    Addressed call.config entries ∧ ∃ client expiry, v.validateIdToken lib call =
      (lifted (mapClaims lib call entries),⟨client,setKey v.antiReplayStore key expiry⟩) := by
  obtain ⟨token,kid,k,parses,selects,found,verifies,current⟩ := stores.signed
  refine ⟨current.addressed,(v.jwksClient.getKey call.remoteProvider kid).2,?_⟩
  have verified : checkSignature lib token kid (some k) = .ok () := checkSignature_ok.mpr ⟨k,rfl,verifies⟩
  rcases @checkReplay_cases lib call entries current.unexpired v.antiReplayStore with ⟨none,_⟩ | ⟨_,unknown,_⟩ | ⟨_,key',known,outcome⟩
  · rw [stores.truthy] at none
    cases none
  · rw [stores.jti] at unknown
    cases unknown
  · obtain rfl : key = key' := Option.some.inj (stores.jti.symm.trans known)
    rcases outcome with ⟨stored,_⟩ | ⟨_,expiry,ended⟩
    · exact absurd stores.fresh stored
    · refine ⟨expiry,?_⟩
      unfold validateIdToken
      rw [parseToken_ok.mpr parses]
      dsimp only
      rw [selectKid_ok.mpr selects]
      dsimp only
      rw [lifted_ok.mpr found]
      dsimp only
      rw [verified]
      dsimp only
      rw [checkClaims_ok.mpr current]
      dsimp only
      rw [ended]

theorem store_kept_iff : (∀ e w, v.validateIdToken lib call = (.error e,w) → w.antiReplayStore = v.antiReplayStore) ↔
    ∀ entries key, Stores lib v call entries key → Completes call entries := by
  constructor
  · intro kept entries key stores
    obtain ⟨addressed,client,expiry,ended⟩ := stores_ended stores
    by_contra stops
    cases mapped : mapClaims lib call entries with
    | ok claims => exact stops ((mapClaims_isOk addressed).mp ⟨claims,mapped⟩)
    | error e =>
      rw [mapped] at ended
      exact setKey_ne stores.fresh expiry (kept (.other e) _ ended)
  · intro completes e w raised
    unfold validateIdToken at raised
    split at raised
    · cases raised
      rfl
    next token parsed =>
      split at raised
      · cases raised
        rfl
      next kid selected =>
        dsimp only at raised
        split at raised
        · cases raised
          rfl
        next key found =>
          split at raised
          · cases raised
            rfl
          next verified =>
            split at raised
            · cases raised
              rfl
            next entries checked =>
              split at raised
              · cases raised
                rfl
              next store replayed =>
                obtain ⟨failed,rfl⟩ := Prod.mk.inj raised
                have current := checkClaims_ok.mp checked
                obtain ⟨k,rfl,verifies⟩ := checkSignature_ok.mp verified
                rcases @checkReplay_cases lib call entries current.unexpired v.antiReplayStore with
                  ⟨_,ended⟩ | ⟨_,_,ended⟩ | ⟨given,jti,known,⟨_,_,ended⟩ | ⟨fresh,_⟩⟩
                · rw [replayed] at ended
                  cases ended
                  rfl
                · rw [replayed] at ended
                  cases ended
                · rw [replayed] at ended
                  cases ended
                · obtain ⟨claims,mapped⟩ := (mapClaims_isOk current.addressed).mpr (completes entries jti
                    ⟨⟨token,kid,k,parseToken_ok.mp parsed,selectKid_ok.mp selected,lifted_ok.mp found,verifies,current⟩,
                      given,known,fresh⟩)
                  rw [mapped] at failed
                  cases failed

end outcomes

end OidcValidator
open OidcValidator

/-- A call ends in claims or in a declared error exactly if whatever it gets to look at has the shape that its code
handles, and a call that raises leaves the anti-replay store alone exactly if one that stores a new jti completes. -/
theorem oidc_outcomes_iff (lib : OidcLibrary) (v : OidcValidator) (call : OidcCall) :
    ((∀ e, (v.validateIdToken lib call).1 ≠ .error (.other e)) ↔ WellShaped lib v call) ∧
    ((∀ e w, v.validateIdToken lib call = (.error e,w) → w.antiReplayStore = v.antiReplayStore) ↔
      ∀ entries key, Stores lib v call entries key → Completes call entries) :=
  ⟨declared_iff,store_kept_iff⟩

section examples

def headerText : String := "\x7b\"alg\":\"RS256\",\"kid\":\"k1\"\x7d"

def headerB64 : String := "eyJhbGciOiJSUzI1NiIsImtpZCI6ImsxIn0"

def payloadText : String := "\x7b\"aud\":\"app\",\"iat\":null,\"iss\":\"idp\",\"jti\":\"j1\"\x7d"

def payloadB64 : String := "eyJhdWQiOiJhcHAiLCJpYXQiOm51bGwsImlzcyI6ImlkcCIsImp0aSI6ImoxIn0"

def payloadEntries : List (String × Tree) := [("aud",.str "app"),("iat",.null),("iss",.str "idp"),("jti",.str "j1")]

/-- A library that reads three texts. -/
def plainOidcLibrary : OidcLibrary where
  hmacSha256 := fun key message => key ++ message
  loads := fun text =>
    if text = "[]" then .ok (.arr [])
    else if text = headerText then .ok (.obj [("alg",.str "RS256"),("kid",.str "k1")])
    else if text = payloadText then .ok (.obj payloadEntries)
    else .error "Expecting value"
  upper := fun s => s
  str := fun _ => ""
  reprFloat := fun _ => ""
  undecodable := fun _ => "Incorrect padding"

def plainConfiguration : OidcTenantConfiguration where
  tenantId := ⟨"tnt_acme",Eq.refl true⟩
  issuerUrl := "idp"
  clientId := "app"

/-- The header and the payload are JSON arrays. -/
def arrayCall : OidcCall where
  idTokenRaw := "W10.W10.x"
  expectedNonce := none
  config := plainConfiguration
  now := ⟨0⟩

def signedKey : JwksKey := [("kid",.str "k1"),("secret",.str "s3cret")]

def keyedValidator : OidcValidator where
  jwksClient := { cache := [(.str "k1",signedKey)] }

def signedToken : JwtParts where
  headerB64 := headerB64
  payloadB64 := payloadB64
  sigB64 := expectedSignature plainOidcLibrary "s3cret" headerB64 payloadB64
  header := .obj [("alg",.str "RS256"),("kid",.str "k1")]
  payload := .obj payloadEntries

/-- A signed token whose `iat` is null. -/
def nullIssueCall : OidcCall where
  idTokenRaw := headerB64 ++ "." ++ payloadB64 ++ "." ++ signedToken.sigB64
  expectedNonce := none
  config := plainConfiguration
  now := ⟨0⟩

theorem arrayCall_parses : Parses plainOidcLibrary arrayCall.idTokenRaw ⟨"W10","W10","x",.arr [],.arr []⟩ where
  parts := by decide +kernel
  header := ⟨"[]",by decide +kernel,rfl⟩
  payload := ⟨"[]",by decide +kernel,rfl⟩

set_option maxRecDepth 2000 in
theorem signedToken_signature : signedToken.sigB64 = "czNjcmV0ZXlKaGJHY2lPaUpTVXpJMU5pSXNJbXRwWkNJNkltc3hJbjAuZXlKaGRXUWlPaUpoY0hBaUxDSnBZWFFpT201MWJHd3NJbWx6Y3lJNkltbGtjQ0lzSW1wMGFTSTZJbW94SW4w" := by
  unfold signedToken
  rw [expectedSignature,b64urlEncode,Bytes.ofAscii,String.toList_ofList]
  exact congrArg String.ofList (by decide +kernel)

theorem free_of_chars {s : String} {cs : List Char} (text : s = String.ofList cs) (free : '.' ∉ cs) : '.' ∉ s.toList := by
  rw [text,String.toList_ofList]
  exact free

theorem split_parts {header payload signature : String} (first : '.' ∉ header.toList) (second : '.' ∉ payload.toList)
    (third : '.' ∉ signature.toList) :
    ((header ++ "." ++ payload ++ "." ++ signature).toList.splitOn '.').map String.ofList = [header,payload,signature] := by
  have parts : (header ++ "." ++ payload ++ "." ++ signature).toList =
      ['.'].intercalate [header.toList,payload.toList,signature.toList] := by
    simp [String.toList_append,List.intercalate]
  have free : ∀ part ∈ [header.toList,payload.toList,signature.toList], '.' ∉ part := by
    simp only [List.forall_mem_cons]
    exact ⟨first,second,third,List.forall_mem_nil _⟩
  rw [parts,List.splitOn_intercalate _ free (List.cons_ne_nil _ _)]
  simp only [List.map_cons,List.map_nil,String.ofList_toList]

set_option maxRecDepth 2000 in
theorem nullIssue_parses : Parses plainOidcLibrary nullIssueCall.idTokenRaw signedToken where
  parts := by
    change ((headerB64 ++ "." ++ payloadB64 ++ "." ++ signedToken.sigB64).toList.splitOn '.').map String.ofList =
      [headerB64,payloadB64,signedToken.sigB64]
    -- the signature is computed only once
    rw [signedToken_signature]
    exact split_parts (free_of_chars rfl (by decide)) (free_of_chars rfl (by decide)) (free_of_chars rfl (by decide))
  header := ⟨headerText,by decide +kernel,rfl⟩
  payload := ⟨payloadText,by decide +kernel,rfl⟩

theorem nullIssue_stores : Stores plainOidcLibrary keyedValidator nullIssueCall payloadEntries (.str "j1") where
  signed := by
    refine ⟨signedToken,.str "k1",signedKey,nullIssue_parses,⟨⟨_,rfl,by decide,by decide,rfl⟩,rfl⟩,rfl,⟨"s3cret",rfl,rfl⟩,?_⟩
    exact ⟨rfl,⟨rfl,List.mem_singleton_self _⟩,.inl rfl,.inl rfl,nofun⟩
  truthy := rfl
  jti := rfl
  fresh := rfl

/-- A token of two arrays raises an `AttributeError`, and one whose `iat` is null is stored and raises a `TypeError`. -/
theorem exceptions_escape :
    (¬ ∀ e, (({} : OidcValidator).validateIdToken plainOidcLibrary arrayCall).1 ≠ .error (.other e)) ∧
    ¬ ∀ e w, keyedValidator.validateIdToken plainOidcLibrary nullIssueCall = (.error e,w) →
      w.antiReplayStore = keyedValidator.antiReplayStore := by
  constructor
  · intro declared
    obtain ⟨⟨entries,object⟩,_⟩ := declared_iff.mp declared _ arrayCall_parses
    cases object
  · intro kept
    obtain ⟨x,issued,_⟩ := (store_kept_iff.mp kept _ _ nullIssue_stores).iat
    cases issued

end examples
end RevPilot.Iam
