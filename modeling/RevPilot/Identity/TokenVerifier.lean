import RevPilot.Connectors.Webhook
import RevPilot.Identity.Provenance
import RevPilot.Library.Outcome
import RevPilot.Library.PyValue
import RevPilot.Library.Sorting

/-! The reference verifier of signed tokens with its anti-replay set. HMAC, SHA-256, `json.loads`,
`datetime.fromisoformat` and `str` are parameters; a set is a list of its members. -/
namespace RevPilot.Identity
open Library JsonText Shared Approval Connectors

structure TokenLibrary where
  hmacSha256 : List UInt8 → List UInt8 → List UInt8
  sha256 : List UInt8 → Vector UInt8 32
  loads : String → Except String Tree
  fromisoformat : String → Except String IsoTime
  str : Tree → String
  /-- The text of the exception that bytes raise which are no base64 or no UTF-8. -/
  undecodable : List UInt8 → String

/-- `hash(v)` of a member looked for. -/
def hashed (v : Tree) : Except PyError PyKey :=
  match v.key? with
  | some key => .ok key
  | none => .error .typeError

/-- `key in texts` for a set of texts. -/
def memberOf (texts : List String) : PyKey → Bool
  | .str s => texts.contains s
  | _ => false

/-- `frozenset(v)`. -/
def frozenset (v : Tree) : Except PyError (List PyKey) :=
  match v.elements? with
  | some keys => .ok keys
  | none => .error .typeError

section claims

def nullableText : Option String → Tree
  | none => .null
  | some s => .str s

/-- A text argument of the claims. -/
def cleanText (name : String) : Tree → Except PyError {s : String // Stripped s}
  | .str s =>
    if filled : Text.strip s ≠ "" then .ok ⟨Text.strip s,Text.strip_strip s,filled⟩
    else .error (validationError (name ++ " cannot be empty or whitespace-only"))
  | _ => .error .typeError

def cleanOptional (name : String) : Tree → Except PyError {o : Option String // ∀ s ∈ o, Stripped s}
  | .null => .ok ⟨none,nofun⟩
  | v => (cleanText name v).map fun s => ⟨some s.1,fun _ same => Option.some.inj same ▸ s.2⟩

def cleanSubject (v : Tree) : Except PyError
    {s : String // Stripped s ∧ (Text.startsWith s "usr_" = true ∨ Text.startsWith s "svc_" = true)} := do
  let sub ← cleanText "sub" v
  if lead : Text.startsWith sub.1 "usr_" = true ∨ Text.startsWith sub.1 "svc_" = true then return ⟨sub.1,sub.2,lead⟩
  else throw (validationError ("sub must start with 'usr_' or 'svc_', got '" ++ (match v with | .str s => s | _ => "") ++ "'"))

/-- `email` is a text or `None`. -/
def emailOf : Tree → Except PyError (Option String)
  | .null => .ok none
  | .str s => .ok (some s)
  | _ => .error .typeError

/-- The texts among the members. -/
def textsOf (keys : List PyKey) : List String := keys.filterMap PyKey.string?

/-- `AuthTokenClaims(...)` of arguments of any type; of the roles and permissions the claims keep the texts. -/
def AuthTokenClaims.make (sub iss aud : Tree) (exp iat : UtcDateTime) (nbf : Option UtcDateTime) (tenantId : Tree)
    (roles permissions : List PyKey) (email jti : Tree) : Except PyError AuthTokenClaims := do
  let sub ← cleanSubject sub
  let iss ← cleanText "iss" iss
  let aud ← cleanText "aud" aud
  let tenantId ← cleanOptional "tenant_id" tenantId
  let email ← emailOf email
  let jti ← cleanOptional "jti" jti
  return ⟨sub.1,iss.1,aud.1,exp,iat,nbf,tenantId.1,textsOf roles,textsOf permissions,email,jti.1,sub.2,iss.2,aud.2,
    tenantId.2,jti.2⟩

/-- What the constructor makes of its arguments. -/
structure Made (sub iss aud : Tree) (exp iat : UtcDateTime) (nbf : Option UtcDateTime) (tenantId : Tree)
    (roles permissions : List PyKey) (email jti : Tree) (claims : AuthTokenClaims) : Prop where
  sub : ∃ s, sub = .str s ∧ claims.sub = Text.strip s
  iss : ∃ s, iss = .str s ∧ claims.iss = Text.strip s
  aud : ∃ s, aud = .str s ∧ claims.aud = Text.strip s
  exp : claims.exp = exp
  iat : claims.iat = iat
  nbf : claims.nbf = nbf
  tenantId : ∃ o, tenantId = nullableText o ∧ claims.tenantId = o.map Text.strip
  roles : claims.roles = textsOf roles
  permissions : claims.permissions = textsOf permissions
  email : email = nullableText claims.email
  jti : ∃ o, jti = nullableText o ∧ claims.jti = o.map Text.strip

theorem cleanText_ok {name : String} {v : Tree} {r : {s : String // Stripped s}} :
    cleanText name v = .ok r ↔ ∃ s, v = .str s ∧ r.1 = Text.strip s := by
  cases v with
  | str s =>
    rw [cleanText]
    split
    next filled => simp [Subtype.ext_iff,eq_comm]
    next blank =>
      refine iff_of_false nofun ?_
      rintro ⟨t,same,stripped⟩
      cases same
      exact r.2.2 (stripped.trans (not_not.mp blank))
  | _ => simp [cleanText]

theorem cleanOptional_ok {name : String} {v : Tree} {r : {o : Option String // ∀ s ∈ o, Stripped s}} :
    cleanOptional name v = .ok r ↔ ∃ o, v = nullableText o ∧ r.1 = o.map Text.strip := by
  have texts (o : Option String) : v = nullableText o ↔ (v = .null ∧ o = none) ∨ ∃ s, v = .str s ∧ o = some s := by
    cases o <;> simp [nullableText]
  by_cases nothing : v = .null
  · subst nothing
    simp [cleanOptional,texts,Subtype.ext_iff,eq_comm]
  · have clean : cleanOptional name v = (cleanText name v).map fun s => ⟨some s.1,fun _ same => Option.some.inj same ▸ s.2⟩ := by
      unfold cleanOptional
      split
      next => exact absurd rfl nothing
      next => rfl
    rw [clean,Outcome.map_eq_ok]
    simp only [cleanText_ok,texts,nothing,false_and,false_or]
    constructor
    · rintro ⟨s,⟨t,given,stripped⟩,rfl⟩
      exact ⟨some t,⟨t,given,rfl⟩,congrArg some stripped⟩
    · rintro ⟨o,⟨s,given,rfl⟩,stripped⟩
      exact ⟨⟨Text.strip s,r.2 _ stripped⟩,⟨s,given,rfl⟩,Subtype.ext stripped.symm⟩

theorem cleanSubject_ok {v : Tree}
    {r : {s : String // Stripped s ∧ (Text.startsWith s "usr_" = true ∨ Text.startsWith s "svc_" = true)}} :
    cleanSubject v = .ok r ↔ ∃ s, v = .str s ∧ r.1 = Text.strip s := by
  unfold cleanSubject
  rw [Outcome.bind_eq_ok]
  constructor
  · rintro ⟨sub,clean,ok⟩
    split at ok
    next =>
      cases ok
      exact cleanText_ok.mp clean
    next => cases ok
  · intro given
    refine ⟨⟨r.1,r.2.1⟩,cleanText_ok.mpr given,?_⟩
    rw [dif_pos r.2.2]
    rfl

theorem emailOf_ok {v : Tree} {o : Option String} : emailOf v = .ok o ↔ v = nullableText o := by
  cases v <;> cases o <;> simp [emailOf,nullableText]

theorem make_ok {sub iss aud : Tree} {exp iat : UtcDateTime} {nbf : Option UtcDateTime} {tenantId : Tree}
    {roles permissions : List PyKey} {email jti : Tree} {claims : AuthTokenClaims} :
    AuthTokenClaims.make sub iss aud exp iat nbf tenantId roles permissions email jti = .ok claims ↔
      Made sub iss aud exp iat nbf tenantId roles permissions email jti claims := by
  unfold AuthTokenClaims.make
  simp only [Outcome.bind_eq_ok,Outcome.pure_eq_ok,cleanSubject_ok,cleanText_ok,cleanOptional_ok,emailOf_ok]
  constructor
  · rintro ⟨s,sub,i,iss,a,aud,t,tenant,e,email,j,jti,rfl⟩
    exact ⟨sub,iss,aud,rfl,rfl,rfl,tenant,rfl,rfl,email,jti⟩
  · intro made
    refine ⟨⟨claims.sub,claims.subAccepted⟩,made.sub,⟨claims.iss,claims.issAccepted⟩,made.iss,
      ⟨claims.aud,claims.audAccepted⟩,made.aud,⟨claims.tenantId,claims.tenantAccepted⟩,made.tenantId,claims.email,
      made.email,⟨claims.jti,claims.jtiAccepted⟩,made.jti,?_⟩
    rw [← made.exp,← made.iat,← made.nbf,← made.roles,← made.permissions]

/-- A text that is not blank. -/
def Filled (tree : Tree) (s : String) : Prop := tree = .str s ∧ Text.strip s ≠ ""

theorem filled_lead {s : String} (lead : Text.startsWith (Text.strip s) "usr_" = true ∨ Text.startsWith (Text.strip s) "svc_" = true) :
    Text.strip s ≠ "" := by
  intro blank
  rw [blank] at lead
  revert lead
  decide

theorem make_isOk {sub iss aud : Tree} {exp iat : UtcDateTime} {nbf : Option UtcDateTime} {tenantId : Tree}
    {roles permissions : List PyKey} {email jti : Tree} :
    (∃ claims, AuthTokenClaims.make sub iss aud exp iat nbf tenantId roles permissions email jti = .ok claims) ↔
      (∃ s, sub = .str s ∧ (Text.startsWith (Text.strip s) "usr_" = true ∨ Text.startsWith (Text.strip s) "svc_" = true)) ∧
      (∃ s, Filled iss s) ∧ (∃ s, Filled aud s) ∧ (tenantId = .null ∨ ∃ s, Filled tenantId s) ∧
      (∃ o, email = nullableText o) ∧ (jti = .null ∨ ∃ s, Filled jti s) := by
  have optional {v : Tree} : (v = .null ∨ ∃ s, Filled v s) ↔ ∃ o, v = nullableText o ∧ ∀ s ∈ o.map Text.strip, Stripped s := by
    constructor
    · rintro (bare | ⟨s,given,solid⟩)
      · exact ⟨none,bare,nofun⟩
      · refine ⟨some s,given,?_⟩
        rintro _ ⟨⟩
        exact ⟨Text.strip_strip s,solid⟩
    · rintro ⟨o,given,stripped⟩
      cases o with
      | none => exact .inl given
      | some s => exact .inr ⟨s,given,(stripped _ rfl).2⟩
  simp only [make_ok,optional]
  constructor
  · rintro ⟨claims,made⟩
    obtain ⟨s,subject,clean⟩ := made.sub
    obtain ⟨i,issuer,clean'⟩ := made.iss
    obtain ⟨a,audience,clean''⟩ := made.aud
    obtain ⟨t,tenant,cleaned⟩ := made.tenantId
    obtain ⟨j,replay,cleaned'⟩ := made.jti
    exact ⟨⟨s,subject,clean ▸ claims.subAccepted.2⟩,⟨i,issuer,clean' ▸ claims.issAccepted.2⟩,
      ⟨a,audience,clean'' ▸ claims.audAccepted.2⟩,⟨t,tenant,cleaned ▸ claims.tenantAccepted⟩,⟨_,made.email⟩,
      ⟨j,replay,cleaned' ▸ claims.jtiAccepted⟩⟩
  · rintro ⟨⟨s,subject,lead⟩,⟨i,issuer,named⟩,⟨a,audience,heard⟩,⟨t,tenant,bound⟩,⟨mail,given⟩,⟨j,replay,marked⟩⟩
    exact ⟨⟨Text.strip s,Text.strip i,Text.strip a,exp,iat,nbf,t.map Text.strip,textsOf roles,textsOf permissions,mail,
      j.map Text.strip,⟨⟨Text.strip_strip s,filled_lead lead⟩,lead⟩,⟨Text.strip_strip i,named⟩,⟨Text.strip_strip a,heard⟩,
      bound,marked⟩,⟨⟨s,subject,rfl⟩,⟨i,issuer,rfl⟩,⟨a,audience,rfl⟩,rfl,rfl,rfl,⟨t,tenant,rfl⟩,rfl,rfl,given,
      ⟨j,replay,rfl⟩⟩⟩

end claims

/-- Verified claims; the members of their sets that are no texts stand apart. -/
structure VerifiedToken (hmac : Hmac) where
  token : SignedClaimsToken hmac
  otherRoles : List PyKey
  otherPermissions : List PyKey

structure InMemoryTokenVerifier where
  secretKey : List UInt8 := Bytes.utf8 "revpilot-in-memory-verifier-key-2026"
  activeSessions : List String := []
  revokedTokens : List String := []
  revokedSessions : List String := []
  activeTenants : Option (List String) := none
  seenJtis : List PyKey := []

variable (lib : TokenLibrary)

namespace TokenLibrary

/-- The provenance of verified tokens. -/
def hexHmac : Hmac := fun key msg => Bytes.hex (lib.hmacSha256 (Bytes.utf8 key) (Bytes.utf8 msg))

/-- What `from_iso` hands to `datetime.fromisoformat`. -/
def standardized (isoStr : String) : String :=
  let cleaned := Text.strip isoStr
  if Text.endsWith cleaned "Z" || Text.endsWith cleaned "z" then
    String.ofList (cleaned.toList.dropLast ++ ['+','0','0',':','0','0'])
  else cleaned

/-- `UtcDateTime.from_iso`. -/
def fromIso : Tree → Except String UtcDateTime
  | .str isoStr =>
    match lib.fromisoformat (standardized isoStr) with
    | .error err => .error err
    | .ok dt =>
      if dt.aware = false then .error ("ISO string must include timezone offset: " ++ isoStr)
      else if dt.micros < UtcDateTime.minMicros ∨ UtcDateTime.maxMicros < dt.micros then
        .error "date value out of range"
      else .ok ⟨dt.micros⟩
  | v => .error ("iso_str must be a str, got " ++ v.typeName)

/-- `UtcDateTime.from_iso(data[name])`. -/
def timeAt (data : List (String × Tree)) (name : String) : Except String UtcDateTime :=
  match data.lookup name with
  | none => .error ("'" ++ name ++ "'")
  | some v => lib.fromIso v

end TokenLibrary

namespace InMemoryTokenVerifier

def signature (secretKey : List UInt8) (encodedPayload : String) : String :=
  Bytes.hex (lib.hmacSha256 secretKey (Bytes.utf8 encodedPayload))

def sortedTexts (texts : List String) : Tree := .arr ((sortedBy String.toList texts).map .str)

/-- The payload in the order of the source. -/
def payloadMembers (claims : AuthTokenClaims) (sessionId : String) : List (String × Tree) :=
  [("sub",.str claims.sub),("iss",.str claims.iss),("aud",.str claims.aud),("exp",.str claims.exp.isoformat),
    ("iat",.str claims.iat.isoformat),("nbf",nullableText (claims.nbf.map UtcDateTime.isoformat)),
    ("tenant_id",nullableText claims.tenantId),("roles",sortedTexts claims.roles),
    ("permissions",sortedTexts claims.permissions),("email",nullableText claims.email),("jti",nullableText claims.jti),
    ("session_id",.str sessionId)]

/-- `sort_keys=True`. -/
def sortedMembers (claims : AuthTokenClaims) (sessionId : String) : List (String × Tree) :=
  sortedBy (fun member => member.1.toList) (payloadMembers claims sessionId)

def payload (claims : AuthTokenClaims) (sessionId : String) : Tree := .obj (sortedMembers claims sessionId)

/-- `json.dumps(payload, sort_keys=True)`. -/
def payloadText (claims : AuthTokenClaims) (sessionId : String) : String :=
  render asciiSpaced (payload claims sessionId)

def signToken (v : InMemoryTokenVerifier) (claims : AuthTokenClaims) (sessionId : String) : String :=
  let encodedPayload := Bytes.ofAscii (Bytes.urlsafeEncode (Bytes.utf8 (payloadText claims sessionId)))
  encodedPayload ++ "." ++ signature lib v.secretKey encodedPayload

/-- `json.loads(base64.urlsafe_b64decode(...).decode("utf-8"))`. -/
def loadPayload (encodedPayload : String) : Except String Tree :=
  match (Bytes.urlsafeDecode (Bytes.utf8 encodedPayload)).bind Bytes.decodeUtf8 with
  | none => .error (lib.undecodable (Bytes.utf8 encodedPayload))
  | some text => lib.loads text

/-- The arguments of a call, the clock reading among them. -/
structure Call where
  tokenString : String
  expectedIssuer : String := "revpilot-idp"
  expectedAudience : String := "revpilot-api"
  asOf : Option UtcDateTime := none
  now : UtcDateTime

def Call.checkTime (call : Call) : UtcDateTime := call.asOf.getD call.now

/-- A token with its signature and payload read. -/
structure Opened where
  sig : String
  data : List (String × Tree)

def openToken (v : InMemoryTokenVerifier) (tokenString : String) : Except PyError Opened :=
  match (tokenString.toList.splitOn '.').map String.ofList with
  | [_] => .error (authenticationError "Malformed token structure: expected header/payload.signature")
  | [encodedPayload,sig] => do
    if !(← compareDigest sig (signature lib v.secretKey encodedPayload)) then
      throw (authenticationError "Invalid token signature")
    match loadPayload lib encodedPayload with
    | .error e => throw (authenticationError ("Malformed token payload: " ++ e))
    | .ok (.obj data) => return ⟨sig,data⟩
    | .ok _ => throw .attributeError
  | _ => .error (authenticationError "Invalid token format")

/-- The value that `data.get(name)` has to equal. -/
def checkParty (title : String) (data : List (String × Tree)) (name expected : String) : Except PyError Unit :=
  match Tree.getD data name .null with
  | .str s => if s = expected then .ok () else .error (mismatch (.str s))
  | other => .error (mismatch other)
where
  mismatch (actual : Tree) : PyError :=
    authenticationError (title ++ " mismatch: expected '" ++ expected ++ "', got '" ++ lib.str actual ++ "'")

structure TokenTimes where
  exp : UtcDateTime
  iat : UtcDateTime
  nbf : Option UtcDateTime

/-- `nbf`, which counts where it is truthy. -/
def readOpening (data : List (String × Tree)) : Except String (Option UtcDateTime) :=
  if (Tree.getD data "nbf" .null).truthy then (lib.timeAt data "nbf").map some else .ok none

def readTimes (data : List (String × Tree)) : Except PyError TokenTimes :=
  Except.mapError (fun e => validationError ("Invalid timestamp in token claims: " ++ e)) do
    let exp ← lib.timeAt data "exp"
    let iat ← lib.timeAt data "iat"
    let nbf ← readOpening lib data
    return ⟨exp,iat,nbf⟩

def checkWindow (times : TokenTimes) (checkTime : UtcDateTime) : Except PyError Unit := do
  let expiry ← shifted times.exp 60
  if expiry ≤ checkTime then throw (authenticationError "Token has expired")
  match times.nbf with
  | none => return ()
  | some nbf =>
    let opening ← shifted nbf (-60)
    if checkTime < opening then throw (authenticationError "Token not yet active")

def checkSession (v : InMemoryTokenVerifier) (data : List (String × Tree)) : Except PyError String := do
  let sessionId := Tree.getD data "session_id" (.str "")
  if !sessionId.truthy then throw (authenticationError "Session is not active or missing")
  match ← hashed sessionId with
  | .str s =>
    if !v.activeSessions.contains s then throw (authenticationError "Session is not active or missing")
    if v.revokedSessions.contains s then throw (authenticationError "Session has been revoked")
    return s
  | _ => throw (authenticationError "Session is not active or missing")

def checkRevocation (v : InMemoryTokenVerifier) (tokenString : String) (jti : Tree) : Except PyError Unit := do
  let revoked ←
    if v.revokedTokens.contains tokenString then pure true
    else if jti.truthy then (hashed jti).map (memberOf v.revokedTokens)
    else pure false
  if revoked then throw (authenticationError "Token has been revoked")

/-- A token that reached the anti-replay check. -/
structure Admitted where
  sig : String
  data : List (String × Tree)
  times : TokenTimes
  sessionId : String

def Admitted.jti (p : Admitted) : Tree := Tree.getD p.data "jti" .null

/-- The checks in front of the anti-replay check. -/
def admission (v : InMemoryTokenVerifier) (call : Call) : Except PyError Admitted := do
  let opened ← v.openToken lib call.tokenString
  checkParty lib "Issuer" opened.data "iss" call.expectedIssuer
  checkParty lib "Audience" opened.data "aud" call.expectedAudience
  let times ← readTimes lib opened.data
  checkWindow times call.checkTime
  let sessionId ← v.checkSession opened.data
  v.checkRevocation call.tokenString (Tree.getD opened.data "jti" .null)
  return ⟨opened.sig,opened.data,times,sessionId⟩

/-- `jti in self._seen_jtis`. -/
def hasSeen (v : InMemoryTokenVerifier) (key : PyKey) : Bool := v.seenJtis.any key.same

/-- The anti-replay check, with the jti added. -/
def checkReplay (v : InMemoryTokenVerifier) (jti : Tree) : Except PyError InMemoryTokenVerifier :=
  if jti.truthy then do
    let key ← hashed jti
    if v.hasSeen key then throw (authenticationError ("Token replay detected for JTI: " ++ lib.str jti))
    return { v with seenJtis := v.seenJtis ++ [key] }
  else .ok v

def checkTenant (v : InMemoryTokenVerifier) (data : List (String × Tree)) : Except PyError Tree := do
  let tenantId := Tree.getD data "tenant_id" .null
  if !tenantId.truthy then throw (tenancyViolationError "Principal lacks required tenant association")
  match v.activeTenants with
  | none => return tenantId
  | some tenants =>
    if !memberOf tenants (← hashed tenantId) then
      throw (tenancyViolationError ("Tenant '" ++ lib.str tenantId ++ "' is deactivated or suspended"))
    return tenantId

/-- `data[name]`. -/
def item (data : List (String × Tree)) (name : String) : Except PyError Tree :=
  match data.lookup name with
  | some v => .ok v
  | none => .error (.runtime "KeyError")

/-- `hashlib.sha256(sig.encode("utf-8")).hexdigest()[:16]`. -/
def fingerprint (sig : String) : String :=
  String.ofList ((Bytes.hex (lib.sha256 (Bytes.utf8 sig)).toList).toList.take 16)

/-- The rest of the call, behind the anti-replay check. -/
def finish (v : InMemoryTokenVerifier) (call : Call) (p : Admitted) : Except PyError (VerifiedToken lib.hexHmac) := do
  let tenantId ← v.checkTenant lib p.data
  let sub ← item p.data "sub"
  let roles ← frozenset (Tree.getD p.data "roles" (.arr []))
  let permissions ← frozenset (Tree.getD p.data "permissions" (.arr []))
  let claims ← AuthTokenClaims.make sub (.str call.expectedIssuer) (.str call.expectedAudience) p.times.exp p.times.iat
    p.times.nbf tenantId roles permissions (Tree.getD p.data "email" .null) p.jti
  let token ← VerifiedClaimsToken.issue lib.hexHmac claims call.expectedIssuer call.expectedAudience p.sessionId
    (fingerprint lib p.sig) (some call.checkTime) call.now
  return ⟨token,roles.filter (·.string?.isNone),permissions.filter (·.string?.isNone)⟩

/-- `verify_token`, with the verifier that it leaves behind. -/
def verifyToken (v : InMemoryTokenVerifier) (call : Call) :
    Except PyError (VerifiedToken lib.hexHmac) × InMemoryTokenVerifier :=
  match v.admission lib call with
  | .error e => (.error e,v)
  | .ok p =>
    match v.checkReplay lib p.jti with
    | .error e => (.error e,v)
    | .ok w => (w.finish lib call p,w)

variable {lib} {v : InMemoryTokenVerifier} {call : Call} {p : Admitted}

theorem openToken_ok {tokenString : String} {opened : Opened} : v.openToken lib tokenString = .ok opened ↔
    ∃ encodedPayload, (tokenString.toList.splitOn '.').map String.ofList = [encodedPayload,opened.sig] ∧
      opened.sig = signature lib v.secretKey encodedPayload ∧ loadPayload lib encodedPayload = .ok (.obj opened.data) := by
  unfold openToken
  split
  next parts => simp [parts]
  next encodedPayload sig parts =>
    have genuine : compareDigest sig (signature lib v.secretKey encodedPayload) = .ok true ↔
        sig = signature lib v.secretKey encodedPayload := compareDigest_true (Bytes.hex_ascii _)
    rw [Outcome.bind_eq_ok]
    constructor
    · rintro ⟨same,compared,loaded⟩
      cases same with
      | false => cases loaded
      | true =>
        split at loaded
        next => cases loaded
        next data read =>
          cases loaded
          exact ⟨encodedPayload,parts,genuine.mp compared,read⟩
        next => cases loaded
    · rintro ⟨encoded,pair,signed,read⟩
      rw [parts] at pair
      cases pair
      refine ⟨true,genuine.mpr signed,?_⟩
      rw [read]
      rfl
  next other =>
    refine iff_of_false nofun ?_
    rintro ⟨encodedPayload,pair,_⟩
    exact other _ _ pair

theorem checkParty_ok {title name expected : String} {data : List (String × Tree)} {u : Unit} :
    checkParty lib title data name expected = .ok u ↔ Tree.getD data name .null = .str expected := by
  unfold checkParty
  split
  next s actual => simp [actual]
  next other actual =>
    refine iff_of_false nofun ?_
    intro same
    exact actual _ same

theorem hashed_ok {tree : Tree} {key : PyKey} : hashed tree = .ok key ↔ tree.key? = some key := by
  unfold hashed
  split <;> simp_all

theorem shifted_ok {t later : UtcDateTime} {seconds : Int} : shifted t seconds = .ok later ↔ t.plusSeconds seconds = some later := by
  unfold shifted
  split <;> simp_all

theorem checkWindow_ok {times : TokenTimes} {checkTime : UtcDateTime} {u : Unit} : checkWindow times checkTime = .ok u ↔
    (∃ expiry, times.exp.plusSeconds 60 = some expiry ∧ checkTime < expiry) ∧
      ∀ nbf ∈ times.nbf, ∃ opening, nbf.plusSeconds (-60) = some opening ∧ opening ≤ checkTime := by
  have later (a b : UtcDateTime) : ¬ a ≤ b ↔ b < a := Int.not_le
  have sooner (a b : UtcDateTime) : ¬ b < a ↔ a ≤ b := Int.not_lt
  unfold checkWindow
  cases times.nbf with
  | none => simp [shifted_ok,later]
  | some nbf =>
    simp [shifted_ok,later,sooner,← and_assoc]

theorem checkSession_ok {data : List (String × Tree)} {sessionId : String} : v.checkSession data = .ok sessionId ↔
    Tree.getD data "session_id" (.str "") = .str sessionId ∧ sessionId ≠ "" ∧ sessionId ∈ v.activeSessions ∧
      sessionId ∉ v.revokedSessions := by
  unfold checkSession
  generalize Tree.getD data "session_id" (.str "") = given
  cases given with
  | str s =>
    by_cases active : s ∈ v.activeSessions
    · by_cases revoked : s ∈ v.revokedSessions
      · simp [Tree.truthy,hashed,Tree.key?,active,revoked,Outcome.throw_map]
        grind
      · simp [Tree.truthy,hashed,Tree.key?,active,revoked]
        grind
    · simp [Tree.truthy,hashed,Tree.key?,active]
      grind
  | null => simp [Tree.truthy]
  | bool b => simp [Tree.truthy,hashed,Tree.key?]
  | int i => simp [Tree.truthy,hashed,Tree.key?]
  | float x => simp [Tree.truthy,hashed,Tree.key?]
  | arr items => simp [hashed,Tree.key?]
  | obj members => simp [hashed,Tree.key?]

theorem checkRevocation_ok {tokenString : String} {jti : Tree} {u : Unit} : v.checkRevocation tokenString jti = .ok u ↔
    tokenString ∉ v.revokedTokens ∧
      (jti.truthy = true → ∃ key, jti.key? = some key ∧ memberOf v.revokedTokens key = false) := by
  unfold checkRevocation
  by_cases listed : tokenString ∈ v.revokedTokens
  · simp [listed]
  · by_cases given : jti.truthy = true
    · unfold hashed
      cases known : jti.key? with
      | none => simp [listed,given,Except.map]
      | some key => simp [listed,given,Except.map]
    · simp [listed,given]

/-- The times of a payload. -/
structure TimesOf (lib : TokenLibrary) (data : List (String × Tree)) (times : TokenTimes) : Prop where
  exp : lib.timeAt data "exp" = .ok times.exp
  iat : lib.timeAt data "iat" = .ok times.iat
  nbf : if (Tree.getD data "nbf" .null).truthy then ∃ t, lib.timeAt data "nbf" = .ok t ∧ times.nbf = some t
    else times.nbf = none

theorem readTimes_ok {data : List (String × Tree)} {times : TokenTimes} :
    readTimes lib data = .ok times ↔ TimesOf lib data times := by
  have opening {o : Option UtcDateTime} : readOpening lib data = .ok o ↔
      if (Tree.getD data "nbf" .null).truthy then ∃ t, lib.timeAt data "nbf" = .ok t ∧ o = some t else o = none := by
    unfold readOpening
    split
    next =>
      rw [Outcome.map_eq_ok]
      exact exists_congr fun t => and_congr_right fun _ => eq_comm
    next => simp [eq_comm]
  unfold readTimes
  rw [Outcome.mapError_eq_ok]
  simp only [Outcome.bind_eq_ok,Outcome.pure_eq_ok,opening]
  constructor
  · rintro ⟨exp,expiry,iat,issued,nbf,opened,rfl⟩
    exact ⟨expiry,issued,opened⟩
  · intro read
    exact ⟨times.exp,read.exp,times.iat,read.iat,times.nbf,read.nbf,rfl⟩

/-- What a presentation needs to reach the anti-replay check. -/
structure Admits (lib : TokenLibrary) (v : InMemoryTokenVerifier) (call : Call) (p : Admitted) : Prop where
  token : ∃ encodedPayload, (call.tokenString.toList.splitOn '.').map String.ofList = [encodedPayload,p.sig] ∧
    p.sig = signature lib v.secretKey encodedPayload ∧ loadPayload lib encodedPayload = .ok (.obj p.data)
  issuer : Tree.getD p.data "iss" .null = .str call.expectedIssuer
  audience : Tree.getD p.data "aud" .null = .str call.expectedAudience
  times : TimesOf lib p.data p.times
  unexpired : ∃ expiry, p.times.exp.plusSeconds 60 = some expiry ∧ call.checkTime < expiry
  opened : ∀ nbf ∈ p.times.nbf, ∃ opening, nbf.plusSeconds (-60) = some opening ∧ opening ≤ call.checkTime
  session : Tree.getD p.data "session_id" (.str "") = .str p.sessionId ∧ p.sessionId ≠ "" ∧
    p.sessionId ∈ v.activeSessions ∧ p.sessionId ∉ v.revokedSessions
  unrevoked : call.tokenString ∉ v.revokedTokens ∧
    (p.jti.truthy = true → ∃ key, p.jti.key? = some key ∧ memberOf v.revokedTokens key = false)

theorem admission_ok : v.admission lib call = .ok p ↔ Admits lib v call p := by
  unfold admission
  simp only [Outcome.bind_eq_ok,Outcome.pure_eq_ok,openToken_ok,checkParty_ok,readTimes_ok,checkWindow_ok,checkSession_ok,
    checkRevocation_ok]
  constructor
  · rintro ⟨opened,token,_,issuer,_,audience,times,read,_,⟨unexpired,opening⟩,session,active,_,unrevoked,rfl⟩
    exact ⟨token,issuer,audience,read,unexpired,opening,active,unrevoked⟩
  · intro admits
    exact ⟨⟨p.sig,p.data⟩,admits.token,(),admits.issuer,(),admits.audience,p.times,admits.times,(),
      ⟨admits.unexpired,admits.opened⟩,p.sessionId,admits.session,(),admits.unrevoked,rfl⟩

theorem checkReplay_ok {jti : Tree} {w : InMemoryTokenVerifier} : v.checkReplay lib jti = .ok w ↔
    (jti.truthy = false ∧ w = v) ∨ (jti.truthy = true ∧ ∃ key, jti.key? = some key ∧ v.hasSeen key = false ∧
      w = { v with seenJtis := v.seenJtis ++ [key] }) := by
  unfold checkReplay
  cases given : jti.truthy with
  | false => simp [@eq_comm _ w]
  | true => simp [hashed_ok,Outcome.throw_map,@eq_comm _ w]

theorem checkTenant_ok {data : List (String × Tree)} {tenantId : Tree} : v.checkTenant lib data = .ok tenantId ↔
    Tree.getD data "tenant_id" .null = tenantId ∧ tenantId.truthy = true ∧
      ∀ tenants ∈ v.activeTenants, ∃ key, tenantId.key? = some key ∧ memberOf tenants key = true := by
  unfold checkTenant
  generalize Tree.getD data "tenant_id" .null = given
  cases v.activeTenants with
  | none =>
    simp [Outcome.throw_map]
    grind
  | some tenants =>
    simp [hashed_ok,Outcome.throw_map]
    grind

theorem item_ok {data : List (String × Tree)} {name : String} {value : Tree} :
    item data name = .ok value ↔ data.lookup name = some value := by
  unfold item
  cases data.lookup name <;> simp

theorem frozenset_ok {value : Tree} {keys : List PyKey} : frozenset value = .ok keys ↔ value.elements? = some keys := by
  unfold frozenset
  cases value.elements? <;> simp

theorem fingerprint_solid (sig : String) : Text.strip (fingerprint lib sig) ≠ "" := by
  have digits : ∀ n < 16, Text.isSpace (hexDigit n) = false := by decide
  have solid := Bytes.hex_all (P := fun c => Text.isSpace c = false) digits (lib.sha256 (Bytes.utf8 sig)).toList
  have length := Bytes.hex_length (lib.sha256 (Bytes.utf8 sig)).toList
  rw [Vector.length_toList] at length
  rw [fingerprint,Text.strip_eq_self]
  · intro blank
    have chars := congrArg (fun s => s.toList.length) blank
    simp only [String.toList_ofList,List.length_take,length] at chars
    cases chars
  · intro c inside
    rw [String.toList_ofList] at inside
    exact solid c (List.mem_of_mem_take inside)

theorem issue_ok {claims : AuthTokenClaims} {sessionId : String} {token : SignedClaimsToken lib.hexHmac} :
    VerifiedClaimsToken.issue lib.hexHmac claims call.expectedIssuer call.expectedAudience sessionId
      (fingerprint lib p.sig) (some call.checkTime) call.now = .ok token →
    (Text.strip call.expectedIssuer ≠ "" ∧ Text.strip call.expectedAudience ≠ "" ∧ Text.strip sessionId ≠ "") ∧
      token.claims = claims ∧ token.sessionId = sessionId := by
  intro issued
  obtain ⟨accepted,rfl⟩ := postInit_ok issued
  exact ⟨⟨accepted.issuer,accepted.audience,accepted.session⟩,rfl,rfl⟩

theorem issue_isOk {hmac : Hmac} (ascii : ∀ key msg, Text.isAscii (hmac key msg) = true) (claims : AuthTokenClaims)
    {issuer audience sessionId print : String} (verifiedAt now : UtcDateTime) (issuing : Text.strip issuer ≠ "")
    (hearing : Text.strip audience ≠ "") (session : Text.strip sessionId ≠ "") (printed : Text.strip print ≠ "") :
    ∃ token, VerifiedClaimsToken.issue hmac claims issuer audience sessionId print (some verifiedAt) now = .ok token := by
  let attempt : TokenAttempt := ⟨claims,issuer,audience,sessionId,verifiedAt,print,
    computeTokenProvenance hmac claims.sub issuer audience sessionId print verifiedAt.isoformat⟩
  have accepted : attempt.Accepted hmac := by
    refine ⟨issuing,hearing,session,printed,?_,rfl⟩
    simp only [TokenAttempt.expected,computeTokenProvenance,ascii,Bool.and_true]
    exact ascii _ _
  exact ⟨accepted.token,postInit_accepted accepted⟩

/-- What the rest of a call needs to end in a token. -/
structure Completes (activeTenants : Option (List String)) (call : Call) (p : Admitted) : Prop where
  tenant : ∃ s, Filled (Tree.getD p.data "tenant_id" .null) s ∧ ∀ tenants ∈ activeTenants, s ∈ tenants
  subject : ∃ s, p.data.lookup "sub" = some (.str s) ∧
    (Text.startsWith (Text.strip s) "usr_" = true ∨ Text.startsWith (Text.strip s) "svc_" = true)
  issuer : Text.strip call.expectedIssuer ≠ ""
  audience : Text.strip call.expectedAudience ≠ ""
  session : Text.strip p.sessionId ≠ ""
  roles : ∃ keys, (Tree.getD p.data "roles" (.arr [])).elements? = some keys
  permissions : ∃ keys, (Tree.getD p.data "permissions" (.arr [])).elements? = some keys
  email : ∃ o, Tree.getD p.data "email" .null = nullableText o
  jti : p.jti = .null ∨ ∃ s, Filled p.jti s

theorem finish_ok {out : VerifiedToken lib.hexHmac} (ok : v.finish lib call p = .ok out) :
    ∃ tenantId sub roles permissions, v.checkTenant lib p.data = .ok tenantId ∧ p.data.lookup "sub" = some sub ∧
      (Tree.getD p.data "roles" (.arr [])).elements? = some roles ∧
      (Tree.getD p.data "permissions" (.arr [])).elements? = some permissions ∧
      Made sub (.str call.expectedIssuer) (.str call.expectedAudience) p.times.exp p.times.iat p.times.nbf tenantId roles
        permissions (Tree.getD p.data "email" .null) p.jti out.token.claims ∧
      (Text.strip call.expectedIssuer ≠ "" ∧ Text.strip call.expectedAudience ≠ "" ∧ Text.strip p.sessionId ≠ "") ∧
      out.token.sessionId = p.sessionId ∧ out.otherRoles = roles.filter (·.string?.isNone) ∧
      out.otherPermissions = permissions.filter (·.string?.isNone) := by
  unfold finish at ok
  simp only [Outcome.bind_eq_ok,Outcome.pure_eq_ok,item_ok,frozenset_ok,make_ok] at ok
  obtain ⟨tenantId,tenant,sub,subject,roles,held,permissions,granted,claims,made,token,issued,rfl⟩ := ok
  obtain ⟨filled,rfl,session⟩ := issue_ok issued
  exact ⟨tenantId,sub,roles,permissions,tenant,subject,held,granted,made,filled,session,rfl,rfl⟩

theorem finish_iff : (∃ out, v.finish lib call p = .ok out) ↔ Completes v.activeTenants call p := by
  constructor
  · rintro ⟨out,ok⟩
    obtain ⟨tenantId,sub,roles,permissions,tenant,subject,held,granted,made,filled,_⟩ := finish_ok ok
    obtain ⟨tenantText,truthy,active⟩ := checkTenant_ok.mp tenant
    obtain ⟨⟨s,given,lead⟩,_,_,bound,mail,replay⟩ := make_isOk.mp ⟨_,make_ok.mpr made⟩
    refine ⟨?_,⟨s,given ▸ subject,lead⟩,filled.1,filled.2.1,filled.2.2,⟨roles,held⟩,⟨permissions,granted⟩,mail,replay⟩
    rcases bound with rfl | ⟨t,rfl,solid⟩
    · cases truthy
    · refine ⟨t,⟨tenantText,solid⟩,?_⟩
      intro tenants listed
      obtain ⟨key,same,member⟩ := active tenants listed
      cases same
      simpa [memberOf] using member
  · intro completes
    obtain ⟨tenantId,⟨given,filled⟩,active⟩ := completes.tenant
    obtain ⟨sub,subject,lead⟩ := completes.subject
    obtain ⟨roles,held⟩ := completes.roles
    obtain ⟨permissions,granted⟩ := completes.permissions
    obtain ⟨claims,made⟩ := @make_isOk (.str sub) (.str call.expectedIssuer) (.str call.expectedAudience) p.times.exp
      p.times.iat p.times.nbf (.str tenantId) roles permissions _ _ |>.mpr ⟨⟨sub,rfl,lead⟩,⟨_,rfl,completes.issuer⟩,
        ⟨_,rfl,completes.audience⟩,.inr ⟨tenantId,rfl,filled⟩,completes.email,completes.jti⟩
    have ascii (key msg : String) : Text.isAscii (lib.hexHmac key msg) = true := Bytes.hex_ascii _
    have printed : Text.strip (fingerprint lib p.sig) ≠ "" := fingerprint_solid p.sig
    obtain ⟨token,issued⟩ := issue_isOk ascii claims call.checkTime call.now completes.issuer completes.audience
      completes.session printed
    have tenant : v.checkTenant lib p.data = .ok (.str tenantId) := by
      refine checkTenant_ok.mpr ⟨given,?_,?_⟩
      · rw [Tree.truthy,bne_iff_ne]
        rintro rfl
        exact filled rfl
      · intro tenants listed
        exact ⟨.str tenantId,rfl,by simpa [memberOf] using active tenants listed⟩
    refine ⟨⟨token,roles.filter (·.string?.isNone),permissions.filter (·.string?.isNone)⟩,?_⟩
    unfold finish
    simp only [Outcome.bind_eq_ok,Outcome.pure_eq_ok,item_ok,frozenset_ok]
    exact ⟨_,tenant,_,subject,_,held,_,granted,claims,made,token,issued,rfl⟩

theorem verifyToken_of {w : InMemoryTokenVerifier} (admits : Admits lib v call p) (replay : v.checkReplay lib p.jti = .ok w) :
    v.verifyToken lib call = (w.finish lib call p,w) := by
  rw [verifyToken,admission_ok.mpr admits]
  dsimp only
  rw [replay]

theorem seen_unchanged_iff : (∀ e w, v.verifyToken lib call = (.error e,w) → w.seenJtis = v.seenJtis) ↔
    ∀ p key, Admits lib v call p → p.jti.truthy = true → p.jti.key? = some key → v.hasSeen key = false →
      Completes v.activeTenants call p := by
  constructor
  · intro kept p key admits given known fresh
    by_contra stops
    have replay : v.checkReplay lib p.jti = .ok { v with seenJtis := v.seenJtis ++ [key] } :=
      checkReplay_ok.mpr (.inr ⟨given,key,known,fresh,rfl⟩)
    have ended := verifyToken_of admits replay
    cases rest : finish lib { v with seenJtis := v.seenJtis ++ [key] } call p with
    | ok out => exact stops (finish_iff.mp ⟨out,rest⟩)
    | error e =>
      rw [rest] at ended
      have same := kept e _ ended
      simp at same
  · intro completes e w raised
    unfold verifyToken at raised
    cases admitted : v.admission lib call with
    | error e' =>
      rw [admitted] at raised
      cases raised
      rfl
    | ok p =>
      rw [admitted] at raised
      dsimp only at raised
      cases replay : v.checkReplay lib p.jti with
      | error e' =>
        rw [replay] at raised
        cases raised
        rfl
      | ok u =>
        rw [replay] at raised
        obtain ⟨failed,rfl⟩ := Prod.mk.inj raised
        rcases checkReplay_ok.mp replay with ⟨_,rfl⟩ | ⟨given,key,known,fresh,rfl⟩
        · rfl
        · have ends := completes p key (admission_ok.mp admitted) given known fresh
          obtain ⟨out,ok⟩ := (@finish_iff lib { v with seenJtis := v.seenJtis ++ [key] } call p).mpr ends
          rw [ok] at failed
          cases failed

section roundtrip
variable {claims : AuthTokenClaims} {sessionId : String}

/-- `json.loads` and `datetime.fromisoformat` take the texts of these claims back to what they were written from, or fail. -/
structure ReadsBack (lib : TokenLibrary) (claims : AuthTokenClaims) (sessionId : String) : Prop where
  loads : ∀ tree, lib.loads (payloadText claims sessionId) = .ok tree → tree = payload claims sessionId
  fromisoformat : ∀ t ∈ claims.exp :: claims.iat :: claims.nbf.toList, ∀ dt,
    lib.fromisoformat (TokenLibrary.standardized t.isoformat) = .ok dt → dt.micros = t.micros

theorem payload_lookup {name : String} {value : Tree} (inside : (name,value) ∈ payloadMembers claims sessionId) :
    (sortedMembers claims sessionId).lookup name = some value := by
  have names : (payloadMembers claims sessionId).map Prod.fst = ["sub","iss","aud","exp","iat","nbf","tenant_id","roles",
    "permissions","email","jti","session_id"] := rfl
  have distinct : ((payloadMembers claims sessionId).map Prod.fst).Nodup := by
    rw [names]
    decide
  unfold sortedMembers
  exact lookup_of_mem (((sortedBy_perm _ _).map Prod.fst).nodup_iff.mpr distinct) ((mem_sortedBy _ _ _).mpr inside)

theorem payload_getD {name : String} {value : Tree} (other : Tree) (inside : (name,value) ∈ payloadMembers claims sessionId) :
    Tree.getD (sortedMembers claims sessionId) name other = value := by
  rw [Tree.getD,payload_lookup inside,Option.getD_some]

theorem encoded_dotless (bs : List UInt8) : '.' ∉ (Bytes.ofAscii (Bytes.urlsafeEncode bs)).toList := by
  have letters : ∀ n < 128, Char.ofNat n = '.' → n = 46 := by decide
  rw [Bytes.ofAscii,String.toList_ofList]
  intro inside
  obtain ⟨b,member,dot⟩ := List.mem_map.mp inside
  obtain ⟨ascii,other⟩ := Bytes.urlsafeEncode_plain bs b member
  exact other (UInt8.toNat_inj.mp (letters _ ascii dot))

theorem signature_dotless (secretKey : List UInt8) (encodedPayload : String) :
    '.' ∉ (signature lib secretKey encodedPayload).toList := by
  have digits : ∀ n < 16, hexDigit n ≠ '.' := by decide
  intro inside
  exact Bytes.hex_all (P := fun c => c ≠ '.') digits _ _ inside rfl

theorem signToken_parts : ((signToken lib v claims sessionId).toList.splitOn '.').map String.ofList =
    [Bytes.ofAscii (Bytes.urlsafeEncode (Bytes.utf8 (payloadText claims sessionId))),
      signature lib v.secretKey (Bytes.ofAscii (Bytes.urlsafeEncode (Bytes.utf8 (payloadText claims sessionId))))] := by
  have dot : ".".toList = ['.'] := rfl
  rw [signToken,String.toList_append,String.toList_append,dot,List.append_assoc,List.singleton_append,
    List.splitOn_append_cons_self_of_not_mem (encoded_dotless _),List.splitOn_eq_singleton (signature_dotless _ _)]
  simp

theorem loadPayload_signed : loadPayload lib (Bytes.ofAscii (Bytes.urlsafeEncode (Bytes.utf8 (payloadText claims sessionId)))) =
    lib.loads (payloadText claims sessionId) := by
  have bytes := Bytes.utf8_ofAscii (fun b inside => (Bytes.urlsafeEncode_plain (Bytes.utf8 (payloadText claims sessionId)) b inside).1)
  rw [loadPayload,bytes,Bytes.urlsafeDecode_encode,Option.bind_some,Bytes.decodeUtf8_utf8]

theorem admitted_signed (back : ReadsBack lib claims sessionId) (token : call.tokenString = signToken lib v claims sessionId)
    (admits : Admits lib v call p) :
    p.data = sortedMembers claims sessionId := by
  obtain ⟨encodedPayload,parts,_,loaded⟩ := admits.token
  rw [token,signToken_parts] at parts
  rw [← (List.cons.inj parts).1,loadPayload_signed] at loaded
  exact Tree.obj.inj (back.loads _ loaded)

theorem textsOf_texts (texts : List String) : textsOf (texts.map .str) = texts := by
  rw [textsOf,List.filterMap_map]
  exact List.filterMap_some

theorem no_others (texts : List String) : (texts.map PyKey.str).filter (·.string?.isNone) = [] := by
  rw [List.filter_eq_nil_iff]
  intro key inside
  obtain ⟨s,_,rfl⟩ := List.mem_map.mp inside
  exact nofun

theorem map_strip_stripped {o : Option String} (stripped : ∀ s ∈ o, Stripped s) : o.map Text.strip = o := by
  cases o with
  | none => rfl
  | some s => exact congrArg some (stripped s rfl).1

theorem nullableText_injective : Function.Injective nullableText := by
  intro a b same
  cases a <;> cases b <;> simp_all [nullableText]

theorem timeAt_signed {data : List (String × Tree)} {name : String} {t read : UtcDateTime}
    (back : ∀ dt, lib.fromisoformat (TokenLibrary.standardized t.isoformat) = .ok dt → dt.micros = t.micros)
    (given : data.lookup name = some (.str t.isoformat)) (ok : lib.timeAt data name = .ok read) : read = t := by
  unfold TokenLibrary.timeAt at ok
  rw [given] at ok
  dsimp only [TokenLibrary.fromIso] at ok
  cases parsed : lib.fromisoformat (TokenLibrary.standardized t.isoformat) with
  | error err =>
    rw [parsed] at ok
    cases ok
  | ok dt =>
    rw [parsed] at ok
    dsimp only at ok
    split_ifs at ok
    cases ok
    rw [back dt parsed]

theorem isoformat_truthy (t : UtcDateTime) : (Tree.str t.isoformat).truthy = true := by
  have tail (s : String) : s ++ "Z" ≠ "" := by
    intro empty
    have length := congrArg String.length empty
    rw [String.length_append] at length
    cases length
  exact bne_iff_ne.mpr (tail _)

/-- What a verified token has to give back: every field of the claims, the sets by their members, and the session. -/
structure Returns (claims : AuthTokenClaims) (sessionId : String) (out : VerifiedToken lib.hexHmac) : Prop where
  same : SameClaims claims out.token.claims
  nbf : out.token.claims.nbf = claims.nbf
  email : out.token.claims.email = claims.email
  otherRoles : out.otherRoles = []
  otherPermissions : out.otherPermissions = []
  session : out.token.sessionId = sessionId

theorem verifyToken_ok {out : VerifiedToken lib.hexHmac} {w : InMemoryTokenVerifier}
    (ok : v.verifyToken lib call = (.ok out,w)) :
    ∃ p, Admits lib v call p ∧ v.checkReplay lib p.jti = .ok w ∧ w.finish lib call p = .ok out := by
  unfold verifyToken at ok
  cases admitted : v.admission lib call with
  | error e =>
    rw [admitted] at ok
    cases ok
  | ok p =>
    rw [admitted] at ok
    dsimp only at ok
    cases replay : v.checkReplay lib p.jti with
    | error e =>
      rw [replay] at ok
      cases ok
    | ok u =>
      rw [replay] at ok
      obtain ⟨ended,rfl⟩ := Prod.mk.inj ok
      exact ⟨p,admission_ok.mp admitted,replay,ended⟩

theorem verified_signed (back : ReadsBack lib claims sessionId) (token : call.tokenString = signToken lib v claims sessionId)
    {out : VerifiedToken lib.hexHmac} {w : InMemoryTokenVerifier} (ok : v.verifyToken lib call = (.ok out,w)) :
    Returns claims sessionId out := by
  obtain ⟨p,admits,_,ended⟩ := verifyToken_ok ok
  obtain ⟨tenantId,sub,roles,permissions,tenant,subject,held,granted,made,_,session,others,others'⟩ := finish_ok ended
  have data := admitted_signed back token admits
  have member {name : String} {value : Tree} (inside : (name,value) ∈ payloadMembers claims sessionId) :
      p.data.lookup name = some value := data ▸ payload_lookup inside
  have get {name : String} {value : Tree} (other : Tree) (inside : (name,value) ∈ payloadMembers claims sessionId) :
      Tree.getD p.data name other = value := data ▸ payload_getD other inside
  have rolesAt : Tree.getD p.data "roles" (.arr []) = sortedTexts claims.roles := get _ (by simp [payloadMembers])
  have permissionsAt : Tree.getD p.data "permissions" (.arr []) = sortedTexts claims.permissions :=
    get _ (by simp [payloadMembers])
  rw [rolesAt,sortedTexts,Tree.elements_texts] at held
  rw [permissionsAt,sortedTexts,Tree.elements_texts] at granted
  obtain rfl := Option.some.inj held
  obtain rfl := Option.some.inj granted
  have issuer : Tree.getD p.data "iss" .null = .str claims.iss := get _ (by simp [payloadMembers])
  have audience : Tree.getD p.data "aud" .null = .str claims.aud := get _ (by simp [payloadMembers])
  have issued : call.expectedIssuer = claims.iss := Tree.str.inj (admits.issuer.symm.trans issuer)
  have heard : call.expectedAudience = claims.aud := Tree.str.inj (admits.audience.symm.trans audience)
  have exp : p.times.exp = claims.exp := timeAt_signed (back.fromisoformat _ (by simp)) (member (by simp [payloadMembers])) admits.times.exp
  have iat : p.times.iat = claims.iat := timeAt_signed (back.fromisoformat _ (by simp)) (member (by simp [payloadMembers])) admits.times.iat
  have nbf : p.times.nbf = claims.nbf := by
    have opening := admits.times.nbf
    have given : p.data.lookup "nbf" = some (nullableText (claims.nbf.map UtcDateTime.isoformat)) :=
      member (by simp [payloadMembers])
    rw [Tree.getD,given,Option.getD_some] at opening
    cases known : claims.nbf with
    | none =>
      rw [known] at opening
      exact opening
    | some t =>
      rw [known] at opening given
      have truthy : (nullableText ((some t).map UtcDateTime.isoformat)).truthy = true := isoformat_truthy t
      rw [if_pos truthy] at opening
      obtain ⟨t',read,same⟩ := opening
      rw [same,timeAt_signed (back.fromisoformat t (by simp [known])) given read]
  constructor
  · have subject' : p.data.lookup "sub" = some (.str claims.sub) := member (by simp [payloadMembers])
    have tenant' : Tree.getD p.data "tenant_id" .null = nullableText claims.tenantId := get _ (by simp [payloadMembers])
    have jti' : Tree.getD p.data "jti" .null = nullableText claims.jti := get _ (by simp [payloadMembers])
    rw [subject'] at subject
    obtain rfl := Option.some.inj subject
    constructor
    · obtain ⟨s,given,clean⟩ := made.sub
      cases given
      rw [clean,claims.subAccepted.1.1]
    · obtain ⟨s,given,clean⟩ := made.iss
      cases given
      rw [clean,issued,claims.issAccepted.1]
    · obtain ⟨s,given,clean⟩ := made.aud
      cases given
      rw [clean,heard,claims.audAccepted.1]
    · obtain ⟨o,given,clean⟩ := made.tenantId
      rw [← (checkTenant_ok.mp tenant).1,tenant'] at given
      rw [clean,← nullableText_injective given,map_strip_stripped claims.tenantAccepted]
    · intro role
      rw [made.roles,textsOf_texts,mem_sortedBy]
    · intro permission
      rw [made.permissions,textsOf_texts,mem_sortedBy]
    · exact made.exp.trans exp
    · exact made.iat.trans iat
    · obtain ⟨o,given,clean⟩ := made.jti
      rw [Admitted.jti,jti'] at given
      rw [clean,← nullableText_injective given,map_strip_stripped claims.jtiAccepted]
  · exact made.nbf.trans nbf
  · have mail : Tree.getD p.data "email" .null = nullableText claims.email := get _ (by simp [payloadMembers])
    exact nullableText_injective (made.email.symm.trans mail)
  · rw [others,no_others]
  · rw [others',no_others]
  · have given : Tree.getD p.data "session_id" (.str "") = .str sessionId := get _ (by simp [payloadMembers])
    exact session.trans (Tree.str.inj (admits.session.1.symm.trans given))

/-- What the checks read of a signed token. -/
structure Presents (lib : TokenLibrary) (secretKey : List UInt8) (claims : AuthTokenClaims) (sessionId : String)
    (p : Admitted) : Prop where
  sig : p.sig = signature lib secretKey (Bytes.ofAscii (Bytes.urlsafeEncode (Bytes.utf8 (payloadText claims sessionId))))
  data : p.data = sortedMembers claims sessionId
  times : p.times = ⟨claims.exp,claims.iat,claims.nbf⟩
  session : p.sessionId = sessionId

theorem presents_getD {secretKey : List UInt8} (presents : Presents lib secretKey claims sessionId p) {name : String}
    {value : Tree} (other : Tree) (inside : (name,value) ∈ payloadMembers claims sessionId) :
    Tree.getD p.data name other = value := by
  rw [presents.data]
  exact payload_getD other inside

theorem presents_times {secretKey : List UInt8} (presents : Presents lib secretKey claims sessionId p)
    (read : ∀ t ∈ claims.exp :: claims.iat :: claims.nbf.toList, lib.fromIso (.str t.isoformat) = .ok t) :
    TimesOf lib p.data p.times := by
  have timed {name : String} {t : UtcDateTime} (inside : (name,Tree.str t.isoformat) ∈ payloadMembers claims sessionId)
      (ok : lib.fromIso (.str t.isoformat) = .ok t) : lib.timeAt p.data name = .ok t := by
    unfold TokenLibrary.timeAt
    rw [presents.data,payload_lookup inside]
    exact ok
  have opening : ("nbf",nullableText (claims.nbf.map UtcDateTime.isoformat)) ∈ payloadMembers claims sessionId := by
    simp [payloadMembers]
  constructor
  · rw [presents.times]
    exact timed (by simp [payloadMembers]) (read _ (by simp))
  · rw [presents.times]
    exact timed (by simp [payloadMembers]) (read _ (by simp))
  · rw [presents.times,presents_getD presents .null opening]
    cases known : claims.nbf with
    | none =>
      rw [if_neg (by exact nofun)]
    | some t =>
      have given : (nullableText ((some t).map UtcDateTime.isoformat)).truthy = true := isoformat_truthy t
      rw [if_pos given]
      exact ⟨t,timed (by simp [payloadMembers,known,nullableText]) (read t (by simp [known])),rfl⟩

theorem signed_admits (presents : Presents lib v.secretKey claims sessionId p)
    (loads : lib.loads (payloadText claims sessionId) = .ok (payload claims sessionId))
    (read : ∀ t ∈ claims.exp :: claims.iat :: claims.nbf.toList, lib.fromIso (.str t.isoformat) = .ok t)
    (token : call.tokenString = signToken lib v claims sessionId) (issuer : call.expectedIssuer = claims.iss)
    (audience : call.expectedAudience = claims.aud)
    (unexpired : ∃ expiry, claims.exp.plusSeconds 60 = some expiry ∧ call.checkTime < expiry)
    (opening : ∀ nbf ∈ claims.nbf, ∃ earlier, nbf.plusSeconds (-60) = some earlier ∧ earlier ≤ call.checkTime)
    (session : sessionId ≠ "" ∧ sessionId ∈ v.activeSessions ∧ sessionId ∉ v.revokedSessions)
    (unrevoked : call.tokenString ∉ v.revokedTokens ∧ ∀ jti ∈ claims.jti, jti ∉ v.revokedTokens) :
    Admits lib v call p := by
  constructor
  · refine ⟨Bytes.ofAscii (Bytes.urlsafeEncode (Bytes.utf8 (payloadText claims sessionId))),?_,presents.sig,?_⟩
    · rw [token,signToken_parts,presents.sig]
    · rw [loadPayload_signed,loads,payload,presents.data]
  · rw [issuer]
    exact presents_getD presents _ (by simp [payloadMembers])
  · rw [audience]
    exact presents_getD presents _ (by simp [payloadMembers])
  · exact presents_times presents read
  · rw [presents.times]
    exact unexpired
  · rw [presents.times]
    exact opening
  · rw [presents.session]
    exact ⟨presents_getD presents _ (by simp [payloadMembers]),session⟩
  · refine ⟨unrevoked.1,?_⟩
    have jti : p.jti = nullableText claims.jti := presents_getD presents _ (by simp [payloadMembers])
    rw [jti]
    intro given
    cases known : claims.jti with
    | none =>
      rw [known] at given
      cases given
    | some s => exact ⟨.str s,rfl,by simpa [memberOf] using unrevoked.2 s known⟩

theorem signed_completes {secretKey : List UInt8} {tenants : Option (List String)}
    (presents : Presents lib secretKey claims sessionId p) (issuer : call.expectedIssuer = claims.iss)
    (audience : call.expectedAudience = claims.aud) (tenant : ∃ t ∈ claims.tenantId, ∀ listed ∈ tenants, t ∈ listed)
    (session : Text.strip sessionId ≠ "") : Completes tenants call p := by
  have solid {text : String} (stripped : Stripped text) : Text.strip text ≠ "" := by
    rw [stripped.1]
    exact stripped.2
  obtain ⟨t,named,active⟩ := tenant
  have roles : Tree.getD p.data "roles" (.arr []) = sortedTexts claims.roles := presents_getD presents _ (by simp [payloadMembers])
  have permissions : Tree.getD p.data "permissions" (.arr []) = sortedTexts claims.permissions :=
    presents_getD presents _ (by simp [payloadMembers])
  have jti : p.jti = nullableText claims.jti := presents_getD presents _ (by simp [payloadMembers])
  constructor
  · have given : Tree.getD p.data "tenant_id" .null = nullableText claims.tenantId :=
      presents_getD presents _ (by simp [payloadMembers])
    rw [show claims.tenantId = some t from named] at given
    exact ⟨t,⟨given,solid (claims.tenantAccepted t named)⟩,active⟩
  · refine ⟨claims.sub,?_,?_⟩
    · rw [presents.data]
      exact payload_lookup (by simp [payloadMembers])
    · rw [claims.subAccepted.1.1]
      exact claims.subAccepted.2
  · rw [issuer]
    exact solid claims.issAccepted
  · rw [audience]
    exact solid claims.audAccepted
  · rw [presents.session]
    exact session
  · rw [roles]
    exact ⟨_,Tree.elements_texts _⟩
  · rw [permissions]
    exact ⟨_,Tree.elements_texts _⟩
  · exact ⟨claims.email,presents_getD presents _ (by simp [payloadMembers])⟩
  · rw [jti]
    cases known : claims.jti with
    | none => exact .inl rfl
    | some s => exact .inr ⟨s,rfl,solid (claims.jtiAccepted s known)⟩

end roundtrip

end InMemoryTokenVerifier
open InMemoryTokenVerifier

/-- The claims and the session of a signed token come back whenever it is verified, and a call that raises leaves the
seen jtis alone exactly if a presentation that reaches the anti-replay check with a new jti completes. -/
theorem round_trip_and_replay_iff (lib : TokenLibrary) {claims : AuthTokenClaims} {sessionId : String}
    (back : ReadsBack lib claims sessionId) :
    (∀ (v : InMemoryTokenVerifier) (call : Call) (out : VerifiedToken lib.hexHmac) (w : InMemoryTokenVerifier),
      call.tokenString = signToken lib v claims sessionId → v.verifyToken lib call = (.ok out,w) →
      Returns claims sessionId out) ∧
    (∀ (v : InMemoryTokenVerifier) (call : Call), (∀ e w, v.verifyToken lib call = (.error e,w) → w.seenJtis = v.seenJtis) ↔
      ∀ p key, Admits lib v call p → p.jti.truthy = true → p.jti.key? = some key → v.hasSeen key = false →
        Completes v.activeTenants call p) :=
  ⟨fun _ _ _ _ token ok => verified_signed back token ok,fun _ _ => seen_unchanged_iff⟩

section examples

theorem stripped_jti : ∀ text ∈ some "jti_1", Stripped text := by decide +kernel

def onceClaims : AuthTokenClaims := { analystClaims with jti := some "jti_1", jtiAccepted := stripped_jti }

def onceText (t : UtcDateTime) : String := TokenLibrary.standardized t.isoformat

/-- A library that reads the payload and the times of one token. -/
def onceLibrary : TokenLibrary where
  hmacSha256 := fun key message => key ++ message
  sha256 := fun _ => Vector.replicate 32 0
  loads := fun text => if text = payloadText onceClaims "sess_1" then .ok (payload onceClaims "sess_1") else .error "Expecting value"
  fromisoformat := fun text =>
    if text = onceText onceClaims.exp then .ok ⟨3600000000,true⟩
    else if text = onceText onceClaims.iat then .ok ⟨0,true⟩
    else .error "Invalid isoformat string"
  str := fun v => match v with | .str s => s | _ => ""
  undecodable := fun _ => "Incorrect padding"

theorem onceText_iat : onceText onceClaims.iat ≠ onceText onceClaims.exp := by decide +kernel

theorem onceLibrary_exp : onceLibrary.fromisoformat (onceText onceClaims.exp) = .ok ⟨3600000000,true⟩ := by
  simp only [onceLibrary,if_true]

theorem onceLibrary_iat : onceLibrary.fromisoformat (onceText onceClaims.iat) = .ok ⟨0,true⟩ := by
  simp only [onceLibrary,onceText_iat,if_false,if_true]

theorem onceLibrary_loads : onceLibrary.loads (payloadText onceClaims "sess_1") = .ok (payload onceClaims "sess_1") := by
  simp only [onceLibrary,if_true]

theorem onceLibrary_back : ReadsBack onceLibrary onceClaims "sess_1" := by
  constructor
  · intro tree ok
    rw [onceLibrary_loads] at ok
    exact (Except.ok.inj ok).symm
  · intro t inside dt ok
    have cases_t : t = onceClaims.exp ∨ t = onceClaims.iat := by simpa [onceClaims,analystClaims] using inside
    rcases cases_t with rfl | rfl
    · have read := onceLibrary_exp.symm.trans ok
      cases read
      rfl
    · have read := onceLibrary_iat.symm.trans ok
      cases read
      rfl

theorem onceLibrary_times : ∀ t ∈ onceClaims.exp :: onceClaims.iat :: onceClaims.nbf.toList,
    onceLibrary.fromIso (.str t.isoformat) = .ok t := by
  intro t inside
  have cases_t : t = onceClaims.exp ∨ t = onceClaims.iat := by simpa [onceClaims,analystClaims] using inside
  unfold TokenLibrary.fromIso
  dsimp only
  rcases cases_t with rfl | rfl
  · rw [show onceLibrary.fromisoformat (TokenLibrary.standardized onceClaims.exp.isoformat) = _ from onceLibrary_exp]
    rfl
  · rw [show onceLibrary.fromisoformat (TokenLibrary.standardized onceClaims.iat.isoformat) = _ from onceLibrary_iat]
    rfl

def onceVerifier (tenants : List String) (seen : List PyKey) : InMemoryTokenVerifier where
  activeSessions := ["sess_1"]
  activeTenants := some tenants
  seenJtis := seen

def onceCall : Call where
  tokenString := signToken onceLibrary {} onceClaims "sess_1"
  now := ⟨1000000⟩

def oncePresentation : Admitted where
  sig := signature onceLibrary (onceVerifier [] []).secretKey
    (Bytes.ofAscii (Bytes.urlsafeEncode (Bytes.utf8 (payloadText onceClaims "sess_1"))))
  data := sortedMembers onceClaims "sess_1"
  times := ⟨onceClaims.exp,onceClaims.iat,onceClaims.nbf⟩
  sessionId := "sess_1"

section presentation
variable (tenants : List String) (seen : List PyKey)

theorem oncePresentation_presents :
    Presents onceLibrary (onceVerifier tenants seen).secretKey onceClaims "sess_1" oncePresentation := by
  constructor
  · simp only [oncePresentation,onceVerifier]
  · simp only [oncePresentation]
  · simp only [oncePresentation]
  · simp only [oncePresentation]

theorem once_token : onceCall.tokenString = signToken onceLibrary (onceVerifier tenants seen) onceClaims "sess_1" := by
  simp only [onceCall,signToken,onceVerifier]

theorem once_admits : Admits onceLibrary (onceVerifier tenants seen) onceCall oncePresentation := by
  apply signed_admits (oncePresentation_presents tenants seen) onceLibrary_loads onceLibrary_times (once_token tenants seen)
    rfl rfl
  · exact ⟨⟨3660000000⟩,rfl,by decide⟩
  · exact nofun
  · exact ⟨by decide,List.mem_singleton_self _,List.not_mem_nil⟩
  · exact ⟨List.not_mem_nil,fun _ _ => List.not_mem_nil⟩

theorem oncePresentation_jti : oncePresentation.jti = .str "jti_1" :=
  presents_getD (oncePresentation_presents [] []) _ (by simp [payloadMembers,onceClaims,nullableText])

theorem once_replay : (onceVerifier tenants []).checkReplay onceLibrary oncePresentation.jti =
    .ok (onceVerifier tenants [.str "jti_1"]) := by
  rw [oncePresentation_jti]
  rfl

end presentation

theorem once_completes : Completes (some ["tnt_acme"]) onceCall oncePresentation :=
  signed_completes (oncePresentation_presents [] []) rfl rfl ⟨"tnt_acme",rfl,by simp⟩ (by decide +kernel)

theorem once_verifies : ∃ out w, (onceVerifier ["tnt_acme"] []).verifyToken onceLibrary onceCall = (.ok out,w) := by
  obtain ⟨out,ok⟩ := (@finish_iff onceLibrary (onceVerifier ["tnt_acme"] [.str "jti_1"]) _ _).mpr once_completes
  have ended := verifyToken_of (once_admits ["tnt_acme"] []) (once_replay ["tnt_acme"])
  rw [ok] at ended
  exact ⟨out,_,ended⟩

/-- A signed token is verified, and its claims come back. -/
theorem once_round_trip : ∃ out w, (onceVerifier ["tnt_acme"] []).verifyToken onceLibrary onceCall = (.ok out,w) ∧
    Returns onceClaims "sess_1" out := by
  obtain ⟨out,w,ok⟩ := once_verifies
  exact ⟨out,w,ok,(round_trip_and_replay_iff onceLibrary onceLibrary_back).1 _ _ out w (once_token _ _) ok⟩

/-- A token of a deactivated tenant is rejected and stays in the set: once the tenant is active the same token is a
replay, where it would have been verified. -/
theorem lapsed_token_replayed :
    (¬ ∀ e w, (onceVerifier [] []).verifyToken onceLibrary onceCall = (.error e,w) →
      w.seenJtis = (onceVerifier [] []).seenJtis) ∧
    (∃ e, (onceVerifier [] []).verifyToken onceLibrary onceCall = (.error e,onceVerifier [] [.str "jti_1"])) ∧
    (∃ e, (onceVerifier ["tnt_acme"] [.str "jti_1"]).verifyToken onceLibrary onceCall =
      (.error e,onceVerifier ["tnt_acme"] [.str "jti_1"])) ∧
    ∃ out w, (onceVerifier ["tnt_acme"] []).verifyToken onceLibrary onceCall = (.ok out,w) := by
  have ended := verifyToken_of (once_admits [] []) (once_replay [])
  have stops : ¬ Completes (some []) onceCall oncePresentation := by
    intro completes
    obtain ⟨t,_,active⟩ := completes.tenant
    exact absurd (active [] rfl) List.not_mem_nil
  obtain ⟨e,raised⟩ : ∃ e, (onceVerifier [] []).verifyToken onceLibrary onceCall = (.error e,onceVerifier [] [.str "jti_1"]) := by
    cases rest : (onceVerifier [] [.str "jti_1"]).finish onceLibrary onceCall oncePresentation with
    | ok out => exact absurd (finish_iff.mp ⟨out,rest⟩) stops
    | error e =>
      rw [rest] at ended
      exact ⟨e,ended⟩
  refine ⟨?_,⟨e,raised⟩,?_,once_verifies⟩
  · intro kept
    cases kept e _ raised
  · have replay : (onceVerifier ["tnt_acme"] [.str "jti_1"]).checkReplay onceLibrary oncePresentation.jti =
        .error (authenticationError "Token replay detected for JTI: jti_1") := by
      rw [oncePresentation_jti]
      rfl
    refine ⟨authenticationError "Token replay detected for JTI: jti_1",?_⟩
    rw [verifyToken,admission_ok.mpr (once_admits _ _)]
    dsimp only
    rw [replay]

end examples
end RevPilot.Identity
