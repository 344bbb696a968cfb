import RevPilot.Identity.Tokens

/-! The provenance proof of a verified token: what it covers and what it leaves open. -/
namespace RevPilot.Identity
open Library Shared

/-- `hmac.new(key, msg, sha256).hexdigest()` of two texts. -/
abbrev Hmac := String → String → String

def computeTokenProvenance (hmac : Hmac) (sub iss aud sessionId sigFp verifiedAtIso : String) : String :=
  hmac "revpilot-internal-identity-boundary-provenance-salt-2026"
    (sub ++ ":" ++ iss ++ ":" ++ aud ++ ":" ++ sessionId ++ ":" ++ sigFp ++ ":" ++ verifiedAtIso)

/-- The arguments of a construction. -/
structure TokenAttempt where
  claims : AuthTokenClaims
  verifiedIssuer : String
  verifiedAudience : String
  sessionId : String
  verifiedAt : UtcDateTime
  signatureFingerprint : String
  provenanceToken : String

def TokenAttempt.expected (hmac : Hmac) (a : TokenAttempt) : String :=
  computeTokenProvenance hmac a.claims.sub a.verifiedIssuer a.verifiedAudience a.sessionId a.signatureFingerprint
    a.verifiedAt.isoformat

/-- A constructed token carries its provenance. -/
structure SignedClaimsToken (hmac : Hmac) extends VerifiedClaimsToken where
  provenanceToken : String
  proven : provenanceToken = computeTokenProvenance hmac claims.sub verifiedIssuer verifiedAudience sessionId
    signatureFingerprint verifiedAt.isoformat

/-- `__post_init__`; `hmac.compare_digest` takes ASCII texts only. -/
def TokenAttempt.postInit (hmac : Hmac) (a : TokenAttempt) : Except PyError (SignedClaimsToken hmac) :=
  if issuer : Text.strip a.verifiedIssuer ≠ "" then
    if audience : Text.strip a.verifiedAudience ≠ "" then
      if session : Text.strip a.sessionId ≠ "" then
        if fingerprint : Text.strip a.signatureFingerprint ≠ "" then
          if Text.isAscii a.provenanceToken && Text.isAscii (a.expected hmac) then
            if proven : a.provenanceToken = a.expected hmac then
              .ok ⟨⟨a.claims,a.verifiedIssuer,a.verifiedAudience,a.sessionId,a.verifiedAt,a.signatureFingerprint,issuer,
                audience,session,fingerprint⟩,a.provenanceToken,proven⟩
            else .error (authenticationError
              "Invalid claims token provenance proof; cannot construct VerifiedClaimsToken from unverified payload")
          else .error .typeError
        else .error (validationError "signature_fingerprint must be non-empty str")
      else .error (validationError "session_id must be non-empty str")
    else .error (validationError "verified_audience must be non-empty str")
  else .error (validationError "verified_issuer must be non-empty str")

/-- `VerifiedClaimsToken.issue`; the clock is read when no instant is given. -/
def VerifiedClaimsToken.issue (hmac : Hmac) (claims : AuthTokenClaims)
    (verifiedIssuer verifiedAudience sessionId signatureFingerprint : String) (verifiedAt : Option UtcDateTime)
    (now : UtcDateTime) : Except PyError (SignedClaimsToken hmac) :=
  let vAt := verifiedAt.getD now
  let prov := computeTokenProvenance hmac claims.sub verifiedIssuer verifiedAudience sessionId signatureFingerprint
    vAt.isoformat
  TokenAttempt.postInit hmac ⟨claims,verifiedIssuer,verifiedAudience,sessionId,vAt,signatureFingerprint,prov⟩

/-- The same claims, the role and permission sets by their members. -/
structure SameClaims (a b : AuthTokenClaims) : Prop where
  sub : b.sub = a.sub
  iss : b.iss = a.iss
  aud : b.aud = a.aud
  tenantId : b.tenantId = a.tenantId
  roles : ∀ role, role ∈ b.roles ↔ role ∈ a.roles
  permissions : ∀ permission, permission ∈ b.permissions ↔ permission ∈ a.permissions
  exp : b.exp = a.exp
  iat : b.iat = a.iat
  jti : b.jti = a.jti

/-- A construction that reuses the token's provenance is accepted only for its claims and session. -/
def BindsClaims {hmac : Hmac} (token : SignedClaimsToken hmac) : Prop :=
  ∀ (attempt : TokenAttempt) (other : SignedClaimsToken hmac), attempt.provenanceToken = token.provenanceToken →
    attempt.postInit hmac = .ok other → SameClaims token.claims other.claims ∧ other.sessionId = token.sessionId

section tokens
variable {hmac : Hmac}

/-- What a construction needs. -/
structure TokenAttempt.Accepted (hmac : Hmac) (a : TokenAttempt) : Prop where
  issuer : Text.strip a.verifiedIssuer ≠ ""
  audience : Text.strip a.verifiedAudience ≠ ""
  session : Text.strip a.sessionId ≠ ""
  fingerprint : Text.strip a.signatureFingerprint ≠ ""
  ascii : (Text.isAscii a.provenanceToken && Text.isAscii (a.expected hmac)) = true
  proven : a.provenanceToken = a.expected hmac

def TokenAttempt.Accepted.token {a : TokenAttempt} (accepted : a.Accepted hmac) : SignedClaimsToken hmac :=
  ⟨⟨a.claims,a.verifiedIssuer,a.verifiedAudience,a.sessionId,a.verifiedAt,a.signatureFingerprint,accepted.issuer,
    accepted.audience,accepted.session,accepted.fingerprint⟩,a.provenanceToken,accepted.proven⟩

theorem postInit_accepted {a : TokenAttempt} (accepted : a.Accepted hmac) : a.postInit hmac = .ok accepted.token := by
  unfold TokenAttempt.postInit
  rw [dif_pos accepted.issuer,dif_pos accepted.audience,dif_pos accepted.session,dif_pos accepted.fingerprint,
    if_pos accepted.ascii,dif_pos accepted.proven]
  rfl

theorem postInit_ok {a : TokenAttempt} {token : SignedClaimsToken hmac} (built : a.postInit hmac = .ok token) :
    ∃ accepted : a.Accepted hmac, token = accepted.token := by
  have whole := built
  unfold TokenAttempt.postInit at built
  split at built
  next issuer =>
    split at built
    next audience =>
      split at built
      next session =>
        split at built
        next fingerprint =>
          split at built
          next ascii =>
            split at built
            next proven =>
              let accepted : a.Accepted hmac := ⟨issuer,audience,session,fingerprint,ascii,proven⟩
              exact ⟨accepted,Except.ok.inj (whole.symm.trans (postInit_accepted accepted))⟩
            next => cases built
          next => cases built
        next => cases built
      next => cases built
    next => cases built
  next => cases built

/-- The claims count for their subject only. -/
theorem TokenAttempt.Accepted.withClaims {a : TokenAttempt} (accepted : a.Accepted hmac) {claims : AuthTokenClaims}
    (subject : claims.sub = a.claims.sub) : TokenAttempt.Accepted hmac { a with claims := claims } where
  issuer := accepted.issuer
  audience := accepted.audience
  session := accepted.session
  fingerprint := accepted.fingerprint
  ascii := by
    simp only [TokenAttempt.expected,subject]
    exact accepted.ascii
  proven := by
    simp only [TokenAttempt.expected,subject]
    exact accepted.proven

/-- No issued token binds its claims: with other roles its provenance is accepted as well. -/
theorem issued_claims_unbound {claims : AuthTokenClaims}
    {verifiedIssuer verifiedAudience sessionId signatureFingerprint : String} {verifiedAt : Option UtcDateTime}
    {now : UtcDateTime} {token : SignedClaimsToken hmac}
    (issued : VerifiedClaimsToken.issue hmac claims verifiedIssuer verifiedAudience sessionId signatureFingerprint
      verifiedAt now = .ok token) : ¬ BindsClaims token := by
  intro binds
  let escalated : AuthTokenClaims :=
    { claims with roles := if "platform_admin" ∈ claims.roles then [] else "platform_admin" :: claims.roles }
  obtain ⟨accepted,rfl⟩ := postInit_ok issued
  have again := @TokenAttempt.Accepted.withClaims hmac _ accepted escalated rfl
  have same : "platform_admin" ∈ escalated.roles ↔ "platform_admin" ∈ claims.roles :=
    (binds _ again.token rfl (postInit_accepted again)).1.roles "platform_admin"
  by_cases admin : "platform_admin" ∈ claims.roles
  · have none : "platform_admin" ∉ escalated.roles := by simp [escalated,admin]
    exact none (same.mpr admin)
  · have added : "platform_admin" ∈ escalated.roles := by simp [escalated,admin]
    exact admin (same.mp added)

end tokens

section examples

def plainHmac : Hmac := fun key msg => key ++ "|" ++ msg

def analystClaims : AuthTokenClaims where
  sub := "usr_ann"
  iss := "revpilot-idp"
  aud := "revpilot-api"
  exp := ⟨3600000000⟩
  iat := ⟨0⟩
  tenantId := some "tnt_acme"
  roles := ["analyst"]
  subAccepted := by decide +kernel
  issAccepted := stripped_issuer
  audAccepted := stripped_audience
  tenantAccepted := stripped_acme
  jtiAccepted := stripped_none

def analystAttempt : TokenAttempt :=
  ⟨analystClaims,"revpilot-idp","revpilot-api","sess_1",⟨0⟩,"sha256:ab",
    computeTokenProvenance plainHmac "usr_ann" "revpilot-idp" "revpilot-api" "sess_1" "sha256:ab" (UtcDateTime.isoformat ⟨0⟩)⟩

theorem isAscii_append (s t : String) : Text.isAscii (s ++ t) = (Text.isAscii s && Text.isAscii t) := by
  simp only [Text.isAscii,String.toList_append,List.all_append]

theorem analystAttempt_ascii : Text.isAscii analystAttempt.provenanceToken = true := by
  unfold analystAttempt computeTokenProvenance plainHmac
  simp only [isAscii_append]
  decide +kernel

theorem analystAttempt_accepted : analystAttempt.Accepted plainHmac where
  issuer := by decide +kernel
  audience := by decide +kernel
  session := by decide +kernel
  fingerprint := by decide +kernel
  ascii := Bool.and_eq_true_iff.mpr ⟨analystAttempt_ascii,analystAttempt_ascii⟩
  proven := rfl

theorem analyst_token_unbound : ¬ BindsClaims analystAttempt_accepted.token := by
  apply @issued_claims_unbound plainHmac analystClaims "revpilot-idp" "revpilot-api" "sess_1" "sha256:ab" none ⟨0⟩
  exact postInit_accepted analystAttempt_accepted

def adminClaims : AuthTokenClaims := { analystClaims with roles := ["platform_admin"] }

/-- An analyst's token is constructed again with the roles of a platform administrator. -/
theorem roles_rewritten : ∃ (token other : SignedClaimsToken plainHmac),
    VerifiedClaimsToken.issue plainHmac analystClaims "revpilot-idp" "revpilot-api" "sess_1" "sha256:ab" none ⟨0⟩ =
      .ok token ∧
    TokenAttempt.postInit plainHmac { analystAttempt with claims := adminClaims, provenanceToken := token.provenanceToken } =
      .ok other ∧ ¬ SameClaims token.claims other.claims := by
  have again : TokenAttempt.Accepted plainHmac { analystAttempt with claims := adminClaims } :=
    analystAttempt_accepted.withClaims rfl
  refine ⟨analystAttempt_accepted.token,again.token,postInit_accepted analystAttempt_accepted,postInit_accepted again,?_⟩
  intro same
  have kept : "analyst" ∈ adminClaims.roles := (same.roles "analyst").mpr List.mem_cons_self
  exact absurd kept (by decide)

end examples
end RevPilot.Identity
