import RevPilot.Library.Elements
import RevPilot.Library.Runs
import RevPilot.Library.Text
import RevPilot.Shared.Errors
import RevPilot.Shared.Temporal

/-! The SAML ACS validator: what it reads of a parsed response, and its checks in their order. Of the
functions outside, the decoding, the XML parser, the digests and the clock arithmetic are
parameters. -/
namespace RevPilot.Iam
open Library Shared

def samlSignatureInvalid (message : String) (details : List (PyKey × PyValue) := []) : PyError :=
  .domain { code := "SAML_SIGNATURE_INVALID", message := message, details := details }

def samlAssertionExpired (message : String) (details : List (PyKey × PyValue)) : PyError :=
  .domain { code := "SAML_ASSERTION_EXPIRED", message := message, details := details }

structure SamlAssertionClaims where
  assertionId : String
  nameId : String
  issuer : String
  recipient : String
  audience : String
  notOnOrAfter : UtcDateTime
  attributes : Dict String (List String)
  roles : List String := []

/-- `decode` is Base64 and UTF-8, `sha256` and `hmac` end in Base64, `expired now limit skew` compares
the timestamps; the errors of the first two are their texts. -/
structure SamlLibrary where
  decode : String → Except String String
  fromstring : String → Except String Element
  sha256 : String → String
  hmac : String → String → String
  fromIso : String → Except PyError UtcDateTime
  expired : UtcDateTime → UtcDateTime → Int → Bool

/-- The arguments of a call besides the response; `now` is what the clock shows. -/
structure AcsSettings where
  expectedRecipient : String
  expectedAudience : String
  idpCertPem : String
  asOfTime : Option UtcDateTime := none
  allowedClockSkewSeconds : Int := 60
  now : UtcDateTime

/-- The characters at which `splitlines` splits. -/
def isLineBreak (c : Char) : Bool :=
  let n := c.toNat
  (10 ≤ n && n ≤ 13) || (28 ≤ n && n ≤ 30) || n == 0x85 || n == 0x2028 || n == 0x2029

section reading
variable (lib : SamlLibrary)

def computeCanonicalDigest (text : String) : String := lib.sha256 (Text.strip text)

def computeCertSignature (data certPem : String) : String :=
  let cleanCert := String.ofList ((Text.strip certPem).toList.filter (fun c => !isLineBreak c))
  lib.hmac cleanCert data

def hasTag (ending : String) (e : Element) : Bool := Text.endsWith e.tag ending

/-- `elem.text.strip() if elem.text else None`. -/
def strippedText (e : Element) : Option String :=
  match e.text with
  | some text => if text = "" then none else some (Text.strip text)
  | none => none

def isAssertion (tag : String) : Bool := Text.endsWith tag "Assertion"

/-- The document of a response. -/
def parsedResponse (samlResponseB64 : String) : Except PyError Element :=
  match lib.decode samlResponseB64 with
  | .error err => .error (samlSignatureInvalid ("Malformed base64 SAMLResponse: " ++ err))
  | .ok xml =>
    match lib.fromstring xml with
    | .error err => .error (samlSignatureInvalid ("Malformed SAML XML: " ++ err))
    | .ok root => .ok root

/-- The only assertion of a document. -/
def assertionOf (root : Element) : Except PyError Element :=
  match Element.tagged isAssertion root.iter with
  | [assertion] => .ok assertion
  | found => .error (samlSignatureInvalid
      ("XML Signature Wrapping (XSW) attack rejected: expected exactly 1 Assertion, found " ++ found.length.repr)
      [(.str "assertion_count",.int found.length)])

/-- The last element below with a tag, if it has a text. -/
def lastText (e : Element) (ending missing : String) : Except PyError String :=
  match (e.iter.filter (hasTag ending)).getLast?.bind strippedText with
  | some text => .ok text
  | none => .error (samlSignatureInvalid missing)

/-- `DigestValue` and `SignatureValue` of the first signature. -/
def signatureParts (assertion : Element) : Except PyError (String × String) :=
  match assertion.iter.find? (hasTag "Signature") with
  | none => .error (samlSignatureInvalid "Unsigned SAML assertions are strictly prohibited (INV-IAM-001)")
  | some sigElem => do
    let actualDigest ← lastText sigElem "DigestValue" "Missing DigestValue in SAML Signature"
    let actualSig ← lastText sigElem "SignatureValue" "Missing SignatureValue in SAML Signature"
    return (actualDigest,actualSig)

/-- `hmac.compare_digest` takes ASCII texts only. -/
def verifySignature (parts : String × String) (idpCertPem : String) : Except PyError Unit :=
  let expectedSig := computeCertSignature lib parts.1 idpCertPem
  if Text.isAscii parts.2 && Text.isAscii expectedSig then
    if parts.2 = expectedSig then .ok ()
    else .error (samlSignatureInvalid "Invalid SAML digital signature against IdP certificate")
  else .error .typeError

structure SubjectScan where
  nameIdElem : Option Element := none
  recipient : Option String := none
  notOnOrAfter : Option String := none
  audience : Option String := none
  issuer : Option String := none

def SubjectScan.read (scan : SubjectScan) (elem : Element) : SubjectScan :=
  if hasTag "NameID" elem then { scan with nameIdElem := some elem }
  else if hasTag "SubjectConfirmationData" elem then
    { scan with recipient := elem.attrib.get? "Recipient", notOnOrAfter := elem.attrib.get? "NotOnOrAfter" }
  else if hasTag "Audience" elem then { scan with audience := strippedText elem }
  else if hasTag "Issuer" elem && scan.issuer.isNone then { scan with issuer := strippedText elem }
  else scan

def subjectOf (assertion : Element) : SubjectScan := assertion.iter.foldl SubjectScan.read {}

def nameIdOf (scan : SubjectScan) : Except PyError String :=
  match scan.nameIdElem.bind strippedText with
  | some nameId => .ok nameId
  | none => .error (samlSignatureInvalid "Missing NameID in SAML Subject")

def optionalValue : Option String → PyValue
  | some text => .str text
  | none => .none

/-- The check of the recipient or of the audience. -/
def checkSame (what expected : String) (actual : Option String) : Except PyError Unit :=
  if actual = some expected then .ok ()
  else .error (samlSignatureInvalid
    (what ++ " mismatch: expected '" ++ expected ++ "', got '" ++ actual.getD "None" ++ "'")
    [(.str "expected",.str expected),(.str "actual",optionalValue actual)])

/-- Without a limit the clock is the limit of the claims. -/
def checkExpiry (settings : AcsSettings) (notOnOrAfter : Option String) : Except PyError UtcDateTime :=
  match notOnOrAfter with
  | none => .ok settings.now
  | some text =>
    if text = "" then .ok settings.now
    else do
      let limit ← lib.fromIso text
      let now := settings.asOfTime.getD settings.now
      if lib.expired now limit settings.allowedClockSkewSeconds then
        throw (samlAssertionExpired ("SAML assertion expired at " ++ text ++ " (as_of=" ++ now.isoformat ++ ")")
          [(.str "not_on_or_after",.str text),(.str "now",.str now.isoformat)])
      else return limit

def readAttribute (attributes : Dict String (List String)) (elem : Element) : Dict String (List String) :=
  if hasTag "Attribute" elem then
    match elem.attrib.get? "Name" with
    | some attrName =>
      if attrName = "" then attributes
      else attributes.set attrName ((elem.children.filter (hasTag "AttributeValue")).filterMap strippedText)
    | none => attributes
  else attributes

def attributesOf (assertion : Element) : Dict String (List String) := assertion.iter.foldl readAttribute .empty

structure SamlAcsValidator where
  seenAssertionIds : List String := []

namespace SamlAcsValidator
variable (v : SamlAcsValidator)

/-- The identifier of an assertion that was not processed yet. -/
def freshId (assertion : Element) : Except PyError String :=
  match assertion.attrib.get? "ID" with
  | some assertionId =>
    if assertionId = "" then .error (samlSignatureInvalid "Assertion missing mandatory ID attribute")
    else if assertionId ∈ v.seenAssertionIds then
      .error (samlSignatureInvalid ("SAML assertion replayed: ID '" ++ assertionId ++ "' was already processed"))
    else .ok assertionId
  | none => .error (samlSignatureInvalid "Assertion missing mandatory ID attribute")

/-- The checks of an assertion and the claims it makes. -/
def checkAssertion (settings : AcsSettings) (assertion : Element) : Except PyError SamlAssertionClaims := do
  let assertionId ← v.freshId assertion
  let parts ← signatureParts assertion
  verifySignature lib parts settings.idpCertPem
  let scan := subjectOf assertion
  let nameId ← nameIdOf scan
  checkSame "Recipient" settings.expectedRecipient scan.recipient
  checkSame "Audience" settings.expectedAudience scan.audience
  let notOnOrAfter ← checkExpiry lib settings scan.notOnOrAfter
  return { assertionId, nameId, issuer := scan.issuer.getD "", recipient := scan.recipient.getD ""
           audience := scan.audience.getD "", notOnOrAfter, attributes := attributesOf assertion }

def checkResponse (settings : AcsSettings) (samlResponseB64 : String) : Except PyError SamlAssertionClaims := do
  let root ← parsedResponse lib samlResponseB64
  let assertion ← assertionOf root
  v.checkAssertion lib settings assertion

/-- The identifier is remembered when all checks have passed. -/
def validateSamlResponse (settings : AcsSettings) (samlResponseB64 : String) :
    SamlAcsValidator × Except PyError SamlAssertionClaims :=
  match v.checkResponse lib settings samlResponseB64 with
  | .ok claims => (⟨claims.assertionId :: v.seenAssertionIds⟩,.ok claims)
  | .error error => (v,.error error)

end SamlAcsValidator
end reading
end RevPilot.Iam
