import RevPilot.Iam.SamlValidator
import RevPilot.Library.Outcome
import RevPilot.Library.Text

/-! What the validator's signature covers: a new subject at the end of a signed assertion changes
neither the digest value nor the signature, and the claims are those of the new subject. -/
namespace RevPilot.Iam
open Library Shared Runs SamlAcsValidator

def nameIdElement (name : String) : Element :=
  .mk "{urn:oasis:names:tc:SAML:2.0:assertion}NameID" .empty (some name) none []

/-- The tree whose assertion ends with one more subject. -/
def withSubject (name : String) (e : Element) : Element := Element.graft isAssertion (nameIdElement name) e

/-- A text that XML takes as it is. -/
def PlainName (name : String) : Prop := name ≠ "" ∧ name.toList.all Char.isAlpha = true

section grafting

/-- Two endings with different last characters are not those of one tag. -/
theorem endsWith_other {tag ending other : String} (ends : Text.endsWith tag ending = true) {c d : Char}
    (last : ending.toList.getLast? = some c) (otherLast : other.toList.getLast? = some d) (apart : c ≠ d) :
    Text.endsWith tag other = false := by
  rw [Bool.eq_false_iff]
  intro both
  unfold Text.endsWith at ends both
  rw [List.isSuffixOf_iff_suffix] at ends both
  obtain ⟨front,same⟩ := ends
  obtain ⟨front',same'⟩ := both
  have one := congrArg List.getLast? same
  have two := congrArg List.getLast? same'
  rw [List.getLast?_append,last,Option.some_or] at one
  rw [List.getLast?_append,otherLast,Option.some_or] at two
  exact apart (Option.some.inj (one.trans two.symm))

variable {assertion : Element} (name : String)

/-- The tags that the checks look for are no assertion's. -/
theorem assertion_untagged (isOne : isAssertion assertion.tag = true) {ending : String} {d : Char}
    (last : ending.toList.getLast? = some d) (apart : 'n' ≠ d) : hasTag ending assertion = false :=
  endsWith_other isOne (by rfl) last apart

theorem nameId_tagged : hasTag "NameID" (nameIdElement name) = true := by
  have ends : Text.endsWith "{urn:oasis:names:tc:SAML:2.0:assertion}NameID" "NameID" = true := by decide +kernel
  exact ends

theorem nameId_untagged {ending : String} {d : Char} (last : ending.toList.getLast? = some d) (apart : 'D' ≠ d) :
    hasTag ending (nameIdElement name) = false :=
  @endsWith_other _ "NameID" ending (nameId_tagged name) 'D' d (by rfl) last apart

theorem read_assertion (isOne : isAssertion assertion.tag = true) (scan : SubjectScan) : scan.read assertion = scan := by
  unfold SubjectScan.read
  rw [assertion_untagged isOne (by rfl : "NameID".toList.getLast? = some 'D') (by decide),
    assertion_untagged isOne (by rfl : "SubjectConfirmationData".toList.getLast? = some 'a') (by decide),
    assertion_untagged isOne (by rfl : "Audience".toList.getLast? = some 'e') (by decide),
    assertion_untagged isOne (by rfl : "Issuer".toList.getLast? = some 'r') (by decide)]
  rfl

theorem read_nameId (scan : SubjectScan) :
    scan.read (nameIdElement name) = { scan with nameIdElem := some (nameIdElement name) } := by
  rw [SubjectScan.read,if_pos (nameId_tagged name)]

theorem nameId_iter : (nameIdElement name).iter = [nameIdElement name] := rfl

theorem nameId_plain : Element.tagged isAssertion (nameIdElement name).iter = [] := by
  rw [nameId_iter]
  have other : isAssertion (nameIdElement name).tag = false :=
    nameId_untagged name (by rfl : "Assertion".toList.getLast? = some 'n') (by decide)
  simp [Element.tagged,other]

section walks
variable (isOne : isAssertion assertion.tag = true)
  (single : Element.tagged isAssertion (Element.iterAll assertion.children) = [])
include isOne single

theorem withSubject_iter : (withSubject name assertion).iter =
    withSubject name assertion :: (Element.iterAll assertion.children ++ [nameIdElement name]) :=
  Element.iter_graft isAssertion (nameIdElement name) isOne single

theorem signatureParts_withSubject : signatureParts (withSubject name assertion) = signatureParts assertion := by
  have ending : "Signature".toList.getLast? = some 'e' := by rfl
  have here : hasTag "Signature" (withSubject name assertion) = false := by
    apply assertion_untagged _ ending (by decide)
    rwa [withSubject,Element.graft_tag]
  have found : (withSubject name assertion).iter.find? (hasTag "Signature") = assertion.iter.find? (hasTag "Signature") := by
    rw [withSubject_iter name isOne single,Element.iter_eq assertion,List.find?_cons_of_neg (by simp [here]),
      List.find?_cons_of_neg (by simp [assertion_untagged isOne ending (by decide)]),List.find?_append]
    simp [nameId_untagged name ending (by decide)]
  rw [signatureParts,found,signatureParts]

theorem subjectOf_withSubject :
    subjectOf (withSubject name assertion) = { subjectOf assertion with nameIdElem := some (nameIdElement name) } := by
  have isToo : isAssertion (withSubject name assertion).tag = true := by rwa [withSubject,Element.graft_tag]
  rw [subjectOf,withSubject_iter name isOne single,List.foldl_cons,read_assertion isToo,List.foldl_append,
    List.foldl_cons,List.foldl_nil,read_nameId]
  rw [subjectOf,Element.iter_eq assertion,List.foldl_cons,read_assertion isOne]

theorem attributesOf_withSubject : attributesOf (withSubject name assertion) = attributesOf assertion := by
  have ending : "Attribute".toList.getLast? = some 'e' := by rfl
  have isToo : isAssertion (withSubject name assertion).tag = true := by rwa [withSubject,Element.graft_tag]
  have skip (e : Element) (other : hasTag "Attribute" e = false) (attributes : Dict String (List String)) :
      readAttribute attributes e = attributes := by
    rw [readAttribute,other]
    rfl
  rw [attributesOf,withSubject_iter name isOne single,List.foldl_cons,skip _ (assertion_untagged isToo ending (by decide)),
    List.foldl_append,List.foldl_cons,List.foldl_nil,skip _ (nameId_untagged name ending (by decide))]
  rw [attributesOf,Element.iter_eq assertion,List.foldl_cons,skip _ (assertion_untagged isOne ending (by decide))]

end walks
end grafting

section substitution
variable {lib : SamlLibrary} {v : SamlAcsValidator} {settings : AcsSettings} {assertion : Element}
  {claims : SamlAssertionClaims} {name : String}

/-- The claims of an accepted assertion with another subject at its end. -/
theorem checkAssertion_withSubject (isOne : isAssertion assertion.tag = true)
    (single : Element.tagged isAssertion (Element.iterAll assertion.children) = []) (named : name ≠ "")
    (accepted : v.checkAssertion lib settings assertion = .ok claims) :
    v.checkAssertion lib settings (withSubject name assertion) = .ok { claims with nameId := Text.strip name } := by
  have sameId : v.freshId (withSubject name assertion) = v.freshId assertion := by
    rw [freshId,withSubject,Element.graft_attrib,freshId]
  have newName (scan : SubjectScan) : nameIdOf { scan with nameIdElem := some (nameIdElement name) } = .ok (Text.strip name) := by
    have given : strippedText (nameIdElement name) = some (Text.strip name) := if_neg named
    rw [nameIdOf,Option.bind_some,given]
  unfold checkAssertion at accepted ⊢
  rw [sameId,signatureParts_withSubject name isOne single,subjectOf_withSubject name isOne single,
    attributesOf_withSubject name isOne single]
  obtain ⟨assertionId,fresh,accepted⟩ := Outcome.bind_eq_ok.mp accepted
  obtain ⟨parts,signed,accepted⟩ := Outcome.bind_eq_ok.mp accepted
  obtain ⟨_,verified,accepted⟩ := Outcome.bind_eq_ok.mp accepted
  obtain ⟨nameId,_,accepted⟩ := Outcome.bind_eq_ok.mp accepted
  obtain ⟨_,recipient,accepted⟩ := Outcome.bind_eq_ok.mp accepted
  obtain ⟨_,audience,accepted⟩ := Outcome.bind_eq_ok.mp accepted
  obtain ⟨limit,valid,accepted⟩ := Outcome.bind_eq_ok.mp accepted
  obtain rfl := Outcome.pure_eq_ok.mp accepted
  refine Outcome.bind_eq_ok.mpr ⟨assertionId,fresh,?_⟩
  refine Outcome.bind_eq_ok.mpr ⟨parts,signed,?_⟩
  refine Outcome.bind_eq_ok.mpr ⟨(),verified,?_⟩
  refine Outcome.bind_eq_ok.mpr ⟨Text.strip name,newName _,?_⟩
  refine Outcome.bind_eq_ok.mpr ⟨(),recipient,?_⟩
  refine Outcome.bind_eq_ok.mpr ⟨(),audience,?_⟩
  exact Outcome.bind_eq_ok.mpr ⟨limit,valid,rfl⟩

theorem assertionOf_eq_ok {root : Element} :
    assertionOf root = .ok assertion ↔ Element.tagged isAssertion root.iter = [assertion] := by
  unfold assertionOf
  split
  next only found => simp [found]
  next found other =>
    refine iff_of_false nofun ?_
    intro same
    exact other assertion same

theorem assertionOf_withSubject {root : Element} (found : assertionOf root = .ok assertion) (name : String) :
    assertionOf (withSubject name root) = .ok (withSubject name assertion) := by
  rw [assertionOf_eq_ok] at found ⊢
  rw [withSubject,Element.tagged_graft _ _ (nameId_plain name),found]
  rfl

end substitution

section integrity
variable (lib : SamlLibrary) (content : Element → String)

/-- The content of the assertion without its signature has the digest that the signature covers;
`content` is its canonical text. -/
def ContentSigned (assertion : Element) : Prop :=
  ∃ digest signature, signatureParts assertion = .ok (digest,signature) ∧
    computeCanonicalDigest lib (content assertion) = digest

def FromSigned (response : String) : Prop :=
  ∃ root assertion, parsedResponse lib response = .ok root ∧ assertionOf root = .ok assertion ∧
    ContentSigned lib content assertion

def Accepts (v : SamlAcsValidator) (settings : AcsSettings) (response : String) (claims : SamlAssertionClaims) : Prop :=
  (v.validateSamlResponse lib settings response).2 = .ok claims

/-- Whatever response is accepted, its claims come from a signed content. -/
def ClaimsIntact (v : SamlAcsValidator) (settings : AcsSettings) : Prop :=
  ∀ response claims, Accepts lib v settings response claims → FromSigned lib content response

def AcceptsNothing (v : SamlAcsValidator) (settings : AcsSettings) : Prop :=
  ∀ response claims, ¬ Accepts lib v settings response claims

/-- The parser reads the documents with one more subject too, and no digest is that of the contents
with every subject. -/
structure Alterable : Prop where
  readable : ∀ response root name, parsedResponse lib response = .ok root → PlainName name →
    ∃ altered, parsedResponse lib altered = .ok (withSubject name root)
  told : ∀ root assertion digest, assertionOf root = .ok assertion →
    ∃ name, PlainName name ∧ computeCanonicalDigest lib (content (withSubject name assertion)) ≠ digest

/-- The validator of a run, with the identifiers of the assertions it accepted. -/
structure SamlRun where
  validator : SamlAcsValidator
  accepted : List String := []

def samlStep (r : SamlRun) (call : AcsSettings × String) : SamlRun :=
  match r.validator.validateSamlResponse lib call.1 call.2 with
  | (validator,.ok claims) => ⟨validator,claims.assertionId :: r.accepted⟩
  | (validator,.error _) => ⟨validator,r.accepted⟩

/-- Every accepted identifier is remembered, and none was accepted twice. -/
structure AcceptedOnce (r : SamlRun) : Prop where
  remembered : ∀ id ∈ r.accepted, id ∈ r.validator.seenAssertionIds
  once : r.accepted.Nodup

end integrity

section runs
variable {lib : SamlLibrary} {content : Element → String} {v : SamlAcsValidator} {settings : AcsSettings}
  {response : String} {claims : SamlAssertionClaims}

theorem parsedResponse_eq_ok {root : Element} :
    parsedResponse lib response = .ok root ↔ ∃ xml, lib.decode response = .ok xml ∧ lib.fromstring xml = .ok root := by
  unfold parsedResponse
  cases lib.decode response with
  | error err => simp
  | ok xml => cases parsed : lib.fromstring xml <;> simp [parsed]

theorem accepts_iff : Accepts lib v settings response claims ↔ ∃ root assertion, parsedResponse lib response = .ok root ∧
    assertionOf root = .ok assertion ∧ v.checkAssertion lib settings assertion = .ok claims := by
  have checked : Accepts lib v settings response claims ↔ v.checkResponse lib settings response = .ok claims := by
    unfold Accepts validateSamlResponse
    cases v.checkResponse lib settings response with
    | ok claims => rfl
    | error error => rfl
  rw [checked,checkResponse]
  simp only [Outcome.bind_eq_ok,exists_and_left]

theorem checkAssertion_parts {assertion : Element} (accepted : v.checkAssertion lib settings assertion = .ok claims) :
    v.freshId assertion = .ok claims.assertionId ∧ ∃ parts, signatureParts assertion = .ok parts := by
  obtain ⟨assertionId,fresh,accepted⟩ := Outcome.bind_eq_ok.mp accepted
  obtain ⟨parts,signed,accepted⟩ := Outcome.bind_eq_ok.mp accepted
  obtain ⟨_,_,accepted⟩ := Outcome.bind_eq_ok.mp accepted
  obtain ⟨_,_,accepted⟩ := Outcome.bind_eq_ok.mp accepted
  obtain ⟨_,_,accepted⟩ := Outcome.bind_eq_ok.mp accepted
  obtain ⟨_,_,accepted⟩ := Outcome.bind_eq_ok.mp accepted
  obtain ⟨_,_,accepted⟩ := Outcome.bind_eq_ok.mp accepted
  obtain rfl := Outcome.pure_eq_ok.mp accepted
  exact ⟨fresh,parts,signed⟩

theorem freshId_new {assertion : Element} {assertionId : String} (fresh : v.freshId assertion = .ok assertionId) :
    assertionId ∉ v.seenAssertionIds := by
  unfold freshId at fresh
  split at fresh
  next id _ =>
    split at fresh
    · cases fresh
    · split at fresh
      · cases fresh
      · cases fresh
        assumption
  next => cases fresh

/-- Claims are safe only where nothing is accepted: any accepted response can get another subject. -/
theorem claims_intact_iff (alterable : Alterable lib content) :
    ClaimsIntact lib content v settings ↔ AcceptsNothing lib v settings := by
  constructor
  · intro intact response claims accepted
    obtain ⟨root,assertion,parsed,found,checked⟩ := accepts_iff.mp accepted
    obtain ⟨isOne,single⟩ := Element.tagged_single isAssertion (assertionOf_eq_ok.mp found)
    obtain ⟨_,⟨digest,signature⟩,signed⟩ := checkAssertion_parts checked
    obtain ⟨name,plain,told⟩ := alterable.told root assertion digest found
    obtain ⟨altered,reads⟩ := alterable.readable response root name parsed plain
    have again := checkAssertion_withSubject isOne single plain.1 checked
    have foundAgain := assertionOf_withSubject found name
    have alsoAccepted := accepts_iff.mpr ⟨_,_,reads,foundAgain,again⟩
    obtain ⟨_,_,parsedAgain,sameAssertion,digest',signature',signed',same⟩ := intact altered _ alsoAccepted
    obtain rfl := Except.ok.inj (reads.symm.trans parsedAgain)
    obtain rfl := Except.ok.inj (foundAgain.symm.trans sameAssertion)
    rw [signatureParts_withSubject name isOne single,signed] at signed'
    obtain ⟨rfl,_⟩ := Prod.mk.inj (Except.ok.inj signed')
    exact told same
  · intro nothing response claims accepted
    exact absurd accepted (nothing response claims)

theorem acceptedOnce_step {r : SamlRun} (kept : AcceptedOnce r) (call : AcsSettings × String) :
    AcceptedOnce (samlStep lib r call) := by
  unfold samlStep validateSamlResponse
  cases checked : r.validator.checkResponse lib call.1 call.2 with
  | error error => exact kept
  | ok claims =>
    have accepted : Accepts lib r.validator call.1 call.2 claims := by
      rw [Accepts,validateSamlResponse,checked]
    obtain ⟨root,assertion,_,_,ok⟩ := accepts_iff.mp accepted
    have new := freshId_new (checkAssertion_parts ok).1
    constructor
    · intro id inside
      rcases List.mem_cons.mp inside with rfl | earlier
      · exact List.mem_cons_self
      · exact List.mem_cons_of_mem _ (kept.remembered id earlier)
    · exact List.nodup_cons.mpr ⟨fun earlier => new (kept.remembered _ earlier),kept.once⟩

/-- No assertion is accepted twice in a run. In each of its states the accepted claims come from
signed contents only under settings with which nothing is accepted. -/
theorem saml_integrity_iff (alterable : Alterable lib content) (seen : List String) (calls : List (AcsSettings × String)) :
    (run (samlStep lib) ⟨⟨seen⟩,[]⟩ calls).accepted.Nodup ∧
      Always (samlStep lib) (fun r => ∀ settings, ClaimsIntact lib content r.validator settings ↔
        AcceptsNothing lib r.validator settings) ⟨⟨seen⟩,[]⟩ calls := by
  constructor
  · have start : AcceptedOnce ⟨⟨seen⟩,[]⟩ := ⟨nofun,List.nodup_nil⟩
    have final := stable_run (samlStep lib) (I := AcceptedOnce) (fun r call kept => acceptedOnce_step kept call) start calls
    exact final.once
  · intro pre post split settings
    exact claims_intact_iff alterable

end runs

section examples

def el (tag : String) (attrib : List (String × String)) (text : Option String) (children : List Element) : Element :=
  .mk tag (attrib.foldl (fun d field => d.set field.1 field.2) .empty) text none children

def writeAttrib (attrib : Dict String String) : String :=
  String.join (attrib.entries.map (fun field => " " ++ field.1 ++ "=\"" ++ field.2 ++ "\""))

mutual
/-- The text of an element, with its namespaces written out. -/
def write : Element → String
  | .mk tag attrib text tail children =>
    "<" ++ tag ++ writeAttrib attrib ++ ">" ++ text.getD "" ++ writeAll children ++ "</" ++ tag ++ ">" ++ tail.getD ""
def writeAll : List Element → String
  | [] => ""
  | e :: es => write e ++ writeAll es
end

def writtenContent : Element → String
  | .mk tag attrib text _ children =>
    write (.mk tag attrib text none (children.filter (fun child => !hasTag "Signature" child)))

def signedAssertion : Element :=
  el "{saml}Assertion" [("ID","_a1")] none
    [el "{saml}NameID" [] (some "ann") [],
      el "{saml}SubjectConfirmationData" [("Recipient","acs")] none [],
      el "{saml}Audience" [] (some "sp") [],
      el "{ds}Signature" [] none
        [el "{ds}DigestValue" [] (some "190") [],el "{ds}SignatureValue" [] (some "key190") []]]

def signedDocument : Element := el "{samlp}Response" [] none [signedAssertion]

def documentHead : String :=
  "<samlp:Response xmlns:samlp=\"samlp\" xmlns:saml=\"saml\" xmlns:ds=\"ds\"><saml:Assertion ID=\"_a1\">" ++
    "<saml:NameID>ann</saml:NameID><saml:SubjectConfirmationData Recipient=\"acs\"/>" ++
    "<saml:Audience>sp</saml:Audience><ds:Signature><ds:DigestValue>190</ds:DigestValue>" ++
    "<ds:SignatureValue>key190</ds:SignatureValue></ds:Signature>"

def documentTail : List Char := '<' :: '/' :: "saml:Assertion></samlp:Response>".toList

def subjectOpen : List Char := '<' :: 'N' :: "ameID xmlns=\"urn:oasis:names:tc:SAML:2.0:assertion\">".toList

def subjectText (name : String) : List Char := subjectOpen ++ name.toList ++ '<' :: "/NameID>".toList

def after (lead cs : List Char) : Option (List Char) :=
  if lead.isPrefixOf cs then some (cs.drop lead.length) else none

/-- The names of the subjects between the signature and the end of the document. -/
def subjects : Nat → List Char → Option (List String)
  | 0, _ => none
  | fuel + 1, rest =>
    if rest = documentTail then some []
    else do
      let body ← after subjectOpen rest
      let later ← after ('<' :: "/NameID>".toList) (body.dropWhile Char.isAlpha)
      let names ← subjects fuel later
      return String.ofList (body.takeWhile Char.isAlpha) :: names

/-- A parser of the documents that end with further subjects. -/
def plainParse (lead cs : List Char) : Except String Element :=
  match (after lead cs).bind (fun rest => subjects (rest.length + 1) rest) with
  | some names => .ok (names.foldl (fun e name => withSubject name e) signedDocument)
  | none => .error "not well-formed"

/-- The parser, and stand-ins for the digests. -/
def plainLibrary (lead : List Char) : SamlLibrary where
  decode response := .ok response
  fromstring xml := plainParse lead xml.toList
  sha256 text := (Int.ofNat text.length).repr
  hmac key data := key ++ data
  fromIso _ := .ok ⟨1767225600000000⟩
  expired now limit skew := decide (limit.micros + skew * 1000000 ≤ now.micros)

def documentText (lead : List Char) (names : List String) : String :=
  String.ofList (lead ++ (names.flatMap subjectText ++ documentTail))

section parser

theorem after_append (lead rest : List Char) : after lead (lead ++ rest) = some rest := by
  simp [after]

theorem subjects_print {names : List String} (plain : ∀ name ∈ names, ∀ c ∈ name.toList, c.isAlpha = true) {fuel : Nat}
    (enough : names.length < fuel) : subjects fuel (names.flatMap subjectText ++ documentTail) = some names := by
  induction names generalizing fuel with
  | nil =>
    cases fuel with
    | zero => omega
    | succ fuel => rw [subjects,List.flatMap_nil,List.nil_append,if_pos rfl]
  | cons name names ih =>
    cases fuel with
    | zero => omega
    | succ fuel =>
      have letters := plain name List.mem_cons_self
      have shape : (name :: names).flatMap subjectText ++ documentTail = subjectOpen ++
          (name.toList ++ ('<' :: "/NameID>".toList ++ (names.flatMap subjectText ++ documentTail))) := by
        simp [subjectText]
      have other : subjectOpen ++ (name.toList ++ ('<' :: "/NameID>".toList ++
          (names.flatMap subjectText ++ documentTail))) ≠ documentTail := by
        intro same
        have second := (List.cons.inj (List.cons.inj same).2).1
        exact absurd second (by decide)
      have rest := ih (fun name inside => plain name (List.mem_cons_of_mem _ inside)) (Nat.lt_of_succ_lt_succ enough)
      rw [shape,subjects,if_neg other,after_append]
      simp only [Option.bind_eq_bind,Option.bind_some]
      rw [List.dropWhile_append_of_pos letters,List.takeWhile_append_of_pos letters,List.cons_append,
        List.dropWhile_cons_of_neg (by decide),List.takeWhile_cons_of_neg (by decide),List.append_nil,← List.cons_append,
        after_append]
      simp only [Option.bind_some,rest,String.ofList_toList]
      rfl

theorem subjects_letters {fuel : Nat} {rest : List Char} {names : List String} (read : subjects fuel rest = some names) :
    ∀ name ∈ names, ∀ c ∈ name.toList, c.isAlpha = true := by
  induction fuel generalizing rest names with
  | zero => cases read
  | succ fuel ih =>
    rw [subjects] at read
    split at read
    · cases read
      exact nofun
    · obtain ⟨body,_,read⟩ := Option.bind_eq_some_iff.mp read
      obtain ⟨later,_,read⟩ := Option.bind_eq_some_iff.mp read
      obtain ⟨others,known,read⟩ := Option.bind_eq_some_iff.mp read
      cases read
      intro name inside
      rcases List.mem_cons.mp inside with rfl | inside
      · intro c letter
        rw [String.toList_ofList] at letter
        exact List.mem_takeWhile_imp letter
      · exact ih known name inside

theorem plainParse_print {names : List String} (plain : ∀ name ∈ names, ∀ c ∈ name.toList, c.isAlpha = true)
    (lead : List Char) : plainParse lead (lead ++ (names.flatMap subjectText ++ documentTail)) =
      .ok (names.foldl (fun e name => withSubject name e) signedDocument) := by
  have few : names.length < (names.flatMap subjectText ++ documentTail).length + 1 := by
    have longer : names.length ≤ (names.flatMap subjectText).length := by
      clear plain
      induction names with
      | nil => exact Nat.le_refl _
      | cons name names ih =>
        simp only [List.flatMap_cons,List.length_append,List.length_cons,subjectText]
        omega
    rw [List.length_append]
    omega
  rw [plainParse,after_append,Option.bind_some,subjects_print plain few]

theorem plainParse_names {lead cs : List Char} {root : Element} (parsed : plainParse lead cs = .ok root) :
    ∃ names : List String, (∀ name ∈ names, ∀ c ∈ name.toList, c.isAlpha = true) ∧
      names.foldl (fun e name => withSubject name e) signedDocument = root := by
  unfold plainParse at parsed
  split at parsed
  next names found =>
    obtain ⟨rest,_,read⟩ := Option.bind_eq_some_iff.mp found
    exact ⟨names,subjects_letters read,Except.ok.inj parsed⟩
  next => cases parsed

theorem parsed_documentText {names : List String} (plain : ∀ name ∈ names, ∀ c ∈ name.toList, c.isAlpha = true)
    (lead : List Char) : parsedResponse (plainLibrary lead) (documentText lead names) =
      .ok (names.foldl (fun e name => withSubject name e) signedDocument) := by
  have parsed := plainParse_print plain lead
  rw [← @String.toList_ofList (lead ++ (names.flatMap subjectText ++ documentTail))] at parsed
  exact parsedResponse_eq_ok.mpr ⟨documentText lead names,rfl,parsed⟩

theorem plainLibrary_readable {lead : List Char} {response : String} {root : Element}
    (parsed : parsedResponse (plainLibrary lead) response = .ok root) {name : String} (letters : PlainName name) :
    ∃ altered, parsedResponse (plainLibrary lead) altered = .ok (withSubject name root) := by
  obtain ⟨xml,_,read⟩ := parsedResponse_eq_ok.mp parsed
  obtain ⟨names,known,rfl⟩ := plainParse_names read
  refine ⟨documentText lead (names ++ [name]),?_⟩
  rw [parsed_documentText,List.foldl_append,List.foldl_cons,List.foldl_nil]
  intro other inside
  rcases List.mem_append.mp inside with earlier | last
  · exact known other earlier
  · rw [List.mem_singleton.mp last]
    exact List.all_eq_true.mp letters.2

end parser

section digests

theorem writeAll_append (es fs : List Element) : writeAll (es ++ fs) = writeAll es ++ writeAll fs := by
  induction es with
  | nil => rw [List.nil_append,writeAll,String.empty_append]
  | cons e es ih => rw [List.cons_append,writeAll,writeAll,ih,String.append_assoc]

/-- A content begins and ends with a bracket. -/
theorem strip_writtenContent (e : Element) : Text.strip (writtenContent e) = writtenContent e := by
  cases e with
  | mk tag attrib text tail children =>
    rw [Text.strip_eq_self_iff,writtenContent,write]
    have lead : "<".toList = ['<'] := by rfl
    have close : ">".toList = ['>'] := by rfl
    constructor
    · intro c first
      simp only [String.toList_append,lead,List.append_assoc,List.cons_append,List.head?_cons,Option.some.injEq] at first
      subst first
      decide
    · intro c last
      simp only [String.toList_append,close,Option.getD_none,String.toList_empty,List.append_nil,List.getLast?_append,
        List.getLast?_singleton,Option.some_or,Option.some.injEq] at last
      subst last
      decide

theorem digest_writtenContent (lead : List Char) (e : Element) :
    computeCanonicalDigest (plainLibrary lead) (writtenContent e) = (Int.ofNat (writtenContent e).length).repr := by
  rw [computeCanonicalDigest,strip_writtenContent]
  rfl

/-- A new subject makes the content longer by its name. -/
theorem writtenContent_length {e : Element} (isOne : isAssertion e.tag = true)
    (single : Element.tagged isAssertion (Element.iterAll e.children) = []) (name : String) :
    (writtenContent (withSubject name e)).length = (writtenContent (withSubject "" e)).length + name.length := by
  cases e with
  | mk tag attrib text tail children =>
    have here : isAssertion tag = true := isOne
    have grown (name : String) : withSubject name (.mk tag attrib text tail children) =
        .mk tag attrib text tail (children ++ [nameIdElement name]) := by
      rw [withSubject,Element.graft,Element.graftAll_of_untagged _ _ children single,if_pos here]
    have kept (name : String) : hasTag "Signature" (nameIdElement name) = false :=
      nameId_untagged name (by rfl : "Signature".toList.getLast? = some 'e') (by decide)
    have subject (name : String) : (write (nameIdElement name)).length = (write (nameIdElement "")).length + name.length := by
      simp only [nameIdElement,write,String.length_append,Option.getD_some]
      have empty : "".length = 0 := rfl
      omega
    rw [grown,grown]
    simp only [writtenContent,List.filter_append,List.filter_cons,kept,Bool.not_false,if_true,List.filter_nil,write,
      writeAll_append,writeAll,String.length_append,subject name]
    omega

theorem plainAlterable (lead : List Char) : Alterable (plainLibrary lead) writtenContent where
  readable _ _ _ parsed letters := plainLibrary_readable parsed letters
  told root assertion digest found := by
    obtain ⟨isOne,single⟩ := Element.tagged_single isAssertion (assertionOf_eq_ok.mp found)
    by_contra none
    have alike (name : String) (plain : PlainName name) :
        computeCanonicalDigest (plainLibrary lead) (writtenContent (withSubject name assertion)) = digest := by
      by_contra other
      exact none ⟨name,plain,other⟩
    have one := alike "a" ⟨by decide,by decide⟩
    have two := alike "aa" ⟨by decide,by decide⟩
    rw [digest_writtenContent] at one two
    have same := Int.ofNat.inj (Int.repr_injective (one.trans two.symm))
    have shorter := writtenContent_length isOne single "a"
    have longer := writtenContent_length isOne single "aa"
    have lengths : "a".length = 1 ∧ "aa".length = 2 := ⟨rfl,rfl⟩
    omega

end digests

def plainSettings : AcsSettings where
  expectedRecipient := "acs"
  expectedAudience := "sp"
  idpCertPem := "key"
  now := ⟨1767220000000000⟩

def plainSaml : SamlLibrary := plainLibrary documentHead.toList

/-- The signed response, and the one that got the subject of another user. -/
def substitution : List (AcsSettings × String) :=
  [(plainSettings,documentText documentHead.toList []),(plainSettings,documentText documentHead.toList ["mallory"])]

theorem substitution_integrity :
    (run (samlStep plainSaml) ⟨⟨[]⟩,[]⟩ substitution).accepted.Nodup ∧
      Always (samlStep plainSaml) (fun r => ∀ settings, ClaimsIntact plainSaml writtenContent r.validator settings ↔
        AcceptsNothing plainSaml r.validator settings) ⟨⟨[]⟩,[]⟩ substitution :=
  saml_integrity_iff (plainAlterable documentHead.toList) [] substitution

theorem signed_found : assertionOf signedDocument = .ok signedAssertion := by
  rw [assertionOf_eq_ok]
  have endings : [isAssertion "{samlp}Response",isAssertion "{saml}Assertion",isAssertion "{saml}NameID",
      isAssertion "{saml}SubjectConfirmationData",isAssertion "{saml}Audience",isAssertion "{ds}Signature",
      isAssertion "{ds}DigestValue",isAssertion "{ds}SignatureValue"] =
        [false,true,false,false,false,false,false,false] := by decide +kernel
  simp only [List.cons.injEq] at endings
  simp [signedDocument,signedAssertion,el,Element.iter,Element.iterAll,Element.tagged,Element.tag,endings]

theorem signed_accepted : ∃ claims, ({} : SamlAcsValidator).checkAssertion plainSaml plainSettings signedAssertion = .ok claims := by
  have ok : (({} : SamlAcsValidator).checkAssertion plainSaml plainSettings signedAssertion).isOk = true := by decide +kernel
  cases checked : ({} : SamlAcsValidator).checkAssertion plainSaml plainSettings signedAssertion with
  | ok claims => exact ⟨claims,rfl⟩
  | error error =>
    rw [checked] at ok
    cases ok

/-- Were the claims intact, the content with any subject would have the one digest value. -/
theorem substituted_digest (intact : ClaimsIntact plainSaml writtenContent {} plainSettings) {name : String}
    (letters : PlainName name) : ∃ parts, signatureParts signedAssertion = .ok parts ∧
      (Int.ofNat (writtenContent (withSubject name signedAssertion)).length).repr = parts.1 := by
  obtain ⟨isOne,single⟩ := Element.tagged_single isAssertion (assertionOf_eq_ok.mp signed_found)
  obtain ⟨claims,checked⟩ := signed_accepted
  have parsed : parsedResponse plainSaml (documentText documentHead.toList [name]) = .ok (withSubject name signedDocument) := by
    have plain : ∀ other ∈ [name], ∀ c ∈ other.toList, c.isAlpha = true := by
      intro other inside
      rw [List.mem_singleton.mp inside]
      exact List.all_eq_true.mp letters.2
    exact parsed_documentText plain documentHead.toList
  have found := assertionOf_withSubject signed_found name
  have accepted := accepts_iff.mpr ⟨_,_,parsed,found,checkAssertion_withSubject isOne single letters.1 checked⟩
  obtain ⟨_,_,parsedAgain,foundAgain,digest,signature,signed,same⟩ := intact _ _ accepted
  obtain rfl := Except.ok.inj (parsed.symm.trans parsedAgain)
  obtain rfl := Except.ok.inj (found.symm.trans foundAgain)
  rw [signatureParts_withSubject name isOne single] at signed
  refine ⟨_,signed,?_⟩
  rw [← digest_writtenContent documentHead.toList]
  exact same

theorem mallory_accepted : ¬ ClaimsIntact plainSaml writtenContent {} plainSettings := by
  intro intact
  obtain ⟨isOne,single⟩ := Element.tagged_single isAssertion (assertionOf_eq_ok.mp signed_found)
  obtain ⟨parts,signed,mallory⟩ := substituted_digest intact (⟨by decide,by decide⟩ : PlainName "mallory")
  obtain ⟨others,again,bob⟩ := substituted_digest intact (⟨by decide,by decide⟩ : PlainName "bob")
  obtain rfl := Except.ok.inj (signed.symm.trans again)
  have same := Int.ofNat.inj (Int.repr_injective (mallory.trans bob.symm))
  have longer := writtenContent_length isOne single "mallory"
  have shorter := writtenContent_length isOne single "bob"
  have lengths : "mallory".length = 7 ∧ "bob".length = 3 := ⟨rfl,rfl⟩
  omega

end examples
end RevPilot.Iam
