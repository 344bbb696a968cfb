import RevPilot.Approval.Digest
import RevPilot.Connectors.Stripe
import RevPilot.Library.Bytes
import RevPilot.Library.PyFloat

/-! The signature of a webhook and its freshness. HMAC is a parameter on bytes, and so is
`datetime.fromisoformat`. -/
namespace RevPilot.Connectors
open Library Shared Approval

/-- The signed bytes. -/
def signedPayload (timestampStr : String) (rawBody : List UInt8) : List UInt8 :=
  Bytes.utf8 ("t=" ++ timestampStr ++ ".") ++ rawBody

/-- The second timestamp goes on behind the first one and a dot, with what the first body has
in front of the second one and a dot. -/
def ExtendedBy (timestampStr : String) (rawBody : List UInt8) (longer : String) (shorter : List UInt8) : Prop :=
  ∃ middle, longer = timestampStr ++ "." ++ middle ∧ rawBody = Bytes.utf8 (middle ++ ".") ++ shorter

theorem extendedBy_signed {t t' : String} {body body' : List UInt8} (extended : ExtendedBy t body t' body') :
    signedPayload t body = signedPayload t' body' := by
  obtain ⟨middle,rfl,rfl⟩ := extended
  simp only [signedPayload,Bytes.utf8_append,List.append_assoc]

theorem signed_cases {t t' : String} {body body' : List UInt8} (shorter : (Bytes.utf8 t).length ≤ (Bytes.utf8 t').length)
    (same : signedPayload t body = signedPayload t' body') : (t = t' ∧ body = body') ∨ ExtendedBy t body t' body' := by
  simp only [signedPayload,Bytes.utf8_append,List.append_assoc,List.append_cancel_left_eq] at same
  obtain ⟨rest,whole⟩ : Bytes.utf8 t <+: Bytes.utf8 t' :=
    List.prefix_of_prefix_length_le ⟨_,same⟩ ⟨_,rfl⟩ shorter
  rw [← whole,List.append_assoc,List.append_cancel_left_eq] at same
  have dot : Bytes.utf8 "." = [46] := by decide
  rw [dot] at same
  cases rest with
  | nil =>
    left
    rw [List.append_nil] at whole
    exact ⟨Bytes.utf8_injective whole,by simpa using same⟩
  | cons b rest =>
    right
    obtain ⟨rfl,inner⟩ := List.cons.inj same
    have front : Bytes.utf8 (t ++ ".") <+: Bytes.utf8 t' := by
      refine ⟨rest,?_⟩
      rw [Bytes.utf8_append,dot,← whole]
      simp
    obtain ⟨chars,split⟩ := Bytes.prefix_of_utf8 front
    have middle : t' = t ++ "." ++ String.ofList chars := by
      apply String.toList_injective
      rw [← split]
      simp
    refine ⟨String.ofList chars,middle,?_⟩
    rw [middle,Bytes.utf8_append,Bytes.utf8_append,dot,List.append_assoc] at whole
    have tail : rest = Bytes.utf8 (String.ofList chars) := by simpa using whole
    rw [Bytes.utf8_append,dot,← tail]
    simpa using inner

theorem extendedBy_ne {t t' : String} {body body' : List UInt8} (extended : ExtendedBy t body t' body') : t ≠ t' := by
  obtain ⟨middle,longer,_⟩ := extended
  rintro rfl
  have lengths := congrArg String.length longer
  simp only [String.length_append] at lengths
  have dot : ".".length = 1 := rfl
  omega

/-- Two deliveries are signed alike exactly if they are equal or one timestamp extends the other. -/
theorem signed_iff (t t' : String) (body body' : List UInt8) :
    signedPayload t body = signedPayload t' body' ↔
      (t = t' ∧ body = body') ∨ ExtendedBy t body t' body' ∨ ExtendedBy t' body' t body := by
  constructor
  · intro same
    rcases le_total (Bytes.utf8 t).length (Bytes.utf8 t').length with shorter | shorter
    · exact (signed_cases shorter same).imp_right .inl
    · rcases signed_cases shorter same.symm with ⟨rfl,rfl⟩ | extended
      · exact .inl ⟨rfl,rfl⟩
      · exact .inr (.inr extended)
  · rintro (⟨rfl,rfl⟩ | extended | extended)
    · rfl
    · exact extendedBy_signed extended
    · exact (extendedBy_signed extended).symm

/-- A time that `datetime.fromisoformat` reads, with its instant in microseconds. -/
structure IsoTime where
  micros : Int
  aware : Bool

/-- `dt.timestamp()`: without a zone the seconds and their fraction are added as floats. -/
def IsoTime.timestamp (t : IsoTime) : ℚ :=
  if t.aware then toDouble (t.micros / 1000000)
  else toDouble ((t.micros / 1000000 : Int) + toDouble ((t.micros % 1000000 : Int) / 1000000))

structure WebhookLibrary where
  hmacSha256 : List UInt8 → List UInt8 → List UInt8
  fromisoformat : String → Except String IsoTime

structure WebhookVerifier where
  maxSkewSeconds : Int := 300
  maxPayloadBytes : Int := 2 * 1024 * 1024

namespace WebhookVerifier
variable (lib : WebhookLibrary)

def generateWebhookSignature (rawBody : List UInt8) (secret timestampStr : String) : String :=
  Bytes.hex (lib.hmacSha256 (Bytes.utf8 secret) (signedPayload timestampStr rawBody))

/-- `ts_float`. -/
def readTimestamp (timestampHeader : String) : Except String FloatValue :=
  match FloatText.float? (Text.strip timestampHeader) with
  | some tsFloat => .ok tsFloat
  | none => (lib.fromisoformat (Text.strip timestampHeader)).map fun t => .finite t.timestamp

/-- `abs(current_ts - ts_float)`. -/
def skewSeconds (now : UtcDateTime) : FloatValue → FloatValue
  | .finite tsFloat =>
    match FloatValue.nearest (timestamp now - tsFloat) with
    | .finite difference => .finite |difference|
    | .infinite _ => .infinite false
    | .nan => .nan
  | .infinite _ => .infinite false
  | .nan => .nan

/-- `f"{x:.1f}"` of a float that is not negative. -/
def toFixed1 : FloatValue → String
  | .finite value =>
    let tenths := halfEven (value * 10).num.natAbs (value * 10).den
    (tenths / 10).repr ++ "." ++ (tenths % 10).repr
  | .infinite _ => "inf"
  | .nan => "nan"

/-- The clock reading is an argument. -/
def verifySignature (v : WebhookVerifier) (rawBody : List UInt8) (signatureHeader secret timestampHeader : String)
    (now : UtcDateTime) : Except PyError Unit :=
  if v.maxPayloadBytes < rawBody.length then
    .error (connectorError "PAYLOAD_TOO_LARGE" ("Webhook payload size " ++ rawBody.length.repr ++
      " bytes exceeds maximum " ++ v.maxPayloadBytes.repr ++ " bytes (2MB)"))
  else
    match readTimestamp lib timestampHeader with
    | .error err => .error (connectorError "TIMESTAMP_SKEW"
        ("Invalid timestamp format '" ++ timestampHeader ++ "': " ++ err))
    | .ok tsFloat =>
      if (skewSeconds now tsFloat).above v.maxSkewSeconds then
        .error (connectorError "TIMESTAMP_SKEW" ("Webhook timestamp skew " ++ toFixed1 (skewSeconds now tsFloat) ++
          "s exceeds maximum allowed tolerance of " ++ v.maxSkewSeconds.repr ++ "s"))
      else
        let actualSig := withoutScheme (Text.strip signatureHeader)
        let expectedSig := generateWebhookSignature lib rawBody secret (Text.strip timestampHeader)
        match compareDigest actualSig expectedSig with
        | .error error => .error error
        | .ok false => .error (connectorError "INVALID_SIGNATURE"
            "HMAC-SHA256 signature mismatch: forged or tampered webhook payload")
        | .ok true => .ok ()

/-- The instant, in seconds, that a timestamp denotes. -/
def instant? (timestampHeader : String) : Option ℚ :=
  match FloatText.read? (Text.strip timestampHeader) with
  | some (.number seconds) => some seconds
  | some _ => none
  | none =>
    match lib.fromisoformat (Text.strip timestampHeader) with
    | .ok t => some (t.micros / 1000000)
    | .error _ => none

def Fresh (v : WebhookVerifier) (timestampHeader : String) (now : UtcDateTime) : Prop :=
  ∃ seconds, instant? lib timestampHeader = some seconds ∧ |(now.micros : ℚ) / 1000000 - seconds| ≤ v.maxSkewSeconds

/-- The timestamp spells NaN. -/
def SpellsNan (timestampHeader : String) : Prop := FloatText.read? (Text.strip timestampHeader) = some .nan

/-- The skew is over the limit, and the floats round the excess away. -/
def RoundedAway (v : WebhookVerifier) (timestampHeader : String) (now : UtcDateTime) : Prop :=
  ∃ seconds tsFloat, instant? lib timestampHeader = some seconds ∧ readTimestamp lib timestampHeader = .ok tsFloat ∧
    v.maxSkewSeconds < |(now.micros : ℚ) / 1000000 - seconds| ∧ (skewSeconds now tsFloat).above v.maxSkewSeconds = false

variable {lib} {v : WebhookVerifier} {rawBody : List UInt8} {signatureHeader secret timestampHeader : String}
  {now : UtcDateTime}

theorem verifySignature_ok : verifySignature lib v rawBody signatureHeader secret timestampHeader now = .ok () ↔
    (rawBody.length : Int) ≤ v.maxPayloadBytes ∧
      (∃ tsFloat, readTimestamp lib timestampHeader = .ok tsFloat ∧
        (skewSeconds now tsFloat).above v.maxSkewSeconds = false) ∧
      withoutScheme (Text.strip signatureHeader) =
        generateWebhookSignature lib rawBody secret (Text.strip timestampHeader) := by
  unfold verifySignature
  by_cases large : v.maxPayloadBytes < rawBody.length
  · rw [if_pos large]
    exact iff_of_false nofun (fun fits => absurd large (not_lt.mpr fits.1))
  · rw [if_neg large]
    cases readTimestamp lib timestampHeader with
    | error err => simp
    | ok tsFloat =>
      dsimp only
      by_cases skewed : (skewSeconds now tsFloat).above v.maxSkewSeconds = true
      · simp [skewed]
      · rw [if_neg skewed]
        have compared : compareDigest (withoutScheme (Text.strip signatureHeader))
            (generateWebhookSignature lib rawBody secret (Text.strip timestampHeader)) = .ok true ↔
            withoutScheme (Text.strip signatureHeader) =
              generateWebhookSignature lib rawBody secret (Text.strip timestampHeader) :=
          compareDigest_true (Bytes.hex_ascii _)
        rw [← compared]
        cases compareDigest (withoutScheme (Text.strip signatureHeader))
            (generateWebhookSignature lib rawBody secret (Text.strip timestampHeader)) with
        | error error => simp
        | ok same => cases same <;> simp [not_lt.mp large,skewed]

theorem hex_withoutScheme (digest : List UInt8) : withoutScheme (Text.strip (Bytes.hex digest)) = Bytes.hex digest := by
  have digits : ∀ n < 16, Text.isSpace (JsonText.hexDigit n) = false ∧ (JsonText.hexDigit n != '=') = true := by decide
  have plain := Bytes.hex_all (P := fun c => Text.isSpace c = false ∧ (c != '=') = true) digits digest
  have gone : (Bytes.hex digest).toList.dropWhile (· != '=') = [] :=
    List.dropWhile_eq_nil_iff.mpr (fun c inside => (plain c inside).2)
  rw [Text.strip_eq_self _ (fun c inside => (plain c inside).1),withoutScheme,gone]

/-- Its own signature lets a delivery pass. -/
theorem own_signature_ok {tsFloat : FloatValue} (fits : (rawBody.length : Int) ≤ v.maxPayloadBytes)
    (read : readTimestamp lib timestampHeader = .ok tsFloat)
    (near : (skewSeconds now tsFloat).above v.maxSkewSeconds = false) :
    verifySignature lib v rawBody (generateWebhookSignature lib rawBody secret (Text.strip timestampHeader)) secret
      timestampHeader now = .ok () :=
  verifySignature_ok.mpr ⟨fits,⟨tsFloat,read,near⟩,hex_withoutScheme _⟩

theorem nearest_ne_nan (x : ℚ) : FloatValue.nearest x ≠ .nan := by
  unfold FloatValue.nearest
  dsimp only
  split
  · exact nofun
  · split <;> exact nofun

theorem readTimestamp_nan_iff : readTimestamp lib timestampHeader = .ok .nan ↔ SpellsNan timestampHeader := by
  unfold readTimestamp FloatText.float? SpellsNan
  cases FloatText.read? (Text.strip timestampHeader) with
  | some numeral =>
    cases numeral with
    | number seconds => simp [FloatText.Numeral.toFloat,nearest_ne_nan]
    | infinite negative => simp [FloatText.Numeral.toFloat]
    | nan => simp [FloatText.Numeral.toFloat]
  | none => cases lib.fromisoformat (Text.strip timestampHeader) <;> simp [Except.map]

/-- A time that is read and near enough denotes an instant unless it spells NaN. -/
theorem instant_of_near {tsFloat : FloatValue} (read : readTimestamp lib timestampHeader = .ok tsFloat)
    (near : (skewSeconds now tsFloat).above v.maxSkewSeconds = false) (number : ¬ SpellsNan timestampHeader) :
    ∃ seconds, instant? lib timestampHeader = some seconds := by
  unfold readTimestamp FloatText.float? at read
  unfold instant?
  unfold SpellsNan at number
  cases spelled : FloatText.read? (Text.strip timestampHeader) with
  | some numeral =>
    rw [spelled] at read number
    cases numeral with
    | number seconds => exact ⟨seconds,rfl⟩
    | infinite negative =>
      cases read
      cases near
    | nan => exact absurd rfl number
  | none =>
    rw [spelled] at read
    cases parsed : lib.fromisoformat (Text.strip timestampHeader) with
    | ok t => exact ⟨_,rfl⟩
    | error err =>
      rw [parsed] at read
      cases read

theorem skewSeconds_atMost {tsFloat : FloatValue} (number : tsFloat ≠ .nan) (limit : ℚ) :
    (skewSeconds now tsFloat).atMost limit = !(skewSeconds now tsFloat).above limit := by
  cases tsFloat with
  | finite seconds =>
    unfold skewSeconds
    cases known : FloatValue.nearest (timestamp now - seconds) with
    | finite difference => simp [known,FloatValue.atMost,FloatValue.above,← not_lt]
    | infinite negative => simp [known,FloatValue.atMost,FloatValue.above]
    | nan => exact absurd known (nearest_ne_nan _)
  | infinite negative => rfl
  | nan => exact absurd rfl number

/-- The same for the number that the code reads, and its own subtraction. -/
theorem float_fresh_iff (secret : String) :
    (∀ signatureHeader, verifySignature lib v rawBody signatureHeader secret timestampHeader now = .ok () →
      ∃ tsFloat, readTimestamp lib timestampHeader = .ok tsFloat ∧ (skewSeconds now tsFloat).atMost v.maxSkewSeconds) ↔
    ((rawBody.length : Int) ≤ v.maxPayloadBytes → ¬ SpellsNan timestampHeader) := by
  constructor
  · intro fresh fits nan
    obtain ⟨tsFloat,read,near⟩ := fresh _ (own_signature_ok fits (readTimestamp_nan_iff.mpr nan) rfl)
    rw [readTimestamp_nan_iff.mpr nan] at read
    cases read
    cases near
  · intro sound signatureHeader accepted
    obtain ⟨fits,⟨tsFloat,read,near⟩,_⟩ := verifySignature_ok.mp accepted
    have number : tsFloat ≠ .nan := by
      rintro rfl
      exact sound fits (readTimestamp_nan_iff.mp read)
    refine ⟨tsFloat,read,?_⟩
    rw [skewSeconds_atMost number,near]
    rfl

/-- A delivery that passes is fresh, whatever its signature, exactly if its timestamp does not
spell NaN and the floats round nothing away. -/
theorem fresh_iff (secret : String) :
    (∀ signatureHeader, verifySignature lib v rawBody signatureHeader secret timestampHeader now = .ok () →
      Fresh lib v timestampHeader now) ↔
    ((rawBody.length : Int) ≤ v.maxPayloadBytes → ¬ SpellsNan timestampHeader ∧ ¬ RoundedAway lib v timestampHeader now) := by
  constructor
  · intro fresh fits
    constructor
    · intro nan
      obtain ⟨seconds,known,_⟩ := fresh _ (own_signature_ok fits (readTimestamp_nan_iff.mpr nan) rfl)
      unfold instant? at known
      rw [show FloatText.read? (Text.strip timestampHeader) = some .nan from nan] at known
      cases known
    · rintro ⟨seconds,tsFloat,known,read,far,near⟩
      obtain ⟨same,known',within⟩ := fresh _ (own_signature_ok fits read near)
      rw [known] at known'
      obtain rfl : seconds = same := Option.some.inj known'
      exact absurd within (not_le.mpr far)
  · intro sound signatureHeader accepted
    obtain ⟨fits,⟨tsFloat,read,near⟩,_⟩ := verifySignature_ok.mp accepted
    obtain ⟨number,exact⟩ := sound fits
    obtain ⟨seconds,known⟩ := instant_of_near read near number
    refine ⟨seconds,known,?_⟩
    by_contra far
    exact exact ⟨seconds,tsFloat,known,read,not_le.mp far,near⟩

end WebhookVerifier

/-- The signed bytes tell two deliveries apart exactly if no timestamp extends the other one, and
a delivery that passes is fresh exactly if its timestamp does not spell NaN: by the floats that
the code compares, and by the instants that they stand for if none of the excess is rounded away. -/
theorem webhook_signatures_iff (lib : WebhookLibrary) :
    (∀ (t t' : String) (body body' : List UInt8), (signedPayload t body = signedPayload t' body' → t = t' ∧ body = body') ↔
      ¬ (ExtendedBy t body t' body' ∨ ExtendedBy t' body' t body)) ∧
    (∀ (v : WebhookVerifier) (rawBody : List UInt8) (secret timestampHeader : String) (now : UtcDateTime),
      ((∀ signatureHeader, v.verifySignature lib rawBody signatureHeader secret timestampHeader now = .ok () →
        ∃ tsFloat, WebhookVerifier.readTimestamp lib timestampHeader = .ok tsFloat ∧
          (WebhookVerifier.skewSeconds now tsFloat).atMost v.maxSkewSeconds) ↔
        ((rawBody.length : Int) ≤ v.maxPayloadBytes → ¬ WebhookVerifier.SpellsNan timestampHeader)) ∧
      ((∀ signatureHeader, v.verifySignature lib rawBody signatureHeader secret timestampHeader now = .ok () →
        v.Fresh lib timestampHeader now) ↔
        ((rawBody.length : Int) ≤ v.maxPayloadBytes →
          ¬ WebhookVerifier.SpellsNan timestampHeader ∧ ¬ v.RoundedAway lib timestampHeader now))) := by
  refine ⟨?_,fun v rawBody secret timestampHeader now =>
    ⟨WebhookVerifier.float_fresh_iff secret,WebhookVerifier.fresh_iff secret⟩⟩
  intro t t' body body'
  constructor
  · rintro distinct (extended | extended)
    · exact extendedBy_ne extended (distinct (extendedBy_signed extended)).1
    · exact extendedBy_ne extended (distinct (extendedBy_signed extended).symm).1.symm
  · intro apart same
    exact ((signed_iff t t' body body').mp same).resolve_right apart

/-- A dot may go with the timestamp or with the body, and "nan" passes at any time. -/
theorem shifted_dot_and_nan :
    (signedPayload "1" (Bytes.utf8 "2.x") = signedPayload "1.2" (Bytes.utf8 "x") ∧ "1" ≠ "1.2") ∧
    ∀ now : UtcDateTime, ∃ signatureHeader,
      WebhookVerifier.verifySignature ⟨fun _ message => message,fun _ => .error ""⟩ {} [] signatureHeader "whsec" "nan" now =
        .ok () ∧ ¬ WebhookVerifier.Fresh ⟨fun _ message => message,fun _ => .error ""⟩ {} "nan" now := by
  have nan : WebhookVerifier.SpellsNan "nan" := by
    unfold WebhookVerifier.SpellsNan
    decide +kernel
  refine ⟨⟨extendedBy_signed ⟨"2",rfl,rfl⟩,by decide⟩,?_⟩
  intro now
  refine ⟨_,WebhookVerifier.own_signature_ok (by decide) (WebhookVerifier.readTimestamp_nan_iff.mpr nan) rfl,?_⟩
  rintro ⟨seconds,known,_⟩
  unfold WebhookVerifier.instant? at known
  rw [show FloatText.read? (Text.strip "nan") = some .nan from nan] at known
  cases known

end RevPilot.Connectors
