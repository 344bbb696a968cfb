import RevPilot.Library.Decimal
import RevPilot.Library.Dict
import RevPilot.Library.Outcome
import RevPilot.Library.Patterns
import RevPilot.Shared.ClockText
import RevPilot.Shared.Context

/-! What the executor of the registered SQL capabilities accepts. Times are compared as
texts, whatever their offsets. -/
namespace RevPilot.Analytics
open Library Shared

section catalog

/-- `Decimal("0.01")` of an amount in mills. -/
def ofMills (mills : Nat) : Decimal := if mills % 10 = 0 then .ofCents (mills / 10) else .finite false mills (-3)

structure SqlCapabilityDefinition where
  capabilityId : String
  requiredPermission : String := "analytics:query"
  allowedDimensions : List String := []
  costEstimateUsd : Decimal := ofMills 10

def registeredSqlCapabilities : List SqlCapabilityDefinition :=
  [{ capabilityId := "CAP-SQL-DRILLDOWN-DIM"
     allowedDimensions :=
       ["order_status","region","tier","payment_method","fulfillment_channel","carrier_code","warehouse_id"] },
    { capabilityId := "CAP-SQL-METRIC-TIMESERIES", allowedDimensions := ["hour","day","week","month"]
      costEstimateUsd := ofMills 20 },
    { capabilityId := "CAP-SQL-SEGMENT-COMPARE", allowedDimensions := ["segment","tier"] },
    { capabilityId := "CAP-SQL-SHIPMENT-DELAY"
      allowedDimensions := ["carrier_code","origin_warehouse","destination_region","delayed_status"] },
    { capabilityId := "CAP-SQL-TICKET-VOLUME", allowedDimensions := ["category","priority"] },
    { capabilityId := "CAP-SQL-MAINTENANCE-WINDOW", allowedDimensions := ["system_component","event_type"]
      costEstimateUsd := ofMills 5 },
    { capabilityId := "CAP-SQL-CONTRACT-SLA", allowedDimensions := ["contract_type","clause_type"]
      costEstimateUsd := ofMills 5 }]

def getCapability (capabilityId : String) : Option SqlCapabilityDefinition :=
  registeredSqlCapabilities.find? (fun c => c.capabilityId == capabilityId)

end catalog

section templates

/-- The case table and the code points that `\w` accepts. -/
structure SqlRuntime where
  casing : Text.Casing
  isWord : Char → Bool

def prohibitedKeywords : List String :=
  ["drop","alter","create","insert","update","delete","truncate","grant","revoke","execute","exec"]

/-- The comment `/\*.*?\*/`, on one line. -/
def blockComment : Patterns.Pattern :=
  .sequence [.one (· == '/'),.one (· == '*'),.many (· != '\n'),.one (· == '*'),.one (· == '/')]

/-- `re.findall(r"\b[a-zA-Z]+\b", text)`: the words of letters only. -/
def letterWords (rt : SqlRuntime) (text : String) : List String :=
  ((text.toList.splitOnP (fun c => !rt.isWord c)).filter (fun w => !w.isEmpty && w.all Char.isAlpha)).map String.ofList

def detectProhibitedSql (rt : SqlRuntime) (text : String) : Bool :=
  Text.contains text ";" || Text.contains text "--" || (Patterns.search blockComment text.toList).isSome ||
    (letterWords rt (rt.casing.lower text)).any prohibitedKeywords.contains

end templates

section times

/-- How far a clock is ahead of UTC or behind it, in microseconds. -/
structure UtcOffset where
  behind : Bool
  magnitude : Nat
  belowDay : magnitude < 86400000000

namespace UtcOffset
variable (offset : UtcOffset)

def micros : Int := if offset.behind then -offset.magnitude else offset.magnitude

def sign : String := if offset.behind then "-" else "+"

def hours : String := UtcDateTime.padded 2 (offset.magnitude / 3600000000 : Nat)

def minutes : String := UtcDateTime.padded 2 (offset.magnitude / 60000000 % 60 : Nat)

/-- As `datetime.isoformat` writes it, with seconds where there are some. -/
def isoformat : String :=
  let seconds :=
    if offset.magnitude % 60000000 = 0 then ""
    else ":" ++ UtcDateTime.padded 2 (offset.magnitude / 1000000 % 60 : Nat)
  let fraction :=
    if offset.magnitude % 1000000 = 0 then "" else "." ++ UtcDateTime.padded 6 (offset.magnitude % 1000000 : Nat)
  offset.sign ++ offset.hours ++ ":" ++ offset.minutes ++ seconds ++ fraction

end UtcOffset

/-- What stands for the offset at the end of a text. -/
inductive Suffix : Type
  | zulu
  | smallZulu
  | hours (offset : UtcOffset) (whole : offset.magnitude % 3600000000 = 0)
  | compact (offset : UtcOffset) (whole : offset.magnitude % 60000000 = 0)
  | colons (offset : UtcOffset)

namespace Suffix

def text : Suffix → String
  | zulu => "Z"
  | smallZulu => "z"
  | hours offset _ => offset.sign ++ offset.hours
  | compact offset _ => offset.sign ++ offset.hours ++ offset.minutes
  | colons offset => offset.isoformat

def micros : Suffix → Int
  | zulu => 0
  | smallZulu => 0
  | hours offset _ => offset.micros
  | compact offset _ => offset.micros
  | colons offset => offset.micros

end Suffix

/-- A text in the form of `isoformat`, with any number of digits after the seconds. -/
structure IsoText where
  clock : Int
  range : UtcDateTime.ClockRange clock
  comma : Bool := false
  fraction : List (Fin 10) := []
  suffix : Suffix

namespace IsoText
variable (iso : IsoText)

def fractionText : String :=
  if iso.fraction.isEmpty then ""
  else (if iso.comma then "," else ".") ++ String.ofList (iso.fraction.map (fun d => d.val.digitChar))

/-- The digits after the point, as a part of a second. -/
def fractionValue : ℚ := iso.fraction.foldr (fun d rest => (d.val + rest) / 10) 0

def text : String := UtcDateTime.clockText iso.clock ++ (iso.fractionText ++ iso.suffix.text)

/-- The instant, in seconds from the epoch. -/
def instant : ℚ := iso.clock + iso.fractionValue - iso.suffix.micros / 1000000

end IsoText

/-- A timezone-aware `datetime`: its clock in microseconds and its offset. -/
structure AwareDatetime where
  clock : Int
  range : UtcDateTime.minMicros ≤ clock ∧ clock ≤ UtcDateTime.maxMicros
  offset : UtcOffset
  signed : offset.behind = true → 0 < offset.magnitude

namespace AwareDatetime
variable (d : AwareDatetime)

def fractionText : String :=
  if d.clock % 1000000 = 0 then "" else "." ++ UtcDateTime.padded 6 (d.clock % 1000000)

def isoformat : String := UtcDateTime.clockText (d.clock / 1000000) ++ (d.fractionText ++ d.offset.isoformat)

/-- `isoformat(" ")`. -/
def str : String := String.ofList (d.isoformat.toList.set 10 ' ')

def instant : ℚ := (d.clock - d.offset.micros : Int) / 1000000

end AwareDatetime

/-- A time that denotes an instant. A text in another representation of ISO 8601 than that of
`isoformat` comes with the instant that it denotes. -/
inductive TimeValue : Type
  | utc (t : UtcDateTime) (range : t.InRange)
  | aware (d : AwareDatetime)
  | iso (s : IsoText)
  | other (text : String) (instant : ℚ)

namespace TimeValue

def text : TimeValue → String
  | utc t _ => t.isoformat
  | aware d => d.isoformat
  | iso s => s.text
  | other text _ => text

def instant : TimeValue → ℚ
  | utc t _ => t.micros / 1000000
  | aware d => d.instant
  | iso s => s.instant
  | other _ instant => instant

end TimeValue

/-- The value of a parameter: a time, `None`, or any other object by the text it equals,
if it is one, its `str` and its `isoformat`, if it has one. -/
inductive ParamValue : Type
  | time (t : TimeValue)
  | absent
  | other (chars : Option String) (str : String) (isoformat : Option String)

namespace ParamValue

def str : ParamValue → String
  | time (.aware d) => d.str
  | time t => t.text
  | absent => "None"
  | other _ str _ => str

def chars : ParamValue → Option String
  | time (.iso s) => some s.text
  | time (.other text _) => some text
  | time _ => none
  | absent => none
  | other chars _ _ => chars

end ParamValue

def normalizeUtcString : ParamValue → String
  | .time t => t.text
  | .absent => "None"
  | .other _ str isoformat => isoformat.getD str

end times

structure CapabilityRequest where
  capabilityId : String
  tenantContext : Option TenantContext
  principalContext : Option PrincipalContext
  asOfTime : ParamValue
  parameters : Dict String ParamValue := .empty
  budgetRemainingUsd : Option Decimal := some (.ofCents 200)

structure CapabilityError where
  code : String
  message : String
  httpStatus : Nat := 400

/-- A failure of the validation or the `InvalidOperation` of a comparison with NaN. -/
inductive CapabilityFailure : Type
  | failure (error : CapabilityError)
  | invalidOperation

namespace SqlCapabilityExecutor
variable (rt : SqlRuntime) (request : CapabilityRequest)

/-- A context that is no `TenantContext` is none; a tenant that is not active has none. -/
def requireTenant : Except CapabilityError TenantContext :=
  match request.tenantContext with
  | some context => .ok context
  | none =>
    .error { code := "ERR_TENANT_CONTEXT_INVALID", message := "Valid TenantContext required for capability execution"
             httpStatus := 403 }

def requireCapability : Except CapabilityError SqlCapabilityDefinition :=
  let asked := request.capabilityId
  match getCapability asked with
  | some capability => .ok capability
  | none =>
    .error { code := "ERR_UNREGISTERED_CAPABILITY", message := s!"Capability '{asked}' not found in registry"
             httpStatus := 404 }

def requirePermission (capability : SqlCapabilityDefinition) : Except CapabilityError Unit :=
  match request.principalContext with
  | none =>
    .error { code := "ERR_UNAUTHORIZED_PERMISSION", message := "Valid PrincipalContext required for capability execution"
             httpStatus := 403 }
  | some principal =>
    let permission := capability.requiredPermission
    let id := principal.principalId.value
    if principal.hasPermission rt.casing permission then .ok ()
    else
      .error { code := "ERR_UNAUTHORIZED_PERMISSION", message := s!"Principal '{id}' lacks permission '{permission}'"
               httpStatus := 403 }

def insufficientBudget (capability : SqlCapabilityDefinition) (budget : Decimal) : CapabilityError :=
  let id := capability.capabilityId
  let remaining := budget.toText
  let required := capability.costEstimateUsd.toText
  { code := "ERR_INSUFFICIENT_BUDGET", httpStatus := 402
    message := s!"Insufficient budget for capability {id}: remaining {remaining} < required {required}" }

def checkBudget (capability : SqlCapabilityDefinition) : Except CapabilityFailure Unit :=
  match request.budgetRemainingUsd with
  | none => .ok ()
  | some budget =>
    match capability.costEstimateUsd.gt budget with
    | none => .error .invalidOperation
    | some true => .error (.failure (insufficientBudget capability budget))
    | some false => .ok ()

def checkInjection : Except CapabilityError Unit :=
  match request.parameters.entries.find? (fun (k,v) => detectProhibitedSql rt k || detectProhibitedSql rt v.str) with
  | none => .ok ()
  | some (k,_) =>
    .error { code := "ERR_PROHIBITED_SQL_OPERATION", httpStatus := 403
             message := "Operation forbidden by read-only policy: prohibited keyword or character in parameter '" ++ k ++
               "'" }

/-- The checks before the one of the times. -/
def screen : Except CapabilityFailure SqlCapabilityDefinition := do
  let _ ← (requireTenant request).mapError .failure
  let capability ← (requireCapability request).mapError .failure
  (requirePermission rt request capability).mapError .failure
  checkBudget request capability
  (checkInjection rt request).mapError .failure
  return capability

def temporalLeakage (endTime asOf : String) : CapabilityError :=
  { code := "ERR_TEMPORAL_LEAKAGE"
    message := s!"Temporal leakage detected: end_time ({endTime}) exceeds as_of_time ({asOf})" }

def checkTemporal : Except CapabilityError Unit :=
  let asOf := normalizeUtcString request.asOfTime
  match request.parameters.get? "end_time" with
  | none => .ok ()
  | some .absent => .ok ()
  | some value =>
    let endTime := normalizeUtcString value
    if asOf < endTime then .error (temporalLeakage endTime asOf) else .ok ()

def dimensionRefused (capability : SqlCapabilityDefinition) : Option ParamValue :=
  if capability.allowedDimensions.isEmpty then none
  else (request.parameters.get? "dimension").filter (fun v => !v.chars.any capability.allowedDimensions.contains)

def checkDimension (capability : SqlCapabilityDefinition) : Except CapabilityError Unit :=
  match dimensionRefused request capability with
  | none => .ok ()
  | some v =>
    let dimension := v.str
    let id := capability.capabilityId
    .error { code := "ERR_DISALLOWED_DIMENSION"
             message := s!"Dimension '{dimension}' not permitted for capability '{id}'" }

def validateRequest : Except CapabilityFailure SqlCapabilityDefinition := do
  let capability ← screen rt request
  (checkTemporal request).mapError .failure
  (checkDimension request capability).mapError .failure
  return capability

end SqlCapabilityExecutor

section order

/-- A text that begins with a clock, to the second. -/
structure Spelling where
  clock : Int
  range : UtcDateTime.ClockRange clock
  rest : String

def TimeValue.spelling? : TimeValue → Option Spelling
  | .utc t range =>
    some ⟨t.micros / 1000000,UtcDateTime.clockRange_of_inRange range,
      "." ++ UtcDateTime.padded 6 (t.micros % 1000000) ++ "Z"⟩
  | .aware d =>
    some ⟨d.clock / 1000000,UtcDateTime.clockRange_of_inRange (t := ⟨d.clock⟩) d.range,
      d.fractionText ++ d.offset.isoformat⟩
  | .iso s => some ⟨s.clock,s.range,s.fractionText ++ s.suffix.text⟩
  | .other _ _ => none

theorem text_spelled {t : TimeValue} {s : Spelling} (spelled : t.spelling? = some s) :
    t.text = UtcDateTime.clockText s.clock ++ s.rest := by
  cases t with
  | utc t range =>
    cases spelled
    exact UtcDateTime.isoformat_clock t
  | aware d => cases spelled; rfl
  | iso s => cases spelled; rfl
  | other text instant => cases spelled

/-- As the times are written, the one that is later is later: by the clocks to the second, and
for one clock by the texts of what follows. Other representations go by their texts. -/
def WrittenInOrder (endTime asOf : TimeValue) : Prop :=
  match endTime.spelling?, asOf.spelling? with
  | some e, some a =>
    if e.clock = a.clock then (a.rest < e.rest ↔ asOf.instant < endTime.instant)
    else (a.clock < e.clock ↔ asOf.instant < endTime.instant)
  | _, _ => (asOf.text < endTime.text ↔ asOf.instant < endTime.instant)

theorem writtenInOrder_iff (endTime asOf : TimeValue) :
    WrittenInOrder endTime asOf ↔ (asOf.text < endTime.text ↔ asOf.instant < endTime.instant) := by
  unfold WrittenInOrder
  split
  next e a spelledE spelledA =>
    have texts : asOf.text < endTime.text ↔ a.clock < e.clock ∨ (a.clock = e.clock ∧ a.rest < e.rest) := by
      rw [text_spelled spelledE,text_spelled spelledA,String.lt_iff,String.toList_append,String.toList_append,
        UtcDateTime.clockText_lt a.range e.range,String.lt_iff]
    rw [texts]
    split
    next same => simp [same]
    next other => simp [Ne.symm other]
  next => rfl

/-- Instants of `UtcDateTime` are written in order. -/
theorem writtenInOrder_utc {t u : UtcDateTime} (rangeT : t.InRange) (rangeU : u.InRange) :
    WrittenInOrder (.utc t rangeT) (.utc u rangeU) := by
  rw [writtenInOrder_iff]
  show u.isoformat < t.isoformat ↔ (u.micros : ℚ) / 1000000 < t.micros / 1000000
  rw [UtcDateTime.isoformat_lt rangeU rangeT,div_lt_div_iff_of_pos_right (by norm_num),Int.cast_lt]
  rfl

end order

section leakage
open SqlCapabilityExecutor
variable {rt : SqlRuntime} {request : CapabilityRequest}

/-- The failure is no report of a leakage. -/
def NoLeakage : CapabilityFailure → Prop
  | .failure error => error.code ≠ "ERR_TEMPORAL_LEAKAGE"
  | .invalidOperation => True

variable (rt request)

theorem requireTenant_raises : Outcome.Raises (fun e => NoLeakage (.failure e)) (requireTenant request) := by
  unfold requireTenant
  split
  · exact Outcome.raises_ok _
  · exact Outcome.raises_error (by simp [NoLeakage])

theorem requireCapability_raises : Outcome.Raises (fun e => NoLeakage (.failure e)) (requireCapability request) := by
  unfold requireCapability
  simp only
  split
  · exact Outcome.raises_ok _
  · exact Outcome.raises_error (by simp [NoLeakage])

theorem requirePermission_raises (capability : SqlCapabilityDefinition) :
    Outcome.Raises (fun e => NoLeakage (.failure e)) (requirePermission rt request capability) := by
  unfold requirePermission
  split
  · exact Outcome.raises_error (by simp [NoLeakage])
  · simp only
    split
    · exact Outcome.raises_ok _
    · exact Outcome.raises_error (by simp [NoLeakage])

theorem checkBudget_raises (capability : SqlCapabilityDefinition) :
    Outcome.Raises NoLeakage (checkBudget request capability) := by
  unfold checkBudget
  split
  · exact Outcome.raises_ok _
  · split
    · exact Outcome.raises_error trivial
    · exact Outcome.raises_error (by simp [NoLeakage,insufficientBudget])
    · exact Outcome.raises_ok _

theorem checkInjection_raises : Outcome.Raises (fun e => NoLeakage (.failure e)) (checkInjection rt request) := by
  unfold checkInjection
  split
  · exact Outcome.raises_ok _
  · exact Outcome.raises_error (by simp [NoLeakage])

/-- No check before that of the times reports a leakage. -/
theorem screen_raises : Outcome.Raises NoLeakage (screen rt request) := by
  refine Outcome.raises_bind (Outcome.raises_mapError (requireTenant_raises request)) (fun _ => ?_)
  refine Outcome.raises_bind (Outcome.raises_mapError (requireCapability_raises request)) (fun capability => ?_)
  refine Outcome.raises_bind (Outcome.raises_mapError (requirePermission_raises rt request capability)) (fun _ => ?_)
  refine Outcome.raises_bind (checkBudget_raises request capability) (fun _ => ?_)
  refine Outcome.raises_bind (Outcome.raises_mapError (checkInjection_raises rt request)) (fun _ => ?_)
  exact Outcome.raises_ok capability

theorem checkDimension_cases (capability : SqlCapabilityDefinition) :
    (dimensionRefused request capability = none ∧ checkDimension request capability = .ok ()) ∨
      ((dimensionRefused request capability).isSome = true ∧
        ∃ error, checkDimension request capability = .error error ∧ error.code ≠ "ERR_TEMPORAL_LEAKAGE") := by
  unfold checkDimension
  cases dimensionRefused request capability with
  | none => exact .inl ⟨rfl,rfl⟩
  | some v => exact .inr ⟨rfl,_,rfl,by simp⟩

variable {rt request}

variable {endTime asOf : TimeValue} (ends : request.parameters.get? "end_time" = some (.time endTime))
  (known : request.asOfTime = .time asOf)
include ends known

theorem checkTemporal_times : checkTemporal request =
    if asOf.text < endTime.text then .error (temporalLeakage endTime.text asOf.text) else .ok () := by
  unfold checkTemporal
  rw [ends,known]
  rfl

/-- Exactly for times that are written in order the executor accepts none that ends after
the as-of time, unless the dimension is refused anyway, and refuses no other for it. -/
theorem validateRequest_temporal_iff :
    ((∀ capability, validateRequest rt request = .ok capability → endTime.instant ≤ asOf.instant) ∧
      (∀ error, validateRequest rt request = .error (.failure error) → error.code = "ERR_TEMPORAL_LEAKAGE" →
        asOf.instant < endTime.instant)) ↔
    ∀ capability, screen rt request = .ok capability → WrittenInOrder endTime asOf ∨
      (asOf.instant < endTime.instant ∧ (dimensionRefused request capability).isSome = true) := by
  cases screened : screen rt request with
  | error f =>
    have whole : validateRequest rt request = .error f := by
      unfold validateRequest
      rw [screened]
      rfl
    have other := screen_raises rt request f screened
    rw [whole]
    refine iff_of_true ⟨?_,?_⟩ ?_
    · intro _ accepted
      cases accepted
    · intro error same code
      cases same
      exact absurd code other
    · intro _ accepted
      cases accepted
  | ok capability =>
    have whole : validateRequest rt request =
        ((checkTemporal request).mapError CapabilityFailure.failure >>= fun _ =>
          (checkDimension request capability).mapError CapabilityFailure.failure >>= fun _ => .ok capability) := by
      unfold validateRequest
      rw [screened]
      rfl
    rw [checkTemporal_times ends known] at whole
    simp only [Except.ok.injEq,forall_eq',writtenInOrder_iff]
    by_cases late : asOf.text < endTime.text
    · rw [if_pos late] at whole
      have refused : validateRequest rt request = .error (.failure (temporalLeakage endTime.text asOf.text)) := whole
      rw [refused]
      simp only [late,true_iff]
      constructor
      · exact fun both => .inl (both.2 _ rfl rfl)
      · intro either
        have later : asOf.instant < endTime.instant := either.elim id And.left
        refine ⟨?_,fun _ _ _ => later⟩
        intro _ accepted
        cases accepted
    · rw [if_neg late] at whole
      rcases checkDimension_cases request capability with ⟨none,passed⟩ | ⟨some,error,refused,code⟩
      · have accepted : validateRequest rt request = .ok capability := by
          rw [whole,passed]
          rfl
        rw [accepted,none]
        simp only [late,false_iff,not_lt,Option.isSome_none,Bool.false_eq_true,and_false,or_false]
        constructor
        · exact fun both => both.1 _ rfl
        · intro early
          refine ⟨fun _ _ => early,?_⟩
          intro _ failed
          cases failed
      · have failed : validateRequest rt request = .error (.failure error) := by
          rw [whole,refused]
          rfl
        rw [failed]
        refine iff_of_true ⟨?_,?_⟩ ?_
        · intro _ accepted
          cases accepted
        · intro _ same leakage
          cases same
          exact absurd leakage code
        · simp only [late,false_iff,some,and_true]
          exact (lt_or_ge asOf.instant endTime.instant).symm.imp_left not_lt.mpr

end leakage

section samples
open SqlCapabilityExecutor

def asciiRuntime : SqlRuntime := ⟨Text.asciiCasing,fun c => c.isAlphanum || c == '_'⟩

def midnight (suffix : Suffix) : IsoText := ⟨1779062400,⟨by decide,by decide⟩,false,[],suffix⟩

def sevenBehind : UtcOffset := ⟨true,25200000000,by decide⟩

theorem ops_scoped : true = true ∨ (none : Option TenantId) ≠ none := .inl rfl

def seriesUpTo (suffix : Suffix) : CapabilityRequest where
  capabilityId := "CAP-SQL-METRIC-TIMESERIES"
  tenantContext := some ⟨⟨"tnt_acme",Eq.refl true⟩⟩
  principalContext := some { principalId := ⟨"usr_ops",Eq.refl true⟩, tenantId := none, isSystem := true
                             permissions := ["analytics:query"], tenantScoped := ops_scoped }
  asOfTime := .time (.iso (midnight .zulu))
  parameters := Dict.empty.set "end_time" (.time (.iso (midnight suffix)))

example : (midnight (.colons sevenBehind)).text = "2026-05-18T00:00:00-07:00" := by decide +kernel

theorem utc_midnight_iff :
    ((∀ capability, validateRequest asciiRuntime (seriesUpTo .zulu) = .ok capability →
        (TimeValue.iso (midnight .zulu)).instant ≤ (TimeValue.iso (midnight .zulu)).instant) ∧
      (∀ error, validateRequest asciiRuntime (seriesUpTo .zulu) = .error (.failure error) →
        error.code = "ERR_TEMPORAL_LEAKAGE" →
          (TimeValue.iso (midnight .zulu)).instant < (TimeValue.iso (midnight .zulu)).instant)) ↔
    ∀ capability, screen asciiRuntime (seriesUpTo .zulu) = .ok capability →
      WrittenInOrder (.iso (midnight .zulu)) (.iso (midnight .zulu)) ∨
        ((TimeValue.iso (midnight .zulu)).instant < (TimeValue.iso (midnight .zulu)).instant ∧
          (dimensionRefused (seriesUpTo .zulu) capability).isSome = true) :=
  validateRequest_temporal_iff rfl rfl

/-- A midnight seven hours later is accepted. -/
theorem later_midnight_accepted : ¬ ∀ capability,
    validateRequest asciiRuntime (seriesUpTo (.colons sevenBehind)) = .ok capability →
      (TimeValue.iso (midnight (.colons sevenBehind))).instant ≤ (TimeValue.iso (midnight .zulu)).instant := by
  intro all
  have accepted : (validateRequest asciiRuntime (seriesUpTo (.colons sevenBehind))).isOk = true := by decide +kernel
  have later : ¬ (TimeValue.iso (midnight (.colons sevenBehind))).instant ≤ (TimeValue.iso (midnight .zulu)).instant := by
    decide +kernel
  cases answer : validateRequest asciiRuntime (seriesUpTo (.colons sevenBehind)) with
  | error e =>
    rw [answer] at accepted
    cases accepted
  | ok capability => exact later (all capability answer)

end samples
end RevPilot.Analytics
