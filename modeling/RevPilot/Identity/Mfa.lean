import RevPilot.Library.Dict
import RevPilot.Library.Outcome
import RevPilot.Library.PyFloat
import RevPilot.Library.Runs
import RevPilot.Shared.Errors
import RevPilot.Shared.Temporal
import Mathlib.Logic.Function.Basic

/-! One-time codes, recovery codes and the enrolment of a principal. Random bytes, clocks
and the answers of a cache are arguments of a call. -/
namespace RevPilot.Identity
open Library Shared

/-- What the standard library computes. -/
structure MfaLibrary where
  b32decode : String → Except PyError (List UInt8)
  hmacSha1 : List UInt8 → List UInt8 → Vector UInt8 20
  sha256 : String → String
  casing : Text.Casing

def mfaError (code message : String) : PyError := .domain { code := code, message := message }

/-- `int(x)`. -/
def truncated : FloatValue → Except PyError Int
  | .finite value => .ok (value.num.tdiv value.den)
  | .infinite _ => .error .overflowError
  | .nan => .error .valueError

namespace TotpManager

def timeStep : Int := 30

def digits : Nat := 6

def base32Alphabet : List Char := "ABCDEFGHIJKLMNOPQRSTUVWXYZ234567".toList

/-- `base64.b32encode` of twenty bytes, which needs no padding. -/
def generateSecret (raw : Vector UInt8 20) : String :=
  let bits := raw.toList.foldl (fun n byte => n * 256 + byte.toNat) 0
  String.ofList ((List.range 32).map fun i => base32Alphabet.getD (bits / 32 ^ (31 - i) % 32) 'A')

/-- The 64 bits of a counter, the highest first. -/
def packed (counter : Nat) : List UInt8 := (List.range 8).map fun i => (counter / 256 ^ (7 - i) % 256).toUInt8

def generateHotp (lib : MfaLibrary) (secret : String) (counter : Int) : Except PyError String := do
  let padding := (8 - secret.length % 8) % 8
  let key ← lib.b32decode (lib.casing.upper (secret ++ String.ofList (List.replicate padding '=')))
  if counter < 0 ∨ 2 ^ 64 ≤ counter then throw (.runtime "struct.error")
  let h := (lib.hmacSha1 key (packed counter.toNat)).toList
  let offset := (h.getLastD 0).toNat % 16
  let codeInt := ((h.drop offset).take 4).foldl (fun n byte => n * 256 + byte.toNat) 0 % 2 ^ 31
  return UtcDateTime.padded digits (codeInt % 10 ^ digits : Nat)

/-- The first step whose code it is; steps up to the last verified one are passed over. -/
def matchingStep (lib : MfaLibrary) (secret code : String) (lastVerifiedStep : Option Int) :
    List Int → Except PyError (Option Int)
  | [] => .ok none
  | step :: steps =>
    if lastVerifiedStep.any (fun last => step ≤ last) then matchingStep lib secret code lastVerifiedStep steps
    else
      match generateHotp lib secret step with
      | .error raised => .error raised
      | .ok expectedCode =>
        -- `hmac.compare_digest` takes no other characters
        if (Text.strip code).toList.any (fun c => 128 ≤ c.toNat) then .error .typeError
        else if expectedCode = Text.strip code then .ok (some step)
        else matchingStep lib secret code lastVerifiedStep steps

/-- `(True, step)` is `some step`, `(False, None)` is `none`. -/
def verifyCode (lib : MfaLibrary) (secret code : String) (time : FloatValue) (lastVerifiedStep : Option Int)
    (driftSteps : Nat := 1) : Except PyError (Option Int) := do
  if code = "" ∨ (Text.strip code).length ≠ digits then return none
  let ts ← truncated time
  let currentStep := ts.fdiv timeStep
  matchingStep lib secret code lastVerifiedStep
    ((List.range (2 * driftSteps + 1)).map fun i => currentStep + ((i : Int) - driftSteps))

/-- `urllib.parse.quote`. -/
def quote (text : String) : String :=
  let hex := "0123456789ABCDEF".toList
  let safe (byte : UInt8) : Bool := (Char.ofNat byte.toNat).isAlphanum || "_.-~/".toList.contains (Char.ofNat byte.toNat)
  String.ofList (text.toUTF8.toList.flatMap fun byte =>
    if safe byte then [Char.ofNat byte.toNat]
    else ['%',hex.getD (byte.toNat / 16) '0',hex.getD (byte.toNat % 16) '0'])

def generateProvisioningUri (secret accountName : String) : String :=
  let cleanAccount := quote accountName
  let cleanIssuer := quote "RevPilot AI"
  s!"otpauth://totp/{cleanIssuer}:{cleanAccount}?" ++
    s!"secret={secret}&issuer={cleanIssuer}&algorithm=SHA1&digits={digits}&period={timeStep}"

end TotpManager

namespace RecoveryCodeManager

def hashCode (lib : MfaLibrary) (rawCode : String) : String :=
  lib.sha256 (Text.replace (lib.casing.lower (Text.strip rawCode)) "-" "")

/-- The codes of the random tokens and their hashes; a token is twelve hexadecimal digits. -/
def generateRecoveryCodes (lib : MfaLibrary) (tokens : List String) : List String × List String :=
  let rawCodes := tokens.map fun token =>
    let part (i n : Nat) := String.ofList ((token.toList.drop i).take n)
    part 0 4 ++ "-" ++ part 4 4 ++ "-" ++ part 8 4
  (rawCodes,(rawCodes.map (hashCode lib)).dedup)

end RecoveryCodeManager

structure PrincipalMfaState where
  principalId : String
  totpSecret : Option String := none
  totpEnabled : Bool := false
  hashedRecoveryCodes : List String := []
  lastVerifiedStep : Option Int := none

/-- The methods of the bound cache that exist, as they answer during one call. -/
structure ReplayCache where
  get : Option (String → Except PyError Bool)
  set : Option (String → Except PyError Unit)

structure MfaManager where
  states : Dict String PrincipalMfaState := .empty

namespace MfaManager
variable (lib : MfaLibrary) (m : MfaManager)

def getOrCreateState (principalId : String) : MfaManager × PrincipalMfaState :=
  match m.states.get? principalId with
  | some state => (m,state)
  | none =>
    let state : PrincipalMfaState := { principalId := principalId }
    (⟨m.states.set principalId state⟩,state)

def initiateTotpSetup (principalId accountName : String) (raw : Vector UInt8 20) : MfaManager × (String × String) :=
  let (m,state) := m.getOrCreateState principalId
  let secret := TotpManager.generateSecret raw
  (⟨m.states.set principalId { state with totpSecret := some secret }⟩,
    (secret,TotpManager.generateProvisioningUri secret accountName))

def activateTotp (principalId code : String) (time : FloatValue) (tokens : List String) :
    MfaManager × Except PyError (List String) :=
  let (m,state) := m.getOrCreateState principalId
  match state.totpSecret.filter (· ≠ "") with
  | none => (m,.error (mfaError "MFA_NOT_INITIALIZED" "TOTP setup has not been initiated"))
  | some secret =>
    -- the last verified step is not passed on here
    match TotpManager.verifyCode lib secret code time none with
    | .error raised => (m,.error raised)
    | .ok none => (m,.error (mfaError "INVALID_MFA_CODE" "Invalid TOTP activation code"))
    | .ok (some step) =>
      let (rawCodes,hashedCodes) := RecoveryCodeManager.generateRecoveryCodes lib tokens
      (⟨m.states.set principalId { state with
        totpEnabled := true, lastVerifiedStep := some step, hashedRecoveryCodes := hashedCodes }⟩,.ok rawCodes)

def replayChecked (cache : Option ReplayCache) (principalId : String) (step : Int) : Except PyError Unit :=
  match cache with
  | none => .ok ()
  | some cache => do
    let cacheKey := s!"revpilot:mfa:replay:{principalId}:{step}"
    match cache.get with
    | some get =>
      let seen ← get cacheKey
      if seen then throw (mfaError "INVALID_MFA_CODE" "Invalid or replayed TOTP verification code")
    | none => pure ()
    match cache.set with
    | some set => set cacheKey
    | none => pure ()

def verifyTotp (cache : Option ReplayCache) (principalId code : String) (time : FloatValue) :
    MfaManager × Except PyError Bool :=
  let notEnrolled := mfaError "MFA_NOT_ENROLLED" "Principal does not have MFA enabled"
  match m.states.get? principalId with
  | none => (m,.error notEnrolled)
  | some state =>
    match state.totpEnabled, state.totpSecret.filter (· ≠ "") with
    | true, some secret =>
      match TotpManager.verifyCode lib secret code time state.lastVerifiedStep with
      | .error raised => (m,.error raised)
      | .ok none => (m,.error (mfaError "INVALID_MFA_CODE" "Invalid or replayed TOTP verification code"))
      | .ok (some step) =>
        match replayChecked cache principalId step with
        | .error raised => (m,.error raised)
        | .ok () => (⟨m.states.set principalId { state with lastVerifiedStep := some step }⟩,.ok true)
    | _, _ => (m,.error notEnrolled)

def consumeRecoveryCode (principalId code : String) : MfaManager × Except PyError Bool :=
  match m.states.get? principalId with
  | none => (m,.error (mfaError "MFA_NOT_ENROLLED" "Principal does not have MFA enabled"))
  | some state =>
    if !state.totpEnabled then (m,.error (mfaError "MFA_NOT_ENROLLED" "Principal does not have MFA enabled"))
    else
      let targetHash := RecoveryCodeManager.hashCode lib code
      if targetHash ∈ state.hashedRecoveryCodes then
        (⟨m.states.set principalId { state with hashedRecoveryCodes := state.hashedRecoveryCodes.erase targetHash }⟩,
          .ok true)
      else (m,.error (mfaError "INVALID_RECOVERY_CODE" "Recovery code is invalid or already used"))

def isMfaEnabled (principalId : String) : Bool := (m.states.get? principalId).any (·.totpEnabled)

end MfaManager
end RevPilot.Identity

/-! Runs of the enrolment manager, with the codes that it accepts. What an operation does
is said once, over the enrolment of every principal. -/
namespace RevPilot.Identity
open Library Shared Outcome Runs

inductive MfaOp : Type
  | getOrCreateState (principalId : String)
  | initiateTotpSetup (principalId accountName : String) (raw : Vector UInt8 20)
  | activateTotp (principalId code : String) (time : FloatValue) (tokens : List String)
  | verifyTotp (cache : Option ReplayCache) (principalId code : String) (time : FloatValue)
  | consumeRecoveryCode (principalId code : String)
  | isMfaEnabled (principalId : String)

/-- A code that was accepted, with the secret and the time step of the acceptance. -/
structure Acceptance where
  principalId : String
  secret : String
  step : Int
  activation : Bool
  deriving DecidableEq

/-- What a successful call leaves in the state of its principal. -/
def recorded (m : MfaManager) (principalId : String) (activation : Bool) : List Acceptance :=
  match m.states.get? principalId with
  | none => []
  | some state =>
    match state.totpSecret, state.lastVerifiedStep with
    | some secret, some step => [⟨principalId,secret,step,activation⟩]
    | _, _ => []

def serveMfa (lib : MfaLibrary) (m : MfaManager) : MfaOp → MfaManager × List Acceptance
  | .getOrCreateState principalId => ((m.getOrCreateState principalId).1,[])
  | .initiateTotpSetup principalId accountName raw => ((m.initiateTotpSetup principalId accountName raw).1,[])
  | .activateTotp principalId code time tokens =>
    match m.activateTotp lib principalId code time tokens with
    | (after,.ok _) => (after,recorded after principalId true)
    | (after,.error _) => (after,[])
  | .verifyTotp cache principalId code time =>
    match m.verifyTotp lib cache principalId code time with
    | (after,.ok _) => (after,recorded after principalId false)
    | (after,.error _) => (after,[])
  | .consumeRecoveryCode principalId code => ((m.consumeRecoveryCode lib principalId code).1,[])
  | .isMfaEnabled _ => (m,[])

structure MfaRun where
  manager : MfaManager := {}
  accepted : List Acceptance := []

def mfaStep (lib : MfaLibrary) (r : MfaRun) (op : MfaOp) : MfaRun :=
  ⟨(serveMfa lib r.manager op).1,r.accepted ++ (serveMfa lib r.manager op).2⟩

structure Enrolment where
  secret : Option String := none
  enabled : Bool := false
  lastStep : Option Int := none

def enrolment (m : MfaManager) (principalId : String) : Enrolment :=
  match m.states.get? principalId with
  | none => {}
  | some state => ⟨state.totpSecret,state.totpEnabled,state.lastVerifiedStep⟩

/-- All that an operation does to the enrolments, and the codes it accepts. -/
inductive Turn (lib : MfaLibrary) (before : String → Enrolment) : MfaOp → (String → Enrolment) → List Acceptance → Prop
  | quiet {op : MfaOp}
      (refused : ∀ principalId code time tokens secret step, op = .activateTotp principalId code time tokens →
        (before principalId).secret = some secret → secret ≠ "" →
        TotpManager.verifyCode lib secret code time none ≠ .ok (some step))
      (other : ∀ principalId accountName raw, op ≠ .initiateTotpSetup principalId accountName raw) :
      Turn lib before op before []
  | setup (principalId accountName : String) (raw : Vector UInt8 20) :
      Turn lib before (.initiateTotpSetup principalId accountName raw)
        (Function.update before principalId
          { before principalId with secret := some (TotpManager.generateSecret raw) }) []
  | activated {principalId code : String} {time : FloatValue} {tokens : List String} {secret : String} {step : Int}
      (issued : (before principalId).secret = some secret)
      (accepted : TotpManager.verifyCode lib secret code time none = .ok (some step)) :
      Turn lib before (.activateTotp principalId code time tokens)
        (Function.update before principalId ⟨some secret,true,some step⟩) [⟨principalId,secret,step,true⟩]
  | verified {cache : Option ReplayCache} {principalId code : String} {time : FloatValue} {secret : String} {step : Int}
      (enabled : (before principalId).enabled = true) (issued : (before principalId).secret = some secret)
      (accepted : TotpManager.verifyCode lib secret code time (before principalId).lastStep = .ok (some step)) :
      Turn lib before (.verifyTotp cache principalId code time)
        (Function.update before principalId { before principalId with lastStep := some step })
        [⟨principalId,secret,step,false⟩]

section turns
variable (lib : MfaLibrary) (m : MfaManager)

theorem enrolment_set (principalId : String) (state : PrincipalMfaState) :
    enrolment ⟨m.states.set principalId state⟩ = Function.update (enrolment m) principalId
      ⟨state.totpSecret,state.totpEnabled,state.lastVerifiedStep⟩ := by
  ext q
  by_cases same : q = principalId
  · subst same
    rw [Function.update_self]
    simp [enrolment]
  · rw [Function.update_of_ne same]
    simp [enrolment,same]

/-- The state that is got is the one that is stored. -/
theorem getOrCreateState_view {principalId : String} {after : MfaManager} {state : PrincipalMfaState}
    (got : m.getOrCreateState principalId = (after,state)) : enrolment after = enrolment m ∧
      enrolment m principalId = ⟨state.totpSecret,state.totpEnabled,state.lastVerifiedStep⟩ := by
  unfold MfaManager.getOrCreateState at got
  cases stored : m.states.get? principalId with
  | some found =>
    simp only [stored,Prod.mk.injEq] at got
    obtain ⟨rfl,rfl⟩ := got
    exact ⟨rfl,by simp [enrolment,stored]⟩
  | none =>
    simp only [stored,Prod.mk.injEq] at got
    obtain ⟨rfl,rfl⟩ := got
    have absent : enrolment m principalId = {} := by simp [enrolment,stored]
    refine ⟨?_,absent⟩
    rw [enrolment_set]
    exact Function.update_eq_self_iff.mpr absent.symm

theorem activateTotp_cases (principalId code : String) (time : FloatValue) (tokens : List String) :
    (∃ after fault, m.activateTotp lib principalId code time tokens = (after,.error fault) ∧
        enrolment after = enrolment m ∧
        ∀ secret step, (enrolment m principalId).secret = some secret → secret ≠ "" →
          TotpManager.verifyCode lib secret code time none ≠ .ok (some step)) ∨
      ∃ after state codes secret step, (enrolment m principalId).secret = some secret ∧
        TotpManager.verifyCode lib secret code time none = .ok (some step) ∧ enrolment after = enrolment m ∧
        state.totpSecret = some secret ∧ state.totpEnabled = true ∧ state.lastVerifiedStep = some step ∧
        m.activateTotp lib principalId code time tokens = (⟨after.states.set principalId state⟩,.ok codes) := by
  unfold MfaManager.activateTotp
  cases got : m.getOrCreateState principalId with
  | mk after state =>
    obtain ⟨same,view⟩ := getOrCreateState_view m got
    have issued : (enrolment m principalId).secret = state.totpSecret := by rw [view]
    dsimp only
    cases present : state.totpSecret.filter (· ≠ "") with
    | none =>
      refine .inl ⟨_,_,rfl,same,?_⟩
      intro secret step known nonempty
      rw [issued] at known
      simp [known,nonempty] at present
    | some secret =>
      obtain ⟨known,_⟩ := Option.filter_eq_some_iff.mp present
      dsimp only
      have only {other : String} (asked : (enrolment m principalId).secret = some other) : other = secret := by
        rw [issued,known] at asked
        exact (Option.some.inj asked).symm
      cases verdict : TotpManager.verifyCode lib secret code time none with
      | error raised =>
        refine .inl ⟨_,_,rfl,same,?_⟩
        intro other step asked _
        rw [only asked,verdict]
        exact fun impossible => (nomatch impossible)
      | ok found =>
        cases found with
        | none =>
          refine .inl ⟨_,_,rfl,same,?_⟩
          intro other step asked _
          rw [only asked,verdict]
          exact fun impossible => (nomatch impossible)
        | some step =>
          exact .inr ⟨after,{ state with
            totpEnabled := true, lastVerifiedStep := some step
            hashedRecoveryCodes := (RecoveryCodeManager.generateRecoveryCodes lib tokens).2 },_,secret,step,
            issued.trans known,verdict,same,known,rfl,rfl,rfl⟩

theorem verifyTotp_cases (cache : Option ReplayCache) (principalId code : String) (time : FloatValue) :
    (∃ fault, m.verifyTotp lib cache principalId code time = (m,.error fault)) ∨
      ∃ state secret step, m.states.get? principalId = some state ∧ state.totpEnabled = true ∧
        state.totpSecret = some secret ∧
        TotpManager.verifyCode lib secret code time state.lastVerifiedStep = .ok (some step) ∧
        m.verifyTotp lib cache principalId code time =
          (⟨m.states.set principalId { state with lastVerifiedStep := some step }⟩,.ok true) := by
  unfold MfaManager.verifyTotp
  cases stored : m.states.get? principalId with
  | none => exact .inl ⟨_,rfl⟩
  | some state =>
    dsimp only
    split
    next secret enabled present =>
      obtain ⟨known,_⟩ := Option.filter_eq_some_iff.mp present
      cases verdict : TotpManager.verifyCode lib secret code time state.lastVerifiedStep with
      | error raised => exact .inl ⟨_,rfl⟩
      | ok found =>
        cases found with
        | none => exact .inl ⟨_,rfl⟩
        | some step =>
          dsimp only
          cases checked : MfaManager.replayChecked cache principalId step with
          | error raised => exact .inl ⟨_,rfl⟩
          | ok _ => exact .inr ⟨state,secret,step,rfl,enabled,known,verdict,rfl⟩
    next => exact .inl ⟨_,rfl⟩

theorem enrolment_consume (principalId code : String) :
    enrolment (m.consumeRecoveryCode lib principalId code).1 = enrolment m := by
  unfold MfaManager.consumeRecoveryCode
  cases stored : m.states.get? principalId with
  | none => rfl
  | some state =>
    dsimp only
    split
    · rfl
    · split
      · rw [enrolment_set]
        apply Function.update_eq_self_iff.mpr
        simp [enrolment,stored]
      · rfl

theorem recorded_set {principalId : String} {state : PrincipalMfaState} {secret : String} {step : Int}
    (issued : state.totpSecret = some secret) (verified : state.lastVerifiedStep = some step) (activation : Bool) :
    recorded ⟨m.states.set principalId state⟩ principalId activation = [⟨principalId,secret,step,activation⟩] := by
  simp [recorded,issued,verified]

theorem turn_of_serve (op : MfaOp) :
    Turn lib (enrolment m) op (enrolment (serveMfa lib m op).1) (serveMfa lib m op).2 := by
  cases op with
  | getOrCreateState principalId =>
    have same : enrolment (m.getOrCreateState principalId).1 = enrolment m := (getOrCreateState_view m rfl).1
    simp only [serveMfa,same]
    exact .quiet (fun _ _ _ _ _ _ op => (nomatch op)) (fun _ _ _ op => (nomatch op))
  | initiateTotpSetup principalId accountName raw =>
    cases got : m.getOrCreateState principalId with
    | mk after state =>
      obtain ⟨same,view⟩ := getOrCreateState_view m got
      simp only [serveMfa,MfaManager.initiateTotpSetup,got]
      rw [enrolment_set,same]
      have turn := @Turn.setup lib (enrolment m) principalId accountName raw
      rw [view] at turn
      exact turn
  | activateTotp principalId code time tokens =>
    rcases activateTotp_cases lib m principalId code time tokens with
      ⟨after,fault,run,same,refused⟩ | ⟨after,state,codes,secret,step,issued,verdict,same,known,enabled,verified,run⟩
    · simp only [serveMfa,run,same]
      refine .quiet ?_ (fun _ _ _ op => (nomatch op))
      intro _ _ _ _ secret step asked issued nonempty
      injection asked with sameId sameCode sameTime _
      subst sameId sameCode sameTime
      exact refused secret step issued nonempty
    · simp only [serveMfa,run]
      rw [enrolment_set,same,recorded_set after known verified,known,enabled,verified]
      exact .activated issued verdict
  | verifyTotp cache principalId code time =>
    rcases verifyTotp_cases lib m cache principalId code time with
      ⟨fault,run⟩ | ⟨state,secret,step,stored,enabled,known,verdict,run⟩
    · simp only [serveMfa,run]
      exact .quiet (fun _ _ _ _ _ _ op => (nomatch op)) (fun _ _ _ op => (nomatch op))
    · have view : enrolment m principalId = ⟨state.totpSecret,state.totpEnabled,state.lastVerifiedStep⟩ := by
        simp [enrolment,stored]
      simp only [serveMfa,run]
      have entry := @recorded_set m principalId { state with lastVerifiedStep := some step } secret step known rfl false
      rw [enrolment_set,entry]
      have turn := @Turn.verified lib (enrolment m) cache principalId code time secret step (by rw [view]; exact enabled)
        (by rw [view]; exact known) (by rw [view]; exact verdict)
      rw [view] at turn
      exact turn
  | consumeRecoveryCode principalId code =>
    simp only [serveMfa,enrolment_consume]
    exact .quiet (fun _ _ _ _ _ _ op => (nomatch op)) (fun _ _ _ op => (nomatch op))
  | isMfaEnabled principalId => exact .quiet (fun _ _ _ _ _ _ op => (nomatch op)) (fun _ _ _ op => (nomatch op))

end turns
end RevPilot.Identity
