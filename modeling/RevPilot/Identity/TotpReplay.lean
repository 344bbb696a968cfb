import RevPilot.Identity.Mfa

/-! The steps that are accepted for a secret, and the secrets that an enrolled principal may
have. The random secrets of a run are different from each other. -/
namespace RevPilot.Identity
open Library Shared Runs

/-- The codes accepted for a secret are of later and later steps. -/
def Increasing (log : List Acceptance) : Prop :=
  log.Pairwise fun a b => a.principalId = b.principalId → a.secret = b.secret → a.step < b.step

def lastOn (log : List Acceptance) (principalId secret : String) : Option Acceptance :=
  (log.filter fun a => a.principalId = principalId ∧ a.secret = secret).getLast?

/-- Once a code was accepted for the pending secret, `activate_totp` is only given codes of
later steps than the last verified one. -/
def Onward (lib : MfaLibrary) (e : String → Enrolment) (log : List Acceptance) : MfaOp → Prop
  | .activateTotp principalId code time _ =>
    ∀ secret last step, (e principalId).secret = some secret →
      (∃ a ∈ log, a.principalId = principalId ∧ a.secret = secret) → (e principalId).lastStep = some last →
      TotpManager.verifyCode lib secret code time none = .ok (some step) → last < step
  | _ => True

/-- A principal is not set up again while its codes are required. -/
def SetUpOnce (e : String → Enrolment) : MfaOp → Prop
  | .initiateTotpSetup principalId _ _ => (e principalId).enabled = false
  | _ => True

/-- Who has to give codes has a secret that an activation has confirmed. -/
def Confirmed (e : String → Enrolment) (log : List Acceptance) : Prop :=
  ∀ principalId, (e principalId).enabled = true → ∃ secret, (e principalId).secret = some secret ∧
    ∃ a ∈ log, a.principalId = principalId ∧ a.secret = secret ∧ a.activation = true

/-- The last verified step is the one of the last acceptance for the current secret. -/
def Tracked (e : String → Enrolment) (log : List Acceptance) : Prop :=
  ∀ principalId secret, (e principalId).secret = some secret →
    secret ≠ "" ∧ ∀ a, lastOn log principalId secret = some a → (e principalId).lastStep = some a.step

/-- The secret is a principal's current one or has accepted a code. -/
def Seen (e : String → Enrolment) (log : List Acceptance) (key : String × String) : Prop :=
  (e key.1).secret = some key.2 ∨ ∃ a ∈ log, a.principalId = key.1 ∧ a.secret = key.2

def generatedSecret : MfaOp → Option (String × String)
  | .initiateTotpSetup principalId _ raw => some (principalId,TotpManager.generateSecret raw)
  | _ => none

section logs
variable {log : List Acceptance} {principalId secret : String}

theorem lastOn_mem {a : Acceptance} (last : lastOn log principalId secret = some a) :
    a ∈ log ∧ a.principalId = principalId ∧ a.secret = secret := by
  simpa using List.mem_of_getLast? last

theorem lastOn_concat (b : Acceptance) : lastOn (log ++ [b]) principalId secret =
    if b.principalId = principalId ∧ b.secret = secret then some b else lastOn log principalId secret := by
  unfold lastOn
  rw [List.filter_append]
  by_cases own : b.principalId = principalId ∧ b.secret = secret
  · rw [if_pos own]
    simp [own]
  · rw [if_neg own]
    simp [own]

theorem exists_lastOn {a : Acceptance} (inside : a ∈ log) (own : a.principalId = principalId)
    (same : a.secret = secret) : ∃ l, lastOn log principalId secret = some l := by
  have member : a ∈ log.filter fun a => a.principalId = principalId ∧ a.secret = secret := by simp [inside,own,same]
  exact ⟨_,List.getLast?_eq_some_getLast (List.ne_nil_of_mem member)⟩

theorem le_lastOn {a l : Acceptance} (increasing : Increasing log) (inside : a ∈ log)
    (own : a.principalId = principalId) (same : a.secret = secret)
    (last : lastOn log principalId secret = some l) : a.step ≤ l.step := by
  have member : a ∈ log.filter fun a => a.principalId = principalId ∧ a.secret = secret := by simp [inside,own,same]
  have ordered := List.Pairwise.filter (fun a => decide (a.principalId = principalId ∧ a.secret = secret)) increasing
  obtain ⟨before,split⟩ := List.getLast?_eq_some_iff.mp last
  rw [split] at member ordered
  rcases List.mem_append.mp member with earlier | final
  · obtain ⟨_,ownL,sameL⟩ := lastOn_mem last
    have less := (List.pairwise_append.mp ordered).2.2 a earlier l List.mem_cons_self
    exact le_of_lt (less (own.trans ownL.symm) (same.trans sameL.symm))
  · obtain rfl := List.mem_singleton.mp final
    exact le_refl a.step

/-- One more acceptance: only the last one for its secret matters. -/
theorem increasing_concat (increasing : Increasing log) (b : Acceptance) :
    Increasing (log ++ [b]) ↔ ∀ l, lastOn log b.principalId b.secret = some l → l.step < b.step := by
  have whole : Increasing (log ++ [b]) ↔
      ∀ a ∈ log, a.principalId = b.principalId → a.secret = b.secret → a.step < b.step := by
    unfold Increasing at increasing ⊢
    simp [List.pairwise_append,increasing]
  rw [whole]
  constructor
  · intro all l last
    obtain ⟨inside,own,same⟩ := lastOn_mem last
    exact all l inside own same
  · intro later a inside own same
    obtain ⟨l,last⟩ := exists_lastOn inside own same
    exact lt_of_le_of_lt (le_lastOn increasing inside own same last) (later l last)

end logs

section codes
variable (lib : MfaLibrary) {secret code : String} {last step : Int}

theorem matchingStep_after {steps : List Int}
    (found : TotpManager.matchingStep lib secret code (some last) steps = .ok (some step)) : last < step := by
  induction steps with
  | nil => cases found
  | cons first steps ih =>
    unfold TotpManager.matchingStep at found
    by_cases old : first ≤ last
    · rw [if_pos (by simpa using old)] at found
      exact ih found
    · rw [if_neg (by simpa using old)] at found
      split at found
      · cases found
      · split at found
        · cases found
        · split at found
          · cases found
            exact lt_of_not_ge old
          · exact ih found

theorem verifyCode_after {time : FloatValue} {drift : Nat}
    (found : TotpManager.verifyCode lib secret code time (some last) drift = .ok (some step)) : last < step := by
  unfold TotpManager.verifyCode at found
  split at found
  · cases found
  · obtain ⟨ts,_,found⟩ := Outcome.bind_eq_ok.mp found
    exact matchingStep_after lib found

theorem generateSecret_ne_empty (raw : Vector UInt8 20) : TotpManager.generateSecret raw ≠ "" := by
  intro empty
  have lengths := congrArg String.length empty
  simp [TotpManager.generateSecret] at lengths

end codes

namespace Turn
variable {lib : MfaLibrary} {e e' : String → Enrolment} {op : MfaOp} {log new : List Acceptance}

theorem secret_cases (turn : Turn lib e op e' new) (q : String) :
    (e' q).secret = (e q).secret ∨ ∃ s, generatedSecret op = some (q,s) ∧ (e' q).secret = some s := by
  cases turn with
  | quiet refused other => exact .inl rfl
  | setup principalId accountName raw =>
    by_cases same : q = principalId
    · subst same
      exact .inr ⟨_,rfl,by rw [Function.update_self]⟩
    · exact .inl (by rw [Function.update_of_ne same])
  | @activated principalId code time tokens secret step issued accepted =>
    by_cases same : q = principalId
    · subst same
      exact .inl (by rw [Function.update_self,issued])
    · exact .inl (by rw [Function.update_of_ne same])
  | @verified cache principalId code time secret step enabled issued accepted =>
    by_cases same : q = principalId
    · subst same
      exact .inl (by rw [Function.update_self])
    · exact .inl (by rw [Function.update_of_ne same])

theorem issued_of_mem (turn : Turn lib e op e' new) {a : Acceptance} (inside : a ∈ new) :
    (e a.principalId).secret = some a.secret := by
  cases turn with
  | quiet refused other => cases inside
  | setup principalId accountName raw => cases inside
  | activated issued accepted =>
    obtain rfl := List.mem_singleton.mp inside
    exact issued
  | verified enabled issued accepted =>
    obtain rfl := List.mem_singleton.mp inside
    exact issued

theorem seen (turn : Turn lib e op e' new) (key : String × String) (later : Seen e' (log ++ new) key) :
    Seen e log key ∨ generatedSecret op = some key := by
  rcases later with current | ⟨a,inside,own,same⟩
  · rcases secret_cases turn key.1 with kept | ⟨s,made,issued⟩
    · exact .inl (.inl (kept.symm.trans current))
    · rw [issued,Option.some.injEq] at current
      subst current
      exact .inr made
  · rcases List.mem_append.mp inside with before | fresh
    · exact .inl (.inr ⟨a,before,own,same⟩)
    · have issued := issued_of_mem turn fresh
      rw [own,same] at issued
      exact .inl (.inl issued)

theorem tracked (turn : Turn lib e op e' new) (tracked : Tracked e log)
    (fresh : ∀ key, generatedSecret op = some key → ¬ Seen e log key) : Tracked e' (log ++ new) := by
  intro q s current
  cases turn with
  | quiet refused other =>
    rw [List.append_nil]
    exact tracked q s current
  | setup principalId accountName raw =>
    rw [List.append_nil]
    by_cases same : q = principalId
    · subst same
      rw [Function.update_self,Option.some.injEq] at current
      subst current
      refine ⟨generateSecret_ne_empty raw,?_⟩
      intro a last
      exact absurd (Or.inr ⟨a,lastOn_mem last⟩) (fresh _ rfl)
    · rw [Function.update_of_ne same] at current ⊢
      exact tracked q s current
  | @activated principalId code time tokens secret step issued accepted =>
    rw [lastOn_concat]
    by_cases same : q = principalId
    · subst same
      rw [Function.update_self,Option.some.injEq] at current
      subst current
      refine ⟨(tracked q secret issued).1,?_⟩
      intro a last
      rw [if_pos ⟨rfl,rfl⟩,Option.some.injEq] at last
      rw [Function.update_self,← last]
    · rw [Function.update_of_ne same] at current ⊢
      rw [if_neg (fun own => same own.1.symm)]
      exact tracked q s current
  | @verified cache principalId code time secret step enabled issued accepted =>
    rw [lastOn_concat]
    by_cases same : q = principalId
    · subst same
      rw [Function.update_self] at current
      obtain rfl : secret = s := Option.some.inj (issued.symm.trans current)
      refine ⟨(tracked q secret issued).1,?_⟩
      intro a last
      rw [if_pos ⟨rfl,rfl⟩,Option.some.injEq] at last
      rw [Function.update_self,← last]
    · rw [Function.update_of_ne same] at current ⊢
      rw [if_neg (fun own => same own.1.symm)]
      exact tracked q s current

/-- One operation keeps the steps increasing exactly if it is onward. -/
theorem increasing_iff (turn : Turn lib e op e' new) (tracked : Tracked e log) (increasing : Increasing log) :
    Onward lib e log op ↔ Increasing (log ++ new) := by
  cases turn with
  | quiet refused other =>
    rw [List.append_nil]
    refine ⟨fun _ => increasing,fun _ => ?_⟩
    cases op with
    | activateTotp principalId code time tokens =>
      intro secret last step issued _ _ verdict
      exact absurd verdict (refused principalId code time tokens secret step rfl issued (tracked _ _ issued).1)
    | _ => trivial
  | setup principalId accountName raw =>
    rw [List.append_nil]
    exact ⟨fun _ => increasing,fun _ => trivial⟩
  | @activated principalId code time tokens secret step issued accepted =>
    rw [increasing_concat increasing]
    constructor
    · intro onward l last
      obtain ⟨inside,own,same⟩ := lastOn_mem last
      exact onward secret l.step step issued ⟨l,inside,own,same⟩ ((tracked _ _ issued).2 l last) accepted
    · intro later secret' last step' issued' used known verdict
      obtain rfl : secret = secret' := Option.some.inj (issued.symm.trans issued')
      obtain rfl : step = step' := Option.some.inj (Except.ok.inj (accepted.symm.trans verdict))
      obtain ⟨a,inside,own,same⟩ := used
      obtain ⟨l,newest⟩ := exists_lastOn inside own same
      obtain rfl : l.step = last := Option.some.inj (((tracked _ _ issued).2 l newest).symm.trans known)
      exact later l newest
  | @verified cache principalId code time secret step enabled issued accepted =>
    refine ⟨fun _ => ?_,fun _ => trivial⟩
    rw [increasing_concat increasing]
    intro l last
    rw [(tracked _ _ issued).2 l last] at accepted
    exact verifyCode_after lib accepted

/-- One operation keeps the secrets confirmed exactly if it sets up nobody twice. -/
theorem confirmed_iff (turn : Turn lib e op e' new) (confirmed : Confirmed e log)
    (fresh : ∀ key, generatedSecret op = some key → ¬ Seen e log key) :
    SetUpOnce e op ↔ Confirmed e' (log ++ new) := by
  have kept {q : String} (enabled : (e q).enabled = true) (same : e' q = e q) :
      ∃ secret, (e' q).secret = some secret ∧
        ∃ a ∈ log ++ new, a.principalId = q ∧ a.secret = secret ∧ a.activation = true := by
    obtain ⟨secret,issued,a,inside,known⟩ := confirmed q enabled
    exact ⟨secret,by rw [same,issued],a,List.mem_append_left new inside,known⟩
  cases turn with
  | quiet refused other =>
    refine ⟨fun _ q enabled => kept enabled rfl,fun _ => ?_⟩
    cases op with
    | initiateTotpSetup principalId accountName raw => exact absurd rfl (other principalId accountName raw)
    | _ => trivial
  | setup principalId accountName raw =>
    constructor
    · intro disabled q enabled
      by_cases same : q = principalId
      · subst same
        rw [Function.update_self] at enabled
        exact absurd (enabled.symm.trans disabled) (by decide)
      · rw [Function.update_of_ne same] at enabled
        exact kept enabled (Function.update_of_ne same ..)
    · intro after
      show (e principalId).enabled = false
      rw [Bool.eq_false_iff]
      intro enabled
      obtain ⟨secret,issued,a,inside,own,same,_⟩ := after principalId (by rw [Function.update_self]; exact enabled)
      rw [Function.update_self,Option.some.injEq] at issued
      rw [List.append_nil] at inside
      exact fresh _ rfl (.inr ⟨a,inside,own,same.trans issued.symm⟩)
  | @activated principalId code time tokens secret step issued accepted =>
    refine ⟨fun _ q enabled => ?_,fun _ => trivial⟩
    by_cases same : q = principalId
    · subst same
      exact ⟨secret,by rw [Function.update_self],_,List.mem_append_right log List.mem_cons_self,rfl,rfl,rfl⟩
    · rw [Function.update_of_ne same] at enabled
      exact kept enabled (Function.update_of_ne same ..)
  | @verified cache principalId code time secret step required issued accepted =>
    refine ⟨fun _ q enabled => ?_,fun _ => trivial⟩
    by_cases same : q = principalId
    · subst same
      obtain ⟨known,current,a,inside,own⟩ := confirmed q required
      exact ⟨known,by rw [Function.update_self]; exact current,a,List.mem_append_left _ inside,own⟩
    · rw [Function.update_of_ne same] at enabled
      exact kept enabled (Function.update_of_ne same ..)

end Turn

section runs
variable (lib : MfaLibrary) {ops : List MfaOp}

def NewSecret (r : MfaRun) (op : MfaOp) : Prop :=
  ∀ key, generatedSecret op = some key → ¬ Seen (enrolment r.manager) r.accepted key

theorem new_secrets (distinct : (ops.filterMap generatedSecret).Nodup) : Along (mfaStep lib) NewSecret {} ops := by
  apply fresh_along (mfaStep lib) generatedSecret (fun r => Seen (enrolment r.manager) r.accepted)
  · intro r op _ key later
    exact Turn.seen (turn_of_serve lib r.manager op) key later
  · exact distinct
  · intro key _ seen
    rcases seen with current | ⟨a,inside,_⟩
    · cases current
    · cases inside

/-- The accepted steps increase all along a run exactly if every activation is onward. -/
theorem accepted_steps_increase_iff (distinct : (ops.filterMap generatedSecret).Nodup) :
    Always (mfaStep lib) (fun r => Increasing r.accepted) {} ops ↔
      Along (mfaStep lib) (fun r op => Onward lib (enrolment r.manager) r.accepted op) {} ops := by
  symm
  apply always_iff_along (mfaStep lib) (F := NewSecret) (I := fun r => Tracked (enrolment r.manager) r.accepted)
  · intro r op tracked fresh
    exact Turn.tracked (turn_of_serve lib r.manager op) tracked fresh
  · intro r op tracked _ increasing
    exact Turn.increasing_iff (turn_of_serve lib r.manager op) tracked increasing
  · intro principalId secret issued
    cases issued
  · exact List.Pairwise.nil
  · exact new_secrets lib distinct

/-- Every enrolled principal has a confirmed secret all along a run exactly if nobody who is
enrolled is set up again. -/
theorem enrolled_confirmed_iff (distinct : (ops.filterMap generatedSecret).Nodup) :
    Always (mfaStep lib) (fun r => Confirmed (enrolment r.manager) r.accepted) {} ops ↔
      Along (mfaStep lib) (fun r op => SetUpOnce (enrolment r.manager) op) {} ops := by
  symm
  apply always_iff_along (mfaStep lib) (F := NewSecret) (I := fun _ => True)
  · intro r op _ _
    trivial
  · intro r op _ fresh confirmed
    exact Turn.confirmed_iff (turn_of_serve lib r.manager op) confirmed fresh
  · trivial
  · intro principalId enabled
    cases enabled
  · exact new_secrets lib distinct

/-- A code that `verify_totp` accepts is then one of a confirmed secret. -/
theorem verified_confirmed {e e' : String → Enrolment} {cache : Option ReplayCache} {principalId code : String}
    {time : FloatValue} {log new : List Acceptance} (confirmed : Confirmed e log)
    (turn : Turn lib e (.verifyTotp cache principalId code time) e' new) {b : Acceptance} (accepted : b ∈ new) :
    ∃ a ∈ log, a.principalId = b.principalId ∧ a.secret = b.secret ∧ a.activation = true := by
  cases turn with
  | quiet refused other => cases accepted
  | verified enabled issued verdict =>
    obtain rfl := List.mem_singleton.mp accepted
    obtain ⟨secret,current,a,inside,own,same,activation⟩ := confirmed _ enabled
    obtain rfl := Option.some.inj (current.symm.trans issued)
    exact ⟨a,inside,own,same,activation⟩

end runs

section authenticator

/-- The bytes of `12345678901234567890`. -/
def testKey : Vector UInt8 20 := #v[49,50,51,52,53,54,55,56,57,48,49,50,51,52,53,54,55,56,57,48]

/-- HMAC-SHA-1 under the key of the standard's test vectors, at its first counters. -/
def testVectors : MfaLibrary where
  b32decode text := if text = "GEZDGNBVGY3TQOJQGEZDGNBVGY3TQOJQ" then .ok testKey.toList else .error .valueError
  hmacSha1 key message :=
    if key ≠ testKey.toList then Vector.replicate 20 0
    else if message = TotpManager.packed 0 then
      #v[0xcc,0x93,0xcf,0x18,0x50,0x8d,0x94,0x93,0x4c,0x64,0xb6,0x5d,0x8b,0xa7,0x66,0x7f,0xb7,0xcd,0xe4,0xb0]
    else if message = TotpManager.packed 1 then
      #v[0x75,0xa4,0x8a,0x19,0xd4,0xcb,0xe1,0x00,0x64,0x4e,0x8a,0xc1,0x39,0x7e,0xea,0x74,0x7a,0x2d,0x33,0xab]
    else if message = TotpManager.packed 2 then
      #v[0x0b,0xac,0xb7,0xfa,0x08,0x2f,0xef,0x30,0x78,0x22,0x11,0x93,0x8b,0xc1,0xc5,0xe7,0x04,0x16,0xff,0x44]
    else Vector.replicate 20 0
  sha256 text := text
  casing := Text.asciiCasing

def enrol : List MfaOp :=
  [.initiateTotpSetup "usr_maria" "maria" testKey,.activateTotp "usr_maria" "287082" (.finite 59) []]

/-- The next code, half a minute later. -/
def enrolAndVerify : List MfaOp := enrol ++ [.verifyTotp none "usr_maria" "359152" (.finite 61)]

theorem next_code_increases :
    Always (mfaStep testVectors) (fun r => Increasing r.accepted) {} enrolAndVerify := by
  apply (accepted_steps_increase_iff testVectors (by decide +kernel)).mpr
  refine ⟨trivial,?_,trivial,trivial⟩
  intro secret last step _ used
  obtain ⟨a,inside,_⟩ := used
  exact absurd inside (by decide +kernel +revert)

/-- One code activates twice. -/
theorem repeated_activation_accepted :
    ¬ Always (mfaStep testVectors) (fun r => Increasing r.accepted) {}
      (enrol ++ [.activateTotp "usr_maria" "287082" (.finite 59) []]) := by
  intro always
  have increasing : Increasing _ := always _ [] (List.append_nil _).symm
  have log : (run (mfaStep testVectors) {} (enrol ++ [.activateTotp "usr_maria" "287082" (.finite 59) []])).accepted =
      [⟨"usr_maria","GEZDGNBVGY3TQOJQGEZDGNBVGY3TQOJQ",1,true⟩,
        ⟨"usr_maria","GEZDGNBVGY3TQOJQGEZDGNBVGY3TQOJQ",1,true⟩] := by decide +kernel
  rw [log] at increasing
  exact absurd ((List.pairwise_cons.mp increasing).1 _ List.mem_cons_self rfl rfl) (lt_irrefl _)

theorem verified_principal_confirmed :
    Always (mfaStep testVectors) (fun r => Confirmed (enrolment r.manager) r.accepted) {} enrolAndVerify := by
  apply (enrolled_confirmed_iff testVectors (by decide +kernel)).mpr
  exact ⟨rfl,trivial,trivial,trivial⟩

/-- A second setup puts an unconfirmed secret in the place of the confirmed one. -/
theorem second_setup_unconfirmed :
    ¬ Always (mfaStep testVectors) (fun r => Confirmed (enrolment r.manager) r.accepted) {}
      (enrol ++ [.initiateTotpSetup "usr_maria" "maria" (Vector.replicate 20 0)]) := by
  intro always
  have confirmed := always _ [] (List.append_nil _).symm
  obtain ⟨secret,issued,a,inside,_,same,_⟩ := confirmed "usr_maria" (by decide +kernel)
  have current : (enrolment (run (mfaStep testVectors) {}
      (enrol ++ [.initiateTotpSetup "usr_maria" "maria" (Vector.replicate 20 0)])).manager "usr_maria").secret =
        some "AAAAAAAAAAAAAAAAAAAAAAAAAAAAAAAA" := by decide +kernel
  have log : (run (mfaStep testVectors) {}
      (enrol ++ [.initiateTotpSetup "usr_maria" "maria" (Vector.replicate 20 0)])).accepted =
        [⟨"usr_maria","GEZDGNBVGY3TQOJQGEZDGNBVGY3TQOJQ",1,true⟩] := by decide +kernel
  rw [current,Option.some.injEq] at issued
  rw [log] at inside
  obtain rfl := List.mem_singleton.mp inside
  exact absurd (same.trans issued.symm) (by decide)

end authenticator
end RevPilot.Identity
