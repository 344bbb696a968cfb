import RevPilot.Analytics.StlDetector
import RevPilot.Library.Lists
import RevPilot.Library.Outcome
import RevPilot.Shared.Errors
import RevPilot.Shared.Identifiers
import RevPilot.Shared.Temporal

/-! The rolling backtest of the detector: one verdict a day on the series up to that day, scored against the
incident of the ground truth. -/
namespace RevPilot.Benchmark
open Library Statistics Shared Analytics

structure GroundTruthIncident where
  tenantId : TenantId
  causalStartTime : UtcDateTime
  causalEndTime : UtcDateTime

structure DetectorBenchmarkMetrics where
  precision : ℚ
  «recall» : ℚ
  f1Score : ℚ
  falsePositiveRate : ℚ
  leadTimeHours : ℚ
  evaluatedAt : UtcDateTime

def evalGroundTruthMissingError (message : String) (details : List (PyKey × PyValue)) : PyError :=
  .domain { code := "EVAL_GROUND_TRUTH_MISSING", message := message, details := details }

/-- The counters of the loop and the day of its first true alarm. -/
structure Tally where
  tp : Nat := 0
  fp : Nat := 0
  fn : Nat := 0
  tn : Nat := 0
  firstAlarmTime : Option UtcDateTime := none

/-- `series[:day]`. -/
def visibleSeries (series : List ℚ) (day : Int) : List ℚ :=
  if 0 ≤ day then series.take day.toNat else series.take (series.length + day).toNat

/-- The instants at which a day begins and ends. -/
def dayBounds (startDt : UtcDateTime) (day : Int) : Except PyError (UtcDateTime × UtcDateTime) :=
  match startDt.plusHours ((day - 1) * 24),startDt.plusHours (day * 24) with
  | some dayDt,some dayEndDt => .ok (dayDt,dayEndDt)
  | _,_ => .error .overflowError

def incidentActive (incident : GroundTruthIncident) (tenantId : TenantId) (dayDt dayEndDt : UtcDateTime) : Bool :=
  decide (incident.tenantId = tenantId ∧ dayDt ≤ incident.causalEndTime ∧ incident.causalStartTime ≤ dayEndDt)

def scored (isIncidentActive isAnomaly : Bool) (dayDt : UtcDateTime) (t : Tally) : Tally :=
  if isIncidentActive then
    if isAnomaly then { t with tp := t.tp + 1, firstAlarmTime := t.firstAlarmTime.or (some dayDt) }
    else { t with fn := t.fn + 1 }
  else
    if isAnomaly then { t with fp := t.fp + 1 }
    else { t with tn := t.tn + 1 }

namespace RollingTimeSplitEvaluator
variable (sqrt : ℚ → ℚ) (detector : StlResidualDetector ℚ) (incident : GroundTruthIncident) (tenantId : TenantId)
  (startDt : UtcDateTime) (series : List ℚ)

/-- One turn of the loop. -/
def evaluateDay (t : Tally) (day : Int) : Except PyError Tally := do
  let (dayDt,dayEndDt) ← dayBounds startDt day
  let detRes := detector.detect sqrt (visibleSeries series day)
  return scored (incidentActive incident tenantId dayDt dayEndDt) detRes.isAnomaly dayDt t

def rollingEvaluation (startDay endDay : Int) : Except PyError Tally :=
  (pyRange startDay (endDay + 1)).foldlM (evaluateDay sqrt detector incident tenantId startDt series) {}

def benchmarkMetrics (t : Tally) (now : UtcDateTime) : DetectorBenchmarkMetrics :=
  let precision : ℚ := if 0 < t.tp + t.fp then t.tp / (t.tp + t.fp : Nat) else if t.fn = 0 then 1 else 0
  let recalled : ℚ := if 0 < t.tp + t.fn then t.tp / (t.tp + t.fn : Nat) else 1
  let f1 : ℚ := if 0 < precision + recalled then 2 * precision * recalled / (precision + recalled) else 0
  let fpr : ℚ := if 0 < t.fp + t.tn then t.fp / (t.fp + t.tn : Nat) else 0
  let leadTimeHours : ℚ := match t.firstAlarmTime with
    | some alarm => max 0 (roundTo 2 (((alarm.micros - incident.causalStartTime.micros : Int) : ℚ) / 10 ^ 6 / 3600))
    | none => if t.tp + t.fn = 0 then 0 else 999
  { precision := roundTo 4 precision, «recall» := roundTo 4 recalled, f1Score := roundTo 4 f1
    falsePositiveRate := roundTo 4 fpr, leadTimeHours := leadTimeHours, evaluatedAt := now }

/-- The ground truth as its file gives it: no file, a refusal with its text, or the incident. -/
def runBacktest (groundTruthPath : String) (groundTruth : Option (Except String GroundTruthIncident))
    (startDay endDay : Int) (seriesData : Option (List ℚ)) (baseDate : Option UtcDateTime) (now : UtcDateTime) :
    Except PyError (DetectorBenchmarkMetrics) :=
  match groundTruth with
  | none => .error (evalGroundTruthMissingError ("Benchmark ground-truth file missing at: " ++ groundTruthPath)
      [(.str "path",.str groundTruthPath)])
  | some (.error text) => .error (evalGroundTruthMissingError ("Failed to load ground truth: " ++ text)
      [(.str "error",.str text)])
  | some (.ok incident) => do
    let startDt := baseDate.getD ⟨1767225600000000⟩
    let t ← rollingEvaluation sqrt detector incident tenantId startDt (seriesData.getD []) startDay endDay
    return benchmarkMetrics incident t now

end RollingTimeSplitEvaluator

section days

/-- The four ways to count a day. -/
inductive Score
  | tp | fp | fn | tn
  deriving DecidableEq

def Tally.counter (t : Tally) : Score → Nat
  | .tp => t.tp
  | .fp => t.fp
  | .fn => t.fn
  | .tn => t.tn

/-- A day that the incident was active on. -/
def Score.incident (score : Score) : Bool := score = .tp ∨ score = .fn

/-- One day was counted, and in one way. -/
def Counted (before after : Tally) (score : Score) : Prop :=
  ∀ other, after.counter other = before.counter other + if other = score then 1 else 0

def scoreOf (isIncidentActive isAnomaly : Bool) : Score :=
  if isIncidentActive then if isAnomaly then .tp else .fn else if isAnomaly then .fp else .tn

theorem scored_counted (isIncidentActive isAnomaly : Bool) (dayDt : UtcDateTime) (t : Tally) :
    Counted t (scored isIncidentActive isAnomaly dayDt t) (scoreOf isIncidentActive isAnomaly) := by
  intro other
  cases isIncidentActive <;> cases isAnomaly <;> cases other <;> rfl

theorem scoreOf_incident (isIncidentActive isAnomaly : Bool) :
    (scoreOf isIncidentActive isAnomaly).incident = isIncidentActive := by
  cases isIncidentActive <;> cases isAnomaly <;> rfl

/-- A day is counted in one way only. -/
theorem Counted.unique {before after : Tally} {score score' : Score} (first : Counted before after score)
    (second : Counted before after score') : score = score' := by
  have same := (first score).symm.trans (second score)
  rw [if_pos rfl] at same
  by_contra apart
  rw [if_neg apart] at same
  omega

/-- The microseconds in a day. -/
def dayMicros : Int := 86400000000

/-- The start of a day; the day ends where the next one starts. -/
def dayStart (startDt : UtcDateTime) (day : Int) : Int := startDt.micros + (day - 1) * dayMicros

/-- Both bounds of the day are instants of the platform's calendar. -/
def Representable (startDt : UtcDateTime) (day : Int) : Prop :=
  UtcDateTime.minMicros ≤ dayStart startDt day ∧ dayStart startDt day + dayMicros ≤ UtcDateTime.maxMicros

/-- An instant of the half-open day lies in the causal window. -/
def Intersects (incident : GroundTruthIncident) (startDt : UtcDateTime) (day : Int) : Prop :=
  ∃ t : UtcDateTime, dayStart startDt day ≤ t.micros ∧ t.micros < dayStart startDt day + dayMicros ∧
    incident.causalStartTime ≤ t ∧ t ≤ incident.causalEndTime

variable {startDt : UtcDateTime} {day : Int} {incident : GroundTruthIncident}

theorem dayStart_succ (startDt : UtcDateTime) (day : Int) :
    dayStart startDt (day + 1) = dayStart startDt day + dayMicros := by
  unfold dayStart
  ring

theorem plusHours_dayStart (startDt : UtcDateTime) (day : Int) : startDt.plusHours ((day - 1) * 24) =
    if UtcDateTime.minMicros ≤ dayStart startDt day ∧ dayStart startDt day ≤ UtcDateTime.maxMicros
    then some ⟨dayStart startDt day⟩ else none := by
  have sum : startDt.micros + (day - 1) * 24 * 3600 * 1000000 = dayStart startDt day := by
    unfold dayStart dayMicros
    ring
  unfold UtcDateTime.plusHours UtcDateTime.plusSeconds
  rw [sum]

theorem plusHours_dayEnd (startDt : UtcDateTime) (day : Int) : startDt.plusHours (day * 24) =
    if UtcDateTime.minMicros ≤ dayStart startDt day + dayMicros ∧ dayStart startDt day + dayMicros ≤ UtcDateTime.maxMicros
    then some ⟨dayStart startDt day + dayMicros⟩ else none := by
  have next := plusHours_dayStart startDt (day + 1)
  rwa [dayStart_succ,Int.add_sub_cancel] at next

theorem dayBounds_ok (representable : Representable startDt day) :
    dayBounds startDt day = .ok (⟨dayStart startDt day⟩,⟨dayStart startDt day + dayMicros⟩) := by
  have positive : 0 < dayMicros := by decide
  obtain ⟨low,high⟩ := representable
  rw [dayBounds,plusHours_dayStart,plusHours_dayEnd,if_pos ⟨low,by omega⟩,if_pos ⟨by omega,high⟩]

theorem dayBounds_error (out : ¬ Representable startDt day) : dayBounds startDt day = .error .overflowError := by
  rw [dayBounds,plusHours_dayStart,plusHours_dayEnd]
  by_cases start : UtcDateTime.minMicros ≤ dayStart startDt day ∧ dayStart startDt day ≤ UtcDateTime.maxMicros
  · rw [if_pos start,if_neg (fun stop => out ⟨start.1,stop.2⟩)]
  · rw [if_neg start]

theorem intersects_iff : Intersects incident startDt day ↔
    incident.causalStartTime ≤ incident.causalEndTime ∧ dayStart startDt day ≤ incident.causalEndTime.micros ∧
      incident.causalStartTime.micros < dayStart startDt day + dayMicros := by
  have positive : 0 < dayMicros := by decide
  constructor
  · rintro ⟨t,first,last,low,high⟩
    exact ⟨Int.le_trans low high,Int.le_trans first high,Int.lt_of_le_of_lt low last⟩
  · rintro ⟨window,first,last⟩
    change incident.causalStartTime.micros ≤ incident.causalEndTime.micros at window
    refine ⟨⟨max (dayStart startDt day) incident.causalStartTime.micros⟩,le_max_left _ _,max_lt (by omega) last,?_,?_⟩
    · change incident.causalStartTime.micros ≤ max _ _
      exact le_max_right _ _
    · change max _ _ ≤ incident.causalEndTime.micros
      exact max_le first window

/-- What makes the inclusive comparisons wrong: a day that ends where the window starts, and a window without instants. -/
theorem incidentActive_iff : (incidentActive incident incident.tenantId ⟨dayStart startDt day⟩
      ⟨dayStart startDt day + dayMicros⟩ = true ↔ Intersects incident startDt day) ↔
    (dayStart startDt day ≤ incident.causalEndTime.micros →
      incident.causalStartTime.micros ≤ dayStart startDt day + dayMicros →
      incident.causalStartTime ≤ incident.causalEndTime ∧
        dayStart startDt day + dayMicros ≠ incident.causalStartTime.micros) := by
  have window : incident.causalStartTime ≤ incident.causalEndTime ↔
    incident.causalStartTime.micros ≤ incident.causalEndTime.micros := Iff.rfl
  have active : incidentActive incident incident.tenantId ⟨dayStart startDt day⟩ ⟨dayStart startDt day + dayMicros⟩ = true ↔
      dayStart startDt day ≤ incident.causalEndTime.micros ∧
        incident.causalStartTime.micros ≤ dayStart startDt day + dayMicros := by
    rw [incidentActive,decide_eq_true_iff,and_iff_right rfl]
    exact Iff.rfl
  rw [active,intersects_iff,window]
  omega

end days

namespace RollingTimeSplitEvaluator
variable {sqrt : ℚ → ℚ} {detector : StlResidualDetector ℚ} {incident : GroundTruthIncident} {tenantId : TenantId}
  {startDt : UtcDateTime} {series : List ℚ} {startDay endDay day : Int}

/-- One turn of the loop counts its day, if it can be dated. -/
theorem evaluateDay_cases (sqrt : ℚ → ℚ) (detector : StlResidualDetector ℚ) (incident : GroundTruthIncident)
    (tenantId : TenantId) (startDt : UtcDateTime) (series : List ℚ) (before : Tally) (day : Int) :
    (Representable startDt day ∧ ∃ after score,
      evaluateDay sqrt detector incident tenantId startDt series before day = .ok after ∧ Counted before after score ∧
        score.incident = incidentActive incident tenantId ⟨dayStart startDt day⟩ ⟨dayStart startDt day + dayMicros⟩) ∨
    (¬ Representable startDt day ∧
      evaluateDay sqrt detector incident tenantId startDt series before day = .error .overflowError) := by
  by_cases representable : Representable startDt day
  · let isAnomaly := (detector.detect sqrt (visibleSeries series day)).isAnomaly
    refine .inl ⟨representable,_,_,?_,scored_counted _ isAnomaly ⟨dayStart startDt day⟩ before,scoreOf_incident _ isAnomaly⟩
    rw [evaluateDay,dayBounds_ok representable]
    rfl
  · refine .inr ⟨representable,?_⟩
    rw [evaluateDay,dayBounds_error representable]
    rfl

theorem rollingEvaluation_last (within : startDay ≤ day) :
    rollingEvaluation sqrt detector incident tenantId startDt series startDay day =
      rollingEvaluation sqrt detector incident tenantId startDt series startDay (day - 1) >>=
        fun t => evaluateDay sqrt detector incident tenantId startDt series t day := by
  unfold rollingEvaluation
  rw [Int.sub_add_cancel,pyRange_succ within,List.foldlM_append]
  congr 1
  funext t
  exact bind_pure (m := Except PyError) _

/-- The loop ends iff each of its days can be dated. -/
theorem rollingEvaluation_ok (sqrt : ℚ → ℚ) (detector : StlResidualDetector ℚ) (incident : GroundTruthIncident)
    (tenantId : TenantId) (startDt : UtcDateTime) (series : List ℚ) (startDay endDay : Int) :
    (∃ t, rollingEvaluation sqrt detector incident tenantId startDt series startDay endDay = .ok t) ↔
      ∀ day, startDay ≤ day → day ≤ endDay → Representable startDt day := by
  have empty {endDay : Int} (none : endDay < startDay) :
      rollingEvaluation sqrt detector incident tenantId startDt series startDay endDay = .ok {} := by
    have size : (endDay + 1 - startDay).toNat = 0 := by omega
    rw [rollingEvaluation,pyRange,size]
    rfl
  rcases lt_or_ge endDay startDay with none | some
  · exact iff_of_true ⟨_,empty none⟩ (fun day first last => by omega)
  · obtain ⟨n,rfl⟩ : ∃ n : Nat, endDay = startDay - 1 + n := ⟨(endDay - startDay + 1).toNat,by omega⟩
    clear some
    induction n with
    | zero => exact iff_of_true ⟨_,empty (by omega)⟩ (fun day first last => by omega)
    | succ n ih =>
      have before : startDay - 1 + (n + 1 : Nat) - 1 = startDay - 1 + n := by omega
      rw [rollingEvaluation_last (by omega),before]
      constructor
      · rintro ⟨after,returned⟩ day first last
        obtain ⟨t,earlier,turn⟩ := Outcome.bind_eq_ok.mp returned
        rcases evaluateDay_cases sqrt detector incident tenantId startDt series t (startDay - 1 + (n + 1 : Nat)) with
          ⟨representable,-⟩ | ⟨-,raised⟩
        · rcases lt_or_ge day (startDay - 1 + (n + 1 : Nat)) with sooner | same
          · exact ih.mp ⟨t,earlier⟩ day first (by omega)
          · rwa [Int.le_antisymm last same]
        · rw [raised] at turn
          cases turn
      · intro dated
        obtain ⟨t,earlier⟩ := ih.mpr (fun day first last => dated day first (by omega))
        rw [earlier]
        rcases evaluateDay_cases sqrt detector incident tenantId startDt series t (startDay - 1 + (n + 1 : Nat)) with
          ⟨-,after,-,returned,-⟩ | ⟨out,-⟩
        · exact ⟨after,returned⟩
        · exact absurd (dated _ (by omega) le_rfl) out

/-- The backtest of an incident's own tenant ends and counts each day once, as an incident day iff the day meets the
causal window. -/
def CountsEachDay (sqrt : ℚ → ℚ) (detector : StlResidualDetector ℚ) (incident : GroundTruthIncident)
    (startDt : UtcDateTime) (series : List ℚ) (startDay endDay : Int) : Prop :=
  (∃ t, rollingEvaluation sqrt detector incident incident.tenantId startDt series startDay endDay = .ok t) ∧
  ∀ day, startDay ≤ day → day ≤ endDay → ∃ before after score,
    rollingEvaluation sqrt detector incident incident.tenantId startDt series startDay (day - 1) = .ok before ∧
    rollingEvaluation sqrt detector incident incident.tenantId startDt series startDay day = .ok after ∧
    Counted before after score ∧ (score.incident = true ↔ Intersects incident startDt day)

/-- An incident of the second day of the year, from its first instant on. -/
def secondDay : GroundTruthIncident where
  tenantId := ⟨"tnt_acme",Eq.refl true⟩
  causalStartTime := ⟨1767312000000000⟩
  causalEndTime := ⟨1767398399000000⟩

def weekly : StlResidualDetector ℚ where
  periodic := by decide
  positive := by decide +kernel

/-- The day before the incident is counted as a day of it. -/
theorem dayBefore_counted : ¬ CountsEachDay id weekly secondDay ⟨1767225600000000⟩ [] 1 1 := by
  rintro ⟨-,counts⟩
  obtain ⟨before,after,score,earlier,returned,counted,verdict⟩ := counts 1 le_rfl le_rfl
  have missed : rollingEvaluation id weekly secondDay secondDay.tenantId ⟨1767225600000000⟩ [] 1 1 = .ok { fn := 1 } := rfl
  have start : rollingEvaluation id weekly secondDay secondDay.tenantId ⟨1767225600000000⟩ [] 1 0 = .ok {} := rfl
  cases start.symm.trans earlier
  cases missed.symm.trans returned
  have negative : score = .fn := by
    have one := counted .fn
    by_contra apart
    rw [if_neg (fun same => apart same.symm)] at one
    cases one
  subst negative
  obtain ⟨t,-,last,low,-⟩ := verdict.mp rfl
  change t.micros < 1767312000000000 at last
  change 1767312000000000 ≤ t.micros at low
  omega

theorem rollingEvaluation_counts (sqrt : ℚ → ℚ) (detector : StlResidualDetector ℚ) (incident : GroundTruthIncident)
    (startDt : UtcDateTime) (series : List ℚ) (startDay endDay : Int) :
    CountsEachDay sqrt detector incident startDt series startDay endDay ↔
      ∀ day, startDay ≤ day → day ≤ endDay → Representable startDt day ∧
        (dayStart startDt day ≤ incident.causalEndTime.micros →
          incident.causalStartTime.micros ≤ dayStart startDt day + dayMicros →
          incident.causalStartTime ≤ incident.causalEndTime ∧
            dayStart startDt day + dayMicros ≠ incident.causalStartTime.micros) := by
  have ends := rollingEvaluation_ok sqrt detector incident incident.tenantId startDt series startDay
  constructor
  · rintro ⟨ended,counts⟩ day first last
    refine ⟨(ends endDay).mp ended day first last,?_⟩
    obtain ⟨before,after,score,earlier,returned,counted,verdict⟩ := counts day first last
    rw [rollingEvaluation_last first,earlier] at returned
    rcases evaluateDay_cases sqrt detector incident incident.tenantId startDt series before day with
      ⟨-,after',score',turn,counted',active⟩ | ⟨-,raised⟩
    · cases turn.symm.trans returned
      rw [counted'.unique counted] at active
      rw [← incidentActive_iff,← active,verdict]
    · cases raised.symm.trans returned
  · intro holds
    have dated (day : Int) (first : startDay ≤ day) (last : day ≤ endDay) := (holds day first last).1
    refine ⟨(ends endDay).mpr dated,?_⟩
    intro day first last
    obtain ⟨before,earlier⟩ := (ends (day - 1)).mpr (fun day first last => dated day first (by omega))
    rcases evaluateDay_cases sqrt detector incident incident.tenantId startDt series before day with
      ⟨-,after,score,turn,counted,active⟩ | ⟨out,-⟩
    · refine ⟨before,after,score,earlier,?_,counted,?_⟩
      · rw [rollingEvaluation_last first,earlier]
        exact turn
      · rw [active]
        exact incidentActive_iff.mpr (holds day first last).2
    · exact absurd (dated day first last) out

end RollingTimeSplitEvaluator
end RevPilot.Benchmark
