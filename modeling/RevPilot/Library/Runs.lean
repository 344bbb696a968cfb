import Mathlib.Data.List.Induction

/-! Runs of a deterministic step function over a list of operations, conditions
that every operation of a run meets in the state it is applied to, and the two
rules for safety: an inductive invariant, and a relation kept between any
earlier and any later state of one run. -/
namespace RevPilot.Library.Runs

universe u v
variable {S : Type u} {O : Type v}

def run (step : S → O → S) (start : S) (ops : List O) : S := ops.foldl step start

/-- Every operation meets `P` in the state it is applied to. -/
def Along (step : S → O → S) (P : S → O → Prop) : S → List O → Prop
  | _, [] => True
  | s, op :: ops => P s op ∧ Along step P (step s op) ops

instance decidableAlong (step : S → O → S) (P : S → O → Prop) [∀ s op, Decidable (P s op)] :
    (s : S) → (ops : List O) → Decidable (Along step P s ops)
  | _, [] => .isTrue trivial
  | s, op :: ops =>
    have := decidableAlong step P (step s op) ops
    inferInstanceAs (Decidable (P s op ∧ Along step P (step s op) ops))

/-- `R` relates every state of the run to every later one. -/
def Through (step : S → O → S) (R : S → S → Prop) (start : S) (ops : List O) : Prop :=
  ∀ pre mid post, ops = pre ++ mid ++ post →
    R (run step start pre) (run step start (pre ++ mid))

/-- `I` holds in every state of the run, the first and the last included. -/
def Always (step : S → O → S) (I : S → Prop) (start : S) (ops : List O) : Prop :=
  ∀ pre post, ops = pre ++ post → I (run step start pre)

section rules
variable (step : S → O → S)

@[simp] theorem run_nil (s : S) : run step s [] = s := rfl

@[simp] theorem run_cons (s : S) (op : O) (ops : List O) :
    run step s (op :: ops) = run step (step s op) ops := rfl

theorem run_append (s : S) (pre post : List O) :
    run step s (pre ++ post) = run step (run step s pre) post := by
  simp [run,List.foldl_append]

theorem run_concat (s : S) (ops : List O) (op : O) :
    run step s (ops ++ [op]) = step (run step s ops) op := by
  simp [run_append]

theorem along_append (P : S → O → Prop) (s : S) (pre post : List O) :
    Along step P s (pre ++ post) ↔ Along step P s pre ∧ Along step P (run step s pre) post := by
  induction pre generalizing s with
  | nil => simp [Along]
  | cons op pre ih => simp [Along,ih,and_assoc]

/-- The condition at one position, read off the whole run. -/
theorem along_at {P : S → O → Prop} {s : S} {ops pre post : List O} {op : O}
    (met : Along step P s ops) (split : ops = pre ++ op :: post) : P (run step s pre) op := by
  subst split
  exact ((along_append step P s pre (op :: post)).mp met).2.1

theorem along_iff (P : S → O → Prop) (s : S) (ops : List O) :
    Along step P s ops ↔ ∀ pre op post, ops = pre ++ op :: post → P (run step s pre) op := by
  constructor
  · intro met pre op post split
    exact along_at step met split
  · intro each
    induction ops generalizing s with
    | nil => trivial
    | cons op ops ih =>
      refine ⟨each [] op ops rfl,ih (step s op) ?_⟩
      intro pre next post split
      exact each (op :: pre) next post (by simp [split])

theorem along_mono {P Q : S → O → Prop} (weaker : ∀ s op, P s op → Q s op)
    {s : S} {ops : List O} (met : Along step P s ops) : Along step Q s ops := by
  rw [along_iff] at met ⊢
  intro pre op post split
  exact weaker _ _ (met pre op post split)

/-- The invariant rule: what holds at the start and is kept by every operation
that meets its condition holds at the end. -/
theorem invariant_run {I : S → Prop} {P : S → O → Prop}
    (keeps : ∀ s op, I s → P s op → I (step s op))
    {s : S} {ops : List O} (start : I s) (met : Along step P s ops) : I (run step s ops) := by
  induction ops generalizing s with
  | nil => exact start
  | cons op ops ih => exact ih (keeps s op start met.1) met.2

/-- What every operation keeps is kept by the run. -/
theorem stable_run {I : S → Prop} (keeps : ∀ s op, I s → I (step s op)) {s : S} (start : I s)
    (ops : List O) : I (run step s ops) := by
  induction ops generalizing s with
  | nil => exact start
  | cons op ops ih => exact ih (keeps s op start)

theorem invariant_always {I : S → Prop} {P : S → O → Prop}
    (keeps : ∀ s op, I s → P s op → I (step s op))
    {s : S} {ops : List O} (start : I s) (met : Along step P s ops) : Always step I s ops := by
  intro pre post split
  subst split
  exact invariant_run step keeps start ((along_append step P s pre post).mp met).1

theorem always_mono {I J : S → Prop} (weaker : ∀ s, I s → J s) {s : S} {ops : List O}
    (holds : Always step I s ops) : Always step J s ops :=
  fun pre post split => weaker _ (holds pre post split)

/-- A reflexive and transitive relation is kept between any two states of a run
exactly when every single operation keeps it. -/
theorem through_iff_along {R : S → S → Prop} (refl : ∀ s, R s s)
    (trans : ∀ s t u, R s t → R t u → R s u) (s : S) (ops : List O) :
    Through step R s ops ↔ Along step (fun s op => R s (step s op)) s ops := by
  rw [along_iff]
  constructor
  · intro kept pre op post split
    have one := kept pre [op] post (by simp [split])
    rwa [run_concat] at one
  · intro each pre mid post split
    induction mid using List.reverseRecOn generalizing post with
    | nil => simpa using refl (run step s pre)
    | append_singleton mid op ih =>
      have before := ih (op :: post) (by simp [split])
      have after := each (pre ++ mid) op post (by simp [split])
      rw [← List.append_assoc,run_concat]
      exact trans _ _ _ before after

/-- Under an invariant of the run two step conditions that agree in the
invariant's states are met together. -/
theorem along_congr {I : S → Prop} {P Q F : S → O → Prop}
    (keeps : ∀ s op, I s → F s op → I (step s op))
    (same : ∀ s op, I s → F s op → (P s op ↔ Q s op))
    {s : S} {ops : List O} (start : I s) (fits : Along step F s ops) :
    Along step P s ops ↔ Along step Q s ops := by
  induction ops generalizing s with
  | nil => simp [Along]
  | cons op ops ih =>
    simp only [Along]
    rw [same s op start fits.1,ih (keeps s op start fits.1) fits.2]

theorem always_cons {J : S → Prop} {s : S} {op : O} {ops : List O} :
    Always step J s (op :: ops) ↔ J s ∧ Always step J (step s op) ops := by
  constructor
  · intro holds
    refine ⟨holds [] (op :: ops) rfl,?_⟩
    intro pre post split
    exact holds (op :: pre) post (by simp [split])
  · rintro ⟨first,later⟩ pre post split
    cases pre with
    | nil => exact first
    | cons next pre =>
      obtain ⟨rfl,rest⟩ := List.cons.inj split
      exact later pre post rest

/-- A state property `J` and a property `Q` of single operations hold all along a
run exactly when a step condition is met, if the condition says of one operation
from a `J` state that it has `Q` and ends in a `J` state. -/
theorem along_safe_iff {I J : S → Prop} {F P Q : S → O → Prop}
    (keeps : ∀ s op, I s → F s op → I (step s op))
    (same : ∀ s op, I s → F s op → J s → (P s op ↔ Q s op ∧ J (step s op)))
    {s : S} {ops : List O} (start : I s) (safe : J s) (fits : Along step F s ops) :
    Along step P s ops ↔ Along step Q s ops ∧ Always step J s ops := by
  induction ops generalizing s with
  | nil =>
    simp only [Along,true_and,true_iff]
    intro pre post split
    obtain ⟨rfl,rfl⟩ := List.append_eq_nil_iff.mp split.symm
    exact safe
  | cons op ops ih =>
    have after (next : J (step s op)) := ih (keeps s op start fits.1) next fits.2
    rw [always_cons]
    simp only [Along]
    rw [same s op start fits.1 safe]
    constructor
    · rintro ⟨⟨good,next⟩,rest⟩
      have later := (after next).mp rest
      exact ⟨⟨good,later.1⟩,safe,later.2⟩
    · rintro ⟨⟨good,rest⟩,_,always⟩
      have next : J (step s op) := always [] ops rfl
      exact ⟨⟨good,next⟩,(after next).mpr ⟨rest,always⟩⟩

/-- The rule without a property of the operations. -/
theorem always_iff_along {I J : S → Prop} {F P : S → O → Prop}
    (keeps : ∀ s op, I s → F s op → I (step s op))
    (same : ∀ s op, I s → F s op → J s → (P s op ↔ J (step s op)))
    {s : S} {ops : List O} (start : I s) (safe : J s) (fits : Along step F s ops) :
    Along step P s ops ↔ Always step J s ops := by
  have trivially : Along step (fun _ _ => True) s ops := (along_iff step _ s ops).mpr (fun _ _ _ _ => trivial)
  have iff := @along_safe_iff _ _ step I J F P (fun _ _ => True) keeps
    (fun s op inv fit safe => (same s op inv fit safe).trans (and_iff_right trivial).symm) s ops start safe fits
  exact iff.trans (and_iff_right trivially)

/-- A run of a machine whose states have a part that steps on its own is, in that
part, a run of the part. -/
theorem along_part {T : Type*} {whole : T → O → T} (part : T → S)
    (follows : ∀ d op, part (whole d op) = step (part d) op) (P : S → O → Prop) (d : T) (ops : List O) :
    Along whole (fun d op => P (part d) op) d ops ↔ Along step P (part d) ops := by
  induction ops generalizing d with
  | nil => simp [Along]
  | cons op ops ih => simp only [Along,ih,follows]

/-- Operations at different places generate different identifiers. -/
theorem generated_apart {K : Type*} {generated : O → Option K} {ops : List O}
    (distinct : (ops.filterMap generated).Nodup) {i j : Nat} {a b : O} (apart : i ≠ j)
    (at_i : ops[i]? = some a) (at_j : ops[j]? = some b) (k : K) (made : generated a = some k) :
    generated b ≠ some k := by
  have pairs := List.pairwise_filterMap.mp distinct
  rw [List.pairwise_iff_getElem] at pairs
  obtain ⟨boundI,rfl⟩ := List.getElem?_eq_some_iff.mp at_i
  obtain ⟨boundJ,rfl⟩ := List.getElem?_eq_some_iff.mp at_j
  intro twice
  rcases Nat.lt_or_gt_of_ne apart with before | after
  · exact pairs i j boundI boundJ before k made k twice rfl
  · exact pairs j i boundJ boundI after k twice k made rfl

/-- Identifiers that a run generates once are new when they are used, if an
operation stores nothing but under its own. -/
theorem fresh_along {K : Type*} (generated : O → Option K) (stored : S → K → Prop)
    (grows : ∀ s op, (∀ k, generated op = some k → ¬ stored s k) →
      ∀ k, stored (step s op) k → stored s k ∨ generated op = some k)
    {s : S} {ops : List O} (distinct : (ops.filterMap generated).Nodup)
    (unused : ∀ k ∈ ops.filterMap generated, ¬ stored s k) :
    Along step (fun s op => ∀ k, generated op = some k → ¬ stored s k) s ops := by
  induction ops generalizing s with
  | nil => trivial
  | cons op ops ih =>
    have fresh : ∀ k, generated op = some k → ¬ stored s k := by
      intro k made
      exact unused k (List.mem_filterMap.mpr ⟨op,List.mem_cons_self,made⟩)
    refine ⟨fresh,ih ?_ ?_⟩
    · cases made : generated op with
      | none => simpa [made] using distinct
      | some k => exact (List.nodup_cons.mp (by simpa [made] using distinct)).2
    · intro k later present
      rcases grows s op fresh k present with before | made
      · apply unused k _ before
        obtain ⟨source,inside,made⟩ := List.mem_filterMap.mp later
        exact List.mem_filterMap.mpr ⟨source,List.mem_cons_of_mem _ inside,made⟩
      · simp only [List.filterMap_cons,made,List.nodup_cons] at distinct
        exact distinct.1 later

end rules
end RevPilot.Library.Runs

/-! What holds from one event of a run until another. -/
namespace RevPilot.Library.Runs

universe u v
variable {S : Type u} {O : Type v}

/-- `Held` after every operation that starts it, as long as none ends it. -/
def Lasts (step : S → O → S) (starts ends : S → O → Prop) (Held : S → Prop) (start : S) (ops : List O) : Prop :=
  ∀ pre op mid post, ops = pre ++ op :: (mid ++ post) → starts (run step start pre) op →
    Along step (fun s op => ¬ ends s op) (run step start (pre ++ [op])) mid → Held (run step start (pre ++ op :: mid))

section rules
variable (step : S → O → S) {starts ends : S → O → Prop} {Held : S → Prop}

/-- What holds at the end of a run was started in it, if it did not hold before. -/
theorem started_before (origin : ∀ s op, Held (step s op) → starts s op ∨ (Held s ∧ ¬ ends s op))
    {start : S} (unheld : ¬ Held start) {ops : List O} (held : Held (run step start ops)) :
    ∃ pre op mid, ops = pre ++ op :: mid ∧ starts (run step start pre) op ∧
      Along step (fun s op => ¬ ends s op) (run step start (pre ++ [op])) mid := by
  induction ops using List.reverseRecOn with
  | nil => exact absurd held unheld
  | append_singleton ops last ih =>
    rw [run_concat] at held
    rcases origin _ _ held with begun | ⟨before,unended⟩
    · exact ⟨ops,last,[],rfl,begun,trivial⟩
    · obtain ⟨pre,op,mid,rfl,begun,sofar⟩ := ih before
      refine ⟨pre,op,mid ++ [last],by simp,begun,?_⟩
      rw [along_append]
      refine ⟨sofar,?_,trivial⟩
      rw [← run_append]
      simpa using unended

/-- A property that its events start, and that other operations keep exactly under a condition,
lasts through a run exactly if the condition is met wherever the property holds. -/
theorem lasts_iff {P : S → O → Prop} (sets : ∀ s op, starts s op → Held (step s op))
    (keeps : ∀ s op, Held s → ¬ ends s op → (P s op ↔ Held (step s op)))
    (origin : ∀ s op, Held (step s op) → starts s op ∨ (Held s ∧ ¬ ends s op))
    {start : S} (unheld : ¬ Held start) (ops : List O) :
    Lasts step starts ends Held start ops ↔ Along step (fun s op => Held s → ¬ ends s op → P s op) start ops := by
  constructor
  · intro lasts
    rw [along_iff]
    intro before op after split held unended
    obtain ⟨pre,first,mid,rfl,begun,sofar⟩ := started_before step origin unheld held
    rw [keeps _ _ held unended,← run_concat step]
    have later := lasts pre first (mid ++ [op]) after (by simp [split]) begun
    have extended : pre ++ first :: mid ++ [op] = pre ++ first :: (mid ++ [op]) := by simp
    rw [extended]
    apply later
    rw [along_append]
    refine ⟨sofar,?_,trivial⟩
    rw [← run_append]
    simpa using unended
  · intro met pre op mid post split begun unended
    subst split
    have begins : pre ++ op :: (mid ++ post) = pre ++ [op] ++ (mid ++ post) := by simp
    rw [begins,along_append] at met
    have kept := ((along_append step _ _ mid post).mp met.2).1
    have first : Held (run step start (pre ++ [op])) := by
      rw [run_concat]
      exact sets _ op begun
    have through : run step start (pre ++ op :: mid) = run step (run step start (pre ++ [op])) mid := by
      rw [← run_append]
      simp
    rw [through]
    have both : Along step (fun s op => (Held s → ¬ ends s op → P s op) ∧ ¬ ends s op) (run step start (pre ++ [op])) mid := by
      rw [along_iff]
      intro earlier next later parts
      exact ⟨along_at step kept parts,along_at step unended parts⟩
    apply invariant_run step _ first both
    intro s op held fits
    exact (keeps s op held fits.2).mp (fits.1 held fits.2)

end rules
end RevPilot.Library.Runs
