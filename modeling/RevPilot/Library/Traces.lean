import RevPilot.Library.Program
import Mathlib.Data.List.Chain

/-! The worlds a coroutine passes through, one after each of its calls, and those a
run of coroutines passes through one after the other. A relation that each single
call keeps is kept between any two of them if it is transitive. -/
namespace RevPilot.Library.Program
open Runs

variable {C : Type} {R : C → Type} {E A B W : Type} (serve : (c : C) → W → R c × W)

namespace Prog

def trace : Prog C R E A → W → List W
  | .ret _, _ => []
  | .raise _, _ => []
  | .await c resume, w => (serve c w).2 :: (resume (serve c w).1).trace (serve c w).2

/-- The calls of a coroutine that runs alone, in order. -/
def calls : Prog C R E A → W → List C
  | .ret _, _ => []
  | .raise _, _ => []
  | .await c resume, w => c :: (resume (serve c w).1).calls (serve c w).2

/-- Every call of the coroutine keeps the relation. -/
def Steady (T : W → W → Prop) : Prog C R E A → W → Prop
  | .ret _, _ => True
  | .raise _, _ => True
  | .await c resume, w => T w (serve c w).2 ∧ (resume (serve c w).1).Steady T (serve c w).2

variable {serve} {T : W → W → Prop}

@[simp] theorem steady_ret (value : A) (w : W) : (Prog.ret value : Prog C R E A).Steady serve T w := trivial

@[simp] theorem steady_raise (error : E) (w : W) : (Prog.raise error : Prog C R E A).Steady serve T w := trivial

@[simp] theorem steady_await (c : C) (resume : R c → Prog C R E A) (w : W) :
    (Prog.await c resume).Steady serve T w ↔
      T w (serve c w).2 ∧ (resume (serve c w).1).Steady serve T (serve c w).2 := Iff.rfl

@[simp] theorem steady_ofExcept (x : Except E A) (w : W) : (ofExcept x : Prog C R E A).Steady serve T w := by
  cases x <;> trivial

theorem steady_bind (prog : Prog C R E A) (next : A → Prog C R E B) (w : W) :
    (prog >>= next).Steady serve T w ↔
      prog.Steady serve T w ∧ ∀ v w', prog.exec serve w = (.ok v,w') → (next v).Steady serve T w' := by
  induction prog generalizing w with
  | ret value =>
    constructor
    · intro rest
      refine ⟨trivial,?_⟩
      intro v w' same
      cases same
      exact rest
    · intro both
      exact both.2 value w rfl
  | raise error =>
    refine ⟨fun _ => ⟨trivial,?_⟩,fun _ => trivial⟩
    intro v w' same
    cases same
  | await c resume ih =>
    rw [await_bind,steady_await,ih,steady_await,exec_await,and_assoc]

/-- What holds in every world a coroutine passes through holds in the last one. -/
theorem steady_exec {P : W → Prop} {prog : Prog C R E A} {w : W} (steady : prog.Steady serve (fun _ w' => P w') w)
    (start : P w) : P (prog.exec serve w).2 := by
  induction prog generalizing w with
  | ret value => exact start
  | raise error => exact start
  | await c resume ih => exact ih _ steady.2 steady.1

/-- The rule for a first part whose run is known. -/
theorem steady_bind_ok {prog : Prog C R E A} {next : A → Prog C R E B} {w w' : W} {v : A}
    (run : prog.exec serve w = (.ok v,w')) (steady : prog.Steady serve T w) :
    (prog >>= next).Steady serve T w ↔ (next v).Steady serve T w' := by
  rw [steady_bind,and_iff_right steady]
  constructor
  · intro rest
    exact rest v w' run
  · intro rest u w'' same
    obtain ⟨rfl,rfl⟩ : v = u ∧ w' = w'' := by simpa [run] using same
    exact rest

/-- A relation between neighbours that the calls keep. -/
theorem chain_trace_append (prog : Prog C R E A) (w : W) (rest : List W) :
    (w :: (prog.trace serve w ++ rest)).IsChain T ↔
      prog.Steady serve T w ∧ ((prog.exec serve w).2 :: rest).IsChain T := by
  induction prog generalizing w with
  | ret value => simp [trace]
  | raise error => simp [trace]
  | await c resume ih =>
    simp only [trace,List.cons_append,List.isChain_cons_cons,steady_await,exec_await,ih,and_assoc]

/-- Whatever the surroundings reply, the coroutine makes only such calls. -/
def Calls (P : C → Prop) : Prog C R E A → Prop
  | .ret _ => True
  | .raise _ => True
  | .await c resume => P c ∧ ∀ reply, (resume reply).Calls P

section calls
variable {P : C → Prop} {I : W → Prop}

@[simp] theorem calls_ret (value : A) : (Prog.ret value : Prog C R E A).Calls P := trivial

@[simp] theorem calls_raise (error : E) : (Prog.raise error : Prog C R E A).Calls P := trivial

@[simp] theorem calls_await (c : C) (resume : R c → Prog C R E A) :
    (Prog.await c resume).Calls P ↔ P c ∧ ∀ reply, (resume reply).Calls P := Iff.rfl

@[simp] theorem calls_call (c : C) : (call c : Prog C R E (R c)).Calls P ↔ P c := by
  simp [call]

@[simp] theorem calls_ofExcept (x : Except E A) : (ofExcept x : Prog C R E A).Calls P := by
  cases x <;> trivial

theorem calls_bind {prog : Prog C R E A} {next : A → Prog C R E B} (first : prog.Calls P)
    (rest : ∀ v, (next v).Calls P) : (prog >>= next).Calls P := by
  induction prog with
  | ret value => exact rest value
  | raise error => trivial
  | await c resume ih => exact ⟨first.1,fun reply => ih reply (first.2 reply)⟩

theorem calls_mono {Q : C → Prop} (weaker : ∀ c, P c → Q c) {prog : Prog C R E A} (calls : prog.Calls P) :
    prog.Calls Q := by
  induction prog with
  | ret value => trivial
  | raise error => trivial
  | await c resume ih => exact ⟨weaker c calls.1,fun reply => ih reply (calls.2 reply)⟩

/-- An invariant under which such calls keep the relation. -/
theorem steady_of_calls (keeps : ∀ c w, P c → I w → T w (serve c w).2 ∧ I (serve c w).2) {prog : Prog C R E A}
    (calls : prog.Calls P) {w : W} (start : I w) : prog.Steady serve T w := by
  induction prog generalizing w with
  | ret value => trivial
  | raise error => trivial
  | await c resume ih =>
    have step := keeps c w calls.1 start
    exact ⟨step.1,ih _ (calls.2 _) step.2⟩

/-- What every call keeps, a coroutine keeps. -/
theorem exec_invariant (keeps : ∀ c w, I w → I (serve c w).2) (prog : Prog C R E A) {w : W} (start : I w) :
    I (prog.exec serve w).2 := by
  induction prog generalizing w with
  | ret value => exact start
  | raise error => exact start
  | await c resume ih => exact ih _ (keeps c w start)

theorem exec_of_calls (keeps : ∀ c w, P c → I w → I (serve c w).2) {prog : Prog C R E A} (calls : prog.Calls P)
    {w : W} (start : I w) : I (prog.exec serve w).2 := by
  induction prog generalizing w with
  | ret value => exact start
  | raise error => exact start
  | await c resume ih => exact ih _ (calls.2 _) (keeps c w calls.1 start)

end calls
end Prog

section runs
variable {O : Type} (prog : O → Prog C R E A)

/-- One operation is its coroutine run alone to the end. -/
def perform (w : W) (op : O) : W := ((prog op).exec serve w).2

def visits : W → List O → List W
  | _, [] => []
  | w, op :: ops => (prog op).trace serve w ++ visits (perform serve prog w op) ops

theorem chain_visits (T : W → W → Prop) (w : W) (ops : List O) :
    (w :: visits serve prog w ops).IsChain T ↔
      Along (perform serve prog) (fun w op => (prog op).Steady serve T w) w ops := by
  induction ops generalizing w with
  | nil => simp [visits,Along]
  | cons op ops ih =>
    rw [visits,Prog.chain_trace_append,Along]
    exact and_congr_right fun _ => ih (perform serve prog w op)

/-- A transitive relation holds from every world a run passes through to every later
one exactly when each call of each operation keeps it. -/
theorem pairwise_visits (T : W → W → Prop) [IsTrans W T] (w : W) (ops : List O) :
    (w :: visits serve prog w ops).Pairwise T ↔
      Along (perform serve prog) (fun w op => (prog op).Steady serve T w) w ops := by
  rw [← List.isChain_iff_pairwise,chain_visits]

end runs
end RevPilot.Library.Program
