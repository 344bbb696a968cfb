import RevPilot.Library.Runs

/-! Cooperative programs: a coroutine is a tree of calls to its surroundings,
each with the continuation that takes the reply. A call either suspends the
coroutine (other coroutines may run before it goes on) or is a synchronous
access to shared memory. `exec` runs one coroutine alone; a `Pool` interleaves
any number of them, one turn of one coroutine at a time. -/
namespace RevPilot.Library.Program
open Runs

inductive Prog (C : Type) (R : C → Type) (E A : Type) : Type
  | ret (value : A)
  | raise (error : E)
  | await (call : C) (resume : R call → Prog C R E A)

namespace Prog
variable {C : Type} {R : C → Type} {E A B : Type}

def bind : Prog C R E A → (A → Prog C R E B) → Prog C R E B
  | .ret value, next => next value
  | .raise error, _ => .raise error
  | .await call resume, next => .await call (fun reply => (resume reply).bind next)

/-- The `try`/`except` of the source: the handler takes over at the first error. -/
def handle : Prog C R E A → (E → Prog C R E A) → Prog C R E A
  | .ret value, _ => .ret value
  | .raise error, handler => handler error
  | .await call resume, handler => .await call (fun reply => (resume reply).handle handler)

def call (c : C) : Prog C R E (R c) := .await c .ret

/-- The coroutine has returned normally. -/
def returned : Prog C R E A → Bool
  | .ret _ => true
  | _ => false

instance : Monad (Prog C R E) where
  pure := .ret
  bind := bind

instance : MonadExcept E (Prog C R E) where
  throw := .raise
  tryCatch := handle

/-- The call a coroutine waits on. -/
def pending : Prog C R E A → Option C
  | .await c _ => some c
  | _ => none

/-- A pure computation that may fail, as a program without calls. -/
def ofExcept : Except E A → Prog C R E A
  | .ok value => .ret value
  | .error error => .raise error

@[simp] theorem pure_eq (value : A) : (pure value : Prog C R E A) = .ret value := rfl

@[simp] theorem throw_eq (error : E) : (throw error : Prog C R E A) = .raise error := rfl

@[simp] theorem ret_bind (value : A) (next : A → Prog C R E B) :
    (Prog.ret value >>= next : Prog C R E B) = next value := rfl

@[simp] theorem raise_bind (error : E) (next : A → Prog C R E B) :
    (Prog.raise error >>= next : Prog C R E B) = .raise error := rfl

@[simp] theorem await_bind (c : C) (resume : R c → Prog C R E A) (next : A → Prog C R E B) :
    (Prog.await c resume >>= next : Prog C R E B) = .await c (fun reply => resume reply >>= next) := rfl

@[simp] theorem call_bind (c : C) (next : R c → Prog C R E B) :
    (call c >>= next : Prog C R E B) = .await c next := rfl

@[simp] theorem ofExcept_ok (value : A) : (ofExcept (.ok value) : Prog C R E A) = .ret value := rfl

@[simp] theorem ofExcept_error (error : E) :
    (ofExcept (.error error) : Prog C R E A) = .raise error := rfl

section sequential
variable {W : Type} (serve : (c : C) → W → R c × W)

/-- One coroutine run alone to its end, every call served in turn. -/
def exec : Prog C R E A → W → Except E A × W
  | .ret value, w => (.ok value,w)
  | .raise error, w => (.error error,w)
  | .await c resume, w => (resume (serve c w).1).exec (serve c w).2

@[simp] theorem exec_ret (value : A) (w : W) :
    (Prog.ret value : Prog C R E A).exec serve w = (.ok value,w) := rfl

@[simp] theorem exec_raise (error : E) (w : W) :
    (Prog.raise error : Prog C R E A).exec serve w = (.error error,w) := rfl

@[simp] theorem exec_await (c : C) (resume : R c → Prog C R E A) (w : W) :
    (Prog.await c resume).exec serve w = (resume (serve c w).1).exec serve (serve c w).2 := rfl

theorem exec_bind (prog : Prog C R E A) (next : A → Prog C R E B) (w : W) :
    (prog >>= next).exec serve w =
      match prog.exec serve w with
      | (.ok value,w') => (next value).exec serve w'
      | (.error error,w') => (.error error,w') := by
  induction prog generalizing w with
  | ret value => rfl
  | raise error => rfl
  | await c resume ih =>
    simp only [await_bind,exec_await]
    exact ih (serve c w).1 (serve c w).2

theorem exec_handle (prog : Prog C R E A) (handler : E → Prog C R E A) (w : W) :
    (prog.handle handler).exec serve w =
      match prog.exec serve w with
      | (.ok value,w') => (.ok value,w')
      | (.error error,w') => (handler error).exec serve w' := by
  induction prog generalizing w with
  | ret value => rfl
  | raise error => rfl
  | await c resume ih => exact ih (serve c w).1 (serve c w).2

/-- Dropping the result changes nothing in the world. -/
theorem exec_discard (prog : Prog C R E A) (w : W) :
    ((prog >>= fun _ => Prog.ret () : Prog C R E Unit).exec serve w).2 = (prog.exec serve w).2 := by
  rw [exec_bind]
  rcases prog.exec serve w with ⟨outcome,after⟩
  cases outcome <;> rfl

end sequential
end Prog

/-- The surroundings of a pool of coroutines: `serve` answers a call, with a free
choice `O` of what the outside does, and `suspends` marks the calls that are
awaited. -/
structure Server (W O C : Type) (R : C → Type) where
  serve : O → (c : C) → W → R c × W
  suspends : C → Bool

structure Pool (W C : Type) (R : C → Type) (E A : Type) where
  world : W
  threads : List (Prog C R E A)

section pool
variable {W O C : Type} {R : C → Type} {E A : Type} (server : Server W O C R)

/-- The synchronous stretch of a coroutine up to its next suspension. -/
def settle (o : O) : Prog C R E A → W → Prog C R E A × W
  | .await c resume, w =>
    if server.suspends c then (.await c resume,w)
    else settle o (resume (server.serve o c w).1) (server.serve o c w).2
  | .ret value, w => (.ret value,w)
  | .raise error, w => (.raise error,w)

/-- One turn: the chosen coroutine gets the reply to the call it waits on and
runs up to its next suspension. A finished or missing coroutine does nothing. -/
def turn (pool : Pool W C R E A) (choice : Nat × O) : Pool W C R E A :=
  match pool.threads[choice.1]? with
  | some (.await c resume) =>
    let answered := server.serve choice.2 c pool.world
    let settled := settle server choice.2 (resume answered.1) answered.2
    ⟨settled.2,pool.threads.set choice.1 settled.1⟩
  | _ => pool

/-- What one turn can do: nothing, or one call of one coroutine. -/
theorem turn_cases (pool : Pool W C R E A) (choice : Nat × O) :
    turn server pool choice = pool ∨
      ∃ c resume, pool.threads[choice.1]? = some (.await c resume) ∧
        turn server pool choice =
          ⟨(settle server choice.2 (resume (server.serve choice.2 c pool.world).1)
              (server.serve choice.2 c pool.world).2).2,
            pool.threads.set choice.1
              (settle server choice.2 (resume (server.serve choice.2 c pool.world).1)
                (server.serve choice.2 c pool.world).2).1⟩ := by
  unfold turn
  split
  next c resume found => exact .inr ⟨c,resume,found,rfl⟩
  next => exact .inl rfl

theorem settle_suspended {o : O} (always : ∀ c, server.suspends c = true)
    (prog : Prog C R E A) (w : W) : settle server o prog w = (prog,w) := by
  cases prog <;> simp [settle,always]

/-- With every call awaited a turn is exactly one call. -/
theorem turn_suspended (always : ∀ c, server.suspends c = true)
    (pool : Pool W C R E A) (choice : Nat × O) :
    turn server pool choice = pool ∨
      ∃ c resume, pool.threads[choice.1]? = some (.await c resume) ∧
        turn server pool choice =
          ⟨(server.serve choice.2 c pool.world).2,
            pool.threads.set choice.1 (resume (server.serve choice.2 c pool.world).1)⟩ := by
  have cases := turn_cases server pool choice
  simpa only [settle_suspended server always] using cases

/-- The coroutines after a turn are the old ones but for the one that moved. -/
theorem getElem?_set_cases {threads : List (Prog C R E A)} {i j : Nat} {moved found : Prog C R E A}
    (at_j : (threads.set i moved)[j]? = some found) :
    (j = i ∧ found = moved) ∨ (j ≠ i ∧ threads[j]? = some found) := by
  rw [List.getElem?_set] at at_j
  split at at_j
  next same =>
    split at at_j
    next bound => cases at_j; exact .inl ⟨same.symm,rfl⟩
    next outside => cases at_j
  next other => exact .inr ⟨Ne.symm other,at_j⟩

/-- Every coroutine of the pool is, in the present world, what its place allows. -/
def Owned (T : Nat → W → Prog C R E A → Prop) (pool : Pool W C R E A) : Prop :=
  ∀ (i : Nat) (prog : Prog C R E A), pool.threads[i]? = some prog → T i pool.world prog

/-- A coroutine that waits on nothing but an awaited call. -/
def Settled (prog : Prog C R E A) : Prop := ∀ c, prog.pending = some c → server.suspends c = true

/-- Every call that is served while a coroutine settles meets `P`. -/
def Serves (P : O → C → W → Prop) (o : O) : Prog C R E A → W → Prop
  | .await c resume, w =>
    if server.suspends c then True
    else P o c w ∧ Serves P o (resume (server.serve o c w).1) (server.serve o c w).2
  | .ret _, _ => True
  | .raise _, _ => True

/-- Every call that is served in one turn meets `P`, which may look at the pool as it
was before the turn. -/
def Meets (P : Pool W C R E A → Nat → O → C → W → Prop) (pool : Pool W C R E A) (choice : Nat × O) : Prop :=
  match pool.threads[choice.1]? with
  | some (.await c resume) =>
    P pool choice.1 choice.2 c pool.world ∧
      Serves server (P pool choice.1) choice.2 (resume (server.serve choice.2 c pool.world).1)
        (server.serve choice.2 c pool.world).2
  | _ => True

theorem serves_true (o : O) (prog : Prog C R E A) (w : W) : Serves server (fun _ _ _ => True) o prog w := by
  induction prog generalizing w with
  | ret value => trivial
  | raise error => trivial
  | await c resume ih =>
    unfold Serves
    split
    · trivial
    · exact ⟨trivial,ih _ _⟩

/-- What every call keeps holds when the coroutine has settled. -/
theorem settle_keeps {P : O → C → W → Prop} {J : W → Prog C R E A → Prop} {o : O}
    (keeps : ∀ c resume w, P o c w → J w (.await c resume) →
      J (server.serve o c w).2 (resume (server.serve o c w).1))
    (prog : Prog C R E A) (w : W) (met : Serves server P o prog w) (holds : J w prog) :
    J (settle server o prog w).2 (settle server o prog w).1 ∧ Settled server (settle server o prog w).1 := by
  induction prog generalizing w with
  | ret value => exact ⟨holds,fun _ none => nomatch none⟩
  | raise error => exact ⟨holds,fun _ none => nomatch none⟩
  | await c resume ih =>
    unfold Serves at met
    unfold settle
    by_cases awaited : server.suspends c = true
    · rw [if_pos awaited]
      refine ⟨holds,?_⟩
      rintro _ ⟨rfl⟩
      exact awaited
    · rw [if_neg awaited] at met ⊢
      exact ih _ _ met.2 (keeps c resume w met.1 holds)

/-- The rule for turns: a running coroutine is as `T` says and a waiting one as `S`
says. If a call that meets `P` keeps the invariant `I` and `T` for the coroutine that
makes it, and `S` for every other one, then a turn keeps `I` and `S`. -/
theorem turn_keeps {P : Pool W C R E A → Nat → O → C → W → Prop} {I : W → Prop}
    {T S : Nat → W → Prog C R E A → Prop}
    (own : ∀ pool i o c resume w, P pool i o c w → I w → T i w (.await c resume) →
      I (server.serve o c w).2 ∧ T i (server.serve o c w).2 (resume (server.serve o c w).1))
    (others : ∀ pool i j o c resume w prog, i ≠ j → pool.threads[j]? = some prog → P pool i o c w →
      T i w (.await c resume) → S j w prog → S j (server.serve o c w).2 prog)
    (running : ∀ i w prog, S i w prog → T i w prog)
    (resting : ∀ i w prog, Settled server prog → T i w prog → S i w prog)
    (pool : Pool W C R E A) (choice : Nat × O) (met : Meets server P pool choice)
    (holds : I pool.world ∧ Owned S pool) :
    I (turn server pool choice).world ∧ Owned S (turn server pool choice) := by
  obtain ⟨kept,owned⟩ := holds
  rcases turn_cases server pool choice with same | ⟨c,resume,moving,moved⟩
  · rw [same]
    exact ⟨kept,owned⟩
  · unfold Meets at met
    rw [moving] at met
    -- one statement about the world, the running coroutine and all the others
    let J : W → Prog C R E A → Prop := fun w prog => I w ∧ T choice.1 w prog ∧
      ∀ j other, choice.1 ≠ j → pool.threads[j]? = some other → S j w other
    have keeps : ∀ c resume w, P pool choice.1 choice.2 c w → J w (.await c resume) →
        J (server.serve choice.2 c w).2 (resume (server.serve choice.2 c w).1) := by
      rintro c resume w meets ⟨invariant,runs,wait⟩
      have next := own pool choice.1 choice.2 c resume w meets invariant runs
      exact ⟨next.1,next.2,fun j other apart found =>
        others pool choice.1 j choice.2 c resume w other apart found meets runs (wait j other apart found)⟩
    have first : J pool.world (.await c resume) :=
      ⟨kept,running _ _ _ (owned _ _ moving),fun j other _ found => owned j other found⟩
    obtain ⟨⟨invariant,runs,wait⟩,settled⟩ := settle_keeps server keeps _ _ met.2 (keeps c resume _ met.1 first)
    rw [moved]
    refine ⟨invariant,?_⟩
    intro j prog at_j
    rcases getElem?_set_cases at_j with ⟨rfl,rfl⟩ | ⟨apart,old⟩
    · exact resting _ _ _ settled runs
    · exact wait j prog (Ne.symm apart) old

/-- A turn keeps what is allowed, if a call keeps it for the coroutine that makes
the call and for every other one. -/
theorem owned_turn {T : Nat → W → Prog C R E A → Prop}
    (own : ∀ i o c resume w, T i w (.await c resume) →
      T i (server.serve o c w).2 (resume (server.serve o c w).1))
    (others : ∀ i j o c resume w prog, i ≠ j → T i w (.await c resume) → T j w prog →
      T j (server.serve o c w).2 prog)
    (pool : Pool W C R E A) (choice : Nat × O) (owned : Owned T pool) :
    Owned T (turn server pool choice) := by
  have met : Meets server (fun _ _ _ _ _ => True) pool choice := by
    unfold Meets
    split
    · exact ⟨trivial,serves_true server _ _ _⟩
    · trivial
  have kept := turn_keeps server (I := fun _ => True) (T := T) (S := T)
    (fun _ i o c resume w _ _ allowed => ⟨trivial,own i o c resume w allowed⟩)
    (fun _ i j o c resume w prog apart _ _ mine theirs => others i j o c resume w prog apart mine theirs)
    (fun _ _ _ allowed => allowed) (fun _ _ _ _ allowed => allowed) pool choice met ⟨trivial,owned⟩
  exact kept.2

end pool
end RevPilot.Library.Program
