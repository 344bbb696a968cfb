import Mathlib.Algebra.Order.Monoid.Canonical.Defs
import Mathlib.Logic.Relation
import RevPilot.Library.Program

/-! One coroutine whose memory others change while it is suspended: triples for its
program against every such change and every answer, and what a stretch between two
suspensions does. -/
namespace RevPilot.Library.Program
open Relation

/-- The changes of the memory while a coroutine is suspended, and the answers that the
call it waits on can get. -/
structure Surroundings (W O C : Type) where
  changes : W → W → Prop
  answers : O → C → W → Prop

/-- Where a coroutine may suspend, and which calls may be served to it. -/
structure Duty (W O C : Type) where
  suspended : C → W → Prop
  served : O → C → W → Prop

section sound
variable {W O C : Type} {R : C → Type} {E A B : Type} (server : Server W O C R)
  (around : Surroundings W O C) (duty : Duty W O C)

/-- Whatever happens outside, the coroutine keeps its duty, returns as `done` says and
raises as `raised` says. -/
def Sound (done : A → W → Prop) (raised : E → W → Prop) : Prog C R E A → O → W → Prop
  | .ret value, _, w => done value w
  | .raise error, _, w => raised error w
  | .await c resume, o, w =>
    if server.suspends c then
      duty.suspended c w ∧ ∀ w', ReflTransGen around.changes w w' → ∀ o', around.answers o' c w' →
        duty.served o' c w' ∧ Sound done raised (resume (server.serve o' c w').1) o' (server.serve o' c w').2
    else duty.served o c w ∧ Sound done raised (resume (server.serve o c w).1) o (server.serve o c w).2

/-- What a sound coroutine still owes at a suspension, after some changes of the memory. -/
def Resting (done : A → W → Prop) (raised : E → W → Prop) : Prog C R E A → W → Prop
  | .ret value, w => done value w
  | .raise error, w => raised error w
  | .await c resume, w =>
    ∀ w', ReflTransGen around.changes w w' → ∀ o', around.answers o' c w' →
      duty.served o' c w' ∧
        Sound server around duty done raised (resume (server.serve o' c w').1) o' (server.serve o' c w').2

def Triple (pre : W → Prop) (prog : Prog C R E A) (done : A → W → Prop) (raised : E → W → Prop) : Prop :=
  ∀ o w, pre w → Sound server around duty done raised prog o w

/-- The states of the memory in the stretch of a coroutine up to its next suspension. -/
def passed (o : O) : Prog C R E A → W → List W
  | .await c resume, w =>
    if server.suspends c then []
    else (server.serve o c w).2 :: passed o (resume (server.serve o c w).1) (server.serve o c w).2
  | .ret _, _ => []
  | .raise _, _ => []

variable {server around duty}

/-- What every change keeps is kept by all of them. -/
theorem changes_keep {P : W → Prop} (stable : ∀ w w', around.changes w w' → P w → P w') {w w' : W}
    (changed : ReflTransGen around.changes w w') (holds : P w) : P w' := by
  induction changed with
  | refl => exact holds
  | tail _ change ih => exact stable _ _ change ih

/-- A call leaves the caller a program that is sound for what it owes. -/
theorem sound_await {done : A → W → Prop} {done' : B → W → Prop} {raised raised' : E → W → Prop} {c : C}
    {resume : R c → Prog C R E A} {resume' : R c → Prog C R E B} {o : O} {w : W}
    (sound : Sound server around duty done raised (.await c resume) o w)
    (goes : ∀ reply {o w}, Sound server around duty done raised (resume reply) o w →
      Sound server around duty done' raised' (resume' reply) o w) :
    Sound server around duty done' raised' (.await c resume') o w := by
  unfold Sound at sound ⊢
  by_cases awaited : server.suspends c = true
  · rw [if_pos awaited] at sound ⊢
    refine ⟨sound.1,?_⟩
    intro w' changed o' answered
    have after := sound.2 w' changed o' answered
    exact ⟨after.1,goes _ after.2⟩
  · rw [if_neg awaited] at sound ⊢
    exact ⟨sound.1,goes _ sound.2⟩

theorem sound_mono {done done' : A → W → Prop} {raised raised' : E → W → Prop}
    (returns : ∀ value w, done value w → done' value w) (raises : ∀ error w, raised error w → raised' error w)
    {prog : Prog C R E A} {o : O} {w : W} (sound : Sound server around duty done raised prog o w) :
    Sound server around duty done' raised' prog o w := by
  induction prog generalizing o w with
  | ret value => exact returns value w sound
  | raise error => exact raises error w sound
  | await c resume ih =>
    exact sound_await sound ih

/-- Sequence: the second program starts where the first returns. -/
theorem sound_bind {done : B → W → Prop} {raised : E → W → Prop} {prog : Prog C R E A}
    {next : A → Prog C R E B} {o : O} {w : W}
    (sound : Sound server around duty (fun value w => ∀ o, Sound server around duty done raised (next value) o w)
      raised prog o w) :
    Sound server around duty done raised (prog >>= next) o w := by
  induction prog generalizing o w with
  | ret value => exact sound o
  | raise error => exact sound
  | await c resume ih =>
    rw [Prog.await_bind]
    exact sound_await sound ih

theorem sound_handle {done : A → W → Prop} {raised : E → W → Prop} {prog : Prog C R E A}
    {handler : E → Prog C R E A} {o : O} {w : W}
    (sound : Sound server around duty done
      (fun error w => ∀ o, Sound server around duty done raised (handler error) o w) prog o w) :
    Sound server around duty done raised (prog.handle handler) o w := by
  induction prog generalizing o w with
  | ret value => exact sound
  | raise error => exact sound o
  | await c resume ih =>
    exact sound_await sound ih

namespace Triple
variable {pre : W → Prop} {raised : E → W → Prop}

theorem bind {mid : A → W → Prop} {done : B → W → Prop} {prog : Prog C R E A} {next : A → Prog C R E B}
    (first : Triple server around duty pre prog mid raised)
    (second : ∀ value, Triple server around duty (mid value) (next value) done raised) :
    Triple server around duty pre (prog >>= next) done raised := by
  intro o w holds
  apply sound_bind
  exact sound_mono (fun value w met o => second value o w met) (fun _ _ met => met) (first o w holds)

theorem mono {pre' : W → Prop} {done done' : A → W → Prop} {raised' : E → W → Prop} {prog : Prog C R E A}
    (triple : Triple server around duty pre prog done raised) (stronger : ∀ w, pre' w → pre w)
    (returns : ∀ value w, done value w → done' value w) (raises : ∀ error w, raised error w → raised' error w) :
    Triple server around duty pre' prog done' raised' :=
  fun o w holds => sound_mono returns raises (triple o w (stronger w holds))

theorem weaken {pre' : W → Prop} {done : A → W → Prop} {prog : Prog C R E A}
    (triple : Triple server around duty pre prog done raised) (stronger : ∀ w, pre' w → pre w) :
    Triple server around duty pre' prog done raised := fun o w holds => triple o w (stronger w holds)

theorem handle {mid : E → W → Prop} {done : A → W → Prop} {prog : Prog C R E A} {handler : E → Prog C R E A}
    (body : Triple server around duty pre prog done mid)
    (handled : ∀ error, Triple server around duty (mid error) (handler error) done raised) :
    Triple server around duty pre (prog.handle handler) done raised := by
  intro o w holds
  apply sound_handle
  exact sound_mono (fun _ _ met => met) (fun error w met o => handled error o w met) (body o w holds)

theorem ret {done : A → W → Prop} {value : A} (holds : ∀ w, pre w → done value w) :
    Triple server around duty pre (.ret value : Prog C R E A) done raised := fun _ w met => holds w met

theorem raise {done : A → W → Prop} {error : E} (holds : ∀ w, pre w → raised error w) :
    Triple server around duty pre (.raise error : Prog C R E A) done raised := fun _ w met => holds w met

/-- A synchronous call. -/
theorem await {done : A → W → Prop} {c : C} {resume : R c → Prog C R E A} (synchronous : server.suspends c = false)
    (allowed : ∀ o w, pre w → duty.served o c w)
    (rest : ∀ o w, pre w →
      Sound server around duty done raised (resume (server.serve o c w).1) o (server.serve o c w).2) :
    Triple server around duty pre (.await c resume) done raised := by
  intro o w holds
  unfold Sound
  rw [if_neg (by simp [synchronous])]
  exact ⟨allowed o w holds,rest o w holds⟩

/-- A suspension: `mid` holds through the changes until the answer. -/
theorem suspend {mid : W → Prop} {done : A → W → Prop} {c : C} {resume : R c → Prog C R E A}
    (awaited : server.suspends c = true) (held : ∀ w, pre w → duty.suspended c w) (enters : ∀ w, pre w → mid w)
    (stable : ∀ w w', around.changes w w' → mid w → mid w')
    (allowed : ∀ o w, around.answers o c w → mid w → duty.served o c w)
    (rest : ∀ o w, around.answers o c w → mid w →
      Sound server around duty done raised (resume (server.serve o c w).1) o (server.serve o c w).2) :
    Triple server around duty pre (.await c resume) done raised := by
  intro o w holds
  unfold Sound
  rw [if_pos awaited]
  refine ⟨held w holds,?_⟩
  intro w' changed o' answered
  have there : mid w' := changes_keep stable changed (enters w holds)
  exact ⟨allowed o' w' answered there,rest o' w' answered there⟩

end Triple

/-- A sound coroutine rests at its next suspension, and may be suspended there. -/
theorem sound_settle {done : A → W → Prop} {raised : E → W → Prop} {prog : Prog C R E A} {o : O} {w : W}
    (sound : Sound server around duty done raised prog o w) :
    Resting server around duty done raised (settle server o prog w).1 (settle server o prog w).2 ∧
      ∀ c, (settle server o prog w).1.pending = some c → duty.suspended c (settle server o prog w).2 := by
  induction prog generalizing w with
  | ret value => exact ⟨sound,fun _ waits => nomatch waits⟩
  | raise error => exact ⟨sound,fun _ waits => nomatch waits⟩
  | await c resume ih =>
    unfold Sound at sound
    unfold settle
    by_cases awaited : server.suspends c = true
    · rw [if_pos awaited] at sound ⊢
      refine ⟨sound.2,?_⟩
      rintro _ ⟨rfl⟩
      exact sound.1
    · rw [if_neg awaited] at sound ⊢
      exact ih _ sound.2

/-- A change of the memory leaves a suspended coroutine resting. -/
theorem resting_changes {done : A → W → Prop} {raised : E → W → Prop} {prog : Prog C R E A} {w w' : W} {c : C}
    (resting : Resting server around duty done raised prog w) (waits : prog.pending = some c)
    (change : around.changes w w') : Resting server around duty done raised prog w' := by
  cases prog with
  | ret value => cases waits
  | raise error => cases waits
  | await c resume =>
    intro w'' changed o answered
    exact resting w'' (.head change changed) o answered

/-- What every served call does to the memory is done between any two states of a stretch. -/
theorem sound_passed {done : A → W → Prop} {raised : E → W → Prop} {K : W → W → Prop}
    (served : ∀ o c w, duty.served o c w → K w (server.serve o c w).2)
    {prog : Prog C R E A} {o : O} {w : W} (sound : Sound server around duty done raised prog o w) :
    List.IsChain K (w :: passed server o prog w) := by
  induction prog generalizing w with
  | ret value => exact .singleton w
  | raise error => exact .singleton w
  | await c resume ih =>
    unfold Sound at sound
    unfold passed
    by_cases awaited : server.suspends c = true
    · rw [if_pos awaited]
      exact .singleton w
    · rw [if_neg awaited] at sound ⊢
      exact .cons_cons (served o c w sound.1) (ih _ sound.2)

theorem settle_passed (prog : Prog C R E A) (o : O) (w : W) :
    (passed server o prog w).getLastD w = (settle server o prog w).2 := by
  induction prog generalizing w with
  | ret value => rfl
  | raise error => rfl
  | await c resume ih =>
    unfold passed settle
    by_cases awaited : server.suspends c = true
    · rw [if_pos awaited,if_pos awaited]
      rfl
    · rw [if_neg awaited,if_neg awaited,List.getLastD_cons]
      exact ih _ _

/-- Settling leaves the end of a coroutine that runs alone as it was. -/
theorem exec_settle {serve : (c : C) → W → R c × W} {o : O}
    (agrees : ∀ c w, server.suspends c = false → server.serve o c w = serve c w) (prog : Prog C R E A) (w : W) :
    (settle server o prog w).1.exec serve (settle server o prog w).2 = prog.exec serve w := by
  induction prog generalizing w with
  | ret value => rfl
  | raise error => rfl
  | await c resume ih =>
    unfold settle
    by_cases awaited : server.suspends c = true
    · rw [if_pos awaited]
    · rw [if_neg awaited,Prog.exec_await,← agrees c w (by simpa using awaited)]
      exact ih _ _

theorem settle_bind_raise {prog : Prog C R E A} {next : A → Prog C R E B} {o : O} {w w' : W} {error : E}
    (raises : settle server o prog w = (.raise error,w')) :
    settle server o (prog >>= next) w = (.raise error,w') := by
  induction prog generalizing w with
  | ret value => cases raises
  | raise error => simpa [settle] using raises
  | await c resume ih =>
    rw [Prog.await_bind]
    unfold settle at raises ⊢
    by_cases awaited : server.suspends c = true
    · rw [if_pos awaited] at raises
      cases raises
    · rw [if_neg awaited] at raises ⊢
      exact ih _ raises

theorem settle_handle_raise {prog : Prog C R E A} {handler : E → Prog C R E A} {o : O} {w w' : W} {error : E}
    (raises : settle server o prog w = (.raise error,w')) :
    settle server o (prog.handle handler) w = settle server o (handler error) w' := by
  induction prog generalizing w with
  | ret value => cases raises
  | raise error =>
    cases raises
    rfl
  | await c resume ih =>
    unfold Prog.handle
    unfold settle at raises
    by_cases awaited : server.suspends c = true
    · rw [if_pos awaited] at raises
      cases raises
    · rw [if_neg awaited] at raises
      rw [settle,if_neg awaited]
      exact ih _ raises

end sound

section metered
variable {W O C : Type} {R : C → Type} {E A B : Type} {M : Type} [AddCommMonoid M] [PartialOrder M]
  (price : C → M → Prop)

/-- Along every path of the program the prices of its calls add up to `left` at most. -/
def Metered : M → Prog C R E A → Prop
  | left, .await c resume =>
    ∃ cost rest, price c cost ∧ cost + rest ≤ left ∧ ∀ reply, Metered rest (resume reply)
  | _, .ret _ => True
  | _, .raise _ => True

variable {price}

theorem metered_mono {left more : M} (enough : left ≤ more) {prog : Prog C R E A} (metered : Metered price left prog) :
    Metered price more prog := by
  cases prog with
  | ret value => trivial
  | raise error => trivial
  | await c resume =>
    obtain ⟨cost,rest,priced,paid,follows⟩ := metered
    exact ⟨cost,rest,priced,paid.trans enough,follows⟩

theorem metered_call {c : C} {cost : M} (priced : price c cost) :
    Metered price cost (Prog.call c : Prog C R E (R c)) :=
  ⟨cost,0,priced,(add_zero cost).le,fun _ => trivial⟩

theorem metered_ofExcept (outcome : Except E A) (left : M) :
    Metered price left (Prog.ofExcept outcome : Prog C R E A) := by
  cases outcome with
  | ok value => trivial
  | error error => trivial

/-- If paying for a call moves the memory from `I left` to `I rest`, then so does a stretch
of a metered coroutine, in each of its states. -/
theorem settle_metered {I : M → W → Prop} {server : Server W O C R}
    (pays : ∀ o c w cost rest left, price c cost → cost + rest ≤ left → I left w → I rest (server.serve o c w).2)
    {prog : Prog C R E A} {left : M} (metered : Metered price left prog) {w : W} (holds : I left w) (o : O) :
    (∃ rest, Metered price rest (settle server o prog w).1 ∧ I rest (settle server o prog w).2) ∧
      ∀ w' ∈ passed server o prog w, ∃ rest, I rest w' := by
  induction prog generalizing left w with
  | ret value => exact ⟨⟨left,trivial,holds⟩,fun _ none => absurd none List.not_mem_nil⟩
  | raise error => exact ⟨⟨left,trivial,holds⟩,fun _ none => absurd none List.not_mem_nil⟩
  | await c resume ih =>
    unfold settle passed
    by_cases awaited : server.suspends c = true
    · rw [if_pos awaited,if_pos awaited]
      exact ⟨⟨left,metered,holds⟩,fun _ none => absurd none List.not_mem_nil⟩
    · rw [if_neg awaited,if_neg awaited]
      obtain ⟨cost,rest,priced,paid,after⟩ := metered
      have served := pays o c w cost rest left priced paid holds
      have later := ih (server.serve o c w).1 (after _) served
      refine ⟨later.1,?_⟩
      intro w' member
      rcases List.mem_cons.mp member with rfl | member
      · exact ⟨rest,served⟩
      · exact later.2 w' member

variable [IsOrderedAddMonoid M] [CanonicallyOrderedAdd M]

theorem metered_bind {first second : M} {prog : Prog C R E A} {next : A → Prog C R E B}
    (metered : Metered price first prog) (follows : ∀ value, Metered price second (next value)) :
    Metered price (first + second) (prog >>= next) := by
  induction prog generalizing first with
  | ret value => exact metered_mono le_add_self (follows value)
  | raise error => trivial
  | await c resume ih =>
    obtain ⟨cost,rest,priced,paid,after⟩ := metered
    refine ⟨cost,rest + second,priced,?_,fun reply => ih reply (after reply)⟩
    rw [← add_assoc]
    exact add_le_add_left paid second

theorem metered_handle {first second : M} {prog : Prog C R E A} {handler : E → Prog C R E A}
    (metered : Metered price first prog) (follows : ∀ error, Metered price second (handler error)) :
    Metered price (first + second) (prog.handle handler) := by
  induction prog generalizing first with
  | ret value => trivial
  | raise error => exact metered_mono le_add_self (follows error)
  | await c resume ih =>
    obtain ⟨cost,rest,priced,paid,after⟩ := metered
    refine ⟨cost,rest + second,priced,?_,fun reply => ih reply (after reply)⟩
    rw [← add_assoc]
    exact add_le_add_left paid second

/-- A free program does not change what the next one may spend. -/
theorem free_bind {left : M} {prog : Prog C R E A} {next : A → Prog C R E B} (free : Metered price 0 prog)
    (follows : ∀ value, Metered price left (next value)) : Metered price left (prog >>= next) := by
  have both := metered_bind free follows
  rwa [zero_add] at both

end metered
end RevPilot.Library.Program
