import RevPilot.Library.Program

/-! Call protocols of cooperative programs. A protocol says which calls a program may
make in a stage and which stage each reply leads to; a program that follows it does so
against any replies, so a stage can be tied to what other coroutines do meanwhile. -/
namespace RevPilot.Library.Program

/-- The calls allowed in a stage, with the stage each reply leads to. -/
abbrev Protocol (St C : Type) (R : C → Type) := St → (c : C) → Option (R c → St)

section follows
variable {St C : Type} {R : C → Type} {E A B : Type} (protocol : Protocol St C R)

/-- From the stage on the program keeps to the protocol, and returns only where `post`
holds of the result and the stage. -/
def Follows (post : A → St → Prop) : Prog C R E A → St → Prop
  | .ret value, stage => post value stage
  | .raise _, _ => True
  | .await c resume, stage =>
    ∃ after, protocol stage c = some after ∧ ∀ reply, Follows post (resume reply) (after reply)

variable {protocol}

@[simp] theorem follows_raise (post : A → St → Prop) (error : E) (stage : St) :
    Follows protocol post (.raise error : Prog C R E A) stage := trivial

theorem follows_await {post : A → St → Prop} {c : C} {resume : R c → Prog C R E A} {stage : St}
    (after : R c → St) (allowed : protocol stage c = some after)
    (rest : ∀ reply, Follows protocol post (resume reply) (after reply)) :
    Follows protocol post (.await c resume) stage := ⟨after,allowed,rest⟩

theorem follows_mono {post weaker : A → St → Prop} (weak : ∀ value stage, post value stage → weaker value stage)
    {prog : Prog C R E A} {stage : St} (follows : Follows protocol post prog stage) :
    Follows protocol weaker prog stage := by
  induction prog generalizing stage with
  | ret value => exact weak value stage follows
  | raise error => trivial
  | await c resume ih =>
    obtain ⟨after,allowed,rest⟩ := follows
    exact ⟨after,allowed,fun reply => ih reply (rest reply)⟩

/-- Sequence: the second program starts in the stage in which the first returns. -/
theorem follows_bind {post : B → St → Prop} {prog : Prog C R E A} {next : A → Prog C R E B} {stage : St}
    (first : Follows protocol (fun value stage => Follows protocol post (next value) stage) prog stage) :
    Follows protocol post (prog >>= next) stage := by
  induction prog generalizing stage with
  | ret value => exact first
  | raise error => trivial
  | await c resume ih =>
    obtain ⟨after,allowed,rest⟩ := first
    exact ⟨after,allowed,fun reply => ih reply (rest reply)⟩

theorem follows_ofExcept {post : A → St → Prop} {result : Except E A} {stage : St}
    (holds : ∀ value, result = .ok value → post value stage) :
    Follows protocol post (Prog.ofExcept result : Prog C R E A) stage := by
  cases result with
  | ok value => exact holds value rfl
  | error error => trivial

end follows
end RevPilot.Library.Program

/-! Coroutines as part of larger ones: a program whose calls are some of the calls of
a larger system, and the rule that carries a protocol over to it. The rules for turns and runs of
a pool whose coroutines follow protocols. -/
namespace RevPilot.Library.Program
open Prog Runs

section embedding
variable {C D : Type} {R : C → Type} {Q : D → Type} {E A St : Type} (f : C → D) (back : ∀ c, Q (f c) → R c)

def Prog.embed : Prog C R E A → Prog D Q E A
  | .ret value => .ret value
  | .raise error => .raise error
  | .await c resume => .await (f c) (fun reply => (resume (back c reply)).embed)

theorem follows_embed {small : Protocol St C R} {large : Protocol St D Q}
    (same : ∀ stage c after, small stage c = some after → large stage (f c) = some (fun reply => after (back c reply)))
    {post : A → St → Prop} {prog : Prog C R E A} {stage : St} (follows : Follows small post prog stage) :
    Follows large post (prog.embed f back) stage := by
  induction prog generalizing stage with
  | ret value => exact follows
  | raise error => trivial
  | await c resume ih =>
    obtain ⟨after,allowed,rest⟩ := follows
    exact follows_await _ (same stage c after allowed) fun reply => ih _ (rest _)

end embedding

section turns
variable {W O C : Type} {R : C → Type} {E A St : Type} {server : Server W O C R}

/-- Each coroutine follows its protocol from a stage that it may rely on. -/
def Stands (protocol : Nat → Protocol St C R) (holds : Nat → St → W → Prop) (i : Nat) (w : W) (prog : Prog C R E A) :
    Prop :=
  ∃ stage, Follows (protocol i) (fun _ _ => True) prog stage ∧ holds i stage w

variable {protocol : Nat → Protocol St C R} {holds : Nat → St → W → Prop} {guard : Nat → O → C → W → Prop}
  {rel : Nat → W → W → Prop}

/-- The rule for turns: what every guarded call does to the world is in the relation of
its coroutine, and every coroutine may go on relying on its stage. -/
theorem turn_stands (refl : ∀ i w, rel i w w) (trans : ∀ i u v w, rel i u v → rel i v w → rel i u w)
    (own : ∀ i o c w stage after, protocol i stage c = some after → guard i o c w → holds i stage w →
      rel i w (server.serve o c w).2 ∧ holds i (after (server.serve o c w).1) (server.serve o c w).2)
    (others : ∀ i j o c w stage after other, protocol i stage c = some after → guard i o c w → holds i stage w →
      holds j other w → holds j other (server.serve o c w).2)
    (pool : Pool W C R E A) (choice : Nat × O) (met : Meets server (fun _ => guard) pool choice)
    (stands : Owned (Stands protocol holds) pool) :
    rel choice.1 pool.world (turn server pool choice).world ∧ Owned (Stands protocol holds) (turn server pool choice) := by
  rcases turn_cases server pool choice with same | ⟨c,resume,moving,moved⟩
  · rw [same]
    exact ⟨refl _ _,stands⟩
  · have started := stands choice.1 _ moving
    unfold Meets at met
    rw [moving] at met
    -- the world so far, the running coroutine and all the others
    let J : W → Prog C R E A → Prop := fun w prog => rel choice.1 pool.world w ∧ Stands protocol holds choice.1 w prog ∧
      ∀ j other, choice.1 ≠ j → pool.threads[j]? = some other → Stands protocol holds j w other
    have keeps : ∀ c resume w, guard choice.1 choice.2 c w → J w (.await c resume) →
        J (server.serve choice.2 c w).2 (resume (server.serve choice.2 c w).1) := by
      rintro c resume w guarded ⟨before,⟨stage,⟨after,allowed,rest⟩,known⟩,wait⟩
      have next := own choice.1 choice.2 c w stage after allowed guarded known
      refine ⟨trans _ _ _ _ before next.1,⟨_,rest _,next.2⟩,?_⟩
      intro j other apart found
      obtain ⟨place,follows,relied⟩ := wait j other apart found
      exact ⟨place,follows,others choice.1 j choice.2 c w stage after place allowed guarded known relied⟩
    have first : J pool.world (.await c resume) := ⟨refl _ _,started,fun j other _ found => stands j other found⟩
    obtain ⟨⟨related,runs,wait⟩,_⟩ := settle_keeps server keeps _ _ met.2 (keeps c resume _ met.1 first)
    rw [moved]
    refine ⟨related,?_⟩
    intro j prog at_j
    rcases getElem?_set_cases at_j with ⟨rfl,rfl⟩ | ⟨apart,old⟩
    · exact runs
    · exact wait j prog (Ne.symm apart) old

/-- The rule for runs: every turn of a guarded run is in the relation of its coroutine. -/
theorem run_stands (refl : ∀ i w, rel i w w) (trans : ∀ i u v w, rel i u v → rel i v w → rel i u w)
    (own : ∀ i o c w stage after, protocol i stage c = some after → guard i o c w → holds i stage w →
      rel i w (server.serve o c w).2 ∧ holds i (after (server.serve o c w).1) (server.serve o c w).2)
    (others : ∀ i j o c w stage after other, protocol i stage c = some after → guard i o c w → holds i stage w →
      holds j other w → holds j other (server.serve o c w).2)
    (pool : Pool W C R E A) (schedule : List (Nat × O)) (stands : Owned (Stands protocol holds) pool)
    (guarded : Along (turn server) (Meets server (fun _ => guard)) pool schedule) :
    Along (turn server) (fun pool choice => rel choice.1 pool.world (turn server pool choice).world) pool schedule := by
  induction schedule generalizing pool with
  | nil => trivial
  | cons choice schedule ih =>
    have step := turn_stands refl trans own others pool choice guarded.1 stands
    exact ⟨step.1,ih _ step.2 guarded.2⟩

end turns
end RevPilot.Library.Program
