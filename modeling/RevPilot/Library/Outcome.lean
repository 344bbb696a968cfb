import Mathlib.Data.List.Basic
import Mathlib.Data.List.Forall2

/-! Computations that end in a value or raise: what a value says of their steps. -/
namespace RevPilot.Library.Outcome

universe u
variable {ε ε' : Type} {α β : Type u}

@[simp] theorem bind_eq_ok {x : Except ε α} {f : α → Except ε β} {b : β} :
    (x >>= f) = .ok b ↔ ∃ a, x = .ok a ∧ f a = .ok b := by
  cases x with
  | error e => simp [bind,Except.bind]
  | ok a => simp [bind,Except.bind]

@[simp] theorem pure_eq_ok {a b : α} : (pure a : Except ε α) = .ok b ↔ a = b := by
  simp [pure,Except.pure]

@[simp] theorem throw_ne_ok {e : ε} {a : α} : (throw e : Except ε α) ≠ .ok a := by
  simp [throw,throwThe,MonadExceptOf.throw]

@[simp] theorem mapError_eq_ok {x : Except ε α} {f : ε → ε'} {a : α} : x.mapError f = .ok a ↔ x = .ok a := by
  cases x <;> simp [Except.mapError]

@[simp] theorem throw_bind {e : ε} {f : α → Except ε β} : (throw e : Except ε α) >>= f = throw e := rfl

/-- Two steps that raise nothing but `e` may change places. -/
theorem bind_comm {γ : Type u} {e : ε} {x : Except ε α} {y : Except ε β} (first : ∀ e', x = .error e' → e' = e)
    (second : ∀ e', y = .error e' → e' = e) (f : α → β → Except ε γ) :
    (x >>= fun a => y >>= fun b => f a b) = y >>= fun b => x >>= fun a => f a b := by
  cases x with
  | ok a => rfl
  | error e₁ =>
    cases y with
    | ok b => rfl
    | error e₂ =>
      cases first e₁ rfl
      cases second e₂ rfl
      rfl

theorem map_eq_ok {x : Except ε α} {f : α → β} {b : β} : x.map f = .ok b ↔ ∃ a, x = .ok a ∧ f a = b := by
  cases x <;> simp [Except.map]

theorem throw_map {e : ε} {f : α → β} : f <$> (throw e : Except ε α) = throw e := rfl

/-- A check that raises is passed. -/
@[simp] theorem guard_eq_ok {p : Prop} [Decidable p] {e : ε} {x : Except ε α} {a : α} :
    (if p then throw e else x) = .ok a ↔ ¬ p ∧ x = .ok a := by
  by_cases here : p <;> simp [here]

/-- Every element has a value. -/
theorem mapM_eq_ok {f : α → Except ε β} {xs : List α} {ys : List β} :
    xs.mapM f = .ok ys ↔ xs.map f = ys.map .ok := by
  induction xs generalizing ys with
  | nil =>
    rw [List.mapM_nil,pure_eq_ok]
    cases ys <;> simp
  | cons x xs ih =>
    rw [List.mapM_cons,bind_eq_ok]
    simp only [bind_eq_ok,pure_eq_ok,ih,List.map_cons]
    constructor
    · rintro ⟨y,first,rest,others,rfl⟩
      simp [first,others]
    · intro same
      cases ys with
      | nil => simp at same
      | cons y ys =>
        obtain ⟨first,others⟩ := List.cons.inj same
        exact ⟨y,first,ys,others,rfl⟩

theorem mapM_forall₂ {f : α → Except ε β} {xs : List α} {ys : List β} :
    xs.mapM f = .ok ys ↔ List.Forall₂ (fun x y => f x = .ok y) xs ys := by
  rw [mapM_eq_ok,← List.forall₂_eq_eq_eq,List.forall₂_map_left_iff,List.forall₂_map_right_iff]

/-- The values of a rearranged list are the rearranged values. -/
theorem mapM_perm {f : α → Except ε β} {xs xs' : List α} {ys : List β} (perm : xs.Perm xs')
    (ok : xs.mapM f = .ok ys) : ∃ ys', xs'.mapM f = .ok ys' ∧ ys.Perm ys' := by
  rw [mapM_eq_ok] at ok
  simp only [mapM_eq_ok]
  induction perm generalizing ys with
  | nil => exact ⟨ys,ok,.refl ys⟩
  | cons x _ ih =>
    cases ys with
    | nil => cases ok
    | cons y ys =>
      obtain ⟨first,others⟩ := List.cons.inj ok
      obtain ⟨zs,ok',perm'⟩ := ih others
      exact ⟨y :: zs,by simp [first,ok'],perm'.cons y⟩
  | swap x x' xs =>
    cases ys with
    | nil => cases ok
    | cons y ys =>
      cases ys with
      | nil => simp at ok
      | cons y' ys =>
        obtain ⟨first,rest⟩ := List.cons.inj ok
        obtain ⟨second,others⟩ := List.cons.inj rest
        exact ⟨y' :: y :: ys,by simp [first,second,others],.swap y' y ys⟩
  | trans _ _ ih ih' =>
    obtain ⟨zs,ok',perm'⟩ := ih ok
    obtain ⟨ws,ok'',perm''⟩ := ih' ok'
    exact ⟨ws,ok'',perm'.trans perm''⟩

/-- Whatever is raised meets a condition. -/
def Raises (P : ε → Prop) (x : Except ε α) : Prop := ∀ e, x = .error e → P e

section raises
variable {P : ε → Prop}

theorem raises_ok (a : α) : Raises P (.ok a : Except ε α) := by
  intro e raised
  cases raised

theorem raises_error {e : ε} (holds : P e) : Raises P (.error e : Except ε α) := by
  intro e' raised
  cases raised
  exact holds

theorem raises_bind {x : Except ε α} {f : α → Except ε β} (first : Raises P x) (rest : ∀ a, Raises P (f a)) :
    Raises P (x >>= f) := by
  cases x with
  | error e => exact raises_error (first e rfl)
  | ok a => exact rest a

theorem raises_mapError {x : Except ε α} {f : ε → ε'} {P : ε' → Prop} (first : Raises (fun e => P (f e)) x) :
    Raises P (x.mapError f) := by
  cases x with
  | error e => exact raises_error (first e rfl)
  | ok a => exact raises_ok a

end raises

end RevPilot.Library.Outcome
