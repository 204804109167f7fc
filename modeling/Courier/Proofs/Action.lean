import Courier.Transport.Basic

namespace Courier

/-! Actions on a state. Reading it and changing it succeed, and an action that succeeds has
succeeded at each of its steps. -/

theorem get_eq (state : σ) : (get : EStateM ε σ σ) state = .ok state state := rfl

theorem modify_eq (change : σ → σ) (state : σ) :
    (modify change : EStateM ε σ PUnit) state = .ok ⟨⟩ (change state) := rfl

theorem of_bind_eq_ok {action : EStateM ε σ α} {next : α → EStateM ε σ β} {before after : σ}
    {value : β} (ran : (action >>= next) before = .ok value after) :
    ∃ result middle, action before = .ok result middle ∧ next result middle = .ok value after := by
  simp only [Bind.bind, EStateM.bind] at ran
  split at ran
  · next result middle acted => exact ⟨result, middle, acted, ran⟩
  · cases ran

theorem of_bind_pure_eq_error {action : EStateM ε σ α} {make : α → β} {before after : σ} {error : ε}
    (failed : (do return make (← action)) before = .error error after) :
    action before = .error error after := by
  simp only [Bind.bind, EStateM.bind] at failed
  cases ran : action before with
  | ok value middle =>
      rw [ran] at failed
      cases failed
  | error reason middle =>
      rw [ran] at failed
      cases failed
      rfl

theorem attempt_congr {action other : EStateM ε σ α} {state elsewhere : σ}
    (same : action state = other elsewhere) : attempt action state = attempt other elsewhere := by
  rw [attempt, attempt, same]

theorem attempt_bind_pure (action : EStateM ε σ α) (make : α → β) (state : σ) :
    attempt (do return make (← action)) state = attempt action state := by
  simp only [attempt, Bind.bind, EStateM.bind]
  cases action state <;> rfl

/-- What an action leaves as it is, whether it succeeds or fails. -/
def Keeps (view : σ → α) (action : EStateM ε σ β) : Prop :=
  ∀ state, view (attempt action state) = view state

namespace Keeps

variable {view : σ → α}

theorem of_eq_ok {action : EStateM ε σ β} {before after : σ} {value : β}
    (kept : Keeps view action) (ran : action before = .ok value after) :
    view after = view before := by
  have same := kept before
  rwa [attempt, ran] at same

theorem bind {action : EStateM ε σ β} {next : β → EStateM ε σ γ} (kept : Keeps view action)
    (later : ∀ value, Keeps view (next value)) : Keeps view (action >>= next) := by
  intro state
  have first := kept state
  simp only [attempt, Bind.bind, EStateM.bind] at first ⊢
  cases acted : action state with
  | error error after => simpa only [acted] using first
  | ok value after =>
      simp only [acted] at first
      exact (later value after).trans first

theorem pure (value : β) : Keeps view (pure value : EStateM ε σ β) :=
  fun _ => rfl

theorem throw (error : ε) : Keeps view (throw error : EStateM ε σ β) :=
  fun _ => rfl

theorem get : Keeps view (get : EStateM ε σ σ) :=
  fun _ => rfl

theorem modify {change : σ → σ} (kept : ∀ state, view (change state) = view state) :
    Keeps view (modify change : EStateM ε σ PUnit) :=
  kept

theorem always {action : StateM σ β} (kept : ∀ state, view (action state).2 = view state) :
    Keeps view (always action : EStateM ε σ β) :=
  kept

end Keeps

/-- What stays true, whether an action succeeds or fails. -/
def Preserves (holds : σ → Prop) (action : EStateM ε σ β) : Prop :=
  ∀ ⦃state⦄, holds state → holds (attempt action state)

namespace Preserves

variable {holds : σ → Prop}

theorem of_eq_ok {action : EStateM ε σ β} {before after : σ} {value : β}
    (preserved : Preserves holds action) (first : holds before)
    (ran : action before = .ok value after) : holds after := by
  have last := preserved first
  rwa [attempt, ran] at last

theorem bind {action : EStateM ε σ β} {next : β → EStateM ε σ γ}
    (preserved : Preserves holds action) (later : ∀ value, Preserves holds (next value)) :
    Preserves holds (action >>= next) := by
  intro state first
  have middle := preserved first
  simp only [attempt, Bind.bind, EStateM.bind] at middle ⊢
  cases acted : action state with
  | error error after => simpa only [acted] using middle
  | ok value after =>
      simp only [acted] at middle
      exact later value middle

theorem pure (value : β) : Preserves holds (pure value : EStateM ε σ β) :=
  fun _ first => first

theorem throw (error : ε) : Preserves holds (throw error : EStateM ε σ β) :=
  fun _ first => first

theorem get : Preserves holds (get : EStateM ε σ σ) :=
  fun _ first => first

theorem modify {change : σ → σ} (preserved : ∀ ⦃state⦄, holds state → holds (change state)) :
    Preserves holds (modify change : EStateM ε σ PUnit) :=
  preserved

theorem always {action : StateM σ β}
    (preserved : ∀ ⦃state⦄, holds state → holds (action state).2) :
    Preserves holds (always action : EStateM ε σ β) :=
  preserved

end Preserves

def changed (change : σ → σ) : EStateM.Result ε σ α → EStateM.Result ε σ α
  | .ok value state => .ok value (change state)
  | .error error state => .error error (change state)

/-- An action that does the same in a changed state, and leaves that state changed in the same way.
-/
def Overlooks (change : σ → σ) (action : EStateM ε σ β) : Prop :=
  ∀ state, action (change state) = changed change (action state)

namespace Overlooks

variable {change : σ → σ}

theorem attempt {action : EStateM ε σ β} (overlooks : Overlooks change action) (state : σ) :
    attempt action (change state) = change (attempt action state) := by
  rw [Courier.attempt, Courier.attempt, overlooks]
  cases action state <;> rfl

theorem bind {action : EStateM ε σ β} {next : β → EStateM ε σ γ}
    (overlooks : Overlooks change action) (later : ∀ value, Overlooks change (next value)) :
    Overlooks change (action >>= next) := by
  intro state
  simp only [Bind.bind, EStateM.bind, overlooks state]
  cases action state with
  | ok value after => exact later value after
  | error error after => rfl

theorem always {action : StateM σ β}
    (overlooks : ∀ state, action (change state) = (action state).map id change) :
    Overlooks change (always action : EStateM ε σ β) := by
  intro state
  simp only [Courier.always, overlooks]
  rfl

end Overlooks

end Courier
