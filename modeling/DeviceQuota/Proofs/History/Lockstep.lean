import DeviceQuota.History
import Mathlib.Data.List.Forall2

/-!
# Histories in lockstep

Two histories of one system are laid side by side, step by step. Their actions need not be the same:
it is enough that they correspond, and that corresponding actions take corresponding states to
corresponding states, or are impossible in both.

* **`History.Step`** — a step of a history, and **`History.steps`**, all of them, up to the first
  impossible one;
* **`History.lockstep`** — two histories side by side.
-/

namespace DeviceQuota.History

variable {State Action Output : Type}

/-- A step of a history. -/
structure Step (State Action Output : Type) where
  before : State
  action : Action
  after : State
  outputs : List Output

/-- The steps of a history, up to the first impossible one. -/
def steps (step? : State → Action → Option (State × List Output)) :
    List Action → State → List (Step State Action Output)
  | [], _ => []
  | action :: actions, s =>
    match step? s action with
    | none => []
    | some (after, outputs) => ⟨s, action, after, outputs⟩ :: steps step? actions after

/-- Where two actions lead from two states: nowhere, or to steps that satisfy `P` and end in states
that satisfy `R`. -/
def Matched (P : Step State Action Output → Step State Action Output → Prop)
    (R : State → State → Prop) (s t : State) (action other : Action) :
    Option (State × List Output) → Option (State × List Output) → Prop :=
  Option.Rel fun x y => P ⟨s, action, x.1, x.2⟩ ⟨t, other, y.1, y.2⟩ ∧ R x.1 y.1

variable {step? : State → Action → Option (State × List Output)} {R : State → State → Prop}
  {A : Action → Action → Prop} {P : Step State Action Output → Step State Action Output → Prop}

/-- **The lockstep rule.** Actions that correspond are matched wherever the states correspond. Then
two histories of corresponding actions go equally far, and their steps are matched one by one. -/
theorem lockstep
    (hstep : ∀ s t action other, R s t → A action other →
      Matched P R s t action other (step? s action) (step? t other))
    {actions others : List Action} (hactions : List.Forall₂ A actions others) {s t : State}
    (h : R s t) :
    List.Forall₂ P (steps step? actions s) (steps step? others t) ∧
      (run? step? actions s).isSome = (run? step? others t).isSome := by
  induction hactions generalizing s t with
  | nil => exact ⟨.nil, rfl⟩
  | @cons action other actions others hhead _ ih =>
    have hmatched := hstep s t action other h hhead
    simp only [steps, run?]
    generalize step? s action = moved, step? t other = gone at hmatched ⊢
    cases hmatched with
    | none => exact ⟨.nil, rfl⟩
    | some hboth =>
      obtain ⟨hP, hR⟩ := hboth
      obtain ⟨hsteps, hends⟩ := ih hR
      refine ⟨.cons hP hsteps, ?_⟩
      simp only [Option.bind_some, Option.isSome_map, hends]

end DeviceQuota.History
