/-!
# Histories

A system moves in steps. An action asks for a step; the step may be impossible, and it may put
something out, such as log lines. A history is a list of actions taken one after the other.

* **`History.run?`** — the state at the end of a history, and what was put out on the way;
* **`History.visited`** — the states of a history, one after the other;
* **`History.Along`** — a condition on every step of a history;
* **`History.Always`** — a condition on every state of a history;
* **`History.count`** — how often something happens in a history;
* **`History.kept`** — what is left of a history when some of its steps are dropped, and
  **`History.RunsWithout`** — the rest goes on as it did.

`along_of_invariant` turns a fact about one step into a fact about every step of every history, and
`balance_of_run?` turns an equation for one step into an equation for a whole history. A counter is at
most the number of steps: `le_add_length_of_run?`.
`runsWithout_of_unnoticed` is about two histories: where some steps are not noticed, the others are
the same without them.
-/

namespace DeviceQuota.History

variable {State Action Output : Type}

/-- The state after a history and what its steps put out; `none` where a step is impossible. -/
def run? (step? : State → Action → Option (State × List Output)) :
    List Action → State → Option (State × List Output)
  | [], s => some (s, [])
  | action :: actions, s =>
    (step? s action).bind fun (after, outputs) =>
      (run? step? actions after).map fun (last, later) => (last, outputs ++ later)

/-- The states of a history, the first and the last included, up to the first impossible step. -/
def visited (step? : State → Action → Option (State × List Output)) :
    List Action → State → List State
  | [], s => [s]
  | action :: actions, s =>
    s :: (step? s action).elim [] fun moved => visited step? actions moved.1

/-- Every step of a history, up to the first impossible one, satisfies `P`. The condition sees the
state before the step, the action, the state after the step and what the step puts out. -/
def Along (step? : State → Action → Option (State × List Output))
    (P : State → Action → State → List Output → Prop) : List Action → State → Prop
  | [], _ => True
  | action :: actions, s =>
    ∀ moved ∈ step? s action, P s action moved.1 moved.2 ∧ Along step? P actions moved.1

/-- Every state of a history, the first and the last included, satisfies `R`. -/
def Always (step? : State → Action → Option (State × List Output)) (R : State → Prop)
    (actions : List Action) (s : State) : Prop :=
  R s ∧ Along step? (fun _ _ after _ => R after) actions s

/-- How many steps of a history, up to the first impossible one, satisfy `p`. -/
def count (step? : State → Action → Option (State × List Output)) (p : State → Action → Bool) :
    List Action → State → Nat
  | [], _ => 0
  | action :: actions, s =>
    match step? s action with
    | none => 0
    | some (after, _) => (p s action).toNat + count step? p actions after

/-- The steps of a history, up to the first impossible one, that are not dropped, each with what it
puts out. -/
def kept (step? : State → Action → Option (State × List Output))
    (dropped : State → Action → Bool) : List Action → State → List (Action × List Output)
  | [], _ => []
  | action :: actions, s =>
    match step? s action with
    | none => []
    | some (after, outputs) =>
      if dropped s action then kept step? dropped actions after
      else (action, outputs) :: kept step? dropped actions after

/-- Without the dropped steps of a history, each of the others puts out what it did, and the end is
alike. -/
def RunsWithout (step? : State → Action → Option (State × List Output))
    (dropped : State → Action → Bool) (Alike : State → State → Prop) (actions : List Action)
    (s : State) : Prop :=
  ∀ last outputs, run? step? actions s = some (last, outputs) →
    let rest := kept step? dropped actions s
    kept step? dropped (rest.map Prod.fst) s = rest ∧
      ∃ alone, run? step? (rest.map Prod.fst) s = some (alone, rest.flatMap Prod.snd) ∧
        Alike last alone

variable {step? : State → Action → Option (State × List Output)}
  {P Q : State → Action → State → List Output → Prop}

instance decidableAlong [∀ s action after outputs, Decidable (P s action after outputs)] :
    ∀ (actions : List Action) (s : State), Decidable (Along step? P actions s)
  | [], _ => inferInstanceAs (Decidable True)
  | action :: actions, s =>
    have := fun after => decidableAlong actions after
    inferInstanceAs (Decidable
      (∀ moved ∈ step? s action, P s action moved.1 moved.2 ∧ Along step? P actions moved.1))

instance decidableAlways {R : State → Prop} [DecidablePred R] (actions : List Action) (s : State) :
    Decidable (Always step? R actions s) :=
  inferInstanceAs (Decidable (_ ∧ _))

@[simp] theorem run?_nil (s : State) : run? step? [] s = some (s, []) := rfl

/-- **The invariant rule.** An invariant that every step keeps while the steps satisfy `P` holds
before every step, so that all that a step does from a state of the invariant is done along the
whole history. -/
theorem along_of_invariant {I : State → Prop}
    (hstep : ∀ s action after outputs, step? s action = some (after, outputs) → I s →
      P s action after outputs → I after ∧ Q s action after outputs) :
    ∀ (actions : List Action) (s : State), I s → Along step? P actions s →
      Along step? Q actions s := by
  intro actions
  induction actions with
  | nil =>
    intro s _ _
    trivial
  | cons action actions ih =>
    intro s hs hP moved hmoved
    obtain ⟨hhead, htail⟩ := hP moved hmoved
    obtain ⟨hafter, hQ⟩ := hstep s action moved.1 moved.2 hmoved hs hhead
    exact ⟨hQ, ih moved.1 hafter htail⟩

/-- The condition that says nothing. -/
theorem along_true (actions : List Action) (s : State) :
    Along step? (fun _ _ _ _ => True) actions s := by
  induction actions generalizing s with
  | nil => trivial
  | cons action actions ih => exact fun moved _ => ⟨trivial, ih moved.1⟩

/-- A condition on steps that follows from another one. -/
theorem Along.mono (h : ∀ s action after outputs, P s action after outputs →
    Q s action after outputs) {actions : List Action} {s : State}
    (hP : Along step? P actions s) : Along step? Q actions s :=
  along_of_invariant (I := fun _ => True) (fun s action after outputs _ _ hP =>
    ⟨trivial, h s action after outputs hP⟩) actions s trivial hP

/-- Two conditions on steps are one. -/
theorem Along.and {actions : List Action} {s : State} (hP : Along step? P actions s)
    (hQ : Along step? Q actions s) :
    Along step? (fun s action after outputs => P s action after outputs ∧ Q s action after outputs)
      actions s := by
  induction actions generalizing s with
  | nil => trivial
  | cons action actions ih =>
    intro moved hmoved
    obtain ⟨hPhead, hPtail⟩ := hP moved hmoved
    obtain ⟨hQhead, hQtail⟩ := hQ moved hmoved
    exact ⟨⟨hPhead, hQhead⟩, ih hPtail hQtail⟩

/-- A condition on all actions of a history is one on its steps. -/
theorem along_of_forall_mem {R : Action → Prop} {actions : List Action} {s : State}
    (h : ∀ action ∈ actions, R action) : Along step? (fun _ action _ _ => R action) actions s := by
  induction actions generalizing s with
  | nil => trivial
  | cons action actions ih =>
    intro moved _
    exact ⟨h action (by simp), ih fun other hother => h other (by simp [hother])⟩

theorem head?_visited (actions : List Action) (s : State) :
    (visited step? actions s).head? = some s := by
  cases actions <;> rfl

variable {actions : List Action} {s last : State} {outputs : List Output}

theorem exists_of_run?_cons {action : Action}
    (h : run? step? (action :: actions) s = some (last, outputs)) :
    ∃ after logged later, step? s action = some (after, logged) ∧
      run? step? actions after = some (last, later) := by
  obtain ⟨⟨after, logged⟩, hhead, htail⟩ := Option.bind_eq_some_iff.1 h
  obtain ⟨⟨_, later⟩, hrun, hend⟩ := Option.map_eq_some_iff.1 htail
  obtain ⟨rfl, -⟩ := Prod.mk.inj hend
  exact ⟨after, logged, later, hhead, hrun⟩

/-- Where every step is possible, every history is. -/
theorem isSome_run? (htotal : ∀ s action, (step? s action).isSome = true) (actions : List Action)
    (s : State) : (run? step? actions s).isSome = true := by
  induction actions generalizing s with
  | nil => rfl
  | cons action actions ih =>
    obtain ⟨moved, hhead⟩ := Option.isSome_iff_exists.1 (htotal s action)
    simp only [run?, hhead, Option.bind_some, Option.isSome_map, ih]

/-- What every step keeps holds at the end of a history. -/
theorem invariant_of_run? {I : State → Prop}
    (hstep : ∀ s action after outputs, step? s action = some (after, outputs) → I s → I after)
    (h : run? step? actions s = some (last, outputs)) (hs : I s) : I last := by
  induction actions generalizing s outputs with
  | nil =>
    obtain ⟨rfl, -⟩ := Prod.mk.inj (Option.some.inj h)
    exact hs
  | cons action actions ih =>
    obtain ⟨after, logged, later, hhead, hrun⟩ := exists_of_run?_cons h
    exact ih hrun (hstep s action after logged hhead hs)

/-! ### Counting -/

variable {p q : State → Action → Bool}

/-- **The balance rule.** Two quantities of the state drift apart by one with every step that counts,
and together again with every step that counts on the other side. -/
theorem balance_of_run? {f g : State → Nat}
    (hstep : ∀ s action after outputs, step? s action = some (after, outputs) →
      f after + g s + (p s action).toNat = f s + g after + (q s action).toNat)
    (h : run? step? actions s = some (last, outputs)) :
    f last + g s + count step? p actions s = f s + g last + count step? q actions s := by
  induction actions generalizing s outputs with
  | nil =>
    obtain ⟨rfl, -⟩ := Prod.mk.inj (Option.some.inj h)
    rfl
  | cons action actions ih =>
    obtain ⟨after, logged, later, hhead, hrun⟩ := exists_of_run?_cons h
    have hfirst := hstep s action after logged hhead
    have hlater := ih hrun
    simp only [count, hhead]
    omega

/-- **Counters stay below the number of steps.** No step raises the figure by more than one. -/
theorem le_add_length_of_run? {f : State → Nat}
    (hstep : ∀ s action after outputs, step? s action = some (after, outputs) → f after ≤ f s + 1)
    (h : run? step? actions s = some (last, outputs)) : f last ≤ f s + actions.length := by
  induction actions generalizing s outputs with
  | nil =>
    obtain ⟨rfl, -⟩ := Prod.mk.inj (Option.some.inj h)
    exact Nat.le_refl _
  | cons action actions ih =>
    obtain ⟨after, logged, later, hhead, hrun⟩ := exists_of_run?_cons h
    have hfirst := hstep s action after logged hhead
    have hlater := ih hrun
    rw [List.length_cons]
    omega

/-- Where the condition is one on the action alone, the actions are counted. -/
theorem count_eq_countP {r : Action → Bool} (h : run? step? actions s = some (last, outputs)) :
    count step? (fun _ action => r action) actions s = actions.countP r := by
  induction actions generalizing s outputs with
  | nil => rfl
  | cons action actions ih =>
    obtain ⟨after, logged, later, hhead, hrun⟩ := exists_of_run?_cons h
    simp only [count, hhead, ih hrun, List.countP_cons]
    cases r action <;> simp [Nat.add_comm]

/-- What never happens is counted zero times. -/
theorem count_eq_zero_of_along
    (h : Along step? (fun s action _ _ => p s action = false) actions s) :
    count step? p actions s = 0 := by
  induction actions generalizing s with
  | nil => rfl
  | cons action actions ih =>
    cases hhead : step? s action with
    | none => simp only [count, hhead]
    | some moved =>
      obtain ⟨hnot, htail⟩ := h moved hhead
      simp only [count, hhead, hnot, ih htail, Bool.toNat_false]

/-! ### Dropped steps -/

variable {dropped : State → Action → Bool} {action : Action} {after t : State}

theorem run?_cons_of_step? {later : List Output} (hhead : step? s action = some (after, outputs))
    (hrun : run? step? actions after = some (last, later)) :
    run? step? (action :: actions) s = some (last, outputs ++ later) := by
  simp [run?, hhead, hrun]

theorem kept_cons_of_dropped (hhead : step? s action = some (after, outputs))
    (hdropped : dropped s action = true) :
    kept step? dropped (action :: actions) s = kept step? dropped actions after := by
  simp [kept, hhead, hdropped]

theorem kept_cons_of_not_dropped (hhead : step? s action = some (after, outputs))
    (hkept : dropped s action = false) :
    kept step? dropped (action :: actions) s
      = (action, outputs) :: kept step? dropped actions after := by
  simp [kept, hhead, hkept]

section Unnoticed

variable {Alike : State → State → Prop}
  (hdrop : ∀ s t action after outputs, step? s action = some (after, outputs) →
    dropped s action = true → Alike s t → Alike after t)
  (hkeep : ∀ s t action after outputs, step? s action = some (after, outputs) →
    dropped s action = false → Alike s t → dropped t action = false ∧
      ∃ other, step? t action = some (other, outputs) ∧ Alike after other)
include hdrop hkeep

/-- From a state that is alike, the steps that are kept make up a history in which each puts out
what it did before, and which ends alike. -/
theorem run?_kept (h : run? step? actions s = some (last, outputs)) (halike : Alike s t) :
    let rest := kept step? dropped actions s
    kept step? dropped (rest.map Prod.fst) t = rest ∧
      ∃ alone, run? step? (rest.map Prod.fst) t = some (alone, rest.flatMap Prod.snd) ∧
        Alike last alone := by
  induction actions generalizing s t outputs with
  | nil =>
    obtain ⟨rfl, -⟩ := Prod.mk.inj (Option.some.inj h)
    exact ⟨rfl, t, rfl, halike⟩
  | cons action actions ih =>
    obtain ⟨after, logged, later, hhead, hrun⟩ := exists_of_run?_cons h
    cases hdropped : dropped s action with
    | true =>
      rw [kept_cons_of_dropped hhead hdropped]
      exact ih hrun (hdrop s t action after logged hhead hdropped halike)
    | false =>
      obtain ⟨hother, other, hstep, hafter⟩ := hkeep s t action after logged hhead hdropped halike
      obtain ⟨hrest, alone, halone, hlast⟩ := ih hrun hafter
      rw [kept_cons_of_not_dropped hhead hdropped]
      refine ⟨?_, alone, run?_cons_of_step? hstep halone, hlast⟩
      rw [List.map_cons, kept_cons_of_not_dropped hstep hother, hrest]

/-- **Steps that are not noticed can be dropped.** Some states are alike. A dropped step leaves
states alike, and every other step is possible from both of two alike states, with the same outputs
and alike states after it. -/
theorem runsWithout_of_unnoticed (halike : ∀ s, Alike s s) (actions : List Action) (s : State) :
    RunsWithout step? dropped Alike actions s :=
  fun _ _ h => run?_kept hdrop hkeep h (halike s)

end Unnoticed

end DeviceQuota.History
