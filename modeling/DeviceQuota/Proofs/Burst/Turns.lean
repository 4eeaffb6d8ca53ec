import DeviceQuota.Burst
import Mathlib.Algebra.BigOperators.Group.List.Basic
import Mathlib.Algebra.GroupWithZero.Nat

/-!
# The turns of a burst

A turn changes one caller. The number of turns has a bound, whatever their order, as each brings its
caller nearer to the end; and to serve the callers one after the other is one of the orders.

* **`Burst.Taken`** — the six things that a turn can be;
* **`Burst.results`** — what the allocations that are over gave to the callers, recorded or not;
* **`Burst.turnsLeft`** — a bound on the turns to come, lowered by each turn;
* **`Burst.exists_reaches_of_run`** — a run of the scenario is one of the orders.
-/

namespace DeviceQuota

open Scenario (burstPerThread)

/-! ### Callers -/

/-- What a recorded allocation gave to its caller. -/
def Step.result (step : Step) : Outcome := ⟨step.status, step.handle⟩

namespace Stage

/-- The result of an allocation that is over and not recorded. -/
def pending : Stage → List Outcome
  | idle | admitted | answered _ | broken => []
  | returned result => [result]

/-- The turns to the end of the allocation. -/
def turnsLeft : Stage → Nat
  | idle => 0
  | admitted => 3
  | answered _ => 2
  | returned _ => 1
  | broken => 0

/-- The allocation that is under way, as a number. -/
def begun : Stage → Nat
  | idle => 0
  | admitted | answered _ | returned _ | broken => 1

end Stage

namespace Caller

/-- What the allocations that are over gave to a caller. -/
def results (caller : Caller) : List Outcome :=
  caller.steps.map Step.result ++ caller.stage.pending

/-- The number of allocations that a caller began. -/
def begun (caller : Caller) : Nat := caller.steps.length + caller.stage.begun

/-- A bound on the turns that a caller still takes. -/
def turnsLeft (caller : Caller) : Nat :=
  4 * (burstPerThread - caller.begun) + caller.stage.turnsLeft

end Caller

namespace Burst

variable {b after : Burst} {place other : Nat} {caller : Caller} {turn : Turn}
  {steps recorded : List Step}

/-! ### What a turn does -/

/-- What a turn of the caller at a place does. -/
inductive Taken (b : Burst) (place : Nat) : Caller → Turn → Prop where
  | admitted {steps : List Step} {gate : Gate} (hleft : steps.length < burstPerThread)
      (hopen : b.closed place = false) (hpass : b.rig.gate.request b.size = .ok gate) :
      Taken b place ⟨.idle, steps⟩ ⟨⟨.admitted, steps⟩, ⟨gate, b.rig.device⟩,
        if gate.mode.holdsLock then some place else none, []⟩
  | refused {steps : List Step} {why : Denial} (hleft : steps.length < burstPerThread)
      (hopen : b.closed place = false) (hdenied : b.rig.gate.request b.size = .error why) :
      Taken b place ⟨.idle, steps⟩ ⟨⟨.returned ⟨2, 0⟩, steps⟩,
        ⟨b.rig.gate.refuse, b.rig.device⟩, none, []⟩
  | asked {steps : List Step} {real : Outcome} {asked : Device}
      (hreal : b.rig.device.malloc b.size = (.ok real, asked)) :
      Taken b place ⟨.admitted, steps⟩ ⟨⟨.answered real, steps⟩, ⟨b.rig.gate, asked⟩, b.holder, []⟩
  | brokeOff {steps : List Step} {why : Device.Panic} {asked : Device}
      (hbroken : b.rig.device.malloc b.size = (.error why, asked)) :
      Taken b place ⟨.admitted, steps⟩ ⟨⟨.broken, steps⟩, ⟨b.rig.gate, asked⟩,
        if b.holder = some place then none else b.holder, []⟩
  | settled {steps : List Step} {real : Outcome} (hopen : b.closed place = false) :
      Taken b place ⟨.answered real, steps⟩
        ⟨⟨.returned ⟨real.status, if real.status = 0 then real.handle else 0⟩, steps⟩,
          ⟨b.rig.gate.withLedger (b.rig.gate.ledger.settle Rig.mallocSite b.size real).1,
            b.rig.device⟩, none, []⟩
  | recorded {steps : List Step} {result : Outcome} (hopen : b.closed place = false) :
      Taken b place ⟨.returned result, steps⟩
        ⟨⟨.idle, steps ++ [b.record result]⟩, b.rig, b.holder, [b.record result]⟩

theorem taken_of_turn? (h : b.turn? place caller = some turn) : b.Taken place caller turn := by
  unfold turn? at h
  split at h
  · next steps =>
    split at h
    · next hmay =>
      rw [Bool.and_eq_true, decide_eq_true_eq, Bool.not_eq_true'] at hmay
      split at h
      · next gate hpass =>
        obtain rfl := Option.some.inj h
        exact .admitted hmay.1 hmay.2 hpass
      · next why hdenied =>
        obtain rfl := Option.some.inj h
        exact .refused hmay.1 hmay.2 hdenied
    · contradiction
  · next steps =>
    split at h
    · next real asked hreal =>
      obtain rfl := Option.some.inj h
      exact .asked hreal
    · next why asked hbroken =>
      obtain rfl := Option.some.inj h
      exact .brokeOff hbroken
  · next real steps =>
    split at h
    · contradiction
    · next hopen =>
      obtain rfl := Option.some.inj h
      exact .settled (Bool.eq_false_iff.2 hopen)
  · next result steps =>
    split at h
    · contradiction
    · next hopen =>
      obtain rfl := Option.some.inj h
      exact .recorded (Bool.eq_false_iff.2 hopen)
  · contradiction

/-- Each of the six is a turn that can be taken. -/
theorem turn?_of_taken (h : b.Taken place caller turn) : b.turn? place caller = some turn := by
  cases h with
  | admitted hleft hopen hpass => simp only [turn?, hleft, hopen, hpass]; rfl
  | refused hleft hopen hdenied => simp only [turn?, hleft, hopen, hdenied]; rfl
  | asked hreal => simp only [turn?, hreal]
  | brokeOff hbroken => simp only [turn?, hbroken]
  | settled hopen | recorded hopen => simp only [turn?, hopen]; rfl

theorem exists_taken_of_step? (h : b.step? place = some (after, recorded)) :
    ∃ caller turn, b.callers[place]? = some caller ∧ b.Taken place caller turn ∧
      after = b.take place turn := by
  obtain ⟨caller, hcaller, htaken⟩ := Option.bind_eq_some_iff.1 h
  obtain ⟨turn, hturn, hend⟩ := Option.map_eq_some_iff.1 htaken
  exact ⟨caller, turn, hcaller, taken_of_turn? hturn, (Prod.mk.inj hend).1.symm⟩

/-- A caller with something left to do has a turn, unless it has to wait for the ledger or was broken
off. -/
theorem exists_turn? (hopen : b.closed place = false) (hbegun : caller.begun ≤ burstPerThread)
    (hwhole : caller.stage ≠ .broken)
    (hleft : ¬(caller.stage = .idle ∧ caller.steps.length = burstPerThread)) :
    ∃ turn, b.turn? place caller = some turn := by
  obtain ⟨stage, steps⟩ := caller
  cases stage with
  | idle =>
    have hfew : steps.length ≤ burstPerThread := hbegun
    have hmore : steps.length < burstPerThread :=
      Nat.lt_of_le_of_ne hfew fun hall => hleft ⟨rfl, hall⟩
    cases hrequest : b.rig.gate.request b.size with
    | ok gate => exact ⟨_, turn?_of_taken (.admitted hmore hopen hrequest)⟩
    | error why => exact ⟨_, turn?_of_taken (.refused hmore hopen hrequest)⟩
  | admitted =>
    rcases hmalloc : b.rig.device.malloc b.size with ⟨why | real, asked⟩
    · exact ⟨_, turn?_of_taken (.brokeOff hmalloc)⟩
    · exact ⟨_, turn?_of_taken (.asked hmalloc)⟩
  | answered real => exact ⟨_, turn?_of_taken (.settled hopen)⟩
  | returned result => exact ⟨_, turn?_of_taken (.recorded hopen)⟩
  | broken => exact absurd rfl hwhole

/-! ### The callers after a turn -/

theorem getElem?_take_self (h : b.callers[place]? = some caller) (turn : Turn) :
    (b.take place turn).callers[place]? = some turn.caller := by
  obtain ⟨hlt, -⟩ := List.getElem?_eq_some_iff.1 h
  exact List.getElem?_set_self hlt

theorem getElem?_take_of_ne (b : Burst) (turn : Turn) (hne : other ≠ place) :
    (b.take place turn).callers[other]? = b.callers[other]? :=
  List.getElem?_set_ne hne.symm

/-- A caller after a turn is the one who took it, or was there before. -/
theorem getElem?_take_cases (h : (b.take place turn).callers[other]? = some caller) :
    other = place ∧ caller = turn.caller ∨ other ≠ place ∧ b.callers[other]? = some caller := by
  by_cases hplace : other = place
  · subst hplace
    refine .inl ⟨rfl, ?_⟩
    obtain ⟨hlt, hsame⟩ := List.getElem?_eq_some_iff.1 h
    exact hsame.symm.trans (List.getElem_set_self hlt)
  · rw [getElem?_take_of_ne b turn hplace] at h
    exact .inr ⟨hplace, h⟩

/-- What the allocations that are over gave to the callers. -/
def results (b : Burst) : List Outcome := b.callers.flatMap Caller.results

/-- A bound on the turns that are still taken. -/
def turnsLeft (b : Burst) : Nat := (b.callers.map Caller.turnsLeft).sum

/-- One entry replaced by one that gives more. -/
theorem perm_flatMap_set {α β : Type} {f : α → List β} {l : List α} {i : Nat} {x y : α}
    {more : List β} (h : l[i]? = some x) (hgrow : f y = f x ++ more) :
    ((l.set i y).flatMap f).Perm (l.flatMap f ++ more) := by
  induction l generalizing i with
  | nil => simp at h
  | cons z l ih =>
    cases i with
    | zero =>
      obtain rfl : z = x := by simpa using h
      simp only [List.set_cons_zero, List.flatMap_cons, hgrow, List.append_assoc]
      exact List.perm_append_comm.append_left _
    | succ i =>
      simp only [List.set_cons_succ, List.flatMap_cons, List.append_assoc]
      exact (ih (by simpa using h)).append_left _

theorem sum_map_set {α : Type} {f : α → Nat} {l : List α} {i : Nat} {x y : α}
    (h : l[i]? = some x) : ((l.set i y).map f).sum + f x = (l.map f).sum + f y := by
  induction l generalizing i with
  | nil => simp at h
  | cons z l ih =>
    cases i with
    | zero =>
      obtain rfl : z = x := by simpa using h
      simp only [List.set_cons_zero, List.map_cons, List.sum_cons]
      omega
    | succ i =>
      have hrest := ih (i := i) (by simpa using h)
      simp only [List.set_cons_succ, List.map_cons, List.sum_cons]
      omega

/-- The results after a turn that adds some. -/
theorem results_take {more : List Outcome} (h : b.callers[place]? = some caller)
    (hgrow : turn.caller.results = caller.results ++ more) :
    (b.take place turn).results.Perm (b.results ++ more) :=
  perm_flatMap_set h hgrow

/-! ### The number of turns -/

/-- No caller began more than its allocations. -/
def Patient (b : Burst) : Prop :=
  ∀ (place : Nat) (caller : Caller), b.callers[place]? = some caller →
    caller.begun ≤ burstPerThread

theorem patient_new (params : Scenario.Params) : (new params).Patient := by
  intro place caller h
  obtain ⟨-, rfl⟩ := List.mem_replicate.1 (List.mem_of_getElem? h)
  exact Nat.zero_le _

theorem turnsLeft_new (params : Scenario.Params) :
    (new params).turnsLeft = 16 * params.threads := by
  have heach : Caller.turnsLeft .new = 16 := rfl
  rw [turnsLeft, new, List.map_replicate, heach, List.sum_replicate_nat, Nat.mul_comm]

namespace Taken

theorem begun_le (h : b.Taken place caller turn) (hbegun : caller.begun ≤ burstPerThread) :
    turn.caller.begun ≤ burstPerThread := by
  cases h with
  | admitted hleft | refused hleft => exact hleft
  | asked | brokeOff | settled => exact hbegun
  | recorded =>
    simp only [Caller.begun, Stage.begun, List.length_append, List.length_singleton] at hbegun ⊢
    exact hbegun

theorem turnsLeft_lt (h : b.Taken place caller turn) (hbegun : caller.begun ≤ burstPerThread) :
    turn.caller.turnsLeft < caller.turnsLeft := by
  cases h with
  | admitted hleft | refused hleft =>
    simp only [Caller.turnsLeft, Caller.begun, Stage.begun, Stage.turnsLeft]
    omega
  | asked | brokeOff | settled =>
    simp only [Caller.turnsLeft, Caller.begun, Stage.begun, Stage.turnsLeft]
    omega
  | recorded =>
    simp only [Caller.turnsLeft, Caller.begun, Stage.begun, Stage.turnsLeft, List.length_append,
      List.length_singleton] at hbegun ⊢
    omega

end Taken

/-- **Each turn** leaves fewer turns. -/
theorem Patient.of_step? (hpatient : b.Patient) (h : b.step? place = some (after, recorded)) :
    after.Patient ∧ after.turnsLeft < b.turnsLeft := by
  obtain ⟨caller, turn, hcaller, htaken, rfl⟩ := exists_taken_of_step? h
  have hbegun := hpatient place caller hcaller
  constructor
  · intro other now hnow
    obtain ⟨-, rfl⟩ | ⟨-, hbefore⟩ := getElem?_take_cases hnow
    · exact htaken.begun_le hbegun
    · exact hpatient other now hbefore
  · have hfewer := htaken.turnsLeft_lt hbegun
    have hsum : (b.take place turn).turnsLeft + caller.turnsLeft
        = b.turnsLeft + turn.caller.turnsLeft := sum_map_set hcaller
    omega

/-- **The turns come to an end**, whatever their order. -/
theorem Patient.length_turns_le {turns : List Nat} (hpatient : b.Patient)
    (h : History.run? step? turns b = some (after, recorded)) :
    turns.length + after.turnsLeft ≤ b.turnsLeft := by
  induction turns generalizing b recorded with
  | nil =>
    obtain ⟨rfl, -⟩ := Prod.mk.inj (Option.some.inj h)
    simp
  | cons place turns ih =>
    obtain ⟨between, logged, later, hstep, hrun⟩ := History.exists_of_run?_cons h
    obtain ⟨hstill, hfewer⟩ := hpatient.of_step? hstep
    have hrest := ih hstill hrun
    rw [List.length_cons]
    omega

/-! ### One caller after the other -/

/-- Some turns lead from one burst to another. -/
def Reaches (b last : Burst) : Prop :=
  ∃ turns outputs, History.run? step? turns b = some (last, outputs)

theorem Reaches.refl (b : Burst) : b.Reaches b := ⟨[], [], rfl⟩

theorem Reaches.of_step? (h : b.step? place = some (after, recorded)) : b.Reaches after :=
  ⟨[place], recorded ++ [], History.run?_cons_of_step? h rfl⟩

theorem Reaches.head {last : Burst} (hcaller : b.callers[place]? = some caller)
    (htaken : b.Taken place caller turn) (h : (b.take place turn).Reaches last) :
    b.Reaches last := by
  obtain ⟨turns, outputs, hrun⟩ := h
  exact ⟨place :: turns, turn.recorded ++ outputs,
    History.run?_cons_of_step? (step?_of_turn? hcaller (turn?_of_taken htaken)) hrun⟩

theorem Reaches.trans {last : Burst} (h : b.Reaches after) (hlater : after.Reaches last) :
    b.Reaches last := by
  obtain ⟨turns, outputs, hrun⟩ := h
  induction turns generalizing b outputs with
  | nil =>
    obtain ⟨rfl, -⟩ := Prod.mk.inj (Option.some.inj hrun)
    exact hlater
  | cons place turns ih =>
    obtain ⟨between, logged, later, hstep, hrest⟩ := History.exists_of_run?_cons hrun
    obtain ⟨turns, outputs, hrun⟩ := ih later hrest
    exact ⟨place :: turns, logged ++ outputs, History.run?_cons_of_step? hstep hrun⟩

/-- The burst after turns of the caller at a place, which is idle again. -/
def served (b : Burst) (place : Nat) (steps : List Step) (rig : Rig) : Burst :=
  ⟨b.size, rig, b.callers.set place ⟨.idle, steps⟩, none⟩

/-- **A whole allocation** of a caller that nobody interrupts. -/
theorem reaches_served {step : Step} {last : Rig} (hcall : b.rig.allocate b.size = .ok (step, last))
    (hcaller : b.callers[place]? = some ⟨.idle, steps⟩) (hleft : steps.length < burstPerThread)
    (hopen : b.holder = none) : b.Reaches (b.served place (steps ++ [step]) last) := by
  have hfirst := closed_of_holder_eq_none hopen place
  cases hrequest : b.rig.gate.request b.size with
  | ok gate =>
    -- in strict mode the caller itself keeps the ledger locked, in optimistic mode nobody does
    have hmine : ∀ turn : Turn, turn.holder = (if gate.mode.holdsLock then some place else none) →
        (b.take place turn).closed place = false := by
      intro turn hholder
      cases hlock : gate.mode.holdsLock with
      | true => exact closed_of_holder_eq_self (hholder.trans (if_pos hlock))
      | false =>
        refine closed_of_holder_eq_none (hholder.trans (if_neg ?_)) place
        exact Bool.eq_false_iff.1 hlock
    have hadmitted := getElem?_take_self hcaller
    rcases hmalloc : b.rig.device.malloc b.size with ⟨why | real, asked⟩
    · rw [Rig.allocate_of_broken hrequest hmalloc] at hcall
      contradiction
    rw [Rig.allocate_of_passed hrequest hmalloc] at hcall
    obtain ⟨rfl, rfl⟩ := Prod.mk.inj (Except.ok.inj hcall)
    refine .head hcaller (.admitted hleft hfirst hrequest) ?_
    refine .head (hadmitted _) (.asked hmalloc) ?_
    refine .head (getElem?_take_self (hadmitted _) _) (.settled (hmine ⟨_, _, _, []⟩ rfl)) ?_
    refine .head (getElem?_take_self (getElem?_take_self (hadmitted _) _) _) (.recorded rfl) ?_
    simp only [take, served, List.set_set]
    exact .refl _
  | error why =>
    rw [Rig.allocate_of_denied hrequest] at hcall
    obtain ⟨rfl, rfl⟩ := Prod.mk.inj (Except.ok.inj hcall)
    refine .head hcaller (.refused hleft hfirst hrequest) ?_
    refine .head (getElem?_take_self hcaller _) (.recorded rfl) ?_
    simp only [take, served, List.set_set]
    exact .refl _

/-- **Several allocations** of a caller that nobody interrupts. -/
theorem reaches_served_many {count : Nat} {more : List Step} {last : Rig}
    (hcalls : Rig.allocateMany b.size count b.rig = .ok (more, last))
    (hcaller : b.callers[place]? = some ⟨.idle, steps⟩)
    (hleft : steps.length + count ≤ burstPerThread) (hopen : b.holder = none) :
    b.Reaches (b.served place (steps ++ more) last) := by
  induction count generalizing b steps more with
  | zero =>
    obtain ⟨rfl, rfl⟩ := Prod.mk.inj (Except.ok.inj hcalls)
    obtain ⟨hlt, hsame⟩ := List.getElem?_eq_some_iff.1 hcaller
    have hserved : b.served place (steps ++ []) b.rig = b := by
      rw [List.append_nil, served, ← hsame, List.set_getElem_self, ← hopen]
    rw [hserved]
    exact .refl b
  | succ count ih =>
    obtain ⟨step, after, rest, hstep, hrest, rfl⟩ := Rig.exists_of_allocateMany_succ hcalls
    have hfirst := reaches_served hstep hcaller (by omega) hopen
    have hlater := ih (b := b.served place (steps ++ [step]) after) hrest
      (getElem?_take_self hcaller ⟨_, b.rig, none, []⟩)
      (by rw [List.length_append, List.length_singleton]; omega) rfl
    simp only [served, List.set_set, List.append_assoc, List.singleton_append] at hlater
    exact hfirst.trans hlater

/-- **All allocations** of the callers that have made none, one caller after the other. -/
theorem exists_reaches_all (before : List Caller) {count : Nat} {last : Rig}
    (hcalls : Rig.allocateMany b.size (burstPerThread * count) b.rig = .ok (steps, last))
    (hcallers : b.callers = before ++ List.replicate count .new) (hopen : b.holder = none) :
    ∃ rest, b.Reaches ⟨b.size, last, before ++ rest, none⟩ ∧ rest.flatMap Caller.steps = steps ∧
      ∀ caller ∈ rest, caller.stage = .idle ∧ caller.steps.length = burstPerThread := by
  induction count generalizing b before steps with
  | zero =>
    obtain ⟨rfl, rfl⟩ := Prod.mk.inj (Except.ok.inj hcalls)
    refine ⟨[], ?_, rfl, by simp⟩
    rw [List.append_nil, show before = b.callers by simpa using hcallers.symm, ← hopen]
    exact .refl b
  | succ count ih =>
    rw [Nat.mul_succ, Nat.add_comm] at hcalls
    obtain ⟨first, between, later, hfirst, hlater, rfl⟩ := Rig.exists_of_allocateMany_add hcalls
    rw [List.replicate_succ] at hcallers
    have hcaller : b.callers[before.length]? = some .new := by simp [hcallers]
    have hserved := reaches_served_many hfirst hcaller (Nat.le_refl _) hopen
    let mine : Caller := ⟨.idle, first⟩
    obtain ⟨rest, hrest, hsteps, hall⟩ := ih (b := b.served before.length first between)
      (before ++ [mine]) hlater (by simp [served, hcallers, mine]) rfl
    refine ⟨mine :: rest, ?_, ?_, ?_⟩
    · rw [List.append_assoc, List.singleton_append] at hrest
      exact hserved.trans hrest
    · rw [List.flatMap_cons, hsteps]
    · intro caller hmem
      obtain rfl | hmem := List.mem_cons.1 hmem
      · exact ⟨rfl, Rig.length_of_allocateMany hfirst⟩
      · exact hall caller hmem

/-- **A run of the scenario** that does not break off is the report of a burst whose callers are
served one after the other. -/
theorem exists_reaches_of_run (params : Scenario.Params) {last : Rig}
    (hthreads : params.threads ≠ 0)
    (hcalls : Rig.allocateMany params.size (burstPerThread * params.threads)
      (.new params.limit params.mode) = .ok (steps, last)) :
    ∃ last, (new params).Reaches last ∧ last.Finished ∧
      Scenario.run .burst params = .ok last.report := by
  obtain ⟨rest, hreaches, hsteps, hall⟩ := exists_reaches_all (b := new params) [] hcalls rfl rfl
  refine ⟨_, hreaches, hall, ?_⟩
  rw [report, List.nil_append, hsteps]
  simp only [Scenario.run, if_neg hthreads, hcalls]

end Burst

end DeviceQuota
