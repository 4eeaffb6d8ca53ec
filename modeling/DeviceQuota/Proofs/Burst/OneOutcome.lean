import DeviceQuota.Proofs.Burst.Turns
import DeviceQuota.Proofs.Rig.Stacked

/-!
# A strict burst has one outcome

In strict mode a caller keeps the ledger locked from its request to its settling, so that the
allocations that are over were made one after the other, whatever the order of the turns. All have
the same size. So as many are granted as find room, and all others are refused: once there is no room
there never will be, and before that nobody is refused.

* **`Rig.Drawn`** — a rig after a number of grants and a number of refusals;
* **`Burst.Serving`** — what a turn in the middle of an allocation has done to the rig;
* **`Burst.Tally`** — the invariant: grants, refusals and results, and the rig between the last
  allocation that is over and the next one; **`Burst.Tally.of_step?`** says that a turn keeps it;
* **`Burst.Tally.exists_finished`** — every order of turns can be completed;
* **`Burst.strict_burst_has_one_outcome`** — what every complete order reports.
-/

namespace DeviceQuota

open Scenario (burstPerThread grantedHandles)
open Rig (HasRoom most most_le_standardCapacity nodup_addresses grantedStep)

/-! ### Grants and refusals -/

namespace Rig

variable {rig : Rig} {limit size : Bytes} {grants refusals requests : Nat} {gate : Gate}
  {why : Denial}

/-- There is room for an allocation that passes the gate. -/
theorem Stacked.hasRoom_of_passed (h : rig.Stacked limit size grants 0)
    (hpass : rig.gate.request size = .ok gate) : HasRoom limit size grants :=
  h.hasRoom_iff.1 (h.level.fits_iff.1 (Gate.exists_request_iff.1 ⟨gate, hpass⟩))

/-- There is no room for an allocation that does not pass the gate. -/
theorem Stacked.not_hasRoom_of_denied (h : rig.Stacked limit size grants 0)
    (hdenied : rig.gate.request size = .error why) : ¬HasRoom limit size grants := by
  intro hroom
  obtain ⟨gate, hpass⟩ := Gate.exists_request_iff.2 (h.level.fits_iff.2 (h.hasRoom_iff.2 hroom))
  rw [hpass] at hdenied
  contradiction

/-- The rig, in strict mode, has granted and refused allocations of one size: what it granted fits,
and if it refused any, nothing more fits. -/
structure Drawn (limit size : Bytes) (grants refusals : Nat) (rig : Rig) : Prop where
  strict : rig.gate.mode = .strict
  stacked : rig.Stacked limit size grants 0
  failed_eq : rig.gate.ledger.failed = refusals
  grants_le : grants ≤ most limit size
  full : refusals ≠ 0 → most limit size ≤ grants

theorem drawn_new (limit size : Bytes) : (new limit .strict).Drawn limit size 0 0 where
  strict := rfl
  stacked := stacked_new limit size .strict
  failed_eq := rfl
  grants_le := Nat.zero_le _
  full := fun h => absurd rfl h

namespace Drawn

theorem granted (h : rig.Drawn limit size grants refusals) (hroom : HasRoom limit size grants) :
    (rig.granted size).Drawn limit size (grants + 1) refusals where
  strict := h.strict
  stacked := h.stacked.granted hroom
  failed_eq := h.failed_eq
  grants_le := hasRoom_iff_lt_most.1 hroom
  full := fun hrefused =>
    absurd (h.full hrefused) (Nat.not_le.2 (hasRoom_iff_lt_most.1 hroom))

theorem refused (h : rig.Drawn limit size grants refusals) (hfull : ¬HasRoom limit size grants) :
    rig.refused.Drawn limit size grants (refusals + 1) where
  strict := h.strict
  stacked := h.stacked.refused
  failed_eq := congrArg (· + 1) h.failed_eq
  grants_le := h.grants_le
  full := fun _ => Nat.not_lt.1 (mt hasRoom_iff_lt_most.2 hfull)

/-- **As many are granted as find room**, of all that are requested. -/
theorem grants_eq_min (h : rig.Drawn limit size grants refusals)
    (hrequests : grants + refusals = requests) : grants = min requests (most limit size) := by
  have hle := h.grants_le
  by_cases hnone : refusals = 0
  · omega
  · have hfull := h.full hnone
    omega

end Drawn

end Rig

namespace Burst

variable {b after : Burst} {place threads grants refusals : Nat} {caller : Caller}
  {turn : Turn} {steps recorded : List Step} {limit size : Bytes} {rig before : Rig}
  {gate : Gate} {why : Denial}

/-! ### The invariant -/

/-- A caller at this stage is in the middle of an allocation, or was broken off there. -/
def InFlight (stage : Stage) : Prop :=
  stage = .admitted ∨ (∃ real, stage = .answered real) ∨ stage = .broken

theorem not_inFlight_idle : ¬InFlight .idle := by
  simp [InFlight]

theorem not_inFlight_returned (result : Outcome) : ¬InFlight (.returned result) := by
  simp [InFlight]

/-- In the middle of an allocation the rig is what `before` became by the turns that were taken. -/
inductive Serving (size : Bytes) (before : Rig) : Stage → Rig → Prop where
  | admitted {gate : Gate} (hpass : before.gate.request size = .ok gate) :
      Serving size before .admitted ⟨gate, before.device⟩
  | answered {gate : Gate} {real : Outcome} {asked : Device}
      (hpass : before.gate.request size = .ok gate)
      (hreal : before.device.malloc size = (.ok real, asked)) :
      Serving size before (.answered real) ⟨gate, asked⟩

/-- **The settling** ends an allocation as if it had been made at once. -/
theorem Serving.settled {real : Outcome} (h : Serving size before (.answered real) rig)
    (hstacked : before.Stacked limit size grants 0) :
    HasRoom limit size grants ∧
      (⟨real.status, if real.status = 0 then real.handle else 0⟩ : Outcome)
        = ⟨0, Device.address grants⟩ ∧
      before.granted size
        = ⟨rig.gate.withLedger (rig.gate.ledger.settle Rig.mallocSite size real).1, rig.device⟩ := by
  cases h with
  | answered hpass hreal =>
    have hroom := hstacked.hasRoom_of_passed hpass
    have hwhole := hstacked.allocate_of_room hroom
    rw [Rig.allocate_of_passed hpass hreal] at hwhole
    obtain ⟨hstep, hrig⟩ := Prod.mk.inj (Except.ok.inj hwhole)
    exact ⟨hroom, congrArg Step.result hstep, hrig.symm⟩

/-- **The device** does not break off an allocation that passed the gate. -/
theorem Serving.malloc_ne_error {why : Device.Panic} {asked : Device}
    (h : Serving size before .admitted rig) (hstacked : before.Stacked limit size grants 0) :
    rig.device.malloc size ≠ (.error why, asked) := by
  cases h with
  | admitted hpass =>
    obtain ⟨hbytes, -⟩ := hstacked.hasRoom_iff.2 (hstacked.hasRoom_of_passed hpass)
    rw [Device.malloc_of_fits (hstacked.level.device_fits hbytes)]
    nofun

/-- The results of allocations in the order in which they were made: grants, then refusals. -/
def expected (grants refusals : Nat) : List Outcome :=
  (List.range grants).map (fun i => ⟨0, Device.address i⟩) ++ List.replicate refusals ⟨2, 0⟩

/-- The allocations that are over made the rig `before`, and gave their callers what was expected.
At most one is under way: its caller keeps the ledger locked, and nobody else is in the middle of an
allocation. -/
structure Tally (limit size : Bytes) (threads grants refusals : Nat) (before : Rig) (b : Burst) :
    Prop where
  size_eq : b.size = size
  length_eq : b.callers.length = threads
  drawn : before.Drawn limit size grants refusals
  results_perm : b.results.Perm (expected grants refusals)
  rig_eq : b.holder = none → b.rig = before
  held : ∀ place, b.holder = some place →
    ∃ caller, b.callers[place]? = some caller ∧ Serving size before caller.stage b.rig
  alone : ∀ (place : Nat) (caller : Caller), b.callers[place]? = some caller →
    InFlight caller.stage → b.holder = some place

theorem tally_new (limit size : Bytes) (threads : Nat) :
    (new ⟨limit, .strict, threads, size⟩).Tally limit size threads 0 0 (.new limit .strict) where
  size_eq := rfl
  length_eq := List.length_replicate
  drawn := Rig.drawn_new limit size
  results_perm := by
    have hnone : ∀ caller ∈ (new ⟨limit, .strict, threads, size⟩).callers, caller.results = [] := by
      intro caller hmem
      obtain ⟨-, rfl⟩ := List.mem_replicate.1 hmem
      rfl
    rw [results, List.flatMap_eq_nil_iff.2 hnone]
    exact .refl _
  rig_eq := fun _ => rfl
  held := nofun
  alone := by
    intro place caller hcaller hstage
    obtain ⟨-, rfl⟩ := List.mem_replicate.1 (List.mem_of_getElem? hcaller)
    exact absurd hstage not_inFlight_idle

/-- One grant more. -/
theorem expected_grant (grants refusals : Nat) :
    List.Perm (expected grants refusals ++ [⟨0, Device.address grants⟩])
      (expected (grants + 1) refusals) := by
  rw [expected, expected, List.range_succ, List.map_append, List.append_assoc, List.append_assoc]
  exact List.perm_append_comm.append_left _

/-- One refusal more. -/
theorem expected_refusal (grants refusals : Nat) :
    expected grants refusals ++ [⟨2, 0⟩] = expected grants (refusals + 1) := by
  rw [expected, expected, List.append_assoc, ← List.replicate_succ']

namespace Tally

/-- Whoever is in the middle of an allocation is served. -/
theorem serving (h : b.Tally limit size threads grants refusals before)
    (hcaller : b.callers[place]? = some caller)
    (hstage : InFlight caller.stage) :
    b.holder = some place ∧ Serving size before caller.stage b.rig := by
  have hholder := h.alone place caller hcaller hstage
  obtain ⟨served, hserved, hserving⟩ := h.held place hholder
  obtain rfl : served = caller := Option.some.inj (hserved.symm.trans hcaller)
  exact ⟨hholder, hserving⟩

/-- Whoever is not, and does not wait, finds the ledger open. -/
theorem holder_eq_none (h : b.Tally limit size threads grants refusals before)
    (hcaller : b.callers[place]? = some caller) (hopen : b.closed place = false)
    (hstage : ∀ rig, ¬Serving size before caller.stage rig) : b.holder = none := by
  cases hholder : b.holder with
  | none => rfl
  | some holder =>
    obtain ⟨served, hserved, hserving⟩ := h.held holder hholder
    obtain rfl : holder = place := by simpa [closed, hholder] using hopen
    obtain rfl : served = caller := Option.some.inj (hserved.symm.trans hcaller)
    exact absurd hserving (hstage b.rig)

/-! ### One turn more -/

/-- Who is in the middle of an allocation after a turn. -/
theorem alone_take (h : b.Tally limit size threads grants refusals before)
    (hhere : InFlight turn.caller.stage → turn.holder = some place)
    (hthere : ∀ other, other ≠ place → b.holder = some other → turn.holder = some other)
    (other : Nat) (caller : Caller) (hcaller : (b.take place turn).callers[other]? = some caller)
    (hstage : InFlight caller.stage) : (b.take place turn).holder = some other := by
  obtain ⟨rfl, rfl⟩ | ⟨hne, hbefore⟩ := getElem?_take_cases hcaller
  · exact hhere hstage
  · exact hthere other hne (h.alone other caller hbefore hstage)

/-- The results after a turn that does not end an allocation. -/
theorem results_perm_take (h : b.Tally limit size threads grants refusals before)
    (hcaller : b.callers[place]? = some caller) (hsame : turn.caller.results = caller.results) :
    (b.take place turn).results.Perm (expected grants refusals) := by
  have hperm := results_take hcaller (hsame.trans (List.append_nil _).symm)
  rw [List.append_nil] at hperm
  exact hperm.trans h.results_perm

theorem after_admitted (h : b.Tally limit size threads grants refusals before)
    (hcaller : b.callers[place]? = some ⟨.idle, steps⟩) (hopen : b.closed place = false)
    (hpass : b.rig.gate.request b.size = .ok gate) :
    (b.take place ⟨⟨.admitted, steps⟩, ⟨gate, b.rig.device⟩,
      if gate.mode.holdsLock then some place else none, []⟩).Tally
        limit size threads grants refusals before := by
  have hnobody := h.holder_eq_none hcaller hopen nofun
  have hrig := h.rig_eq hnobody
  rw [hrig, h.size_eq] at hpass
  obtain ⟨l, -, hgate⟩ := Gate.request_eq_ok_iff.1 hpass
  have hlocks : gate.mode.holdsLock = true := by
    rw [hgate, Gate.mode_withLedger, h.drawn.strict]
    rfl
  rw [if_pos hlocks, hrig]
  refine ⟨h.size_eq, List.length_set.trans h.length_eq, h.drawn, h.results_perm_take hcaller rfl,
    nofun, ?_, ?_⟩
  · rintro holder hholder
    obtain rfl : place = holder := Option.some.inj hholder
    exact ⟨_, getElem?_take_self hcaller _, .admitted hpass⟩
  · refine h.alone_take (fun _ => rfl) fun other hne hother => ?_
    rw [hnobody] at hother
    contradiction

theorem after_refused (h : b.Tally limit size threads grants refusals before)
    (hcaller : b.callers[place]? = some ⟨.idle, steps⟩) (hopen : b.closed place = false)
    (hdenied : b.rig.gate.request b.size = .error why) :
    (b.take place ⟨⟨.returned ⟨2, 0⟩, steps⟩, ⟨b.rig.gate.refuse, b.rig.device⟩, none, []⟩).Tally
      limit size threads grants (refusals + 1) before.refused := by
  have hnobody := h.holder_eq_none hcaller hopen nofun
  have hrig := h.rig_eq hnobody
  rw [hrig, h.size_eq] at hdenied
  have hfull := h.drawn.stacked.not_hasRoom_of_denied hdenied
  rw [hrig]
  refine ⟨h.size_eq, List.length_set.trans h.length_eq, h.drawn.refused hfull, ?_, fun _ => rfl,
    nofun, ?_⟩
  · rw [← expected_refusal]
    refine (results_take hcaller ?_).trans (h.results_perm.append_right _)
    rw [Caller.results, Caller.results, List.append_assoc]
    rfl
  · refine h.alone_take (fun hstage => absurd hstage (not_inFlight_returned _))
      fun other hne hother => ?_
    rw [hnobody] at hother
    contradiction

theorem after_asked {real : Outcome} {asked : Device}
    (h : b.Tally limit size threads grants refusals before)
    (hcaller : b.callers[place]? = some ⟨.admitted, steps⟩)
    (hreal : b.rig.device.malloc b.size = (.ok real, asked)) :
    (b.take place ⟨⟨.answered real, steps⟩, ⟨b.rig.gate, asked⟩, b.holder, []⟩).Tally
      limit size threads grants refusals before := by
  obtain ⟨hholder, hserving⟩ := h.serving hcaller (.inl rfl)
  refine ⟨h.size_eq, List.length_set.trans h.length_eq, h.drawn, h.results_perm_take hcaller rfl,
    fun hnobody => ?_, fun other hother => ?_, ?_⟩
  · exact absurd (hholder.symm.trans hnobody) nofun
  · obtain rfl : place = other := Option.some.inj (hholder.symm.trans hother)
    refine ⟨_, getElem?_take_self hcaller _, ?_⟩
    show Serving size before (.answered real) ⟨b.rig.gate, asked⟩
    rw [h.size_eq] at hreal
    generalize b.rig = rig at hserving hreal ⊢
    cases hserving with
    | admitted hpass => exact .answered hpass hreal
  · exact h.alone_take (fun _ => hholder) fun _ _ hother => hother

theorem after_settled {real : Outcome} (h : b.Tally limit size threads grants refusals before)
    (hcaller : b.callers[place]? = some ⟨.answered real, steps⟩) :
    (b.take place
      ⟨⟨.returned ⟨real.status, if real.status = 0 then real.handle else 0⟩, steps⟩,
        ⟨b.rig.gate.withLedger (b.rig.gate.ledger.settle Rig.mallocSite b.size real).1,
          b.rig.device⟩, none, []⟩).Tally
        limit size threads (grants + 1) refusals (before.granted size) := by
  obtain ⟨hholder, hserving⟩ := h.serving hcaller (.inr (.inl ⟨real, rfl⟩))
  obtain ⟨hroom, hresult, hrig⟩ := hserving.settled h.drawn.stacked
  rw [h.size_eq, hresult, ← hrig]
  refine ⟨h.size_eq, List.length_set.trans h.length_eq, h.drawn.granted hroom, ?_, fun _ => rfl,
    nofun, ?_⟩
  · refine (results_take hcaller ?_).trans
      ((h.results_perm.append_right _).trans (expected_grant grants refusals))
    rw [Caller.results, Caller.results, List.append_assoc]
    rfl
  · refine h.alone_take (fun hstage => absurd hstage (not_inFlight_returned _))
      fun other hne hother => ?_
    exact absurd (Option.some.inj (hother.symm.trans hholder)) hne

theorem after_recorded {result : Outcome} (h : b.Tally limit size threads grants refusals before)
    (hcaller : b.callers[place]? = some ⟨.returned result, steps⟩) :
    (b.take place ⟨⟨.idle, steps ++ [b.record result]⟩, b.rig, b.holder, [b.record result]⟩).Tally
      limit size threads grants refusals before := by
  refine ⟨h.size_eq, List.length_set.trans h.length_eq, h.drawn, h.results_perm_take hcaller ?_,
    h.rig_eq, fun other hother => ?_, ?_⟩
  · rw [Caller.results, List.map_append, List.append_assoc]
    rfl
  · -- whoever keeps the ledger locked is somebody else
    obtain ⟨served, hserved, hserving⟩ := h.held other hother
    refine ⟨served, ?_, hserving⟩
    rw [getElem?_take_of_ne]
    · exact hserved
    · rintro rfl
      obtain rfl := Option.some.inj (hserved.symm.trans hcaller)
      cases hserving
  · exact h.alone_take (fun hstage => absurd hstage not_inFlight_idle) fun _ _ hother => hother

/-- **A turn** keeps the tally, with one grant or one refusal more if it ends an allocation. -/
theorem of_step? (h : b.Tally limit size threads grants refusals before)
    (hstep : b.step? place = some (after, recorded)) :
    ∃ grants refusals before, after.Tally limit size threads grants refusals before := by
  obtain ⟨caller, turn, hcaller, htaken, rfl⟩ := exists_taken_of_step? hstep
  cases htaken with
  | admitted _ hopen hpass => exact ⟨_, _, _, h.after_admitted hcaller hopen hpass⟩
  | refused _ hopen hdenied => exact ⟨_, _, _, h.after_refused hcaller hopen hdenied⟩
  | asked hreal => exact ⟨_, _, _, h.after_asked hcaller hreal⟩
  | brokeOff hbroken =>
    obtain ⟨-, hserving⟩ := h.serving hcaller (.inl rfl)
    rw [h.size_eq] at hbroken
    exact absurd hbroken (hserving.malloc_ne_error h.drawn.stacked)
  | settled => exact ⟨_, _, _, h.after_settled hcaller⟩
  | recorded => exact ⟨_, _, _, h.after_recorded hcaller⟩

/-! ### Complete orders -/

/-- Nobody was broken off. -/
theorem stage_ne_broken (h : b.Tally limit size threads grants refusals before)
    (hcaller : b.callers[place]? = some caller) : caller.stage ≠ .broken := by
  intro hbroken
  obtain ⟨-, hserving⟩ := h.serving hcaller (.inr (.inr hbroken))
  rw [hbroken] at hserving
  cases hserving

/-- Somebody has a turn, as long as not everybody is done. -/
theorem exists_step? (h : b.Tally limit size threads grants refusals before)
    (hpatient : b.Patient) (hunfinished : ¬b.Finished) :
    ∃ place after recorded, b.step? place = some (after, recorded) := by
  cases hholder : b.holder with
  | some place =>
    -- whoever keeps the ledger locked does not wait
    obtain ⟨caller, hcaller, hserving⟩ := h.held place hholder
    obtain ⟨turn, hturn⟩ := exists_turn? (closed_of_holder_eq_self hholder)
      (hpatient place caller hcaller) (h.stage_ne_broken hcaller)
      (by rintro ⟨hidle, -⟩; rw [hidle] at hserving; cases hserving)
    exact ⟨place, _, _, step?_of_turn? hcaller hturn⟩
  | none =>
    obtain ⟨caller, hcaller⟩ := not_forall.1 hunfinished
    obtain ⟨hmem, hleft⟩ := Classical.not_imp.1 hcaller
    obtain ⟨place, hplace⟩ := List.getElem?_of_mem hmem
    obtain ⟨turn, hturn⟩ := exists_turn? (closed_of_holder_eq_none hholder place)
      (hpatient place caller hplace) (h.stage_ne_broken hplace) hleft
    exact ⟨place, _, _, step?_of_turn? hplace hturn⟩

/-- **Every order of turns can be completed.** -/
theorem exists_finished (h : b.Tally limit size threads grants refusals before)
    (hpatient : b.Patient) : ∃ last, b.Reaches last ∧ last.Finished := by
  induction hturns : b.turnsLeft using Nat.strongRecOn generalizing b grants refusals before with
  | ind turns ih =>
    by_cases hfinished : b.Finished
    · exact ⟨b, .refl b, hfinished⟩
    · obtain ⟨place, after, recorded, hstep⟩ := h.exists_step? hpatient hfinished
      obtain ⟨_, _, _, hafter⟩ := h.of_step? hstep
      obtain ⟨hstill, hfewer⟩ := hpatient.of_step? hstep
      obtain ⟨last, hlater, hlast⟩ := ih after.turnsLeft (hturns ▸ hfewer) hafter hstill rfl
      exact ⟨last, (Reaches.of_step? hstep).trans hlater, hlast⟩

/-! ### The report -/

/-- At the end nobody keeps the ledger locked. -/
theorem rig_eq_of_finished (h : b.Tally limit size threads grants refusals before)
    (hfinished : b.Finished) : b.rig = before := by
  refine h.rig_eq ?_
  cases hholder : b.holder with
  | none => rfl
  | some place =>
    obtain ⟨caller, hcaller, hserving⟩ := h.held place hholder
    rw [(hfinished caller (List.mem_of_getElem? hcaller)).1] at hserving
    cases hserving

/-- At the end everything is recorded. -/
theorem map_result_steps (hfinished : b.Finished) : b.report.steps.map Step.result = b.results := by
  have hsteps : b.report.steps = b.callers.flatMap Caller.steps := rfl
  rw [hsteps, List.map_flatMap, results]
  refine List.flatMap_congr fun caller hmem => ?_
  rw [Caller.results, (hfinished caller hmem).1]
  exact (List.append_nil _).symm

theorem length_steps (h : b.Tally limit size threads grants refusals before)
    (hfinished : b.Finished) : b.report.steps.length = burstPerThread * threads := by
  have hsteps : b.report.steps = b.callers.flatMap Caller.steps := rfl
  have heach : b.callers.map (fun caller => caller.steps.length)
      = b.callers.map fun _ => burstPerThread :=
    List.map_congr_left fun caller hmem => (hfinished caller hmem).2
  rw [hsteps, List.length_flatMap, heach, List.map_const', List.sum_replicate_nat, h.length_eq,
    Nat.mul_comm]

/-- At the end the recorded allocations are the grants and the refusals, in some order. -/
theorem perm_expected (h : b.Tally limit size threads grants refusals before)
    (hfinished : b.Finished) :
    (b.report.steps.map Step.result).Perm (expected grants refusals) := by
  rw [map_result_steps hfinished]
  exact h.results_perm

/-- The handles of the allocations that were granted. -/
theorem perm_grantedHandles (h : b.Tally limit size threads grants refusals before)
    (hfinished : b.Finished) :
    (grantedHandles b.report.steps).Perm ((List.range grants).map Device.address) := by
  have hhandles : ∀ steps : List Step, grantedHandles steps
      = ((steps.map Step.result).filter fun result => result.status == 0).map Outcome.handle := by
    intro steps
    rw [grantedHandles, List.filter_map, List.map_map]
    rfl
  have hexpected : ((expected grants refusals).filter fun result => result.status == 0)
      = (List.range grants).map fun i => ⟨0, Device.address i⟩ := by
    rw [expected, List.filter_append, List.filter_eq_self.2, List.filter_eq_nil_iff.2,
      List.append_nil]
    · intro result hmem
      rw [(List.mem_replicate.1 hmem).2]
      decide
    · intro result hmem
      obtain ⟨i, -, rfl⟩ := List.mem_map.1 hmem
      rfl
  have hperm := (((h.perm_expected hfinished).filter fun result => result.status == 0).map
    Outcome.handle)
  rw [hexpected, List.map_map, ← hhandles] at hperm
  exact hperm

/-- The number of allocations that were refused. -/
theorem countP_refused (h : b.Tally limit size threads grants refusals before)
    (hfinished : b.Finished) :
    b.report.steps.countP (fun step => step.status == 2) = refusals := by
  have hcount := (h.perm_expected hfinished).countP_eq fun result => result.status == 2
  rw [List.countP_map] at hcount
  refine hcount.trans ?_
  rw [expected, List.countP_append, List.countP_map, List.countP_replicate]
  simp

/-- The figures of the report. -/
theorem report_figures (h : b.Tally limit size threads grants refusals before)
    (hfinished : b.Finished) :
    b.report.snapshot.failed = refusals ∧ b.report.snapshot.allocs = grants ∧
      b.report.snapshot.tracked = grants ∧ b.report.snapshot.used.toNat = grants * size.toNat ∧
      b.report.snapshot.peak.toNat = grants * size.toNat ∧
      b.report.highWater.toNat = grants * size.toNat ∧ grants * size.toNat ≤ limit.toNat ∧
      b.report.conserved = true ∧ b.report.limitExceeded = false := by
  have hdrawn : b.rig.Drawn limit size grants refusals := h.rig_eq_of_finished hfinished ▸ h.drawn
  have hstacked := hdrawn.stacked
  have hused := hstacked.used_eq
  have htracked := hstacked.level.size_eq
  rw [Nat.zero_mul, Nat.add_zero] at hused
  rw [hstacked.frees_eq, hstacked.allocs_eq] at htracked
  obtain ⟨hconserved, hwithin, hhigh, hpeak⟩ := hstacked.level.finish_spec .burst b.report.steps
  rw [hstacked.peak_eq] at hpeak
  exact ⟨hdrawn.failed_eq, hstacked.allocs_eq, htracked, hused, hstacked.peak_eq,
    (congrArg UInt64.toNat hhigh).trans hstacked.peak_eq, hpeak, hconserved, hwithin⟩

end Tally

/-- The tally of any order of turns, from the beginning. -/
theorem exists_tally {turns : List Nat}
    (h : History.run? step? turns (new ⟨limit, .strict, threads, size⟩) = some (b, recorded)) :
    ∃ grants refusals before, b.Tally limit size threads grants refusals before :=
  History.invariant_of_run?
    (I := fun b => ∃ grants refusals before, b.Tally limit size threads grants refusals before)
    (fun _ _ _ _ hstep ⟨_, _, _, htally⟩ => htally.of_step? hstep) h
    ⟨0, 0, _, tally_new limit size threads⟩

/-- Callers stay patient. -/
theorem patient_of_run? {params : Scenario.Params} {turns : List Nat}
    (h : History.run? step? turns (new params) = some (b, recorded)) : b.Patient :=
  History.invariant_of_run? (fun _ _ _ _ hstep hpatient => (hpatient.of_step? hstep).1) h
    (patient_new params)

/-- **A strict burst has one outcome.** `threads` callers allocate four blocks each, in strict mode.
In whatever order they take their turns, at the end of a complete order as many allocations were
granted as the quota, the slots and the number of requests allow, at different addresses; all others
were refused. Gate and device agree, and the most that either held is what is in use at the end.

No order of turns goes on for ever, and each can be completed. If there are callers, the run of the
scenario reports one of the complete orders. -/
theorem strict_burst_has_one_outcome (limit size : Bytes) (threads : Nat) :
    let params : Scenario.Params := ⟨limit, .strict, threads, size⟩
    let requests := 4 * threads
    let grants := if size = 0 then min requests 65536
      else min requests (min 65536 (limit.toNat / size.toNat))
    (∀ turns last outputs, History.run? step? turns (new params) = some (last, outputs) →
      last.Finished →
        let report := last.report
        report.steps.length = requests ∧
        (grantedHandles report.steps).length = grants ∧ (grantedHandles report.steps).Nodup ∧
        report.steps.countP (fun step => step.status == 2) = requests - grants ∧
        report.snapshot.failed = requests - grants ∧ report.snapshot.allocs = grants ∧
        report.snapshot.tracked = grants ∧ report.snapshot.used.toNat = grants * size.toNat ∧
        report.snapshot.peak.toNat = grants * size.toNat ∧
        report.highWater.toNat = grants * size.toNat ∧ grants * size.toNat ≤ limit.toNat ∧
        report.conserved = true ∧ report.limitExceeded = false) ∧
      (∀ turns b outputs, History.run? step? turns (new params) = some (b, outputs) →
        turns.length ≤ 16 * threads ∧
          ∃ more last later, History.run? step? more b = some (last, later) ∧ last.Finished) ∧
      (threads ≠ 0 → ∃ turns last outputs,
        History.run? step? turns (new params) = some (last, outputs) ∧ last.Finished ∧
          Scenario.run .burst params = .ok last.report) := by
  intro params requests grants
  have hgrants : grants = min requests (most limit size) := by
    simp only [grants, most]
    split <;> rfl
  refine ⟨?_, ?_, ?_⟩
  · intro turns last outputs hrun hfinished report
    obtain ⟨granted, refused, before, h⟩ := exists_tally hrun
    have hlength : report.steps.length = requests := h.length_steps hfinished
    have hsum : granted + refused = requests := by
      rw [← hlength, ← List.length_map (f := Step.result), (h.perm_expected hfinished).length_eq]
      simp [expected]
    have hsame : granted = grants := (h.drawn.grants_eq_min hsum).trans hgrants.symm
    have hrefused : refused = requests - grants := by omega
    have hhandles := h.perm_grantedHandles hfinished
    have hfew : granted ≤ Settings.standardCapacity :=
      Nat.le_trans h.drawn.grants_le most_le_standardCapacity
    have hcapacity : Settings.standardCapacity = 65536 := rfl
    rw [← hrefused, ← hsame]
    refine ⟨hlength, ?_, ?_, h.countP_refused hfinished, h.report_figures hfinished⟩
    · rw [hhandles.length_eq, List.length_map, List.length_range]
    · exact hhandles.nodup_iff.2 (nodup_addresses (by omega))
  · intro turns b outputs hrun
    have hbound := (patient_new params).length_turns_le hrun
    rw [turnsLeft_new] at hbound
    obtain ⟨_, _, _, h⟩ := exists_tally hrun
    obtain ⟨last, ⟨more, later, hmore⟩, hlast⟩ := h.exists_finished (patient_of_run? hrun)
    exact ⟨Nat.le_of_add_right_le hbound, more, last, later, hmore, hlast⟩
  · intro hthreads
    obtain ⟨steps, rig, hcalls⟩ :=
      (Rig.stacked_new limit size .strict).exists_allocateMany (burstPerThread * threads)
    obtain ⟨last, ⟨turns, outputs, hrun⟩, hlast, hreport⟩ :=
      exists_reaches_of_run params hthreads hcalls
    exact ⟨turns, last, outputs, hrun, hlast, hreport⟩

/-- Two callers make four allocations each; the second caller is the first to get a block, but looks
at the charge only after the first caller got one, too. -/
def twoCallersTurns : List Nat :=
  [1, 1, 1, 0, 0, 0, 1, 0, 1, 1, 1, 1, 0, 0, 1, 0, 0, 1, 1, 0, 1, 0]

/-- Three of the eight blocks fit into the quota. -/
theorem strict_burst_has_one_outcome_twoCallersTurns :
    ∃ last outputs,
      History.run? step? twoCallersTurns (new ⟨1000, .strict, 2, 300⟩) = some (last, outputs) ∧
        last.Finished ∧ (grantedHandles last.report.steps).length = 3 ∧
        last.report.snapshot.failed = 5 ∧ last.report.snapshot.peak.toNat = 900 ∧
        last.report.limitExceeded = false := by
  have hends : (History.run? step? twoCallersTurns (new ⟨1000, .strict, 2, 300⟩)).isSome = true := by
    decide
  obtain ⟨⟨last, outputs⟩, hrun⟩ := Option.isSome_iff_exists.1 hends
  have hfinished : last.Finished := by
    obtain ⟨rfl, -⟩ := Prod.mk.inj (Option.some.inj hrun)
    decide
  have hgrants : (if (300 : Bytes) = 0 then min (4 * 2) 65536
      else min (4 * 2) (min 65536 ((1000 : Bytes).toNat / (300 : Bytes).toNat))) = 3 := by decide
  obtain ⟨-, hgranted, -, -, hfailed, -, -, -, hpeak, -, -, -, hwithin⟩ :=
    (strict_burst_has_one_outcome 1000 300 2).1 _ last outputs hrun hfinished
  rw [hgrants] at hgranted hfailed hpeak
  exact ⟨last, outputs, hrun, hfinished, hgranted, hfailed, hpeak, hwithin⟩

end Burst

end DeviceQuota
