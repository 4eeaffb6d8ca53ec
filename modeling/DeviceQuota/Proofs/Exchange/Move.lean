import DeviceQuota.Exchange
import DeviceQuota.Proofs.Traffic.Conservation

/-!
# The moves of an exchange

A step of an exchange is one of six. Each is seen twice: by the ledger, for which it is a phase of
its traffic or nothing at all, and by the accounts, which say where the bytes of the device are.

* **`Exchange.Move`** — the six steps;
* **`Exchange.traffic_of_move`** — what the ledger sees of a step;
* **`accounted_answered`**, **`accounted_settled`**, **`accounted_released`**, **`accounted_freed`**
  — where the bytes are after a step, up to order.
-/

namespace DeviceQuota.Exchange

/-- What a step does to an exchange, and what it logs. -/
inductive Move (e : Exchange) : Action → Exchange → List Event → Prop where
  | admitted {site : CallSite} {size : Bytes} {gate : Gate} (hfree : e.traffic.locked = false)
      (hpass : e.gate.request size = .ok gate) :
      Move e (.request site size)
        { e with gate := gate, crossings := e.crossings ++ [⟨⟨site, size⟩, none⟩] } []
  | refused {site : CallSite} {size : Bytes} {why : Denial} (hfree : e.traffic.locked = false)
      (hdenied : e.gate.request size = .error why) :
      Move e (.request site size) { e with gate := e.gate.refuse } [.ofDenial site.function why]
  | answered {place : Nat} {flight : Flight} {real : Outcome}
      (hcrossing : e.crossings[place]? = some ⟨flight, none⟩) :
      Move e (.answer place real) (e.answered place flight real) []
  | settled {place : Nat} {flight : Flight} {real : Outcome}
      (hcrossing : e.crossings[place]? = some ⟨flight, some real⟩) :
      Move e (.settle place) (e.settled place flight real)
        (e.gate.ledger.settle flight.site flight.size real).2
  | released {site : CallSite} {handle : Handle}
      (hfree : handle ≠ 0 → e.traffic.locked = false) :
      Move e (.release site handle) (e.released site handle)
        (e.gate.ledger.release site handle).2
  | freed {place : Nat} {handle : Handle} {size : Bytes}
      (hleaving : e.leaving[place]? = some (handle, size)) :
      Move e (.free place)
        { e with device := e.device.erase handle, leaving := e.leaving.eraseIdx place } []

variable {e f : Exchange} {action : Action} {events : List Event}

theorem move_of_step? (h : e.step? action = some (f, events)) : e.Move action f events := by
  cases action with
  | request site size =>
    simp only [step?] at h
    split at h
    · contradiction
    · next hlocked =>
      have hfree : e.traffic.locked = false := by simpa using hlocked
      split at h
      · next gate hpass =>
        obtain ⟨rfl, rfl⟩ := Prod.mk.inj (Option.some.inj h)
        exact .admitted hfree hpass
      · next why hdenied =>
        obtain ⟨rfl, rfl⟩ := Prod.mk.inj (Option.some.inj h)
        exact .refused hfree hdenied
  | answer place real =>
    simp only [step?] at h
    split at h
    · next flight hcrossing =>
      obtain ⟨rfl, rfl⟩ := Prod.mk.inj (Option.some.inj h)
      exact .answered hcrossing
    · contradiction
  | settle place =>
    simp only [step?] at h
    split at h
    · next flight real hcrossing =>
      obtain ⟨rfl, rfl⟩ := Prod.mk.inj (Option.some.inj h)
      exact .settled hcrossing
    · contradiction
  | release site handle =>
    simp only [step?] at h
    split at h
    · contradiction
    · next hfree =>
      obtain ⟨rfl, rfl⟩ := Prod.mk.inj (Option.some.inj h)
      refine .released fun hne => ?_
      simpa [hne] using hfree
  | free place =>
    simp only [step?] at h
    split at h
    · next handle size hleaving =>
      obtain ⟨rfl, rfl⟩ := Prod.mk.inj (Option.some.inj h)
      exact .freed hleaving
    · contradiction

/-! ### What the ledger sees -/

/-- The answer of the device is none of the ledger's business. -/
theorem traffic_answered {place : Nat} {flight : Flight} (real : Outcome)
    (h : e.crossings[place]? = some ⟨flight, none⟩) :
    (e.answered place flight real).traffic = e.traffic := by
  have hsame : (e.crossings.set place ⟨flight, some real⟩).map Crossing.flight
      = e.crossings.map Crossing.flight := by
    obtain ⟨hlt, hget⟩ := List.getElem?_eq_some_iff.1 h
    have hplace : place < (e.crossings.map Crossing.flight).length := by simpa using hlt
    have hflight : flight = (e.crossings.map Crossing.flight)[place] := by
      rw [List.getElem_map, hget]
    rw [List.map_set]
    exact (congrArg _ hflight).trans (List.set_getElem_self _)
  show Traffic.mk e.gate _ = Traffic.mk e.gate _
  rw [← hsame]
  rfl

/-- **The ledger sees a history of phases.** A step is a phase of the traffic, or the ledger does not
see it. -/
theorem traffic_of_move (h : e.Move action f events) :
    f.traffic = e.traffic ∨ ∃ phase seen, e.traffic.Move phase f.traffic seen := by
  cases h with
  | @admitted site size gate hfree hpass =>
    have hseen : Traffic.Move e.traffic (.request site size)
        ⟨gate, e.traffic.flights ++ [⟨site, size⟩]⟩ [] := .admitted hfree hpass
    exact .inr ⟨_, _, by simpa [traffic] using hseen⟩
  | @refused site size why hfree hdenied =>
    exact .inr ⟨.request site size, _, .refused hfree hdenied⟩
  | answered hcrossing => exact .inl (traffic_answered _ hcrossing)
  | @settled place flight real hcrossing =>
    have hflight : e.traffic.flights[place]? = some flight := by simp [traffic, hcrossing]
    have hstep : e.traffic.step? (.settle place real) = some ((e.settled place flight real).traffic,
        (e.gate.ledger.settle flight.site flight.size real).2) := by
      simp only [Traffic.step?, hflight]
      simp [traffic, Exchange.settled, List.eraseIdx_map]
    exact .inr ⟨_, _, Traffic.move_of_step? hstep⟩
  | @released site handle hfree =>
    by_cases hnull : handle = 0
    · left
      simp [traffic, Exchange.released, hnull, Gate.withLedger]
    · have hstep : e.traffic.step? (.release site handle) = some ((e.released site handle).traffic,
          (e.gate.ledger.release site handle).2) := by
        simp only [Traffic.step?, hfree hnull, Bool.false_eq_true, if_false]
        rfl
      exact .inr ⟨_, _, Traffic.move_of_step? hstep⟩
  | freed hleaving => exact .inl rfl

/-- A step keeps a ledger conserved if the live sizes fit into a word afterwards. -/
theorem conserved_of_move (h : e.Move action f events) (hconserved : e.gate.ledger.Conserved)
    (hfits : f.gate.ledger.liveTotal < UInt64.size) : f.gate.ledger.Conserved := by
  rcases traffic_of_move h with hsame | ⟨phase, seen, hmove⟩
  · have hgate : f.gate = e.gate := congrArg Traffic.gate hsame
    rw [hgate]
    exact hconserved
  · exact (Traffic.conserved_of_move hmove hconserved fun _ => hfits).1

/-! ### Where the bytes are -/

/-- An allocation under way, and everything else that is accounted for. -/
theorem accounted_perm_of_crossing {place : Nat} {crossing : Crossing}
    (h : e.crossings[place]? = some crossing) :
    e.accounted.Perm (crossing.grant?.toList ++ (e.gate.ledger.table.live.entries ++
      ((e.crossings.eraseIdx place).filterMap Crossing.grant? ++ e.leaving))) := by
  have hgranted : e.granted.Perm (crossing.grant?.toList ++
      (e.crossings.eraseIdx place).filterMap Crossing.grant?) := by
    have hperm := (Traffic.perm_cons_eraseIdx h).filterMap Crossing.grant?
    rw [List.filterMap_cons] at hperm
    cases hgrant : crossing.grant? with
    | none =>
      rw [hgrant] at hperm
      exact hperm
    | some grant =>
      rw [hgrant] at hperm
      exact hperm
  refine ((hgranted.append_right e.leaving).append_left _).trans ?_
  rw [List.append_assoc]
  exact List.perm_append_comm_assoc _ _ _

/-- A request that passes moves no bytes. -/
theorem accounted_admitted {flight : Flight} {gate : Gate}
    (h : e.gate.request flight.size = .ok gate) :
    accounted { e with gate := gate, crossings := e.crossings ++ [⟨flight, none⟩] }
      = e.accounted := by
  obtain ⟨l, hrequest, rfl⟩ := Gate.request_eq_ok_iff.1 h
  obtain ⟨-, -, -, hlive⟩ := Ledger.request_spec hrequest
  simp [accounted, granted, hlive, Crossing.grant?]

/-- A grant of the device is new to the accounts. -/
theorem accounted_answered {place : Nat} {flight : Flight} (real : Outcome)
    (h : e.crossings[place]? = some ⟨flight, none⟩) :
    (e.answered place flight real).accounted.Perm
      ((Crossing.grant? ⟨flight, some real⟩).toList ++ e.accounted) := by
  obtain ⟨hlt, -⟩ := List.getElem?_eq_some_iff.1 h
  have hset : (e.answered place flight real).crossings[place]? = some ⟨flight, some real⟩ :=
    List.getElem?_set_self hlt
  have hbefore := accounted_perm_of_crossing h
  have hafter := accounted_perm_of_crossing hset
  have hrest : (e.answered place flight real).crossings.eraseIdx place
      = e.crossings.eraseIdx place :=
    List.eraseIdx_set_eq
  rw [hrest] at hafter
  exact hafter.trans (hbefore.symm.append_left _)

/-- A settling moves a grant into the table. The entry that its handle still has there goes. -/
theorem accounted_settled_of_granted {place : Nat} {flight : Flight} {real : Outcome}
    (h : e.crossings[place]? = some ⟨flight, some real⟩)
    (hgranted : real.granted flight.site.vendor = true) :
    e.accounted.Perm
      (((e.gate.ledger.tracked? real.handle).map fun stale => (real.handle, stale)).toList ++
        (e.settled place flight real).accounted) := by
  have hbefore := accounted_perm_of_crossing h
  rw [Crossing.grant?_of_granted hgranted] at hbefore
  have htable := e.gate.ledger.table.live.entries_perm_erase real.handle
  have hafter : (e.settled place flight real).accounted
      = [(real.handle, flight.size)] ++ ((e.gate.ledger.table.live.erase real.handle).entries ++
        ((e.crossings.eraseIdx place).filterMap Crossing.grant? ++ e.leaving)) := by
    rw [accounted, ledger_settled_of_granted e place hgranted]
    rfl
  rw [hafter]
  refine hbefore.trans (((htable.append_right _).append_left _).trans ?_)
  rw [List.append_assoc]
  exact List.perm_append_comm_assoc _ _ _

/-- A settling of what the device did not grant changes nothing. -/
theorem accounted_settled_of_not_granted {place : Nat} {flight : Flight} {real : Outcome}
    (h : e.crossings[place]? = some ⟨flight, some real⟩)
    (hgranted : real.granted flight.site.vendor = false) :
    e.accounted.Perm (e.settled place flight real).accounted := by
  have hbefore := accounted_perm_of_crossing h
  rw [Crossing.grant?_of_not_granted hgranted] at hbefore
  have hafter : (e.settled place flight real).accounted
      = e.gate.ledger.table.live.entries ++
        ((e.crossings.eraseIdx place).filterMap Crossing.grant? ++ e.leaving) := by
    rw [accounted, ledger_settled_of_not_granted e place hgranted]
    rfl
  rw [hafter]
  exact hbefore

/-- A release moves the entry of its handle out of the table. -/
theorem accounted_released_of_tracked {handle : Handle} {size : Bytes} (site : CallSite)
    (hne : handle ≠ 0) (hfound : e.gate.ledger.tracked? handle = some size) :
    (e.released site handle).accounted.Perm e.accounted := by
  have htable : e.gate.ledger.table.live.entries.Perm
      ((handle, size) :: (e.gate.ledger.table.live.erase handle).entries) :=
    HandleMap.entries_perm_of_find? hfound
  have hledger := Ledger.fst_release_of_tracked site hne hfound
  have hafter : (e.released site handle).accounted
      = (e.gate.ledger.table.live.erase handle).entries ++
        (e.granted ++ (e.leaving ++ [(handle, size)])) := by
    simp only [accounted, granted, released, hledger, hfound, Option.getD_some]
    rfl
  rw [hafter, ← List.append_assoc, ← List.append_assoc]
  refine (List.perm_append_singleton _ _).trans ?_
  rw [List.append_assoc]
  exact (htable.append_right _).symm

/-- The release of a handle without a charge takes nothing out of the table. -/
theorem accounted_released_of_untracked {handle : Handle} (site : CallSite)
    (habsent : handle = 0 ∨ e.gate.ledger.tracked? handle = none) :
    (e.released site handle).accounted.Perm
      ((handle, (e.gate.ledger.tracked? handle).getD 0) :: e.accounted) := by
  have hledger : (e.gate.ledger.release site handle).1 = e.gate.ledger := by
    rcases habsent with rfl | hnone
    · rw [Ledger.release_null]
    · exact Ledger.fst_release_of_untracked site hnone
  have hafter : (e.released site handle).accounted
      = e.accounted ++ [(handle, (e.gate.ledger.tracked? handle).getD 0)] := by
    simp only [accounted, granted, released, hledger, Gate.ledger_withLedger, List.append_assoc]
  rw [hafter]
  exact List.perm_append_singleton _ _

/-- Freeing a handle on the device closes the account of its release. -/
theorem accounted_freed {place : Nat} {handle : Handle} {size : Bytes}
    (h : e.leaving[place]? = some (handle, size)) (device : HandleMap) :
    e.accounted.Perm ((handle, size) ::
      accounted { e with device := device, leaving := e.leaving.eraseIdx place }) := by
  have hleaving := Traffic.perm_cons_eraseIdx h
  refine ((hleaving.append_left e.granted).append_left _).trans ?_
  refine (List.perm_middle.append_left _).trans ?_
  exact List.perm_middle

end DeviceQuota.Exchange
