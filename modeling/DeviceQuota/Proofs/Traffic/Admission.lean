import DeviceQuota.Proofs.Hook.Call
import DeviceQuota.Proofs.Traffic.Slots

/-!
# Exact admission

An allocation reaches the runtime exactly if the request fits: the bytes into what is left of the
quota, as natural numbers, and one more slot into the table, beside the entries and the slots of the
allocations in flight. A refusal leaves nothing behind but its count, and an allocation that the
runtime does not grant leaves nothing behind at all.

* **`Ledger.Fits`** — there is room for a request;
* **`Ledger.exists_request_iff`**, **`Gate.exists_request_iff`** — a request passes exactly then;
* **`Traffic.admits_iff_fits`** — every allocation, whatever is in flight when it begins.
-/

namespace DeviceQuota

/-- There is room for `size` more bytes in the quota, and for one more slot in the table. -/
def Ledger.Fits (l : Ledger) (limit size : Bytes) : Prop :=
  l.used.toNat + size.toNat ≤ limit.toNat ∧
    ∀ slots, l.table.capacity = some slots → l.table.occupied < slots

/-- A request passes exactly if it fits. -/
theorem Ledger.exists_request_iff {l : Ledger} {limit size : Bytes} :
    (∃ m, l.request limit size = .ok m) ↔ l.Fits limit size := by
  constructor
  · rintro ⟨m, hpass⟩
    obtain ⟨hfits, table, hslot, -⟩ := request_eq_ok_iff.1 hpass
    exact ⟨hfits, (Table.reserve?_eq_ok_iff.1 hslot).1⟩
  · rintro ⟨hfits, hroom⟩
    exact ⟨_, request_eq_ok_iff.2 ⟨hfits, _, Table.reserve?_eq_ok_iff.2 ⟨hroom, rfl⟩, rfl⟩⟩

namespace Gate

variable {g admitted : Gate} {site : CallSite} {size : Bytes} {real : Outcome}

theorem exists_request_iff :
    (∃ admitted, g.request size = .ok admitted) ↔ g.ledger.Fits g.limit size := by
  rw [← Ledger.exists_request_iff]
  constructor
  · rintro ⟨admitted, hpass⟩
    obtain ⟨m, hrequest, -⟩ := request_eq_ok_iff.1 hpass
    exact ⟨m, hrequest⟩
  · rintro ⟨m, hrequest⟩
    exact ⟨_, request_eq_ok_iff.2 ⟨m, hrequest, rfl⟩⟩

/-- A request that does not fit is denied. -/
theorem exists_denial (h : ¬g.ledger.Fits g.limit size) : ∃ why, g.request size = .error why := by
  cases hrequest : g.request size with
  | ok admitted => exact absurd (exists_request_iff.1 ⟨admitted, hrequest⟩) h
  | error why => exact ⟨why, rfl⟩

/-- **What is not granted was never requested**, if nothing happens in between. -/
theorem settled_of_request (hpass : g.request size = .ok admitted)
    (hungranted : real.granted site.vendor = false) : admitted.settled site size real = g := by
  obtain ⟨l, hrequest, rfl⟩ := request_eq_ok_iff.1 hpass
  rw [settled, Ledger.settle_of_not_granted _ _ hungranted]
  show (g.withLedger l).withLedger l.cancel = g
  rw [Ledger.cancel_of_request hrequest]
  rfl

/-! ### Whole calls -/

/-- An allocation that fits reaches the runtime, and is undone if it is not granted. -/
theorem allocate_of_fits (site : CallSite) (real : Outcome) (hfits : g.ledger.Fits g.limit size) :
    (g.allocate site size real).reached = true ∧
      (g.allocate site size real).answer = real.status ∧
      (real.granted site.vendor = false → (g.allocate site size real).gate = g) := by
  obtain ⟨admitted, hpass⟩ := exists_request_iff.2 hfits
  have hreply : g.allocate site size real = ⟨real.status, true,
      (admitted.ledger.settle site size real).2, admitted.settled site size real⟩ := by
    simp [allocate, hpass, settled]
  rw [hreply]
  exact ⟨rfl, rfl, settled_of_request hpass⟩

/-- An allocation that does not fit is counted, and nothing else. -/
theorem allocate_of_not_fits (site : CallSite) (real : Outcome)
    (hfull : ¬g.ledger.Fits g.limit size) :
    (g.allocate site size real).reached = false ∧
      (g.allocate site size real).answer = site.vendor.codes.outOfMemory ∧
      (g.allocate site size real).gate = g.refuse := by
  obtain ⟨why, hdenied⟩ := exists_denial hfull
  have hreply : g.allocate site size real = ⟨site.vendor.codes.outOfMemory, false,
      [.ofDenial site.function why], g.refuse⟩ := by
    simp [allocate, hdenied, Refusal.status]
  rw [hreply]
  exact ⟨rfl, rfl, rfl⟩

theorem reached_allocate_iff (site : CallSite) (real : Outcome) :
    (g.allocate site size real).reached = true ↔ g.ledger.Fits g.limit size := by
  by_cases hfits : g.ledger.Fits g.limit size
  · exact iff_of_true (allocate_of_fits site real hfits).1 hfits
  · refine iff_of_false ?_ hfits
    rw [(allocate_of_not_fits site real hfits).1]
    exact Bool.false_ne_true

end Gate

namespace Hooks

/-- The runtime's own function is called once if the request fits, and else never. -/
theorem realCalls_passAllocation (hooks : Hooks) (site : CallSite) (address : Address)
    (size : Bytes) (extra : Int) (out : Cell) (real : Granting) :
    (hooks.gate.ledger.Fits hooks.gate.limit size →
      (hooks.passAllocation site address size extra out real).realCalls
        = [⟨address, site.function, some size, extra⟩]) ∧
      (¬hooks.gate.ledger.Fits hooks.gate.limit size →
        (hooks.passAllocation site address size extra out real).realCalls = []) := by
  constructor
  · intro hfits
    obtain ⟨admitted, hpass⟩ := Gate.exists_request_iff.2 hfits
    rw [passAllocation_of_admitted site address extra out real hpass]
  · intro hfull
    obtain ⟨why, hdenied⟩ := Gate.exists_denial hfull
    rw [passAllocation_of_denied site address extra out real hdenied]

end Hooks

theorem Outcome.granted_success (vendor : Vendor) {handle : Handle} (hne : handle ≠ 0) :
    Outcome.granted vendor ⟨vendor.codes.success, handle⟩ = true := by
  simp [granted, hne]

theorem Outcome.granted_eq_false_iff {real : Outcome} {vendor : Vendor} :
    real.granted vendor = false ↔ vendor.isSuccess real.status = false ∨ real.handle = 0 := by
  rw [granted, Bool.and_eq_false_iff, bne_eq_false_iff_eq]

namespace Traffic

variable {t : Traffic} {settings : Settings} {phases : List Phase} {events : List Event}

/-- In every state of a history there is one promised slot for each allocation in flight. -/
theorem slotted_of_run? (h : run? phases (new settings) = some (t, events)) :
    t.Slotted settings.capacity :=
  History.invariant_of_run? (fun _ _ _ _ hstep hinv => hinv.of_move (move_of_step? hstep)) h
    (slotted_new settings)

theorem limit_of_run? (h : run? phases (new settings) = some (t, events)) :
    t.gate.limit = settings.limit :=
  History.invariant_of_run? (I := fun t => t.gate.limit = settings.limit)
    (fun _ _ _ _ hstep hlimit => (limit_of_move (move_of_step? hstep)).trans hlimit) h rfl

/-- Room in the ledger, told by what is live and what is in flight. -/
theorem fits_iff_of_run? (h : run? phases (new settings) = some (t, events)) (size : Bytes) :
    t.gate.ledger.Fits t.gate.limit size ↔
      t.gate.ledger.used.toNat + size.toNat ≤ settings.limit.toNat ∧
        (settings.capacity = none ∨ ∃ slots, settings.capacity = some slots ∧
          t.gate.ledger.table.size + t.flights.length < slots) := by
  have hslotted := slotted_of_run? h
  rw [Ledger.Fits, limit_of_run? h, hslotted.capacity_eq, Table.occupied, hslotted.reserved_eq]
  refine and_congr_right fun _ => ?_
  cases settings.capacity with
  | none => simp
  | some slots => simp

/-! ### Phases -/

/-- An allocation that fits is in flight after its request. If it is not granted, and is settled at
once, the traffic is what it was. -/
theorem step?_request_of_fits {site : CallSite} {size : Bytes} {real : Outcome}
    (hopen : t.locked = false) (hfits : t.gate.ledger.Fits t.gate.limit size) :
    ∃ u, t.step? (.request site size) = some (u, []) ∧
      u.flights = t.flights ++ [⟨site, size⟩] ∧
      (real.granted site.vendor = false →
        ∃ logged, u.step? (.settle t.flights.length real) = some (t, logged)) := by
  obtain ⟨admitted, hpass⟩ := Gate.exists_request_iff.2 hfits
  refine ⟨⟨admitted, t.flights ++ [⟨site, size⟩]⟩, by simp [step?, hopen, hpass], rfl, ?_⟩
  intro hungranted
  have hsettled := Gate.settled_of_request hpass hungranted
  rw [Gate.settled] at hsettled
  refine ⟨(admitted.ledger.settle site size real).2, ?_⟩
  simp [step?, hsettled, List.eraseIdx_append_of_length_le]

theorem step?_request_of_not_fits {site : CallSite} {size : Bytes} (hopen : t.locked = false)
    (hfull : ¬t.gate.ledger.Fits t.gate.limit size) :
    ∃ logged, t.step? (.request site size) = some (⟨t.gate.refuse, t.flights⟩, logged) := by
  obtain ⟨why, hdenied⟩ := Gate.exists_denial hfull
  exact ⟨[.ofDenial site.function why], by simp [step?, hopen, hdenied]⟩

/-- **Admission is exact, and refusals are atomic.** After any history of overlapping calls, an
allocation reaches the runtime exactly if the request fits beside what is charged, what is live and
what is in flight. Otherwise its caller hears that memory is out, and nothing but the count of
failures changes. If it reaches the runtime, its caller gets the runtime's status; if the runtime
fails or leaves a null handle, and nothing happened in between, the gate is as it was.

The same is said of the phases of an allocation, which other calls may come between, and of its hook,
which calls the runtime's function once or never. -/
theorem admits_iff_fits (settings : Settings) (phases : List Phase) (t : Traffic)
    (events : List Event) (h : run? phases (new settings) = some (t, events)) (site : CallSite)
    (size : Bytes) (real : Outcome) :
    let l := t.gate.ledger
    let fits := l.used.toNat + size.toNat ≤ settings.limit.toNat ∧
      (settings.capacity = none ∨ ∃ slots, settings.capacity = some slots ∧
        l.table.size + t.flights.length < slots)
    let failed := site.vendor.isSuccess real.status = false ∨ real.handle = 0
    let counted := t.gate.withLedger { l with failed := l.failed + 1 }
    let reply := t.gate.allocate site size real
    (reply.reached = true ↔ fits) ∧
      (fits → reply.answer = real.status ∧ (failed → reply.gate = t.gate)) ∧
      (¬fits → reply.answer = site.vendor.codes.outOfMemory ∧ reply.gate = counted) ∧
      (t.locked = false →
        (fits → ∃ u, t.step? (.request site size) = some (u, []) ∧
          u.flights = t.flights ++ [⟨site, size⟩] ∧
          (failed → ∃ logged, u.step? (.settle t.flights.length real) = some (t, logged))) ∧
        (¬fits → ∃ logged, t.step? (.request site size) = some (⟨counted, t.flights⟩, logged))) ∧
      ∀ (hooks : Hooks) (address : Address) (extra : Int) (out : Cell) (granting : Granting),
        hooks.gate = t.gate →
          (fits → (hooks.passAllocation site address size extra out granting).realCalls
            = [⟨address, site.function, some size, extra⟩]) ∧
          (¬fits → (hooks.passAllocation site address size extra out granting).realCalls = []) := by
  intro l fits failed counted reply
  have hfits : t.gate.ledger.Fits t.gate.limit size ↔ fits := fits_iff_of_run? h size
  have hungranted : failed → real.granted site.vendor = false := Outcome.granted_eq_false_iff.2
  refine ⟨(Gate.reached_allocate_iff site real).trans hfits, ?_, ?_, ?_, ?_⟩
  · intro hyes
    obtain ⟨-, hanswer, hundone⟩ := Gate.allocate_of_fits site real (hfits.2 hyes)
    exact ⟨hanswer, fun hfailed => hundone (hungranted hfailed)⟩
  · intro hno
    exact (Gate.allocate_of_not_fits site real (mt hfits.1 hno)).2
  · intro hopen
    refine ⟨fun hyes => ?_, fun hno => step?_request_of_not_fits hopen (mt hfits.1 hno)⟩
    obtain ⟨u, hstep, hflights, hundone⟩ := step?_request_of_fits hopen (hfits.2 hyes)
    exact ⟨u, hstep, hflights, fun hfailed => hundone (hungranted hfailed)⟩
  · intro hooks address extra out granting hgate
    obtain ⟨honce, hnever⟩ :=
      hooks.realCalls_passAllocation site address size extra out granting
    rw [hgate] at honce hnever
    exact ⟨fun hyes => honce (hfits.2 hyes), fun hno => hnever (mt hfits.1 hno)⟩

/-- One allocation is live and two are in flight, under a quota of the largest word: ten bytes and one
slot are left. -/
def lastSlotPhases : List Phase :=
  [.request ⟨.cuda, "cudaMalloc"⟩ 18446744073709551605, .settle 0 ⟨0, 16⟩,
    .request ⟨.hip, "hipMalloc"⟩ 5, .request ⟨.acl, "aclrtMalloc"⟩ 5]

/-- One byte more than is left would wrap around to zero. -/
theorem admits_iff_fits_lastSlotPhases :
    ∃ t events,
      run? lastSlotPhases (new ⟨18446744073709551615, .warn, .optimistic, some 4⟩)
        = some (t, events) ∧
      (t.gate.allocate ⟨.acl, "aclrtMalloc"⟩ 10 ⟨0, 0⟩).reached = true ∧
      (t.gate.allocate ⟨.acl, "aclrtMalloc"⟩ 10 ⟨0, 0⟩).gate = t.gate ∧
      (t.gate.allocate ⟨.acl, "aclrtMalloc"⟩ 11 ⟨0, 64⟩).answer = 107000 ∧
      (t.gate.allocate ⟨.acl, "aclrtMalloc"⟩ 11 ⟨0, 64⟩).gate.ledger.failed = 1 := by
  have hends : (run? lastSlotPhases
      (new ⟨18446744073709551615, .warn, .optimistic, some 4⟩)).isSome = true := by decide
  obtain ⟨⟨t, events⟩, hrun⟩ := Option.isSome_iff_exists.1 hends
  obtain ⟨hten, hundone, -⟩ := admits_iff_fits _ _ t events hrun ⟨.acl, "aclrtMalloc"⟩ 10 ⟨0, 0⟩
  obtain ⟨-, -, heleven, -⟩ := admits_iff_fits _ _ t events hrun ⟨.acl, "aclrtMalloc"⟩ 11 ⟨0, 64⟩
  refine ⟨t, events, hrun, ?_⟩
  obtain ⟨rfl, rfl⟩ := Prod.mk.inj (Option.some.inj hrun)
  have hfits := hten.2 ⟨by decide, .inr ⟨4, rfl, by decide⟩⟩
  have hroom := (hundone (hten.1 hfits)).2 (.inr rfl)
  obtain ⟨hanswer, hgate⟩ := heleven fun hfits => absurd hfits.1 (by decide)
  exact ⟨hfits, hroom, hanswer, by rw [hgate]; rfl⟩

end Traffic

end DeviceQuota
