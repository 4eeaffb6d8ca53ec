import DeviceQuota.Proofs.Exchange.Move

/-!
# Ledger and device agree

The device and the ledger keep records of their own, and calls that overlap change them at different
times. They agree all the same: up to order, what is live on the device is what is in the table,
granted and not settled, or taken out of the table and not freed.

The device grants only addresses that are not live on it, so no handle is in two of these places.
Therefore a settling never meets a handle that is still tracked. It matters that a release leaves
the table before the device is asked, and that an allocation enters it after the device has
answered: an address that the device may grant again is in none of the three places.

* **`Exchange.Agrees`** — the invariant;
* **`Exchange.Agrees.of_move`** — one step keeps it;
* **`Exchange.device_agrees_along`** — agreement along every history.
-/

namespace DeviceQuota

namespace Exchange

/-- Ledger and device agree. -/
structure Agrees (e : Exchange) : Prop where
  /-- The charge is the exact sum of the live sizes. -/
  conserved : e.gate.ledger.Conserved
  /-- What is live on the device is accounted for, once. -/
  accounted : e.device.entries.Perm e.accounted
  /-- Callers own the handles in the table. -/
  owned : e.owned.Perm (e.gate.ledger.table.live.entries.map Prod.fst)
  /-- The null handle is nobody's. -/
  null : 0 ∉ e.owned

variable {e f : Exchange} {action : Action} {events : List Event}

theorem agrees_new (settings : Settings) : (new settings).Agrees :=
  ⟨rfl, .refl _, .refl _, by simp [new]⟩

namespace Agrees

/-! ### What agreement tells -/

/-- A handle that a caller owns is tracked. -/
theorem tracked_of_owned (hinv : e.Agrees) {handle : Handle} (h : handle ∈ e.owned) :
    ∃ size, e.gate.ledger.tracked? handle = some size := by
  obtain ⟨⟨_, size⟩, hmem, rfl⟩ := List.mem_map.1 (hinv.owned.mem_iff.1 h)
  exact ⟨size, HandleMap.mem_entries_iff.1 hmem⟩

/-- **What the device granted is not tracked** before it is settled: the device holds an address
once, and the account of the grant is one of its places already. -/
theorem untracked_of_granted (hinv : e.Agrees) {place : Nat} {crossing : Crossing}
    {grant : Handle × Bytes} (hcrossing : e.crossings[place]? = some crossing)
    (hgrant : crossing.grant? = some grant) : e.gate.ledger.tracked? grant.1 = none := by
  have hperm := hinv.accounted.trans (accounted_perm_of_crossing hcrossing)
  rw [hgrant] at hperm
  have hnodup := (hperm.map Prod.fst).nodup_iff.1 e.device.nodup
  rw [Option.toList_some, List.singleton_append, List.map_cons, List.nodup_cons] at hnodup
  cases hfound : e.gate.ledger.tracked? grant.1 with
  | none => rfl
  | some size =>
    have hmem : (grant.1, size) ∈ e.gate.ledger.table.live.entries :=
      HandleMap.mem_entries_iff.2 hfound
    exact absurd (List.mem_map.2 ⟨_, List.mem_append_left _ hmem, rfl⟩) hnodup.1

/-- **The books balance.** -/
theorem total_eq (hinv : e.Agrees) :
    e.device.total = e.gate.ledger.used.toNat + e.grantedBytes + e.leavingBytes := by
  have hsum : e.device.total = HandleMap.sumSizes e.accounted :=
    HandleMap.sumSizes_perm hinv.accounted
  have hused : e.gate.ledger.used.toNat
      = HandleMap.sumSizes e.gate.ledger.table.live.entries := hinv.conserved
  rw [hsum, hused, Exchange.accounted, HandleMap.sumSizes_append, HandleMap.sumSizes_append,
    Nat.add_assoc]
  rfl

theorem total_eq_of_idle (hinv : e.Agrees) (hidle : e.Idle) :
    e.device.total = e.gate.ledger.used.toNat := by
  have hsum := hinv.total_eq
  rw [grantedBytes, granted, leavingBytes, hidle.1, hidle.2] at hsum
  exact hsum

/-- With no call under way the table is the record of the device. -/
theorem tracked_eq_of_idle (hinv : e.Agrees) (hidle : e.Idle) (handle : Handle) :
    e.gate.ledger.tracked? handle = e.device.find? handle := by
  have hperm := hinv.accounted
  simp only [Exchange.accounted, granted, hidle.1, hidle.2, List.filterMap_nil,
    List.append_nil] at hperm
  exact (HandleMap.find?_eq_of_perm hperm handle).symm

/-! ### What a step does to agreement -/

theorem accounted_of_move (hinv : e.Agrees) (h : e.Move action f events)
    (hfresh : e.GrantsFresh action) (howned : e.ReleasesOwned action) :
    f.device.entries.Perm f.accounted := by
  cases h with
  | admitted hfree hpass =>
    rw [accounted_admitted hpass]
    exact hinv.accounted
  | refused hfree hdenied => exact hinv.accounted
  | @answered place flight real hcrossing =>
    have hafter := accounted_answered real hcrossing
    cases hgranted : real.granted flight.site.vendor with
    | true =>
      have habsent := hfresh ⟨flight, none⟩ hcrossing hgranted
      rw [Crossing.grant?_of_granted hgranted] at hafter
      rw [device_answered_of_granted e place hgranted,
        HandleMap.entries_insert_of_find?_eq_none flight.size habsent]
      exact (hinv.accounted.cons _).trans hafter.symm
    | false =>
      rw [Crossing.grant?_of_not_granted hgranted] at hafter
      rw [device_answered_of_not_granted e place hgranted]
      exact hinv.accounted.trans hafter.symm
  | @settled place flight real hcrossing =>
    cases hgranted : real.granted flight.site.vendor with
    | true =>
      have habsent := hinv.untracked_of_granted hcrossing (Crossing.grant?_of_granted hgranted)
      have hafter := accounted_settled_of_granted hcrossing hgranted
      rw [habsent] at hafter
      exact hinv.accounted.trans hafter
    | false => exact hinv.accounted.trans (accounted_settled_of_not_granted hcrossing hgranted)
  | @released site handle hfree =>
    obtain ⟨size, hfound⟩ := hinv.tracked_of_owned howned
    have hne : handle ≠ 0 := fun hnull => hinv.null (hnull ▸ howned)
    exact hinv.accounted.trans (accounted_released_of_tracked site hne hfound).symm
  | @freed place handle size hleaving =>
    have hafter := hinv.accounted.trans (accounted_freed hleaving (e.device.erase handle))
    have hfound : e.device.find? handle = some size :=
      HandleMap.mem_entries_iff.1 (hafter.mem_iff.2 (by simp))
    exact ((HandleMap.entries_perm_of_find? hfound).symm.trans hafter).cons_inv

theorem owned_of_move (hinv : e.Agrees) (h : e.Move action f events)
    (howned : e.ReleasesOwned action) :
    f.owned.Perm (f.gate.ledger.table.live.entries.map Prod.fst) ∧ 0 ∉ f.owned := by
  cases h with
  | admitted hfree hpass =>
    obtain ⟨l, hrequest, rfl⟩ := Gate.request_eq_ok_iff.1 hpass
    obtain ⟨-, -, -, hlive⟩ := Ledger.request_spec hrequest
    refine ⟨?_, hinv.null⟩
    rw [Gate.ledger_withLedger, hlive]
    exact hinv.owned
  | refused | answered | freed => exact ⟨hinv.owned, hinv.null⟩
  | @settled place flight real hcrossing =>
    cases hgranted : real.granted flight.site.vendor with
    | true =>
      have habsent := hinv.untracked_of_granted hcrossing (Crossing.grant?_of_granted hgranted)
      have htable : (e.settled place flight real).gate.ledger.table.live.entries
          = (real.handle, flight.size) :: e.gate.ledger.table.live.entries := by
        rw [ledger_settled_of_granted e place hgranted]
        exact HandleMap.entries_insert_of_find?_eq_none flight.size habsent
      have hne : real.handle ≠ 0 := by
        simp only [Outcome.granted, Bool.and_eq_true, bne_iff_ne] at hgranted
        exact hgranted.2
      rw [htable, owned_settled_of_granted e place hgranted]
      refine ⟨hinv.owned.cons _, ?_⟩
      rw [List.mem_cons, not_or]
      exact ⟨hne.symm, hinv.null⟩
    | false =>
      rw [ledger_settled_of_not_granted e place hgranted,
        owned_settled_of_not_granted e place hgranted]
      exact ⟨hinv.owned, hinv.null⟩
  | @released site handle hfree =>
    obtain ⟨size, hfound⟩ := hinv.tracked_of_owned howned
    have hne : handle ≠ 0 := fun hnull => hinv.null (hnull ▸ howned)
    have hledger : (e.released site handle).gate.ledger = e.gate.ledger.discharge handle size :=
      Ledger.fst_release_of_tracked site hne hfound
    have htable : e.gate.ledger.table.live.entries.Perm
        ((handle, size) :: (e.gate.ledger.table.live.erase handle).entries) :=
      HandleMap.entries_perm_of_find? hfound
    refine ⟨?_, fun hmem => hinv.null (List.mem_of_mem_erase hmem)⟩
    rw [hledger]
    have hkeys := (List.perm_cons_erase howned).symm.trans (hinv.owned.trans (htable.map Prod.fst))
    exact hkeys.cons_inv

/-- **One step** keeps ledger and device in agreement, on a device that grants fresh addresses and
never holds more than a word can count, with callers that release what they own. -/
theorem of_move (hinv : e.Agrees) (h : e.Move action f events) (hfresh : e.GrantsFresh action)
    (howned : e.ReleasesOwned action) (hcountable : f.device.total < UInt64.size) : f.Agrees := by
  have haccounted := hinv.accounted_of_move h hfresh howned
  have hkeys := hinv.owned_of_move h howned
  have hsum : f.device.total = HandleMap.sumSizes f.accounted :=
    HandleMap.sumSizes_perm haccounted
  have hfits : f.gate.ledger.liveTotal < UInt64.size := by
    have hlive : f.gate.ledger.liveTotal
        = HandleMap.sumSizes f.gate.ledger.table.live.entries := rfl
    rw [Exchange.accounted, HandleMap.sumSizes_append] at hsum
    omega
  exact ⟨conserved_of_move h hinv.conserved hfits, haccounted, hkeys.1, hkeys.2⟩

/-! ### Stale entries -/

theorem settlesFresh (hinv : e.Agrees) (action : Action) : e.SettlesFresh action := by
  cases action with
  | settle place =>
    intro crossing hcrossing grant hgrant
    exact hinv.untracked_of_granted hcrossing hgrant
  | request | answer | release | free => trivial

end Agrees

/-- A step logs a stale entry only if it settles on one. -/
theorem not_isStale_of_move (h : e.Move action f events) (hfresh : e.SettlesFresh action) :
    ∀ event ∈ events, event.isStale = false := by
  cases h with
  | admitted | answered | freed => simp
  | @refused site size why hfree hdenied => cases why <;> simp [Event.ofDenial, Event.isStale]
  | @settled place flight real hcrossing =>
    cases hgranted : real.granted flight.site.vendor with
    | true =>
      have habsent := hfresh ⟨flight, some real⟩ hcrossing (real.handle, flight.size)
        (Crossing.grant?_of_granted hgranted)
      simp [Ledger.settle, hgranted, habsent, Event.isStale]
    | false => simp [Ledger.settle, hgranted, Event.isStale]
  | @released site handle hfree =>
    simp only [Ledger.release]
    split
    · simp
    · split <;> simp [Event.isStale]

/-- **Ledger and device agree along every history**, in either mode. Whatever the device answers
and however the calls overlap, the device holds what is charged, granted and not settled, or on its
way out, and nothing else; no settling meets a handle that is still tracked; and whenever no call
is under way, the table is the record of the device. -/
theorem device_agrees_along (settings : Settings) (actions : List Action)
    (hdevice : History.Along step?
      (fun e action after _ => e.GrantsFresh action ∧ after.device.total < UInt64.size)
      actions (new settings))
    (hcallers : History.Along step? (fun e action _ _ => e.ReleasesOwned action)
      actions (new settings)) :
    History.Always step?
      (fun e =>
        e.device.total = e.gate.ledger.used.toNat + e.grantedBytes + e.leavingBytes ∧
          (e.Idle → e.gate.ledger.used.toNat = e.device.total ∧
            ∀ handle, e.gate.ledger.tracked? handle = e.device.find? handle))
      actions (new settings) ∧
    History.Along step?
      (fun e action _ events =>
        e.SettlesFresh action ∧ ∀ event ∈ events, event.isStale = false)
      actions (new settings) := by
  have hbooks : ∀ e : Exchange, e.Agrees →
      e.device.total = e.gate.ledger.used.toNat + e.grantedBytes + e.leavingBytes ∧
        (e.Idle → e.gate.ledger.used.toNat = e.device.total ∧
          ∀ handle, e.gate.ledger.tracked? handle = e.device.find? handle) := by
    intro e hinv
    refine ⟨hinv.total_eq, fun hidle => ⟨?_, hinv.tracked_eq_of_idle hidle⟩⟩
    exact (hinv.total_eq_of_idle hidle).symm
  have hagree : History.Along step?
      (fun e action after events => after.Agrees ∧
        (e.SettlesFresh action ∧ ∀ event ∈ events, event.isStale = false))
      actions (new settings) := by
    refine History.along_of_invariant (I := Agrees) ?_ actions (new settings)
      (agrees_new settings) (hdevice.and hcallers)
    rintro e action f events hstep hinv ⟨⟨hfresh, hcountable⟩, howned⟩
    have hmove := move_of_step? hstep
    have hafter := hinv.of_move hmove hfresh howned hcountable
    have hsettles := hinv.settlesFresh action
    exact ⟨hafter, hafter, hsettles, not_isStale_of_move hmove hsettles⟩
  exact ⟨⟨hbooks _ (agrees_new settings), hagree.mono fun _ _ _ _ h => hbooks _ h.1⟩,
    hagree.mono fun _ _ _ _ h => h.2⟩

/-- Two allocations overlap and are settled the other way round. The address of the first is
released, and the device grants it to a third allocation as soon as it is free. -/
def reusedAddressActions : List Action :=
  [.request ⟨.cuda, "cudaMalloc"⟩ 60, .request ⟨.hip, "hipMalloc"⟩ 30, .answer 0 ⟨0, 16⟩,
    .answer 1 ⟨0, 32⟩, .settle 1, .settle 0, .release ⟨.cuda, "cudaFree"⟩ 16,
    .request ⟨.cuda, "cudaMalloc"⟩ 20, .free 0, .answer 0 ⟨0, 16⟩, .settle 0,
    .release ⟨.hip, "hipFree"⟩ 32, .free 0]

theorem device_agrees_reusedAddressActions :
    (History.run? step? reusedAddressActions (new ⟨100, .warn, .optimistic, none⟩)).isSome = true ∧
      History.Along step?
        (fun e action after _ => e.GrantsFresh action ∧ after.device.total < UInt64.size)
        reusedAddressActions (new ⟨100, .warn, .optimistic, none⟩) ∧
      History.Along step? (fun e action _ _ => e.ReleasesOwned action)
        reusedAddressActions (new ⟨100, .warn, .optimistic, none⟩) ∧
      History.Always step?
        (fun e =>
          e.device.total = e.gate.ledger.used.toNat + e.grantedBytes + e.leavingBytes ∧
            (e.Idle → e.gate.ledger.used.toNat = e.device.total ∧
              ∀ handle, e.gate.ledger.tracked? handle = e.device.find? handle))
        reusedAddressActions (new ⟨100, .warn, .optimistic, none⟩) ∧
      History.Along step?
        (fun e action _ events =>
          e.SettlesFresh action ∧ ∀ event ∈ events, event.isStale = false)
        reusedAddressActions (new ⟨100, .warn, .optimistic, none⟩) := by
  have hdevice : History.Along step?
      (fun e action after _ => e.GrantsFresh action ∧ after.device.total < UInt64.size)
      reusedAddressActions (new ⟨100, .warn, .optimistic, none⟩) := by decide
  have hcallers : History.Along step? (fun e action _ _ => e.ReleasesOwned action)
      reusedAddressActions (new ⟨100, .warn, .optimistic, none⟩) := by decide
  exact ⟨by decide, hdevice, hcallers, device_agrees_along _ _ hdevice hcallers⟩

end Exchange

end DeviceQuota
