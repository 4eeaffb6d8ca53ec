import DeviceQuota.Proofs.Exchange.Move
import Mathlib.Data.List.Nodup
import Mathlib.Data.List.Perm.Subperm

/-!
# The device under a strict quota

In strict mode an allocation keeps everyone else from the ledger until it is settled, so that what
is charged and what is promised stay within the quota. This bounds the ledger, not the device: a
release takes the charge back before it asks the device, and an allocation may be let through in
between. `limit_lt_total_lateFreeActions` is such a history.

What the device holds besides the quota is on its way out: `device_total_le_along` bounds it by the
sizes of the releases under way. Nothing is assumed of the callers, who may release any handle at
any time, even one whose allocation is not settled.

* **`Exchange.Covered`** — the invariant. What the device holds is accounted for, but an account may
  have nothing on the device behind it;
* **`Exchange.Covered.of_move`** — one step keeps it;
* **`Exchange.device_total_le_along`** — the bound along every history.
-/

namespace DeviceQuota.Exchange

/-- A strict quota covers what the device holds. -/
structure Covered (limit : Bytes) (e : Exchange) : Prop where
  strict : e.gate.mode = .strict
  /-- One allocation at most is under way. -/
  alone : e.crossings.length ≤ 1
  within : e.traffic.Within limit
  /-- What the device holds is accounted for. -/
  accounted : ∀ entry ∈ e.device.entries, entry ∈ e.accounted
  /-- If the device still holds a grant that is not settled, it holds it with its size. -/
  held : ∀ grant ∈ e.granted, ∀ size, e.device.find? grant.1 = some size → size = grant.2

variable {e f : Exchange} {action : Action} {events : List Event} {limit : Bytes}

theorem covered_new {settings : Settings} (hstrict : settings.mode = .strict) :
    (new settings).Covered settings.limit where
  strict := hstrict
  alone := Nat.zero_le 1
  within := Traffic.within_new settings
  accounted := by simp [new, HandleMap.empty]
  held := by simp [new, granted]

/-! ### Sizes of entries -/

/-- Entries without repetition are no larger than a list that holds all of them. -/
theorem sumSizes_le_of_subset {xs ys : List (Handle × Bytes)} (hnodup : xs.Nodup)
    (h : ∀ entry ∈ xs, entry ∈ ys) : HandleMap.sumSizes xs ≤ HandleMap.sumSizes ys := by
  obtain ⟨zs, hperm, hsublist⟩ := List.subperm_of_subset hnodup h
  rw [← HandleMap.sumSizes_perm hperm]
  exact HandleMap.sumSizes_le_of_sublist hsublist

/-- A grant is part of what its request was promised. -/
theorem grantedBytes_le_promised (e : Exchange) : e.grantedBytes ≤ e.traffic.promised := by
  simp only [grantedBytes, granted, Traffic.promised, traffic, List.map_map]
  induction e.crossings with
  | nil => exact Nat.le_refl _
  | cons crossing crossings ih =>
    obtain ⟨flight, answer⟩ := crossing
    rw [List.filterMap_cons, List.map_cons, List.sum_cons]
    cases hgrant : Crossing.grant? ⟨flight, answer⟩ with
    | none => exact Nat.le_trans ih (Nat.le_add_left _ _)
    | some grant =>
      have hsize : grant.2 = flight.size := Crossing.size_of_grant? hgrant
      simp only [HandleMap.sumSizes, hsize]
      exact Nat.add_le_add_left ih _

/-- A list of one holds nothing else. -/
theorem eq_of_mem_of_length_le_one {α : Type} {xs : List α} {place : Nat} {x y : α}
    (hone : xs.length ≤ 1) (hx : xs[place]? = some x) (hy : y ∈ xs) : y = x := by
  obtain ⟨hlt, rfl⟩ := List.getElem?_eq_some_iff.1 hx
  obtain ⟨other, hother, rfl⟩ := List.mem_iff_getElem.1 hy
  have hsame : other = place := by omega
  subst hsame
  rfl

namespace Covered

/-! ### What covers the device -/

/-- **The device holds the quota and what is on its way out.** -/
theorem total_le (hinv : e.Covered limit) : e.device.total ≤ limit.toNat + e.leavingBytes := by
  have hnodup : e.device.entries.Nodup := List.Nodup.of_map _ e.device.nodup
  have hsum : e.device.total ≤ HandleMap.sumSizes e.accounted :=
    sumSizes_le_of_subset hnodup hinv.accounted
  have hused : e.gate.ledger.used.toNat
      = HandleMap.sumSizes e.gate.ledger.table.live.entries := hinv.within.conserved
  have hgranted : HandleMap.sumSizes e.granted ≤ e.traffic.promised := e.grantedBytes_le_promised
  have hbound : e.gate.ledger.used.toNat + e.traffic.promised ≤ limit.toNat := hinv.within.sum_le
  rw [Exchange.accounted, HandleMap.sumSizes_append, HandleMap.sumSizes_append] at hsum
  show _ ≤ _ + HandleMap.sumSizes e.leaving
  omega

/-! ### What a step does to the cover -/

/-- The ledger's part of the invariant. -/
theorem within_of_move (hinv : e.Covered limit) (h : e.Move action f events) :
    f.gate.mode = .strict ∧ f.crossings.length ≤ 1 ∧ f.traffic.Within limit := by
  have halone : e.traffic.flights.length ≤ 1 := by
    rw [traffic, List.length_map]
    exact hinv.alone
  have hlength : f.traffic.flights.length = f.crossings.length := List.length_map _
  rcases traffic_of_move h with hsame | ⟨phase, seen, hmove⟩
  · have hgate : f.gate = e.gate := congrArg Traffic.gate hsame
    rw [hgate, ← hlength, hsame]
    exact ⟨hinv.strict, halone, hinv.within⟩
  · have hone := Traffic.length_flights_le_one_of_move hmove hinv.strict halone
    refine ⟨(Traffic.mode_of_move hmove).trans hinv.strict, ?_, hinv.within.of_move hmove hone⟩
    rw [← hlength]
    exact hone

theorem accounted_of_move (hinv : e.Covered limit) (h : e.Move action f events)
    (hfresh : e.GrantsFresh action) : ∀ entry ∈ f.device.entries, entry ∈ f.accounted := by
  cases h with
  | admitted hfree hpass =>
    rw [accounted_admitted hpass]
    exact hinv.accounted
  | refused hfree hdenied => exact hinv.accounted
  | @answered place flight real hcrossing =>
    intro entry hentry
    rw [(accounted_answered real hcrossing).mem_iff, List.mem_append]
    cases hgranted : real.granted flight.site.vendor with
    | true =>
      have habsent := hfresh ⟨flight, none⟩ hcrossing hgranted
      rw [device_answered_of_granted e place hgranted,
        HandleMap.entries_insert_of_find?_eq_none flight.size habsent] at hentry
      rw [Crossing.grant?_of_granted hgranted]
      rcases List.mem_cons.1 hentry with rfl | hbefore
      · exact .inl (by simp)
      · exact .inr (hinv.accounted entry hbefore)
    | false =>
      rw [device_answered_of_not_granted e place hgranted] at hentry
      exact .inr (hinv.accounted entry hentry)
  | @settled place flight real hcrossing =>
    intro entry hentry
    have hbefore := hinv.accounted entry hentry
    cases hgranted : real.granted flight.site.vendor with
    | false => exact (accounted_settled_of_not_granted hcrossing hgranted).mem_iff.1 hbefore
    | true =>
      have hgrant : (real.handle, flight.size) ∈ e.granted :=
        List.mem_filterMap.2 ⟨_, List.mem_of_getElem? hcrossing, Crossing.grant?_of_granted hgranted⟩
      rw [(accounted_settled_of_granted hcrossing hgranted).mem_iff, List.mem_append] at hbefore
      rcases hbefore with hstale | hafter
      · -- The stale entry goes, but the device holds the address for the new grant.
        obtain ⟨stale, -, rfl⟩ : ∃ stale, e.gate.ledger.tracked? real.handle = some stale ∧
            (real.handle, stale) = entry := by simpa using hstale
        obtain rfl : stale = flight.size :=
          hinv.held _ hgrant stale (HandleMap.mem_entries_iff.1 hentry)
        have hnew : (e.settled place flight real).gate.ledger.tracked? real.handle
            = some flight.size := by
          rw [ledger_settled_of_granted e place hgranted]
          exact HandleMap.find?_insert_self _ _ _
        exact List.mem_append_left _ (HandleMap.mem_entries_iff.2 hnew)
      · exact hafter
  | @released site handle hfree =>
    intro entry hentry
    have hbefore := hinv.accounted entry hentry
    by_cases hnull : handle = 0
    · rw [(accounted_released_of_untracked site (.inl hnull)).mem_iff]
      exact List.mem_cons_of_mem _ hbefore
    · cases hfound : e.gate.ledger.tracked? handle with
      | some size => exact (accounted_released_of_tracked site hnull hfound).mem_iff.2 hbefore
      | none =>
        rw [(accounted_released_of_untracked site (.inr hfound)).mem_iff]
        exact List.mem_cons_of_mem _ hbefore
  | @freed place handle size hleaving =>
    intro entry hentry
    obtain ⟨hheld, hother⟩ := List.mem_filter.1 hentry
    have hbefore := hinv.accounted entry hheld
    rw [(accounted_freed hleaving (e.device.erase handle)).mem_iff, List.mem_cons] at hbefore
    rcases hbefore with rfl | hafter
    · simp at hother
    · exact hafter

theorem held_of_move (hinv : e.Covered limit) (h : e.Move action f events) :
    ∀ grant ∈ f.granted, ∀ size, f.device.find? grant.1 = some size → size = grant.2 := by
  cases h with
  | @admitted site size gate hfree hpass =>
    intro grant hgrant
    have hbefore : grant ∈ e.granted := by
      simpa [granted, Crossing.grant?] using hgrant
    exact hinv.held grant hbefore
  | refused | released => exact hinv.held
  | @answered place flight real hcrossing =>
    intro grant hgrant n hfound
    obtain ⟨crossing, hmem, hgives⟩ := List.mem_filterMap.1 hgrant
    obtain ⟨hlt, -⟩ := List.getElem?_eq_some_iff.1 hcrossing
    have hset : (e.answered place flight real).crossings[place]? = some ⟨flight, some real⟩ :=
      List.getElem?_set_self hlt
    have hone : (e.answered place flight real).crossings.length ≤ 1 := by
      simpa [answered] using hinv.alone
    obtain rfl := eq_of_mem_of_length_le_one hone hset hmem
    cases hgranted : real.granted flight.site.vendor with
    | true =>
      rw [Crossing.grant?_of_granted hgranted] at hgives
      obtain rfl := Option.some.inj hgives
      rw [device_answered_of_granted e place hgranted, HandleMap.find?_insert_self] at hfound
      exact (Option.some.inj hfound).symm
    | false =>
      rw [Crossing.grant?_of_not_granted hgranted] at hgives
      contradiction
  | @settled place flight real hcrossing =>
    intro grant hgrant
    have hsublist := (e.crossings.eraseIdx_sublist place).filterMap Crossing.grant?
    exact hinv.held grant (hsublist.subset hgrant)
  | @freed place handle size hleaving =>
    intro grant hgrant n hfound
    by_cases hsame : grant.1 = handle
    · rw [hsame, HandleMap.find?_erase_self] at hfound
      contradiction
    · rw [HandleMap.find?_erase_of_ne _ hsame] at hfound
      exact hinv.held grant hgrant n hfound

/-- **One step** keeps what the device holds covered, on a device that grants fresh addresses. -/
theorem of_move (hinv : e.Covered limit) (h : e.Move action f events)
    (hfresh : e.GrantsFresh action) : f.Covered limit :=
  have hledger := hinv.within_of_move h
  { strict := hledger.1
    alone := hledger.2.1
    within := hledger.2.2
    accounted := hinv.accounted_of_move h hfresh
    held := hinv.held_of_move h }

end Covered

/-- **The device under a strict quota.** Along every history of a strict gate, on a device that
grants only addresses that are not live on it, what the device holds exceeds the quota at most by
what releases took out of the table and did not free yet; with no release under way the device is
within the quota. -/
theorem device_total_le_along (settings : Settings) (hstrict : settings.mode = .strict)
    (actions : List Action)
    (hfresh : History.Along step? (fun e action _ _ => e.GrantsFresh action)
      actions (new settings)) :
    History.Always step?
      (fun e => e.device.total ≤ settings.limit.toNat + e.leavingBytes ∧
        (e.leaving = [] → e.device.total ≤ settings.limit.toNat))
      actions (new settings) := by
  have hbound : ∀ e : Exchange, e.Covered settings.limit →
      e.device.total ≤ settings.limit.toNat + e.leavingBytes ∧
        (e.leaving = [] → e.device.total ≤ settings.limit.toNat) := by
    intro e hinv
    refine ⟨hinv.total_le, fun hnone => ?_⟩
    have htotal := hinv.total_le
    rw [leavingBytes, hnone] at htotal
    exact htotal
  refine ⟨hbound _ (covered_new hstrict), ?_⟩
  refine History.along_of_invariant (I := Covered settings.limit) ?_ actions (new settings)
    (covered_new hstrict) hfresh
  intro e action f events hstep hinv hgrants
  have hafter := hinv.of_move (move_of_step? hstep) hgrants
  exact ⟨hafter, hbound f hafter⟩

/-- A release that the device is late to execute: its charge is gone already, and an allocation of
the whole quota is let through and granted before. -/
def lateFreeActions : List Action :=
  [.request ⟨.cuda, "cudaMalloc"⟩ 10, .answer 0 ⟨0, 16⟩, .settle 0,
    .release ⟨.cuda, "cudaFree"⟩ 16, .request ⟨.cuda, "cudaMalloc"⟩ 10, .answer 0 ⟨0, 32⟩,
    .settle 0, .free 0]

/-- **A strict quota does not bound the device**: while the release is under way, a quota of 10 bytes
has 20 bytes on the device. -/
theorem limit_lt_total_lateFreeActions :
    (History.run? step? lateFreeActions (new ⟨10, .warn, .strict, none⟩)).isSome = true ∧
      History.Along step? (fun e action _ _ => e.GrantsFresh action ∧ e.ReleasesOwned action)
        lateFreeActions (new ⟨10, .warn, .strict, none⟩) ∧
      ¬ History.Always step? (fun e => e.device.total ≤ 10)
        lateFreeActions (new ⟨10, .warn, .strict, none⟩) := by
  decide

theorem device_total_le_lateFreeActions :
    History.Along step? (fun e action _ _ => e.GrantsFresh action)
        lateFreeActions (new ⟨10, .warn, .strict, none⟩) ∧
      History.Always step?
        (fun e => e.device.total ≤ 10 + e.leavingBytes ∧
          (e.leaving = [] → e.device.total ≤ 10))
        lateFreeActions (new ⟨10, .warn, .strict, none⟩) := by
  have hfresh : History.Along step? (fun e action _ _ => e.GrantsFresh action)
      lateFreeActions (new ⟨10, .warn, .strict, none⟩) := by decide
  exact ⟨hfresh, device_total_le_along _ rfl _ hfresh⟩

end DeviceQuota.Exchange
