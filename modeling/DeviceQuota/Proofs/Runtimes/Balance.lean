import DeviceQuota.Proofs.Hook.Call
import DeviceQuota.Proofs.Ledger.Charge
import DeviceQuota.Runtimes
import Mathlib.Data.List.Perm.Basic

/-!
# Several runtimes, one ledger

The table of the ledger is keyed by the bare address, whichever runtime handed it out, and an address
that is granted while it is still tracked is taken for a release that passed the hooks by. Runtimes
that know nothing of each other may hold the same address at the same time without any such release:
the second grant then drops the charge of the first, as `used_ne_total_sharedAddress` shows.

As long as no address is live with two runtimes at a time, the vendors do not disturb each other, and
the charge is what all runtimes together have handed out.

* **`Runtimes.Move`** — what a call does to the ledger and to its runtime;
* **`Runtimes.Balanced`** — the invariant: up to order the table holds what the runtimes handed out;
* **`Runtimes.used_eq_total_of_apart`** — the charge after every call.
-/

namespace DeviceQuota.Runtimes

/-! ### What the runtimes hold -/

/-- What the runtimes of all vendors but `v` handed out and did not take back. -/
def others (r : Runtimes) (v : Vendor) : List (Handle × Bytes) :=
  (Vendor.all.erase v).flatMap fun w => (r.live w).entries

variable {r u : Runtimes} {action : Action} {events : List Event}

theorem entries_perm (r : Runtimes) (v : Vendor) :
    r.entries.Perm ((r.live v).entries ++ r.others v) :=
  (List.perm_cons_erase (Vendor.mem_all v)).flatMap_right _

theorem others_eq {v : Vendor} (h : ∀ w, w ≠ v → u.live w = r.live w) : u.others v = r.others v := by
  have hnodup : Vendor.all.Nodup := by decide
  refine List.flatMap_congr fun w hmem => ?_
  rw [h w (hnodup.mem_erase_iff.1 hmem).1]

theorem mem_entries_iff {handle : Handle} {size : Bytes} :
    (handle, size) ∈ r.entries ↔ ∃ v, (r.live v).find? handle = some size := by
  rw [entries, List.mem_flatMap]
  constructor
  · rintro ⟨v, -, hmem⟩
    exact ⟨v, HandleMap.mem_entries_iff.1 hmem⟩
  · rintro ⟨v, hfound⟩
    exact ⟨v, Vendor.mem_all v, HandleMap.mem_entries_iff.2 hfound⟩

/-! ### What a call does -/

/-- What a call does: it leaves the charges and what the runtimes hold as they are, or its runtime
hands out an address that is charged, or takes one back that was released. -/
inductive Move (r : Runtimes) (action : Action) (u : Runtimes) : Prop where
  | untouched (hused : u.hooks.gate.ledger.used = r.hooks.gate.ledger.used)
      (htable : u.hooks.gate.ledger.table = r.hooks.gate.ledger.table) (hlive : u.live = r.live)
  | granted {handle : Handle} {size : Bytes} {admitted : Gate}
      (hgrant : r.grant? action = some (handle, size)) (hne : handle ≠ 0)
      (hpass : r.hooks.gate.request size = .ok admitted)
      (hledger : u.hooks.gate.ledger = admitted.ledger.charge handle size)
      (hheld : u.live (action.call.owner action.vendor)
        = (r.live (action.call.owner action.vendor)).insert handle size)
      (hothers : ∀ v, v ≠ action.call.owner action.vendor → u.live v = r.live v)
  | freed {handle : Handle} {status : Status} {site : CallSite}
      (hcall : action.call = .free handle status)
      (hledger : u.hooks.gate.ledger = (r.hooks.gate.ledger.release site handle).1)
      (hheld : u.live action.vendor = (r.live action.vendor).erase handle)
      (hothers : ∀ v, v ≠ action.vendor → u.live v = r.live v)

/-- The other runtimes do not hear of a call. -/
theorem live_of_step? (h : r.step? action = some (u, events)) :
    u.hooks = (r.result action).hooks ∧
      u.live (action.call.owner action.vendor) = r.exchanged action ∧
      ∀ v, v ≠ action.call.owner action.vendor → u.live v = r.live v := by
  obtain ⟨rfl, -⟩ := Prod.mk.inj (Option.some.inj h)
  refine ⟨rfl, if_pos rfl, fun v hne => if_neg hne⟩

theorem live_eq {v : Vendor} (hheld : u.live v = r.live v)
    (hothers : ∀ w, w ≠ v → u.live w = r.live w) : u.live = r.live := by
  funext w
  by_cases hsame : w = v
  · rw [hsame, hheld]
  · exact hothers w hsame

theorem exchanged_of_grant {handle : Handle} {size : Bytes}
    (hgrant : r.grant? action = some (handle, size)) :
    r.exchanged action = (r.live (action.call.owner action.vendor)).insert handle size := by
  simp [exchanged, hgrant]

theorem exchanged_of_none (hgrant : r.grant? action = none)
    (hfreed : action.call.freed? action.vendor (r.result action) = none) :
    r.exchanged action = r.live (action.call.owner action.vendor) := by
  simp [exchanged, hgrant, hfreed]

theorem untouched_of_none {after : Gate} (h : r.step? action = some (u, events))
    (hgate : (r.result action).hooks.gate = after)
    (hused : after.ledger.used = r.hooks.gate.ledger.used)
    (htable : after.ledger.table = r.hooks.gate.ledger.table) (hgrant : r.grant? action = none)
    (hfreed : action.call.freed? action.vendor (r.result action) = none) : r.Move action u := by
  obtain ⟨hhooks, hheld, hothers⟩ := live_of_step? h
  rw [exchanged_of_none hgrant hfreed] at hheld
  refine .untouched ?_ ?_ (live_eq hheld hothers)
  · rw [hhooks, hgate, hused]
  · rw [hhooks, hgate, htable]

/-- An allocation that is passed on hands out an address exactly if the gate charges it. -/
theorem move_of_passAllocation {found : Hooks} {site : CallSite} {address : Address} {size : Bytes}
    {extra : Int} {out : Cell} {real : Granting} (h : r.step? action = some (u, events))
    (hgate : found.gate = r.hooks.gate)
    (hresult : (r.result action).hooks
      = (found.passAllocation site address size extra out real).hooks)
    (hgrant : r.grant? action =
      if (found.passAllocation site address size extra out real).succeeded site.vendor &&
          (found.passAllocation site address size extra out real).address != 0 then
        some ((found.passAllocation site address size extra out real).address, size)
      else none)
    (hfreed : action.call.freed? action.vendor (r.result action) = none) : r.Move action u := by
  cases hrequest : found.gate.request size with
  | error why =>
    rw [Hooks.passAllocation_of_denied site address extra out real hrequest] at hresult hgrant
    have hafter : (r.result action).hooks.gate = r.hooks.gate.refuse := by
      rw [hresult, Hooks.gate_withGate, hgate]
    exact untouched_of_none h hafter rfl rfl hgrant hfreed
  | ok admitted =>
    rw [Hooks.passAllocation_of_admitted site address extra out real hrequest] at hresult hgrant
    rw [hgate] at hrequest
    have hafter : (r.result action).hooks.gate
        = admitted.settled site size (real.outcome site out) := by
      rw [hresult, Hooks.gate_withGate]
    have hcharged := real.granted_outcome site out
    have hoffer : r.grant? action = if (real.outcome site out).granted site.vendor then
        some ((out.store? real.stored).load, size) else none := by
      rw [hgrant, hcharged]
      rfl
    clear hgrant
    obtain ⟨hhooks, hheld, hothers⟩ := live_of_step? h
    cases hgranted : (real.outcome site out).granted site.vendor with
    | true =>
      rw [hgranted, if_pos rfl] at hoffer
      rw [hgranted, eq_comm, Bool.and_eq_true, bne_iff_ne] at hcharged
      rw [exchanged_of_grant hoffer] at hheld
      refine .granted hoffer hcharged.2 hrequest ?_ hheld hothers
      rw [hhooks, hafter, Gate.settled, Gate.ledger_withLedger,
        Ledger.fst_settle_of_granted _ _ hgranted, Granting.handle_outcome out hcharged.1]
    | false =>
      rw [hgranted, if_neg Bool.false_ne_true] at hoffer
      obtain ⟨l, hpass, rfl⟩ := Gate.request_eq_ok_iff.1 hrequest
      have hcancelled : (Gate.settled (r.hooks.gate.withLedger l) site size
          (real.outcome site out)).ledger = r.hooks.gate.ledger := by
        rw [Gate.settled, Gate.ledger_withLedger, Ledger.settle_of_not_granted _ _ hgranted]
        exact Ledger.cancel_of_request hpass
      refine untouched_of_none h hafter ?_ ?_ hoffer hfreed
      · rw [hcancelled]
      · rw [hcancelled]

theorem move_of_step? (h : r.step? action = some (u, events)) (howned : r.FreesOwned action) :
    r.Move action u := by
  obtain ⟨resolver, vendor, call⟩ := action
  rcases r.hooks.call_cases resolver vendor call with
    ⟨after, logged, hgate, hcall⟩ | ⟨found, address, logged, hgate, hcall⟩
  · -- A call that is given up reaches no runtime.
    have hresult : r.result ⟨resolver, vendor, call⟩ = after.giveUp vendor call logged := hcall
    have hgrant : r.grant? ⟨resolver, vendor, call⟩ = none := by
      rw [grant?, hresult]
      cases call <;> rfl
    have hfreed : call.freed? vendor (r.result ⟨resolver, vendor, call⟩) = none := by
      rw [hresult]
      cases call <;> rfl
    refine untouched_of_none h (congrArg (fun result => result.hooks.gate) hresult) ?_ ?_ hgrant hfreed
    · exact congrArg (fun g : Gate => g.ledger.used) hgate
    · exact congrArg (fun g : Gate => g.ledger.table) hgate
  · cases call with
    | allocate size policy out real =>
      have hhooks : (r.result ⟨resolver, vendor, .allocate size policy out real⟩).hooks
          = (found.passAllocation (HookCall.site vendor (.allocate size policy out real)) address
            size (Hooks.extraOf vendor policy) out real).hooks := by
        rw [result, hcall]
        rfl
      refine move_of_passAllocation h hgate hhooks ?_ rfl
      rw [grant?, result, hcall]
      rfl
    | allocateManaged size flags out real =>
      have hhooks : (r.result ⟨resolver, vendor, .allocateManaged size flags out real⟩).hooks
          = (found.passAllocation (HookCall.site vendor (.allocateManaged size flags out real))
            address size flags.toNat out real).hooks := by
        rw [result, hcall]
        rfl
      refine move_of_passAllocation h hgate hhooks ?_ rfl
      rw [grant?, result, hcall]
      rfl
    | free handle status =>
      have hfreed : r.exchanged ⟨resolver, vendor, .free handle status⟩
          = (r.live vendor).erase handle := by
        have hsuccess : (r.hooks.call resolver vendor (.free handle status)).succeeded vendor
            = true := by
          rw [hcall]
          exact howned.1
        simp [exchanged, grant?, HookCall.grant?, HookCall.freed?, result, hsuccess, HookCall.owner,
          HookCall.site]
      obtain ⟨hhooks, hheld, hothers⟩ := live_of_step? h
      rw [hfreed] at hheld
      have hledger : u.hooks.gate.ledger
          = (r.hooks.gate.ledger.release (HookCall.site vendor (.free handle status)) handle).1 := by
        rw [hhooks, result, hcall]
        show (found.passFree _ address handle status).hooks.gate.ledger = _
        rw [Hooks.gate_passFree, hgate]
        rfl
      exact .freed rfl hledger hheld hothers
    | memInfo attr free total real =>
      have hafter : (r.result ⟨resolver, vendor, .memInfo attr free total real⟩).hooks.gate
          = r.hooks.gate := by
        rw [result, hcall]
        exact (Hooks.gate_passQuery ..).trans hgate
      exact untouched_of_none h hafter rfl rfl rfl rfl

/-! ### The invariant -/

/-- The charge is the exact sum of the table, and the table holds what the runtimes handed out. -/
structure Balanced (r : Runtimes) : Prop where
  conserved : r.hooks.gate.ledger.Conserved
  entries : r.hooks.gate.ledger.table.live.entries.Perm r.entries
  /-- No runtime handed out the null address. -/
  null : ∀ v, (r.live v).find? 0 = none

theorem balanced_new (settings : Settings) (managed : Bool) : (new settings managed).Balanced :=
  ⟨rfl, .refl _, fun _ => rfl⟩

namespace Balanced

theorem used_eq (hinv : r.Balanced) : r.hooks.gate.ledger.used.toNat = r.total := by
  have hused : r.hooks.gate.ledger.used.toNat
      = HandleMap.sumSizes r.hooks.gate.ledger.table.live.entries := hinv.conserved
  rw [hused, total, HandleMap.sumSizes_perm hinv.entries]

/-- A handle is tracked exactly if a runtime handed it out. -/
theorem tracked_iff (hinv : r.Balanced) {handle : Handle} {size : Bytes} :
    r.hooks.gate.ledger.tracked? handle = some size ↔
      ∃ v, (r.live v).find? handle = some size := by
  rw [← mem_entries_iff, ← hinv.entries.mem_iff]
  exact HandleMap.mem_entries_iff.symm

theorem of_untouched (hinv : r.Balanced)
    (hused : u.hooks.gate.ledger.used = r.hooks.gate.ledger.used)
    (htable : u.hooks.gate.ledger.table = r.hooks.gate.ledger.table) (hlive : u.live = r.live) :
    u.Balanced := by
  refine ⟨?_, ?_, ?_⟩
  · show u.hooks.gate.ledger.used.toNat = u.hooks.gate.ledger.table.live.total
    rw [hused, htable]
    exact hinv.conserved
  · rw [htable, Runtimes.entries, hlive]
    exact hinv.entries
  · rw [hlive]
    exact hinv.null

/-- An address that no runtime holds is charged as it is handed out. -/
theorem of_granted {v : Vendor} {handle : Handle} {size : Bytes} {admitted : Gate}
    (hinv : r.Balanced) (hne : handle ≠ 0) (hpass : r.hooks.gate.request size = .ok admitted)
    (hledger : u.hooks.gate.ledger = admitted.ledger.charge handle size)
    (hheld : u.live v = (r.live v).insert handle size)
    (hothers : ∀ w, w ≠ v → u.live w = r.live w)
    (habsent : ∀ w, (r.live w).find? handle = none) : u.Balanced := by
  obtain ⟨l, hrequest, rfl⟩ := Gate.request_eq_ok_iff.1 hpass
  obtain ⟨hfits, hused, -, hlive⟩ := Ledger.request_spec hrequest
  -- No runtime holds the address, so the table does not either.
  have hfresh : l.tracked? handle = none := by
    show l.table.live.find? handle = none
    rw [hlive]
    cases hfound : r.hooks.gate.ledger.table.live.find? handle with
    | none => rfl
    | some stale =>
      obtain ⟨w, hw⟩ := hinv.tracked_iff.1 hfound
      rw [habsent w] at hw
      contradiction
  have hconserved : l.Conserved := by
    show l.used.toNat = l.table.live.total
    rw [hused, hlive]
    exact hinv.conserved
  have hroom : (l.charge handle size).liveTotal < UInt64.size := by
    have hsum := l.liveTotal_charge handle size
    have hword : r.hooks.gate.limit.toNat < UInt64.size := r.hooks.gate.limit.toNat_lt
    have hexact : l.used.toNat = l.liveTotal := hconserved
    rw [hused] at hexact
    omega
  refine ⟨?_, ?_, ?_⟩
  · rw [hledger]
    exact (Ledger.conserved_charge hconserved hroom).2
  · have htable : u.hooks.gate.ledger.table.live.entries
        = (handle, size) :: r.hooks.gate.ledger.table.live.entries := by
      rw [hledger, ← hlive]
      exact HandleMap.entries_insert_of_find?_eq_none size hfresh
    have hafter := u.entries_perm v
    rw [hheld, HandleMap.entries_insert_of_find?_eq_none size (habsent v), others_eq hothers]
      at hafter
    rw [htable]
    exact ((hinv.entries.trans (r.entries_perm v)).cons _).trans hafter.symm
  · intro w
    by_cases hsame : w = v
    · rw [hsame, hheld, HandleMap.find?_insert_of_ne _ _ hne.symm]
      exact hinv.null v
    · rw [hothers w hsame]
      exact hinv.null w

/-- The null handle is forwarded and means nothing to anybody. -/
theorem of_freed_null {v : Vendor} {site : CallSite} (hinv : r.Balanced)
    (hledger : u.hooks.gate.ledger = (r.hooks.gate.ledger.release site 0).1)
    (hheld : u.live v = (r.live v).erase 0) (hothers : ∀ w, w ≠ v → u.live w = r.live w) :
    u.Balanced := by
  rw [Ledger.release_null] at hledger
  rw [HandleMap.erase_of_find?_eq_none (hinv.null v)] at hheld
  refine hinv.of_untouched ?_ ?_ (live_eq hheld hothers)
  · rw [hledger]
  · rw [hledger]

theorem of_freed {v : Vendor} {handle : Handle} {size : Bytes} {site : CallSite}
    (hinv : r.Balanced) (hne : handle ≠ 0) (hfound : (r.live v).find? handle = some size)
    (hledger : u.hooks.gate.ledger = (r.hooks.gate.ledger.release site handle).1)
    (hheld : u.live v = (r.live v).erase handle) (hothers : ∀ w, w ≠ v → u.live w = r.live w) :
    u.Balanced := by
  have htracked : r.hooks.gate.ledger.tracked? handle = some size := hinv.tracked_iff.2 ⟨v, hfound⟩
  rw [Ledger.fst_release_of_tracked site hne htracked] at hledger
  refine ⟨?_, ?_, ?_⟩
  · rw [hledger]
    exact (Ledger.conserved_discharge hinv.conserved htracked).2
  · -- The entry goes from the table and from the vendor's runtime.
    have htable := HandleMap.entries_perm_of_find? htracked
    have hbefore := (r.entries_perm v).trans
      ((HandleMap.entries_perm_of_find? hfound).append_right (r.others v))
    have hafter := u.entries_perm v
    rw [hheld, others_eq hothers] at hafter
    have hboth := htable.symm.trans (hinv.entries.trans hbefore)
    rw [hledger]
    exact hboth.cons_inv.trans hafter.symm
  · intro w
    by_cases hsame : w = v
    · rw [hsame, hheld, HandleMap.find?_erase_of_ne _ hne.symm]
      exact hinv.null v
    · rw [hothers w hsame]
      exact hinv.null w

/-- **One call** keeps the balance, if the runtime hands out no address that is live with any vendor
and the caller frees what it owns. -/
theorem of_move (hinv : r.Balanced) (h : r.Move action u) (hapart : r.GrantsApart action)
    (howned : r.FreesOwned action) : u.Balanced := by
  cases h with
  | untouched hused htable hlive => exact hinv.of_untouched hused htable hlive
  | granted hgrant hne hpass hledger hheld hothers =>
    have habsent : ∀ w, (r.live w).find? _ = none := fun w => hapart _ hgrant w (Vendor.mem_all w)
    exact hinv.of_granted hne hpass hledger hheld hothers habsent
  | @freed handle status site hcall hledger hheld hothers =>
    rw [FreesOwned, hcall] at howned
    by_cases hnull : handle = 0
    · rw [hnull] at hledger hheld
      exact hinv.of_freed_null hledger hheld hothers
    · obtain ⟨size, hfound⟩ := Option.isSome_iff_exists.1 (howned.2.resolve_left hnull)
      exact hinv.of_freed hnull hfound hledger hheld hothers

end Balanced

/-! ### Every history -/

/-- **The vendors do not disturb each other's charges** while no address is live with two of their
runtimes at a time. After every call the charge is the sum of what all runtimes handed out and did
not take back. -/
theorem used_eq_total_of_apart (settings : Settings) (managed : Bool) (actions : List Action)
    (hruntimes : History.Along step? (fun r action _ _ => r.GrantsApart action)
      actions (new settings managed))
    (hcallers : History.Along step? (fun r action _ _ => r.FreesOwned action)
      actions (new settings managed)) :
    History.Always step? (fun r => r.hooks.gate.ledger.used.toNat = r.total)
      actions (new settings managed) := by
  refine ⟨(balanced_new settings managed).used_eq, ?_⟩
  refine History.along_of_invariant (I := Balanced) ?_ actions (new settings managed)
    (balanced_new settings managed) (hruntimes.and hcallers)
  rintro r action u events hstep hinv ⟨hapart, howned⟩
  have hafter := hinv.of_move (move_of_step? hstep howned) hapart howned
  exact ⟨hafter, hafter.used_eq⟩

/-- The call of a hook whose functions are all found. -/
def Action.found (vendor : Vendor) (call : HookCall) : Action := ⟨fun _ => some 1, vendor, call⟩

/-- Three vendors allocate and free in turn. HIP is handed the address that CUDA held before. -/
def movedAddressActions : List Action :=
  [.found .cuda (.allocate 60 0 ⟨0, false⟩ ⟨0, some 16⟩),
    .found .acl (.allocate 30 0 ⟨0, false⟩ ⟨0, some 32⟩),
    .found .hip (.allocate 20 0 ⟨0, false⟩ ⟨0, some 48⟩), .found .cuda (.free 16 0),
    .found .hip (.allocate 20 0 ⟨0, false⟩ ⟨0, some 16⟩), .found .acl (.free 0 0),
    .found .hip (.free 16 0), .found .acl (.free 32 0)]

theorem used_eq_total_movedAddressActions :
    History.Along step? (fun r action _ _ => r.GrantsApart action) movedAddressActions
        (new ⟨100, .warn, .optimistic, none⟩ false) ∧
      History.Along step? (fun r action _ _ => r.FreesOwned action) movedAddressActions
        (new ⟨100, .warn, .optimistic, none⟩ false) ∧
      History.Always step? (fun r => r.hooks.gate.ledger.used.toNat = r.total) movedAddressActions
        (new ⟨100, .warn, .optimistic, none⟩ false) := by
  have hruntimes : History.Along step? (fun r action _ _ => r.GrantsApart action)
      movedAddressActions (new ⟨100, .warn, .optimistic, none⟩ false) := by decide
  have hcallers : History.Along step? (fun r action _ _ => r.FreesOwned action)
      movedAddressActions (new ⟨100, .warn, .optimistic, none⟩ false) := by decide
  exact ⟨hruntimes, hcallers, used_eq_total_of_apart _ _ _ hruntimes hcallers⟩

/-- CUDA and HIP hand out the same address, each for the first time. -/
def sharedAddressActions : List Action :=
  [.found .cuda (.allocate 100 0 ⟨0, false⟩ ⟨0, some 16⟩),
    .found .hip (.allocate 50 0 ⟨0, false⟩ ⟨0, some 16⟩)]

/-- It is not enough that each runtime keeps its own addresses apart: the second grant takes the
charge of the first one with it, though nobody has freed that. -/
theorem used_ne_total_sharedAddress :
    History.Along step? (fun r action _ _ => r.GrantsFresh action ∧ r.FreesOwned action)
        sharedAddressActions (new ⟨1000, .warn, .optimistic, none⟩ false) ∧
      ¬History.Always step? (fun r => r.hooks.gate.ledger.used.toNat = r.total)
        sharedAddressActions (new ⟨1000, .warn, .optimistic, none⟩ false) := by
  constructor
  · decide
  · decide

end DeviceQuota.Runtimes
