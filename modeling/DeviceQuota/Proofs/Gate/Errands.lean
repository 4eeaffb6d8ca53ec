import DeviceQuota.Proofs.Traffic.Admission
import Mathlib.Data.List.Induction

/-!
# The order of calls

Allocations of different handles and releases of them do not get into each other's way: what is in
use, which entries are live and how often something was counted depends on what was allocated and
what was released, not on the order. If there is room for all allocations together, every order has
room for the next one, and no handle is still live when it is handed out.

* **`Errand`** — a whole call whose runtime succeeds, **`Errand.items`** and **`Errand.releases`**,
  what errands allocate and release, and **`Errand.Ordered`**: each release after its allocation;
* **`Errand.Admissible`** — there is room for everything that errands allocate;
* **`Errand.Accounts`** — the ledger after errands, told without their order;
  **`Errand.Accounts.after_allocate`** and **`Errand.Accounts.after_release`**, one errand more;
* **`Errand.restores_in_every_order`** — every order of the same allocations and releases.

The peak is not among the accounts: it does depend on the order.
-/

namespace DeviceQuota

open HandleMap (sumSizes)

/-- A whole call whose runtime succeeds. -/
inductive Errand where
  /-- An allocation to which the runtime gives `handle`. -/
  | allocate (site : CallSite) (handle : Handle) (size : Bytes)
  | release (site : CallSite) (handle : Handle)
  deriving DecidableEq, Repr

/-- Two ledgers hold the same and have counted the same; their peaks may differ. -/
structure Ledger.Agrees (l m : Ledger) : Prop where
  used_eq : l.used = m.used
  /-- The live entries are the same, in whatever order. -/
  entries_perm : l.table.live.entries.Perm m.table.live.entries
  reserved_eq : l.table.reserved = m.table.reserved
  allocs_eq : l.allocs = m.allocs
  frees_eq : l.frees = m.frees
  failed_eq : l.failed = m.failed

theorem Ledger.Agrees.tracked?_eq {l m : Ledger} (h : l.Agrees m) (handle : Handle) :
    l.tracked? handle = m.tracked? handle :=
  HandleMap.find?_eq_of_perm h.entries_perm handle

namespace Errand

/-- The call on a gate. -/
def reply (g : Gate) : Errand → Reply Status
  | allocate site handle size => g.allocate site size ⟨site.vendor.codes.success, handle⟩
  | release site handle => g.release site handle site.vendor.codes.success

/-- The handle and the size of an allocation. -/
def item? : Errand → Option (Handle × Bytes)
  | allocate _ handle size => some (handle, size)
  | release _ _ => none

/-- The handle of a release. -/
def released? : Errand → Option Handle
  | allocate _ _ _ => none
  | release _ handle => some handle

/-- What errands allocate. -/
def items (errands : List Errand) : List (Handle × Bytes) := errands.filterMap item?

/-- What errands release. -/
def releases (errands : List Errand) : List Handle := errands.filterMap released?

/-- What errands allocate and do not release. -/
def held (errands : List Errand) : List (Handle × Bytes) :=
  (items errands).filter fun item => item.1 ∉ releases errands

/-- Each release comes after the allocation of its handle; `known` are handles that were allocated
before. -/
def Ordered : List Handle → List Errand → Prop
  | _, [] => True
  | known, allocate _ handle _ :: later => Ordered (handle :: known) later
  | known, release _ handle :: later => handle ∈ known ∧ Ordered known later

instance decidableOrdered : ∀ (known : List Handle) (errands : List Errand),
    Decidable (Ordered known errands)
  | _, [] => inferInstanceAs (Decidable True)
  | known, allocate _ handle _ :: later => decidableOrdered (handle :: known) later
  | known, release _ handle :: later =>
    have := decidableOrdered known later
    inferInstanceAs (Decidable (handle ∈ known ∧ Ordered known later))

end Errand

/-! ### The allocation of a new handle -/

/-- The second ledger has one entry more than the first, and has counted it. -/
structure Ledger.Gains (l m : Ledger) (handle : Handle) (size : Bytes) : Prop where
  used_eq : m.used.toNat = l.used.toNat + size.toNat
  entries_eq : m.table.live.entries = (handle, size) :: l.table.live.entries
  reserved_eq : m.table.reserved = l.table.reserved
  capacity_eq : m.table.capacity = l.table.capacity
  allocs_eq : m.allocs = l.allocs + 1
  frees_eq : m.frees = l.frees
  failed_eq : m.failed = l.failed

/-- A request that passed, charged for a handle that is not tracked. -/
theorem Ledger.gains_of_request {l m : Ledger} {limit size : Bytes} {handle : Handle}
    (h : l.request limit size = .ok m) (habsent : l.tracked? handle = none) :
    l.Gains (m.charge handle size) handle size := by
  obtain ⟨hfits, table, hslot, rfl⟩ := request_eq_ok_iff.1 h
  obtain ⟨-, rfl⟩ := Table.reserve?_eq_ok_iff.1 hslot
  let promised : Ledger := { l with table := { l.table with reserved := l.table.reserved + 1 } }
  have hbytes : promised.trackedBytes handle = 0 := by
    rw [trackedBytes, show promised.tracked? handle = none from habsent]
    rfl
  have hlt : promised.used.toNat + size.toNat < UInt64.size :=
    Nat.lt_of_le_of_lt hfits limit.toNat_lt
  refine ⟨?_, HandleMap.entries_insert_of_find?_eq_none size habsent, rfl, rfl, rfl, rfl, rfl⟩
  show (promised.charge handle size).used.toNat = promised.used.toNat + size.toNat
  rw [toNat_used_charge, hbytes, Nat.sub_zero, if_pos hlt]

/-- An allocation that fits, and to which the runtime gives a new handle. -/
theorem Gate.gains_of_fits {g : Gate} (site : CallSite) {handle : Handle} {size : Bytes}
    (hfits : g.ledger.Fits g.limit size) (hne : handle ≠ 0)
    (habsent : g.ledger.tracked? handle = none) :
    ∃ l, g.ledger.Gains l handle size ∧
      (g.allocate site size ⟨site.vendor.codes.success, handle⟩).gate = g.withLedger l := by
  obtain ⟨m, hrequest⟩ := Ledger.exists_request_iff.2 hfits
  refine ⟨m.charge handle size, Ledger.gains_of_request hrequest habsent, ?_⟩
  have hpass : g.request size = .ok (g.withLedger m) :=
    Gate.request_eq_ok_iff.2 ⟨m, hrequest, rfl⟩
  rw [← Ledger.fst_settle_of_granted m size (Outcome.granted_success site.vendor hne)]
  simp [allocate, hpass, withLedger]

/-! ### Errands, one after the other -/

namespace Gate

/-- The gate after errands, one after the other. -/
def serve (g : Gate) (errands : List Errand) : Gate :=
  errands.foldl (fun g errand => (errand.reply g).gate) g

/-- The replies to errands, one after the other. -/
def replies : Gate → List Errand → List (Reply Status)
  | _, [] => []
  | g, errand :: later => errand.reply g :: (errand.reply g).gate.replies later

theorem serve_concat (g : Gate) (errands : List Errand) (errand : Errand) :
    g.serve (errands ++ [errand]) = (errand.reply (g.serve errands)).gate := by
  simp [serve]

theorem replies_concat (g : Gate) (errands : List Errand) (errand : Errand) :
    g.replies (errands ++ [errand]) = g.replies errands ++ [errand.reply (g.serve errands)] := by
  induction errands generalizing g with
  | nil => rfl
  | cons first later ih =>
    simp only [List.cons_append, replies, ih]
    rfl

end Gate

namespace Errand

variable {errands : List Errand} {errand : Errand} {site : CallSite} {handle : Handle}
  {size : Bytes} {start g : Gate}

/-! ### One errand more -/

theorem items_allocate (errands : List Errand) (site : CallSite) (handle : Handle) (size : Bytes) :
    items (errands ++ [allocate site handle size]) = items errands ++ [(handle, size)] := by
  simp [items, item?]

theorem items_release (errands : List Errand) (site : CallSite) (handle : Handle) :
    items (errands ++ [release site handle]) = items errands := by
  simp [items, item?]

theorem releases_allocate (errands : List Errand) (site : CallSite) (handle : Handle)
    (size : Bytes) : releases (errands ++ [allocate site handle size]) = releases errands := by
  simp [releases, released?]

theorem releases_release (errands : List Errand) (site : CallSite) (handle : Handle) :
    releases (errands ++ [release site handle]) = releases errands ++ [handle] := by
  simp [releases, released?]

theorem Ordered.of_concat {known : List Handle} (h : Ordered known (errands ++ [errand])) :
    Ordered known errands := by
  induction errands generalizing known with
  | nil => trivial
  | cons first later ih =>
    cases first with
    | allocate => exact ih h
    | release => exact ⟨h.1, ih h.2⟩

/-- The handle of the last release was allocated before. -/
theorem Ordered.mem_of_release {known : List Handle}
    (h : Ordered known (errands ++ [release site handle])) :
    handle ∈ known ∨ handle ∈ (items errands).map Prod.fst := by
  induction errands generalizing known with
  | nil => exact .inl h.1
  | cons first later ih =>
    cases first with
    | allocate _ other size =>
      rcases ih h with hknown | hlater
      · rcases List.mem_cons.1 hknown with rfl | hbefore
        · exact .inr (by simp [items, item?])
        · exact .inl hbefore
      · exact .inr (by simp_all [items, item?])
    | release => exact ih h.2

/-- What is released was allocated before. -/
theorem Ordered.releases_subset (h : Ordered [] errands) :
    releases errands ⊆ (items errands).map Prod.fst := by
  induction errands using List.reverseRecOn with
  | nil => exact List.nil_subset _
  | append_singleton errands errand ih =>
    have hbefore := ih h.of_concat
    cases errand with
    | allocate =>
      rw [releases_allocate, items_allocate, List.map_append]
      exact List.subset_append_of_subset_left _ hbefore
    | release =>
      rw [releases_release, items_release]
      refine List.append_subset.2 ⟨hbefore, List.cons_subset.2 ⟨?_, List.nil_subset _⟩⟩
      simpa using h.mem_of_release

/-! ### Room for all of them -/

/-- Errands for which there is room at the start: the handles that they allocate are new and differ,
and all of them together fit into what is left of the quota and of the slots. -/
structure Admissible (start : Gate) (errands : List Errand) : Prop where
  ordered : Ordered [] errands
  handles_nodup : ((items errands).map Prod.fst).Nodup
  releases_nodup : (releases errands).Nodup
  fresh : ∀ item ∈ items errands, item.1 ≠ 0 ∧ start.ledger.tracked? item.1 = none
  bytes_le : start.ledger.used.toNat + sumSizes (items errands) ≤ start.limit.toNat
  slots_le : ∀ slots, start.ledger.table.capacity = some slots →
    start.ledger.table.occupied + (items errands).length ≤ slots

theorem Admissible.of_concat (h : Admissible start (errands ++ [errand])) :
    Admissible start errands := by
  have hitems : items (errands ++ [errand]) = items errands ++ items [errand] :=
    List.filterMap_append
  have hreleases : releases (errands ++ [errand]) = releases errands ++ releases [errand] :=
    List.filterMap_append
  obtain ⟨hordered, hhandles, honce, hfresh, hbytes, hslots⟩ := h
  rw [hitems, List.map_append] at hhandles
  rw [hreleases] at honce
  rw [hitems, HandleMap.sumSizes_append] at hbytes
  refine ⟨hordered.of_concat, (List.nodup_append.1 hhandles).1, (List.nodup_append.1 honce).1,
    fun item hmem => hfresh item (hitems ▸ List.mem_append_left _ hmem), by omega, ?_⟩
  intro slots hcapacity
  have hroom := hslots slots hcapacity
  rw [hitems, List.length_append] at hroom
  omega

/-! ### What is held -/

theorem held_sublist (errands : List Errand) : (held errands).Sublist (items errands) :=
  List.filter_sublist

/-- What is held depends on what was allocated and what was released, not on the order. -/
theorem held_perm {others : List Errand} (hitems : (items errands).Perm (items others))
    (hreleases : (releases errands).Perm (releases others)) :
    (held errands).Perm (held others) := by
  have hsame : held errands = (items errands).filter fun item => item.1 ∉ releases others :=
    List.filter_congr fun item _ => by simp [hreleases.mem_iff]
  rw [hsame]
  exact hitems.filter _

/-- Nothing is held if everything was released. -/
theorem held_eq_nil (h : (items errands).map Prod.fst ⊆ releases errands) : held errands = [] := by
  refine List.filter_eq_nil_iff.2 fun item hmem => ?_
  simpa using h (List.mem_map_of_mem hmem)

/-- What is allocated last is held, unless its handle was released before. -/
theorem held_allocate (site : CallSite) (size : Bytes) (hnew : handle ∉ releases errands) :
    held (errands ++ [allocate site handle size]) = held errands ++ [(handle, size)] := by
  simp [held, items_allocate, releases_allocate, hnew]

/-- What is released last is not held any longer. -/
theorem held_release (errands : List Errand) (site : CallSite) (handle : Handle) :
    held (errands ++ [release site handle])
      = (held errands).filter fun item => item.1 != handle := by
  rw [held, items_release, releases_release, held, List.filter_filter]
  refine List.filter_congr fun item _ => ?_
  by_cases hsame : item.1 = handle
  · simp [hsame]
  · simp [hsame]

/-! ### Accounts -/

/-- The ledger after errands, told without their order. -/
structure Accounts (start : Gate) (errands : List Errand) (g : Gate) : Prop where
  limit_eq : g.limit = start.limit
  used_eq : g.ledger.used.toNat = start.ledger.used.toNat + sumSizes (held errands)
  entries_perm : g.ledger.table.live.entries.Perm
    (held errands ++ start.ledger.table.live.entries)
  reserved_eq : g.ledger.table.reserved = start.ledger.table.reserved
  capacity_eq : g.ledger.table.capacity = start.ledger.table.capacity
  allocs_eq : g.ledger.allocs = start.ledger.allocs + (items errands).length
  frees_eq : g.ledger.frees = start.ledger.frees + (releases errands).length
  failed_eq : g.ledger.failed = start.ledger.failed

theorem accounts_nil (start : Gate) : Accounts start [] start :=
  ⟨rfl, rfl, .refl _, rfl, rfl, rfl, rfl, rfl⟩

/-- A handle is live if errands hold it or if it was live before. -/
theorem Accounts.tracked?_eq_some_iff (h : Accounts start errands g) :
    g.ledger.tracked? handle = some size ↔
      (handle, size) ∈ held errands ∨ start.ledger.tracked? handle = some size := by
  show g.ledger.table.live.find? handle = some size ↔
    _ ∨ start.ledger.table.live.find? handle = some size
  rw [← HandleMap.mem_entries_iff, ← HandleMap.mem_entries_iff, h.entries_perm.mem_iff,
    List.mem_append]

/-- A handle that was not allocated is as live as it was before. -/
theorem Accounts.tracked?_eq_none (h : Accounts start errands g)
    (hnew : handle ∉ (items errands).map Prod.fst) (habsent : start.ledger.tracked? handle = none) :
    g.ledger.tracked? handle = none := by
  cases hfound : g.ledger.tracked? handle with
  | none => rfl
  | some size =>
    rcases h.tracked?_eq_some_iff.1 hfound with hheld | hbefore
    · exact absurd (List.mem_map_of_mem ((held_sublist errands).subset hheld)) hnew
    · rw [habsent] at hbefore
      contradiction

theorem Accounts.size_le (h : Accounts start errands g) :
    g.ledger.table.size ≤ start.ledger.table.size + (items errands).length := by
  have hlength := h.entries_perm.length_eq
  have hheld := (held_sublist errands).length_le
  rw [List.length_append] at hlength
  show g.ledger.table.live.entries.length ≤ start.ledger.table.live.entries.length + _
  omega

/-! ### An allocation -/

theorem Admissible.fresh_of_allocate
    (h : Admissible start (errands ++ [allocate site handle size])) :
    handle ≠ 0 ∧ start.ledger.tracked? handle = none := by
  refine h.fresh (handle, size) ?_
  rw [items_allocate]
  exact List.mem_append_right _ (List.mem_singleton_self _)

/-- The last handle that is allocated was not allocated before. -/
theorem Admissible.not_mem_items
    (h : Admissible start (errands ++ [allocate site handle size])) :
    handle ∉ (items errands).map Prod.fst := by
  have hnodup := h.handles_nodup
  rw [items_allocate, List.map_append] at hnodup
  intro hmem
  exact (List.nodup_append.1 hnodup).2.2 handle hmem handle (by simp) rfl

/-- **No allocation is denied**, since what is held is no more than what was allocated. -/
theorem Accounts.fits (h : Accounts start errands g)
    (hadmissible : Admissible start (errands ++ [allocate site handle size])) :
    g.ledger.Fits g.limit size := by
  have hheld := HandleMap.sumSizes_le_of_sublist (held_sublist errands)
  have hbytes := hadmissible.bytes_le
  have hsize := h.size_le
  have hused := h.used_eq
  have hreserved := h.reserved_eq
  rw [items_allocate, HandleMap.sumSizes_append] at hbytes
  refine ⟨?_, fun slots hcapacity => ?_⟩
  · rw [h.limit_eq]
    simp only [sumSizes] at hbytes
    omega
  · have hslots := hadmissible.slots_le slots (h.capacity_eq ▸ hcapacity)
    rw [items_allocate, List.length_append, List.length_singleton] at hslots
    unfold Table.occupied at hslots ⊢
    omega

/-- The step of an allocation. -/
theorem Accounts.after_allocate (h : Accounts start errands g)
    (hadmissible : Admissible start (errands ++ [allocate site handle size])) :
    ((allocate site handle size).reply g).reached = true ∧
      Accounts start (errands ++ [allocate site handle size])
        ((allocate site handle size).reply g).gate := by
  have hnew := hadmissible.not_mem_items
  obtain ⟨hne, hfresh⟩ := hadmissible.fresh_of_allocate
  have hfits := h.fits hadmissible
  have hheld : held (errands ++ [allocate site handle size]) = held errands ++ [(handle, size)] :=
    held_allocate site size fun hmem => hnew (hadmissible.of_concat.ordered.releases_subset hmem)
  obtain ⟨l, hgains, hgate⟩ := Gate.gains_of_fits site hfits hne (h.tracked?_eq_none hnew hfresh)
  refine ⟨(Gate.reached_allocate_iff site _).2 hfits, ?_⟩
  rw [show ((allocate site handle size).reply g).gate = g.withLedger l from hgate]
  exact {
    limit_eq := h.limit_eq
    used_eq := by
      rw [Gate.ledger_withLedger, hgains.used_eq, h.used_eq, hheld, HandleMap.sumSizes_append,
        Nat.add_assoc]
      rfl
    entries_perm := by
      rw [Gate.ledger_withLedger, hgains.entries_eq, hheld, List.append_assoc]
      exact (h.entries_perm.cons _).trans List.perm_middle.symm
    reserved_eq := hgains.reserved_eq.trans h.reserved_eq
    capacity_eq := hgains.capacity_eq.trans h.capacity_eq
    allocs_eq := by
      rw [Gate.ledger_withLedger, hgains.allocs_eq, h.allocs_eq, items_allocate, List.length_append,
        Nat.add_assoc]
      rfl
    frees_eq := by
      rw [Gate.ledger_withLedger, hgains.frees_eq, h.frees_eq, releases_allocate]
    failed_eq := hgains.failed_eq.trans h.failed_eq }

/-! ### A release -/

/-- **No release is stale**: what is released last is held until then. -/
theorem Admissible.exists_held (h : Admissible start (errands ++ [release site handle])) :
    ∃ size, (handle, size) ∈ held errands := by
  obtain ⟨item, hmem, rfl⟩ : ∃ item ∈ items errands, item.1 = handle := by
    simpa using h.ordered.mem_of_release
  have hnodup := h.releases_nodup
  rw [releases_release] at hnodup
  refine ⟨item.2, List.mem_filter.2 ⟨hmem, ?_⟩⟩
  have hlater : item.1 ∉ releases errands := fun hbefore =>
    (List.nodup_append.1 hnodup).2.2 item.1 hbefore item.1 (List.mem_singleton_self _) rfl
  simpa using hlater

/-- What is live without a handle is what errands hold after its release. -/
theorem Accounts.entries_erase_perm (h : Accounts start errands g) (site : CallSite)
    (habsent : start.ledger.tracked? handle = none) :
    (g.ledger.table.live.erase handle).entries.Perm
      (held (errands ++ [release site handle]) ++ start.ledger.table.live.entries) := by
  have hothers : start.ledger.table.live.entries.filter (fun item => item.1 != handle)
      = start.ledger.table.live.entries :=
    congrArg HandleMap.entries (HandleMap.erase_of_find?_eq_none habsent)
  have hfilter := h.entries_perm.filter fun item => item.1 != handle
  rw [List.filter_append, hothers, ← held_release errands site] at hfilter
  exact hfilter

/-- The step of a release. -/
theorem Accounts.after_release (h : Accounts start errands g)
    (hadmissible : Admissible start (errands ++ [release site handle])) :
    Accounts start (errands ++ [release site handle]) ((release site handle).reply g).gate := by
  obtain ⟨size, hmem⟩ := hadmissible.exists_held
  obtain ⟨hne, hfresh⟩ : handle ≠ 0 ∧ start.ledger.tracked? handle = none :=
    hadmissible.of_concat.fresh _ ((held_sublist errands).subset hmem)
  have hfound : g.ledger.tracked? handle = some size := h.tracked?_eq_some_iff.2 (.inl hmem)
  have hgate : ((release site handle).reply g).gate
      = g.withLedger (g.ledger.discharge handle size) :=
    congrArg g.withLedger (Ledger.fst_release_of_tracked site hne hfound)
  have hentries := h.entries_erase_perm site hfresh
  have hsizes : sumSizes (held errands)
      = size.toNat + sumSizes (held (errands ++ [release site handle])) := by
    have htotal : (g.ledger.table.live.erase handle).total + size.toNat
        = g.ledger.table.live.total := HandleMap.total_erase hfound
    have hbefore := HandleMap.sumSizes_perm h.entries_perm
    have hafter := HandleMap.sumSizes_perm hentries
    rw [HandleMap.sumSizes_append] at hbefore hafter
    unfold HandleMap.total at htotal
    omega
  rw [hgate]
  exact {
    limit_eq := h.limit_eq
    used_eq := by
      have hused := g.ledger.toNat_used_discharge handle size
      rw [Gate.ledger_withLedger, hused, h.used_eq, hsizes]
      omega
    entries_perm := hentries
    reserved_eq := h.reserved_eq
    capacity_eq := h.capacity_eq
    allocs_eq := by
      rw [items_release]
      exact h.allocs_eq
    frees_eq := by
      rw [releases_release, List.length_append, ← Nat.add_assoc, ← h.frees_eq]
      rfl
    failed_eq := h.failed_eq }

/-! ### All errands -/

theorem Admissible.accounts (h : Admissible start errands) :
    (∀ reply ∈ start.replies errands, reply.reached = true) ∧
      Accounts start errands (start.serve errands) := by
  induction errands using List.reverseRecOn with
  | nil => exact ⟨by simp [Gate.replies], accounts_nil start⟩
  | append_singleton errands errand ih =>
    obtain ⟨hreached, haccounts⟩ := ih h.of_concat
    rw [Gate.replies_concat, Gate.serve_concat, List.forall_mem_append, List.forall_mem_singleton]
    cases errand with
    | allocate site handle size =>
      obtain ⟨hadmitted, hafter⟩ := haccounts.after_allocate h
      exact ⟨⟨hreached, hadmitted⟩, hafter⟩
    | release site handle => exact ⟨⟨hreached, rfl⟩, haccounts.after_release h⟩

/-- Accounts of the same allocations and releases agree, whatever their order. -/
theorem Accounts.agrees {others : List Errand} {f : Gate} (h : Accounts start errands g)
    (hother : Accounts start others f) (hitems : (items errands).Perm (items others))
    (hreleases : (releases errands).Perm (releases others)) : g.ledger.Agrees f.ledger := by
  have hheld := held_perm hitems hreleases
  exact {
    used_eq := by
      rw [← UInt64.toNat_inj, h.used_eq, hother.used_eq, HandleMap.sumSizes_perm hheld]
    entries_perm := h.entries_perm.trans ((hheld.append_right _).trans hother.entries_perm.symm)
    reserved_eq := h.reserved_eq.trans hother.reserved_eq.symm
    allocs_eq := by rw [h.allocs_eq, hother.allocs_eq, hitems.length_eq]
    frees_eq := by rw [h.frees_eq, hother.frees_eq, hreleases.length_eq]
    failed_eq := h.failed_eq.trans hother.failed_eq.symm }

/-- If everything is released, only the counts of allocations and releases have changed. -/
theorem Accounts.agrees_of_released (h : Accounts start errands g)
    (hreleases : (releases errands).Perm ((items errands).map Prod.fst)) :
    g.ledger.Agrees { start.ledger with
      allocs := start.ledger.allocs + (items errands).length
      frees := start.ledger.frees + (items errands).length } := by
  have hheld : held errands = [] := held_eq_nil hreleases.symm.subset
  have hused := h.used_eq
  have hentries := h.entries_perm
  have hfrees := h.frees_eq
  rw [hheld] at hused hentries
  rw [hreleases.length_eq, List.length_map] at hfrees
  exact {
    used_eq := UInt64.toNat_inj.1 hused
    entries_perm := hentries
    reserved_eq := h.reserved_eq
    allocs_eq := h.allocs_eq
    frees_eq := hfrees
    failed_eq := h.failed_eq }

/-! ### Every order -/

/-- Errands that allocate `wanted` and release `released`, in some order, each release after the
allocation of its handle. -/
structure Orders (wanted : List (Handle × Bytes)) (released : List Handle)
    (errands : List Errand) : Prop where
  items_perm : (items errands).Perm wanted
  releases_perm : (releases errands).Perm released
  ordered : Ordered [] errands

/-- If there is room for what is wanted, there is room in every order. -/
theorem Orders.admissible {wanted : List (Handle × Bytes)} {released : List Handle}
    (h : Orders wanted released errands) (hdistinct : (wanted.map Prod.fst).Nodup)
    (honce : released.Nodup)
    (hfresh : ∀ item ∈ wanted, item.1 ≠ 0 ∧ start.ledger.tracked? item.1 = none)
    (hbytes : start.ledger.used.toNat + sumSizes wanted ≤ start.limit.toNat)
    (hslots : ∀ slots, start.ledger.table.capacity = some slots →
      start.ledger.table.occupied + wanted.length ≤ slots) : Admissible start errands where
  ordered := h.ordered
  handles_nodup := (h.items_perm.map Prod.fst).nodup_iff.2 hdistinct
  releases_nodup := h.releases_perm.nodup_iff.2 honce
  fresh := fun item hmem => hfresh item (h.items_perm.subset hmem)
  bytes_le := by rwa [HandleMap.sumSizes_perm h.items_perm]
  slots_le := by rwa [h.items_perm.length_eq]

/-- **Order does not matter, and what is released leaves nothing behind.** After any history, with
nothing in flight, let allocations of new, different handles be wanted that fit together into what
is left of quota and table. In every order of these allocations and of releases of them, each
release after its own allocation, no allocation is denied. If all are released, charge, entries and
promised slots are what they were, and only the counts of allocations and releases have grown, by
one for each. If some are released, all orders of the same allocations and releases agree at the
end. -/
theorem restores_in_every_order (settings : Settings) (phases : List Phase) (t : Traffic)
    (events : List Event) (h : Traffic.run? phases (.new settings) = some (t, events))
    (hidle : t.flights = []) (wanted : List (Handle × Bytes))
    (hdistinct : (wanted.map Prod.fst).Nodup)
    (hfresh : ∀ item ∈ wanted, item.1 ≠ 0 ∧ t.gate.ledger.tracked? item.1 = none)
    (hquota : t.gate.ledger.used.toNat ≤ settings.limit.toNat)
    (hbytes : sumSizes wanted ≤ settings.limit.toNat - t.gate.ledger.used.toNat)
    (hslots : ∀ slots, settings.capacity = some slots →
      t.gate.ledger.table.size + wanted.length ≤ slots) :
    let l := t.gate.ledger
    (∀ released errands, released.Nodup → Orders wanted released errands →
      ∀ reply ∈ t.gate.replies errands, reply.reached = true) ∧
    (∀ errands, Orders wanted (wanted.map Prod.fst) errands →
      (t.gate.serve errands).ledger.Agrees
        { l with allocs := l.allocs + wanted.length, frees := l.frees + wanted.length }) ∧
    ∀ released errands others, released.Nodup → Orders wanted released errands →
      Orders wanted released others →
      (t.gate.serve errands).ledger.Agrees (t.gate.serve others).ledger := by
  intro l
  have hslotted := Traffic.slotted_of_run? h
  have hlimit := Traffic.limit_of_run? h
  have hadmissible : ∀ released errands, released.Nodup → Orders wanted released errands →
      Admissible t.gate errands := by
    intro released errands honce horders
    refine horders.admissible hdistinct honce hfresh ?_ fun slots hcapacity => ?_
    · rw [hlimit]
      omega
    · have hroom := hslots slots (hslotted.capacity_eq ▸ hcapacity)
      rw [Table.occupied, hslotted.reserved_eq, hidle, List.length_nil]
      omega
  refine ⟨?_, ?_, ?_⟩
  · intro released errands honce horders
    exact (hadmissible released errands honce horders).accounts.1
  · intro errands horders
    have haccounts := (hadmissible _ errands hdistinct horders).accounts.2
    rw [← horders.items_perm.length_eq]
    exact haccounts.agrees_of_released
      (horders.releases_perm.trans (horders.items_perm.map Prod.fst).symm)
  · intro released errands others honce horders hothers
    have haccounts := (hadmissible released errands honce horders).accounts.2
    have hlater := (hadmissible released others honce hothers).accounts.2
    exact haccounts.agrees hlater (horders.items_perm.trans hothers.items_perm.symm)
      (horders.releases_perm.trans hothers.releases_perm.symm)

/-- Two allocations take all that is left of a quota, and the last slots. The first one is released
while the second one is live, and both by other vendors. -/
def crossedErrands : List Errand :=
  [.allocate ⟨.hip, "hipMalloc"⟩ 48 50, .allocate ⟨.cuda, "cudaMalloc"⟩ 32 40,
    .release ⟨.acl, "aclrtFree"⟩ 48, .release ⟨.hip, "hipFree"⟩ 32]

theorem restores_crossedErrands :
    ∃ t events,
      Traffic.run? [.request ⟨.cuda, "cudaMalloc"⟩ 10, .settle 0 ⟨0, 16⟩]
        (.new ⟨100, .warn, .strict, some 3⟩) = some (t, events) ∧
      (∀ reply ∈ t.gate.replies crossedErrands, reply.reached = true) ∧
      (t.gate.serve crossedErrands).ledger.used = 10 ∧
      (t.gate.serve crossedErrands).ledger.tracked? 16 = some 10 ∧
      (t.gate.serve crossedErrands).ledger.tracked? 32 = none ∧
      (t.gate.serve crossedErrands).ledger.frees = 2 := by
  have hends : (Traffic.run? [.request ⟨.cuda, "cudaMalloc"⟩ 10, .settle 0 ⟨0, 16⟩]
      (.new ⟨100, .warn, .strict, some 3⟩)).isSome = true := by decide
  obtain ⟨⟨t, events⟩, hrun⟩ := Option.isSome_iff_exists.1 hends
  refine ⟨t, events, hrun, ?_⟩
  obtain ⟨rfl, rfl⟩ := Prod.mk.inj (Option.some.inj hrun)
  have horders : Orders [(32, 40), (48, 50)] [32, 48] crossedErrands :=
    ⟨.swap _ _ _, .swap _ _ _, by decide⟩
  obtain ⟨hadmitted, hrestored, -⟩ :=
    restores_in_every_order ⟨100, .warn, .strict, some 3⟩ _ _ _ hrun rfl [(32, 40), (48, 50)]
      (by decide)
      (List.forall_mem_cons.2 ⟨⟨by decide, rfl⟩, List.forall_mem_singleton.2 ⟨by decide, rfl⟩⟩)
      (by decide) (by decide) fun slots hslots => by
        obtain rfl := Option.some.inj hslots
        decide
  have hagrees := hrestored crossedErrands horders
  exact ⟨hadmitted [32, 48] crossedErrands (by decide) horders, hagrees.used_eq,
    hagrees.tracked?_eq 16, hagrees.tracked?_eq 32, hagrees.frees_eq⟩

end Errand

end DeviceQuota
