import DeviceQuota.Proofs.Script.Course
import DeviceQuota.Proofs.Table.FiniteMap
import DeviceQuota.Proofs.Traffic.Admission

/-!
# Free memory

Callers hear how many bytes of the quota are left, and a request is let through if its bytes fit. The
figure is a difference that stops at zero; the check is a sum that cannot wrap around. The two agree
on every request for at least one byte, also where allocations that overlapped have charged more than
the quota: the figure is then zero, and no byte fits.

* **`Gate.PassesQuota`** — a request is not denied for want of bytes;
* **`MemInfo.Predicts`** — figures that tell which request passes on a gate, and
  **`Gate.predicts_memInfo`**, those of the gate itself;
* **`Record.Reports`** — a memory query and the gate that it reports on; **`Script.run_query_iff`** —
  the query comes after the calls inside it, and leaves the gate as they left it;
* **`Script.free_memory_predicts_admission`** — both together.
-/

namespace DeviceQuota

/-- A request is not denied for want of bytes. It may still be denied for want of a slot. -/
def Gate.PassesQuota (g : Gate) (size : Bytes) : Prop :=
  ∀ requested used limit, g.request size ≠ .error (.overQuota requested used limit)

/-- Figures that tell what is left of the quota of a gate, and which request comes through next. -/
structure MemInfo.Predicts (info : MemInfo) (g : Gate) : Prop where
  total_eq : info.total = g.limit
  free_eq : info.free = g.snapshot.available
  free_le : info.free.toNat ≤ info.total.toNat
  /-- Nothing is missing while the quota is kept. -/
  balance : g.ledger.used.toNat ≤ g.limit.toNat →
    info.free.toNat + g.ledger.used.toNat = g.limit.toNat
  /-- Nothing is left once the quota is used up or exceeded. -/
  exhausted : g.limit.toNat ≤ g.ledger.used.toNat → info.free.toNat = 0
  passes_iff : ∀ size : Bytes, 0 < size.toNat →
    (g.PassesQuota size ↔ size.toNat ≤ info.free.toNat)
  reaches_iff : ∀ (site : CallSite) (size : Bytes) (real : Outcome), 0 < size.toNat →
    g.ledger.table.HasSlot →
      ((g.allocate site size real).reached = true ↔ size.toNat ≤ info.free.toNat)

namespace Gate

variable {g : Gate} {size : Bytes}

theorem request_eq_overQuota (h : ¬g.ledger.used.toNat + size.toNat ≤ g.limit.toNat) :
    g.request size = .error (.overQuota size g.ledger.used g.limit) := by
  simp [request, Ledger.request, h]

theorem exists_noSlot_of_denied {why : Denial}
    (hfits : g.ledger.used.toNat + size.toNat ≤ g.limit.toNat)
    (hdenied : g.request size = .error why) : ∃ full, why = .noSlot full := by
  cases hslot : g.ledger.table.reserve? with
  | ok table => simp [request, Ledger.request, hfits, hslot] at hdenied
  | error full =>
    simp only [request, Ledger.request, hfits, hslot, if_true, Except.error.injEq] at hdenied
    exact ⟨full, hdenied.symm⟩

/-- The check is that of the natural numbers. -/
theorem passesQuota_iff : g.PassesQuota size ↔ g.ledger.used.toNat + size.toNat ≤ g.limit.toNat := by
  constructor
  · intro hpasses
    by_contra hover
    exact hpasses _ _ _ (request_eq_overQuota hover)
  · intro hfits requested used limit hdenied
    obtain ⟨full, hwhy⟩ := exists_noSlot_of_denied hfits hdenied
    cases hwhy

/-- What is left is a difference of natural numbers. -/
theorem toNat_free_memInfo (g : Gate) :
    g.memInfo.free.toNat = g.limit.toNat - g.ledger.used.toNat :=
  Bytes.toNat_minus _ _

/-- **A request for at least one byte fits exactly if it is at most what is left.** Zero bytes always
are, but do not fit where more is charged than the quota. -/
theorem passesQuota_iff_le_free (hpos : 0 < size.toNat) :
    g.PassesQuota size ↔ size.toNat ≤ g.memInfo.free.toNat := by
  rw [passesQuota_iff, toNat_free_memInfo]
  omega

theorem reached_allocate_iff_passesQuota (site : CallSite) (real : Outcome)
    (hslot : g.ledger.table.HasSlot) :
    (g.allocate site size real).reached = true ↔ g.PassesQuota size := by
  rw [reached_allocate_iff, passesQuota_iff]
  exact and_iff_left hslot

theorem predicts_memInfo (g : Gate) : g.memInfo.Predicts g where
  total_eq := rfl
  free_eq := rfl
  free_le := by
    rw [toNat_free_memInfo]
    exact Nat.sub_le _ _
  balance := by
    intro hwithin
    rw [toNat_free_memInfo]
    omega
  exhausted := by
    intro hover
    rw [toNat_free_memInfo]
    omega
  passes_iff := fun _ hpos => passesQuota_iff_le_free hpos
  reaches_iff := by
    intro site size real hpos hslot
    rw [reached_allocate_iff_passesQuota site real hslot]
    exact passesQuota_iff_le_free hpos

end Gate

/-! ### Memory queries -/

/-- The record of a memory query that the runtime answered with `status`, and that saw the gate `g`. -/
structure Record.Reports (record : Record) (vendor : Vendor) (status : Status) (g : Gate) : Prop where
  /-- The runtime's own function is always called. -/
  reached : record.reached = true
  figures_eq : record.figures = g.snapshot
  success : vendor.isSuccess status = true →
    ∃ info : MemInfo, record.answer = .memory (.ok info) ∧ info.Predicts g
  failure : vendor.isSuccess status = false → record.answer = .memory (.error status)

theorem Record.reports_queried (threshold : LogLevel) (site : CallSite) (status : Status) (g : Gate) :
    (Record.queried threshold site status g).Reports site.vendor status g where
  reached := rfl
  figures_eq := rfl
  success := by
    intro hsuccess
    refine ⟨g.memInfo, ?_, g.predicts_memInfo⟩
    simp [queried, Gate.answerQuery, hsuccess]
  failure := by
    intro hfailure
    simp [queried, Gate.answerQuery, hfailure]

namespace Script

variable {threshold : LogLevel} {site : CallSite} {status : Status} {during next : Script}
  {locked : Bool} {g last : Gate} {transcript : Transcript}

/-- A query comes after the calls inside it, and the calls after it find the gate as these left it. -/
theorem run_query_iff :
    (query site status during next).run threshold locked g = some (transcript, last) ↔
      ∃ inner queried rest, during.run threshold locked g = some (inner, queried) ∧
        (site.vendor.isSuccess status = true → locked = false) ∧
        next.run threshold locked queried = some (rest, last) ∧
        transcript = .call (.queried threshold site status queried) inner rest := by
  rw [← runs_iff]
  constructor
  · intro h
    cases h with
    | queried hduring hfree hnext =>
      exact ⟨_, _, _, run_of_runs hduring, hfree, run_of_runs hnext, rfl⟩
  · rintro ⟨inner, queried, rest, hduring, hfree, hnext, rfl⟩
    exact .queried (runs_of_run hduring) hfree (runs_of_run hnext)

/-- **The free memory that callers hear of predicts admission.** On every gate, the figures that are
shown are the quota and what is left of it: a request for at least one byte passes the quota check
exactly if it is at most the free memory, and reaches the runtime exactly then if a slot is left.

A query returns if the calls inside it do. It shows the gate that they left behind, and leaves it as it
is: the calls after it, and so also the next request, find the same gate. A status by which the runtime
fails is passed on. -/
theorem free_memory_predicts_admission :
    (∀ g : Gate, g.memInfo.Predicts g ∧ g.view .memory = .memory g.memInfo) ∧
    ∀ (threshold : LogLevel) (site : CallSite) (status : Status) (during next : Script)
      (locked : Bool) (g : Gate),
      (∀ transcript last,
        (query site status during next).run threshold locked g = some (transcript, last) →
          ∃ record inner queried rest, transcript = .call record inner rest ∧
            during.run threshold locked g = some (inner, queried) ∧
            record.Reports site.vendor status queried ∧
            next.run threshold locked queried = some (rest, last)) ∧
      ∀ inner queried, during.run threshold locked g = some (inner, queried) →
        (site.vendor.isSuccess status = true → locked = false) →
          ((query site status during next).run threshold locked g).isSome
            = (next.run threshold locked queried).isSome := by
  refine ⟨fun g => ⟨g.predicts_memInfo, rfl⟩, ?_⟩
  intro threshold site status during next locked g
  constructor
  · intro transcript last hrun
    obtain ⟨inner, queried, rest, hduring, -, hnext, rfl⟩ := run_query_iff.1 hrun
    exact ⟨_, inner, queried, rest, rfl, hduring, Record.reports_queried .., hnext⟩
  · intro inner queried hduring hfree
    rw [Bool.eq_iff_iff, Option.isSome_iff_exists, Option.isSome_iff_exists]
    constructor
    · rintro ⟨⟨transcript, last⟩, hrun⟩
      obtain ⟨_, _, rest, hother, -, hnext, -⟩ := run_query_iff.1 hrun
      obtain ⟨rfl, rfl⟩ := Prod.mk.inj (Option.some.inj (hother.symm.trans hduring))
      exact ⟨_, hnext⟩
    · rintro ⟨⟨rest, last⟩, hnext⟩
      exact ⟨_, run_query_iff.2 ⟨inner, queried, rest, hduring, hfree, hnext, rfl⟩⟩

/-- Two allocations of eight bytes overlapped under a quota of ten. -/
def overcharged : Gate :=
  let settings : Settings := ⟨10, .warn, .optimistic, some 4⟩
  let history := Traffic.run?
    [.request ⟨.cuda, "cudaMalloc"⟩ 8, .request ⟨.hip, "hipMalloc"⟩ 8, .settle 0 ⟨0, 16⟩,
      .settle 0 ⟨0, 32⟩] (.new settings)
  history.elim (.new settings) fun moved => moved.1.gate

/-- One of them is released while the runtime answers a query. -/
def releasedWhileQueried : Script :=
  .query ⟨.acl, "aclrtGetMemInfo"⟩ 0 (.release ⟨.cuda, "cudaFree"⟩ 16 0 .done .done) .done

/-- Not one byte fits before the query, and the two bytes that it shows fit after it. -/
theorem free_memory_predicts_admission_overcharged :
    overcharged.limit.toNat < overcharged.ledger.used.toNat ∧ ¬overcharged.PassesQuota 1 ∧
      ∃ record inner queried info,
        releasedWhileQueried.run .debug false overcharged
          = some (.call record inner .done, queried) ∧
        record.answer = .memory (.ok info) ∧ info.free = 2 ∧ queried.PassesQuota 2 ∧
        ¬queried.PassesQuota 3 := by
  obtain ⟨hshown, hqueries⟩ := free_memory_predicts_admission
  refine ⟨by decide, ?_, ?_⟩
  · rw [(hshown overcharged).1.passes_iff 1 (by decide)]
    decide
  · have hreturns : (releasedWhileQueried.run .debug false overcharged).isSome = true := by decide
    obtain ⟨⟨transcript, last⟩, hquery⟩ := Option.isSome_iff_exists.1 hreturns
    obtain ⟨record, inner, queried, rest, rfl, -, hreports, hnext⟩ :=
      (hqueries _ _ _ _ _ _ _).1 _ _ hquery
    obtain ⟨rfl, rfl⟩ := Prod.mk.inj (Option.some.inj hnext)
    obtain ⟨info, hanswer, hpredicts⟩ := hreports.success rfl
    refine ⟨record, inner, queried, info, hquery, hanswer, ?_⟩
    obtain ⟨-, rfl⟩ := Prod.mk.inj (Option.some.inj hquery)
    have hfree : info.free = 2 := hpredicts.free_eq.trans (by decide)
    rw [hpredicts.passes_iff 2 (by decide), hpredicts.passes_iff 3 (by decide), hfree]
    decide

end Script

end DeviceQuota
