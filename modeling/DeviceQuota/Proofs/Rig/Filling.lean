import DeviceQuota.Proofs.Rig.Stacked

/-!
# Filling a quota

Allocations of one size go on until one is refused; then all are released. The number of allocations
that fit is the quotient of quota and size. There are at most 4096 tries, so that with as many
allocations as that, or more, the quota is never found full.

* **`Rig.Stacked.fill_eq_some`**, **`Rig.Stacked.fill_eq_none`** — the loop that allocates;
* **`Rig.Stacked.freeMany_eq`** — the loop that releases;
* **`Rig.fill_then_deny_is_exact`** — the report.
-/

namespace DeviceQuota.Rig

open Scenario (grantedHandles runFillThenDeny fillTries)

variable {rig : Rig} {limit size : Bytes} {i tries grants frees count : Nat}

/-! ### The loop that allocates -/

namespace Stacked

/-- **Allocations up to the first refusal.** The tries that are left suffice. -/
theorem fill_eq_some (h : rig.Stacked limit size i 0) (hle : i ≤ most limit size)
    (htries : most limit size < i + tries) :
    ∃ last, fill size tries rig =
        .ok (some ((List.range' i (most limit size - i)).map (grantedStep size) ++
          [refusedStep size (most limit size)], last)) ∧
      last.Stacked limit size (most limit size) 0 ∧
      last.gate.ledger.failed = rig.gate.ledger.failed + 1 := by
  induction tries generalizing i rig with
  | zero => omega
  | succ tries ih =>
    by_cases hroom : HasRoom limit size i
    · have hlt := hasRoom_iff_lt_most.1 hroom
      obtain ⟨last, hrest, hlast, hfailed⟩ := ih (h.granted hroom) hlt (by omega)
      have hcount : most limit size - i = most limit size - (i + 1) + 1 := by omega
      refine ⟨last, ?_, hlast, hfailed⟩
      rw [fill, h.allocate_of_room hroom, hcount, List.range'_succ]
      simp [hrest, grantedStep]
    · have hfull : i = most limit size :=
        Nat.le_antisymm hle (Nat.not_lt.1 (mt hasRoom_iff_lt_most.2 hroom))
      refine ⟨rig.refused, ?_, hfull ▸ h.refused, rfl⟩
      rw [fill, h.allocate_of_full hroom, hfull]
      simp [refusedStep]

/-- **The tries run out** while allocations still fit. -/
theorem fill_eq_none (h : rig.Stacked limit size i 0) (htries : i + tries ≤ most limit size) :
    fill size tries rig = .ok none := by
  induction tries generalizing i rig with
  | zero => rfl
  | succ tries ih =>
    have hroom : HasRoom limit size i := hasRoom_iff_lt_most.2 (by omega)
    rw [fill, h.allocate_of_room hroom]
    simp [grantedStep, ih (h.granted hroom) (by omega)]

/-! ### The loop that releases -/

/-- **Releases in the order of the allocations.** -/
theorem freeMany_eq (h : rig.Stacked limit size grants frees) (hcount : frees + count = grants)
    (hfew : grants < 2 ^ 42) :
    ∃ last, freeMany ((List.range' frees count).map Device.address) rig =
        ((List.range' frees count).map (releasedStep size grants), last) ∧
      last.Stacked limit size grants grants ∧
      last.gate.ledger.failed = rig.gate.ledger.failed := by
  induction count generalizing frees rig with
  | zero =>
    obtain rfl : frees = grants := hcount
    exact ⟨rig, rfl, h, rfl⟩
  | succ count ih =>
    obtain ⟨last, hrest, hlast, hfailed⟩ := ih (h.freed (by omega) hfew) (by omega)
    refine ⟨last, ?_, hlast, hfailed⟩
    rw [List.range'_succ, List.map_cons, freeMany, h.free_next (by omega) hfew]
    simp [hrest]

/-- Everything was released. -/
theorem empty_of_all_freed (h : rig.Stacked limit size grants grants) :
    rig.gate.ledger.used = 0 ∧ rig.gate.ledger.table.size = 0 := by
  have hsize := h.level.size_eq
  rw [h.frees_eq, h.allocs_eq] at hsize
  refine ⟨?_, by omega⟩
  rw [h.used_eq_clamp, Nat.sub_self, Nat.zero_mul]
  rfl

end Stacked

/-- The granted steps are those of the allocations before the refusal. -/
theorem grantedHandles_filled (size : Bytes) (grants : Nat) :
    grantedHandles ((List.range' 0 grants).map (grantedStep size) ++ [refusedStep size grants])
      = (List.range' 0 grants).map Device.address := by
  have hgranted : ((List.range' 0 grants).map (grantedStep size)).filter
      (fun step => step.status == 0) = (List.range' 0 grants).map (grantedStep size) := by
    rw [List.filter_eq_self]
    intro step hstep
    obtain ⟨i, -, rfl⟩ := List.mem_map.1 hstep
    rfl
  have hrefused : [refusedStep size grants].filter (fun step => step.status == 0) = [] := rfl
  rw [grantedHandles, List.filter_append, hgranted, hrefused, List.append_nil, List.map_map]
  rfl

/-! ### The report -/

variable {params : Scenario.Params}

/-- Fewer allocations fit than there are tries. -/
theorem run_fillThenDeny_of_lt (hsize : params.size ≠ 0)
    (hgrants : params.limit.toNat / params.size.toNat = grants) (hfew : grants < fillTries) :
    ∃ last, Scenario.run .fillThenDeny params =
        .ok (Scenario.finish .fillThenDeny ((List.range grants).map (grantedStep params.size) ++
          [refusedStep params.size grants] ++
          (List.range grants).map (releasedStep params.size grants)) last) ∧
      last.Stacked params.limit params.size grants grants ∧ last.gate.ledger.failed = 1 := by
  have htries : fillTries = 4096 := rfl
  have hcapacity : Settings.standardCapacity = 65536 := rfl
  have hmost : most params.limit params.size = grants := by
    rw [most, if_neg hsize, hgrants]
    omega
  have hexhausted : most params.limit params.size < 0 + fillTries := by omega
  obtain ⟨full, hfill, hfull, hdenied⟩ :=
    (stacked_new params.limit params.size params.mode).fill_eq_some (Nat.zero_le _) hexhausted
  rw [hmost, Nat.sub_zero] at hfill
  rw [hmost] at hfull
  obtain ⟨last, hfree, hlast, hfailed⟩ := hfull.freeMany_eq (Nat.zero_add _) (by omega)
  refine ⟨last, ?_, hlast, hfailed.trans hdenied⟩
  simp only [Scenario.run, if_neg hsize, runFillThenDeny, hfill, ok_bind, Option.map_some,
    grantedHandles_filled, hfree, List.range_eq_range']

/-- At least as many allocations fit as there are tries. -/
theorem run_fillThenDeny_of_le (hsize : params.size ≠ 0)
    (hmany : fillTries ≤ params.limit.toNat / params.size.toNat) :
    Scenario.run .fillThenDeny params = .error .tooSmall := by
  have hslots : fillTries ≤ Settings.standardCapacity := by decide
  have hroomy : 0 + fillTries ≤ most params.limit params.size := by
    rw [most, if_neg hsize]
    omega
  have hnone := (stacked_new params.limit params.size params.mode).fill_eq_none hroomy
  simp only [Scenario.run, if_neg hsize, runFillThenDeny, hnone, ok_bind, Option.map_none]

/-- **Filling a quota is exact.** With a size that is not zero and a quota that takes `grants`
allocations of it, the run is an error exactly if 4096 tries do not exhaust the quota. Else its report
has `grants` allocations at different addresses, one refusal, and `grants` releases in the order of
the allocations, with what is in use after each; at the end nothing is in use, and gate and device
agree that the most was `grants` times the size, which is within the quota. -/
theorem fill_then_deny_is_exact (params : Scenario.Params) (hsize : params.size ≠ 0) :
    let limit := params.limit
    let size := params.size
    let grants := limit.toNat / size.toNat
    ((∃ problem, Scenario.run .fillThenDeny params = .error problem) ↔ 4096 ≤ grants) ∧
      (grants < 4096 → ∃ report, Scenario.run .fillThenDeny params = .ok report ∧
        report.steps =
          (List.range grants).map (fun i =>
            ⟨.allocate, size, 0, Device.address i, Bytes.clamp ((i + 1) * size.toNat)⟩) ++
          [⟨.allocate, size, 2, 0, Bytes.clamp (grants * size.toNat)⟩] ++
          (List.range grants).map (fun i =>
            ⟨.free, size, 0, Device.address i, Bytes.clamp ((grants - (i + 1)) * size.toNat)⟩) ∧
        report.steps.length = 2 * grants + 1 ∧
        ((List.range grants).map Device.address).Nodup ∧
        report.snapshot.used = 0 ∧ report.snapshot.tracked = 0 ∧
        report.snapshot.peak.toNat = grants * size.toNat ∧
        report.highWater.toNat = grants * size.toNat ∧ grants * size.toNat ≤ limit.toNat ∧
        report.snapshot.allocs = grants ∧ report.snapshot.frees = grants ∧
        report.snapshot.failed = 1 ∧ report.conserved = true ∧ report.limitExceeded = false) := by
  intro limit size grants
  have htries : fillTries = 4096 := rfl
  have hgrants : params.limit.toNat / params.size.toNat = grants := rfl
  clear_value grants
  rw [← htries]
  refine ⟨⟨?_, fun hmany => ⟨_, run_fillThenDeny_of_le hsize (hgrants.symm ▸ hmany)⟩⟩,
    fun hfew => ?_⟩
  · rintro ⟨problem, herror⟩
    refine Nat.le_of_not_lt fun hfew => ?_
    obtain ⟨last, hok, -, -⟩ := run_fillThenDeny_of_lt hsize hgrants hfew
    rw [hok] at herror
    contradiction
  · obtain ⟨last, hok, hlast, hfailed⟩ := run_fillThenDeny_of_lt hsize hgrants hfew
    obtain ⟨hconserved, hwithin, hhigh, -⟩ := hlast.level.finish_spec .fillThenDeny
      ((List.range grants).map (grantedStep size) ++
        [refusedStep size grants] ++ (List.range grants).map (releasedStep size grants))
    obtain ⟨hused, htracked⟩ := hlast.empty_of_all_freed
    refine ⟨_, hok, rfl, ?_, nodup_addresses (by omega), hused, htracked, hlast.peak_eq, ?_,
      ?_, hlast.allocs_eq, hlast.frees_eq, hfailed, hconserved, hwithin⟩
    · simp only [Scenario.finish, List.length_append, List.length_map, List.length_range,
        List.length_singleton]
      omega
    · rw [hhigh]
      exact hlast.peak_eq
    · rw [← hgrants]
      exact Nat.div_mul_le_self _ _

/-- Three quarters of the largest quota are filled; one allocation more would wrap around. -/
theorem fill_then_deny_is_exact_quarters :
    let params : Scenario.Params := ⟨18446744073709551615, .strict, 8, 4611686018427387904⟩
    params.size ≠ 0 ∧ params.limit.toNat / params.size.toNat = 3 ∧
      ∃ report, Scenario.run .fillThenDeny params = .ok report ∧ report.steps.length = 7 ∧
        report.snapshot.peak.toNat = 13835058055282163712 ∧ report.conserved = true := by
  intro params
  have hsize : params.size ≠ 0 := by decide
  have hgrants : params.limit.toNat / params.size.toNat = 3 := by decide
  have hfilled : 3 * params.size.toNat = 13835058055282163712 := by decide
  obtain ⟨report, hrun, -, hlength, -, -, -, hpeak, -, -, -, -, -, hconserved, -⟩ :=
    (fill_then_deny_is_exact params hsize).2 (by rw [hgrants]; decide)
  rw [hgrants] at hlength hpeak
  exact ⟨hsize, hgrants, report, hrun, hlength, hpeak.trans hfilled, hconserved⟩

end DeviceQuota.Rig
