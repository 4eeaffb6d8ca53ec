import DeviceQuota.Proofs.Rig.Filling
import DeviceQuota.Proofs.Rig.QuotaCycle

/-!
# When a scenario reports

A device breaks off an allocation whose sum does not fit into a word. The device of a scenario never
does: it is asked only for what fits into the quota beside what it holds, and a quota is a word. So a
run reports, or something is wrong with its parameters.

* **`Scenario.Wrong`** — what can be wrong with the parameters of each scenario;
* **`Scenario.run_eq_error_iff`** — nothing else keeps a run from reporting.
-/

namespace DeviceQuota.Scenario

variable {params : Params} {scenario : Scenario} {problem : Problem}

/-- Something is wrong with the parameters of a scenario. -/
inductive Wrong (params : Params) : Scenario → Problem → Prop where
  | zeroSize (hsize : params.size = 0) : Wrong params .fillThenDeny .zeroSize
  | tooSmall (hsize : params.size ≠ 0)
      (hmany : fillTries ≤ params.limit.toNat / params.size.toNat) :
      Wrong params .fillThenDeny .tooSmall
  | noThreads (hthreads : params.threads = 0) : Wrong params .burst .noThreads

theorem run_of_wrong (h : Wrong params scenario problem) : scenario.run params = .error problem := by
  cases h with
  | zeroSize hsize => simp only [run, if_pos hsize]
  | tooSmall hsize hmany => exact Rig.run_fillThenDeny_of_le hsize hmany
  | noThreads hthreads => simp only [run, if_pos hthreads]

/-- No allocation of a scenario breaks off. -/
theorem reports_or_wrong (scenario : Scenario) (params : Params) :
    (∃ report, scenario.run params = .ok report) ∨ ∃ problem, Wrong params scenario problem := by
  cases scenario with
  | quotaCycle =>
    obtain ⟨steps, last, hsteps, -⟩ := Rig.exists_runQuotaCycle params.limit params.mode
    exact .inl ⟨finish quotaCycle steps last, by simp only [run, hsteps]⟩
  | fillThenDeny =>
    by_cases hsize : params.size = 0
    · exact .inr ⟨_, .zeroSize hsize⟩
    rcases Nat.lt_or_ge (params.limit.toNat / params.size.toNat) fillTries with hfew | hmany
    · obtain ⟨last, hrun, -⟩ := Rig.run_fillThenDeny_of_lt hsize rfl hfew
      exact .inl ⟨_, hrun⟩
    · exact .inr ⟨_, .tooSmall hsize hmany⟩
  | burst =>
    by_cases hthreads : params.threads = 0
    · exact .inr ⟨_, .noThreads hthreads⟩
    · obtain ⟨steps, last, hsteps⟩ :=
        (Rig.stacked_new params.limit params.size params.mode).exists_allocateMany
          (burstPerThread * params.threads)
      exact .inl ⟨finish burst steps last, by simp only [run, if_neg hthreads, hsteps]⟩

/-- **A run reports unless its parameters are wrong.** -/
theorem run_eq_error_iff : scenario.run params = .error problem ↔ Wrong params scenario problem := by
  refine ⟨fun herror => ?_, run_of_wrong⟩
  obtain ⟨report, hreport⟩ | ⟨other, hwrong⟩ := reports_or_wrong scenario params
  · rw [hreport] at herror
    contradiction
  · obtain rfl := Except.error.inj (herror.symm.trans (run_of_wrong hwrong))
    exact hwrong

end DeviceQuota.Scenario
