import DeviceQuota.Proofs.Script.Course
import DeviceQuota.Proofs.Traffic.Overshoot

/-!
# The ledger under a strict quota

In strict mode the check of a request and the charge of its allocation see the same ledger, so that
the charge stays within the quota at all times, and its peak with it. Nothing is assumed of the
runtimes and the callers: real calls may fail or return null, a handle may come back while it is
still tracked, and calls may run inside the real call of a release or a query.

An allocation that is alone in flight cannot exceed the quota, whatever its size; strict mode is the
case of `Traffic.Overshoot` with one allocation in flight.

* **`Traffic.Strict`** — the invariant, kept by each phase;
* **`Script.exists_runs_of_allocatesAlone`** — a script in which nothing happens while the runtime
  allocates never waits for ever;
* **`Script.strict_used_le_limit`** — the bound for scripts and for calls that overlap.
-/

namespace DeviceQuota

namespace Traffic

/-- One allocation at most is in flight, and charge and peak are within the quota. -/
structure Strict (limit : Bytes) (t : Traffic) : Prop where
  strict : t.gate.mode = .strict
  alone : t.flights.length ≤ 1
  overshoot : t.Overshoot limit 1 Bytes.greatest

variable {t u : Traffic} {phase : Phase} {events : List Event} {limit : Bytes}

theorem Strict.of_move (hinv : t.Strict limit) (h : t.Move phase u events) : u.Strict limit := by
  have halone := length_flights_le_one_of_move h hinv.strict hinv.alone
  have hsize : phase.requested ≤ Bytes.greatest := by
    cases phase with
    | request site size => exact Nat.le_pred_of_lt size.toNat_lt
    | settle | release => exact Nat.zero_le _
  exact ⟨(mode_of_move h).trans hinv.strict, halone, hinv.overshoot.of_move h halone hsize⟩

theorem strict_new {settings : Settings} (hstrict : settings.mode = .strict) :
    (new settings).Strict settings.limit where
  strict := hstrict
  alone := Nat.zero_le 1
  overshoot :=
    { limit_eq := rfl
      flight_le := by simp [new]
      sum_le := Nat.zero_le _
      peak_le := Nat.zero_le _ }

theorem Strict.used_le (hinv : t.Strict limit) :
    t.gate.ledger.used.toNat ≤ limit.toNat ∧ t.gate.ledger.peak.toNat ≤ limit.toNat := by
  have hsum := hinv.overshoot.sum_le
  have hpeak := hinv.overshoot.peak_le
  omega

end Traffic

namespace Script

variable {s : Script}

/-- Where nothing happens while the runtime allocates, every call returns. -/
theorem exists_runs_of_allocatesAlone (threshold : LogLevel) (halone : s.AllocatesAlone) :
    ∀ g, ∃ transcript last, s.Runs threshold false g transcript last := by
  induction s with
  | done =>
    intro g
    exact ⟨_, _, .done⟩
  | allocate site size real during next ihduring ihnext =>
    intro g
    obtain ⟨rfl, hnext⟩ := halone
    cases hrequest : g.request size with
    | error why =>
      obtain ⟨rest, last, hrest⟩ := ihnext hnext g.refuse
      exact ⟨_, _, .refused hrequest hrest⟩
    | ok admitted =>
      obtain ⟨rest, last, hrest⟩ := ihnext hnext (admitted.settled site size real)
      exact ⟨_, _, .admitted hrequest .done hrest⟩
  | release site handle status during next ihduring ihnext =>
    intro g
    obtain ⟨hduring, hnext⟩ := halone
    obtain ⟨inner, freed, hinner⟩ := ihduring hduring (g.released site handle)
    obtain ⟨rest, last, hrest⟩ := ihnext hnext freed
    exact ⟨_, _, .released (fun _ => rfl) hinner hrest⟩
  | query site status during next ihduring ihnext =>
    intro g
    obtain ⟨hduring, hnext⟩ := halone
    obtain ⟨inner, queried, hinner⟩ := ihduring hduring g
    obtain ⟨rest, last, hrest⟩ := ihnext hnext queried
    exact ⟨_, _, .queried hinner (fun _ => rfl) hrest⟩
  | read what next ihnext =>
    intro g
    obtain ⟨rest, last, hrest⟩ := ihnext halone g
    exact ⟨_, _, .read hrest⟩

/-- **A strict quota is never exceeded.** In strict mode the charge and its peak are within the quota
in every ledger that a script passes through, and in all figures that it shows; a script in which
nothing happens while the runtime allocates comes to its end. The same bound holds between any two
phases of any calls that overlap. -/
theorem strict_used_le_limit (settings : Settings) (hstrict : settings.mode = .strict) :
    (∀ script : Script,
      (∀ l ∈ script.ledgers false (.new settings),
        l.used.toNat ≤ settings.limit.toNat ∧ l.peak.toNat ≤ settings.limit.toNat) ∧
      (∀ threshold transcript last,
        script.run threshold false (.new settings) = some (transcript, last) →
          ∀ figures ∈ transcript.figures,
            figures.used.toNat ≤ settings.limit.toNat ∧
              figures.peak.toNat ≤ settings.limit.toNat) ∧
      (script.AllocatesAlone →
        ∀ threshold, (script.run threshold false (.new settings)).isSome = true)) ∧
    ∀ phases, History.Always Traffic.step?
      (fun t => t.gate.ledger.used.toNat ≤ settings.limit.toNat ∧
        t.gate.ledger.peak.toNat ≤ settings.limit.toNat)
      phases (.new settings) := by
  have hstart := Traffic.strict_new hstrict
  have hledgers : ∀ script : Script, ∀ l ∈ script.ledgers false (.new settings),
      l.used.toNat ≤ settings.limit.toNat ∧ l.peak.toNat ≤ settings.limit.toNat := by
    intro script l hmem
    have hopen : Traffic.locked ⟨.new settings, []⟩ = false :=
      Traffic.locked_of_flights_eq_nil rfl
    rw [← hopen] at hmem
    obtain ⟨u, hreach, rfl⟩ := script.passes_of_mem_ledgers (.new settings) [] l hmem
    exact (hreach.invariant (fun _ _ _ _ hmove hinv => hinv.of_move hmove) hstart).used_le
  constructor
  · intro script
    refine ⟨hledgers script, ?_, ?_⟩
    · intro threshold transcript last hrun figures hmem
      obtain ⟨l, hl, rfl⟩ := List.mem_map.1 ((runs_of_run hrun).figures_subset hmem)
      exact hledgers script l hl
    · intro halone threshold
      obtain ⟨transcript, last, hruns⟩ := exists_runs_of_allocatesAlone threshold halone (.new settings)
      rw [run_of_runs hruns]
      rfl
  · intro phases
    refine ⟨hstart.used_le, ?_⟩
    refine History.along_of_invariant (I := Traffic.Strict settings.limit) ?_ phases
      (.new settings) hstart (History.along_true _ _)
    intro t phase u events hstep hinv _
    have hafter := hinv.of_move (Traffic.move_of_step? hstep)
    exact ⟨hafter, hafter.used_le⟩

/-- An allocation of the whole quota runs while the runtime frees the one before it, and gets its
address; then the same address is granted once more while it is still tracked, and a last allocation
fails. -/
def reusedWhileFreed : Script :=
  .allocate ⟨.cuda, "cudaMalloc"⟩ 100 ⟨0, 16⟩ .done <|
  .release ⟨.cuda, "cudaFree"⟩ 16 0
    (.allocate ⟨.hip, "hipMalloc"⟩ 100 ⟨0, 16⟩ .done .done) <|
  .allocate ⟨.acl, "aclrtMalloc"⟩ 0 ⟨0, 16⟩ .done <|
  .allocate ⟨.cuda, "cudaMalloc"⟩ 7 ⟨2, 0⟩ .done <|
  .query ⟨.cuda, "cudaMemGetInfo"⟩ 0 (.release ⟨.acl, "aclrtFree"⟩ 16 0 .done .done) .done

theorem strict_used_le_reusedWhileFreed :
    Settings.mode ⟨100, .warn, .strict, some 2⟩ = .strict ∧ reusedWhileFreed.AllocatesAlone ∧
      (∀ l ∈ reusedWhileFreed.ledgers false (.new ⟨100, .warn, .strict, some 2⟩),
        l.used.toNat ≤ 100 ∧ l.peak.toNat ≤ 100) ∧
      (reusedWhileFreed.run .debug false (.new ⟨100, .warn, .strict, some 2⟩)).isSome = true := by
  have halone : reusedWhileFreed.AllocatesAlone :=
    ⟨rfl, ⟨rfl, trivial⟩, rfl, rfl, ⟨trivial, trivial⟩, trivial⟩
  obtain ⟨hledgers, -, hends⟩ :=
    (strict_used_le_limit ⟨100, .warn, .strict, some 2⟩ rfl).1 reusedWhileFreed
  exact ⟨rfl, halone, hledgers, hends halone .debug⟩

end Script

end DeviceQuota
