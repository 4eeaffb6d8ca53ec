import DeviceQuota.Proofs.Script.Course

/-!
# The two modes

In strict mode an allocation keeps the ledger locked while the runtime works; in optimistic mode it
lets go of the ledger and takes it again. That makes a difference only to calls that arrive in the
meantime. Where none does, the two modes cannot be told apart, whatever else is nested in the real
calls of releases and queries.

* **`Gate.inMode`**, **`Transcript.inMode`** — the same gate, and the same records, in another mode;
* **`Script.AllocatedAlone`** — no call arrived while the runtime allocated, as a transcript shows;
* **`Script.Runs.inMode`** — such a run is a run in any mode;
* **`Script.strict_run_eq_optimistic_run`** — the same answers, real calls, ledgers and log lines.
-/

namespace DeviceQuota

/-- The gate in another mode. -/
def Gate.inMode (g : Gate) (mode : AdmissionMode) : Gate := { g with mode := mode }

/-- What a look at a gate shows in another mode; only an overview names the mode. -/
def View.inMode : View → AdmissionMode → View
  | .overview all, mode => .overview { all with mode := mode }
  | .memory info, _ => .memory info
  | .tracked size, _ => .tracked size

/-- The transcript of the same calls in another mode: every record is what it was. -/
def Transcript.inMode : Transcript → AdmissionMode → Transcript
  | done, _ => done
  | call record during next, mode => call record (during.inMode mode) (next.inMode mode)
  | read view figures next, mode => read (view.inMode mode) figures (next.inMode mode)

namespace Gate

variable {g admitted : Gate} {size : Bytes}

theorem request_inMode (g : Gate) (size : Bytes) (mode : AdmissionMode) :
    (g.inMode mode).request size = (g.request size).map fun h => h.inMode mode := by
  have hledger : (g.inMode mode).ledger.request (g.inMode mode).limit size
      = g.ledger.request g.limit size := rfl
  rw [request, request, hledger]
  cases g.ledger.request g.limit size <;> rfl

theorem request_inMode_of_ok (mode : AdmissionMode) (hpass : g.request size = .ok admitted) :
    (g.inMode mode).request size = .ok (admitted.inMode mode) := by
  rw [request_inMode, hpass]
  rfl

theorem request_inMode_of_error {why : Denial} (mode : AdmissionMode)
    (hdenied : g.request size = .error why) : (g.inMode mode).request size = .error why := by
  rw [request_inMode, hdenied]
  rfl

theorem view_inMode (g : Gate) (what : Reading) (mode : AdmissionMode) :
    (g.inMode mode).view what = (g.view what).inMode mode := by
  cases what <;> rfl

end Gate

/-- No event names the mode of the gate. -/
theorem Transcript.log_inMode (t : Transcript) (mode : AdmissionMode) :
    (t.inMode mode).log = t.log := by
  induction t with
  | done => rfl
  | call record during next ihduring ihnext => simp only [inMode, log, ihduring, ihnext]
  | read view figures next ihnext => exact ihnext

namespace Script

/-- No call arrived while the runtime allocated: the transcript has no records inside those of the
allocations. The calls that a script has inside a denied allocation never arrive. -/
def AllocatedAlone : Script → Transcript → Prop
  | allocate _ _ _ _ next, .call _ inner rest => inner = .done ∧ next.AllocatedAlone rest
  | release _ _ _ during next, .call _ inner rest | query _ _ during next, .call _ inner rest =>
    during.AllocatedAlone inner ∧ next.AllocatedAlone rest
  | read _ next, .read _ _ rest => next.AllocatedAlone rest
  | _, _ => True

variable {threshold : LogLevel} {s : Script} {locked : Bool} {g last : Gate}
  {transcript : Transcript}

/-- Only the script of nothing leaves no records. -/
theorem eq_done_of_runs_done (h : s.Runs threshold locked g .done last) : s = .done ∧ last = g := by
  cases h
  exact ⟨rfl, rfl⟩

/-- **A run in which the runtime allocates alone is a run in any mode.** The mode decides only how
long the ledger is locked by an allocation, and there is nobody who would have to wait. -/
theorem Runs.inMode (h : s.Runs threshold locked g transcript last) (mode : AdmissionMode)
    (halone : s.AllocatedAlone transcript) :
    s.Runs threshold locked (g.inMode mode) (transcript.inMode mode) (last.inMode mode) := by
  induction h with
  | done => exact .done
  | refused hdenied _ hnext =>
    exact .refused (Gate.request_inMode_of_error mode hdenied) (hnext halone.2)
  | @admitted site size real during next g admitted granted last inner rest hpass hruns _ _ hnext =>
    -- The one case in which the mode matters: it says whether the calls inside find a lock.
    obtain ⟨hinner, hlater⟩ := halone
    subst hinner
    obtain ⟨rfl, rfl⟩ := eq_done_of_runs_done hruns
    show Runs _ _ _ _ (.call (.settled threshold site size real (granted.inMode mode)) .done _) _
    exact .admitted (Gate.request_inMode_of_ok mode hpass) .done (hnext hlater)
  | @released site handle status during next locked g freed last inner rest hfree _ _ hduring hnext =>
    show Runs _ _ _ _
      (.call (.released threshold site handle status (g.inMode mode) (freed.inMode mode)) _ _) _
    exact .released hfree (hduring halone.1) (hnext halone.2)
  | @queried site status during next locked g queried last inner rest _ hfree _ hduring hnext =>
    show Runs _ _ _ _ (.call (.queried threshold site status (queried.inMode mode)) _ _) _
    exact .queried (hduring halone.1) hfree (hnext halone.2)
  | @read what next g last rest _ hnext =>
    show Runs _ _ _ _ (.read ((g.view what).inMode mode) g.snapshot _) _
    rw [← Gate.view_inMode]
    exact .read (hnext halone)

/-- Such a run passes through the same ledgers in any mode. -/
theorem Runs.ledgers_inMode (h : s.Runs threshold locked g transcript last) (mode : AdmissionMode)
    (halone : s.AllocatedAlone transcript) :
    s.ledgers locked (g.inMode mode) = s.ledgers locked g := by
  induction h with
  | done => rfl
  | @refused site size real during next g last why rest hdenied _ hnext =>
    rw [ledgers_refused hdenied, ledgers_refused (Gate.request_inMode_of_error mode hdenied),
      ← hnext halone.2]
    rfl
  | @admitted site size real during next g admitted granted last inner rest hpass hruns _ _ hnext =>
    obtain ⟨hinner, hlater⟩ := halone
    subst hinner
    obtain ⟨rfl, rfl⟩ := eq_done_of_runs_done hruns
    have hidle : Script.done.Runs threshold (g.inMode mode).mode.holdsLock (granted.inMode mode)
        .done (granted.inMode mode) := .done
    rw [ledgers_admitted hpass hruns,
      ledgers_admitted (Gate.request_inMode_of_ok mode hpass) hidle, ← hnext hlater]
    rfl
  | @released site handle status during next locked g freed last inner rest hfree hruns _ hduring
      hnext =>
    rw [ledgers_released hfree hruns,
      ledgers_released (g := g.inMode mode) hfree (hruns.inMode mode halone.1),
      ← hduring halone.1, ← hnext halone.2]
    rfl
  | @queried site status during next locked g queried last inner rest hruns hfree _ hduring hnext =>
    rw [ledgers_queried hruns hfree, ledgers_queried (hruns.inMode mode halone.1) hfree,
      ← hduring halone.1, ← hnext halone.2]
    rfl
  | @read what next g last rest _ hnext =>
    rw [ledgers_read, ledgers_read, hnext halone]
    rfl

/-- In optimistic mode no call waits for ever. -/
theorem exists_runs_of_optimistic (threshold : LogLevel) (s : Script) :
    ∀ g : Gate, g.mode = .optimistic → ∃ transcript last, s.Runs threshold false g transcript last := by
  induction s with
  | done =>
    intro g _
    exact ⟨_, _, .done⟩
  | allocate site size real during next ihduring ihnext =>
    intro g hmode
    cases hrequest : g.request size with
    | error why =>
      obtain ⟨rest, last, hrest⟩ := ihnext g.refuse hmode
      exact ⟨_, _, .refused hrequest hrest⟩
    | ok admitted =>
      obtain ⟨l, -, rfl⟩ := Gate.request_eq_ok_iff.1 hrequest
      obtain ⟨inner, granted, hinner⟩ := ihduring (g.withLedger l) hmode
      -- The calls inside find the ledger open, so the induction hypothesis is about them as well.
      have hopen : g.mode.holdsLock = false := by rw [hmode, AdmissionMode.holdsLock]
      rw [← hopen] at hinner
      obtain ⟨rest, last, hrest⟩ := ihnext (granted.settled site size real)
        (hinner.mode_eq.trans hmode)
      exact ⟨_, _, .admitted hrequest hinner hrest⟩
  | release site handle status during next ihduring ihnext =>
    intro g hmode
    obtain ⟨inner, freed, hinner⟩ := ihduring (g.released site handle) hmode
    obtain ⟨rest, last, hrest⟩ := ihnext freed (hinner.mode_eq.trans hmode)
    exact ⟨_, _, .released (fun _ => rfl) hinner hrest⟩
  | query site status during next ihduring ihnext =>
    intro g hmode
    obtain ⟨inner, queried, hinner⟩ := ihduring g hmode
    obtain ⟨rest, last, hrest⟩ := ihnext queried (hinner.mode_eq.trans hmode)
    exact ⟨_, _, .queried hinner (fun _ => rfl) hrest⟩
  | read what next ihnext =>
    intro g hmode
    obtain ⟨rest, last, hrest⟩ := ihnext g hmode
    exact ⟨_, _, .read hrest⟩

/-- **Without overlap the modes cannot be told apart.** In optimistic mode every script comes to its
end. If no call arrived while the runtime allocated, the script comes to its end in strict mode as
well: every call has the same record, which says what it answered, whether it reached the runtime,
what it logged before and after, and the figures when it was done; every look at the gate shows the
same but for the name of the mode; the script passes through the same ledgers, and the same events
are logged. -/
theorem strict_run_eq_optimistic_run (threshold : LogLevel) (g : Gate) (s : Script) :
    ∃ transcript last,
      s.run threshold false (g.inMode .optimistic) = some (transcript, last) ∧
        (s.AllocatedAlone transcript →
          s.run threshold false (g.inMode .strict)
              = some (transcript.inMode .strict, last.inMode .strict) ∧
            s.ledgers false (g.inMode .strict) = s.ledgers false (g.inMode .optimistic) ∧
            (transcript.inMode .strict).log = transcript.log) := by
  obtain ⟨transcript, last, hruns⟩ :=
    exists_runs_of_optimistic threshold s (g.inMode .optimistic) rfl
  refine ⟨transcript, last, run_of_runs hruns, ?_⟩
  intro halone
  refine ⟨run_of_runs (hruns.inMode .strict halone), ?_, transcript.log_inMode .strict⟩
  exact hruns.ledgers_inMode .strict halone

/-- While the runtime reports memory, a handle is freed, and its address is granted again before it
is. An allocation is denied, so that the release inside it never arrives; another one fails, and the
last one gets a handle that is still tracked. -/
def freedWhileQueried : Script :=
  .allocate ⟨.cuda, "cudaMalloc"⟩ 60 ⟨0, 16⟩ .done <|
  .query ⟨.cuda, "cudaMemGetInfo"⟩ 0
    (.release ⟨.cuda, "cudaFree"⟩ 16 0
      (.allocate ⟨.hip, "hipMalloc"⟩ 70 ⟨0, 16⟩ .done .done) .done) <|
  .allocate ⟨.acl, "aclrtMalloc"⟩ 40 ⟨0, 32⟩ (.release ⟨.hip, "hipFree"⟩ 16 0 .done .done) <|
  .allocate ⟨.cuda, "cudaMalloc"⟩ 20 ⟨2, 0⟩ .done <|
  .allocate ⟨.cuda, "cudaMalloc"⟩ 20 ⟨0, 16⟩ .done <|
  .read .overview .done

theorem strict_run_eq_freedWhileQueried :
    ∃ transcript last,
      freedWhileQueried.run .debug false (.new ⟨100, .debug, .optimistic, some 2⟩)
        = some (transcript, last) ∧
      freedWhileQueried.AllocatedAlone transcript ∧
      freedWhileQueried.run .debug false (.new ⟨100, .debug, .strict, some 2⟩)
        = some (transcript.inMode .strict, last.inMode .strict) := by
  obtain ⟨transcript, last, hrun, hsame⟩ := strict_run_eq_optimistic_run .debug
    (.new ⟨100, .debug, .strict, some 2⟩) freedWhileQueried
  have halone : freedWhileQueried.AllocatedAlone transcript := by
    obtain ⟨rfl, rfl⟩ := Prod.mk.inj (Option.some.inj hrun)
    exact ⟨rfl, ⟨⟨rfl, trivial⟩, trivial⟩, rfl, rfl, rfl, trivial⟩
  exact ⟨transcript, last, hrun, halone, (hsame halone).1⟩

end Script

end DeviceQuota
