import DeviceQuota.Script

/-!
# The runs of a script

`Script.run` is a function with a case for each call and each answer of the ledger. `Script.Runs` is
the same as a relation, with one rule for each thing that can happen: statements about all runs are
proved by induction on it, and a rule has at hand what is known when it applies.

* **`Record.refused`**, **`Record.settled`**, **`Record.released`**, **`Record.queried`** — the record
  of a call, from the gate at its end;
* **`Script.Runs`** — the rules, and **`Script.runs_iff`**, their agreement with `Script.run`;
* **`Script.end?`** — the gate at the end of a run, which does not depend on what is logged.
-/

namespace DeviceQuota

/-- The gate after the end of an allocation. -/
def Gate.settled (g : Gate) (site : CallSite) (size : Bytes) (real : Outcome) : Gate :=
  g.withLedger (g.ledger.settle site size real).1

/-- The gate after the beginning of a release. -/
def Gate.released (g : Gate) (site : CallSite) (handle : Handle) : Gate :=
  g.withLedger (g.ledger.release site handle).1

/-- A release of a handle without a charge leaves the gate as it is. -/
theorem Gate.released_of_absent {g : Gate} {handle : Handle} (site : CallSite)
    (habsent : handle = 0 ∨ g.ledger.tracked? handle = none) : g.released site handle = g := by
  have hledger : (g.ledger.release site handle).1 = g.ledger := by
    rcases habsent with rfl | hnone
    · rw [Ledger.release_null]
    · exact Ledger.fst_release_of_untracked site hnone
  rw [released, hledger]
  rfl

/-- Nothing waits for a lock that is open where it is needed. -/
theorem and_eq_false_of_open {locked needed : Bool} (h : needed = true → locked = false) :
    (locked && needed) = false := by
  cases needed with
  | true => rw [h rfl, Bool.false_and]
  | false => rw [Bool.and_false]

/-! ### Records -/

namespace Record

/-- An allocation that the gate denied. -/
def refused (threshold : LogLevel) (site : CallSite) (why : Denial) (g : Gate) : Record where
  answer := .status ((Refusal.denied why).status site.vendor)
  reached := false
  before := []
  after := Event.shown threshold [.ofDenial site.function why]
  figures := g.refuse.snapshot

/-- An allocation that was let through, settled on the gate `g`. -/
def settled (threshold : LogLevel) (site : CallSite) (size : Bytes) (real : Outcome) (g : Gate) :
    Record where
  answer := .status real.status
  reached := true
  before := []
  after := Event.shown threshold (g.ledger.settle site size real).2
  figures := (g.settled site size real).snapshot

/-- A release that began on the gate `g`; `freed` is the gate when the runtime returned. -/
def released (threshold : LogLevel) (site : CallSite) (handle : Handle) (status : Status)
    (g freed : Gate) : Record where
  answer := .status status
  reached := true
  before := Event.shown threshold (g.ledger.release site handle).2
  after := []
  figures := freed.snapshot

/-- A memory query; `g` is the gate when the runtime returned. -/
def queried (threshold : LogLevel) (site : CallSite) (status : Status) (g : Gate) : Record where
  answer := .memory (g.answerQuery site status).1
  reached := true
  before := []
  after := Event.shown threshold (g.answerQuery site status).2
  figures := g.snapshot

end Record

namespace Script

/-- What can happen when a script runs on a gate: a call that waits for ever has no rule. -/
inductive Runs (threshold : LogLevel) : Script → Bool → Gate → Transcript → Gate → Prop where
  | done {locked : Bool} {g : Gate} : Runs threshold .done locked g .done g
  | refused {site : CallSite} {size : Bytes} {real : Outcome} {during next : Script} {g last : Gate}
      {why : Denial} {rest : Transcript} (hdenied : g.request size = .error why)
      (hnext : Runs threshold next false g.refuse rest last) :
      Runs threshold (.allocate site size real during next) false g
        (.call (.refused threshold site why g) .done rest) last
  | admitted {site : CallSite} {size : Bytes} {real : Outcome} {during next : Script}
      {g admitted granted last : Gate} {inner rest : Transcript}
      (hpass : g.request size = .ok admitted)
      (hduring : Runs threshold during g.mode.holdsLock admitted inner granted)
      (hnext : Runs threshold next false (granted.settled site size real) rest last) :
      Runs threshold (.allocate site size real during next) false g
        (.call (.settled threshold site size real granted) inner rest) last
  | released {site : CallSite} {handle : Handle} {status : Status} {during next : Script}
      {locked : Bool} {g freed last : Gate} {inner rest : Transcript}
      (hfree : handle ≠ 0 → locked = false)
      (hduring : Runs threshold during locked (g.released site handle) inner freed)
      (hnext : Runs threshold next locked freed rest last) :
      Runs threshold (.release site handle status during next) locked g
        (.call (.released threshold site handle status g freed) inner rest) last
  | queried {site : CallSite} {status : Status} {during next : Script} {locked : Bool}
      {g queried last : Gate} {inner rest : Transcript}
      (hduring : Runs threshold during locked g inner queried)
      (hfree : site.vendor.isSuccess status = true → locked = false)
      (hnext : Runs threshold next locked queried rest last) :
      Runs threshold (.query site status during next) locked g
        (.call (.queried threshold site status queried) inner rest) last
  | read {what : Reading} {next : Script} {g last : Gate} {rest : Transcript}
      (hnext : Runs threshold next false g rest last) :
      Runs threshold (.read what next) false g (.read (g.view what) g.snapshot rest) last

variable {threshold : LogLevel} {s t : Script} {locked : Bool} {g last : Gate}
  {transcript : Transcript}

theorem run_of_runs (h : s.Runs threshold locked g transcript last) :
    s.run threshold locked g = some (transcript, last) := by
  induction h with
  | done => rfl
  | refused hdenied _ hnext =>
    simp only [run, hdenied, hnext, Bool.false_eq_true, if_false, Option.map_some]
    rfl
  | admitted hpass _ _ hduring hnext =>
    simp only [run, hpass, hduring, Bool.false_eq_true, if_false, Option.bind_some]
    rw [Gate.settled] at hnext
    simp only [hnext, Option.map_some]
    rfl
  | @released site handle status during next locked g freed last inner rest hfree _ _ hduring hnext =>
    have hopen : (locked && handle != 0) = false :=
      and_eq_false_of_open fun hneeded => hfree (bne_iff_ne.1 hneeded)
    rw [Gate.released] at hduring
    simp only [run, hopen, Bool.false_eq_true, if_false, hduring, hnext, Option.bind_some,
      Option.map_some]
    rfl
  | @queried site status during next locked g queried last inner rest _ hfree _ hduring hnext =>
    have hopen := and_eq_false_of_open hfree
    simp only [run, hduring, hopen, Bool.false_eq_true, if_false, hnext, Option.bind_some,
      Option.map_some]
    rfl
  | read _ hnext =>
    simp only [run, Bool.false_eq_true, if_false, hnext, Option.map_some]

theorem runs_of_run (h : s.run threshold locked g = some (transcript, last)) :
    s.Runs threshold locked g transcript last := by
  induction s generalizing locked g transcript last with
  | done =>
    obtain ⟨rfl, rfl⟩ := Prod.mk.inj (Option.some.inj h)
    exact .done
  | allocate site size real during next ihduring ihnext =>
    simp only [run] at h
    split at h
    · contradiction
    · next hlocked =>
      rw [Bool.not_eq_true] at hlocked
      subst hlocked
      split at h
      · next why hdenied =>
        obtain ⟨⟨rest, _⟩, hnext, hend⟩ := Option.map_eq_some_iff.1 h
        obtain ⟨rfl, rfl⟩ := Prod.mk.inj hend
        exact .refused hdenied (ihnext hnext)
      · next admitted hpass =>
        obtain ⟨⟨inner, granted⟩, hduring, hafter⟩ := Option.bind_eq_some_iff.1 h
        obtain ⟨⟨rest, _⟩, hnext, hend⟩ := Option.map_eq_some_iff.1 hafter
        obtain ⟨rfl, rfl⟩ := Prod.mk.inj hend
        exact .admitted hpass (ihduring hduring) (ihnext hnext)
  | release site handle status during next ihduring ihnext =>
    simp only [run] at h
    split at h
    · contradiction
    · next hlocked =>
      have hfree : handle ≠ 0 → locked = false := by
        intro hne
        simpa [hne] using hlocked
      obtain ⟨⟨inner, freed⟩, hduring, hafter⟩ := Option.bind_eq_some_iff.1 h
      obtain ⟨⟨rest, _⟩, hnext, hend⟩ := Option.map_eq_some_iff.1 hafter
      obtain ⟨rfl, rfl⟩ := Prod.mk.inj hend
      exact .released hfree (ihduring hduring) (ihnext hnext)
  | query site status during next ihduring ihnext =>
    simp only [run] at h
    obtain ⟨⟨inner, queried⟩, hduring, hafter⟩ := Option.bind_eq_some_iff.1 h
    split at hafter
    · contradiction
    · next hlocked =>
      have hfree : site.vendor.isSuccess status = true → locked = false := by
        intro hsuccess
        simpa [hsuccess] using hlocked
      obtain ⟨⟨rest, _⟩, hnext, hend⟩ := Option.map_eq_some_iff.1 hafter
      obtain ⟨rfl, rfl⟩ := Prod.mk.inj hend
      exact .queried (ihduring hduring) hfree (ihnext hnext)
  | read what next ihnext =>
    simp only [run] at h
    split at h
    · contradiction
    · next hlocked =>
      rw [Bool.not_eq_true] at hlocked
      subst hlocked
      obtain ⟨⟨rest, _⟩, hnext, hend⟩ := Option.map_eq_some_iff.1 h
      obtain ⟨rfl, rfl⟩ := Prod.mk.inj hend
      exact .read (ihnext hnext)

/-- **The rules are those of the function.** -/
theorem runs_iff :
    s.Runs threshold locked g transcript last ↔
      s.run threshold locked g = some (transcript, last) :=
  ⟨run_of_runs, runs_of_run⟩

/-! ### The end of a run -/

/-- The gate at the end of a script; `none` where a call waits for ever. -/
def end? (s : Script) (locked : Bool) (g : Gate) : Option Gate :=
  (s.run .none locked g).map Prod.snd

/-- What is logged has no influence on the gate. -/
theorem Runs.exists_at (h : s.Runs threshold locked g transcript last) (other : LogLevel) :
    ∃ seen, s.Runs other locked g seen last := by
  induction h with
  | done => exact ⟨_, .done⟩
  | refused hdenied _ hnext =>
    obtain ⟨rest, hrest⟩ := hnext
    exact ⟨_, .refused hdenied hrest⟩
  | admitted hpass _ _ hduring hnext =>
    obtain ⟨inner, hinner⟩ := hduring
    obtain ⟨rest, hrest⟩ := hnext
    exact ⟨_, .admitted hpass hinner hrest⟩
  | released hfree _ _ hduring hnext =>
    obtain ⟨inner, hinner⟩ := hduring
    obtain ⟨rest, hrest⟩ := hnext
    exact ⟨_, .released hfree hinner hrest⟩
  | queried _ hfree _ hduring hnext =>
    obtain ⟨inner, hinner⟩ := hduring
    obtain ⟨rest, hrest⟩ := hnext
    exact ⟨_, .queried hinner hfree hrest⟩
  | read _ hnext =>
    obtain ⟨rest, hrest⟩ := hnext
    exact ⟨_, .read hrest⟩

theorem Runs.end?_eq (h : s.Runs threshold locked g transcript last) :
    s.end? locked g = some last := by
  obtain ⟨seen, hseen⟩ := h.exists_at .none
  rw [end?, run_of_runs hseen]
  rfl

theorem runs_of_end? (h : s.end? locked g = some last) :
    ∃ seen, s.Runs .none locked g seen last := by
  obtain ⟨⟨seen, _⟩, hrun, rfl⟩ := Option.map_eq_some_iff.1 h
  exact ⟨seen, runs_of_run hrun⟩

end Script

end DeviceQuota
