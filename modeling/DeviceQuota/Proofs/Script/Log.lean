import DeviceQuota.Proofs.Script.Peak

/-!
# The log

What is logged is decided by a threshold, and nothing else is: calls are answered, runtimes are
called and ledgers change as they do when everything is logged. And when everything is logged, the
log tells the counters: an event for each denial, for each charge and for each handle released, and
a warning for each entry that was replaced.

* **`Transcript.shown`** — a transcript with what a threshold lets pass of its log, and
  **`Script.run_eq_shown`**, every run against the run in which everything is logged;
* **`Ledger.Recounts`** — events tell how one ledger became another; **`Ledger.recounts_settle`** and
  its companions, one for each phase;
* **`Ledger.CountedBy`** — a log against the counters of a ledger;
* **`Script.log_is_faithful`** — nested calls at every threshold, and calls that overlap.
-/

namespace DeviceQuota

/-! ### Thresholds -/

/-- An event passes exactly if its level is at the threshold or above it. -/
theorem Event.shown_eq_filter_rank (threshold : LogLevel) (events : List Event) :
    shown threshold events = events.filter fun e => threshold.rank ≤ e.level.rank := by
  refine List.filter_congr fun e _ => ?_
  simp [LogLevel.allows, level_ne_none]

namespace Record

/-- A record with what a threshold lets pass of its events. -/
def shown (threshold : LogLevel) (record : Record) : Record :=
  { record with
    before := Event.shown threshold record.before
    after := Event.shown threshold record.after }

variable (threshold : LogLevel) (site : CallSite)

theorem shown_refused (why : Denial) (g : Gate) :
    (refused .debug site why g).shown threshold = refused threshold site why g := by
  simp only [shown, refused, Event.shown_debug, Event.shown_nil]

theorem shown_settled (size : Bytes) (real : Outcome) (g : Gate) :
    (settled .debug site size real g).shown threshold = settled threshold site size real g := by
  simp only [shown, settled, Event.shown_debug, Event.shown_nil]

theorem shown_released (handle : Handle) (status : Status) (g freed : Gate) :
    (released .debug site handle status g freed).shown threshold
      = released threshold site handle status g freed := by
  simp only [shown, released, Event.shown_debug, Event.shown_nil]

theorem shown_queried (status : Status) (g : Gate) :
    (queried .debug site status g).shown threshold = queried threshold site status g := by
  simp only [shown, queried, Event.shown_debug, Event.shown_nil]

end Record

namespace Transcript

/-- A transcript with what a threshold lets pass of its events. All else is what it was. -/
def shown (threshold : LogLevel) : Transcript → Transcript
  | done => done
  | call record during next =>
    call (record.shown threshold) (during.shown threshold) (next.shown threshold)
  | read view figures next => read view figures (next.shown threshold)

/-- What passes of a log is logged in the same order. -/
theorem log_shown (threshold : LogLevel) (t : Transcript) :
    (t.shown threshold).log = Event.shown threshold t.log := by
  induction t with
  | done => rfl
  | call record during next ihduring ihnext =>
    simp only [shown, log, Record.shown, ihduring, ihnext, Event.shown_append]
  | read view figures next ihnext => exact ihnext

end Transcript

namespace Script

variable {s : Script} {locked : Bool} {g last : Gate} {transcript : Transcript}

/-- **A threshold only hides events.** A run in which everything is logged is a run at any threshold,
with the same answers, real calls, figures and gates. -/
theorem Runs.shown (h : s.Runs .debug locked g transcript last) (threshold : LogLevel) :
    s.Runs threshold locked g (transcript.shown threshold) last := by
  induction h with
  | done => exact .done
  | @refused site size real during next g last why rest hdenied _ hnext =>
    rw [Transcript.shown, Record.shown_refused]
    exact .refused hdenied hnext
  | @admitted site size real during next g admitted granted last inner rest hpass _ _ hduring hnext =>
    rw [Transcript.shown, Record.shown_settled]
    exact .admitted hpass hduring hnext
  | @released site handle status during next locked g freed last inner rest hfree _ _ hduring hnext =>
    rw [Transcript.shown, Record.shown_released]
    exact .released hfree hduring hnext
  | @queried site status during next locked g queried last inner rest _ hfree _ hduring hnext =>
    rw [Transcript.shown, Record.shown_queried]
    exact .queried hduring hfree hnext
  | read _ hnext => exact .read hnext

/-- Every run is the one in which everything is logged, but for the log; also where a call waits for
ever. -/
theorem run_eq_shown (threshold : LogLevel) (s : Script) (locked : Bool) (g : Gate) :
    s.run threshold locked g
      = (s.run .debug locked g).map fun (transcript, last) => (transcript.shown threshold, last) := by
  cases hdebug : s.run .debug locked g with
  | some ended => exact run_of_runs ((runs_of_run hdebug).shown threshold)
  | none =>
    rw [Option.map_none, Option.eq_none_iff_forall_not_mem]
    rintro ⟨seen, last⟩ hrun
    obtain ⟨all, hall⟩ := (runs_of_run hrun).exists_at .debug
    rw [run_of_runs hall] at hdebug
    contradiction

end Script

/-! ### Events and counters -/

namespace Ledger

/-- Events tell how the first ledger became the second: a counter grew by the number of its events,
and the table by an entry for each charge, without those that were released or replaced. -/
structure Recounts (l : Ledger) (events : List Event) (m : Ledger) : Prop where
  failed_eq : m.failed = l.failed + events.countP Event.isDenial
  allocs_eq : m.allocs = l.allocs + events.countP Event.isCharge
  frees_eq : m.frees = l.frees + events.countP Event.isRelease
  size_eq : m.table.size + events.countP Event.isRelease + events.countP Event.isStale
    = l.table.size + events.countP Event.isCharge

variable {l m n : Ledger} {events later : List Event}

theorem recounts_self (l : Ledger) : l.Recounts [] l := ⟨rfl, rfl, rfl, rfl⟩

theorem Recounts.append (h : l.Recounts events m) (hafter : m.Recounts later n) :
    l.Recounts (events ++ later) n := by
  obtain ⟨hfailed, hallocs, hfrees, hsize⟩ := h
  obtain ⟨hfailed', hallocs', hfrees', hsize'⟩ := hafter
  constructor <;> simp only [List.countP_append] <;> omega

/-! ### Phases -/

theorem recounts_refuse (l : Ledger) (function : String) (why : Denial) :
    l.Recounts [.ofDenial function why] l.refuse := by
  cases why <;> exact ⟨rfl, rfl, rfl, rfl⟩

theorem recounts_request {limit size : Bytes} (h : l.request limit size = .ok m) :
    l.Recounts [] m := by
  obtain ⟨-, table, hslot, rfl⟩ := request_eq_ok_iff.1 h
  obtain ⟨-, rfl⟩ := Table.reserve?_eq_ok_iff.1 hslot
  exact ⟨rfl, rfl, rfl, rfl⟩

/-- The end of an allocation logs one charge if it was charged, after a warning if that replaced an
entry. -/
theorem recounts_settle (l : Ledger) (site : CallSite) (size : Bytes) (real : Outcome) :
    l.Recounts (l.settle site size real).2 (l.settle site size real).1 := by
  cases hgranted : real.granted site.vendor with
  | false =>
    rw [settle_of_not_granted l size hgranted]
    exact ⟨rfl, rfl, rfl, rfl⟩
  | true =>
    have hsize : (l.charge real.handle size).table.size
        = if (l.tracked? real.handle).isSome then l.table.size else l.table.size + 1 :=
      HandleMap.size_insert l.table.live real.handle size
    rw [fst_settle_of_granted l size hgranted]
    cases hfound : l.tracked? real.handle with
    | none =>
      have hevents : (l.settle site size real).2
          = [.charged site.function size real.handle (l.charge real.handle size).used] := by
        simp [settle, hgranted, hfound]
      rw [hevents]
      refine ⟨rfl, rfl, rfl, ?_⟩
      rw [hsize, hfound]
      rfl
    | some stale =>
      have hevents : (l.settle site size real).2
          = [.stale site.function real.handle stale,
            .charged site.function size real.handle (l.charge real.handle size).used] := by
        simp [settle, hgranted, hfound]
      rw [hevents]
      refine ⟨rfl, rfl, rfl, ?_⟩
      rw [hsize, hfound]
      rfl

/-- The beginning of a release logs one event if the handle is tracked. -/
theorem recounts_release (l : Ledger) (site : CallSite) (handle : Handle) :
    l.Recounts (l.release site handle).2 (l.release site handle).1 := by
  by_cases hnull : handle = 0
  · rw [hnull, release_null]
    exact l.recounts_self
  · cases hfound : l.tracked? handle with
    | none =>
      have hrelease : l.release site handle = (l, [.untracked site.function handle]) := by
        simp [release, hnull, hfound]
      rw [hrelease]
      exact ⟨rfl, rfl, rfl, rfl⟩
    | some size =>
      have hrelease : l.release site handle = (l.discharge handle size,
          [.released site.function size handle (l.discharge handle size).used]) := by
        simp [release, hnull, hfound]
      have hsize : (l.discharge handle size).table.size + 1 = l.table.size :=
        HandleMap.size_erase hfound
      rw [hrelease]
      exact ⟨rfl, rfl, rfl, hsize⟩

end Ledger

/-- The answer to a query logs nothing that is counted. -/
theorem Gate.recounts_answerQuery (g : Gate) (site : CallSite) (status : Status) :
    g.ledger.Recounts (g.answerQuery site status).2 g.ledger := by
  unfold answerQuery
  split <;> exact ⟨rfl, rfl, rfl, rfl⟩

/-! ### Runs -/

/-- **The log of a script** in which everything is logged tells how its ledger came about. -/
theorem Script.Runs.recounts {s : Script} {locked : Bool} {g last : Gate} {transcript : Transcript}
    (h : s.Runs .debug locked g transcript last) :
    g.ledger.Recounts transcript.log last.ledger := by
  induction h with
  | done => exact Ledger.recounts_self _
  | @refused site size real during next g last why rest _ _ hnext =>
    have hlog := (g.ledger.recounts_refuse site.function why).append hnext
    simpa [Transcript.log, Record.refused] using hlog
  | @admitted site size real during next g admitted granted last inner rest hpass _ _ hduring hnext =>
    obtain ⟨l, hrequest, rfl⟩ := Gate.request_eq_ok_iff.1 hpass
    have hinside := (Ledger.recounts_request hrequest).append hduring
    have hsettled := granted.ledger.recounts_settle site size real
    have hlog := (hinside.append hsettled).append hnext
    simpa [Transcript.log, Record.settled] using hlog
  | @released site handle status during next locked g freed last inner rest _ _ _ hduring hnext =>
    have hbegun := g.ledger.recounts_release site handle
    have hlog := (hbegun.append hduring).append hnext
    simpa [Transcript.log, Record.released] using hlog
  | @queried site status during next locked g queried last inner rest _ _ _ hduring hnext =>
    have hanswered := queried.recounts_answerQuery site status
    have hlog := (hduring.append hanswered).append hnext
    simpa [Transcript.log, Record.queried] using hlog
  | read _ hnext => exact hnext

namespace Traffic

variable {t u : Traffic} {phase : Phase} {events : List Event}

theorem recounts_of_move (h : t.Move phase u events) :
    t.gate.ledger.Recounts events u.gate.ledger := by
  cases h with
  | admitted _ hpass =>
    obtain ⟨l, hrequest, rfl⟩ := Gate.request_eq_ok_iff.1 hpass
    exact Ledger.recounts_request hrequest
  | refused => exact t.gate.ledger.recounts_refuse _ _
  | @charged place flight real hflight hgranted =>
    have hsettled := t.gate.ledger.recounts_settle flight.site flight.size real
    rwa [Ledger.fst_settle_of_granted _ _ hgranted] at hsettled
  | @cancelled place flight real hflight hgranted =>
    have hsettled := t.gate.ledger.recounts_settle flight.site flight.size real
    rwa [Ledger.settle_of_not_granted _ _ hgranted] at hsettled
  | @discharged site handle size _ hne hfound =>
    have hreleased := t.gate.ledger.recounts_release site handle
    rwa [Ledger.fst_release_of_tracked site hne hfound] at hreleased
  | @untouched site handle _ habsent =>
    have hreleased := t.gate.ledger.recounts_release site handle
    have hsame : (t.gate.ledger.release site handle).1 = t.gate.ledger :=
      congrArg Gate.ledger (Gate.released_of_absent site habsent)
    rwa [hsame] at hreleased

/-- **The log of overlapping calls** tells how their ledger came about. -/
theorem recounts_of_run? {phases : List Phase} (h : run? phases t = some (u, events)) :
    t.gate.ledger.Recounts events u.gate.ledger := by
  induction phases generalizing t events with
  | nil =>
    obtain ⟨rfl, rfl⟩ := Prod.mk.inj (Option.some.inj h)
    exact t.gate.ledger.recounts_self
  | cons phase phases ih =>
    obtain ⟨⟨mid, logged⟩, hhead, htail⟩ := Option.bind_eq_some_iff.1 h
    obtain ⟨⟨_, later⟩, hrun, hend⟩ := Option.map_eq_some_iff.1 htail
    obtain ⟨rfl, rfl⟩ := Prod.mk.inj hend
    exact (recounts_of_move (move_of_step? hhead)).append (ih hrun)

end Traffic

/-! ### The log and the counters -/

/-- The events that are counted are as many as the counters of a ledger say, and the replaced entries
are those that were charged and are neither released nor live. -/
structure Ledger.CountedBy (l : Ledger) (events : List Event) : Prop where
  denials_eq : events.countP Event.isDenial = l.failed
  charges_eq : events.countP Event.isCharge = l.allocs
  releases_eq : events.countP Event.isRelease = l.frees
  stale_eq : events.countP Event.isStale = l.allocs - l.frees - l.table.size
  entries_le : l.frees + l.table.size ≤ l.allocs

/-- A ledger that came about from an empty one. -/
theorem Ledger.Recounts.countedBy {capacity : Option Nat} {events : List Event} {l : Ledger}
    (h : (new capacity).Recounts events l) : l.CountedBy events := by
  obtain ⟨hfailed, hallocs, hfrees, hsize⟩ := h
  have hfresh : (new capacity).failed = 0 ∧ (new capacity).allocs = 0 ∧ (new capacity).frees = 0 ∧
      (new capacity).table.size = 0 := ⟨rfl, rfl, rfl, rfl⟩
  constructor <;> omega

namespace Script

/-- **The log is a faithful account, and has no influence.** At every threshold a script runs as it
does when everything is logged: every call has the same answer, makes the same real call and leaves
the same figures, and the gate is the same at the end; only the events below the threshold are
missing from the log, the others are in the same order, and at the threshold `none` there are none.
When everything is logged, from a fresh gate on, the log has as many denials, charges and releases as
the counters say, and a warning for each entry that was replaced; so it has for calls that overlap. -/
theorem log_is_faithful (script : Script) (settings : Settings) :
    (∀ threshold locked g,
      script.run threshold locked g
        = (script.run .debug locked g).map fun (transcript, last) =>
            (transcript.shown threshold, last)) ∧
    (∀ locked g transcript last, script.run .debug locked g = some (transcript, last) →
      (∀ threshold, (transcript.shown threshold).log
        = transcript.log.filter fun e => threshold.rank ≤ e.level.rank) ∧
      (transcript.shown .none).log = [] ∧
      transcript.figures ⊆ (script.ledgers locked g).map (fun l => l.snapshot g.limit) ∧
      (script.ledgers locked g).getLast? = some last.ledger) ∧
    (∀ transcript last, script.run .debug false (.new settings) = some (transcript, last) →
      last.ledger.CountedBy transcript.log) ∧
    ∀ phases t events, Traffic.run? phases (.new settings) = some (t, events) →
      t.gate.ledger.CountedBy events := by
  refine ⟨fun threshold locked g => script.run_eq_shown threshold locked g, ?_, ?_, ?_⟩
  · intro locked g transcript last hrun
    have hruns := runs_of_run hrun
    refine ⟨fun threshold => ?_, ?_, hruns.figures_subset, hruns.getLast?_ledgers⟩
    · rw [Transcript.log_shown, Event.shown_eq_filter_rank]
    · rw [Transcript.log_shown, Event.shown_none]
  · intro transcript last hrun
    exact (runs_of_run hrun).recounts.countedBy
  · intro phases t events hrun
    exact (Traffic.recounts_of_run? hrun).countedBy

/-- An allocation is denied while another one is made, a handle comes back while it is still tracked,
an allocation fails, and a handle is freed twice while memory is reported. -/
def eventfulCalls : Script :=
  .allocate ⟨.cuda, "cudaMalloc"⟩ 60 ⟨0, 16⟩
    (.allocate ⟨.hip, "hipMalloc"⟩ 101 ⟨0, 32⟩ .done .done) <|
  .allocate ⟨.acl, "aclrtMalloc"⟩ 30 ⟨0, 16⟩ .done <|
  .allocate ⟨.cuda, "cudaMalloc"⟩ 20 ⟨2, 0⟩ .done <|
  .query ⟨.cuda, "cudaMemGetInfo"⟩ 0
    (.release ⟨.cuda, "cudaFree"⟩ 16 0 (.release ⟨.cuda, "cudaFree"⟩ 16 0 .done .done) .done) .done

theorem log_is_faithful_eventfulCalls :
    ∃ transcript last,
      eventfulCalls.run .debug false (.new ⟨100, .warn, .optimistic, none⟩)
        = some (transcript, last) ∧
      eventfulCalls.run .warn false (.new ⟨100, .warn, .optimistic, none⟩)
        = some (transcript.shown .warn, last) ∧
      transcript.log.length = 8 ∧
      (transcript.shown .warn).log.length = 2 ∧
      last.ledger.CountedBy transcript.log := by
  obtain ⟨hshown, -, hcounted, -⟩ :=
    log_is_faithful eventfulCalls ⟨100, .warn, .optimistic, none⟩
  have hends : (eventfulCalls.run .debug false (.new ⟨100, .warn, .optimistic, none⟩)).isSome
      = true := by rfl
  obtain ⟨⟨transcript, last⟩, hrun⟩ := Option.isSome_iff_exists.1 hends
  have hwarn := hshown .warn false (.new ⟨100, .warn, .optimistic, none⟩)
  rw [hrun, Option.map_some] at hwarn
  refine ⟨transcript, last, hrun, hwarn, ?_, ?_, hcounted transcript last hrun⟩
  · obtain ⟨rfl, rfl⟩ := Prod.mk.inj (Option.some.inj hrun)
    rfl
  · obtain ⟨rfl, rfl⟩ := Prod.mk.inj (Option.some.inj hrun)
    rfl

end Script

end DeviceQuota
