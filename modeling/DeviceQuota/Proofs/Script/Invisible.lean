import DeviceQuota.Proofs.Ledger.Ahead
import DeviceQuota.Proofs.Script.Cut

/-!
# Calls that nobody notices

An allocation that the runtime does not grant holds a slot while it is in flight, and calls may run in
the meantime. A denied allocation leaves nothing but one more denial in the count. A run with such
calls and a run without them go through ledgers that differ in promised slots and in denials only, and
as long as nobody is short of slots no decision depends on either.

* **`Script.Runs.slots_eq`** — a run gives back all slots that it was promised;
* **`Script.Runs.cut`** — the run of what remains, by induction on the run of the whole;
* **`Script.run_cut`** — calls without effect are invisible.
-/

namespace DeviceQuota

/-! ### The gate -/

/-- The gate with more promised slots and more denials. -/
def Gate.ahead (g : Gate) (slots denials : Nat) : Gate := g.withLedger (g.ledger.ahead slots denials)

namespace Gate

variable {g admitted : Gate} {slots : Nat}

theorem request_ahead (size : Bytes) (denials : Nat)
    (hroom : slots = 0 ∨ g.ledger.table.capacity = none) :
    (g.ahead slots denials).request size = (g.request size).map fun h => h.ahead slots denials := by
  have hledger : (g.ahead slots denials).ledger.request (g.ahead slots denials).limit size
      = (g.ledger.request g.limit size).map fun l => l.ahead slots denials :=
    Ledger.request_ahead g.limit size denials hroom
  rw [request, request, hledger]
  cases g.ledger.request g.limit size <;> rfl

theorem request_eq_error_of_ahead {size : Bytes} {denials : Nat} {why : Denial}
    (hroom : slots = 0 ∨ g.ledger.table.capacity = none)
    (h : (g.ahead slots denials).request size = .error why) : g.request size = .error why := by
  rw [request_ahead size denials hroom] at h
  cases hrequest : g.request size with
  | error other =>
    rw [hrequest] at h
    exact h
  | ok passed =>
    rw [hrequest] at h
    contradiction

theorem request_eq_ok_of_ahead {size : Bytes} {denials : Nat}
    (hroom : slots = 0 ∨ g.ledger.table.capacity = none)
    (h : (g.ahead slots denials).request size = .ok admitted) :
    ∃ passed, g.request size = .ok passed ∧ admitted = passed.ahead slots denials := by
  rw [request_ahead size denials hroom] at h
  cases hrequest : g.request size with
  | error other =>
    rw [hrequest] at h
    contradiction
  | ok passed =>
    rw [hrequest] at h
    exact ⟨passed, rfl, (Except.ok.inj h).symm⟩

theorem ahead_zero (g : Gate) : g.ahead 0 0 = g := rfl

/-- A request that passes is one more slot ahead of a gate that never received it. -/
theorem ahead_of_request {size : Bytes} {denials : Nat}
    (h : (g.ahead slots denials).request size = .ok admitted) :
    admitted = g.ahead (slots + 1) denials := by
  obtain ⟨l, hpass, rfl⟩ := request_eq_ok_iff.1 h
  obtain ⟨-, table, hslot, rfl⟩ := Ledger.request_eq_ok_iff.1 hpass
  obtain ⟨-, rfl⟩ := Table.reserve?_eq_ok_iff.1 hslot
  rfl

theorem refuse_ahead (g : Gate) (slots denials : Nat) :
    (g.ahead slots denials).refuse = g.refuse.ahead slots denials :=
  congrArg g.withLedger (g.ledger.refuse_ahead slots denials)

theorem settled_ahead (site : CallSite) (size : Bytes) (real : Outcome) (slots denials : Nat)
    (hpromised : 0 < g.ledger.table.reserved) :
    (g.ahead slots denials).settled site size real
      = (g.settled site size real).ahead slots denials :=
  congrArg (fun settled : Ledger × List Event => g.withLedger settled.1)
    (Ledger.settle_ahead site size real slots denials hpromised)

/-- The end of an allocation that was not granted gives the slot ahead back. -/
theorem settled_of_not_granted (g : Gate) {site : CallSite} (size : Bytes) {real : Outcome}
    (slots denials : Nat) (hfailed : real.granted site.vendor = false) :
    (g.ahead (slots + 1) denials).settled site size real = g.ahead slots denials := by
  rw [settled, Ledger.settle_of_not_granted _ _ hfailed]
  rfl

theorem released_ahead (g : Gate) (site : CallSite) (handle : Handle) (slots denials : Nat) :
    (g.ahead slots denials).released site handle
      = (g.released site handle).ahead slots denials :=
  congrArg (fun released : Ledger × List Event => g.withLedger released.1)
    (g.ledger.release_ahead site handle slots denials)

/-! ### Promised slots -/

theorem slots_of_request {size : Bytes} (h : g.request size = .ok admitted) :
    admitted.ledger.table.reserved = g.ledger.table.reserved + 1 ∧
      admitted.ledger.table.capacity = g.ledger.table.capacity := by
  rw [← g.ahead_zero] at h
  rw [ahead_of_request h]
  exact ⟨rfl, rfl⟩

theorem slots_settled (g : Gate) (site : CallSite) (size : Bytes) (real : Outcome) :
    (g.settled site size real).ledger.table.reserved = g.ledger.table.reserved - 1 ∧
      (g.settled site size real).ledger.table.capacity = g.ledger.table.capacity := by
  rw [settled, Ledger.settle]
  cases real.granted site.vendor <;> exact ⟨rfl, rfl⟩

theorem slots_released (g : Gate) (site : CallSite) (handle : Handle) :
    (g.released site handle).ledger.table.reserved = g.ledger.table.reserved ∧
      (g.released site handle).ledger.table.capacity = g.ledger.table.capacity := by
  rw [released, Ledger.release]
  by_cases hnull : handle = 0
  · rw [if_pos hnull]
    exact ⟨rfl, rfl⟩
  · rw [if_neg hnull]
    cases g.ledger.tracked? handle <;> exact ⟨rfl, rfl⟩

/-! ### What is shown -/

theorem snapshot_ahead (g : Gate) (slots denials : Nat) :
    (g.ahead slots denials).snapshot.lessFailed denials = g.snapshot := by
  show { g.snapshot with failed := g.ledger.failed + denials - denials } = g.snapshot
  rw [Nat.add_sub_cancel]
  rfl

theorem view_ahead (g : Gate) (what : Reading) (slots denials : Nat) :
    ((g.ahead slots denials).view what).lessFailed denials = g.view what := by
  cases what with
  | memory | tracked => rfl
  | overview => exact congrArg (fun figures => View.overview ⟨_, _, figures⟩) (g.snapshot_ahead ..)

end Gate

namespace Record

variable {threshold : LogLevel} {site : CallSite} {g : Gate}

theorem refused_ahead (why : Denial) (slots denials : Nat) :
    (refused threshold site why (g.ahead slots denials)).lessFailed denials
      = refused threshold site why g := by
  simp only [lessFailed, refused, Gate.refuse_ahead, Gate.snapshot_ahead]

theorem settled_ahead (size : Bytes) (real : Outcome) (slots denials : Nat)
    (hpromised : 0 < g.ledger.table.reserved) :
    (settled threshold site size real (g.ahead slots denials)).lessFailed denials
      = settled threshold site size real g := by
  have hevents : ((g.ahead slots denials).ledger.settle site size real).2
      = (g.ledger.settle site size real).2 := by
    show ((g.ledger.ahead slots denials).settle site size real).2 = _
    rw [Ledger.settle_ahead _ _ _ _ _ hpromised]
  simp only [lessFailed, settled, Gate.settled_ahead _ _ _ _ _ hpromised, Gate.snapshot_ahead, hevents]

theorem released_ahead (handle : Handle) (status : Status) (freed : Gate)
    (slots before denials : Nat) :
    (released threshold site handle status (g.ahead slots before)
      (freed.ahead slots denials)).lessFailed denials
        = released threshold site handle status g freed := by
  have hevents : ((g.ahead slots before).ledger.release site handle).2
      = (g.ledger.release site handle).2 := by
    show ((g.ledger.ahead slots before).release site handle).2 = _
    rw [Ledger.release_ahead]
  simp only [lessFailed, released, Gate.snapshot_ahead, hevents]

theorem queried_ahead (status : Status) (slots denials : Nat) :
    (queried threshold site status (g.ahead slots denials)).lessFailed denials
      = queried threshold site status g := by
  have hanswer : (g.ahead slots denials).answerQuery site status = g.answerQuery site status := rfl
  simp only [lessFailed, queried, Gate.snapshot_ahead, hanswer]

end Record

namespace Script

variable {threshold : LogLevel} {s : Script} {locked : Bool} {g last : Gate}
  {transcript : Transcript}

/-- **A run gives back all slots** that it was promised. -/
theorem Runs.slots_eq (h : s.Runs threshold locked g transcript last) :
    last.ledger.table.reserved = g.ledger.table.reserved ∧
      last.ledger.table.capacity = g.ledger.table.capacity := by
  induction h with
  | done => exact ⟨rfl, rfl⟩
  | refused _ _ hnext => exact hnext
  | @admitted site size real during next g admitted granted last inner rest hpass _ _ hduring hnext =>
    have hpromise := Gate.slots_of_request hpass
    have hsettle := granted.slots_settled site size real
    rw [hnext.1, hnext.2, hsettle.1, hsettle.2, hduring.1, hduring.2, hpromise.1, hpromise.2]
    exact ⟨Nat.add_sub_cancel .., rfl⟩
  | @released site handle status during next locked g freed last inner rest _ _ _ hduring hnext =>
    have hrelease := g.slots_released site handle
    rw [hnext.1, hnext.2, hduring.1, hduring.2]
    exact hrelease
  | queried _ _ _ hduring hnext => exact ⟨hnext.1.trans hduring.1, hnext.2.trans hduring.2⟩
  | read _ hnext => exact hnext

/-- Nobody is short of slots because of `slots` that are promised besides. -/
def Room (slots : Nat) (g : Gate) (s : Script) : Prop :=
  slots = 0 ∨ g.ledger.table.capacity = none ∨ s.AllocationFree

namespace Room

variable {slots : Nat} {h : Gate} {u : Script}

theorem mono (hroom : Room slots g s) (hfree : s.AllocationFree → u.AllocationFree) :
    Room slots g u :=
  hroom.imp_right (Or.imp_right hfree)

theorem of_capacity_eq (hroom : Room slots g s)
    (hsame : h.ledger.table.capacity = g.ledger.table.capacity) : Room slots h s := by
  rw [Room, hsame]
  exact hroom

/-- Where an allocation has room, room is there for whatever comes. -/
theorem of_allocate {site : CallSite} {size : Bytes} {real : Outcome} {during next : Script}
    (hroom : Room slots g (.allocate site size real during next)) :
    slots = 0 ∨ g.ledger.table.capacity = none :=
  hroom.imp_right fun hrest => hrest.resolve_right id

end Room

/-- What is open to the whole is open to what remains of it. -/
theorem eq_false_of_held {held : Bool} (hheld : held = true → locked = true)
    (hopen : locked = false) : held = false := by
  cases held with
  | false => rfl
  | true =>
    rw [hheld rfl] at hopen
    contradiction

/-! ### The run of what remains -/

/-- Whatever harmless calls are left out, what remains runs along with the whole, which is ahead of it
by the slots of the allocations around it that were left out and by the denials that were dropped. -/
def RunsCut (threshold : LogLevel) (s : Script) (locked : Bool) (full : Gate)
    (transcript : Transcript) (last : Gate) : Prop :=
  ∀ {cut : Cut} {g : Gate} {slots dropped : Nat} {held : Bool}, full = g.ahead slots dropped →
    s.Harmless cut locked full → (held = true → locked = true) → Room slots g s →
    ∃ after, (s.cut cut).Runs threshold held g (transcript.cut cut dropped) after ∧
      last = after.ahead slots (dropped + cut.drops)

variable {site : CallSite} {size : Bytes} {real : Outcome} {during next : Script} {full : Gate}
  {inner rest : Transcript}

theorem runsCut_refused {why : Denial} (hdenied : full.request size = .error why)
    (hnext : next.RunsCut threshold false full.refuse rest last) :
    (allocate site size real during next).RunsCut threshold false full
      (.call (.refused threshold site why full) .done rest) last := by
  rintro cut g slots dropped held rfl hharmless hheld hroom
  obtain rfl := eq_false_of_held hheld rfl
  have hafter : Room slots g.refuse next := hroom.mono False.elim
  cases hharmless with
  | @refusedKept _ _ _ _ _ later _ _ _ _ hlater =>
    obtain ⟨after, hrest, rfl⟩ := hnext (g.refuse_ahead slots dropped) hlater hheld hafter
    refine ⟨after, ?_, ?_⟩
    · show Runs _ _ _ _ (.call (Record.lessFailed _ dropped) .done (rest.cut later dropped)) _
      rw [Record.refused_ahead]
      exact .refused (Gate.request_eq_error_of_ahead hroom.of_allocate hdenied) hrest
    · rw [Cut.drops, Cut.drops, Nat.zero_add]
  | refusedDropped _ hlater =>
    -- Nothing is left of the call but its count, which the whole is now ahead by.
    have hcounted : (g.ahead slots dropped).refuse = g.ahead slots (dropped + 1) := rfl
    obtain ⟨after, hrest, rfl⟩ := hnext hcounted hlater hheld (hroom.mono False.elim)
    refine ⟨after, hrest, ?_⟩
    rw [Cut.drops, Nat.add_assoc]
  | settledKept hpass | settledLifted hpass =>
    rw [hdenied] at hpass
    contradiction

theorem runsCut_admitted {admitted granted : Gate} (hpass : full.request size = .ok admitted)
    (hruns : during.Runs threshold full.mode.holdsLock admitted inner granted)
    (hduring : during.RunsCut threshold full.mode.holdsLock admitted inner granted)
    (hnext : next.RunsCut threshold false (granted.settled site size real) rest last) :
    (allocate site size real during next).RunsCut threshold false full
      (.call (.settled threshold site size real granted) inner rest) last := by
  rintro cut g slots dropped held rfl hharmless hheld hroom
  obtain rfl := eq_false_of_held hheld rfl
  cases hharmless with
  | refusedKept hdenied | refusedDropped hdenied =>
    rw [hpass] at hdenied
    contradiction
  | @settledKept _ _ _ _ _ inside later _ _ _ _ hpass' hinside hend hlater =>
    obtain rfl := Except.ok.inj (hpass.symm.trans hpass')
    obtain rfl := Option.some.inj (hruns.end?_eq.symm.trans hend)
    obtain ⟨passed, hrequest, rfl⟩ := Gate.request_eq_ok_of_ahead hroom.of_allocate hpass
    have hpromise := Gate.slots_of_request hrequest
    obtain ⟨granted, hinner, rfl⟩ :=
      hduring rfl hinside id ((hroom.of_capacity_eq hpromise.2).mono False.elim)
    have hslots := hinner.slots_eq
    rw [hpromise.1, hpromise.2] at hslots
    have hpromised : 0 < granted.ledger.table.reserved := by omega
    have hsettle := granted.slots_settled site size real
    have hafter : Room slots (granted.settled site size real) next :=
      (hroom.of_capacity_eq (hsettle.2.trans hslots.2)).mono False.elim
    obtain ⟨after, hrest, rfl⟩ :=
      hnext (Gate.settled_ahead site size real _ _ hpromised) hlater hheld hafter
    refine ⟨after, ?_, ?_⟩
    · show Runs _ _ _ _ (.call (Record.lessFailed _ (dropped + inside.drops)) _ _) _
      rw [Record.settled_ahead _ _ _ _ hpromised]
      exact .admitted hrequest hinner hrest
    · rw [Cut.drops, Nat.add_assoc]
  | @settledLifted _ _ _ _ _ inside later _ _ _ _ hpass' hfailed halone hinside hend hlater =>
    obtain rfl := Except.ok.inj (hpass.symm.trans hpass')
    obtain rfl := Option.some.inj (hruns.end?_eq.symm.trans hend)
    -- While the call is in flight the whole is one more slot ahead.
    obtain ⟨granted, hinner, rfl⟩ := hduring (Gate.ahead_of_request hpass) hinside
      (fun hlocked => absurd hlocked Bool.false_ne_true) (.inr halone)
    have hafter : Room slots granted next :=
      (hroom.of_capacity_eq hinner.slots_eq.2).mono False.elim
    obtain ⟨after, hrest, rfl⟩ :=
      hnext (granted.settled_of_not_granted size slots _ hfailed) hlater hheld hafter
    refine ⟨after, hinner.append hrest, ?_⟩
    rw [Cut.drops, Nat.add_assoc]

theorem runsCut_released {handle : Handle} {status : Status} {freed : Gate}
    (hfree : handle ≠ 0 → locked = false)
    (hruns : during.Runs threshold locked (full.released site handle) inner freed)
    (hduring : during.RunsCut threshold locked (full.released site handle) inner freed)
    (hnext : next.RunsCut threshold locked freed rest last) :
    (release site handle status during next).RunsCut threshold locked full
      (.call (.released threshold site handle status full freed) inner rest) last := by
  rintro cut g slots dropped held rfl hharmless hheld hroom
  have hbefore : Room slots g during := hroom.mono And.left
  have hlast : Room slots g next := hroom.mono And.right
  cases hharmless with
  | @releasedKept _ _ _ _ _ inside later _ _ _ hinside hend hlater =>
    obtain rfl := Option.some.inj (hruns.end?_eq.symm.trans hend)
    have hrelease := g.slots_released site handle
    obtain ⟨freed, hinner, rfl⟩ := hduring (g.released_ahead site handle slots dropped) hinside
      hheld (hbefore.of_capacity_eq hrelease.2)
    obtain ⟨after, hrest, rfl⟩ := hnext rfl hlater hheld
      (hlast.of_capacity_eq (hinner.slots_eq.2.trans hrelease.2))
    refine ⟨after, ?_, ?_⟩
    · show Runs _ _ _ _ (.call (Record.lessFailed _ (dropped + inside.drops)) _ _) _
      rw [Record.released_ahead]
      exact .released (fun hne => eq_false_of_held hheld (hfree hne)) hinner hrest
    · rw [Cut.drops, Nat.add_assoc]
  | @releasedLifted _ _ _ _ _ inside later _ _ _ habsent hinside hend hlater =>
    have hsame : (g.ahead slots dropped).released site handle = g.ahead slots dropped :=
      Gate.released_of_absent site habsent
    rw [hsame] at hruns hduring
    obtain rfl := Option.some.inj (hruns.end?_eq.symm.trans hend)
    obtain ⟨freed, hinner, rfl⟩ := hduring rfl hinside hheld hbefore
    obtain ⟨after, hrest, rfl⟩ :=
      hnext rfl hlater hheld (hlast.of_capacity_eq hinner.slots_eq.2)
    refine ⟨after, hinner.append hrest, ?_⟩
    rw [Cut.drops, Nat.add_assoc]

theorem runsCut_queried {status : Status} {queried : Gate}
    (hfree : site.vendor.isSuccess status = true → locked = false)
    (hruns : during.Runs threshold locked full inner queried)
    (hduring : during.RunsCut threshold locked full inner queried)
    (hnext : next.RunsCut threshold locked queried rest last) :
    (query site status during next).RunsCut threshold locked full
      (.call (.queried threshold site status queried) inner rest) last := by
  rintro cut g slots dropped held rfl hharmless hheld hroom
  have hbefore : Room slots g during := hroom.mono And.left
  have hlast : Room slots g next := hroom.mono And.right
  cases hharmless with
  | @queriedKept _ _ _ _ inside later _ _ _ hinside hend hlater =>
    obtain rfl := Option.some.inj (hruns.end?_eq.symm.trans hend)
    obtain ⟨queried, hinner, rfl⟩ := hduring rfl hinside hheld hbefore
    obtain ⟨after, hrest, rfl⟩ :=
      hnext rfl hlater hheld (hlast.of_capacity_eq hinner.slots_eq.2)
    refine ⟨after, ?_, ?_⟩
    · show Runs _ _ _ _ (.call (Record.lessFailed _ (dropped + inside.drops)) _ _) _
      rw [Record.queried_ahead]
      exact .queried hinner (fun hneeded => eq_false_of_held hheld (hfree hneeded)) hrest
    · rw [Cut.drops, Nat.add_assoc]
  | @queriedLifted _ _ _ _ inside later _ _ _ hinside hend hlater =>
    obtain rfl := Option.some.inj (hruns.end?_eq.symm.trans hend)
    obtain ⟨queried, hinner, rfl⟩ := hduring rfl hinside hheld hbefore
    obtain ⟨after, hrest, rfl⟩ :=
      hnext rfl hlater hheld (hlast.of_capacity_eq hinner.slots_eq.2)
    refine ⟨after, hinner.append hrest, ?_⟩
    rw [Cut.drops, Nat.add_assoc]

theorem runsCut_read {what : Reading} (hnext : next.RunsCut threshold false full rest last) :
    (read what next).RunsCut threshold false full (.read (full.view what) full.snapshot rest)
      last := by
  rintro cut g slots dropped held rfl hharmless hheld hroom
  obtain rfl := eq_false_of_held hheld rfl
  cases hharmless with
  | @readKept _ _ later _ _ hlater =>
    obtain ⟨after, hrest, rfl⟩ := hnext rfl hlater hheld (hroom.mono id)
    refine ⟨after, ?_, ?_⟩
    · show Runs _ _ _ _ (.read (View.lessFailed _ dropped) (Snapshot.lessFailed _ dropped) _) _
      rw [Gate.view_ahead, Gate.snapshot_ahead]
      exact .read hrest
    · rw [Cut.drops, Cut.drops, Nat.zero_add]

/-- **The run of what remains**, by induction on the run of the whole. -/
theorem Runs.cut (h : s.Runs threshold locked full transcript last) :
    s.RunsCut threshold locked full transcript last := by
  induction h with
  | done =>
    rintro cut g slots dropped held rfl hharmless - -
    cases hharmless
    exact ⟨g, .done, rfl⟩
  | refused hdenied _ hnext => exact runsCut_refused hdenied hnext
  | admitted hpass hruns _ hduring hnext => exact runsCut_admitted hpass hruns hduring hnext
  | released hfree hruns _ hduring hnext => exact runsCut_released hfree hruns hduring hnext
  | queried hruns hfree _ hduring hnext => exact runsCut_queried hfree hruns hduring hnext
  | read _ hnext => exact runsCut_read hnext

/-- **Calls without effect are invisible.** Memory queries, releases of null and of handles that are
not tracked, and allocations that the runtime does not grant may be left out of a run, and the calls
inside them take their place: every call that stays gets the same answer, reaches the runtime or does
not as before, logs the same and shows the same figures, and the gate at the end is the same. Each
denied allocation that is left out as well takes one denial off the count, and nothing else. -/
theorem run_cut (s : Script) (cut : Cut) (threshold : LogLevel) (g last : Gate)
    (transcript : Transcript) (hrun : s.run threshold false g = some (transcript, last))
    (hharmless : s.Harmless cut false g) :
    ∃ after, (s.cut cut).run threshold false g = some (transcript.cut cut 0, after) ∧
      last = { after with
        ledger := { after.ledger with failed := after.ledger.failed + cut.drops } } := by
  obtain ⟨after, hruns, hlast⟩ := (runs_of_run hrun).cut g.ahead_zero.symm hharmless id (.inl rfl)
  refine ⟨after, run_of_runs hruns, ?_⟩
  rw [hlast, Nat.zero_add]
  rfl

/-- An allocation that fails while another one frees memory and takes it again; then a release of what
is no longer tracked, a query with a release of null inside it, and an allocation that is denied. -/
def failedMeanwhile : Script :=
  .allocate ⟨.cuda, "cudaMalloc"⟩ 60 ⟨0, 16⟩ .done <|
  .allocate ⟨.hip, "hipMalloc"⟩ 30 ⟨2, 0⟩
    (.release ⟨.cuda, "cudaFree"⟩ 16 0 .done <|
     .allocate ⟨.acl, "aclrtMalloc"⟩ 70 ⟨0, 32⟩ .done <|
     .release ⟨.cuda, "cudaFree"⟩ 16 0 .done .done) <|
  .query ⟨.hip, "hipMemGetInfo"⟩ 0 (.release ⟨.hip, "hipFree"⟩ 0 0 .done .done) <|
  .allocate ⟨.cuda, "cudaMalloc"⟩ 50 ⟨0, 48⟩ .done <|
  .read .overview .done

/-- All calls of `failedMeanwhile` without effect, and the denied one. -/
def failedMeanwhileCut : Cut :=
  .keep .done <| .lift (.keep .done <| .keep .done <| .lift .done .done) <|
    .lift (.lift .done .done) <| .drop <| .keep .done .done

theorem run_cut_failedMeanwhile :
    ∃ transcript last after,
      failedMeanwhile.run .debug false (.new ⟨100, .debug, .optimistic, none⟩)
        = some (transcript, last) ∧
      failedMeanwhile.Harmless failedMeanwhileCut false (.new ⟨100, .debug, .optimistic, none⟩) ∧
      (failedMeanwhile.cut failedMeanwhileCut).run .debug false
        (.new ⟨100, .debug, .optimistic, none⟩)
          = some (transcript.cut failedMeanwhileCut 0, after) ∧
      last = { after with ledger := { after.ledger with failed := after.ledger.failed + 1 } } := by
  have hends : (failedMeanwhile.run .debug false (.new ⟨100, .debug, .optimistic, none⟩)).isSome
      = true := rfl
  have hharmless : failedMeanwhile.Harmless failedMeanwhileCut false
      (.new ⟨100, .debug, .optimistic, none⟩) := by
    refine .settledKept rfl .done rfl (.settledLifted rfl rfl (.inl rfl) ?_ rfl ?_)
    · exact .releasedKept .done rfl
        (.settledKept rfl .done rfl (.releasedLifted (.inr rfl) .done rfl .done))
    · exact .queriedLifted (.releasedLifted (.inl rfl) .done rfl .done) rfl
        (.refusedDropped rfl (.readKept .done))
  obtain ⟨⟨transcript, last⟩, hrun⟩ := Option.isSome_iff_exists.1 hends
  obtain ⟨after, hcut, hlast⟩ := run_cut _ _ _ _ _ _ hrun hharmless
  exact ⟨transcript, last, after, hrun, hharmless, hcut, hlast⟩

end Script

end DeviceQuota
