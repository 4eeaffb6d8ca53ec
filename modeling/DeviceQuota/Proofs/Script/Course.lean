import DeviceQuota.Proofs.Script.Run
import DeviceQuota.Proofs.Traffic.Move
import Mathlib.Logic.Relation

/-!
# The course of a script

A script passes through one ledger after the other: the ledger that a call finds, the one that its
request or the beginning of its release leaves behind, those of the calls inside it, and so on. Calls
within calls are a special case of calls that overlap, so each of these ledgers is also reached by a
history of phases, and what holds of the traffic between any two phases holds of them.

* **`Script.ledgers`** — the ledgers that a script passes through, also when a call waits for ever,
  and **`Script.ledgers_admitted`** and its companions, one for each way in which a call goes;
* **`Transcript.figures`** — the figures that are shown on the way. They are those of the ledgers, as
  `Script.Runs.figures_subset` says;
* **`Traffic.Reaches`** — phases lead from one traffic to another, and
  **`Script.passes_of_mem_ledgers`**, the special case.
-/

namespace DeviceQuota

/-! ### Ledgers and figures -/

namespace Script

/-- The ledgers that a script passes through from the one that it finds, up to its end or to a call
that waits for ever. -/
def ledgers : Script → Bool → Gate → List Ledger
  | .done, _, g => [g.ledger]
  | .allocate site size real during next, locked, g =>
    if locked then [g.ledger]
    else
      match g.request size with
      | .error _ => g.ledger :: next.ledgers locked g.refuse
      | .ok admitted =>
        g.ledger :: (during.ledgers g.mode.holdsLock admitted ++
          (during.end? g.mode.holdsLock admitted).elim [] fun granted =>
            next.ledgers locked (granted.settled site size real))
  | .release site handle _ during next, locked, g =>
    if locked && handle != 0 then [g.ledger]
    else
      g.ledger :: (during.ledgers locked (g.released site handle) ++
        (during.end? locked (g.released site handle)).elim [] fun freed =>
          next.ledgers locked freed)
  | .query site status during next, locked, g =>
    g.ledger :: (during.ledgers locked g ++
      (during.end? locked g).elim [] fun queried =>
        if locked && site.vendor.isSuccess status then [] else next.ledgers locked queried)
  | .read _ next, locked, g =>
    if locked then [g.ledger] else g.ledger :: next.ledgers locked g

theorem ledger_mem_ledgers (s : Script) (locked : Bool) (g : Gate) :
    g.ledger ∈ s.ledgers locked g := by
  cases s with
  | done => exact List.mem_singleton_self _
  | allocate =>
    simp only [ledgers]
    split
    · exact List.mem_singleton_self _
    · split <;> exact List.mem_cons_self
  | release | read =>
    simp only [ledgers]
    split <;> exact List.mem_cons_self
  | query => exact List.mem_cons_self

/-- What is in a list, or in the one that follows it if there is one. -/
theorem mem_append_elim {α β : Type} {xs : List β} {o : Option α} {f : α → List β} {y : β}
    (h : y ∈ xs ++ o.elim [] f) : y ∈ xs ∨ ∃ x, o = some x ∧ y ∈ f x := by
  rcases List.mem_append.1 h with hfirst | hsecond
  · exact .inl hfirst
  · cases o with
    | none => simp at hsecond
    | some x => exact .inr ⟨x, rfl, hsecond⟩

end Script

namespace Transcript

/-- The figures of all records of a transcript. -/
def figures : Transcript → List Snapshot
  | done => []
  | call record during next => during.figures ++ record.figures :: next.figures
  | read _ figures next => figures :: next.figures

theorem figures_call_subset {record : Record} {during next : Transcript} {first : Snapshot}
    {xs ys : List Snapshot} (hduring : during.figures ⊆ xs) (hrecord : record.figures ∈ ys)
    (hnext : next.figures ⊆ ys) : (call record during next).figures ⊆ first :: (xs ++ ys) := by
  refine List.subset_cons_of_subset _ (List.append_subset.2 ⟨?_, List.cons_subset.2 ⟨?_, ?_⟩⟩)
  · exact List.subset_append_of_subset_left _ hduring
  · exact List.mem_append_right _ hrecord
  · exact List.subset_append_of_subset_right _ hnext

end Transcript

namespace Script

variable {threshold : LogLevel} {s : Script} {locked : Bool} {g last : Gate}
  {transcript : Transcript}

theorem Runs.limit_eq (h : s.Runs threshold locked g transcript last) : last.limit = g.limit := by
  induction h with
  | done => rfl
  | refused _ _ hnext => exact hnext
  | admitted hpass _ _ hduring hnext =>
    obtain ⟨l, -, rfl⟩ := Gate.request_eq_ok_iff.1 hpass
    exact hnext.trans hduring
  | released _ _ _ hduring hnext => exact hnext.trans hduring
  | queried _ _ _ hduring hnext => exact hnext.trans hduring
  | read _ hnext => exact hnext

theorem Runs.mode_eq (h : s.Runs threshold locked g transcript last) : last.mode = g.mode := by
  induction h with
  | done => rfl
  | refused _ _ hnext => exact hnext
  | admitted hpass _ _ hduring hnext =>
    obtain ⟨l, -, rfl⟩ := Gate.request_eq_ok_iff.1 hpass
    exact hnext.trans hduring
  | released _ _ _ hduring hnext => exact hnext.trans hduring
  | queried _ _ _ hduring hnext => exact hnext.trans hduring
  | read _ hnext => exact hnext

/-! ### The ledgers of a call -/

section
variable {site : CallSite} {size : Bytes} {real : Outcome} {handle : Handle} {status : Status}
  {during next : Script} {mid : Gate} {inner : Transcript}

theorem ledgers_refused {why : Denial} (hdenied : g.request size = .error why) :
    (allocate site size real during next).ledgers false g
      = g.ledger :: next.ledgers false g.refuse := by
  simp [ledgers, hdenied]

theorem ledgers_admitted {admitted : Gate} (hpass : g.request size = .ok admitted)
    (hduring : during.Runs threshold g.mode.holdsLock admitted inner mid) :
    (allocate site size real during next).ledgers false g
      = g.ledger :: (during.ledgers g.mode.holdsLock admitted ++
        next.ledgers false (mid.settled site size real)) := by
  simp [ledgers, hpass, hduring.end?_eq]

theorem ledgers_released (hfree : handle ≠ 0 → locked = false)
    (hduring : during.Runs threshold locked (g.released site handle) inner mid) :
    (release site handle status during next).ledgers locked g
      = g.ledger :: (during.ledgers locked (g.released site handle) ++ next.ledgers locked mid) := by
  have hopen : (locked && handle != 0) = false :=
    and_eq_false_of_open fun hneeded => hfree (bne_iff_ne.1 hneeded)
  simp [ledgers, hopen, hduring.end?_eq]

theorem ledgers_queried (hduring : during.Runs threshold locked g inner mid)
    (hfree : site.vendor.isSuccess status = true → locked = false) :
    (query site status during next).ledgers locked g
      = g.ledger :: (during.ledgers locked g ++ next.ledgers locked mid) := by
  have hopen := and_eq_false_of_open hfree
  simp [ledgers, hopen, hduring.end?_eq]

theorem ledgers_read (what : Reading) :
    (read what next).ledgers false g = g.ledger :: next.ledgers false g := by
  simp [ledgers]

end

theorem snapshot_mem_ledgers (s : Script) (locked : Bool) (g : Gate) :
    g.snapshot ∈ (s.ledgers locked g).map fun l => l.snapshot g.limit :=
  List.mem_map_of_mem (s.ledger_mem_ledgers locked g)

/-- The figures of a call: those of the calls inside it, then its own, then those of the calls after
it, which begin on the gate `mid`. -/
theorem figures_call_subset_ledgers {next : Script} {g mid : Gate} {record : Record}
    {inner rest : Transcript} {first : Ledger} {before : List Ledger} (hlimit : mid.limit = g.limit)
    (hrecord : record.figures = mid.snapshot)
    (hduring : inner.figures ⊆ before.map fun l => l.snapshot g.limit)
    (hnext : rest.figures ⊆ (next.ledgers locked mid).map fun l => l.snapshot mid.limit) :
    (Transcript.call record inner rest).figures
      ⊆ (first :: (before ++ next.ledgers locked mid)).map fun l => l.snapshot g.limit := by
  rw [List.map_cons, List.map_append]
  have hown := next.snapshot_mem_ledgers locked mid
  rw [hlimit] at hnext hown
  rw [← hrecord] at hown
  exact Transcript.figures_call_subset hduring hown hnext

/-- **What is shown on the way** are the figures of the ledgers. -/
theorem Runs.figures_subset (h : s.Runs threshold locked g transcript last) :
    transcript.figures ⊆ (s.ledgers locked g).map fun l => l.snapshot g.limit := by
  induction h with
  | done => exact List.nil_subset _
  | @refused site size real during next g last why rest hdenied _ hnext =>
    rw [ledgers_refused hdenied, List.map_cons]
    refine List.subset_cons_of_subset _ (List.cons_subset.2 ⟨?_, hnext⟩)
    exact next.snapshot_mem_ledgers false g.refuse
  | @admitted site size real during next g admitted granted last inner rest hpass hruns _ hduring
      hnext =>
    rw [ledgers_admitted hpass hruns]
    obtain ⟨l, -, rfl⟩ := Gate.request_eq_ok_iff.1 hpass
    have hlimit : (granted.settled site size real).limit = g.limit := hruns.limit_eq
    exact figures_call_subset_ledgers hlimit rfl hduring hnext
  | released hfree hruns _ hduring hnext =>
    rw [ledgers_released hfree hruns]
    exact figures_call_subset_ledgers hruns.limit_eq rfl hduring hnext
  | queried hruns hfree _ hduring hnext =>
    rw [ledgers_queried hruns hfree]
    exact figures_call_subset_ledgers hruns.limit_eq rfl hduring hnext
  | read _ hnext =>
    rw [ledgers_read, List.map_cons]
    exact List.cons_subset.2 ⟨List.mem_cons_self, List.subset_cons_of_subset _ hnext⟩

end Script

namespace Traffic

/-- Phases lead from one traffic to another. -/
def Reaches : Traffic → Traffic → Prop :=
  Relation.ReflTransGen fun t u => ∃ phase events, t.step? phase = some (u, events)

variable {t u v : Traffic}

theorem Reaches.trans (h : t.Reaches u) (hafter : u.Reaches v) : t.Reaches v :=
  Relation.ReflTransGen.trans h hafter

theorem Reaches.head {phase : Phase} {events : List Event} (h : t.step? phase = some (u, events))
    (hafter : u.Reaches v) : t.Reaches v :=
  Relation.ReflTransGen.head ⟨phase, events, h⟩ hafter

/-- What every phase keeps holds of all that is reached. -/
theorem Reaches.invariant {I : Traffic → Prop}
    (hmove : ∀ t phase u events, Move t phase u events → I t → I u)
    (h : t.Reaches u) (hstart : I t) : I u := by
  induction h with
  | refl => exact hstart
  | tail _ hstep ih =>
    obtain ⟨phase, events, hstep⟩ := hstep
    exact hmove _ phase _ events (move_of_step? hstep) ih

theorem Reaches.mode_eq (h : t.Reaches u) : u.gate.mode = t.gate.mode :=
  h.invariant (I := fun v => v.gate.mode = t.gate.mode)
    (fun _ _ _ _ hmove hmode => (mode_of_move hmove).trans hmode) rfl

/-- Phases lead to a ledger. -/
def Passes (t : Traffic) (l : Ledger) : Prop := ∃ u, t.Reaches u ∧ u.gate.ledger = l

theorem passes_self (t : Traffic) : t.Passes t.gate.ledger := ⟨t, .refl, rfl⟩

theorem Passes.after {l : Ledger} (hafter : u.Passes l) (h : t.Reaches u) : t.Passes l := by
  obtain ⟨v, hreach, hledger⟩ := hafter
  exact ⟨v, h.trans hreach, hledger⟩

/-! ### The phases of a call -/

variable {g : Gate} {flights : List Flight}

/-- Whether anything is locked does not depend on the ledger. -/
theorem locked_of_mode_eq {f : Gate} (h : f.mode = g.mode) :
    locked ⟨f, flights⟩ = locked ⟨g, flights⟩ := by
  simp only [locked, h]

theorem reaches_refuse {size : Bytes} {why : Denial} (site : CallSite)
    (hfree : locked ⟨g, flights⟩ = false) (hdenied : g.request size = .error why) :
    Reaches ⟨g, flights⟩ ⟨g.refuse, flights⟩ := by
  have hstep : step? ⟨g, flights⟩ (.request site size)
      = some (⟨g.refuse, flights⟩, [.ofDenial site.function why]) := by
    simp [step?, hfree, hdenied]
  exact .head hstep .refl

theorem reaches_admitted {size : Bytes} {admitted : Gate} (site : CallSite)
    (hfree : locked ⟨g, flights⟩ = false) (hpass : g.request size = .ok admitted) :
    Reaches ⟨g, flights⟩ ⟨admitted, flights ++ [⟨site, size⟩]⟩ := by
  have hstep : step? ⟨g, flights⟩ (.request site size)
      = some (⟨admitted, flights ++ [⟨site, size⟩]⟩, []) := by
    simp [step?, hfree, hpass]
  exact .head hstep .refl

/-- While an allocation is in flight the ledger is locked as the mode says. -/
theorem locked_admitted {size : Bytes} {admitted : Gate} (site : CallSite)
    (hpass : g.request size = .ok admitted) :
    locked ⟨admitted, flights ++ [⟨site, size⟩]⟩ = g.mode.holdsLock := by
  obtain ⟨l, -, rfl⟩ := Gate.request_eq_ok_iff.1 hpass
  simp [locked]

theorem reaches_settled (site : CallSite) (size : Bytes) (real : Outcome) :
    Reaches ⟨g, flights ++ [⟨site, size⟩]⟩ ⟨g.settled site size real, flights⟩ := by
  have hplace : (flights ++ [(⟨site, size⟩ : Flight)])[flights.length]? = some ⟨site, size⟩ := by
    simp
  have hrest : (flights ++ [(⟨site, size⟩ : Flight)]).eraseIdx flights.length = flights := by
    rw [List.eraseIdx_append_of_length_le (Nat.le_refl _)]
    simp
  have hstep : step? ⟨g, flights ++ [⟨site, size⟩]⟩ (.settle flights.length real)
      = some (⟨g.settled site size real, flights⟩, (g.ledger.settle site size real).2) := by
    simp only [step?, hplace, hrest]
    rfl
  exact .head hstep .refl

theorem reaches_released (site : CallSite) {handle : Handle}
    (hfree : handle ≠ 0 → locked ⟨g, flights⟩ = false) :
    Reaches ⟨g, flights⟩ ⟨g.released site handle, flights⟩ := by
  by_cases hnull : handle = 0
  · rw [Gate.released_of_absent site (.inl hnull)]
    exact .refl
  · have hstep : step? ⟨g, flights⟩ (.release site handle)
        = some (⟨g.released site handle, flights⟩, (g.ledger.release site handle).2) := by
      simp only [step?, hfree hnull, Bool.false_eq_true, if_false]
      rfl
    exact .head hstep .refl

end Traffic

namespace Script

open Traffic

variable {threshold : LogLevel} {s : Script} {locked : Bool} {g last : Gate}
  {transcript : Transcript}

/-- **A run is a history of phases.** The allocations that were in flight before are in flight
afterwards. -/
theorem Runs.reaches (h : s.Runs threshold locked g transcript last) :
    ∀ flights, locked = Traffic.locked ⟨g, flights⟩ → Reaches ⟨g, flights⟩ ⟨last, flights⟩ := by
  induction h with
  | done =>
    intro flights _
    exact .refl
  | @refused site size real during next g last why rest hdenied _ hnext =>
    intro flights hlocked
    exact (reaches_refuse site hlocked.symm hdenied).trans (hnext flights hlocked)
  | @admitted site size real during next g admitted granted last inner rest hpass _ _ hduring hnext =>
    intro flights hlocked
    have hbefore := reaches_admitted site hlocked.symm hpass
    have hinside := hduring (flights ++ [⟨site, size⟩]) (locked_admitted site hpass).symm
    have hsettled := hbefore.trans (hinside.trans (reaches_settled site size real))
    refine hsettled.trans (hnext flights ?_)
    rw [hlocked]
    exact (locked_of_mode_eq hsettled.mode_eq).symm
  | @released site handle status during next locked g freed last inner rest hfree _ _ hduring hnext =>
    intro flights hlocked
    have hbefore : Reaches ⟨g, flights⟩ ⟨g.released site handle, flights⟩ :=
      reaches_released site fun hne => hlocked.symm.trans (hfree hne)
    have hinside := hbefore.trans (hduring flights hlocked)
    refine hinside.trans (hnext flights ?_)
    rw [hlocked]
    exact (locked_of_mode_eq hinside.mode_eq).symm
  | queried _ hfree _ hduring hnext =>
    intro flights hlocked
    have hinside := hduring flights hlocked
    refine hinside.trans (hnext flights ?_)
    rw [hlocked]
    exact (locked_of_mode_eq hinside.mode_eq).symm
  | read _ hnext => exact hnext

theorem reaches_of_end? {flights : List Flight}
    (h : s.end? (Traffic.locked ⟨g, flights⟩) g = some last) :
    Reaches ⟨g, flights⟩ ⟨last, flights⟩ := by
  obtain ⟨seen, hruns⟩ := runs_of_end? h
  exact hruns.reaches flights rfl

/-- With the same allocations in flight the ledger is as locked as it was before. -/
theorem passes_of_later {next : Script} {mid : Gate} {flights : List Flight} {l : Ledger}
    (hreach : Reaches ⟨g, flights⟩ ⟨mid, flights⟩)
    (hnext : ∀ m ∈ next.ledgers (Traffic.locked ⟨mid, flights⟩) mid, Passes ⟨mid, flights⟩ m)
    (hmem : l ∈ next.ledgers (Traffic.locked ⟨g, flights⟩) mid) : Passes ⟨g, flights⟩ l := by
  rw [← locked_of_mode_eq hreach.mode_eq] at hmem
  exact (hnext l hmem).after hreach

/-- **Every ledger of a script is reached by a history of phases.** -/
theorem passes_of_mem_ledgers (s : Script) :
    ∀ (g : Gate) (flights : List Flight),
      ∀ l ∈ s.ledgers (Traffic.locked ⟨g, flights⟩) g, Passes ⟨g, flights⟩ l := by
  induction s with
  | done =>
    intro g flights l hmem
    obtain rfl := List.mem_singleton.1 hmem
    exact passes_self _
  | allocate site size real during next ihduring ihnext =>
    intro g flights l hmem
    simp only [ledgers] at hmem
    split at hmem
    · obtain rfl := List.mem_singleton.1 hmem
      exact passes_self _
    · next hopen =>
      rw [Bool.not_eq_true] at hopen
      split at hmem
      · next why hdenied =>
        rcases List.mem_cons.1 hmem with rfl | hlater
        · exact passes_self _
        · exact (ihnext g.refuse flights l hlater).after (reaches_refuse site hopen hdenied)
      · next admitted hpass =>
        have hbefore := reaches_admitted site hopen hpass
        have hlocked : Traffic.locked ⟨admitted, flights ++ [⟨site, size⟩]⟩ = g.mode.holdsLock :=
          locked_admitted site hpass
        rw [← hlocked] at hmem
        rcases List.mem_cons.1 hmem with rfl | hlater
        · exact passes_self _
        · rcases mem_append_elim hlater with hinside | ⟨granted, hend, hafter⟩
          · exact (ihduring admitted _ l hinside).after hbefore
          · have hinside := hbefore.trans (reaches_of_end? hend)
            exact passes_of_later (hinside.trans (reaches_settled site size real))
              (ihnext _ flights) hafter
  | release site handle status during next ihduring ihnext =>
    intro g flights l hmem
    simp only [ledgers] at hmem
    split at hmem
    · obtain rfl := List.mem_singleton.1 hmem
      exact passes_self _
    · next hopen =>
      have hbefore : Reaches ⟨g, flights⟩ ⟨g.released site handle, flights⟩ := by
        refine reaches_released site fun hne => ?_
        simpa [hne] using hopen
      rw [← locked_of_mode_eq hbefore.mode_eq] at hmem
      rcases List.mem_cons.1 hmem with rfl | hlater
      · exact passes_self _
      · rcases mem_append_elim hlater with hinside | ⟨freed, hend, hafter⟩
        · exact (ihduring _ flights l hinside).after hbefore
        · exact (passes_of_later (reaches_of_end? hend) (ihnext freed flights) hafter).after hbefore
  | query site status during next ihduring ihnext =>
    intro g flights l hmem
    simp only [ledgers] at hmem
    rcases List.mem_cons.1 hmem with rfl | hlater
    · exact passes_self _
    · rcases mem_append_elim hlater with hinside | ⟨queried, hend, hafter⟩
      · exact ihduring g flights l hinside
      · split at hafter
        · simp at hafter
        · exact passes_of_later (reaches_of_end? hend) (ihnext queried flights) hafter
  | read what next ihnext =>
    intro g flights l hmem
    simp only [ledgers] at hmem
    split at hmem
    · obtain rfl := List.mem_singleton.1 hmem
      exact passes_self _
    · rcases List.mem_cons.1 hmem with rfl | hlater
      · exact passes_self _
      · exact ihnext g flights l hlater

end Script

end DeviceQuota
