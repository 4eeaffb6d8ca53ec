import DeviceQuota.Proofs.Script.Course
import Mathlib.Data.List.Chain

/-!
# The peak

A ledger keeps the most bytes that were ever charged in one word. Only a charge looks at this word,
and it does so after an entry that its handle still has was taken off. The peak is nevertheless that
of the whole past: only a charge can raise the bytes in use, so no state is missed, and it raises
the peak to what is in use afterwards, so none is invented.

* **`Ledger.Grows`** — neither the peak nor a count goes down;
* **`Ledger.Succeeds`** — one ledger comes right after another; **`Ledger.succeeds_charge`** and its
  companions, one for each phase;
* **`Ledger.PeaksAlong`** — along ledgers passed through in turn, each peak is the greatest charge
  up to there, and **`Ledger.peaksAlong_of_isChain`**, from one step to all;
* **`Ledger.peaks_along`** — overlapping and nested calls.
-/

namespace DeviceQuota

namespace Ledger

/-- Neither the peak nor a count is lower in the second ledger. -/
structure Grows (l m : Ledger) : Prop where
  peak_le : l.peak.toNat ≤ m.peak.toNat
  allocs_le : l.allocs ≤ m.allocs
  frees_le : l.frees ≤ m.frees
  failed_le : l.failed ≤ m.failed

theorem Grows.refl (l : Ledger) : l.Grows l :=
  ⟨Nat.le_refl _, Nat.le_refl _, Nat.le_refl _, Nat.le_refl _⟩

theorem Grows.trans {l m n : Ledger} (h : l.Grows m) (hafter : m.Grows n) : l.Grows n :=
  ⟨h.peak_le.trans hafter.peak_le, h.allocs_le.trans hafter.allocs_le,
    h.frees_le.trans hafter.frees_le, h.failed_le.trans hafter.failed_le⟩

instance : Trans Grows Grows Grows := ⟨Grows.trans⟩

/-- The second ledger comes right after the first: its peak is the greater of the first one's peak
and what it has in use itself. -/
structure Succeeds (l m : Ledger) : Prop extends Grows l m where
  peak_eq : l.used.toNat ≤ l.peak.toNat → m.peak.toNat = max l.peak.toNat m.used.toNat

/-! ### Phases -/

/-- What raises neither the peak nor the bytes in use. -/
theorem succeeds_of_used_le {l m : Ledger} (hgrows : l.Grows m) (hpeak : m.peak = l.peak)
    (hused : m.used.toNat ≤ l.used.toNat) : l.Succeeds m := by
  refine ⟨hgrows, fun hbelow => ?_⟩
  rw [hpeak]
  omega

theorem succeeds_self (l : Ledger) : l.Succeeds l :=
  succeeds_of_used_le (.refl l) rfl (Nat.le_refl _)

theorem succeeds_of_request {l m : Ledger} {limit size : Bytes}
    (h : l.request limit size = .ok m) : l.Succeeds m := by
  obtain ⟨-, table, -, rfl⟩ := request_eq_ok_iff.1 h
  exact succeeds_of_used_le ⟨Nat.le_refl _, Nat.le_refl _, Nat.le_refl _, Nat.le_refl _⟩ rfl
    (Nat.le_refl _)

theorem succeeds_refuse (l : Ledger) : l.Succeeds l.refuse :=
  succeeds_of_used_le ⟨Nat.le_refl _, Nat.le_refl _, Nat.le_refl _, Nat.le_succ _⟩ rfl
    (Nat.le_refl _)

theorem succeeds_cancel (l : Ledger) : l.Succeeds l.cancel :=
  succeeds_of_used_le ⟨Nat.le_refl _, Nat.le_refl _, Nat.le_refl _, Nat.le_refl _⟩ rfl
    (Nat.le_refl _)

/-- A charge raises the peak to what is in use afterwards. -/
theorem succeeds_charge (l : Ledger) (handle : Handle) (size : Bytes) :
    l.Succeeds (l.charge handle size) := by
  have hpeak := l.toNat_peak_charge handle size
  refine ⟨⟨?_, Nat.le_succ _, Nat.le_refl _, Nat.le_refl _⟩, fun _ => hpeak⟩
  omega

theorem succeeds_discharge (l : Ledger) (handle : Handle) (size : Bytes) :
    l.Succeeds (l.discharge handle size) := by
  have hused := l.toNat_used_discharge handle size
  refine succeeds_of_used_le ⟨Nat.le_refl _, Nat.le_refl _, Nat.le_succ _, Nat.le_refl _⟩ rfl ?_
  omega

theorem succeeds_settle (l : Ledger) (site : CallSite) (size : Bytes) (real : Outcome) :
    l.Succeeds (l.settle site size real).1 := by
  cases hgranted : real.granted site.vendor with
  | true =>
    rw [fst_settle_of_granted l size hgranted]
    exact l.succeeds_charge real.handle size
  | false =>
    rw [settle_of_not_granted l size hgranted]
    exact l.succeeds_cancel

theorem succeeds_release (l : Ledger) (site : CallSite) (handle : Handle) :
    l.Succeeds (l.release site handle).1 := by
  by_cases hnull : handle = 0
  · rw [hnull, release_null]
    exact l.succeeds_self
  · cases hfound : l.tracked? handle with
    | some size =>
      rw [fst_release_of_tracked site hnull hfound]
      exact l.succeeds_discharge handle size
    | none =>
      rw [fst_release_of_untracked site hfound]
      exact l.succeeds_self

/-! ### The greatest charge -/

/-- The most bytes that one of some ledgers has in use; none for no ledger. -/
def mostUsed : List Ledger → Nat
  | [] => 0
  | l :: ls => max l.used.toNat (mostUsed ls)

/-- Along ledgers that were passed through one after the other, the peak is the running maximum of
the charge. -/
structure PeaksAlong (ls : List Ledger) : Prop where
  /-- A peak is the greatest charge up to its own ledger. -/
  peak_eq : ∀ n l, ls[n]? = some l → l.peak.toNat = mostUsed (ls.take (n + 1))
  used_le : ∀ l ∈ ls, l.used.toNat ≤ l.peak.toNat
  /-- Each ledger against every later one. -/
  grows : ls.Pairwise Grows

/-- Along a chain, a peak takes in the peak of the beginning and all charges since then. -/
theorem peak_eq_max_of_isChain {l : Ledger} {ls : List Ledger}
    (hchain : (l :: ls).IsChain Succeeds) (hbelow : l.used.toNat ≤ l.peak.toNat) :
    ∀ n m, (l :: ls)[n]? = some m →
      m.used.toNat ≤ m.peak.toNat ∧
        m.peak.toNat = max l.peak.toNat (mostUsed ((l :: ls).take (n + 1))) := by
  induction ls generalizing l with
  | nil =>
    intro n m hplace
    obtain ⟨rfl, rfl⟩ : n = 0 ∧ l = m := by
      cases n with
      | zero => exact ⟨rfl, Option.some.inj hplace⟩
      | succ n => simp at hplace
    simp only [List.take, mostUsed]
    omega
  | cons next ls ih =>
    intro n m hplace
    obtain ⟨hnext, htail⟩ := List.isChain_cons_cons.1 hchain
    have hpeak := hnext.peak_eq hbelow
    cases n with
    | zero =>
      obtain rfl := Option.some.inj hplace
      simp only [List.take, mostUsed]
      omega
    | succ n =>
      obtain ⟨hused, hlater⟩ := ih htail (by omega) n m hplace
      simp only [List.take_succ_cons, mostUsed] at hlater ⊢
      omega

theorem peaksAlong_of_isChain {l : Ledger} {ls : List Ledger}
    (hchain : (l :: ls).IsChain Succeeds) (hstart : l.peak = l.used) : PeaksAlong (l :: ls) := by
  have hbelow : l.used.toNat ≤ l.peak.toNat := by rw [hstart]
  have hpeak := peak_eq_max_of_isChain hchain hbelow
  refine ⟨?_, ?_, ?_⟩
  · intro n m hplace
    have hmax := (hpeak n m hplace).2
    rw [List.take_succ_cons, mostUsed] at hmax ⊢
    rw [hstart] at hmax
    omega
  · intro m hmem
    obtain ⟨n, hplace⟩ := List.mem_iff_getElem?.1 hmem
    exact (hpeak n m hplace).1
  · exact (hchain.imp fun _ _ h => h.toGrows).pairwise

end Ledger

/-! ### Overlapping calls -/

/-- What holds of every step holds between each state of a history and the next. -/
theorem History.isChain_visited {State Action Output : Type}
    {step? : State → Action → Option (State × List Output)} {R : State → State → Prop}
    (hstep : ∀ s action after outputs, step? s action = some (after, outputs) → R s after)
    (actions : List Action) (s : State) : (visited step? actions s).IsChain R := by
  induction actions generalizing s with
  | nil => exact .singleton s
  | cons action actions ih =>
    simp only [visited]
    cases hhead : step? s action with
    | none => exact .singleton s
    | some moved =>
      refine (ih moved.1).cons fun after hafter => ?_
      rw [head?_visited] at hafter
      obtain rfl := Option.some.inj hafter
      exact hstep s action _ moved.2 hhead

namespace Traffic

theorem succeeds_of_step? {t u : Traffic} {phase : Phase} {events : List Event}
    (h : t.step? phase = some (u, events)) : t.gate.ledger.Succeeds u.gate.ledger := by
  cases move_of_step? h with
  | admitted _ hpass =>
    obtain ⟨l, hrequest, rfl⟩ := Gate.request_eq_ok_iff.1 hpass
    exact Ledger.succeeds_of_request hrequest
  | refused => exact t.gate.ledger.succeeds_refuse
  | charged => exact t.gate.ledger.succeeds_charge _ _
  | cancelled => exact t.gate.ledger.succeeds_cancel
  | discharged => exact t.gate.ledger.succeeds_discharge _ _
  | untouched => exact t.gate.ledger.succeeds_self

/-- **Every history passes through a chain of ledgers.** -/
theorem isChain_ledgers (phases : List Phase) (t : Traffic) :
    ((History.visited step? phases t).map fun u => u.gate.ledger).IsChain Ledger.Succeeds := by
  rw [List.isChain_map]
  refine History.isChain_visited ?_ phases t
  intro u phase v events hstep
  exact succeeds_of_step? hstep

end Traffic

/-! ### Nested calls -/

namespace Script

variable {threshold : LogLevel} {s : Script} {locked : Bool} {g last : Gate}
  {transcript : Transcript}

theorem head?_ledgers (s : Script) (locked : Bool) (g : Gate) :
    (s.ledgers locked g).head? = some g.ledger := by
  cases s with
  | done => rfl
  | allocate =>
    simp only [ledgers]
    split
    · rfl
    · split <;> rfl
  | release | read =>
    simp only [ledgers]
    split <;> rfl
  | query => rfl

/-- A script ends on the last ledger that it passes through. -/
theorem Runs.getLast?_ledgers (h : s.Runs threshold locked g transcript last) :
    (s.ledgers locked g).getLast? = some last.ledger := by
  induction h with
  | done => rfl
  | refused hdenied _ hnext => simp [ledgers_refused hdenied, List.getLast?_cons, hnext]
  | admitted hpass hruns _ _ hnext =>
    simp [ledgers_admitted hpass hruns, List.getLast?_cons, hnext]
  | released hfree hruns _ _ hnext =>
    simp [ledgers_released hfree hruns, List.getLast?_cons, hnext]
  | queried hruns hfree _ _ hnext =>
    simp [ledgers_queried hruns hfree, List.getLast?_cons, hnext]
  | read _ hnext => simp [ledgers_read, List.getLast?_cons, hnext]

theorem isChain_cons_ledgers {first : Ledger} {s : Script} {locked : Bool} {g : Gate}
    (hfirst : first.Succeeds g.ledger) (hchain : (s.ledgers locked g).IsChain Ledger.Succeeds) :
    (first :: s.ledgers locked g).IsChain Ledger.Succeeds := by
  refine hchain.cons fun l hhead => ?_
  rw [head?_ledgers] at hhead
  obtain rfl := Option.some.inj hhead
  exact hfirst

/-- The ledgers of a call: the one that it finds, those of the calls inside it and, if these come to
an end, those that follow. -/
theorem isChain_call {first : Ledger} {during : Script} {mid : Gate} {rest : Gate → List Ledger}
    (hfirst : first.Succeeds mid.ledger)
    (hduring : (during.ledgers locked mid).IsChain Ledger.Succeeds)
    (hrest : ∀ ended, (ended.ledger :: rest ended).IsChain Ledger.Succeeds) :
    (first :: (during.ledgers locked mid ++ (during.end? locked mid).elim [] rest)).IsChain
      Ledger.Succeeds := by
  rw [← List.cons_append]
  have hinside := isChain_cons_ledgers hfirst hduring
  cases hend : during.end? locked mid with
  | none => simpa using hinside
  | some ended =>
    obtain ⟨seen, hruns⟩ := runs_of_end? hend
    obtain ⟨hlink, hafter⟩ := List.isChain_cons.1 (hrest ended)
    refine hinside.append hafter fun l hlast m hhead => ?_
    rw [List.getLast?_cons, hruns.getLast?_ledgers] at hlast
    obtain rfl := Option.some.inj hlast
    exact hlink m hhead

/-- **Every script passes through a chain of ledgers**, also one in which a call waits for ever. -/
theorem isChain_ledgers (s : Script) :
    ∀ (locked : Bool) (g : Gate), (s.ledgers locked g).IsChain Ledger.Succeeds := by
  induction s with
  | done => exact fun _ g => .singleton g.ledger
  | allocate site size real during next ihduring ihnext =>
    intro locked g
    simp only [ledgers]
    split
    · exact .singleton g.ledger
    · split
      · exact isChain_cons_ledgers g.ledger.succeeds_refuse (ihnext locked g.refuse)
      · next admitted hpass =>
        obtain ⟨l, hrequest, rfl⟩ := Gate.request_eq_ok_iff.1 hpass
        refine isChain_call (Ledger.succeeds_of_request hrequest) (ihduring _ _) fun granted => ?_
        exact isChain_cons_ledgers (granted.ledger.succeeds_settle site size real) (ihnext _ _)
  | release site handle status during next ihduring ihnext =>
    intro locked g
    simp only [ledgers]
    split
    · exact .singleton g.ledger
    · refine isChain_call (g.ledger.succeeds_release site handle) (ihduring _ _) fun freed => ?_
      exact isChain_cons_ledgers freed.ledger.succeeds_self (ihnext _ _)
  | query site status during next ihduring ihnext =>
    intro locked g
    simp only [ledgers]
    refine isChain_call g.ledger.succeeds_self (ihduring _ _) fun queried => ?_
    split
    · exact .singleton queried.ledger
    · exact isChain_cons_ledgers queried.ledger.succeeds_self (ihnext _ _)
  | read what next ihnext =>
    intro locked g
    simp only [ledgers]
    split
    · exact .singleton g.ledger
    · exact isChain_cons_ledgers g.ledger.succeeds_self (ihnext _ _)

end Script

/-! ### Every run -/

namespace Ledger

theorem peaksAlong_of_head? {ls : List Ledger} {l : Ledger} (hhead : ls.head? = some l)
    (hchain : ls.IsChain Succeeds) (hstart : l.peak = l.used) : PeaksAlong ls := by
  obtain ⟨rest, rfl⟩ := List.head?_eq_some_iff.1 hhead
  exact peaksAlong_of_isChain hchain hstart

/-- **The peak is the running maximum.** Calls may overlap in any way, or arrive within other calls:
from a fresh gate on, after each phase the peak is the most that was in use so far. So it is never
below what is in use, and neither the peak nor a count ever goes down. -/
theorem peaks_along (settings : Settings) :
    (∀ phases, PeaksAlong
      ((History.visited Traffic.step? phases (.new settings)).map fun t => t.gate.ledger)) ∧
    ∀ script : Script, PeaksAlong (script.ledgers false (.new settings)) := by
  refine ⟨fun phases => ?_, fun script => ?_⟩
  · have hhead : ((History.visited Traffic.step? phases (Traffic.new settings)).map
        fun t => t.gate.ledger).head? = some (new settings.capacity) := by
      rw [List.head?_map, History.head?_visited]
      rfl
    exact peaksAlong_of_head? hhead (Traffic.isChain_ledgers phases (.new settings)) rfl
  · exact peaksAlong_of_head? (script.head?_ledgers false (.new settings))
      (script.isChain_ledgers false (.new settings)) rfl

end Ledger

end DeviceQuota
