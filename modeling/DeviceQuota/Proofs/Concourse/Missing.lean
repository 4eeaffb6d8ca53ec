import DeviceQuota.Concourse
import DeviceQuota.Proofs.Binding.Lifecycle
import DeviceQuota.Runtimes

/-!
# Missing runtimes

Runtimes are loaded late, or not at all. A hook whose function is not found is given up before the
gate is asked, and all that it leaves behind is the mark of a failed search on one binding. No other
call looks at this mark: what a call does depends on whether its function is known, not on how often
it was looked for in vain.

* **`Hooks.misses`** — the function of a call is not known and not found;
* **`Hooks.marked`** — the mark that this leaves on its binding;
* **`Hooks.Alike`**, **`Concourse.Alike`** — all that calls take notice of is the same;
  **`Hooks.Alike.called`** and **`Concourse.Alike.arrive`**, calls whose function is there;
* **`Concourse.missing_leaves_no_trace`** — every run, with and without the calls whose function was
  missing.
-/

namespace DeviceQuota

/-! ### Searches -/

namespace Binding

/-- What others take notice of: the symbol, and the address if it is known. -/
def known (b : Binding) : String × Option Address := (b.symbol, b.get)

/-- The binding after a search in vain. -/
def marked (b : Binding) : Binding :=
  { b with
    attempts := b.attempts + 1
    state := b.state.afterFailure }

theorem found_resolve (b : Binding) (resolver : Resolver) :
    (b.resolve resolver).found = b.get.or (resolver b.symbol) := by
  rw [← get_resolve]
  exact (served b ⟨.resolve, resolver⟩).get_eq

theorem known_resolve (b : Binding) (resolver : Resolver) :
    (b.resolve resolver).binding.known = (b.symbol, b.get.or (resolver b.symbol)) := by
  rw [known, symbol_resolve, get_resolve, found_resolve]

/-- A search that finds something is not logged. -/
theorem events_resolve_of_found {b : Binding} {resolver : Resolver} {address : Address}
    (hfound : (b.resolve resolver).found = some address) : (b.resolve resolver).events = [] := by
  have hevents : (b.resolve resolver).events
      = if missed (⟨.resolve, resolver⟩, b.resolve resolver) then [b.failure] else [] :=
    (served b ⟨.resolve, resolver⟩).events_eq
  simpa [missed, hfound] using hevents

theorem resolve_of_missing {b : Binding} {resolver : Resolver} (hunknown : b.get = none)
    (hmissing : resolver b.symbol = none) :
    b.resolve resolver = ⟨none, true, [b.failure], b.marked⟩ := by
  simp [resolve, hunknown, hmissing, lookUp, marked]

end Binding

namespace Hooks

variable {h k : Hooks} {resolver : Resolver} {vendor : Vendor} {call : HookCall}

/-- The function of a call is not known, and not found now; or there is no such function. -/
def misses (h : Hooks) (resolver : Resolver) (vendor : Vendor) (call : HookCall) : Bool :=
  match (h.family vendor).get? call.role with
  | none => true
  | some binding => binding.get.isNone && (resolver binding.symbol).isNone

/-- The hooks after a search in vain: nothing but one binding's number of look-ups and its state has
changed. Where there is no binding, nothing is searched. -/
def marked (h : Hooks) (vendor : Vendor) (role : Role) : Hooks :=
  match (h.family vendor).get? role with
  | none => h
  | some binding => h.withFamily ((h.family vendor).set binding.marked role) vendor

/-- What a search in vain logs. -/
def failures (h : Hooks) (vendor : Vendor) (role : Role) : List Event :=
  ((h.family vendor).get? role).toList.map Binding.failure

@[simp] theorem gate_marked (h : Hooks) (vendor : Vendor) (role : Role) :
    (h.marked vendor role).gate = h.gate := by
  unfold marked
  split
  · rfl
  · exact gate_withFamily ..

theorem resolve_of_misses (hmissing : h.misses resolver vendor call = true) {binding : Binding}
    (hrole : (h.family vendor).get? call.role = some binding) :
    binding.resolve resolver = ⟨none, true, [binding.failure], binding.marked⟩ := by
  unfold misses at hmissing
  rw [hrole] at hmissing
  obtain ⟨hunknown, hnothing⟩ : binding.get = none ∧ resolver binding.symbol = none := by
    simpa using hmissing
  exact Binding.resolve_of_missing hunknown hnothing

/-- **A call whose function is missing is given up**, and leaves a mark on its binding. -/
theorem call_of_misses (hmissing : h.misses resolver vendor call = true) :
    h.call resolver vendor call
      = (h.marked vendor call.role).giveUp vendor call (h.failures vendor call.role) := by
  unfold Hooks.call marked failures
  cases hrole : (h.family vendor).get? call.role with
  | none => rfl
  | some binding =>
    simp only [resolve_of_misses hmissing hrole]
    rfl

/-- A call whose function is not missing finds it. -/
theorem exists_found (hthere : h.misses resolver vendor call = false) :
    ∃ binding address, (h.family vendor).get? call.role = some binding ∧
      (binding.resolve resolver).found = some address := by
  unfold misses at hthere
  cases hrole : (h.family vendor).get? call.role with
  | none =>
    rw [hrole] at hthere
    contradiction
  | some binding =>
    rw [hrole] at hthere
    cases hfound : (binding.resolve resolver).found with
    | some address => exact ⟨binding, address, rfl, hfound⟩
    | none =>
      rw [Binding.found_resolve, Option.or_eq_none_iff] at hfound
      simp [hfound] at hthere

/-! ### What calls take notice of -/

/-- The symbol of a binding, and its address if it is known. -/
def known (h : Hooks) (vendor : Vendor) (role : Role) : Option (String × Option Address) :=
  ((h.family vendor).get? role).map Binding.known

/-- The same gate, and the same functions known; other searches may have been made in vain. -/
structure Alike (h k : Hooks) : Prop where
  gate_eq : h.gate = k.gate
  known_eq : ∀ vendor role, h.known vendor role = k.known vendor role

theorem Alike.refl (h : Hooks) : h.Alike h := ⟨rfl, fun _ _ => rfl⟩

theorem Alike.trans {l : Hooks} (halike : h.Alike k) (hnext : k.Alike l) : h.Alike l :=
  ⟨halike.gate_eq.trans hnext.gate_eq, fun vendor role =>
    (halike.known_eq vendor role).trans (hnext.known_eq vendor role)⟩

theorem Alike.withGate (halike : h.Alike k) (g : Gate) : (h.withGate g).Alike (k.withGate g) := by
  refine ⟨rfl, fun vendor role => ?_⟩
  rw [known, known, family_withGate, family_withGate]
  exact halike.known_eq vendor role

theorem known_withFamily_set (h : Hooks) (b : Binding) (vendor v : Vendor) (role r : Role) :
    (h.withFamily ((h.family vendor).set b role) vendor).known v r
      = if v = vendor ∧ r = role then some b.known else h.known v r := by
  by_cases hvendor : v = vendor
  · subst hvendor
    rw [known, family_withFamily_self]
    by_cases hrole : r = role
    · subst hrole
      simp
    · rw [Family.get?_set_of_ne _ b hrole]
      simp [hrole, known]
  · have hfamily : (h.withFamily ((h.family vendor).set b role) vendor).family v = h.family v := by
      cases vendor <;> cases v <;> first | rfl | exact absurd rfl hvendor
    rw [known, hfamily]
    simp [hvendor, known]

/-- A mark on a binding is not noticed. -/
theorem alike_marked (h : Hooks) (vendor : Vendor) (role : Role) :
    (h.marked vendor role).Alike h := by
  refine ⟨h.gate_marked vendor role, fun v r => ?_⟩
  unfold marked
  split
  · rfl
  · next binding hrole =>
    rw [known_withFamily_set]
    split
    · next hsame =>
      obtain ⟨rfl, rfl⟩ := hsame
      rw [known, hrole]
      rfl
    · rfl

theorem misses_eq (h : Hooks) (resolver : Resolver) (vendor : Vendor) (call : HookCall) :
    h.misses resolver vendor call = (h.known vendor call.role).all fun known =>
      known.2.isNone && (resolver known.1).isNone := by
  unfold misses known
  cases (h.family vendor).get? call.role <;> rfl

theorem Alike.misses_eq (halike : h.Alike k) (resolver : Resolver) (vendor : Vendor)
    (call : HookCall) : h.misses resolver vendor call = k.misses resolver vendor call := by
  rw [Hooks.misses_eq, Hooks.misses_eq, halike.known_eq]

/-- What one of them finds is found by the other. -/
theorem Alike.exists_found (halike : h.Alike k)
    (hthere : h.misses resolver vendor call = false) :
    ∃ binding other address, (h.family vendor).get? call.role = some binding ∧
      (k.family vendor).get? call.role = some other ∧ other.known = binding.known ∧
      (binding.resolve resolver).found = some address ∧
      (other.resolve resolver).found = some address := by
  obtain ⟨binding, address, hrole, hfound⟩ := Hooks.exists_found hthere
  have hknown := halike.known_eq vendor call.role
  rw [known, known, hrole, Option.map_some] at hknown
  obtain ⟨other, hother, hsame⟩ := Option.map_eq_some_iff.1 hknown.symm
  obtain ⟨hsymbol, hget⟩ := Prod.mk.inj hsame
  refine ⟨binding, other, address, hrole, hother, hsame, hfound, ?_⟩
  rw [Binding.found_resolve, hsymbol, hget, ← Binding.found_resolve, hfound]

/-- The same search, made by both, keeps them alike. -/
theorem Alike.searched (halike : h.Alike k) (resolver : Resolver) (vendor : Vendor) (role : Role)
    {binding other : Binding} (hsame : other.known = binding.known) :
    (h.withFamily ((h.family vendor).set (binding.resolve resolver).binding role) vendor).Alike
      (k.withFamily ((k.family vendor).set (other.resolve resolver).binding role) vendor) := by
  obtain ⟨hsymbol, hget⟩ := Prod.mk.inj hsame
  refine ⟨?_, fun v r => ?_⟩
  · rw [gate_withFamily, gate_withFamily, halike.gate_eq]
  · rw [known_withFamily_set, known_withFamily_set, Binding.known_resolve, Binding.known_resolve,
      hsymbol, hget, halike.known_eq]

/-! ### Whole calls -/

/-- A call whose function was found depends on the gate alone. -/
theorem Alike.serve (halike : h.Alike k) (v : Visit) :
    (h.serve v).signs = (k.serve v).signs ∧ (h.serve v).hooks.Alike (k.serve v).hooks := by
  obtain ⟨site, address, passage, inside⟩ := v
  cases passage with
  | allocate size extra out real =>
    simp only [Hooks.serve, passAllocation, halike.gate_eq]
    exact ⟨rfl, halike.withGate _⟩
  | free handle status =>
    simp only [Hooks.serve, passFree, halike.gate_eq]
    exact ⟨rfl, halike.withGate _⟩
  | query extra free total real =>
    simp only [Hooks.serve, passQuery, halike.gate_eq]
    split
    · exact ⟨rfl, halike.withGate _⟩
    · exact ⟨rfl, halike.withGate _⟩

theorem call_eq_of_found {binding : Binding} {address : Address}
    (hrole : (h.family vendor).get? call.role = some binding)
    (hfound : (binding.resolve resolver).found = some address) :
    h.call resolver vendor call
      = (h.withFamily ((h.family vendor).set (binding.resolve resolver).binding call.role)
          vendor).serve ⟨call.site vendor, address, call.passage vendor, false⟩ := by
  rw [← pass_eq_serve]
  unfold Hooks.call
  rw [hrole]
  simp only [hfound, Binding.events_resolve_of_found hfound, List.nil_append]

/-- A call whose function is there answers both alike. -/
theorem Alike.called (halike : h.Alike k) (hthere : h.misses resolver vendor call = false) :
    (h.call resolver vendor call).signs = (k.call resolver vendor call).signs ∧
      (h.call resolver vendor call).hooks.Alike (k.call resolver vendor call).hooks := by
  obtain ⟨binding, other, address, hrole, hother, hsame, hfound, hagain⟩ :=
    halike.exists_found hthere
  rw [call_eq_of_found hrole hfound, call_eq_of_found hother hagain]
  exact (halike.searched resolver vendor call.role hsame).serve _

/-- One call after the other. -/
def step? (h : Hooks) (action : Runtimes.Action) : Option (Hooks × List Sign) :=
  let result := h.call action.resolver action.vendor action.call
  some (result.hooks, result.signs)

/-- A call that does not find its function. -/
def missing (h : Hooks) (action : Runtimes.Action) : Bool :=
  h.misses action.resolver action.vendor action.call

theorem runsWithout_missing (actions : List Runtimes.Action) (h : Hooks) :
    History.RunsWithout step? missing Alike actions h := by
  refine History.runsWithout_of_unnoticed ?_ ?_ Alike.refl actions h
  · intro h k action after signs hstep hmissing halike
    obtain ⟨rfl, -⟩ := Prod.mk.inj (Option.some.inj hstep)
    rw [call_of_misses hmissing]
    exact (h.alike_marked action.vendor action.call.role).trans halike
  · intro h k action after signs hstep hthere halike
    obtain ⟨rfl, rfl⟩ := Prod.mk.inj (Option.some.inj hstep)
    obtain ⟨hsigns, hafter⟩ := halike.called hthere
    refine ⟨(halike.misses_eq _ _ _).symm.trans hthere, _, ?_, hafter⟩
    rw [hsigns]
    rfl

end Hooks

/-! ### Stages -/

namespace Concourse

variable {c d : Concourse} {resolver : Resolver} {vendor : Vendor} {call : HookCall}

/-- All that calls take notice of is the same. -/
structure Alike (c d : Concourse) : Prop where
  hooks : c.hooks.Alike d.hooks
  visits_eq : c.visits = d.visits

/-- A stage in which a call does not find its function. -/
def missing (c : Concourse) : Stage → Bool
  | .arrive resolver vendor call => c.hooks.misses resolver vendor call
  | .proceed _ => false

theorem arrive_of_misses (hmissing : c.hooks.misses resolver vendor call = true) :
    c.arrive resolver vendor call
      = (⟨c.hooks.marked vendor call.role, c.visits⟩,
        (c.hooks.call resolver vendor call).signs) := by
  rw [Hooks.call_of_misses hmissing]
  unfold arrive Hooks.marked Hooks.failures
  cases hrole : (c.hooks.family vendor).get? call.role with
  | none => rfl
  | some binding =>
    simp only [Hooks.resolve_of_misses hmissing hrole]
    rfl

theorem arrive_of_found {binding : Binding} {address : Address}
    (hrole : (c.hooks.family vendor).get? call.role = some binding)
    (hfound : (binding.resolve resolver).found = some address) :
    c.arrive resolver vendor call
      = (⟨c.hooks.withFamily
          ((c.hooks.family vendor).set (binding.resolve resolver).binding call.role) vendor,
        c.visits ++ [⟨call.site vendor, address, call.passage vendor, false⟩]⟩, []) := by
  unfold arrive
  rw [hrole]
  simp only [hfound, Binding.events_resolve_of_found hfound, List.map_nil]

theorem Alike.arrive (halike : c.Alike d) (hthere : c.hooks.misses resolver vendor call = false) :
    (c.arrive resolver vendor call).2 = (d.arrive resolver vendor call).2 ∧
      (c.arrive resolver vendor call).1.Alike (d.arrive resolver vendor call).1 := by
  obtain ⟨binding, other, address, hrole, hother, hsame, hfound, hagain⟩ :=
    halike.hooks.exists_found hthere
  rw [arrive_of_found hrole hfound, arrive_of_found hother hagain]
  refine ⟨rfl, halike.hooks.searched resolver vendor call.role hsame, ?_⟩
  rw [halike.visits_eq]

theorem Alike.proceed (halike : c.Alike d) {place : Nat} {after : Concourse} {signs : List Sign}
    (h : c.step? (.proceed place) = some (after, signs)) :
    ∃ other, d.step? (.proceed place) = some (other, signs) ∧ after.Alike other := by
  obtain ⟨hhooks, hvisits⟩ := halike
  have hlocked : c.locked = d.locked := by rw [locked, locked, hvisits, hhooks.gate_eq]
  simp only [step?] at h ⊢
  rw [hvisits, hlocked, hhooks.gate_eq] at h
  split at h
  · contradiction
  · next visit hplace =>
    obtain ⟨turn, hturn, hend⟩ := Option.map_eq_some_iff.1 h
    obtain ⟨rfl, rfl⟩ := Prod.mk.inj hend
    refine ⟨d.follow place turn, by rw [hturn]; rfl, hhooks.withGate turn.gate, ?_⟩
    rw [follow, follow, hvisits]

/-- **Calls without a function are not noticed**, whatever calls they come between. -/
theorem runsWithout_missing (stages : List Stage) (c : Concourse) :
    History.RunsWithout step? missing Alike stages c := by
  refine History.runsWithout_of_unnoticed ?_ ?_ (fun c => ⟨.refl c.hooks, rfl⟩) stages c
  · intro c d stage after signs hstep hmissing halike
    cases stage with
    | arrive resolver vendor call =>
      obtain ⟨rfl, -⟩ := Prod.mk.inj
        ((arrive_of_misses hmissing).symm.trans (Option.some.inj hstep))
      exact ⟨(c.hooks.alike_marked vendor call.role).trans halike.hooks, halike.visits_eq⟩
    | proceed place => contradiction
  · intro c d stage after signs hstep hthere halike
    cases stage with
    | arrive resolver vendor call =>
      obtain ⟨hsigns, hafter⟩ := halike.arrive hthere
      have hend : c.arrive resolver vendor call = (after, signs) := Option.some.inj hstep
      rw [hend] at hsigns hafter
      refine ⟨(halike.hooks.misses_eq resolver vendor call).symm.trans hthere,
        (d.arrive resolver vendor call).1, ?_, hafter⟩
      rw [show signs = (d.arrive resolver vendor call).2 from hsigns]
      rfl
    | proceed place => exact ⟨rfl, halike.proceed hstep⟩

/-- **A missing runtime leaves no trace.** Hooks of all vendors are called over one gate, and what
can be looked up changes as it likes.

A call whose function is not known and not found answers with the vendor's code for an invalid
argument. It calls no function of a runtime, and leaves the gate, the caller's variables and the
calls under way as they are; what changes is one binding's number of look-ups and its state. Managed
memory from bindings that have none is not even looked up.

Without all such calls, each of the others puts out what it did, and the end has the same gate, the
same calls under way and the same functions known: this holds of calls one after the other, and of
calls that overlap in any way. -/
theorem missing_leaves_no_trace (c : Concourse) :
    (∀ (resolver : Resolver) (vendor : Vendor) (call : HookCall),
      c.hooks.misses resolver vendor call = true →
        c.hooks.call resolver vendor call =
          { status := (call.site vendor).vendor.codes.invalidValue
            targets := call.targets
            realCalls := []
            events := c.hooks.failures vendor call.role
            hooks := c.hooks.marked vendor call.role } ∧
        c.step? (.arrive resolver vendor call)
          = some (⟨c.hooks.marked vendor call.role, c.visits⟩,
            (c.hooks.call resolver vendor call).signs) ∧
        (c.hooks.marked vendor call.role).gate = c.hooks.gate) ∧
    (c.hooks.cuda.managed = none →
      ∀ (resolver : Resolver) (size : Bytes) (flags : UInt32) (out : Cell) (real : Granting),
        c.hooks.misses resolver .cuda (.allocateManaged size flags out real) = true ∧
        c.hooks.call resolver .cuda (.allocateManaged size flags out real) =
          { status := Vendor.cuda.codes.invalidValue
            targets := .handle out
            realCalls := []
            events := []
            hooks := c.hooks }) ∧
    (∀ actions : List Runtimes.Action,
      (History.run? Hooks.step? actions c.hooks).isSome = true ∧
        History.RunsWithout Hooks.step? Hooks.missing Hooks.Alike actions c.hooks) ∧
    ∀ stages : List Stage, History.RunsWithout step? missing Alike stages c := by
  refine ⟨?_, ?_, ?_, fun stages => runsWithout_missing stages c⟩
  · intro resolver vendor call hmissing
    refine ⟨Hooks.call_of_misses hmissing, ?_, c.hooks.gate_marked vendor call.role⟩
    rw [← arrive_of_misses hmissing]
    rfl
  · intro hnone resolver size flags out real
    have hrole : (c.hooks.family .cuda).get?
        (HookCall.allocateManaged size flags out real).role = none := hnone
    refine ⟨by simp [Hooks.misses, hrole], ?_⟩
    unfold Hooks.call
    rw [hrole]
    rfl
  · intro actions
    exact ⟨History.isSome_run? (fun _ _ => rfl) actions c.hooks,
      Hooks.runsWithout_missing actions c.hooks⟩

/-- An allocation is called again when its runtime was loaded. While it is under way, the functions
of two other allocations are missing, and afterwards that of its release. -/
def lateStages : List Stage :=
  let out : Cell := ⟨7, false⟩
  let allocation : HookCall := .allocate 10 0 out ⟨0, some 16⟩
  [.arrive (fun _ => none) .cuda allocation,
    .arrive (fun _ => some 4096) .cuda allocation,
    .arrive (fun _ => none) .hip (.allocate 5 0 out ⟨0, some 32⟩),
    .proceed 0,
    .arrive (fun _ => none) .cuda (.allocateManaged 5 1 out ⟨0, some 48⟩),
    .proceed 0,
    .arrive (fun _ => none) .cuda (.free 16 0)]

/-- Only the allocation is left, and its bytes stay charged. -/
theorem missing_leaves_no_trace_lateStages :
    ∃ last signs alone,
      run? lateStages (new ⟨100, .warn, .strict, none⟩ false) = some (last, signs) ∧
      run? [.arrive (fun _ => some 4096) .cuda (.allocate 10 0 ⟨7, false⟩ ⟨0, some 16⟩),
          .proceed 0, .proceed 0] (new ⟨100, .warn, .strict, none⟩ false)
        = some (alone, [.logged (.charged "cudaMalloc" 10 16 10),
          .answered 0 (.handle ⟨16, false⟩) [⟨4096, "cudaMalloc", some 10, 0⟩]]) ∧
      last.hooks.gate = alone.hooks.gate ∧ last.hooks.gate.ledger.used = 10 ∧
      last.hooks.cuda.free.attempts = 1 ∧ alone.hooks.cuda.free.attempts = 0 := by
  have hends : (run? lateStages (new ⟨100, .warn, .strict, none⟩ false)).isSome = true := by decide
  obtain ⟨⟨last, signs⟩, hrun⟩ := Option.isSome_iff_exists.1 hends
  obtain ⟨-, -, -, hwithout⟩ := missing_leaves_no_trace (new ⟨100, .warn, .strict, none⟩ false)
  obtain ⟨-, alone, halone, halike⟩ := hwithout lateStages last signs hrun
  refine ⟨last, signs, alone, hrun, halone, halike.hooks.gate_eq, ?_⟩
  obtain ⟨rfl, rfl⟩ := Prod.mk.inj (Option.some.inj hrun)
  obtain ⟨rfl, -⟩ := Prod.mk.inj (Option.some.inj halone)
  exact ⟨rfl, rfl, rfl⟩

end Concourse

end DeviceQuota
