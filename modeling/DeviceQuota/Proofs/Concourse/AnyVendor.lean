import DeviceQuota.Proofs.Concourse.Missing
import DeviceQuota.Proofs.History.Lockstep
import DeviceQuota.Proofs.Hook.Call

/-!
# The protocol does not depend on the vendor

Hooks of all vendors go through one gate. Which vendor's hook is called decides the name that is
logged, the code that a denied allocation is answered with, and the flags, the policy or the attribute
that the runtime's function is given besides. Nothing else depends on it: a success is recognized by
the same code everywhere, and CUDA's managed memory is charged as all other memory is.

* **`HookCall.plain`**, **`Passage.plain`**, **`Visit.plain`** — a call without what depends on the
  vendor;
* **`Runtimes.Action.Relabelled`**, **`Concourse.Stage.Relabelled`** — the same call of another
  vendor's hook;
* **`Sign.Twin`** — what may differ in the answers;
* **`Visit.proceed_twin`**, **`Hooks.serve_twin`** — one stage at the gate, and a whole call;
* **`Concourse.vendors_interchangeable`** — two runs side by side.
-/

namespace DeviceQuota

/-! ### Calls without their vendor -/

/-- A call at the gate without the flags, the policy or the attribute, which only some vendors'
functions take. -/
def Passage.plain : Passage → Passage
  | allocate size _ out real => allocate size 0 out real
  | free handle status => free handle status
  | query _ left all real => query 0 left all real

/-- What a call asks for, whoever's hook is called: sizes, pointers, and what the runtime does. -/
def HookCall.plain : HookCall → Passage
  | allocate size _ out real | allocateManaged size _ out real => .allocate size 0 out real
  | free handle status => .free handle status
  | memInfo _ left all real => .query 0 left all real

/-- What the gate sees of a call under way: what it asks for, and whether its function is at work. -/
def Visit.plain (v : Visit) : Passage × Bool := (v.passage.plain, v.inside)

/-- Two calls at the gate that ask for the same. -/
inductive Passage.Twin : Passage → Passage → Prop
  | allocate (size : Bytes) (extra other : Int) (out : Cell) (real : Granting) :
    Twin (.allocate size extra out real) (.allocate size other out real)
  | free (handle : Handle) (status : Status) : Twin (.free handle status) (.free handle status)
  | query (extra other : Int) (free total : Cell) (real : Measuring) :
    Twin (.query extra free total real) (.query other free total real)

theorem Passage.twin_of_plain_eq {p q : Passage} (h : p.plain = q.plain) : p.Twin q := by
  cases p <;> cases q <;> cases h <;> constructor

@[simp] theorem HookCall.plain_passage (call : HookCall) (vendor : Vendor) :
    (call.passage vendor).plain = call.plain := by
  cases call <;> rfl

namespace Runtimes.Action

/-- Every function can be found, and the vendor has such a hook: only CUDA has one for managed
memory. -/
structure Served (a : Action) : Prop where
  resolvable : ∀ symbol, (a.resolver symbol).isSome = true
  offered : a.call.role = .allocateManaged → a.vendor = .cuda

/-- The same call of another vendor's hook. -/
structure Relabelled (a b : Action) : Prop where
  plain_eq : a.call.plain = b.call.plain
  served_left : a.Served
  served_right : b.Served

end Runtimes.Action

/-- The same stage of a run in which calls have other vendors. -/
inductive Concourse.Stage.Relabelled : Stage → Stage → Prop
  | arrive {a b : Runtimes.Action} (h : a.Relabelled b) :
    Relabelled (.arrive a.resolver a.vendor a.call) (.arrive b.resolver b.vendor b.call)
  | proceed (place : Nat) : Relabelled (.proceed place) (.proceed place)

/-! ### What is put out -/

/-- An event without the name of the function that was called. -/
def Event.anonymous : Event → Event
  | overQuota _ requested used limit => overQuota "" requested used limit
  | noSlot _ full => noSlot "" full
  | uncharged _ status requested => uncharged "" status requested
  | stale _ handle size => stale "" handle size
  | charged _ size handle used => charged "" size handle used
  | released _ size handle used => released "" size handle used
  | untracked _ handle => untracked "" handle
  | queried _ free total => queried "" free total
  | e => e

/-- Signs of a call of `v` and of the same call of `w`. The log differs in the function's name. Both
get the same answer, and the same size or handle reaches one function of each runtime; or an
allocation is denied without reaching any, and each gets its own vendor's code. -/
inductive Sign.Twin (v w : Vendor) : Sign → Sign → Prop
  | logged {e f : Event} (h : e.anonymous = f.anonymous) : Twin v w (.logged e) (.logged f)
  | answered (status : Status) (targets : Targets) {call other : RealCall}
    (h : call.argument = other.argument) :
    Twin v w (.answered status targets [call]) (.answered status targets [other])
  | denied (out : Cell) :
    Twin v w (.answered v.codes.outOfMemory (.handle out) [])
      (.answered w.codes.outOfMemory (.handle out) [])

variable {v w : Vendor} {site other : CallSite}

theorem Sign.twin_logged {es fs : List Event}
    (h : es.map Event.anonymous = fs.map Event.anonymous) :
    List.Forall₂ (Sign.Twin v w) (es.map .logged) (fs.map .logged) := by
  rw [List.forall₂_map_left_iff, List.forall₂_map_right_iff]
  rw [← List.forall₂_eq_eq_eq, List.forall₂_map_left_iff, List.forall₂_map_right_iff] at h
  exact h.imp fun _ _ => .logged

theorem Sign.twin_answer {es fs : List Event} {x y : Sign}
    (h : es.map Event.anonymous = fs.map Event.anonymous) (hanswer : Sign.Twin v w x y) :
    List.Forall₂ (Sign.Twin v w) (es.map .logged ++ [x]) (fs.map .logged ++ [y]) :=
  List.rel_append (twin_logged h) (.cons hanswer .nil)

@[simp] theorem Event.anonymous_ofDenial (function : String) (why : Denial) :
    (Event.ofDenial function why).anonymous = .ofDenial "" why := by
  cases why <;> rfl

/-! ### Success and charges -/

theorem Vendor.success_eq (v w : Vendor) : v.codes.success = w.codes.success := by
  cases v <;> cases w <;> rfl

theorem Outcome.granted_eq (real : Outcome) (v w : Vendor) : real.granted v = real.granted w := by
  rw [granted, granted, v.isSuccess_eq w]

theorem Granting.outcome_eq (real : Granting) (site other : CallSite) (out : Cell) :
    real.outcome site out = real.outcome other out := by
  rw [outcome, outcome, site.vendor.isSuccess_eq other.vendor]

namespace Ledger

variable (l : Ledger) (site other : CallSite)

theorem fst_settle_eq (size : Bytes) (real : Outcome) :
    (l.settle site size real).1 = (l.settle other size real).1 := by
  unfold settle
  rw [real.granted_eq site.vendor other.vendor]
  split <;> rfl

theorem anonymous_settle (size : Bytes) (real : Outcome) :
    (l.settle site size real).2.map Event.anonymous
      = (l.settle other size real).2.map Event.anonymous := by
  unfold settle
  rw [real.granted_eq site.vendor other.vendor]
  split
  · cases l.tracked? real.handle <;> rfl
  · rfl

theorem fst_release_eq (handle : Handle) :
    (l.release site handle).1 = (l.release other handle).1 := by
  unfold release
  split
  · rfl
  · cases l.tracked? handle <;> rfl

theorem anonymous_release (handle : Handle) :
    (l.release site handle).2.map Event.anonymous
      = (l.release other handle).2.map Event.anonymous := by
  unfold release
  split
  · rfl
  · cases l.tracked? handle <;> rfl

end Ledger

/-! ### One stage at the gate -/

/-- What stages of two calls that ask for the same lead to: the same gate, calls that ask for the
same, and signs that differ in what depends on the vendor. -/
structure Turn.Twin (v w : Vendor) (x y : Turn) : Prop where
  gate_eq : x.gate = y.gate
  visit_eq : x.visit.map Visit.plain = y.visit.map Visit.plain
  signs : List.Forall₂ (Sign.Twin v w) x.signs y.signs

namespace Visit

variable {v w : Visit} (g : Gate) (locked : Bool)

theorem enter_twin (htwin : v.passage.Twin w.passage) :
    Option.Rel (Turn.Twin v.site.vendor w.site.vendor) (v.enter g locked) (w.enter g locked) := by
  obtain ⟨site, address, passage, inside⟩ := v
  obtain ⟨other, address', passage', inside'⟩ := w
  cases htwin with
  | allocate size =>
    simp only [enter]
    split
    · exact .none
    · cases g.request size with
      | error why => exact .some ⟨rfl, rfl, .cons (.logged (by simp)) (.cons (.denied _) .nil)⟩
      | ok admitted => exact .some ⟨rfl, rfl, .nil⟩
  | free handle =>
    simp only [enter]
    split
    · exact .none
    · rw [g.ledger.fst_release_eq site other]
      exact .some ⟨rfl, rfl, Sign.twin_logged (g.ledger.anonymous_release site other handle)⟩
  | query => exact .some ⟨rfl, rfl, .nil⟩

theorem leave_twin (htwin : v.passage.Twin w.passage) :
    Option.Rel (Turn.Twin v.site.vendor w.site.vendor) (v.leave g locked) (w.leave g locked) := by
  obtain ⟨site, address, passage, inside⟩ := v
  obtain ⟨other, address', passage', inside'⟩ := w
  cases htwin with
  | allocate size _ _ out real =>
    simp only [leave]
    rw [site.vendor.isSuccess_eq other.vendor, g.ledger.fst_settle_eq site other]
    exact .some ⟨rfl, rfl,
      Sign.twin_answer (g.ledger.anonymous_settle site other size _) (.answered _ _ rfl)⟩
  | free handle status => exact .some ⟨rfl, rfl, .cons (.answered _ _ rfl) .nil⟩
  | query _ _ left all real =>
    simp only [leave, Gate.answerQuery]
    rw [site.vendor.isSuccess_eq other.vendor]
    split
    · exact .none
    · split
      · rw [site.vendor.success_eq other.vendor]
        exact .some ⟨rfl, rfl, Sign.twin_answer rfl (.answered _ _ rfl)⟩
      · exact .some ⟨rfl, rfl, Sign.twin_answer rfl (.answered _ _ rfl)⟩

/-- **The gate does not see the vendor.** Two calls that ask for the same are let through or kept out
alike, and change the gate alike. -/
theorem proceed_twin (hplain : v.plain = w.plain) :
    Option.Rel (Turn.Twin v.site.vendor w.site.vendor) (v.proceed g locked)
      (w.proceed g locked) := by
  obtain ⟨hpassage, hinside⟩ := Prod.mk.inj hplain
  have htwin := Passage.twin_of_plain_eq hpassage
  unfold proceed
  rw [hinside]
  split
  · exact leave_twin g locked htwin
  · exact enter_twin g locked htwin

end Visit

/-! ### Runs of whole calls -/

namespace Hooks

variable {h k : Hooks}

/-- The same gate, and CUDA's managed memory is hooked in both. -/
structure Twin (h k : Hooks) : Prop where
  gate_eq : h.gate = k.gate
  managed_left : h.cuda.managed.isSome = true
  managed_right : k.cuda.managed.isSome = true

theorem serve_twin (hgate : h.gate = k.gate) {v w : Visit} (htwin : v.passage.Twin w.passage) :
    (h.serve v).hooks.gate = (k.serve w).hooks.gate ∧
      List.Forall₂ (Sign.Twin v.site.vendor w.site.vendor) (h.serve v).signs (k.serve w).signs := by
  obtain ⟨site, address, passage, inside⟩ := v
  obtain ⟨other, address', passage', inside'⟩ := w
  cases htwin with
  | allocate size _ _ out real =>
    simp only [serve]
    cases hrequest : k.gate.request size with
    | error why =>
      rw [passAllocation_of_denied other _ _ out real hrequest,
        passAllocation_of_denied site _ _ out real (hgate ▸ hrequest)]
      exact ⟨congrArg Gate.refuse hgate, .cons (.logged (by simp)) (.cons (.denied _) .nil)⟩
    | ok admitted =>
      rw [passAllocation_of_admitted other _ _ out real hrequest,
        passAllocation_of_admitted site _ _ out real (hgate ▸ hrequest),
        real.outcome_eq site other]
      refine ⟨?_, Sign.twin_answer (admitted.ledger.anonymous_settle site other size _)
        (.answered _ _ rfl)⟩
      simp only [gate_withGate, Gate.settled, admitted.ledger.fst_settle_eq site other]
  | free handle status =>
    refine ⟨?_, ?_⟩
    · simp only [serve, gate_passFree, Gate.released, hgate, k.gate.ledger.fst_release_eq site other]
    · simp only [serve, passFree, Gate.release, HookResult.signs, hgate]
      exact Sign.twin_answer (k.gate.ledger.anonymous_release site other handle) (.answered _ _ rfl)
  | query _ _ left all real =>
    simp only [serve]
    cases hsuccess : other.vendor.isSuccess real.status with
    | true =>
      rw [passQuery_of_success other _ _ left all hsuccess,
        passQuery_of_success site _ _ left all ((site.vendor.isSuccess_eq _ _).trans hsuccess),
        hgate, site.vendor.success_eq other.vendor]
      exact ⟨rfl, Sign.twin_answer rfl (.answered _ _ rfl)⟩
    | false =>
      rw [passQuery_of_failure other _ _ left all hsuccess,
        passQuery_of_failure site _ _ left all ((site.vendor.isSuccess_eq _ _).trans hsuccess), hgate]
      exact ⟨rfl, Sign.twin_answer rfl (.answered _ _ rfl)⟩

/-- A call whose function can be found finds it. -/
theorem misses_of_served (hmanaged : h.cuda.managed.isSome = true) {a : Runtimes.Action}
    (hserved : a.Served) : h.misses a.resolver a.vendor a.call = false := by
  have hbinding : ∃ binding, (h.family a.vendor).get? a.call.role = some binding := by
    cases hrole : a.call.role with
    | allocate | free | memInfo => exact ⟨_, rfl⟩
    | allocateManaged =>
      rw [hserved.offered hrole]
      exact Option.isSome_iff_exists.1 hmanaged
  obtain ⟨binding, hrole⟩ := hbinding
  obtain ⟨address, hfound⟩ := Option.isSome_iff_exists.1 (hserved.resolvable binding.symbol)
  simp [misses, hrole, hfound]

/-- A search leaves CUDA's managed memory hooked. -/
theorem managed_searched (hmanaged : h.cuda.managed.isSome = true) (vendor : Vendor) (b : Binding)
    (role : Role) :
    (h.withFamily ((h.family vendor).set b role) vendor).cuda.managed.isSome = true := by
  cases vendor with
  | cuda =>
    cases role with
    | allocate | free | memInfo => exact hmanaged
    | allocateManaged => rfl
  | acl | hip => exact hmanaged

theorem Twin.searched (htwin : h.Twin k) (a b : Runtimes.Action) (found other : Binding) :
    (h.withFamily ((h.family a.vendor).set found a.call.role) a.vendor).Twin
      (k.withFamily ((k.family b.vendor).set other b.call.role) b.vendor) where
  gate_eq := by rw [gate_withFamily, gate_withFamily, htwin.gate_eq]
  managed_left := managed_searched htwin.managed_left _ _ _
  managed_right := managed_searched htwin.managed_right _ _ _

theorem cuda_serve (h : Hooks) (v : Visit) : (h.serve v).hooks.cuda = h.cuda := by
  obtain ⟨site, address, passage, inside⟩ := v
  cases passage with
  | allocate | free => rfl
  | query =>
    simp only [serve, passQuery]
    split <;> rfl

/-- The same call of two vendors' hooks. -/
theorem Twin.call (htwin : h.Twin k) {a b : Runtimes.Action} (hsame : a.Relabelled b) :
    (h.call a.resolver a.vendor a.call).hooks.Twin (k.call b.resolver b.vendor b.call).hooks ∧
      List.Forall₂ (Sign.Twin (a.call.owner a.vendor) (b.call.owner b.vendor))
        (h.call a.resolver a.vendor a.call).signs (k.call b.resolver b.vendor b.call).signs := by
  obtain ⟨found, address, hrole, hfound⟩ :=
    exists_found (misses_of_served htwin.managed_left hsame.served_left)
  obtain ⟨other, address', hrole', hfound'⟩ :=
    exists_found (misses_of_served htwin.managed_right hsame.served_right)
  rw [call_eq_of_found hrole hfound, call_eq_of_found hrole' hfound']
  have hsearched := htwin.searched a b (found.resolve a.resolver).binding
    (other.resolve b.resolver).binding
  have hpassage : (a.call.passage a.vendor).Twin (b.call.passage b.vendor) :=
    Passage.twin_of_plain_eq (by simpa using hsame.plain_eq)
  obtain ⟨hgate, hsigns⟩ := serve_twin hsearched.gate_eq
    (v := ⟨a.call.site a.vendor, address, a.call.passage a.vendor, false⟩)
    (w := ⟨b.call.site b.vendor, address', b.call.passage b.vendor, false⟩) hpassage
  refine ⟨⟨hgate, ?_, ?_⟩, hsigns⟩
  · rw [cuda_serve]
    exact hsearched.managed_left
  · rw [cuda_serve]
    exact hsearched.managed_right

/-- A whole call of one run and the same call of the other: the same quota and ledger afterwards, and
signs that differ in what depends on the two vendors. -/
structure Mirrored (x y : History.Step Hooks Runtimes.Action Sign) : Prop where
  gate_eq : x.after.gate = y.after.gate
  signs : List.Forall₂
    (Sign.Twin (x.action.call.owner x.action.vendor) (y.action.call.owner y.action.vendor))
    x.outputs y.outputs

end Hooks

/-! ### Runs of stages -/

namespace Concourse

variable {c d : Concourse}

/-- The same gate, and calls under way that ask for the same and have come equally far. -/
structure Twin (c d : Concourse) : Prop where
  hooks : c.hooks.Twin d.hooks
  visits_eq : c.visits.map Visit.plain = d.visits.map Visit.plain

/-- The vendor whose hook a stage belongs to. -/
def owner? (c : Concourse) : Stage → Option Vendor
  | .arrive _ vendor call => some (call.owner vendor)
  | .proceed place => c.visits[place]?.map fun visit => visit.site.vendor

/-- A stage of one run and the same stage of the other. Afterwards the quota and the ledger are the
same, and the same calls are under way: they ask for the same, and those whose function is at work are
the same. The signs differ in what depends on the two vendors. -/
structure Mirrored (x y : History.Step Concourse Stage Sign) : Prop where
  gate_eq : x.after.hooks.gate = y.after.hooks.gate
  visits_eq : x.after.visits.map Visit.plain = y.after.visits.map Visit.plain
  signs : ∃ v ∈ x.before.owner? x.action, ∃ w ∈ y.before.owner? y.action,
    List.Forall₂ (Sign.Twin v w) x.outputs y.outputs

/-- A call that holds the ledger, as the gate sees it. -/
def holdsLedger : Passage × Bool → Bool
  | (.allocate .., inside) => inside
  | _ => false

theorem any_allocating (visits : List Visit) :
    visits.any Visit.allocating = (visits.map Visit.plain).any holdsLedger := by
  rw [List.any_map]
  congr 1
  funext v
  obtain ⟨site, address, passage, inside⟩ := v
  cases passage <;> rfl

theorem Twin.locked_eq (htwin : c.Twin d) : c.locked = d.locked := by
  rw [locked, locked, any_allocating, any_allocating, htwin.visits_eq, htwin.hooks.gate_eq]

theorem Twin.arrive (htwin : c.Twin d) {a b : Runtimes.Action} (hsame : a.Relabelled b) :
    (c.arrive a.resolver a.vendor a.call).1.Twin (d.arrive b.resolver b.vendor b.call).1 ∧
      (c.arrive a.resolver a.vendor a.call).2 = [] ∧
      (d.arrive b.resolver b.vendor b.call).2 = [] := by
  obtain ⟨found, address, hrole, hfound⟩ :=
    Hooks.exists_found (Hooks.misses_of_served htwin.hooks.managed_left hsame.served_left)
  obtain ⟨other, address', hrole', hfound'⟩ :=
    Hooks.exists_found (Hooks.misses_of_served htwin.hooks.managed_right hsame.served_right)
  rw [arrive_of_found hrole hfound, arrive_of_found hrole' hfound']
  refine ⟨⟨htwin.hooks.searched a b _ _, ?_⟩, rfl, rfl⟩
  simp [Visit.plain, htwin.visits_eq, hsame.plain_eq]

theorem Twin.follow (htwin : c.Twin d) (place : Nat) {v w : Vendor} {x y : Turn}
    (hturn : x.Twin v w y) : (c.follow place x).Twin (d.follow place y) := by
  refine ⟨⟨hturn.gate_eq, htwin.hooks.managed_left, htwin.hooks.managed_right⟩, ?_⟩
  obtain ⟨left, g, signs⟩ := x
  obtain ⟨right, g', signs'⟩ := y
  have hvisit : left.map Visit.plain = right.map Visit.plain := hturn.visit_eq
  cases left with
  | none =>
    obtain rfl : right = none := by simpa using hvisit.symm
    simp only [Concourse.follow, List.eraseIdx_eq_take_drop_succ, List.map_append, List.map_take,
      List.map_drop, htwin.visits_eq]
  | some visit =>
    obtain ⟨visit', rfl, hplain⟩ := Option.map_eq_some_iff.1 hvisit.symm
    simp only [Concourse.follow, List.map_set, htwin.visits_eq, hplain]

/-- The same stage of calls of two vendors' hooks. -/
theorem Twin.step? (htwin : c.Twin d) {stage other : Stage} (hsame : stage.Relabelled other) :
    History.Matched Mirrored Twin c d stage other (c.step? stage) (d.step? other) := by
  cases hsame with
  | @arrive a b hsame =>
    obtain ⟨hafter, hleft, hright⟩ := htwin.arrive hsame
    refine .some ⟨⟨hafter.hooks.gate_eq, hafter.visits_eq, _, rfl, _, rfl, ?_⟩, hafter⟩
    simp only [hleft, hright]
    exact .nil
  | proceed place =>
    have hplaces : c.visits[place]?.map Visit.plain = d.visits[place]?.map Visit.plain := by
      rw [← List.getElem?_map, ← List.getElem?_map, htwin.visits_eq]
    simp only [Concourse.step?]
    cases hplace : c.visits[place]? with
    | none =>
      rw [hplace] at hplaces
      obtain hother : d.visits[place]? = none := by simpa using hplaces.symm
      rw [hother]
      exact .none
    | some v =>
      rw [hplace] at hplaces
      obtain ⟨w, hother, hplain⟩ := Option.map_eq_some_iff.1 hplaces.symm
      rw [hother]
      have hturns := Visit.proceed_twin c.hooks.gate c.locked hplain.symm
      rw [← htwin.locked_eq, ← htwin.hooks.gate_eq]
      dsimp only
      generalize v.proceed c.hooks.gate c.locked = left,
        w.proceed c.hooks.gate c.locked = right at hturns
      cases hturns with
      | none => exact .none
      | some hturn =>
        have hafter := htwin.follow place hturn
        refine .some ⟨⟨hafter.hooks.gate_eq, hafter.visits_eq, v.site.vendor, ?_, w.site.vendor, ?_,
          hturn.signs⟩, hafter⟩
        · simp [owner?, hplace]
        · simp [owner?, hother]

/-- **The protocol does not depend on the vendor.** Two runs start with the same gate, and with calls
under way that ask for the same. All that they go on to call can be found. A run of stages, or of
whole calls, is laid beside one in which each call is that of any vendor's hook, with the same sizes
and pointers, and with the same answers and stores of the runtime.

Both runs go equally far. After each step the quota and the ledger are the same, and the runtimes'
functions are at work on the same sizes and pointers. The answers are the same, in the status and in
the caller's variables, except that a denied allocation gets its own vendor's code for being out of
memory; and the log only differs in the names of functions. -/
theorem vendors_interchangeable (htwin : c.Twin d) :
    (∀ stages others : List Stage, List.Forall₂ Stage.Relabelled stages others →
      List.Forall₂ Mirrored (History.steps Concourse.step? stages c)
          (History.steps Concourse.step? others d) ∧
        (run? stages c).isSome = (run? others d).isSome) ∧
    ∀ actions others : List Runtimes.Action,
      List.Forall₂ Runtimes.Action.Relabelled actions others →
        List.Forall₂ Hooks.Mirrored (History.steps Hooks.step? actions c.hooks)
            (History.steps Hooks.step? others d.hooks) ∧
          (History.run? Hooks.step? actions c.hooks).isSome = true ∧
          (History.run? Hooks.step? others d.hooks).isSome = true := by
  refine ⟨fun stages others hsame => ?_, fun actions others hsame => ?_⟩
  · exact History.lockstep (fun _ _ _ _ htwin hsame => htwin.step? hsame) hsame htwin
  · refine ⟨(History.lockstep (R := Hooks.Twin) ?_ hsame htwin.hooks).1,
      History.isSome_run? (fun _ _ => rfl) actions c.hooks,
      History.isSome_run? (fun _ _ => rfl) others d.hooks⟩
    intro h k a b htwin hsame
    obtain ⟨hafter, hsigns⟩ := htwin.call hsame
    exact .some ⟨⟨hafter.gate_eq, hsigns⟩, hafter⟩

/-- An allocation, then a second one that is called while the first is under way, then a release. -/
def inTurn (first second last : Runtimes.Action) : List Stage :=
  [.arrive first.resolver first.vendor first.call,
    .proceed 0,
    .arrive second.resolver second.vendor second.call,
    .proceed 0,
    .proceed 0,
    .arrive last.resolver last.vendor last.call,
    .proceed 0,
    .proceed 0]

/-- CUDA's own hooks, the second being that for managed memory. -/
def ofCuda : List Stage :=
  inTurn ⟨fun _ => some 4096, .cuda, .allocate 60 0 ⟨7, false⟩ ⟨0, some 16⟩⟩
    ⟨fun _ => some 4096, .cuda, .allocateManaged 60 1 ⟨7, false⟩ ⟨0, some 32⟩⟩
    ⟨fun _ => some 4096, .cuda, .free 16 0⟩

/-- The same calls of hooks of the other two vendors. -/
def ofOthers : List Stage :=
  inTurn ⟨fun _ => some 8192, .hip, .allocate 60 0 ⟨7, false⟩ ⟨0, some 16⟩⟩
    ⟨fun _ => some 8192, .acl, .allocate 60 2 ⟨7, false⟩ ⟨0, some 32⟩⟩
    ⟨fun _ => some 8192, .acl, .free 16 0⟩

theorem relabelled_inTurn {a b c a' b' c' : Runtimes.Action} (hfirst : a.Relabelled a')
    (hsecond : b.Relabelled b') (hlast : c.Relabelled c') :
    List.Forall₂ Stage.Relabelled (inTurn a b c) (inTurn a' b' c') :=
  .cons (.arrive hfirst) <| .cons (.proceed 0) <| .cons (.arrive hsecond) <| .cons (.proceed 0) <|
    .cons (.proceed 0) <| .cons (.arrive hlast) <| .cons (.proceed 0) <| .cons (.proceed 0) .nil

/-- The second allocation is denied in both runs, in the codes of CUDA and of ACL. -/
theorem vendors_interchangeable_ofOthers :
    let fresh := new ⟨100, .warn, .strict, none⟩ true
    fresh.Twin fresh ∧
      List.Forall₂ Mirrored (History.steps Concourse.step? ofCuda fresh)
        (History.steps Concourse.step? ofOthers fresh) ∧
      (run? ofCuda fresh).map Prod.snd
        = some [.logged (.charged "cudaMalloc" 60 16 60),
          .answered 0 (.handle ⟨16, false⟩) [⟨4096, "cudaMalloc", some 60, 0⟩],
          .logged (.overQuota "cudaMallocManaged" 60 60 100),
          .answered 2 (.handle ⟨7, false⟩) [],
          .logged (.released "cudaFree" 60 16 0),
          .answered 0 .none [⟨4096, "cudaFree", some 16, 0⟩]] ∧
      (run? ofOthers fresh).map Prod.snd
        = some [.logged (.charged "hipMalloc" 60 16 60),
          .answered 0 (.handle ⟨16, false⟩) [⟨8192, "hipMalloc", some 60, 0⟩],
          .logged (.overQuota "aclrtMalloc" 60 60 100),
          .answered 107000 (.handle ⟨7, false⟩) [],
          .logged (.released "aclrtFree" 60 16 0),
          .answered 0 .none [⟨8192, "aclrtFree", some 16, 0⟩]] := by
  have hfresh : (new ⟨100, .warn, .strict, none⟩ true).Twin (new ⟨100, .warn, .strict, none⟩ true) :=
    ⟨⟨rfl, rfl, rfl⟩, rfl⟩
  have hsame : List.Forall₂ Stage.Relabelled ofCuda ofOthers := by
    apply relabelled_inTurn
    · exact ⟨rfl, ⟨fun _ => rfl, fun _ => rfl⟩, ⟨fun _ => rfl, fun h => by cases h⟩⟩
    · exact ⟨rfl, ⟨fun _ => rfl, fun _ => rfl⟩, ⟨fun _ => rfl, fun h => by cases h⟩⟩
    · exact ⟨rfl, ⟨fun _ => rfl, fun _ => rfl⟩, ⟨fun _ => rfl, fun h => by cases h⟩⟩
  exact ⟨hfresh, ((vendors_interchangeable hfresh).1 ofCuda ofOthers hsame).1, by decide, by decide⟩

end Concourse

end DeviceQuota
