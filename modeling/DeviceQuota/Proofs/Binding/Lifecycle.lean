import DeviceQuota.Binding.Basic
import Mathlib.Data.List.Induction

/-!
# The life of a binding

Calls on a binding come in any order, and what can be found may change from one call to the next. The
address and the state of a binding are two records that different calls write to: a look-up that finds
something writes both, a failed call on behalf of a caller writes the state only, and a failed probe
writes neither. What they say, and what each call answers and logs, follows from the calls before.

* **`Binding.Call`**, **`Binding.serve`** — a call, with what can be found at that moment;
* **`Binding.after`**, **`Binding.trace`** — a sequence of calls, and what each of them did;
* **`Binding.firstFound`** — the first address that a call finds, read off the calls alone;
* **`Binding.Served`** — the five ways in which a call ends;
* **`Binding.Knows`** — what a binding records after a sequence of calls, kept by each call;
* **`Binding.serves_first_found`** — every sequence of calls.
-/

namespace DeviceQuota.Binding

/-! ### Sequences of calls -/

/-- A call on a binding, with the resolver in force. -/
structure Call where
  operation : Operation
  resolver : Resolver

def Operation.looksUp : Operation → Bool
  | probe | resolve | require => true
  | get => false

/-- The operation is made on behalf of a caller who needs the function. -/
def Operation.needs : Operation → Bool
  | resolve | require => true
  | probe | get => false

/-- What a call finds if it comes to a look-up. -/
def Call.offer? (call : Call) (symbol : String) : Option Address :=
  if call.operation.looksUp then call.resolver symbol else none

/-- The first address that one of the calls finds. -/
def firstFound (symbol : String) (calls : List Call) : Option Address :=
  calls.findSome? fun call => call.offer? symbol

def serve (b : Binding) (call : Call) : Search := b.perform call.resolver call.operation

/-- The binding after a sequence of calls. -/
def after (b : Binding) (calls : List Call) : Binding :=
  calls.foldl (fun b call => (b.serve call).binding) b

/-- The calls of a sequence, each with what it did. -/
def trace : Binding → List Call → List (Call × Search)
  | _, [] => []
  | b, call :: calls => (call, b.serve call) :: (b.serve call).binding.trace calls

/-- A call on behalf of a caller found nothing. -/
def missed (entry : Call × Search) : Bool :=
  entry.1.operation.needs && entry.2.found.isNone

def failures (seen : List (Call × Search)) : Nat := seen.countP missed

def lookUps (seen : List (Call × Search)) : Nat := seen.countP fun entry => entry.2.asked

def logged (seen : List (Call × Search)) : List Event := seen.flatMap fun entry => entry.2.events

/-- What `n` failures log: an error, and then only what helps debugging. -/
def failureLog (symbol : String) : Nat → List Event
  | 0 => []
  | n + 1 => .missing symbol :: List.replicate n (.stillMissing symbol)

variable {symbol : String} {b : Binding} {call : Call} {calls : List Call}
  {seen : List (Call × Search)}

theorem after_concat (b : Binding) (calls : List Call) (call : Call) :
    b.after (calls ++ [call]) = ((b.after calls).serve call).binding := by
  rw [after, List.foldl_append]
  rfl

theorem trace_concat (b : Binding) (calls : List Call) (call : Call) :
    b.trace (calls ++ [call]) = b.trace calls ++ [(call, (b.after calls).serve call)] := by
  induction calls generalizing b with
  | nil => rfl
  | cons first calls ih =>
    show (first, b.serve first) :: (b.serve first).binding.trace (calls ++ [call]) = _
    rw [ih]
    rfl

theorem firstFound_concat (symbol : String) (calls : List Call) (call : Call) :
    firstFound symbol (calls ++ [call]) = (firstFound symbol calls).or (call.offer? symbol) := by
  rw [firstFound, List.findSome?_append]
  simp [firstFound]

theorem failures_concat (seen : List (Call × Search)) (entry : Call × Search) :
    failures (seen ++ [entry]) = failures seen + (missed entry).toNat := by
  rw [failures, List.countP_append, List.countP_singleton]
  cases missed entry <;> rfl

theorem lookUps_concat (seen : List (Call × Search)) (entry : Call × Search) :
    lookUps (seen ++ [entry]) = lookUps seen + entry.2.asked.toNat := by
  rw [lookUps, List.countP_append, List.countP_singleton]
  cases entry.2.asked <;> rfl

theorem logged_concat (seen : List (Call × Search)) (entry : Call × Search) :
    logged (seen ++ [entry]) = logged seen ++ entry.2.events := by
  simp [logged]

/-- One more failure is an error only if it is the first one. -/
theorem failureLog_succ (symbol : String) (n : Nat) :
    failureLog symbol (n + 1)
      = failureLog symbol n ++ [if n = 0 then .missing symbol else .stillMissing symbol] := by
  cases n with
  | zero => rfl
  | succ n =>
    show _ :: List.replicate (n + 1) _ = (_ :: List.replicate n _) ++ [_]
    rw [List.replicate_succ', List.cons_append, if_neg (Nat.succ_ne_zero n)]

/-- Any number of failures logs one error. -/
theorem countP_error_failureLog (symbol : String) (n : Nat) :
    (failureLog symbol n).countP (fun e => e.level = .error) = min 1 n := by
  cases n with
  | zero => rfl
  | succ n => simp [failureLog, Event.level, List.countP_replicate]

/-! ### One call -/

/-- How a call ends: the address is known already; nobody looks it up; it is found now; a probe finds
nothing; or a call on behalf of a caller finds nothing. -/
inductive Served (b : Binding) (call : Call) : Search → Prop where
  | known {address : Address} (hknown : b.get = some address) :
      Served b call ⟨some address, false, [], b⟩
  | idle (hunknown : b.get = none) (hquiet : call.operation.looksUp = false) :
      Served b call ⟨none, false, [], b⟩
  | found {address : Address} (hunknown : b.get = none) (hlooks : call.operation.looksUp = true)
      (hfound : call.resolver b.symbol = some address) :
      Served b call ⟨some address, true, [], b.lookUp (some address)⟩
  | probed (hunknown : b.get = none) (hprobe : call.operation = .probe)
      (hnothing : call.resolver b.symbol = none) :
      Served b call ⟨none, true, [], b.lookUp none⟩
  | failed (hunknown : b.get = none) (hneeds : call.operation.needs = true)
      (hnothing : call.resolver b.symbol = none) :
      Served b call
        ⟨none, true, [b.failure], { b.lookUp none with state := b.state.afterFailure }⟩

theorem looksUp_of_needs {operation : Operation} (hneeds : operation.needs = true) :
    operation.looksUp = true := by
  cases operation with
  | resolve | require => rfl
  | probe | get => contradiction

theorem needs_of_quiet {operation : Operation} (hquiet : operation.looksUp = false) :
    operation.needs = false := by
  cases operation with
  | get => rfl
  | probe | resolve | require => contradiction

theorem served_resolve {resolver : Resolver} {operation : Operation}
    (hneeds : operation.needs = true) :
    Served b ⟨operation, resolver⟩ (b.resolve resolver) := by
  cases hget : b.get with
  | some address =>
    rw [resolve_of_get resolver hget]
    exact .known hget
  | none =>
    cases hfound : resolver b.symbol with
    | some address =>
      simp only [resolve, hget, hfound]
      exact .found hget (looksUp_of_needs hneeds) hfound
    | none =>
      simp only [resolve, hget, hfound]
      exact .failed hget hneeds hfound

theorem served (b : Binding) (call : Call) : Served b call (b.serve call) := by
  obtain ⟨operation, resolver⟩ := call
  cases operation with
  | resolve => exact served_resolve rfl
  | require => exact served_resolve rfl
  | probe =>
    show Served b _ (b.probe resolver)
    cases hget : b.get with
    | some address =>
      rw [probe_of_get resolver hget]
      exact .known hget
    | none =>
      cases hfound : resolver b.symbol with
      | some address =>
        simp only [probe, hget, hfound]
        exact .found hget rfl hfound
      | none =>
        simp only [probe, hget, hfound]
        exact .probed hget rfl hfound
  | get =>
    show Served b _ ⟨b.get, false, [], b⟩
    cases hget : b.get with
    | some address => exact .known hget
    | none => exact .idle hget rfl

section
variable {now : Search}

theorem Served.symbol_eq (h : Served b call now) : now.binding.symbol = b.symbol := by
  cases h <;> rfl

/-- A call answers what is known when it is done. -/
theorem Served.found_eq (h : Served b call now) : now.found = now.binding.get := by
  cases h with
  | known hknown => exact hknown.symm
  | idle hunknown => exact hunknown.symm
  | found => rfl
  | probed hunknown | failed hunknown => exact hunknown.symm

/-- What is known stays, and else it is what the call finds. -/
theorem Served.get_eq (h : Served b call now) :
    now.binding.get = b.get.or (call.offer? b.symbol) := by
  cases h with
  | known hknown => rw [hknown, Option.some_or]
  | idle hunknown hquiet => rw [hunknown, Option.none_or, Call.offer?, hquiet]; rfl
  | found hunknown hlooks hfound =>
    rw [hunknown, Option.none_or, Call.offer?, hlooks, if_pos rfl, hfound]
    rfl
  | probed hunknown hprobe hnothing | failed hunknown hneeds hnothing =>
    show b.get = _
    rw [hunknown, Option.none_or, Call.offer?, hnothing, ite_self]

theorem Served.asked_eq (h : Served b call now) :
    now.asked = (call.operation.looksUp && b.get.isNone) := by
  cases h with
  | known hknown => rw [hknown, Option.isNone_some, Bool.and_false]
  | idle hunknown hquiet => rw [hquiet, Bool.false_and]
  | found hunknown hlooks => rw [hunknown, hlooks]; rfl
  | probed hunknown hprobe => rw [hunknown, hprobe]; rfl
  | failed hunknown hneeds => rw [hunknown, looksUp_of_needs hneeds]; rfl

/-- A look-up is counted, in 32 bits. -/
theorem Served.attempts_eq (h : Served b call now) :
    now.binding.attempts.toNat = (b.attempts.toNat + now.asked.toNat) % UInt32.size := by
  cases h with
  | known | idle => exact (Nat.mod_eq_of_lt b.attempts.toNat_lt).symm
  | found | probed | failed => exact UInt32.toNat_add _ _

/-- Only a failure is logged. -/
theorem Served.events_eq (h : Served b call now) :
    now.events = if missed (call, now) then [b.failure] else [] := by
  cases h with
  | known | found => simp [missed]
  | idle hunknown hquiet => simp [missed, needs_of_quiet hquiet]
  | probed hunknown hprobe => simp [missed, hprobe, Operation.needs]
  | failed hunknown hneeds => simp [missed, hneeds]

/-- A probe that finds nothing leaves no trace but its look-up. -/
theorem Served.quiet_of_probe (h : Served b call now) (hprobe : call.operation = .probe)
    (hnothing : now.found = none) : now.events = [] ∧ now.binding.state = b.state := by
  cases h with
  | known | found => contradiction
  | idle | probed => exact ⟨rfl, rfl⟩
  | failed hunknown hneeds =>
    rw [hprobe] at hneeds
    contradiction

end

/-! ### What a binding records -/

/-- The state of a binding whose address is known or not, after a number of failures. -/
def State.ofFailures (known : Bool) (n : Nat) : State :=
  if known then .resolved else if n = 0 then .unresolved else .failed

theorem State.afterFailure_ofFailures (n : Nat) :
    (ofFailures false n).afterFailure = ofFailures false (n + 1) := by
  cases n <;> rfl

theorem Served.state_eq {now : Search} {n : Nat} (h : Served b call now)
    (hstate : b.state = .ofFailures b.get.isSome n) :
    now.binding.state
      = .ofFailures now.binding.get.isSome (n + (missed (call, now)).toNat) := by
  have hmissed : missed (call, now) = (call.operation.needs && now.found.isNone) := rfl
  rw [hmissed]
  cases h with
  | known hknown => rw [Option.isNone_some, Bool.and_false]; exact hstate
  | idle hunknown hquiet =>
    rw [needs_of_quiet hquiet]
    exact hstate
  | found hunknown hlooks hfound => rfl
  | probed hunknown hprobe hnothing =>
    rw [hprobe]
    exact hstate
  | failed hunknown hneeds hnothing =>
    rw [hunknown] at hstate
    show b.state.afterFailure = .ofFailures b.get.isSome (n + _)
    rw [hneeds, hstate, hunknown]
    exact State.afterFailure_ofFailures n

/-- What a binding records after the calls `calls`, which did `seen`. -/
structure Knows (symbol : String) (calls : List Call) (seen : List (Call × Search)) (b : Binding) :
    Prop where
  symbol_eq : b.symbol = symbol
  get_eq : b.get = firstFound symbol calls
  state_eq : b.state = .ofFailures b.get.isSome (failures seen)
  attempts_eq : b.attempts.toNat = lookUps seen % UInt32.size
  logged_eq : logged seen = failureLog symbol (failures seen)

theorem knows_new (symbol : String) : Knows symbol [] [] (new symbol) := ⟨rfl, rfl, rfl, rfl, rfl⟩

/-- The event of a failure tells whether it is the first one. -/
theorem Knows.failure_eq (hinv : Knows symbol calls seen b) (hunknown : b.get = none) :
    b.failure = if failures seen = 0 then .missing symbol else .stillMissing symbol := by
  have hstate : b.state = .ofFailures false (failures seen) := by
    rw [hinv.state_eq, hunknown]
    rfl
  rw [failure, hstate, hinv.symbol_eq]
  cases failures seen <;> rfl

/-- What a call logs, told by the calls before. -/
theorem Knows.events_eq {now : Search} (hinv : Knows symbol calls seen b) (h : Served b call now) :
    now.events =
      if missed (call, now) then
        [if failures seen = 0 then .missing symbol else .stillMissing symbol]
      else [] := by
  rw [h.events_eq]
  cases hmissed : missed (call, now) with
  | false => rfl
  | true =>
    -- A failure finds nothing, and what is known is found: the address was not known before.
    have hnothing : now.found = none := by
      rw [missed, Bool.and_eq_true, Option.isNone_iff_eq_none] at hmissed
      exact hmissed.2
    have hunknown : b.get = none := by
      rw [h.found_eq, h.get_eq, Option.or_eq_none_iff] at hnothing
      exact hnothing.1
    rw [hinv.failure_eq hunknown]

/-- The first failure is an error, and later ones help debugging. -/
theorem Knows.levels_eq {now : Search} (hinv : Knows symbol calls seen b) (h : Served b call now) :
    now.events.map Event.level =
      if missed (call, now) then [if failures seen = 0 then .error else .debug] else [] := by
  rw [hinv.events_eq h]
  cases missed (call, now) with
  | false => rfl
  | true => cases failures seen <;> rfl

/-- **One call** keeps the records in step with the calls. -/
theorem Knows.of_served {now : Search} (hinv : Knows symbol calls seen b) (h : Served b call now) :
    Knows symbol (calls ++ [call]) (seen ++ [(call, now)]) now.binding where
  symbol_eq := h.symbol_eq.trans hinv.symbol_eq
  get_eq := by rw [h.get_eq, firstFound_concat, hinv.get_eq, hinv.symbol_eq]
  state_eq := by
    rw [failures_concat]
    exact h.state_eq hinv.state_eq
  attempts_eq := by
    rw [h.attempts_eq, hinv.attempts_eq, lookUps_concat]
    exact Nat.mod_add_mod _ _ _
  logged_eq := by
    rw [logged_concat, failures_concat, hinv.logged_eq, hinv.events_eq h]
    cases missed (call, now) with
    | false => exact List.append_nil _
    | true => exact (failureLog_succ symbol _).symm

/-- **Every sequence of calls** keeps the records in step. -/
theorem knows_after (symbol : String) (calls : List Call) :
    Knows symbol calls ((new symbol).trace calls) ((new symbol).after calls) := by
  -- The last call meets the binding that the calls before it left behind.
  induction calls using List.reverseRecOn with
  | nil => exact knows_new symbol
  | append_singleton calls call ih =>
    rw [after_concat, trace_concat]
    exact ih.of_served (served _ call)

theorem State.ofFailures_eq_resolved_iff (known : Bool) (n : Nat) :
    ofFailures known n = resolved ↔ known = true := by
  cases known <;> cases n <;> simp [ofFailures]

theorem State.ofFailures_eq_failed_iff (known : Bool) (n : Nat) :
    ofFailures known n = failed ↔ known = false ∧ 0 < n := by
  cases known <;> cases n <;> simp [ofFailures]

/-- **The first address that is found is the answer to every later call.** After any sequence of
calls, with resolvers that may answer differently each time, a further call answers the first address
that was ever found, by itself or before it, and nothing where there is none; it looks the symbol up
only if the address is not known. The state is `resolved` exactly if there is an address, `failed`
exactly if there is none and a call on behalf of a caller has failed, and else `unresolved`. The
look-ups are counted in 32 bits. A probe that fails logs nothing and leaves the state. A call on
behalf of a caller that fails logs one event, at level `error` if it is the first one to fail and at
level `debug` if not, so that there is one error if any such call has failed, and never more. -/
theorem serves_first_found (symbol : String) (calls : List Call) (call : Call) :
    let b := (new symbol).after calls
    let seen := (new symbol).trace calls
    let now := b.serve call
    now.found = firstFound symbol (calls ++ [call]) ∧
      now.asked = (call.operation.looksUp && (firstFound symbol calls).isNone) ∧
      (call.operation = .require →
        b.require call.resolver
          = match firstFound symbol (calls ++ [call]) with
            | some address => .ok address
            | none => .error (.unresolved symbol)) ∧
      b.get = firstFound symbol calls ∧
      (b.state = .resolved ↔ b.get.isSome = true) ∧
      (b.state = .failed ↔ b.get = none ∧ ∃ entry ∈ seen, missed entry = true) ∧
      b.attempts.toNat = lookUps seen % UInt32.size ∧
      (call.operation = .probe → now.found = none →
        now.events = [] ∧ now.binding.state = b.state) ∧
      now.events =
        (if missed (call, now) then
          [if failures seen = 0 then .missing symbol else .stillMissing symbol]
        else []) ∧
      now.events.map Event.level =
        (if missed (call, now) then [if failures seen = 0 then .error else .debug] else []) ∧
      (logged seen).countP (fun e => e.level = .error) = min 1 (failures seen) := by
  intro b seen now
  have hinv : Knows symbol calls seen b := knows_after symbol calls
  have hserved : Served b call now := served b call
  have hfound : now.found = firstFound symbol (calls ++ [call]) :=
    hserved.found_eq.trans (hinv.of_served hserved).get_eq
  refine ⟨hfound, ?_, ?_, hinv.get_eq, ?_, ?_, hinv.attempts_eq, hserved.quiet_of_probe,
    hinv.events_eq hserved, hinv.levels_eq hserved, ?_⟩
  · rw [hserved.asked_eq, hinv.get_eq]
  · intro hrequire
    have hnow : now = b.resolve call.resolver := by
      show b.perform call.resolver call.operation = _
      rw [hrequire]
      rfl
    rw [require, ← hnow, hfound]
    cases firstFound symbol (calls ++ [call]) with
    | some address => rfl
    | none =>
      show Except.error (Refusal.unresolved b.symbol) = .error (.unresolved symbol)
      rw [hinv.symbol_eq]
  · rw [hinv.state_eq]
    exact State.ofFailures_eq_resolved_iff _ _
  · rw [hinv.state_eq, State.ofFailures_eq_failed_iff, Option.isSome_eq_false_iff,
      Option.isNone_iff_eq_none, failures, List.countP_pos_iff]
  · rw [hinv.logged_eq]
    exact countP_error_failureLog symbol _

/-- A function is missing when it is probed and when it is first needed, turns up, and moves. -/
def movedFunction : List Call :=
  [⟨.probe, fun _ => none⟩, ⟨.resolve, fun _ => none⟩, ⟨.get, fun _ => some 16⟩,
    ⟨.require, fun _ => none⟩, ⟨.probe, fun _ => some 32⟩, ⟨.resolve, fun _ => some 48⟩]

/-- The address that turned up stays the answer. The first call that needed the function logged an
error, the next one did not, and the probe before them logged nothing. -/
theorem serves_first_found_movedFunction :
    (((new "hipFree").after movedFunction).require fun _ => some 64) = .ok 32 ∧
      ((new "hipFree").after movedFunction).attempts.toNat = 4 ∧
      ((((new "hipFree").after (movedFunction.take 1)).serve
        ⟨.resolve, fun _ => none⟩).events.map Event.level) = [.error] ∧
      ((((new "hipFree").after (movedFunction.take 3)).serve
        ⟨.require, fun _ => none⟩).events.map Event.level) = [.debug] ∧
      (logged ((new "hipFree").trace movedFunction)).countP (fun e => e.level = .error) = 1 := by
  obtain ⟨-, -, hrequire, -, -, -, hattempts, -, -, -, herrors⟩ :=
    serves_first_found "hipFree" movedFunction ⟨.require, fun _ => some 64⟩
  obtain ⟨-, -, -, -, -, -, -, -, -, hfirst, -⟩ :=
    serves_first_found "hipFree" (movedFunction.take 1) ⟨.resolve, fun _ => none⟩
  obtain ⟨-, -, -, -, -, -, -, -, -, hlater, -⟩ :=
    serves_first_found "hipFree" (movedFunction.take 3) ⟨.require, fun _ => none⟩
  exact ⟨hrequire rfl, hattempts, hfirst, hlater, herrors⟩

end DeviceQuota.Binding
