import DeviceQuota.Event

/-!
# Bindings

A binding remembers where a function of a runtime was found. It is looked up when it is needed and
not before, because a runtime may be loaded late; once found it is never looked up again. The first
failure of a call that needed it is logged as an error, later ones only for debugging.

* **`Binding`** — a symbol with the state of its search and the number of look-ups;
* **`Binding.probe`** — a silent look-up that leaves no mark when it fails;
* **`Binding.resolve`** — a look-up on behalf of a call;
* **`Binding.Operation`** and **`Binding.perform`** — these and their variants as data.
-/

namespace DeviceQuota

/-- The address of a function. -/
abbrev Address := UInt64

/-- Where each function can be found at a moment, if it can. -/
abbrev Resolver := String → Option Address

/-- How the search for a symbol stands. -/
inductive Binding.State where
  /-- No call has needed it in vain, and it was not found. -/
  | unresolved
  /-- A call has needed it in vain. -/
  | failed
  | resolved
  deriving DecidableEq, Repr

/-- A symbol and its search. The address and the state are kept apart: a search that fails marks the
state and does not touch the address. -/
structure Binding where
  symbol : String
  /-- Where the function was found. -/
  address : Option Address
  state : Binding.State
  /-- The number of look-ups, in 32 bits. -/
  attempts : UInt32
  deriving DecidableEq, Repr

/-- The outcome of an operation on a binding. -/
structure Binding.Search where
  /-- The address, if it is known now. -/
  found : Option Address
  asked : Bool
  events : List Event
  binding : Binding
  deriving DecidableEq, Repr

namespace Binding

/-- The name of a state. -/
def State.name : State → String
  | unresolved => "unresolved"
  | failed => "failed"
  | resolved => "resolved"

/-- The state after a call that needed the symbol in vain. -/
def State.afterFailure : State → State
  | unresolved => failed
  | state => state

/-- A binding that has not been looked up. -/
def new (symbol : String) : Binding := ⟨symbol, none, .unresolved, 0⟩

/-- The name of a symbol that is given by its bytes. -/
def symbolOfBytes (bytes : ByteArray) : String :=
  (String.fromUTF8? bytes).getD "<non-utf8 symbol>"

/-- The address, if it is known. -/
def get (b : Binding) : Option Address := b.address

/-- The address made known. -/
def publish (b : Binding) (address : Address) : Binding :=
  { b with
    address := some address
    state := .resolved }

/-- One more look-up, with what it found. -/
def lookUp (b : Binding) (found : Option Address) : Binding :=
  let counted := { b with attempts := b.attempts + 1 }
  match found with
  | some address => counted.publish address
  | none => counted

/-- A silent look-up, unless the address is known. -/
def probe (b : Binding) (resolver : Resolver) : Search :=
  match b.get with
  | some address => ⟨some address, false, [], b⟩
  | none => ⟨resolver b.symbol, true, [], b.lookUp (resolver b.symbol)⟩

/-- The event of a failed call. -/
def failure (b : Binding) : Event :=
  match b.state with
  | .unresolved => .missing b.symbol
  | _ => .stillMissing b.symbol

/-- A look-up on behalf of a call, unless the address is known. -/
def resolve (b : Binding) (resolver : Resolver) : Search :=
  match b.get with
  | some address => ⟨some address, false, [], b⟩
  | none =>
    match resolver b.symbol with
    | some address => ⟨some address, true, [], b.lookUp (some address)⟩
    | none => ⟨none, true, [b.failure], { b.lookUp none with state := b.state.afterFailure }⟩

/-- A look-up on behalf of a call that cannot go on without the address. -/
def require (b : Binding) (resolver : Resolver) : Except Refusal Address :=
  match (b.resolve resolver).found with
  | some address => .ok address
  | none => .error (.unresolved b.symbol)

@[simp] theorem get_new (symbol : String) : (new symbol).get = none := rfl

@[simp] theorem get_lookUp_some (b : Binding) (address : Address) :
    (b.lookUp (some address)).get = some address := rfl

/-- A known address ends every search at once. -/
theorem resolve_of_get {b : Binding} {address : Address} (resolver : Resolver)
    (known : b.get = some address) : b.resolve resolver = ⟨some address, false, [], b⟩ := by
  simp [resolve, known]

/-- A known address ends every probe at once. -/
theorem probe_of_get {b : Binding} {address : Address} (resolver : Resolver)
    (known : b.get = some address) : b.probe resolver = ⟨some address, false, [], b⟩ := by
  simp [probe, known]

/-- The answer of a search is what the binding knows afterwards. -/
theorem get_resolve (b : Binding) (resolver : Resolver) :
    (b.resolve resolver).binding.get = (b.resolve resolver).found := by
  unfold resolve
  split
  · next known => exact known
  · next unknown =>
    split
    · rfl
    · exact unknown

/-- A search keeps the symbol. -/
theorem symbol_resolve (b : Binding) (resolver : Resolver) :
    (b.resolve resolver).binding.symbol = b.symbol := by
  unfold resolve
  split
  · rfl
  · split <;> rfl

/-- An operation on a binding. -/
inductive Operation where
  | probe | resolve | require | get
  deriving DecidableEq, Repr

/-- An operation while a resolver is in force. -/
def perform (b : Binding) (resolver : Resolver) : Operation → Search
  | .probe => b.probe resolver
  | .resolve => b.resolve resolver
  | .require => b.resolve resolver
  | .get => ⟨b.get, false, [], b⟩

end Binding

end DeviceQuota
