import DeviceQuota.Binding.Basic

/-!
# The bindings of a vendor

Each vendor's runtime has a function that allocates, one that frees and one that reports memory;
CUDA has a second one that allocates managed memory.

* **`Role`** — what a function is for, and **`Vendor.symbol`**, its name;
* **`Family`** — a vendor's bindings;
* **`Family.probe`** — a silent look-up of each, and **`Presence`**, what it showed.
-/

namespace DeviceQuota

/-- What a function of a runtime is for. -/
inductive Role where
  | allocate | free | memInfo | allocateManaged
  deriving DecidableEq, Repr

/-- The function of a vendor's runtime for a role. Managed memory is CUDA's. -/
def Vendor.symbol : Vendor → Role → String
  | cuda, .allocate => "cudaMalloc"
  | cuda, .free => "cudaFree"
  | cuda, .memInfo => "cudaMemGetInfo"
  | acl, .allocate => "aclrtMalloc"
  | acl, .free => "aclrtFree"
  | acl, .memInfo => "aclrtGetMemInfo"
  | hip, .allocate => "hipMalloc"
  | hip, .free => "hipFree"
  | hip, .memInfo => "hipMemGetInfo"
  | _, .allocateManaged => "cudaMallocManaged"

/-- How much of a vendor's runtime is there. -/
structure Presence where
  vendor : Vendor
  /-- The function that allocates was found. -/
  canAllocate : Bool
  resolved : Nat
  total : Nat
  deriving DecidableEq, Repr

/-- The vendor with both numbers. -/
def Presence.summary (p : Presence) : String :=
  p.vendor.name ++ "(" ++ toString p.resolved ++ "/" ++ toString p.total ++ ")"

/-- A vendor's bindings. -/
structure Family where
  vendor : Vendor
  allocate : Binding
  free : Binding
  memInfo : Binding
  /-- The function that allocates managed memory, where the vendor has one. -/
  managed : Option Binding
  deriving DecidableEq, Repr

namespace Family

/-- The bindings of a vendor before any look-up; `managed` asks for managed memory, which only CUDA
has. -/
def new (vendor : Vendor) (managed : Bool) : Family where
  vendor := vendor
  allocate := .new (vendor.symbol .allocate)
  free := .new (vendor.symbol .free)
  memInfo := .new (vendor.symbol .memInfo)
  managed :=
    if vendor = .cuda && managed then some (.new (vendor.symbol .allocateManaged)) else none

/-- The binding for a role. -/
def get? (f : Family) : Role → Option Binding
  | .allocate => some f.allocate
  | .free => some f.free
  | .memInfo => some f.memInfo
  | .allocateManaged => f.managed

/-- The family with another binding for a role. -/
def set (f : Family) (b : Binding) : Role → Family
  | .allocate => { f with allocate := b }
  | .free => { f with free := b }
  | .memInfo => { f with memInfo := b }
  | .allocateManaged => { f with managed := some b }

/-- All roles in the order in which bindings are listed. -/
def roles : List Role := [.allocate, .free, .memInfo, .allocateManaged]

/-- The bindings in the order of their roles. -/
def toList (f : Family) : List Binding := roles.filterMap f.get?

/-- The role that a symbol has in the family. -/
def role? (f : Family) (symbol : String) : Option Role :=
  roles.find? fun role =>
    match f.get? role with
    | some b => b.symbol == symbol
    | none => false

/-- The function that allocates was found. -/
def isPresent (f : Family) : Bool := f.allocate.get.isSome

/-- A silent look-up for a role; nothing where the family has no such function. -/
def probeRole (resolver : Resolver) (f : Family) (role : Role) : Family :=
  match f.get? role with
  | some b => f.set (b.probe resolver).binding role
  | none => f

/-- A silent look-up of each binding that is not known yet. -/
def probe (f : Family) (resolver : Resolver) : Family :=
  roles.foldl (probeRole resolver) f

/-- The symbols that a probe asks for, in order. -/
def unknown (f : Family) : List String :=
  (f.toList.filter fun b => b.get.isNone).map Binding.symbol

/-- How much of the vendor's runtime has been found. -/
def presence (f : Family) : Presence where
  vendor := f.vendor
  canAllocate := f.isPresent
  resolved := (f.toList.filter fun b => b.get.isSome).length
  total := f.toList.length

/-- What is set for a role is found there. -/
@[simp] theorem get?_set_self (f : Family) (b : Binding) (role : Role) :
    (f.set b role).get? role = some b := by
  cases role <;> rfl

/-- The bindings of other roles stay. -/
theorem get?_set_of_ne (f : Family) (b : Binding) {role other : Role} (ne : other ≠ role) :
    (f.set b role).get? other = f.get? other := by
  cases role <;> cases other <;> first | rfl | exact absurd rfl ne

end Family

end DeviceQuota
