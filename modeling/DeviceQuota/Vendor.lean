/-!
# Vendors

Memory is handed out by the runtimes of three vendors. Each has its own status codes; three of them
matter: success, out of memory and invalid argument.

* **`Vendor`** — the vendors, their names and codes;
* **`CallSite`** — a vendor's function, as named in log lines.
-/

namespace DeviceQuota

/-- What a runtime function returns. -/
abbrev Status := Int32

/-- A vendor of accelerator runtimes. -/
inductive Vendor where
  | cuda | acl | hip
  deriving DecidableEq, Repr, Inhabited

/-- The status codes of a vendor that the gate needs to know. -/
structure StatusCodes where
  /-- The call did what it was asked for. -/
  success : Status
  outOfMemory : Status
  invalidValue : Status
  deriving DecidableEq, Repr

namespace Vendor

/-- All vendors in the order in which they are listed. -/
def all : List Vendor := [cuda, acl, hip]

theorem mem_all (v : Vendor) : v ∈ all := by cases v <;> decide

/-- The name of a vendor. -/
def name : Vendor → String
  | cuda => "cuda"
  | acl => "acl"
  | hip => "hip"

/-- The status codes of a vendor. -/
def codes : Vendor → StatusCodes
  | cuda => ⟨0, 2, 1⟩
  | acl => ⟨0, 107000, 107001⟩
  | hip => ⟨0, 2, 1⟩

/-- `status` says that the call did what it was asked for. -/
def isSuccess (v : Vendor) (status : Status) : Bool := status == v.codes.success

@[simp] theorem isSuccess_success (v : Vendor) : v.isSuccess v.codes.success = true := by
  simp [isSuccess]

/-- All vendors report success by the same code. -/
theorem isSuccess_eq (v w : Vendor) (status : Status) :
    v.isSuccess status = w.isSuccess status := by
  cases v <;> cases w <;> rfl

/-- No vendor reports a refusal by its code for success. -/
theorem isSuccess_outOfMemory (v : Vendor) : v.isSuccess v.codes.outOfMemory = false := by
  cases v <;> decide

end Vendor

/-- A function of a vendor that is being called. -/
structure CallSite where
  /-- The vendor whose status codes are spoken. -/
  vendor : Vendor
  function : String
  deriving DecidableEq, Repr

end DeviceQuota
