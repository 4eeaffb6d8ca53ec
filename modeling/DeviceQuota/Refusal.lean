import DeviceQuota.Table
import DeviceQuota.Vendor

/-!
# Refusals

A call that does not reach the runtime is refused for one of three reasons, and each vendor hears
about it in its own codes.

* **`Denial`** — why the ledger does not let an allocation through;
* **`Refusal`** — a denial, or a function of the runtime that is not there;
* **`Refusal.message`**, **`Refusal.status`** — the wording, and the code that the caller gets.
-/

namespace DeviceQuota

/-- Why the ledger does not let an allocation through. -/
inductive Denial where
  /-- The request does not fit into what is left of the quota. -/
  | overQuota (requested used limit : Bytes)
  /-- No slot is left to record the allocation in. -/
  | noSlot (full : TableFull)
  deriving DecidableEq, Repr

/-- Why a call did not reach the runtime. -/
inductive Refusal where
  /-- The ledger did not let it through. -/
  | denied (why : Denial)
  /-- The runtime's own function is not there. -/
  | unresolved (symbol : String)
  deriving DecidableEq, Repr

/-- The wording of a denial. -/
def Denial.message : Denial → String
  | overQuota requested used limit =>
    "quota exceeded: requested " ++ toString requested.toNat ++ " B with " ++ toString used.toNat ++
      " B of " ++ toString limit.toNat ++ " B in use"
  | noSlot full =>
    "tracking capacity exhausted (" ++ toString full.capacity ++ " live allocations)"

namespace Refusal

/-- The wording of a refusal. -/
def message : Refusal → String
  | denied why => why.message
  | unresolved symbol => "real " ++ symbol ++ " could not be resolved"

/-- The code that the caller of a vendor's function gets. -/
def status (vendor : Vendor) : Refusal → Status
  | denied _ => vendor.codes.outOfMemory
  | unresolved _ => vendor.codes.invalidValue

end Refusal

end DeviceQuota
