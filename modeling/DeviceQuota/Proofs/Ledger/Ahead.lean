import DeviceQuota.Ledger

/-!
# A ledger with slots and denials ahead

Two ledgers that differ only in the number of promised slots and in the count of denials. As long as
nobody is short of slots, no phase tells them apart, and they stay apart by the same numbers.

* **`Table.ahead`**, **`Ledger.ahead`** — more promised slots, and more denials;
* **`Ledger.request_ahead`**, **`Ledger.settle_ahead`**, **`Ledger.release_ahead`** — the phases.
-/

namespace DeviceQuota

namespace Table

variable {t : Table} {slots : Nat}

/-- The table with more promised slots. -/
def ahead (t : Table) (slots : Nat) : Table := { t with reserved := t.reserved + slots }

theorem reserve?_ahead (hroom : slots = 0 ∨ t.capacity = none) :
    (t.ahead slots).reserve? = t.reserve?.map fun u => u.ahead slots := by
  rcases hroom with rfl | hnone
  · show t.reserve? = t.reserve?.map fun u => u
    cases t.reserve? <;> rfl
  · simp only [reserve?, ahead, hnone, Except.map]
    rw [Nat.add_right_comm]

/-- A slot ahead is not taken for a promised one: the count of promised slots stops at zero. -/
theorem cancel_ahead (slots : Nat) (hpromised : 0 < t.reserved) :
    (t.ahead slots).cancel = t.cancel.ahead slots := by
  have hslots : t.reserved + slots - 1 = t.reserved - 1 + slots := by omega
  simp only [cancel, ahead, hslots]

end Table

namespace Ledger

variable {l : Ledger} {slots : Nat}

/-- The ledger with more promised slots and more denials. -/
def ahead (l : Ledger) (slots denials : Nat) : Ledger :=
  { l with
    failed := l.failed + denials
    table := l.table.ahead slots }

/-- **A request** gets the same answer if there is room for the slots ahead. -/
theorem request_ahead (limit size : Bytes) (denials : Nat)
    (hroom : slots = 0 ∨ l.table.capacity = none) :
    (l.ahead slots denials).request limit size
      = (l.request limit size).map fun m => m.ahead slots denials := by
  unfold request
  rw [show (l.ahead slots denials).table.reserve? = _ from Table.reserve?_ahead hroom]
  by_cases hfits : l.used.toNat + size.toNat ≤ limit.toNat
  · have hsame : (l.ahead slots denials).used.toNat + size.toNat ≤ limit.toNat := hfits
    rw [if_pos hfits, if_pos hsame]
    cases l.table.reserve? <;> rfl
  · have hsame : ¬(l.ahead slots denials).used.toNat + size.toNat ≤ limit.toNat := hfits
    rw [if_neg hfits, if_neg hsame]
    rfl

theorem refuse_ahead (l : Ledger) (slots denials : Nat) :
    (l.ahead slots denials).refuse = l.refuse.ahead slots denials := by
  simp only [refuse, ahead]
  rw [Nat.add_right_comm]

theorem cancel_ahead (slots denials : Nat) (hpromised : 0 < l.table.reserved) :
    (l.ahead slots denials).cancel = l.cancel.ahead slots denials := by
  simp only [cancel, ahead, Table.cancel_ahead slots hpromised]

theorem charge_ahead (handle : Handle) (size : Bytes) (slots denials : Nat)
    (hpromised : 0 < l.table.reserved) :
    (l.ahead slots denials).charge handle size = (l.charge handle size).ahead slots denials := by
  have hfill : ((l.table.ahead slots).fill handle size).2
      = (l.table.fill handle size).2.ahead slots := by
    rw [Table.fill, Table.cancel_ahead slots hpromised]
    rfl
  simp only [charge, ahead, hfill]
  rfl

/-- **The end of an allocation** that was promised a slot. -/
theorem settle_ahead (site : CallSite) (size : Bytes) (real : Outcome) (slots denials : Nat)
    (hpromised : 0 < l.table.reserved) :
    (l.ahead slots denials).settle site size real
      = ((l.settle site size real).1.ahead slots denials, (l.settle site size real).2) := by
  unfold settle
  rw [charge_ahead _ _ _ _ hpromised, cancel_ahead _ _ hpromised]
  cases real.granted site.vendor <;> rfl

/-- **The beginning of a release.** -/
theorem release_ahead (l : Ledger) (site : CallSite) (handle : Handle) (slots denials : Nat) :
    (l.ahead slots denials).release site handle
      = ((l.release site handle).1.ahead slots denials, (l.release site handle).2) := by
  unfold release
  by_cases hnull : handle = 0
  · rw [if_pos hnull, if_pos hnull]
  · have hsame : (l.ahead slots denials).tracked? handle = l.tracked? handle := rfl
    rw [if_neg hnull, if_neg hnull, hsame]
    cases l.tracked? handle <;> rfl

end Ledger

end DeviceQuota
