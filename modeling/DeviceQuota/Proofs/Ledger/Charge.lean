import DeviceQuota.Ledger

/-!
# What the phases do to the charge

A ledger keeps two records of the same bytes: the charge, a 64-bit word whose sums stop at the ends
of the range, and the live sizes, whose exact sum is a natural number. Each phase changes both.

* **`Ledger.liveTotal`**, **`Ledger.trackedBytes`** — the exact sum, and one handle's part of it;
* **`Ledger.Conserved`** — the charge is the exact sum;
* **`Ledger.ChargesExactly`**, **`Ledger.DischargesExactly`** — no sum or difference stops at an end.

`conserved_charge` and `conserved_discharge` say that a conserved ledger stays conserved, and that
nothing stops at an end, as long as the live sizes fit into a word after a charge.
-/

namespace DeviceQuota.Ledger

/-- The exact sum of the live sizes. -/
def liveTotal (l : Ledger) : Nat := l.table.live.total

/-- The bytes that a handle is charged with; none for a handle that is not tracked. -/
def trackedBytes (l : Ledger) (h : Handle) : Nat := ((l.tracked? h).map UInt64.toNat).getD 0

/-- The charge is the exact sum of the live sizes. -/
def Conserved (l : Ledger) : Prop := l.used.toNat = l.liveTotal

/-- Charging `size` bytes for `h` stops at neither end of the range: not when the entry that the
handle still has is taken off, and not when the new size is put on. -/
def ChargesExactly (l : Ledger) (h : Handle) (size : Bytes) : Prop :=
  l.trackedBytes h ≤ l.used.toNat ∧
    l.used.toNat - l.trackedBytes h + size.toNat < UInt64.size

/-- Taking back the charge of `h` does not stop at zero. -/
def DischargesExactly (l : Ledger) (h : Handle) : Prop := l.trackedBytes h ≤ l.used.toNat

instance (l : Ledger) : Decidable l.Conserved := inferInstanceAs (Decidable (_ = _))

theorem trackedBytes_of_some {l : Ledger} {h : Handle} {size : Bytes}
    (hfound : l.tracked? h = some size) : l.trackedBytes h = size.toNat := by
  simp [trackedBytes, hfound]

/-- One handle's bytes are part of the whole. -/
theorem trackedBytes_le_liveTotal (l : Ledger) (h : Handle) :
    l.trackedBytes h ≤ l.liveTotal := by
  cases hfound : l.tracked? h with
  | none => simp [trackedBytes, hfound]
  | some size =>
    have hrest : (l.table.live.erase h).total + size.toNat = l.liveTotal :=
      HandleMap.total_erase hfound
    rw [trackedBytes_of_some hfound]
    omega

/-! ### A request -/

/-- **A request that passes fits into the quota**, and changes neither the charge nor what is live. -/
theorem request_spec {l m : Ledger} {limit size : Bytes} (h : l.request limit size = .ok m) :
    l.used.toNat + size.toNat ≤ limit.toNat ∧ m.used = l.used ∧ m.peak = l.peak ∧
      m.table.live = l.table.live := by
  obtain ⟨hfits, table, hslot, rfl⟩ := request_eq_ok_iff.1 h
  obtain ⟨_, rfl⟩ := Table.reserve?_eq_ok_iff.1 hslot
  exact ⟨hfits, rfl, rfl, rfl⟩

/-! ### A charge -/

theorem liveTotal_charge (l : Ledger) (h : Handle) (size : Bytes) :
    (l.charge h size).liveTotal + l.trackedBytes h = l.liveTotal + size.toNat :=
  l.table.live.total_insert h size

theorem toNat_used_charge (l : Ledger) (h : Handle) (size : Bytes) :
    (l.charge h size).used.toNat =
      if l.used.toNat - l.trackedBytes h + size.toNat < UInt64.size
      then l.used.toNat - l.trackedBytes h + size.toNat else Bytes.greatest := by
  cases hfound : l.tracked? h with
  | none => simp [charge, trackedBytes, hfound, Bytes.toNat_plus]
  | some stale => simp [charge, trackedBytes, hfound, Bytes.toNat_plus]

/-- A charge adds at most what it charges, whether or not it stops at an end. -/
theorem toNat_used_charge_le (l : Ledger) (h : Handle) (size : Bytes) :
    (l.charge h size).used.toNat ≤ l.used.toNat + size.toNat := by
  rw [toNat_used_charge]
  split
  · omega
  · next hfull =>
    have hgreatest : Bytes.greatest < UInt64.size := by decide
    omega

theorem toNat_peak_charge (l : Ledger) (h : Handle) (size : Bytes) :
    (l.charge h size).peak.toNat = max l.peak.toNat (l.charge h size).used.toNat := by
  have hpeak : (l.charge h size).peak = l.peak.larger (l.charge h size).used := rfl
  rw [hpeak, Bytes.toNat_larger]
  split <;> omega

/-- **A charge keeps a ledger conserved** if the live sizes fit into a word afterwards. -/
theorem conserved_charge {l : Ledger} {h : Handle} {size : Bytes} (hconserved : l.Conserved)
    (hfits : (l.charge h size).liveTotal < UInt64.size) :
    l.ChargesExactly h size ∧ (l.charge h size).Conserved := by
  have hpart := l.trackedBytes_le_liveTotal h
  have hsum := l.liveTotal_charge h size
  have hused := l.toNat_used_charge h size
  unfold Conserved at hconserved ⊢
  have hexact : l.ChargesExactly h size := ⟨by omega, by omega⟩
  rw [if_pos hexact.2] at hused
  exact ⟨hexact, by omega⟩

/-! ### A discharge -/

theorem liveTotal_discharge {l : Ledger} {h : Handle} {size : Bytes}
    (hfound : l.tracked? h = some size) :
    (l.discharge h size).liveTotal + size.toNat = l.liveTotal :=
  HandleMap.total_erase hfound

theorem toNat_used_discharge (l : Ledger) (h : Handle) (size : Bytes) :
    (l.discharge h size).used.toNat = l.used.toNat - size.toNat :=
  Bytes.toNat_minus _ _

/-- **A discharge keeps a ledger conserved.** -/
theorem conserved_discharge {l : Ledger} {h : Handle} {size : Bytes} (hconserved : l.Conserved)
    (hfound : l.tracked? h = some size) :
    l.DischargesExactly h ∧ (l.discharge h size).Conserved := by
  have hpart := l.trackedBytes_le_liveTotal h
  have htracked := trackedBytes_of_some hfound
  have hsum := liveTotal_discharge hfound
  have hused := l.toNat_used_discharge h size
  unfold Conserved at hconserved ⊢
  exact ⟨by unfold DischargesExactly; omega, by omega⟩

end DeviceQuota.Ledger
