import DeviceQuota.Bytes

/-!
# Sizes by handle

A handle is the address that a device gave to an allocation. `HandleMap` holds a size for each of
finitely many handles, and no handle twice.

* **`HandleMap.find?`** — the size under a handle, the view by which the operations are described;
* **`HandleMap.insert`**, **`HandleMap.erase`** — one entry put in or taken out;
* **`HandleMap.total`** — the exact sum of all sizes, a natural number. `total_insert` and
  `total_erase` say how the operations change it.
-/

namespace DeviceQuota

/-- The address of an allocation; zero is the null address. -/
abbrev Handle := UInt64

/-- Finitely many handles with a size each. -/
structure HandleMap where
  /-- The entries, the latest first. -/
  entries : List (Handle × Bytes)
  /-- No handle occurs twice. -/
  nodup : (entries.map Prod.fst).Nodup

namespace HandleMap

/-- No entries. -/
def empty : HandleMap := ⟨[], List.nodup_nil⟩

instance : Inhabited HandleMap := ⟨empty⟩

/-- The number of handles. -/
def size (m : HandleMap) : Nat := m.entries.length

/-- The size under `h`. -/
def find? (m : HandleMap) (h : Handle) : Option Bytes :=
  (m.entries.find? fun entry => entry.1 == h).map Prod.snd

/-- `m` without the entry of `h`. -/
def erase (m : HandleMap) (h : Handle) : HandleMap where
  entries := m.entries.filter fun entry => entry.1 != h
  nodup := (List.filter_sublist.map _).nodup m.nodup

/-- `m` with the size `n` under `h`, in place of any other. -/
def insert (m : HandleMap) (h : Handle) (n : Bytes) : HandleMap where
  entries := (h, n) :: (m.erase h).entries
  nodup := by
    rw [List.map_cons, List.nodup_cons]
    refine ⟨?_, (m.erase h).nodup⟩
    simp [erase]

/-- The exact sum of the sizes of some entries. -/
def sumSizes : List (Handle × Bytes) → Nat
  | [] => 0
  | entry :: entries => entry.2.toNat + sumSizes entries

/-- The exact sum of all sizes. -/
def total (m : HandleMap) : Nat := sumSizes m.entries

/-- A sum does not depend on the order of the entries. -/
theorem sumSizes_perm {xs ys : List (Handle × Bytes)} (perm : xs.Perm ys) :
    sumSizes xs = sumSizes ys := by
  induction perm with
  | nil => rfl
  | cons entry _ ih => simp only [sumSizes, ih]
  | swap x y rest =>
      simp only [sumSizes]
      omega
  | trans _ _ first second => exact first.trans second

/-- The sizes of two lists of entries add up. -/
theorem sumSizes_append (xs ys : List (Handle × Bytes)) :
    sumSizes (xs ++ ys) = sumSizes xs + sumSizes ys := by
  induction xs with
  | nil => simp [sumSizes]
  | cons entry xs ih =>
      simp only [List.cons_append, sumSizes, ih]
      omega

/-- Some of the entries are no larger than all of them. -/
theorem sumSizes_le_of_sublist {xs ys : List (Handle × Bytes)} (h : xs.Sublist ys) :
    sumSizes xs ≤ sumSizes ys := by
  induction h with
  | slnil => exact Nat.le_refl _
  | cons entry _ ih => exact Nat.le_trans ih (Nat.le_add_left _ _)
  | cons_cons entry _ ih => exact Nat.add_le_add_left ih _

@[simp] theorem size_empty : empty.size = 0 := rfl

@[simp] theorem total_empty : empty.total = 0 := rfl

@[simp] theorem find?_empty (h : Handle) : empty.find? h = none := rfl

/-- What is put in is found. -/
@[simp] theorem find?_insert_self (m : HandleMap) (h : Handle) (n : Bytes) :
    (m.insert h n).find? h = some n := by
  simp [find?, insert]

/-- Taking `h` out does not touch the others. -/
theorem find?_erase_of_ne (m : HandleMap) {h k : Handle} (ne : k ≠ h) :
    (m.erase h).find? k = m.find? k := by
  simp only [find?, erase, List.find?_filter]
  congr 2
  funext entry
  by_cases same : entry.1 = k
  · simp [same, ne]
  · simp [same]

/-- What was taken out is not found. -/
@[simp] theorem find?_erase_self (m : HandleMap) (h : Handle) : (m.erase h).find? h = none := by
  simp [find?, erase]

/-- Putting in `h` does not touch the others. -/
theorem find?_insert_of_ne (m : HandleMap) {h k : Handle} (n : Bytes) (ne : k ≠ h) :
    (m.insert h n).find? k = m.find? k := by
  have skip : ¬ h = k := fun same => ne same.symm
  have others := m.find?_erase_of_ne ne
  simp only [find?] at others
  simp [find?, insert, skip, others]

/-- Where `h` is not found, taking it out changes nothing. -/
theorem erase_of_find?_eq_none {m : HandleMap} {h : Handle} (absent : m.find? h = none) :
    m.erase h = m := by
  obtain ⟨entries, nodup⟩ := m
  simp only [find?, Option.map_eq_none_iff, List.find?_eq_none, beq_iff_eq] at absent
  simp only [erase, HandleMap.mk.injEq, List.filter_eq_self, bne_iff_ne, ne_eq]
  exact absent

/-- The entries are those of `h` and the others. -/
theorem entries_perm_of_find? {m : HandleMap} {h : Handle} {n : Bytes}
    (found : m.find? h = some n) : m.entries.Perm ((h, n) :: (m.erase h).entries) := by
  obtain ⟨entries, nodup⟩ := m
  simp only [find?, erase] at found ⊢
  induction entries with
  | nil => simp at found
  | cons entry rest ih =>
      obtain ⟨k, s⟩ := entry
      rw [List.map_cons, List.nodup_cons] at nodup
      by_cases same : k = h
      · subst same
        simp only [List.find?_cons, beq_self_eq_true, Option.map_some, Option.some.injEq] at found
        subst found
        have keep : rest.filter (fun entry => entry.1 != k) = rest := by
          rw [List.filter_eq_self]
          intro entry member
          simp only [bne_iff_ne, ne_eq]
          intro same
          exact nodup.1 (List.mem_map.2 ⟨entry, member, same⟩)
        simp [keep]
      · have step : (k == h) = false := by simpa using same
        simp only [List.find?_cons, step] at found
        have tail := ih nodup.2 found
        simp only [List.filter_cons, bne_iff_ne, ne_eq, same, not_false_eq_true, if_true]
        exact (tail.cons _).trans (List.Perm.swap _ _ _)

/-- The entries are that of `h`, if there is one, and the others. -/
theorem entries_perm_erase (m : HandleMap) (h : Handle) :
    m.entries.Perm (((m.find? h).map fun n => (h, n)).toList ++ (m.erase h).entries) := by
  cases found : m.find? h with
  | none => rw [erase_of_find?_eq_none found]; exact .refl _
  | some n => exact entries_perm_of_find? found

/-- An entry is what is found under its handle. -/
theorem mem_entries_iff {m : HandleMap} {h : Handle} {n : Bytes} :
    (h, n) ∈ m.entries ↔ m.find? h = some n := by
  constructor
  · intro member
    cases found : m.find? h with
    | none =>
      simp only [find?, Option.map_eq_none_iff, List.find?_eq_none, beq_iff_eq] at found
      exact absurd rfl (found (h, n) member)
    | some other =>
      have here := (entries_perm_of_find? found).mem_iff.1 member
      rcases List.mem_cons.1 here with same | later
      · rw [(Prod.mk.inj same).2]
      · simp [erase] at later
  · intro found
    exact (entries_perm_of_find? found).mem_iff.2 (by simp)

/-- Maps with the same entries find the same. -/
theorem find?_eq_of_perm {m k : HandleMap} (perm : m.entries.Perm k.entries) (h : Handle) :
    m.find? h = k.find? h := by
  cases found : k.find? h with
  | some n => exact mem_entries_iff.1 (perm.mem_iff.2 (mem_entries_iff.2 found))
  | none =>
    cases other : m.find? h with
    | none => rfl
    | some n =>
      have there := mem_entries_iff.1 (perm.mem_iff.1 (mem_entries_iff.2 other))
      rw [found] at there
      contradiction

/-- Putting in a handle that is not found adds its entry. -/
theorem entries_insert_of_find?_eq_none {m : HandleMap} {h : Handle} (n : Bytes)
    (absent : m.find? h = none) : (m.insert h n).entries = (h, n) :: m.entries := by
  simp [insert, erase_of_find?_eq_none absent]

/-- Taking out an entry takes its size from the sum. -/
theorem total_erase {m : HandleMap} {h : Handle} {n : Bytes} (found : m.find? h = some n) :
    (m.erase h).total + n.toNat = m.total := by
  rw [total, total, sumSizes_perm (entries_perm_of_find? found), sumSizes, Nat.add_comm]

/-- Taking out an entry leaves one fewer. -/
theorem size_erase {m : HandleMap} {h : Handle} {n : Bytes} (found : m.find? h = some n) :
    (m.erase h).size + 1 = m.size :=
  (entries_perm_of_find? found).length_eq.symm

/-- Putting in a size adds it to the sum and takes out what it replaces. -/
theorem total_insert (m : HandleMap) (h : Handle) (n : Bytes) :
    (m.insert h n).total + ((m.find? h).map UInt64.toNat).getD 0 = m.total + n.toNat := by
  have head : (m.insert h n).total = n.toNat + (m.erase h).total := rfl
  cases found : m.find? h with
  | none =>
      rw [head, erase_of_find?_eq_none found]
      simp [Nat.add_comm]
  | some old =>
      have rest := total_erase found
      simp only [Option.map_some, Option.getD_some]
      omega

/-- Putting in a size adds a handle unless it replaces one. -/
theorem size_insert (m : HandleMap) (h : Handle) (n : Bytes) :
    (m.insert h n).size = if (m.find? h).isSome then m.size else m.size + 1 := by
  have head : (m.insert h n).size = (m.erase h).size + 1 := by simp [size, insert]
  cases found : m.find? h with
  | none => rw [head, erase_of_find?_eq_none found]; rfl
  | some old => rw [head, size_erase found]; rfl

end HandleMap

end DeviceQuota
