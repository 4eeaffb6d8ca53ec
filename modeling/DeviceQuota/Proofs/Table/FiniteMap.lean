import DeviceQuota.Table
import Mathlib.Algebra.BigOperators.Group.Finset.Basic
import Mathlib.Algebra.GroupWithZero.Nat
import Mathlib.Data.List.Induction

/-!
# The table as a finite map

Slots are promised, filled and given back, whole entries go in and out, and some operations are
refused. To whoever looks for a handle all this comes to one thing: a handle has the size that was
last stored for it, until that is taken out. The promised slots decide only who is refused, and a
refused operation leaves no trace.

* **`Table.HasSlot`** — a new entry has room;
* **`Table.Move`** — what each operation answers and does, and **`Table.move_perform`**;
* **`Table.after`**, **`Table.trace`** — a sequence of operations, and what they answered;
* **`Table.LastStored`** — the size last stored for a handle, told from the answers alone, and
  **`Table.find?_iff_of_move`**, what one operation does to it;
* **`HandleMap.toNat_foldl_plus`** — a sum that stops at the largest byte count is the exact one,
  cut off, in whatever order it is formed;
* **`Table.is_finite_map`** — every sequence of operations.
-/

namespace DeviceQuota

/-! ### Handles and sums -/

namespace HandleMap

/-- The handles that have a size. -/
def handles (m : HandleMap) : Finset Handle := (m.entries.map Prod.fst).toFinset

theorem mem_handles_iff {m : HandleMap} {h : Handle} :
    h ∈ m.handles ↔ ∃ n, m.find? h = some n := by
  simp [handles, ← mem_entries_iff]

theorem card_handles (m : HandleMap) : m.handles.card = m.size := by
  rw [handles, List.toFinset_card_of_nodup m.nodup, List.length_map]
  rfl

theorem sumSizes_eq_sum (entries : List (Handle × Bytes)) :
    sumSizes entries = (entries.map fun entry => entry.2.toNat).sum := by
  induction entries with
  | nil => rfl
  | cons entry entries ih => rw [sumSizes, ih, List.map_cons, List.sum_cons]

/-- The sum over the entries is the sum over the handles. -/
theorem sum_handles (m : HandleMap) :
    ∑ h ∈ m.handles, ((m.find? h).getD 0).toNat = m.total := by
  rw [handles, List.sum_toFinset _ m.nodup, List.map_map, total, sumSizes_eq_sum]
  refine congrArg List.sum (List.map_congr_left fun entry hmem => ?_)
  have hfound : m.find? entry.1 = some entry.2 := mem_entries_iff.1 hmem
  simp [hfound]

/-- **Where a sum stops does not depend on the order.** Adding up sizes one after the other, stopping
at the largest byte count, gives the exact sum, cut off. -/
theorem toNat_foldl_plus (entries : List (Handle × Bytes)) (start : Bytes) :
    (entries.foldl (fun sum entry => sum.plus entry.2) start).toNat
      = min (2 ^ 64 - 1) (start.toNat + sumSizes entries) := by
  have hsize : UInt64.size = 2 ^ 64 := rfl
  induction entries generalizing start with
  | nil =>
    have hword : start.toNat < 2 ^ 64 := start.toNat_lt
    simp only [List.foldl_nil, sumSizes]
    omega
  | cons entry entries ih =>
    have hfirst := Bytes.toNat_plus start entry.2
    rw [List.foldl_cons, ih, hfirst, sumSizes, Bytes.greatest]
    split <;> omega

end HandleMap

namespace Table

/-! ### One operation -/

/-- One more slot is neither filled nor promised. -/
def HasSlot (t : Table) : Prop := ∀ slots, t.capacity = some slots → t.occupied < slots

/-- What an operation answers, and what it does to the sizes that are found and to the promised
slots. A refused operation does nothing at all. -/
inductive Move (t : Table) : Operation → Answer → Table → Prop
  | promised {u : Table} (hslot : t.HasSlot) (hsizes : u.find? = t.find?)
      (hreserved : u.reserved = t.reserved + 1) (hcapacity : u.capacity = t.capacity) :
      Move t .reserve .done u
  | unpromised {slots : Nat} (hbound : t.capacity = some slots) (hfull : slots ≤ t.occupied) :
      Move t .reserve (.full ⟨slots⟩) t
  | cancelled {u : Table} (hsizes : u.find? = t.find?) (hreserved : u.reserved = t.reserved - 1)
      (hcapacity : u.capacity = t.capacity) :
      Move t .cancel .done u
  | filled {h : Handle} {n : Bytes} {u : Table}
      (hsizes : u.find? = Function.update t.find? h (some n))
      (hreserved : u.reserved = t.reserved - 1) (hcapacity : u.capacity = t.capacity) :
      Move t (.fill h n) (.size? (t.find? h)) u
  | inserted {h : Handle} {n : Bytes} {u : Table} (hroom : t.find? h ≠ none ∨ t.HasSlot)
      (hsizes : u.find? = Function.update t.find? h (some n))
      (hreserved : u.reserved = t.reserved) (hcapacity : u.capacity = t.capacity) :
      Move t (.insert h n) (.replaced (t.find? h)) u
  | rejected {h : Handle} {n : Bytes} {slots : Nat} (habsent : t.find? h = none)
      (hbound : t.capacity = some slots) (hfull : slots ≤ t.occupied) :
      Move t (.insert h n) (.full ⟨slots⟩) t
  | found {h : Handle} : Move t (.find h) (.size? (t.find? h)) t
  | taken {h : Handle} {u : Table} (hsizes : u.find? = Function.update t.find? h none)
      (hreserved : u.reserved = t.reserved) (hcapacity : u.capacity = t.capacity) :
      Move t (.take h) (.taken h (t.find? h)) u
  | removed {h : Handle} {u : Table} (hsizes : u.find? = Function.update t.find? h none)
      (hreserved : u.reserved = t.reserved) (hcapacity : u.capacity = t.capacity) :
      Move t (.remove h) (.size ((t.find? h).getD 0)) u

variable {t u : Table} {o : Operation} {answer : Answer}

theorem reserve?_of_hasSlot (hslot : t.HasSlot) :
    t.reserve? = .ok { t with reserved := t.reserved + 1 } :=
  reserve?_eq_ok_iff.2 ⟨hslot, rfl⟩

theorem reserve?_cases (t : Table) :
    t.HasSlot ∨ ∃ slots, t.capacity = some slots ∧ slots ≤ t.occupied ∧
      t.reserve? = .error ⟨slots⟩ := by
  cases hbound : t.capacity with
  | none => exact .inl fun slots hslots => by simp [hbound] at hslots
  | some slots =>
    by_cases hroom : t.occupied < slots
    · left
      intro other hother
      rw [hbound] at hother
      rwa [← Option.some.inj hother]
    · refine .inr ⟨slots, rfl, Nat.not_lt.1 hroom, ?_⟩
      simp [reserve?, hbound, hroom]

/-- A live handle needs no slot. -/
theorem insert?_of_live {h : Handle} (n : Bytes) (hlive : t.find? h ≠ none) :
    t.insert? h n = .ok (t.find? h, { t with live := t.live.insert h n }) :=
  if_pos (Option.isSome_iff_ne_none.2 hlive)

/-- A new handle fills the slot that was just promised, so that as many are promised as before. -/
theorem insert?_of_hasSlot {h : Handle} (n : Bytes) (habsent : t.find? h = none)
    (hslot : t.HasSlot) :
    t.insert? h n = .ok (t.find? h, { t with live := t.live.insert h n }) := by
  simp only [insert?, habsent, Option.isSome_none, Bool.false_eq_true, if_false,
    reserve?_of_hasSlot hslot]
  rw [← habsent]
  rfl

theorem insert?_of_full {h : Handle} (n : Bytes) {full : TableFull} (habsent : t.find? h = none)
    (hrefused : t.reserve? = .error full) : t.insert? h n = .error full := by
  simp only [insert?, habsent, Option.isSome_none, Bool.false_eq_true, if_false, hrefused]

/-- The sizes that are found when an entry was put in. -/
theorem find?_live_insert (m : HandleMap) (h : Handle) (n : Bytes) :
    (m.insert h n).find? = Function.update m.find? h (some n) := by
  funext k
  by_cases hsame : k = h
  · rw [hsame, Function.update_self, HandleMap.find?_insert_self]
  · rw [Function.update_of_ne hsame, HandleMap.find?_insert_of_ne m n hsame]

/-- The sizes that are found when an entry was taken out. -/
theorem find?_live_erase (m : HandleMap) (h : Handle) :
    (m.erase h).find? = Function.update m.find? h none := by
  funext k
  by_cases hsame : k = h
  · rw [hsame, Function.update_self, HandleMap.find?_erase_self]
  · rw [Function.update_of_ne hsame, HandleMap.find?_erase_of_ne m hsame]

/-- **Every operation is one of the moves.** -/
theorem move_perform (t : Table) (o : Operation) : t.Move o (t.perform o).1 (t.perform o).2 := by
  cases o with
  | reserve =>
    rcases t.reserve?_cases with hslot | ⟨slots, hbound, hfull, hrefused⟩
    · simp only [perform, reserve?_of_hasSlot hslot]
      exact .promised hslot rfl rfl rfl
    · simp only [perform, hrefused]
      exact .unpromised hbound hfull
  | cancel => exact .cancelled rfl rfl rfl
  | fill h n => exact .filled (find?_live_insert t.live h n) rfl rfl
  | insert h n =>
    by_cases hlive : t.find? h = none
    · rcases t.reserve?_cases with hslot | ⟨slots, hbound, hfull, hrefused⟩
      · simp only [perform, insert?_of_hasSlot n hlive hslot]
        exact .inserted (.inr hslot) (find?_live_insert t.live h n) rfl rfl
      · simp only [perform, insert?_of_full n hlive hrefused]
        exact .rejected hlive hbound hfull
    · simp only [perform, insert?_of_live n hlive]
      exact .inserted (.inl hlive) (find?_live_insert t.live h n) rfl rfl
  | find h => exact .found
  | take h => exact .taken (find?_live_erase t.live h) rfl rfl
  | remove h => exact .removed (find?_live_erase t.live h) rfl rfl

theorem capacity_of_move (hmove : t.Move o answer u) : u.capacity = t.capacity := by
  cases hmove with
  | promised _ _ _ hcapacity | inserted _ _ _ hcapacity => exact hcapacity
  | cancelled _ _ hcapacity | filled _ _ hcapacity | taken _ _ hcapacity
  | removed _ _ hcapacity => exact hcapacity
  | unpromised | rejected | found => rfl

/-! ### What was stored last -/

/-- An operation stored `n` for `h`: a slot was filled, or an entry was put in and not refused. -/
inductive Stores (h : Handle) (n : Bytes) : Operation × Answer → Prop
  | filled (answer : Answer) : Stores h n (.fill h n, answer)
  | inserted (old : Option Bytes) : Stores h n (.insert h n, .replaced old)

/-- An operation took out what there was for `h`. -/
inductive TakesOut (h : Handle) : Operation × Answer → Prop
  | taken (answer : Answer) : TakesOut h (.take h, answer)
  | removed (answer : Answer) : TakesOut h (.remove h, answer)

/-- Nothing was stored for `h`, and nothing was taken out. -/
def Spares (h : Handle) (deed : Operation × Answer) : Prop :=
  ¬TakesOut h deed ∧ ∀ n, ¬Stores h n deed

/-- Of some operations, one stored `n` for `h`, and all after it spared `h`. -/
def LastStored (h : Handle) (n : Bytes) (deeds : List (Operation × Answer)) : Prop :=
  ∃ earlier deed later, deeds = earlier ++ deed :: later ∧ Stores h n deed ∧
    ∀ other ∈ later, Spares h other

variable {h k : Handle} {m n : Bytes} {deeds : List (Operation × Answer)}
  {deed : Operation × Answer}

/-- An operation stores one size for one handle. -/
theorem Stores.unique (hfirst : Stores h n deed) (hsecond : Stores k m deed) : h = k ∧ n = m := by
  cases hfirst <;> cases hsecond <;> exact ⟨rfl, rfl⟩

theorem Stores.not_takesOut (hstores : Stores h n deed) : ¬TakesOut k deed := by
  cases hstores <;> rintro ⟨⟩

theorem Stores.spares_of_ne (hstores : Stores k m deed) (hne : h ≠ k) : Spares h deed :=
  ⟨hstores.not_takesOut, fun _ hother => hne (hother.unique hstores).1⟩

theorem TakesOut.spares_of_ne (htakes : TakesOut k deed) (hne : h ≠ k) : Spares h deed := by
  refine ⟨?_, fun _ hstores => hstores.not_takesOut htakes⟩
  intro hother
  cases htakes <;> cases hother <;> exact hne rfl

theorem not_lastStored_nil : ¬LastStored h n [] := by
  rintro ⟨earlier, deed, later, hdeeds, -, -⟩
  simp at hdeeds

/-- One more operation stores the size, or spares what was stored before. -/
theorem lastStored_concat_iff :
    LastStored h n (deeds ++ [deed]) ↔
      Stores h n deed ∨ LastStored h n deeds ∧ Spares h deed := by
  constructor
  · rintro ⟨earlier, first, later, hdeeds, hstores, hspares⟩
    rcases List.eq_nil_or_concat' later with rfl | ⟨init, last, rfl⟩
    · obtain ⟨-, hlast⟩ := List.append_inj' hdeeds rfl
      obtain ⟨rfl, -⟩ := List.cons.inj hlast
      exact .inl hstores
    · rw [← List.cons_append, ← List.append_assoc] at hdeeds
      obtain ⟨rfl, hlast⟩ := List.append_inj' hdeeds rfl
      obtain ⟨rfl, -⟩ := List.cons.inj hlast
      refine .inr ⟨⟨earlier, first, init, rfl, hstores, fun other hmem => ?_⟩, ?_⟩
      · exact hspares other (List.mem_append_left _ hmem)
      · exact hspares deed (by simp)
  · rintro (hstores | ⟨⟨earlier, first, later, rfl, hstores, hspares⟩, hlast⟩)
    · exact ⟨deeds, deed, [], rfl, hstores, by simp⟩
    · refine ⟨earlier, first, later ++ [deed], by simp, hstores, fun other hmem => ?_⟩
      rcases List.mem_append.1 hmem with hbefore | hend
      · exact hspares other hbefore
      · rwa [List.mem_singleton.1 hend]

/-! ### What is found -/

/-- A handle that is spared keeps its size. -/
theorem find?_iff_of_spares (hsame : u.find? h = t.find? h) (hspares : Spares h deed) :
    u.find? h = some n ↔ Stores h n deed ∨ t.find? h = some n ∧ Spares h deed := by
  rw [hsame]
  constructor
  · intro hfound
    exact .inr ⟨hfound, hspares⟩
  · rintro (hstores | ⟨hfound, -⟩)
    · exact absurd hstores (hspares.2 n)
    · exact hfound

/-- A handle that a size was stored for has that size. -/
theorem find?_iff_of_stores (hsizes : u.find? = Function.update t.find? k (some m))
    (hstores : Stores k m deed) :
    u.find? h = some n ↔ Stores h n deed ∨ t.find? h = some n ∧ Spares h deed := by
  by_cases hsame : h = k
  · subst hsame
    rw [hsizes, Function.update_self]
    constructor
    · intro hfound
      rw [← Option.some.inj hfound]
      exact .inl hstores
    · rintro (hother | ⟨-, hspares⟩)
      · rw [(hother.unique hstores).2]
      · exact absurd hstores (hspares.2 m)
  · refine find?_iff_of_spares ?_ (hstores.spares_of_ne hsame)
    rw [hsizes, Function.update_of_ne hsame]

/-- A handle whose size was taken out has none. -/
theorem find?_iff_of_takesOut (hsizes : u.find? = Function.update t.find? k none)
    (htakes : TakesOut k deed) :
    u.find? h = some n ↔ Stores h n deed ∨ t.find? h = some n ∧ Spares h deed := by
  by_cases hsame : h = k
  · subst hsame
    rw [hsizes, Function.update_self]
    constructor
    · intro hfound
      contradiction
    · rintro (hstores | ⟨-, hspares⟩)
      · exact absurd htakes hstores.not_takesOut
      · exact absurd htakes hspares.1
  · refine find?_iff_of_spares ?_ (htakes.spares_of_ne hsame)
    rw [hsizes, Function.update_of_ne hsame]

/-- **One operation.** A size is found afterwards if the operation stored it, or spared it. -/
theorem find?_iff_of_move (hmove : t.Move o answer u) :
    u.find? h = some n ↔
      Stores h n (o, answer) ∨ t.find? h = some n ∧ Spares h (o, answer) := by
  cases hmove with
  | promised _ hsizes | cancelled hsizes =>
    exact find?_iff_of_spares (congrFun hsizes h) ⟨by rintro ⟨⟩, by rintro _ ⟨⟩⟩
  | unpromised | rejected | found => exact find?_iff_of_spares rfl ⟨by rintro ⟨⟩, by rintro _ ⟨⟩⟩
  | filled hsizes => exact find?_iff_of_stores hsizes (.filled _)
  | inserted _ hsizes => exact find?_iff_of_stores hsizes (.inserted _)
  | taken hsizes => exact find?_iff_of_takesOut hsizes (.taken _)
  | removed hsizes => exact find?_iff_of_takesOut hsizes (.removed _)

/-! ### Every sequence of operations -/

/-- The table after operations, one after the other. -/
def after (t : Table) (operations : List Operation) : Table :=
  operations.foldl (fun t o => (t.perform o).2) t

/-- Operations with their answers, one after the other. -/
def trace (t : Table) : List Operation → List (Operation × Answer)
  | [] => []
  | o :: operations => (o, (t.perform o).1) :: (t.perform o).2.trace operations

theorem after_concat (t : Table) (operations : List Operation) (o : Operation) :
    t.after (operations ++ [o]) = ((t.after operations).perform o).2 := by
  rw [after, List.foldl_append]
  rfl

theorem trace_concat (t : Table) (operations : List Operation) (o : Operation) :
    t.trace (operations ++ [o])
      = t.trace operations ++ [(o, ((t.after operations).perform o).1)] := by
  induction operations generalizing t with
  | nil => rfl
  | cons first operations ih =>
    show (first, (t.perform first).1) :: (t.perform first).2.trace (operations ++ [o]) = _
    rw [ih]
    rfl

/-- Promised slots are counted one by one. -/
theorem reserved_le_of_move (h : t.Move o answer u) : u.reserved ≤ t.reserved + 1 := by
  cases h with
  | promised hslot hsizes hreserved => exact Nat.le_of_eq hreserved
  | cancelled hsizes hreserved | filled hsizes hreserved => omega
  | inserted hroom hsizes hreserved => omega
  | taken hsizes hreserved | removed hsizes hreserved => omega
  | unpromised | rejected | found => exact Nat.le_succ _

theorem reserved_after_le (t : Table) (operations : List Operation) :
    (t.after operations).reserved ≤ t.reserved + operations.length := by
  induction operations using List.reverseRecOn with
  | nil => exact Nat.le_refl _
  | append_singleton operations o ih =>
    have hlast := reserved_le_of_move (move_perform (t.after operations) o)
    rw [after_concat, List.length_append, List.length_singleton]
    omega

theorem capacity_after (t : Table) (operations : List Operation) :
    (t.after operations).capacity = t.capacity := by
  induction operations using List.reverseRecOn with
  | nil => rfl
  | append_singleton operations o ih =>
    rw [after_concat]
    exact (capacity_of_move (move_perform _ o)).trans ih

/-- What is found is what was stored last. -/
theorem find?_after_iff (capacity : Option Nat) (operations : List Operation) :
    ((new capacity).after operations).find? h = some n ↔
      LastStored h n ((new capacity).trace operations) := by
  induction operations using List.reverseRecOn with
  | nil => exact iff_of_false (by simp [after, find?]) not_lastStored_nil
  | append_singleton operations o ih =>
    rw [after_concat, trace_concat, lastStored_concat_iff, ← ih]
    exact find?_iff_of_move (move_perform _ o)

/-- **The table is a finite map.** After any sequence of operations on a new table, of whatever
capacity, a handle has the size that was last stored for it and not taken out since; no handle has
two entries, and there are as many entries as handles with a size; the live bytes are the exact sum
of their sizes, cut off at the largest byte count, and it makes no difference in which order the
entries are gone through. Every further operation answers the size that its handle has, and changes
what is found for that handle alone; it is refused exactly if it needs a slot and none is left, and
then changes nothing. -/
theorem is_finite_map (capacity : Option Nat) (operations : List Operation) :
    let t := (new capacity).after operations
    let deeds := (new capacity).trace operations
    t.capacity = capacity ∧
      (∀ h n, t.find? h = some n ↔ LastStored h n deeds) ∧
      (t.live.entries.map Prod.fst).Nodup ∧
      (∃ live : Finset Handle,
        (∀ h, h ∈ live ↔ ∃ n, LastStored h n deeds) ∧
        t.size = live.card ∧
        t.liveBytes.toNat = min (2 ^ 64 - 1) (∑ h ∈ live, ((t.find? h).getD 0).toNat)) ∧
      (∀ order : List (Handle × Bytes), order.Perm t.live.entries →
        order.foldl (fun sum entry => sum.plus entry.2) 0 = t.liveBytes) ∧
      ∀ o, t.Move o (t.perform o).1 (t.perform o).2 := by
  intro t deeds
  have hfound : ∀ h n, t.find? h = some n ↔ LastStored h n deeds := fun h n =>
    find?_after_iff capacity operations
  have hsum : ∀ order : List (Handle × Bytes), order.Perm t.live.entries →
      (order.foldl (fun (sum : Bytes) entry => sum.plus entry.2) 0).toNat
        = min (2 ^ 64 - 1) t.live.total := by
    intro order hperm
    rw [HandleMap.toNat_foldl_plus, HandleMap.sumSizes_perm hperm]
    exact congrArg _ (Nat.zero_add _)
  refine ⟨capacity_after _ operations, hfound, t.live.nodup, ⟨t.live.handles, ?_, ?_, ?_⟩, ?_,
    t.move_perform⟩
  · intro h
    rw [HandleMap.mem_handles_iff]
    exact exists_congr (hfound h)
  · exact t.live.card_handles.symm
  · have hlive := t.live.sum_handles
    rw [← hlive] at hsum
    exact hsum _ (.refl _)
  · intro order hperm
    exact UInt64.toNat_inj.1 ((hsum order hperm).trans (hsum _ (.refl _)).symm)

/-- A table of one slot: a new handle is refused while the slot is filled, but the live one may come
back with another size. -/
example :
    ((new (some 1)).trace [.insert 16 4, .insert 32 4, .insert 16 9, .take 16, .remove 16]).map
        Prod.snd
      = [.replaced none, .full ⟨1⟩, .replaced (some 4), .taken 16 (some 9), .size 0] := by
  decide

end Table

end DeviceQuota
