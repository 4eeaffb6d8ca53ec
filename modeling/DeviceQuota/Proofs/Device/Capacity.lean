import DeviceQuota.Device
import DeviceQuota.History
import Mathlib.Algebra.GroupWithZero.Nat

/-!
# What a device holds

A device adds up what it grants in one word and looks at the sum, and it numbers its addresses with
another. As long as each sum fits into its word, and no address comes round to one that is still live,
the device holds its live sizes, within its capacity, and grants exactly what fits. An allocation
whose sum does not fit breaks off, and what the device says it holds is wrong from then on:
`sum_beyond_word_breaks_off`.

* **`Device.Move`** — the five things that a call can do;
* **`Device.Numbered`** — the addresses that were handed out, and **`Device.address_ne`**: the first
  2^43 of them differ;
* **`Device.Sound`** — the invariant, kept by each call;
* **`Device.holds_live_sizes`** — every history of calls.
-/

namespace DeviceQuota

namespace History

variable {State Action Output : Type} {step? : State → Action → Option (State × List Output)}

/-- The greatest value that a figure has in some states; zero for no state. -/
def greatest (f : State → Nat) : List State → Nat
  | [] => 0
  | s :: states => max (f s) (greatest f states)

theorem le_greatest_take_visited (step? : State → Action → Option (State × List Output))
    (f : State → Nat) (actions : List Action) (s : State) (n : Nat) :
    f s ≤ greatest f ((visited step? actions s).take (n + 1)) := by
  cases actions with
  | nil => exact Nat.le_max_left _ _
  | cons action actions => exact Nat.le_max_left _ _

/-- **The running maximum.** A figure `g` that every step raises to what `f` is after it, and never
otherwise, is the greatest `f` so far, whatever `g` was at the beginning apart. -/
theorem eq_max_greatest_of_along {f g : State → Nat} {actions : List Action} {s : State}
    (halong : Along step? (fun s _ after _ => g after = max (g s) (f after)) actions s)
    (hstart : f s ≤ g s) :
    ∀ n t, (visited step? actions s)[n]? = some t →
      g t = max (g s) (greatest f ((visited step? actions s).take (n + 1))) := by
  induction actions generalizing s with
  | nil =>
    intro n t hplace
    obtain ⟨rfl, rfl⟩ : n = 0 ∧ s = t := by
      cases n with
      | zero => exact ⟨rfl, Option.some.inj hplace⟩
      | succ n => simp [visited] at hplace
    simp only [visited, List.take, greatest]
    omega
  | cons action actions ih =>
    intro n t hplace
    cases n with
    | zero =>
      obtain rfl := Option.some.inj hplace
      simp only [visited, List.take, greatest]
      omega
    | succ n =>
      simp only [visited, List.getElem?_cons_succ, List.take_succ_cons] at hplace ⊢
      cases hhead : step? s action with
      | none => simp [hhead] at hplace
      | some moved =>
        obtain ⟨hraise, htail⟩ := halong moved hhead
        simp only [hhead, Option.elim_some] at hplace hraise ⊢
        have hlater := ih htail (by omega) n t hplace
        have hhere := le_greatest_take_visited step? f actions moved.1 n
        simp only [greatest]
        omega

end History

namespace Device

variable {d after : Device} {size n : Bytes} {handle : Handle} {call : Call} {calls : List Call}
  {answers : List Answer} {capacity : Bytes}

/-! ### What a call does -/

/-- The device after an allocation that it granted. -/
def granted (d : Device) (size : Bytes) : Device :=
  { d with
    next := d.next + alignment
    calls := d.calls + 1
    outstanding := d.outstanding + size
    highWater := d.highWater.larger (d.outstanding + size)
    live := d.live.insert d.next size }

theorem capacity_granted (d : Device) (size : Bytes) : (d.granted size).capacity = d.capacity := by
  rw [granted]

/-- The device after an allocation that it refused. -/
def refused (d : Device) : Device := { d with calls := d.calls + 1 }

/-- The device after an allocation that broke off. -/
def broken (d : Device) (size : Bytes) : Device :=
  { d with calls := d.calls + 1, outstanding := d.outstanding + size }

/-- The device after the release of a live address. -/
def freed (d : Device) (handle : Handle) (size : Bytes) : Device :=
  { d with outstanding := d.outstanding - size, live := d.live.erase handle }

/-- What a call does to a device, and what it answers. -/
inductive Move (d : Device) : Call → Device → List Answer → Prop where
  | granted {size : Bytes} (hfits : d.outstanding.toNat + size.toNat ≤ d.capacity.toNat) :
      Move d (.malloc size) (d.granted size) [.ok success]
  | refused {size : Bytes} (hfull : d.capacity.toNat < d.outstanding.toNat + size.toNat)
      (hsum : d.outstanding.toNat + size.toNat < UInt64.size) :
      Move d (.malloc size) d.refused [.ok outOfMemory]
  | brokeOff {size : Bytes} (hsum : UInt64.size ≤ d.outstanding.toNat + size.toNat) :
      Move d (.malloc size) (d.broken size) [.error .sumOverflow]
  | freed {handle : Handle} {size : Bytes} (hfound : d.live.find? handle = some size) :
      Move d (.free handle) (d.freed handle size) [.ok success]
  | unknown {handle : Handle} (habsent : d.live.find? handle = none) :
      Move d (.free handle) d [.ok invalidAddress]

theorem toNat_held (hsum : d.outstanding.toNat + size.toNat < UInt64.size) :
    (d.outstanding + size).toNat = d.outstanding.toNat + size.toNat := by
  rw [UInt64.toNat_add]
  exact Nat.mod_eq_of_lt hsum

/-- What fits into the capacity is granted. Such a sum fits into a word, too. -/
theorem malloc_of_fits (hfits : d.outstanding.toNat + size.toNat ≤ d.capacity.toNat) :
    d.malloc size = (.ok ⟨success, d.next⟩, d.granted size) := by
  have hsum : d.outstanding.toNat + size.toNat < UInt64.size :=
    Nat.lt_of_le_of_lt hfits d.capacity.toNat_lt
  rw [malloc, if_neg (Nat.not_le.2 hsum), toNat_held hsum, if_neg (Nat.not_lt.2 hfits)]
  rfl

/-- What does not fit is refused, if its sum fits into a word. -/
theorem malloc_of_full (hfull : d.capacity.toNat < d.outstanding.toNat + size.toNat)
    (hsum : d.outstanding.toNat + size.toNat < UInt64.size) :
    d.malloc size = (.ok ⟨outOfMemory, 0⟩, d.refused) := by
  rw [malloc, if_neg (Nat.not_le.2 hsum), toNat_held hsum, if_pos hfull]
  rfl

/-- What does not fit into a word breaks off. -/
theorem malloc_of_overflow (hsum : UInt64.size ≤ d.outstanding.toNat + size.toNat) :
    d.malloc size = (.error .sumOverflow, d.broken size) := by
  rw [malloc, if_pos hsum]
  rfl

theorem move_of_step? (h : d.step? call = some (after, answers)) : d.Move call after answers := by
  cases call with
  | malloc size =>
    rcases Nat.lt_or_ge (d.outstanding.toNat + size.toNat) UInt64.size with hsum | hsum
    · rcases Nat.lt_or_ge d.capacity.toNat (d.outstanding.toNat + size.toNat) with hfull | hfits
      · rw [step?, malloc_of_full hfull hsum] at h
        obtain ⟨rfl, rfl⟩ := Prod.mk.inj (Option.some.inj h)
        exact .refused hfull hsum
      · rw [step?, malloc_of_fits hfits] at h
        obtain ⟨rfl, rfl⟩ := Prod.mk.inj (Option.some.inj h)
        exact .granted hfits
    · rw [step?, malloc_of_overflow hsum] at h
      obtain ⟨rfl, rfl⟩ := Prod.mk.inj (Option.some.inj h)
      exact .brokeOff hsum
  | free handle =>
    cases hfound : d.live.find? handle with
    | some size =>
      rw [step?, free_of_find?_eq_some hfound] at h
      obtain ⟨rfl, rfl⟩ := Prod.mk.inj (Option.some.inj h)
      exact .freed hfound
    | none =>
      rw [step?, free_of_find?_eq_none hfound] at h
      obtain ⟨rfl, rfl⟩ := Prod.mk.inj (Option.some.inj h)
      exact .unknown hfound

/-- A call counts at most one allocation. -/
theorem calls_le_of_move (h : d.Move call after answers) : after.calls ≤ d.calls + 1 := by
  cases h with
  | granted | refused | brokeOff => exact Nat.le_refl _
  | freed | unknown => exact Nat.le_succ _

/-- **The count of allocations** is no more than the calls. -/
theorem calls_le_of_run? (h : History.run? step? calls d = some (after, answers)) :
    after.calls ≤ d.calls + calls.length :=
  History.le_add_length_of_run? (f := Device.calls)
    (fun _ _ _ _ hstep => calls_le_of_move (move_of_step? hstep)) h

/-! ### Addresses -/

theorem toNat_address (grants : Nat) :
    (address grants).toNat = (0x7f0000000000 + grants * 0x200000) % 2 ^ 64 := by
  have hbase : baseAddress.toNat = 0x7f0000000000 := rfl
  have hstep : alignment.toNat = 0x200000 := rfl
  rw [address, UInt64.toNat_add, UInt64.toNat_mul, UInt64.toNat_ofNat', hbase, hstep]
  omega

theorem address_succ (grants : Nat) : address (grants + 1) = address grants + alignment := by
  have hstep : alignment.toNat = 0x200000 := rfl
  refine UInt64.toNat_inj.1 ?_
  rw [UInt64.toNat_add, toNat_address, toNat_address, hstep]
  omega

/-- Addresses come round after 2^43 grants, and not before. -/
theorem address_ne {i j : Nat} (hlt : i < j) (hnear : j < i + 2 ^ 43) : address i ≠ address j := by
  intro hsame
  have hword := congrArg UInt64.toNat hsame
  rw [toNat_address, toNat_address] at hword
  omega

theorem address_injOn {i j : Nat} (hi : i < 2 ^ 43) (hj : j < 2 ^ 43)
    (hsame : address i = address j) : i = j := by
  rcases Nat.lt_trichotomy i j with hlt | heq | hlt
  · exact absurd hsame (address_ne hlt (by omega))
  · exact heq
  · exact absurd hsame.symm (address_ne hlt (by omega))

/-- The null address is far off. -/
theorem address_ne_zero {grants : Nat} (hfew : grants < 2 ^ 42) : address grants ≠ 0 := by
  intro hnull
  have hword := congrArg UInt64.toNat hnull
  rw [toNat_address, UInt64.toNat_zero] at hword
  omega

/-- The device has granted `grants` allocations; what is live on it is among them. -/
structure Numbered (d : Device) (grants : Nat) : Prop where
  next_eq : d.next = address grants
  exists_of_live : ∀ handle size, d.live.find? handle = some size →
    ∃ i < grants, handle = address i

theorem numbered_new (capacity : Bytes) : (new capacity).Numbered 0 where
  next_eq := rfl
  exists_of_live := by simp [new]

namespace Numbered

variable {grants : Nat}

/-- The next address is not live before the addresses come round. -/
theorem find?_next (h : d.Numbered grants) (hfew : grants < 2 ^ 43) :
    d.live.find? d.next = none := by
  cases hfound : d.live.find? d.next with
  | none => rfl
  | some size =>
    obtain ⟨i, hlt, hsame⟩ := h.exists_of_live _ _ hfound
    rw [h.next_eq] at hsame
    exact absurd hsame.symm (address_ne hlt (by omega))

theorem after_grant (h : d.Numbered grants) (size : Bytes) :
    (d.granted size).Numbered (grants + 1) := by
  refine ⟨?_, ?_⟩
  · rw [address_succ, ← h.next_eq]
    rfl
  · intro handle n hfound
    by_cases hsame : handle = d.next
    · exact ⟨grants, Nat.lt_succ_self _, hsame.trans h.next_eq⟩
    · rw [granted, HandleMap.find?_insert_of_ne _ _ hsame] at hfound
      obtain ⟨i, hlt, heq⟩ := h.exists_of_live handle n hfound
      exact ⟨i, Nat.lt_succ_of_lt hlt, heq⟩

theorem after_free (h : d.Numbered grants) (handle : Handle) (size : Bytes) :
    (d.freed handle size).Numbered grants := by
  refine ⟨h.next_eq, ?_⟩
  intro other n hfound
  by_cases hsame : other = handle
  · rw [freed, hsame, HandleMap.find?_erase_self] at hfound
    contradiction
  · rw [freed, HandleMap.find?_erase_of_ne _ hsame] at hfound
    exact h.exists_of_live other n hfound

/-- A device grants at most one allocation with each call. -/
theorem of_move (h : d.Numbered grants) (hmove : d.Move call after answers) :
    ∃ more, more ≤ grants + 1 ∧ after.Numbered more := by
  cases hmove with
  | granted => exact ⟨grants + 1, Nat.le_refl _, h.after_grant _⟩
  | refused | brokeOff | unknown => exact ⟨grants, Nat.le_succ _, h.next_eq, h.exists_of_live⟩
  | freed => exact ⟨grants, Nat.le_succ _, h.after_free _ _⟩

end Numbered

/-- An allocation has an address ahead of it that is not live. -/
def NextFree (d : Device) : Call → Prop
  | .malloc _ => d.live.find? d.next = none
  | .free _ => True

theorem Numbered.nextFree {grants : Nat} (h : d.Numbered grants) (hfew : grants < 2 ^ 43)
    (call : Call) : d.NextFree call := by
  cases call with
  | malloc size => exact h.find?_next hfew
  | free handle => trivial

/-- So many calls do not bring the addresses round. -/
theorem nextFree_along {calls : List Call} {grants : Nat} (h : d.Numbered grants)
    (hfew : grants + calls.length ≤ 2 ^ 43) :
    History.Along step? (fun d call _ _ => d.NextFree call) calls d := by
  induction calls generalizing d grants with
  | nil => trivial
  | cons call calls ih =>
    intro moved hmoved
    rw [List.length_cons] at hfew
    obtain ⟨more, hmore, hnumbered⟩ := h.of_move (move_of_step? hmoved)
    exact ⟨h.nextFree (by omega) call, ih hnumbered (by omega)⟩

/-! ### Sums -/

/-- The sum of an allocation fits into a word. -/
def SumFits (d : Device) : Call → Prop
  | .malloc size => d.outstanding.toNat + size.toNat < UInt64.size
  | .free _ => True

instance (d : Device) : DecidablePred d.SumFits
  | .malloc _ => inferInstanceAs (Decidable (_ < _))
  | .free _ => inferInstanceAs (Decidable True)

instance (d : Device) : DecidablePred d.NextFree
  | .malloc _ => inferInstanceAs (Decidable (_ = _))
  | .free _ => inferInstanceAs (Decidable True)

theorem toNat_outstanding_granted (hfits : d.outstanding.toNat + size.toNat ≤ d.capacity.toNat) :
    (d.granted size).outstanding.toNat = d.outstanding.toNat + size.toNat := by
  have hword : d.capacity.toNat < UInt64.size := d.capacity.toNat_lt
  exact toNat_held (d := d) (by omega)

theorem total_granted (hfree : d.live.find? d.next = none) (size : Bytes) :
    (d.granted size).live.total = d.live.total + size.toNat := by
  have hsum := d.live.total_insert d.next size
  rw [hfree] at hsum
  exact hsum

theorem toNat_highWater_granted (d : Device) (size : Bytes) :
    (d.granted size).highWater.toNat
      = max d.highWater.toNat (d.granted size).outstanding.toNat := by
  have hlarger : (d.granted size).highWater = d.highWater.larger (d.granted size).outstanding := rfl
  rw [hlarger, Bytes.toNat_larger]
  split <;> omega

/-- A device that holds its live sizes, within its capacity. -/
structure Sound (capacity : Bytes) (d : Device) : Prop where
  capacity_eq : d.capacity = capacity
  outstanding_eq : d.outstanding.toNat = d.live.total
  outstanding_le : d.outstanding.toNat ≤ capacity.toNat
  le_highWater : d.outstanding.toNat ≤ d.highWater.toNat

theorem sound_new (capacity : Bytes) : (new capacity).Sound capacity :=
  ⟨rfl, rfl, Nat.zero_le _, Nat.le_refl _⟩

namespace Sound

theorem after_grant (h : d.Sound capacity) (hfree : d.live.find? d.next = none)
    (hfits : d.outstanding.toNat + size.toNat ≤ d.capacity.toNat) :
    (d.granted size).Sound capacity := by
  have hsum := toNat_outstanding_granted hfits
  have hhigh := d.toNat_highWater_granted size
  refine ⟨(capacity_granted d size).trans h.capacity_eq, ?_, ?_, ?_⟩
  · rw [hsum, total_granted hfree, h.outstanding_eq]
  · rw [hsum, ← h.capacity_eq]
    exact hfits
  · rw [hhigh]
    exact Nat.le_max_right _ _

/-- A live size is part of what is held, so that the difference does not wrap around. -/
theorem toNat_outstanding_freed (h : d.Sound capacity) (hfound : d.live.find? handle = some n) :
    (d.freed handle n).outstanding.toNat + n.toNat = d.outstanding.toNat := by
  have hpart := HandleMap.total_erase hfound
  have hle : n ≤ d.outstanding := by
    rw [UInt64.le_iff_toNat_le, h.outstanding_eq]
    omega
  have hdifference : (d.freed handle n).outstanding.toNat = d.outstanding.toNat - n.toNat :=
    UInt64.toNat_sub_of_le _ _ hle
  rw [UInt64.le_iff_toNat_le] at hle
  omega

theorem after_free (h : d.Sound capacity) (hfound : d.live.find? handle = some n) :
    (d.freed handle n).Sound capacity := by
  have hheld := h.toNat_outstanding_freed hfound
  have hpart : (d.freed handle n).live.total + n.toNat = d.live.total :=
    HandleMap.total_erase hfound
  have hsame := h.outstanding_eq
  have hle := h.outstanding_le
  have hhigh : d.outstanding.toNat ≤ (d.freed handle n).highWater.toNat := h.le_highWater
  exact ⟨h.capacity_eq, by omega, by omega, by omega⟩

/-- **One call** keeps a device sound if its sum fits into a word and no address comes round. -/
theorem of_move (h : d.Sound capacity) (hmove : d.Move call after answers)
    (hsum : d.SumFits call) (hfree : d.NextFree call) : after.Sound capacity := by
  cases hmove with
  | granted hfits => exact h.after_grant hfree hfits
  | refused | unknown => exact ⟨h.capacity_eq, h.outstanding_eq, h.outstanding_le, h.le_highWater⟩
  | brokeOff hoverflow => exact absurd hsum (Nat.not_lt.2 hoverflow)
  | freed hfound => exact h.after_free hfound

/-- A call that does not break off raises the high water to what is held after it. -/
theorem highWater_of_move (h : d.Sound capacity) (hmove : d.Move call after answers)
    (hsum : d.SumFits call) :
    after.highWater.toNat = max d.highWater.toNat after.outstanding.toNat := by
  have hhigh := h.le_highWater
  cases hmove with
  | @granted size => exact d.toNat_highWater_granted size
  | refused => exact (Nat.max_eq_left hhigh).symm
  | unknown => exact (Nat.max_eq_left hhigh).symm
  | brokeOff hoverflow => exact absurd hsum (Nat.not_lt.2 hoverflow)
  | @freed handle n hfound =>
    have hheld := h.toNat_outstanding_freed hfound
    show d.highWater.toNat = _
    omega

end Sound

/-! ### Every history -/

/-- What a call owes its caller: an allocation succeeds exactly if it fits beside what is held, and
else is refused and leaves nothing behind but its count; the release of an address that is not live
says so, and changes nothing. -/
def Answers (d : Device) : Call → Device → List Answer → Prop
  | .malloc size, after, answers =>
    (answers = [.ok success] ↔ d.outstanding.toNat + size.toNat ≤ d.capacity.toNat) ∧
      (answers ≠ [.ok success] →
        answers = [.ok outOfMemory] ∧ after = { d with calls := d.calls + 1 })
  | .free handle, after, answers =>
    d.live.find? handle = none → answers = [.ok invalidAddress] ∧ after = d

theorem answers_of_move (hmove : d.Move call after answers) (hsum : d.SumFits call) :
    d.Answers call after answers := by
  cases hmove with
  | granted hfits => exact ⟨iff_of_true rfl hfits, fun hfailed => absurd rfl hfailed⟩
  | refused hfull => exact ⟨iff_of_false nofun (Nat.not_le.2 hfull), fun _ => ⟨rfl, rfl⟩⟩
  | brokeOff hoverflow => exact absurd hsum (Nat.not_lt.2 hoverflow)
  | freed hfound =>
    intro habsent
    rw [habsent] at hfound
    contradiction
  | unknown => exact fun _ => ⟨rfl, rfl⟩

/-- **A device holds its live sizes, within its capacity.** Along every history of calls in which the
sum of each allocation fits into a word and no address comes round to one that is live — which takes
more than 2^43 calls — no call breaks off, the device holds exactly its live sizes and never more than
its capacity, its high water is the most that it ever held, and each call is answered as it should be.
-/
theorem holds_live_sizes (capacity : Bytes) (calls : List Call)
    (hsums : History.Along step? (fun d call _ _ => d.SumFits call) calls (new capacity))
    (haddresses : calls.length ≤ 2 ^ 43 ∨
      History.Along step? (fun d call _ _ => d.NextFree call) calls (new capacity)) :
    History.Always step?
      (fun d => d.capacity = capacity ∧ d.outstanding.toNat = d.live.total ∧
        d.outstanding.toNat ≤ capacity.toNat)
      calls (new capacity) ∧
    (∀ n d, (History.visited step? calls (new capacity))[n]? = some d →
      d.highWater.toNat = History.greatest (fun d => d.outstanding.toNat)
        ((History.visited step? calls (new capacity)).take (n + 1))) ∧
    History.Along step? Answers calls (new capacity) := by
  have hfree : History.Along step? (fun d call _ _ => d.NextFree call) calls (new capacity) :=
    haddresses.elim (fun hfew => nextFree_along (numbered_new capacity) (by omega)) id
  have hsound : History.Along step?
      (fun d call after answers => after.Sound capacity ∧
        after.highWater.toNat = max d.highWater.toNat after.outstanding.toNat ∧
        d.Answers call after answers) calls (new capacity) := by
    refine History.along_of_invariant (I := Sound capacity) ?_ calls (new capacity)
      (sound_new capacity) (hsums.and hfree)
    intro d call after answers hstep hinv ⟨hsum, hnext⟩
    have hmove := move_of_step? hstep
    have hafter := hinv.of_move hmove hsum hnext
    exact ⟨hafter, hafter, hinv.highWater_of_move hmove hsum, answers_of_move hmove hsum⟩
  refine ⟨⟨⟨rfl, rfl, Nat.zero_le _⟩, hsound.mono ?_⟩, ?_, hsound.mono ?_⟩
  · rintro d call after answers ⟨hafter, -, -⟩
    exact ⟨hafter.capacity_eq, hafter.outstanding_eq, hafter.outstanding_le⟩
  · intro n d hplace
    have hraised : History.Along step?
        (fun d _ after _ => after.highWater.toNat
          = max d.highWater.toNat after.outstanding.toNat) calls (new capacity) :=
      hsound.mono fun _ _ _ _ h => h.2.1
    have hmost := History.eq_max_greatest_of_along (f := fun d => d.outstanding.toNat)
      (g := fun d => d.highWater.toNat) hraised (Nat.le_refl _) n d hplace
    rw [hmost]
    exact Nat.max_eq_right (Nat.zero_le _)
  · intro d call after answers h
    exact h.2.2

/-- An allocation that does not fit, and two releases of one address. -/
def refusedCalls : List Call :=
  [.malloc 600, .malloc 600, .free baseAddress, .free baseAddress, .malloc 1000, .malloc 0]

theorem holds_live_sizes_refusedCalls :
    History.Along step? (fun d call _ _ => d.SumFits call) refusedCalls (new 1000) ∧
      refusedCalls.length ≤ 2 ^ 43 ∧
      History.Along step? Answers refusedCalls (new 1000) ∧
      ∃ d, (History.visited step? refusedCalls (new 1000))[6]? = some d ∧
        d.outstanding.toNat = 1000 ∧
        d.highWater.toNat = History.greatest (fun d => d.outstanding.toNat)
          (History.visited step? refusedCalls (new 1000)) := by
  have hsums : History.Along step? (fun d call _ _ => d.SumFits call) refusedCalls (new 1000) := by
    decide
  have hfew : refusedCalls.length ≤ 2 ^ 43 := by decide
  obtain ⟨-, hhigh, hanswers⟩ := holds_live_sizes 1000 refusedCalls hsums (.inl hfew)
  exact ⟨hsums, hfew, hanswers, _, rfl, rfl, hhigh 6 _ rfl⟩

/-- **An allocation beyond the words breaks off.** The device holds 600 of its 1000 bytes, and an
allocation of nearly all bytes of a word does not fit. It is not refused: it breaks off, and leaves
the sum behind, wrapped around to 499, while 600 bytes are live. -/
theorem sum_beyond_word_breaks_off :
    ∃ d, History.run? step? [.malloc 600] (new 1000) = some (d, [.ok success]) ∧
      d.outstanding.toNat = 600 ∧
      ¬d.outstanding.toNat + (18446744073709551515 : Bytes).toNat ≤ d.capacity.toNat ∧
      (d.malloc 18446744073709551515).1 = .error .sumOverflow ∧
      (d.malloc 18446744073709551515).2.outstanding.toNat = 499 ∧
      (d.malloc 18446744073709551515).2.live.total = 600 :=
  ⟨_, rfl, by decide, by decide, rfl, by decide, by decide⟩

end Device

end DeviceQuota
