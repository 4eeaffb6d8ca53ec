import DeviceQuota.Proofs.Size.FractionalQuantities
import DeviceQuota.Settings

/-!
# What an environment can ask for

Any text may stand in a variable, and most texts mean nothing. Two settings would be noticed late: a
quota of zero bytes, by which every request is refused, and a table without a bound. Both have to be
asked for. The quota is zero only if the text writes less than one byte, and the bound is taken away
only by its word and by a number of zeros; a text that is out of range leaves the standard bound.

The quota has one exception, which goes back to the digits of an exponent that are lost: a text with
65536 digits behind the point and an exponent that makes up for them is read as if the exponent were
smaller.

* **`IsCount`** — an optional `+` and digits; **`readWord?_of_isCount`** — what is read of it;
* **`AsksForCapacity`** — the capacity that a text means, and **`asksForCapacity_iff`**;
* **`ofLookup_fallbacks`** — what an environment can ask for, and **`ofLookup_fallbacks_shifted`**,
  where a large quota is read as zero.
-/

namespace DeviceQuota.Settings

open Size (AllDigits Numeral Quantity StartsNumber dropPlus eq_dropPlus_or toLower_of_isDigit
  written written_eq)

/-! ### Counts -/

/-- The text `cs` is an optional `+` and the digits `ds`. -/
def IsCount (cs ds : List Char) : Prop := ds ≠ [] ∧ AllDigits ds ∧ (cs = ds ∨ cs = '+' :: ds)

variable {cs ds : List Char}

/-- Reading takes an optional `+` away first. -/
theorem readWord?_eq (cs : List Char) :
    Text.readWord? cs =
      if (dropPlus cs).isEmpty || !(dropPlus cs).all Char.isDigit then none
      else if written (dropPlus cs) < 2 ^ 64 then some (UInt64.ofNat (written (dropPlus cs)))
      else none := by
  rw [written_eq]
  cases cs with
  | nil => rfl
  | cons c rest =>
    by_cases hplus : c = '+'
    · rw [hplus]
      rfl
    · have hdrop : dropPlus (c :: rest) = c :: rest := by simp [dropPlus, hplus]
      rw [hdrop]
      simp [Text.readWord?, hplus]

theorem IsCount.dropPlus_eq (h : IsCount cs ds) : dropPlus cs = ds := by
  obtain ⟨-, hdigits, rfl | rfl⟩ := h
  · unfold dropPlus
    split
    · exact absurd (hdigits '+' (by simp)) (by decide)
    · rfl
  · rfl

/-- A count is read if it is below 2^64. -/
theorem readWord?_of_isCount (h : IsCount cs ds) :
    Text.readWord? cs = if written ds < 2 ^ 64 then some (UInt64.ofNat (written ds)) else none := by
  have hsome : ds.isEmpty = false := by simpa using h.1
  have hall : ds.all Char.isDigit = true := List.all_eq_true.2 h.2.1
  rw [readWord?_eq, h.dropPlus_eq, hsome, hall]
  rfl

/-- Nothing else is read. -/
theorem readWord?_of_not_isCount (h : ∀ ds, ¬ IsCount cs ds) : Text.readWord? cs = none := by
  rw [readWord?_eq]
  refine if_pos ?_
  by_contra hcount
  simp only [Bool.or_eq_true, Bool.not_eq_true', not_or, Bool.not_eq_true, Bool.not_eq_false,
    List.isEmpty_eq_false_iff, List.all_eq_true] at hcount
  exact h _ ⟨hcount.1, hcount.2, eq_dropPlus_or cs⟩

/-- A count is not the word. -/
theorem IsCount.fold_ne (h : IsCount cs ds) : Text.fold cs ≠ "unbounded".toList := by
  intro hword
  obtain ⟨hsome, hdigits, rfl | rfl⟩ := h
  · obtain ⟨d, tail, rfl⟩ := List.exists_cons_of_ne_nil hsome
    have hd : d.isDigit = true := hdigits d (by simp)
    have hletter : d.toLower = 'u' := (List.cons.inj hword).1
    rw [toLower_of_isDigit hd] at hletter
    rw [hletter] at hd
    exact absurd hd (by decide)
  · exact absurd (List.cons.inj hword).1 (by decide)

theorem digitValue_eq_zero_iff {d : Char} (h : d.isDigit = true) :
    Text.digitValue d = 0 ↔ d = '0' := by
  constructor
  · intro hzero
    have hlow : 48 ≤ d.toNat := (Size.toNat_of_isDigit h).1
    have hzero' : d.toNat - 48 = 0 := hzero
    refine Char.toNat_inj.1 ?_
    show d.toNat = 48
    omega
  · rintro rfl
    rfl

/-- Zeros write zero, and nothing else does. -/
theorem written_eq_zero_iff (hdigits : AllDigits ds) : written ds = 0 ↔ ∀ d ∈ ds, d = '0' := by
  rw [written_eq]
  induction ds using List.reverseRecOn with
  | nil => simp
  | append_singleton ds d ih =>
    have hd := digitValue_eq_zero_iff (hdigits d (by simp))
    have hds := ih fun c hc => hdigits c (by simp [hc])
    rw [Text.digitsValue_concat, Nat.add_eq_zero_iff, hd, Nat.mul_eq_zero,
      or_iff_right (by decide), hds]
    simp [or_imp, forall_and]

/-! ### The capacity -/

/-- The tracking capacity that the text of a variable means, `none` for no bound. -/
inductive AsksForCapacity : Option String → Option ℕ → Prop
  | unset : AsksForCapacity none (some 65536)
  | word {raw : String} (h : Text.fold (Text.trim raw.toList) = "unbounded".toList) :
    AsksForCapacity (some raw) none
  | zeros {raw : String} {ds : List Char} (h : IsCount (Text.trim raw.toList) ds)
    (hzeros : ∀ d ∈ ds, d = '0') : AsksForCapacity (some raw) none
  | count {raw : String} {ds : List Char} (h : IsCount (Text.trim raw.toList) ds)
    (hlow : 1 ≤ written ds) (hhigh : written ds ≤ 2 ^ 64 - 1) :
    AsksForCapacity (some raw) (some (written ds))
  | other {raw : String} (hword : Text.fold (Text.trim raw.toList) ≠ "unbounded".toList)
    (hcount : ∀ ds, IsCount (Text.trim raw.toList) ds → 2 ^ 64 ≤ written ds) :
    AsksForCapacity (some raw) (some 65536)

/-- Every text means some capacity. -/
theorem exists_asksForCapacity (text : Option String) : ∃ capacity, AsksForCapacity text capacity := by
  cases text with
  | none => exact ⟨_, .unset⟩
  | some raw =>
    by_cases hword : Text.fold (Text.trim raw.toList) = "unbounded".toList
    · exact ⟨_, .word hword⟩
    · by_cases hcount : ∃ ds, IsCount (Text.trim raw.toList) ds ∧ written ds < 2 ^ 64
      · obtain ⟨ds, hds, hbelow⟩ := hcount
        rcases Nat.eq_zero_or_pos (written ds) with hzero | hpos
        · exact ⟨_, .zeros hds ((written_eq_zero_iff hds.2.1).1 hzero)⟩
        · exact ⟨_, .count hds hpos (by omega)⟩
      · refine ⟨_, .other hword fun ds hds => ?_⟩
        exact not_lt.1 fun hbelow => hcount ⟨ds, hds, hbelow⟩

theorem readCapacity_of_ne_word {raw : String}
    (h : Text.fold (Text.trim raw.toList) ≠ "unbounded".toList) :
    readCapacity raw =
      match Text.readWord? (Text.trim raw.toList) with
      | some n => if n = 0 then none else some n.toNat
      | none => some standardCapacity := by
  rw [readCapacity]
  exact if_neg (by simpa using h)

/-- The capacity that a text means is read. -/
theorem AsksForCapacity.capacity_eq {text : Option String} {capacity : Option ℕ}
    (h : AsksForCapacity text capacity) :
    (text.map readCapacity).getD (some standardCapacity) = capacity := by
  cases h with
  | unset => rfl
  | word h => exact if_pos (by simpa using h)
  | zeros h hzeros =>
    have hzero : written _ = 0 := (written_eq_zero_iff h.2.1).2 hzeros
    rw [Option.map_some, Option.getD_some, readCapacity_of_ne_word h.fold_ne,
      readWord?_of_isCount h, hzero]
    rfl
  | @count raw ds h hlow hhigh =>
    have hbelow : written ds < 2 ^ 64 := by omega
    have hnat : (UInt64.ofNat (written ds)).toNat = written ds := UInt64.toNat_ofNat_of_lt' hbelow
    have hne : UInt64.ofNat (written ds) ≠ 0 := by
      intro hzero
      rw [hzero] at hnat
      change 0 = _ at hnat
      omega
    rw [Option.map_some, Option.getD_some, readCapacity_of_ne_word h.fold_ne,
      readWord?_of_isCount h, if_pos hbelow]
    simp only [if_neg hne, hnat]
  | @other raw hword hcount =>
    have hnone : Text.readWord? (Text.trim raw.toList) = none := by
      by_cases h : ∃ ds, IsCount (Text.trim raw.toList) ds
      · obtain ⟨ds, hds⟩ := h
        rw [readWord?_of_isCount hds, if_neg (not_lt.2 (hcount ds hds))]
      · exact readWord?_of_not_isCount fun ds hds => h ⟨ds, hds⟩
    rw [Option.map_some, Option.getD_some, readCapacity_of_ne_word hword, hnone]
    rfl

/-- **The capacity that is read is the one that is meant.** -/
theorem asksForCapacity_iff {text : Option String} {capacity : Option ℕ} :
    AsksForCapacity text capacity ↔
      (text.map readCapacity).getD (some standardCapacity) = capacity := by
  constructor
  · intro h
    exact h.capacity_eq
  · rintro rfl
    obtain ⟨capacity, h⟩ := exists_asksForCapacity text
    rwa [h.capacity_eq]

/-- No text means a table without room. -/
theorem AsksForCapacity.ne_zero {text : Option String} {capacity : Option ℕ}
    (h : AsksForCapacity text capacity) : capacity ≠ some 0 := by
  cases h with
  | unset => decide
  | word _ => simp
  | zeros _ _ => simp
  | @count raw ds _ hlow _ =>
    intro hzero
    have := Option.some.inj hzero
    omega
  | other _ _ => decide

/-! ### The quota -/

/-- A text is no size: there is nothing in it, or a minus sign, or no number at the front. -/
def WritesNoSize (raw : String) : Prop :=
  Text.trimStart raw.toList = [] ∨ (Text.trimStart raw.toList).head? = some '-' ∨
    ¬ StartsNumber (Size.unsigned raw)

theorem readLimit_of_ok {raw : String} {limit : Bytes} (h : Size.parse raw = .ok limit) :
    readLimit raw = limit := by
  rw [readLimit, h]

theorem readLimit_of_writesNoSize {raw : String} (h : WritesNoSize raw) :
    readLimit raw = standardLimit := by
  rw [readLimit]
  obtain ⟨-, herror⟩ | ⟨-, herror⟩ | ⟨hsome, hminus, ⟨-, herror⟩ | ⟨hstarts, -⟩⟩ :=
    Size.parse_cases raw
  · rw [herror]
  · rw [herror]
  · rw [herror]
  · rcases h with hnil | hnegative | hnone
    · exact absurd hnil hsome
    · exact absurd hnegative hminus
    · exact absurd hstarts hnone

theorem limit_ofLookup_of_none {lookup : String → Option String} (h : lookup quotaVariable = none) :
    (ofLookup lookup).limit = standardLimit := by
  simp only [ofLookup, h, Option.map_none, Option.getD_none]

theorem limit_ofLookup_of_some {lookup : String → Option String} {raw : String}
    (h : lookup quotaVariable = some raw) : (ofLookup lookup).limit = readLimit raw := by
  simp only [ofLookup, h, Option.map_some, Option.getD_some]

theorem standardLimit_ne_zero : standardLimit ≠ 0 := by decide

/-- A quota of zero bytes is written, and less than one byte is written. -/
theorem exists_quantity_of_readLimit_eq_zero {raw : String} (h : readLimit raw = 0) :
    ∃ q : Quantity raw, q.numeral.ReadInFull → q.size < 1 := by
  rw [readLimit] at h
  split at h
  · next limit hparse =>
    obtain ⟨q⟩ := Size.nonempty_quantity_iff.2 ⟨limit, hparse⟩
    exact ⟨q, fun hread => q.size_lt_one hread (by rw [hparse, h])⟩
  · exact absurd h standardLimit_ne_zero

/-- **What an environment can ask for.** The quota is zero only if the text of its variable is a
quantity of less than one byte, or one whose exponent is not read in full; without a size it is 4 GiB.
The capacity is the one that is meant, and never zero. Each setting depends on its own variable. -/
theorem ofLookup_fallbacks (lookup : String → Option String) :
    ((ofLookup lookup).limit = 0 → ∃ raw, lookup quotaVariable = some raw ∧
      ∃ q : Quantity raw, q.numeral.ReadInFull → q.size < 1) ∧
    ((∀ raw, lookup quotaVariable = some raw → WritesNoSize raw) →
      (ofLookup lookup).limit.toNat = 4 * 1024 ^ 3) ∧
    (ofLookup lookup).capacity ≠ some 0 ∧
    (∀ capacity, AsksForCapacity (lookup capacityVariable) capacity ↔
      (ofLookup lookup).capacity = capacity) ∧
    ∀ other : String → Option String,
      (other quotaVariable = lookup quotaVariable →
        (ofLookup other).limit = (ofLookup lookup).limit) ∧
      (other logLevelVariable = lookup logLevelVariable →
        (ofLookup other).logLevel = (ofLookup lookup).logLevel) ∧
      (other modeVariable = lookup modeVariable →
        (ofLookup other).mode = (ofLookup lookup).mode) ∧
      (other capacityVariable = lookup capacityVariable →
        (ofLookup other).capacity = (ofLookup lookup).capacity) := by
  have hcapacity : ∀ capacity, AsksForCapacity (lookup capacityVariable) capacity ↔
      (ofLookup lookup).capacity = capacity := fun _ => asksForCapacity_iff
  refine ⟨?_, ?_, ((hcapacity _).2 rfl).ne_zero, hcapacity, ?_⟩
  · intro hzero
    cases hraw : lookup quotaVariable with
    | none =>
      rw [limit_ofLookup_of_none hraw] at hzero
      exact absurd hzero standardLimit_ne_zero
    | some raw =>
      rw [limit_ofLookup_of_some hraw] at hzero
      exact ⟨raw, rfl, exists_quantity_of_readLimit_eq_zero hzero⟩
  · intro hnone
    have hstandard : (ofLookup lookup).limit = standardLimit := by
      cases hraw : lookup quotaVariable with
      | none => exact limit_ofLookup_of_none hraw
      | some raw =>
        rw [limit_ofLookup_of_some hraw]
        exact readLimit_of_writesNoSize (hnone raw hraw)
    rw [hstandard]
    rfl
  · intro other
    refine ⟨?_, ?_, ?_, ?_⟩ <;> intro hsame <;> simp only [ofLookup, hsame]

/-! ### An exponent that is lost -/

/-- A one behind so many zeros behind the point, with an exponent that moves it to the front again if
there are fewer zeros than it says. -/
def shifted (zeros : ℕ) : Numeral :=
  ⟨['0'], some (List.replicate zeros '0' ++ ['1']), some ⟨'e', none, "655360".toList⟩⟩

variable (zeros : ℕ)

theorem wellFormed_shifted : (shifted zeros).WellFormed where
  whole := show AllDigits ['0'] by decide
  fraction := by
    intro c hc
    simp only [shifted, Numeral.fractionDigits, Option.getD_some, List.mem_append,
      List.mem_replicate, List.mem_singleton] at hc
    rcases hc with ⟨-, rfl⟩ | rfl <;> decide
  hasDigits := by simp [Numeral.hasDigits, shifted]
  exponent := by
    rintro e ⟨⟩
    exact ⟨by decide, by decide, by decide, by decide⟩

theorem length_fractionDigits_shifted : (shifted zeros).fractionDigits.length = zeros + 1 := by
  simp [shifted, Numeral.fractionDigits]

theorem mantissa_shifted :
    Text.digitsValue ((shifted zeros).whole ++ (shifted zeros).fractionDigits) = 1 := by
  have hzeros : written ('0' :: List.replicate zeros '0') = 0 := by
    have hsame : ∀ c ∈ List.replicate (zeros + 1) '0', c = '0' :=
      fun _ hc => (List.mem_replicate.1 hc).2
    refine (written_eq_zero_iff fun c hc => ?_).2 hsame
    rw [hsame c hc]
    decide
  rw [written_eq] at hzeros
  have htext : (shifted zeros).whole ++ (shifted zeros).fractionDigits =
      ('0' :: List.replicate zeros '0') ++ ['1'] := rfl
  rw [htext, Text.digitsValue_concat, hzeros]
  rfl

theorem isWhole_shifted : (shifted zeros).isWhole = false := by
  simp [Numeral.isWhole, shifted]

theorem exact_shifted : (shifted zeros).exact = 10 ^ (655360 - ((zeros + 1 : ℕ) : ℤ)) := by
  rw [Numeral.exact, written_eq, mantissa_shifted, Nat.cast_one, one_mul, Numeral.writtenPower,
    length_fractionDigits_shifted]
  rfl

/-- The last digit of the exponent does not count. -/
theorem value_shifted : (shifted 65536).value = Fraction.ofDecimal 1 (-1) := by
  have hpower : (shifted 65536).power = -1 := by
    rw [Numeral.power, length_fractionDigits_shifted]
    rfl
  have hwhole : (shifted 65536).whole.length = 1 := rfl
  rw [Numeral.value, Numeral.mantissa, mantissa_shifted, hpower, hwhole,
    length_fractionDigits_shifted]
  rfl

/-- The text with 65536 zeros behind the point. -/
def shiftedText : String := String.ofList ((shifted 65536).toList ++ [])

/-- The text is a number of bytes. -/
def shiftedQuantity : Quantity shiftedText :=
  .ofScan (wellFormed_shifted 65536) (by decide)
    (by rw [List.append_nil]; exact Numeral.scan_toList (wellFormed_shifted 65536))

theorem size_shiftedQuantity : shiftedQuantity.size = 10 ^ 589823 := by
  have hnumeral : shiftedQuantity.numeral = shifted 65536 := rfl
  have hfactor : shiftedQuantity.factor = 1 := rfl
  have hpower : (655360 : ℤ) - ((65536 + 1 : ℕ) : ℤ) = (589823 : ℕ) := by norm_num
  rw [Quantity.size, hnumeral, hfactor, exact_shifted, hpower, zpow_natCast, Nat.cast_one, mul_one]

theorem parse_shiftedText : Size.parse shiftedText = .ok 0 := by
  have hbytes : (shifted 65536).bytes .one = 0 := by
    rw [Numeral.bytes, isWhole_shifted, value_shifted]
    decide +kernel
  exact shiftedQuantity.parse_eq.trans (congrArg Except.ok hbytes)

/-- **A large quota that is read as zero.** With the digit that is lost the exponent is one power short
of the digits, and what is left is a tenth of a byte. -/
theorem ofLookup_fallbacks_shifted :
    ∃ q : Quantity shiftedText, q.size = 10 ^ 589823 ∧
      (ofLookup fun name => if name = quotaVariable then some shiftedText else none).limit = 0 := by
  refine ⟨shiftedQuantity, size_shiftedQuantity, ?_⟩
  rw [limit_ofLookup_of_some (if_pos rfl)]
  exact readLimit_of_ok parse_shiftedText

end DeviceQuota.Settings
