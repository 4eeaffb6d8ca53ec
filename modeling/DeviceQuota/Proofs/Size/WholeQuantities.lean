import DeviceQuota.Proofs.Size.Acceptance
import Mathlib.Data.List.Induction
import Mathlib.Data.Nat.Digits.Defs

/-!
# Whole quantities are exact

A size that is written with whole digits alone is read without rounding, however many digits there
are: the product of the number and the unit is that of the natural numbers, cut off at the largest
byte count. A point may end the digits, and a letter `e` without a digit behind it belongs to what
follows.

What follows names a unit if it starts with the unit's name in letters of either case. The names are a
letter for a power of 1000 and the letter with an `i` for the same power of 1024, and of two names the
longer one counts.

* **`NamesUnit`** — the names of the units and their numbers of bytes;
* **`Multiplies`** — the number that a text multiplies by; **`multiplies_ofSuffix`** and
  **`Multiplies.eq`**, that there is one and only one;
* **`namesFront_iff_octets`** — a name is found by as many octets as it has letters;
* **`parse_whole_quantity`** — the quantity that is read.
-/

namespace DeviceQuota.Size

/-! ### Units -/

/-- The power that a letter stands for. -/
def power? : Char → Option Nat
  | 'k' => some 1
  | 'm' => some 2
  | 'g' => some 3
  | 't' => some 4
  | _ => none

/-- A unit's name in lower case, and its number of bytes. -/
inductive NamesUnit : List Char → Nat → Prop
  | decimal {letter : Char} {k : Nat} (h : power? letter = some k) : NamesUnit [letter] (1000 ^ k)
  | binary {letter : Char} {k : Nat} (h : power? letter = some k) :
    NamesUnit [letter, 'i'] (1024 ^ k)

/-- A text starts with a name, in letters of either case. -/
def NamesFront (name cs : List Char) : Prop := name <+: Text.fold cs

/-- The number that a quantity in front of a text is multiplied by: that of the longest name that the
text starts with, and one where there is none. -/
inductive Multiplies (cs : List Char) : Nat → Prop
  | unit {name : List Char} {m : Nat} (hname : NamesUnit name m) (hfront : NamesFront name cs)
    (hlongest : ∀ other n, NamesUnit other n → NamesFront other cs → other.length ≤ name.length) :
    Multiplies cs m
  | bytes (hnone : ∀ name m, NamesUnit name m → ¬ NamesFront name cs) : Multiplies cs 1

variable {cs name other : List Char} {m n : Nat}

theorem NamesUnit.eq (h : NamesUnit name m) (h' : NamesUnit name n) : m = n := by
  cases h with
  | decimal h =>
    cases h' with
    | decimal h' => rw [Option.some.inj (h.symm.trans h')]
  | binary h =>
    cases h' with
    | binary h' => rw [Option.some.inj (h.symm.trans h')]

/-- Only one number is multiplied by. -/
theorem Multiplies.eq (h : Multiplies cs m) (h' : Multiplies cs n) : m = n := by
  cases h with
  | @unit name _ hname hfront hlongest =>
    cases h' with
    | @unit other _ hother hfront' hlongest' =>
      have hlength : name.length = other.length :=
        Nat.le_antisymm (hlongest' name m hname hfront) (hlongest other n hother hfront')
      have hsame : name = other :=
        (List.prefix_of_prefix_length_le hfront hfront' hlength.le).eq_of_length hlength
      subst hsame
      exact hname.eq hother
    | bytes hnone => exact absurd hfront (hnone name m hname)
  | bytes hnone =>
    cases h' with
    | @unit other _ hother hfront' => exact absurd hfront' (hnone other n hother)
    | bytes => rfl

theorem power?_cases (letter : Char) :
    (letter = 'k' ∨ letter = 'm' ∨ letter = 'g' ∨ letter = 't') ∨
      (letter ≠ 'k' ∧ letter ≠ 'm' ∧ letter ≠ 'g' ∧ letter ≠ 't') ∧ power? letter = none := by
  unfold power?
  split <;> simp_all

/-- The unit is told by two letters. -/
theorem factor_ofSuffix (cs : List Char) :
    (Scale.ofSuffix cs).factor =
      match Text.fold cs with
      | [] => 1
      | letter :: rest =>
        match power? letter with
        | none => 1
        | some k => if rest.head? = some 'i' then 1024 ^ k else 1000 ^ k := by
  unfold Scale.ofSuffix Text.startsWith
  generalize Text.fold cs = folded
  cases folded with
  | nil => decide
  | cons letter rest =>
    have hnext : ['i'].isPrefixOf rest = decide (rest.head? = some 'i') := by
      cases rest with
      | nil => rfl
      | cons d rest => simp [List.isPrefixOf, eq_comm, beq_eq_decide]
    obtain hletter | ⟨⟨hk, hm, hg, ht⟩, hnone⟩ := power?_cases letter
    · obtain rfl | rfl | rfl | rfl := hletter <;> by_cases hi : rest.head? = some 'i' <;>
        simp [Scale.names, Scale.factor, List.isPrefixOf, hnext, hi, power?]
    · simp [Scale.names, Scale.factor, List.isPrefixOf, hnone, hk.symm, hm.symm, hg.symm, ht.symm]

/-- The names that can be at the front of a text in lower case. -/
theorem NamesUnit.of_front (h : NamesUnit name m) {letter : Char} {rest : List Char}
    (hfront : name <+: letter :: rest) :
    ∃ k, power? letter = some k ∧
      (name = [letter] ∨ name = [letter, 'i'] ∧ rest.head? = some 'i') := by
  obtain ⟨tail, htail⟩ := hfront
  cases h with
  | @decimal first k hpower =>
    obtain ⟨rfl, -⟩ := List.cons.inj htail
    exact ⟨k, hpower, .inl rfl⟩
  | @binary first k hpower =>
    obtain ⟨rfl, hrest⟩ := List.cons.inj htail
    exact ⟨k, hpower, .inr ⟨rfl, by rw [← hrest]; rfl⟩⟩

/-- The number that is multiplied by. -/
theorem multiplies_ofSuffix (cs : List Char) : Multiplies cs (Scale.ofSuffix cs).factor := by
  rw [factor_ofSuffix]
  cases hfolded : Text.fold cs with
  | nil =>
    refine .bytes fun name m hname hfront => ?_
    rw [NamesFront, hfolded, List.prefix_nil] at hfront
    cases hname <;> cases hfront
  | cons letter rest =>
    have hnames {name : List Char} {m : Nat} (hname : NamesUnit name m)
        (hfront : NamesFront name cs) : ∃ k, power? letter = some k ∧
          (name = [letter] ∨ name = [letter, 'i'] ∧ rest.head? = some 'i') := by
      rw [NamesFront, hfolded] at hfront
      exact hname.of_front hfront
    cases hpower : power? letter with
    | none =>
      simp only [hpower]
      refine .bytes fun name m hname hfront => ?_
      obtain ⟨k, hk, -⟩ := hnames hname hfront
      cases hpower.symm.trans hk
    | some k =>
      simp only [hpower]
      split
      · next hi =>
        obtain ⟨tail, rfl⟩ := List.head?_eq_some_iff.1 hi
        refine .unit (.binary hpower) (show _ <+: _ by rw [hfolded]; exact ⟨tail, rfl⟩)
          fun other n hother hfront => ?_
        obtain ⟨_, -, rfl | ⟨rfl, -⟩⟩ := hnames hother hfront
        · exact Nat.le_succ 1
        · exact Nat.le_refl 2
      · next hi =>
        refine .unit (.decimal hpower) (show _ <+: _ by rw [hfolded]; exact ⟨rest, rfl⟩)
          fun other n hother hfront => ?_
        obtain ⟨_, -, rfl | ⟨-, hi'⟩⟩ := hnames hother hfront
        · exact Nat.le_refl 1
        · exact absurd hi' hi

/-! ### Names in octets -/

theorem isAscii_of_toLower {c : Char} (h : Text.IsAscii c.toLower) : Text.IsAscii c := by
  unfold Char.toLower at h
  split at h
  · next hupper =>
    exact Nat.lt_of_le_of_lt (UInt32.le_iff_toNat_le.1 hupper.2) (by decide)
  · exact h

theorem NamesUnit.isAscii (h : NamesUnit name m) : ∀ c ∈ name, Text.IsAscii c := by
  have hletter {letter : Char} {k : Nat} (hpower : power? letter = some k) :
      Text.IsAscii letter := by
    obtain (rfl | rfl | rfl | rfl) | ⟨-, hnone⟩ := power?_cases letter
    · decide
    · decide
    · decide
    · decide
    · cases hnone.symm.trans hpower
  cases h with
  | decimal hpower => simpa using hletter hpower
  | binary hpower =>
    simpa using ⟨hletter hpower, show Text.IsAscii 'i' by decide⟩

/-- A name is found by as many octets as it has letters: they make up whole characters, which are its
letters in some case. -/
theorem namesFront_iff_octets (hname : NamesUnit name m) (cs : List Char) :
    NamesFront name cs ↔
      ∃ front, front <+: cs ∧ (Text.octets front).length = name.length ∧
        Text.fold front = name := by
  constructor
  · intro hfront
    have hfold : Text.fold (cs.take name.length) = name := by
      rw [Text.fold, List.map_take]
      exact (List.prefix_iff_eq_take.1 hfront).symm
    have hascii : ∀ c ∈ cs.take name.length, Text.IsAscii c := fun c hc =>
      isAscii_of_toLower (hname.isAscii _ (by
        rw [← hfold]
        exact List.mem_map_of_mem hc))
    refine ⟨cs.take name.length, List.take_prefix _ _, ?_, hfold⟩
    rw [Text.length_octets hascii, ← Text.length_fold, hfold]
  · rintro ⟨front, hfront, -, rfl⟩
    exact hfront.map Char.toLower

/-! ### Digits -/

theorem digitsValue_eq_ofDigits (ds : List Char) :
    Text.digitsValue ds = Nat.ofDigits 10 (ds.reverse.map Text.digitValue) := by
  induction ds using List.reverseRecOn with
  | nil => rfl
  | append_singleton ds d ih =>
    rw [Text.digitsValue_concat, List.reverse_concat, List.map_cons, Nat.ofDigits_cons, ← ih,
      Nat.add_comm]

theorem toNat_clamp_eq_min (n : Nat) : (Bytes.clamp n).toNat = min (2 ^ 64 - 1) n := by
  have hsize : UInt64.size = 2 ^ 64 := rfl
  rw [Bytes.toNat_clamp, Bytes.greatest, hsize]
  split <;> omega

/-! ### Whole quantities -/

theorem isBlank_of_isDigit {c : Char} (h : c.isDigit = true) : Text.isBlank c = false := by
  obtain ⟨hlow, hhigh⟩ := toNat_of_isDigit h
  simp [Text.isBlank, Text.blankCodes]
  omega

theorem toLower_of_isDigit {c : Char} (h : c.isDigit = true) : c.toLower = c := by
  have hhigh : c.toNat ≤ 57 := (toNat_of_isDigit h).2
  unfold Char.toLower
  refine dif_neg fun hupper => ?_
  have hlow : 65 ≤ c.toNat := UInt32.le_iff_toNat_le.1 hupper.1
  omega

/-- An optional `+` in front of a number is dropped, and nothing else in front of it is skipped. -/
theorem trimStart_of_startsNumber {ws cs : List Char} (hblank : ∀ c ∈ ws, Text.isBlank c = true)
    (plus : Bool) (hstarts : StartsNumber cs) :
    let trimmed := Text.trimStart (ws ++ ((if plus then ['+'] else []) ++ cs))
    trimmed ≠ [] ∧ trimmed.head? ≠ some '-' ∧ dropPlus trimmed = cs := by
  rw [Text.trimStart_append_of_isBlank _ _ hblank]
  cases plus with
  | true => simp [Text.trimStart_cons_of_not_isBlank _ Text.isBlank_plus, dropPlus]
  | false =>
    cases hstarts with
    | @digit d hd tail =>
      have hplus : d ≠ '+' := by rintro rfl; exact absurd hd (by decide)
      have hminus : d ≠ '-' := by rintro rfl; exact absurd hd (by decide)
      simp [Text.trimStart_cons_of_not_isBlank _ (isBlank_of_isDigit hd), dropPlus, hplus, hminus]
    | @point d _ tail =>
      have hpoint : Text.isBlank '.' = false := by decide
      simp [Text.trimStart_cons_of_not_isBlank _ hpoint, dropPlus]

theorem trimStart_signed {ws ds : List Char} (hblank : ∀ c ∈ ws, Text.isBlank c = true)
    (plus : Bool) (hsome : ds ≠ []) (hdigits : AllDigits ds) (cs : List Char) :
    let trimmed := Text.trimStart (ws ++ ((if plus then ['+'] else []) ++ (ds ++ cs)))
    trimmed ≠ [] ∧ trimmed.head? ≠ some '-' ∧ dropPlus trimmed = ds ++ cs := by
  obtain ⟨d, tail, rfl⟩ := List.exists_cons_of_ne_nil hsome
  exact trimStart_of_startsNumber hblank plus (.digit (hdigits d (by simp)) (tail ++ cs))

/-- **Whole quantities are exact.** A text is made up of white space, an optional `+`, digits, an
optional point, and anything that the digits do not go on with: neither a digit nor a complete
exponent, nor a point where there was none. It is read as the product of the number and of the unit
that follows, cut off at the largest byte count; there is one number that the rest multiplies by, and
a unit's name may be looked for by octets. -/
theorem parse_whole_quantity (ws ds cs : List Char) (plus point : Bool)
    (hblank : ∀ c ∈ ws, Text.isBlank c = true) (hsome : ds ≠ []) (hdigits : AllDigits ds)
    (hstop : NoDigitAhead cs) (hexponent : ∀ p, IsExponent p → ¬ p <+: cs)
    (hpoint : point = false → cs.head? ≠ some '.') :
    ∃ (bytes : Bytes) (m : Nat),
      parse (String.ofList (ws ++ ((if plus then ['+'] else []) ++
        (ds ++ ((if point then ['.'] else []) ++ cs))))) = .ok bytes ∧
      bytes.toNat = min (2 ^ 64 - 1) (Nat.ofDigits 10 (ds.reverse.map Text.digitValue) * m) ∧
      Multiplies (Text.trimStart cs) m ∧ (∀ n, Multiplies (Text.trimStart cs) n → n = m) ∧
      ∀ name k, NamesUnit name k → (NamesFront name (Text.trimStart cs) ↔
        ∃ front, front <+: Text.trimStart cs ∧ (Text.octets front).length = name.length ∧
          Text.fold front = name) := by
  obtain ⟨hthere, hminus, hunsigned⟩ := trimStart_signed hblank plus hsome hdigits
    ((if point then ['.'] else []) ++ cs)
  have hscan := Numeral.scan_of_whole hsome hdigits point hstop hexponent hpoint
  have hm := multiplies_ofSuffix (Text.trimStart cs)
  refine ⟨(Numeral.ofWhole ds point).bytes (Scale.ofSuffix (Text.trimStart cs)), _, ?_, ?_, hm,
    fun n hn => hn.eq hm, fun name k hname => namesFront_iff_octets hname (Text.trimStart cs)⟩
  · rw [← String.toList_ofList (l := ws ++ _)] at hthere hminus hunsigned
    rw [parse_of_unsigned hthere hminus, unsigned, hunsigned, hscan]
    exact if_pos (Numeral.hasDigits_ofWhole hsome point)
  · rw [Numeral.bytes, if_pos (Numeral.isWhole_ofWhole ds point), toNat_clamp_eq_min,
      digitsValue_eq_ofDigits]
    rfl

/-- A number beyond the precision of floating-point numbers, and a unit with more letters behind it. -/
theorem parse_whole_quantity_kibibytes :
    ∃ bytes : Bytes, parse "\u3000+0018014398509481983.\u00a0KIß" = .ok bytes ∧
      bytes.toNat = 18014398509481983 * 1024 := by
  obtain ⟨bytes, m, hparse, hbytes, hm, -⟩ := parse_whole_quantity ['\u3000']
    "0018014398509481983".toList "\u00a0KIß".toList true true (List.forall_mem_singleton.2 rfl)
    (by decide) (by decide) (by decide) (Exponent.scan_eq_none_iff.1 rfl) (by decide)
  have hfactor : m = 1024 := hm.eq (multiplies_ofSuffix _)
  have hvalue : Text.digitsValue "0018014398509481983".toList = 18014398509481983 := by decide
  rw [← digitsValue_eq_ofDigits, hfactor, hvalue, Nat.min_eq_right (by decide)] at hbytes
  exact ⟨bytes, hparse, hbytes⟩

end DeviceQuota.Size
