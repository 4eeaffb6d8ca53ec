import DeviceQuota.Size.Numeral

/-!
# The grammar of numerals

What a numeral is can be said without a scanner:

    numeral  = mantissa [exponent]
    mantissa = digits [ "." [digits] ]  |  "." digits
    exponent = ("e" | "E") [ "+" | "-" ] digits

A text may begin with several numerals, as `1`, `1.`, `1.5` and `1.5e3` are all in front of `1.5e3x`.
The scanner takes the longest one, so that a point or a letter `e` belongs to the numeral exactly if
the grammar lets it.

* **`IsMantissa`**, **`IsExponent`**, **`IsNumeral`** — the grammar;
* **`Numeral.isNumeral_scan`**, **`Numeral.prefix_scan`** — what is scanned is a numeral, and every
  other numeral at the front is a part of it;
* **`Numeral.hasDigits_scan_iff`** — where there is a numeral at all;
* **`Exponent.scan_of_incomplete`**, **`Numeral.scan_of_whole`** — what is left in place.
-/

namespace DeviceQuota.Size

/-- ASCII digits, or nothing. -/
def AllDigits (cs : List Char) : Prop := ∀ c ∈ cs, c.isDigit = true

/-- The text does not go on with a digit. -/
def NoDigitAhead (cs : List Char) : Prop := ∀ c ∈ cs.head?, c.isDigit = false

instance : DecidablePred AllDigits := fun cs =>
  decidable_of_iff (cs.all Char.isDigit = true) List.all_eq_true

instance : DecidablePred NoDigitAhead := fun cs => Option.decidableForallMem cs.head?

theorem allDigits_nil : AllDigits [] := fun _ h => nomatch h

/-- A number with an optional point, which has a digit on at least one side of it. -/
inductive IsMantissa : List Char → Prop
  | whole {ds : List Char} (hsome : ds ≠ []) (hdigits : AllDigits ds) : IsMantissa ds
  | point {ds fs : List Char} (hsome : ds ≠ []) (hdigits : AllDigits ds) (hfraction : AllDigits fs) :
    IsMantissa (ds ++ '.' :: fs)
  | bare {fs : List Char} (hsome : fs ≠ []) (hfraction : AllDigits fs) : IsMantissa ('.' :: fs)

/-- A letter `e` in either case, an optional sign, and at least one digit. -/
inductive IsExponent : List Char → Prop
  | intro {letter : Char} {sign ds : List Char} (hletter : letter = 'e' ∨ letter = 'E')
    (hsign : sign = [] ∨ sign = ['+'] ∨ sign = ['-']) (hsome : ds ≠ []) (hdigits : AllDigits ds) :
    IsExponent (letter :: (sign ++ ds))

/-- A mantissa with an optional exponent. -/
inductive IsNumeral : List Char → Prop
  | plain {m : List Char} (hmantissa : IsMantissa m) : IsNumeral m
  | scaled {m e : List Char} (hmantissa : IsMantissa m) (hexponent : IsExponent e) :
    IsNumeral (m ++ e)

/-- A digit is at the front, or a point and then a digit. -/
inductive StartsNumber : List Char → Prop
  | digit {d : Char} (hdigit : d.isDigit = true) (rest : List Char) : StartsNumber (d :: rest)
  | point {d : Char} (hdigit : d.isDigit = true) (rest : List Char) :
    StartsNumber ('.' :: d :: rest)

/-- A mantissa is a run of digits, or two of them with a point in between. -/
theorem IsMantissa.shape {m : List Char} (h : IsMantissa m) :
    (m ≠ [] ∧ AllDigits m) ∨
      ∃ ds fs, m = ds ++ '.' :: fs ∧ AllDigits ds ∧ AllDigits fs := by
  cases h with
  | whole hsome hdigits => exact .inl ⟨hsome, hdigits⟩
  | @point ds fs _ hdigits hfraction => exact .inr ⟨ds, fs, rfl, hdigits, hfraction⟩
  | @bare fs _ hfraction => exact .inr ⟨[], fs, rfl, allDigits_nil, hfraction⟩

/-! ### Runs of digits -/

variable {cs ds : List Char}

theorem toNat_of_isDigit {c : Char} (h : c.isDigit = true) : 48 ≤ c.toNat ∧ c.toNat ≤ 57 := by
  simp only [Char.isDigit, Bool.and_eq_true, decide_eq_true_eq] at h
  exact ⟨UInt32.le_iff_toNat_le.1 h.1, UInt32.le_iff_toNat_le.1 h.2⟩

theorem allDigits_takeWhile (cs : List Char) : AllDigits (cs.takeWhile Char.isDigit) :=
  List.all_eq_true.1 List.all_takeWhile

theorem takeWhile_isDigit_append (hdigits : AllDigits ds) (cs : List Char) :
    (ds ++ cs).takeWhile Char.isDigit = ds ++ cs.takeWhile Char.isDigit :=
  List.takeWhile_append_of_pos hdigits

theorem dropWhile_isDigit_append (hdigits : AllDigits ds) (cs : List Char) :
    (ds ++ cs).dropWhile Char.isDigit = cs.dropWhile Char.isDigit :=
  List.dropWhile_append_of_pos hdigits

theorem takeWhile_isDigit_of_noDigitAhead (h : NoDigitAhead cs) : cs.takeWhile Char.isDigit = [] := by
  cases cs with
  | nil => rfl
  | cons c cs => simp [h c rfl]

theorem dropWhile_isDigit_of_noDigitAhead (h : NoDigitAhead cs) : cs.dropWhile Char.isDigit = cs := by
  cases cs with
  | nil => rfl
  | cons c cs => simp [h c rfl]

theorem noDigitAhead_cons {c : Char} (h : c.isDigit = false) (cs : List Char) :
    NoDigitAhead (c :: cs) := by
  rintro d ⟨⟩
  exact h

/-! ### Exponents -/

namespace Exponent

theorem scanSign_append {sign : List Char} (hsign : sign = [] ∨ sign = ['+'] ∨ sign = ['-'])
    {d : Char} (hdigit : d.isDigit = true) (tail : List Char) :
    scanSign (sign ++ d :: tail) = (sign.head?, d :: tail) := by
  obtain rfl | rfl | rfl := hsign
  · rw [List.nil_append]
    unfold scanSign
    split
    · next h =>
      obtain ⟨rfl, -⟩ := List.cons.inj h
      exact absurd hdigit (by decide)
    · next h =>
      obtain ⟨rfl, -⟩ := List.cons.inj h
      exact absurd hdigit (by decide)
    · rfl
  · rfl
  · rfl

theorem toList_fst_scanSign (cs : List Char) :
    (scanSign cs).1.toList = [] ∨ (scanSign cs).1.toList = ['+'] ∨
      (scanSign cs).1.toList = ['-'] := by
  unfold scanSign
  split <;> simp

/-- What is scanned is an exponent. -/
theorem isExponent_scan {e : Exponent} (h : (scan cs).1 = some e) : IsExponent e.toList := by
  cases cs with
  | nil => cases h
  | cons c rest =>
    simp only [scan] at h
    split at h
    · next hletter =>
      split at h
      · cases h
      · next hsome =>
        cases h
        exact .intro hletter (toList_fst_scanSign rest) (by simpa using hsome) (allDigits_takeWhile _)
    · cases h

/-- A complete exponent at the front is read, with all digits that follow. -/
theorem prefix_scan {p : List Char} (hp : IsExponent p) (cs : List Char) :
    ∃ e, (scan (p ++ cs)).1 = some e ∧ p <+: e.toList := by
  cases hp with
  | @intro letter sign ds hletter hsign hsome hdigits =>
    obtain ⟨d, tail, rfl⟩ := List.exists_cons_of_ne_nil hsome
    have hsplit : scanSign (sign ++ (d :: tail ++ cs)) = (sign.head?, d :: tail ++ cs) :=
      scanSign_append hsign (hdigits d (by simp)) (tail ++ cs)
    have hscanned : (d :: tail ++ cs).takeWhile Char.isDigit
        = d :: tail ++ cs.takeWhile Char.isDigit :=
      takeWhile_isDigit_append hdigits cs
    have htext : sign.head?.toList = sign := by
      obtain rfl | rfl | rfl := hsign <;> rfl
    refine ⟨⟨letter, sign.head?, d :: tail ++ cs.takeWhile Char.isDigit⟩, ?_, ?_⟩
    · simp only [List.cons_append, List.append_assoc] at hsplit hscanned ⊢
      simp only [scan, if_pos hletter, hsplit, hscanned, List.isEmpty_cons, Bool.false_eq_true,
        if_false]
    · simp only [toList, htext]
      exact ⟨cs.takeWhile Char.isDigit, by simp⟩

/-- Nothing is read exactly where there is no complete exponent. -/
theorem scan_eq_none_iff : (scan cs).1 = none ↔ ∀ p, IsExponent p → ¬ p <+: cs := by
  constructor
  · rintro hnothing p hp ⟨rest, rfl⟩
    obtain ⟨e, he, -⟩ := prefix_scan hp rest
    cases hnothing.symm.trans he
  · intro h
    cases hscan : (scan cs).1 with
    | none => rfl
    | some e =>
      have hfront := toList_scan cs
      rw [hscan] at hfront
      exact absurd ⟨_, hfront⟩ (h e.toList (isExponent_scan hscan))

/-- Where there is no complete exponent, all is left in place. -/
theorem scan_of_incomplete (h : ∀ p, IsExponent p → ¬ p <+: cs) : scan cs = (none, cs) := by
  have hnothing := scan_eq_none_iff.2 h
  have hrest := toList_scan cs
  rw [hnothing] at hrest
  exact Prod.ext hnothing hrest

end Exponent

/-- An exponent begins with a letter, and so neither with a digit nor with a point. -/
theorem IsExponent.ahead {e : List Char} (he : IsExponent e) (cs : List Char) :
    NoDigitAhead (e ++ cs) ∧ (e ++ cs).head? ≠ some '.' := by
  cases he with
  | @intro letter _ _ hletter =>
    obtain rfl | rfl := hletter
    · exact ⟨noDigitAhead_cons (by decide) _, by simp⟩
    · exact ⟨noDigitAhead_cons (by decide) _, by simp⟩

/-! ### Mantissas -/

namespace Numeral

/-- The numeral at the front without its exponent, and the rest. -/
def unscaled (cs : List Char) : Numeral × List Char :=
  (⟨cs.takeWhile Char.isDigit, (scanFraction (cs.dropWhile Char.isDigit)).1, none⟩,
    (scanFraction (cs.dropWhile Char.isDigit)).2)

theorem scan_eq (cs : List Char) :
    scan cs =
      if (unscaled cs).1.hasDigits then
        ({ (unscaled cs).1 with exponent := (Exponent.scan (unscaled cs).2).1 },
          (Exponent.scan (unscaled cs).2).2)
      else unscaled cs := rfl

theorem toList_unscaled (cs : List Char) : (unscaled cs).1.toList ++ (unscaled cs).2 = cs := by
  simp only [unscaled, toList, Option.map_none, Option.getD_none, List.append_nil,
    List.append_assoc]
  rw [toList_scanFraction, List.takeWhile_append_dropWhile]

theorem scanFraction_of_no_point (hpoint : cs.head? ≠ some '.') : scanFraction cs = (none, cs) := by
  unfold scanFraction
  split
  · exact absurd rfl hpoint
  · rfl

theorem unscaled_point (hdigits : AllDigits ds) (cs : List Char) :
    unscaled (ds ++ '.' :: cs)
      = (⟨ds, some (cs.takeWhile Char.isDigit), none⟩, cs.dropWhile Char.isDigit) := by
  have hstop : NoDigitAhead ('.' :: cs) := noDigitAhead_cons (by decide) cs
  simp only [unscaled, takeWhile_isDigit_append hdigits, dropWhile_isDigit_append hdigits,
    takeWhile_isDigit_of_noDigitAhead hstop, dropWhile_isDigit_of_noDigitAhead hstop,
    List.append_nil, scanFraction]

theorem unscaled_whole (hdigits : AllDigits ds) (hstop : NoDigitAhead cs)
    (hpoint : cs.head? ≠ some '.') : unscaled (ds ++ cs) = (⟨ds, none, none⟩, cs) := by
  have hnothing := scanFraction_of_no_point hpoint
  simp only [unscaled, takeWhile_isDigit_append hdigits, dropWhile_isDigit_append hdigits,
    takeWhile_isDigit_of_noDigitAhead hstop, dropWhile_isDigit_of_noDigitAhead hstop,
    List.append_nil, hnothing]

/-- A mantissa at the front is read, with what continues it. -/
theorem prefix_unscaled {m : List Char} (hm : IsMantissa m) (cs : List Char) :
    m <+: (unscaled (m ++ cs)).1.toList := by
  obtain ⟨-, hdigits⟩ | ⟨ds, fs, rfl, hdigits, hfraction⟩ := hm.shape
  · simp only [unscaled, takeWhile_isDigit_append hdigits, toList, List.append_assoc]
    exact List.prefix_append _ _
  · rw [List.append_assoc, List.cons_append, unscaled_point hdigits,
      takeWhile_isDigit_append hfraction]
    exact ⟨cs.takeWhile Char.isDigit, by simp [toList]⟩

/-- A mantissa that is followed neither by a digit nor by a point is read as it is. -/
theorem unscaled_of_isMantissa {m : List Char} (hm : IsMantissa m) (hstop : NoDigitAhead cs)
    (hpoint : cs.head? ≠ some '.') :
    (unscaled (m ++ cs)).1.toList = m ∧ (unscaled (m ++ cs)).2 = cs := by
  obtain ⟨-, hdigits⟩ | ⟨ds, fs, rfl, hdigits, hfraction⟩ := hm.shape
  · rw [unscaled_whole hdigits hstop hpoint]
    exact ⟨by simp [toList], rfl⟩
  · rw [List.append_assoc, List.cons_append, unscaled_point hdigits,
      takeWhile_isDigit_append hfraction, dropWhile_isDigit_append hfraction,
      takeWhile_isDigit_of_noDigitAhead hstop, dropWhile_isDigit_of_noDigitAhead hstop]
    exact ⟨by simp [toList], rfl⟩

theorem hasDigits_iff (n : Numeral) : n.hasDigits = true ↔ n.whole ≠ [] ∨ n.fractionDigits ≠ [] := by
  simp [hasDigits]

/-- What is scanned in front of the exponent is a mantissa, if there is a digit in it. -/
theorem isMantissa_unscaled (h : (unscaled cs).1.hasDigits = true) :
    IsMantissa (unscaled cs).1.toList := by
  have hwhole := allDigits_takeWhile cs
  rw [hasDigits_iff] at h
  unfold unscaled scanFraction at h ⊢
  split at h
  · next rest hpoint =>
    have hfraction := allDigits_takeWhile rest
    by_cases hsome : cs.takeWhile Char.isDigit = []
    · have hfs : rest.takeWhile Char.isDigit ≠ [] := h.resolve_left (· hsome)
      simpa [toList, hpoint, hsome] using IsMantissa.bare hfs hfraction
    · simpa [toList, hpoint] using IsMantissa.point hsome hwhole hfraction
  · next hpoint =>
    have hsome : cs.takeWhile Char.isDigit ≠ [] := h.resolve_right (· rfl)
    simpa [toList, hpoint] using IsMantissa.whole hsome hwhole

/-! ### Numerals -/

theorem hasDigits_scan (cs : List Char) : (scan cs).1.hasDigits = (unscaled cs).1.hasDigits := by
  rw [scan_eq]
  split <;> rfl

theorem startsNumber_of_isMantissa {m : List Char} (hm : IsMantissa m) (cs : List Char) :
    StartsNumber (m ++ cs) := by
  cases hm with
  | whole hsome hdigits | point hsome hdigits =>
    obtain ⟨d, tail, rfl⟩ := List.exists_cons_of_ne_nil hsome
    exact .digit (hdigits d (by simp)) _
  | bare hsome hfraction =>
    obtain ⟨d, tail, rfl⟩ := List.exists_cons_of_ne_nil hsome
    exact .point (hfraction d (by simp)) _

/-- **Where a numeral begins.** There is a digit in front of the exponent exactly where a digit is at
the front, or a point and then a digit. -/
theorem hasDigits_scan_iff (cs : List Char) : (scan cs).1.hasDigits = true ↔ StartsNumber cs := by
  rw [hasDigits_scan]
  constructor
  · intro hdigits
    have hfront := startsNumber_of_isMantissa (isMantissa_unscaled hdigits) (unscaled cs).2
    rwa [toList_unscaled] at hfront
  · intro hfront
    rw [hasDigits_iff]
    cases hfront with
    | digit hdigit rest => exact .inl (by simp [unscaled, hdigit])
    | @point d hdigit rest =>
      have hscanned := unscaled_point allDigits_nil (d :: rest)
      rw [List.nil_append] at hscanned
      exact .inr (by simp [hscanned, fractionDigits, hdigit])

theorem hasDigits_unscaled_of_isMantissa {m : List Char} (hm : IsMantissa m) (cs : List Char) :
    (unscaled (m ++ cs)).1.hasDigits = true := by
  rw [← hasDigits_scan, hasDigits_scan_iff]
  exact startsNumber_of_isMantissa hm cs

theorem toList_scan_of_hasDigits (h : (unscaled cs).1.hasDigits = true) :
    (scan cs).1.toList = (unscaled cs).1.toList
      ++ ((Exponent.scan (unscaled cs).2).1.map Exponent.toList).getD [] := by
  rw [scan_eq, if_pos h]
  simp [toList, unscaled]

/-- **What is scanned is a numeral.** -/
theorem isNumeral_scan (h : (scan cs).1.hasDigits = true) : IsNumeral (scan cs).1.toList := by
  rw [hasDigits_scan] at h
  have hm := isMantissa_unscaled h
  rw [toList_scan_of_hasDigits h]
  cases hexponent : (Exponent.scan (unscaled cs).2).1 with
  | none => simpa using IsNumeral.plain hm
  | some e => exact .scaled hm (Exponent.isExponent_scan hexponent)

/-- **The longest numeral is scanned.** Every numeral at the front is at the front of the one that is
scanned. -/
theorem prefix_scan {p : List Char} (hp : IsNumeral p) (h : p <+: cs) : p <+: (scan cs).1.toList := by
  obtain ⟨rest, rfl⟩ := h
  cases hp with
  | plain hm =>
    rw [toList_scan_of_hasDigits (hasDigits_unscaled_of_isMantissa hm rest)]
    exact (prefix_unscaled hm rest).trans (List.prefix_append _ _)
  | @scaled m e hm he =>
    -- The letter of the exponent ends the mantissa, so that both parts are read where they stand.
    obtain ⟨hstop, hpoint⟩ := he.ahead rest
    obtain ⟨hmantissa, hrest⟩ := unscaled_of_isMantissa hm hstop hpoint
    obtain ⟨exponent, hexponent, htail⟩ := Exponent.prefix_scan he rest
    rw [List.append_assoc,
      toList_scan_of_hasDigits (hasDigits_unscaled_of_isMantissa hm (e ++ rest)), hmantissa, hrest,
      hexponent, List.prefix_append_right_inj]
    exact htail

/-- Digits alone, or with a point behind them. -/
def ofWhole (ds : List Char) (point : Bool) : Numeral := ⟨ds, if point then some [] else none, none⟩

theorem isWhole_ofWhole (ds : List Char) (point : Bool) : (ofWhole ds point).isWhole = true := by
  cases point <;> rfl

theorem hasDigits_ofWhole (hsome : ds ≠ []) (point : Bool) :
    (ofWhole ds point).hasDigits = true :=
  (hasDigits_iff _).2 (.inl hsome)

/-- Digits and an optional point are the whole numeral, where neither a digit nor an exponent follows,
nor a point that they do not have. -/
theorem scan_of_whole (hsome : ds ≠ []) (hdigits : AllDigits ds) (point : Bool)
    (hstop : NoDigitAhead cs) (hexponent : ∀ p, IsExponent p → ¬ p <+: cs)
    (hpoint : point = false → cs.head? ≠ some '.') :
    scan (ds ++ ((if point then ['.'] else []) ++ cs)) = (ofWhole ds point, cs) := by
  have hunscaled : unscaled (ds ++ ((if point then ['.'] else []) ++ cs))
      = (ofWhole ds point, cs) := by
    cases point with
    | true =>
      have htake := takeWhile_isDigit_of_noDigitAhead hstop
      have hdrop := dropWhile_isDigit_of_noDigitAhead hstop
      simpa [ofWhole, htake, hdrop] using unscaled_point hdigits cs
    | false => simpa [ofWhole] using unscaled_whole hdigits hstop (hpoint rfl)
  rw [scan_eq, hunscaled, if_pos (hasDigits_ofWhole hsome point),
    Exponent.scan_of_incomplete hexponent]
  rfl

end Numeral

end DeviceQuota.Size
