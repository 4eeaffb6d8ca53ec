import DeviceQuota.Proofs.Size.Quantities
import Mathlib.Data.List.Forall2

/-!
# One size in many spellings

A size means the same however it is spelled. White space in front of it is skipped, and so is white
space between the numeral and what follows. Letters count in either case: the names of units are found
in the folded text, and the letter of an exponent may be a small or a capital one. No other mark of a
numeral is a letter, and no letter is a blank.

* **`Text.SameLetter`** — a letter in either case, and **`Text.fold_eq_of_forall₂`**, that spellings
  fold to one text;
* **`Numeral.scan_fold`** — a folded text is scanned where the text is, with a small letter in the
  exponent; **`Numeral.bytes_lower`** — that letter does not count;
* **`Malformed.kind`** — a failure without the text that it quotes, and **`mapError_parse`**, what is
  read up to that text;
* **`exists_front`** — what stands in front of a number may stand in front of every number;
* **`parse_spelling`** — reading is the same in every spelling.
-/

namespace DeviceQuota

namespace Text

/-! ### Letters in either case -/

/-- The character `d` is `c` as it is, as a small letter or as a capital one. Only the letters of ASCII
come in two cases. -/
def SameLetter (c d : Char) : Prop := d = c ∨ d = c.toLower ∨ d = c.toUpper

instance (c d : Char) : Decidable (SameLetter c d) := inferInstanceAs (Decidable (_ ∨ _ ∨ _))

/-- A capital letter is the small one after 32 characters. -/
theorem toNat_toLower_of_capital {c : Char} (hlow : 65 ≤ c.toNat) (hhigh : c.toNat ≤ 90) :
    c.toLower.toNat = c.toNat + 32 := by
  unfold Char.toLower
  split
  · show (c.val + 32).toNat = c.toNat + 32
    rw [UInt32.toNat_add]
    exact Nat.mod_eq_of_lt (by show c.toNat + 32 < 2 ^ 32; omega)
  · next hother =>
    exact absurd ⟨UInt32.le_iff_toNat_le.2 hlow, UInt32.le_iff_toNat_le.2 hhigh⟩ hother

theorem toLower_of_not_capital {c : Char} (hother : ¬(65 ≤ c.toNat ∧ c.toNat ≤ 90)) :
    c.toLower = c := by
  unfold Char.toLower
  split
  · next hcapital =>
    exact absurd ⟨UInt32.le_iff_toNat_le.1 hcapital.1, UInt32.le_iff_toNat_le.1 hcapital.2⟩ hother
  · rfl

/-- A character stays as it is, or it is one of the letters `A` to `Z`. -/
theorem toLower_cases (c : Char) :
    c.toLower = c ∨ 65 ≤ c.toNat ∧ c.toNat ≤ 90 ∧ c.toLower.toNat = c.toNat + 32 := by
  by_cases hcapital : 65 ≤ c.toNat ∧ c.toNat ≤ 90
  · exact .inr ⟨hcapital.1, hcapital.2, toNat_toLower_of_capital hcapital.1 hcapital.2⟩
  · exact .inl (toLower_of_not_capital hcapital)

/-- A character stays as it is, or it is one of the letters `a` to `z`. -/
theorem toUpper_cases (c : Char) :
    c.toUpper = c ∨ 97 ≤ c.toNat ∧ c.toNat ≤ 122 ∧ c.toUpper.toNat + 32 = c.toNat := by
  unfold Char.toUpper
  split
  · next hsmall =>
    have hlow : 97 ≤ c.toNat := UInt32.le_iff_toNat_le.1 hsmall.1
    have hhigh : c.toNat ≤ 122 := UInt32.le_iff_toNat_le.1 hsmall.2
    refine .inr ⟨hlow, hhigh, ?_⟩
    show (c.val + ('A'.val - 'a'.val)).toNat + 32 = c.toNat
    have hdifference : ('A'.val - 'a'.val).toNat = 2 ^ 32 - 32 := rfl
    rw [UInt32.toNat_add, hdifference]
    show (c.toNat + (2 ^ 32 - 32)) % 2 ^ 32 + 32 = c.toNat
    omega
  · exact .inl rfl

theorem toLower_toLower (c : Char) : c.toLower.toLower = c.toLower := by
  rcases toLower_cases c with hsame | ⟨hlow, hhigh, hshift⟩
  · rw [hsame, hsame]
  · exact toLower_of_not_capital (by omega)

theorem toLower_toUpper (c : Char) : c.toUpper.toLower = c.toLower := by
  rcases toUpper_cases c with hsame | ⟨hlow, hhigh, hshift⟩
  · rw [hsame]
  · have hback := toNat_toLower_of_capital (c := c.toUpper) (by omega) (by omega)
    rw [toLower_of_not_capital (c := c) (by omega), ← Char.toNat_inj]
    omega

theorem SameLetter.toLower_eq {c d : Char} (h : SameLetter c d) : d.toLower = c.toLower := by
  rcases h with rfl | rfl | rfl
  · rfl
  · exact toLower_toLower c
  · exact toLower_toUpper c

/-- Spellings of one text fold to the same. -/
theorem fold_eq_of_forall₂ {cs ds : List Char} (h : List.Forall₂ SameLetter cs ds) :
    fold ds = fold cs := by
  induction h with
  | nil => rfl
  | cons hletter _ ih => rw [fold_cons, fold_cons, hletter.toLower_eq, ih]

theorem isBlank_toLower (c : Char) : isBlank c.toLower = isBlank c := by
  rcases toLower_cases c with hsame | ⟨hlow, hhigh, hshift⟩
  · rw [hsame]
  · have hupper : isBlank c = false := by simp [isBlank, blankCodes]; omega
    have hlower : isBlank c.toLower = false := by simp [isBlank, blankCodes, hshift]; omega
    rw [hupper, hlower]

theorem isDigit_toLower (c : Char) : c.toLower.isDigit = c.isDigit := by
  rcases toLower_cases c with hsame | ⟨hlow, hhigh, hshift⟩
  · rw [hsame]
  · rw [Bool.eq_iff_iff]
    constructor
    · intro hdigit
      have hbound := (Size.toNat_of_isDigit hdigit).2
      omega
    · intro hdigit
      have hbound := (Size.toNat_of_isDigit hdigit).2
      omega

/-- No letter becomes a mark of punctuation, and no mark becomes a letter. -/
theorem toLower_eq_iff {c mark : Char} (hmark : mark.toNat < 65) :
    c.toLower = mark ↔ c = mark := by
  rcases toLower_cases c with hsame | ⟨hlow, hhigh, hshift⟩
  · rw [hsame]
  · constructor
    · rintro rfl
      omega
    · rintro rfl
      omega

/-- The letter of an exponent is one in either case. -/
theorem toLower_exponent_iff (c : Char) :
    c.toLower = 'e' ∨ c.toLower = 'E' ↔ c = 'e' ∨ c = 'E' := by
  rcases toLower_cases c with hsame | ⟨hlow, hhigh, hshift⟩
  · rw [hsame]
  · have he : 'e'.toNat = 101 := rfl
    have hE : 'E'.toNat = 69 := rfl
    simp only [← Char.toNat_inj, he, hE]
    omega

theorem fold_fold (cs : List Char) : fold (fold cs) = fold cs := by
  rw [fold, fold, List.map_map]
  exact List.map_congr_left fun c _ => toLower_toLower c

/-- A test that is blind to the case stops at the same character. -/
theorem dropWhile_fold {p : Char → Bool} (hp : ∀ c, p c.toLower = p c) (cs : List Char) :
    (fold cs).dropWhile p = fold (cs.dropWhile p) := by
  have htest : p ∘ Char.toLower = p := funext hp
  rw [fold, List.dropWhile_map, htest]
  rfl

theorem trimStart_fold (cs : List Char) : trimStart (fold cs) = fold (trimStart cs) :=
  dropWhile_fold isBlank_toLower cs

/-- Digits have no case. -/
theorem takeWhile_isDigit_fold (cs : List Char) :
    (fold cs).takeWhile Char.isDigit = cs.takeWhile Char.isDigit := by
  induction cs with
  | nil => rfl
  | cons c cs ih =>
    rw [fold_cons, List.takeWhile_cons, List.takeWhile_cons, isDigit_toLower, ih]
    split
    · next hdigit => rw [Size.toLower_of_isDigit hdigit]
    · rfl

end Text

namespace Size

/-! ### Numerals in either case -/

namespace Exponent

/-- An exponent with a small letter. -/
def lower (e : Exponent) : Exponent := { e with letter := e.letter.toLower }

theorem scanSign_fold (cs : List Char) :
    scanSign (Text.fold cs) = ((scanSign cs).1, Text.fold (scanSign cs).2) := by
  cases cs with
  | nil => rfl
  | cons c rest =>
    by_cases hplus : c = '+'
    · subst hplus
      rfl
    · by_cases hminus : c = '-'
      · subst hminus
        rfl
      · have hplus' : c.toLower ≠ '+' := mt (Text.toLower_eq_iff (by decide)).1 hplus
        have hminus' : c.toLower ≠ '-' := mt (Text.toLower_eq_iff (by decide)).1 hminus
        simp [scanSign, hplus, hminus, hplus', hminus']

theorem scan_fold (cs : List Char) :
    scan (Text.fold cs) = ((scan cs).1.map lower, Text.fold (scan cs).2) := by
  cases cs with
  | nil => rfl
  | cons c rest =>
    simp only [Text.fold_cons, scan, Text.toLower_exponent_iff, scanSign_fold,
      Text.takeWhile_isDigit_fold, Text.dropWhile_fold Text.isDigit_toLower]
    split
    · split
      · rfl
      · rfl
    · rfl

end Exponent

namespace Numeral

/-- A numeral with a small letter in its exponent. -/
def lower (n : Numeral) : Numeral := { n with exponent := n.exponent.map Exponent.lower }

theorem hasDigits_lower (n : Numeral) : n.lower.hasDigits = n.hasDigits := rfl

/-- The case of the letter does not count. -/
theorem bytes_lower (n : Numeral) (s : Scale) : n.lower.bytes s = n.bytes s := by
  obtain ⟨whole, fraction, exponent⟩ := n
  cases exponent with
  | none => rfl
  | some e => rfl

theorem scanFraction_fold (cs : List Char) :
    scanFraction (Text.fold cs) = ((scanFraction cs).1, Text.fold (scanFraction cs).2) := by
  cases cs with
  | nil => rfl
  | cons c rest =>
    by_cases hpoint : c = '.'
    · subst hpoint
      show (some ((Text.fold rest).takeWhile Char.isDigit),
        (Text.fold rest).dropWhile Char.isDigit) = _
      rw [Text.takeWhile_isDigit_fold, Text.dropWhile_fold Text.isDigit_toLower]
      rfl
    · have hpoint' : c.toLower ≠ '.' := mt (Text.toLower_eq_iff (by decide)).1 hpoint
      rw [scanFraction_of_no_point (by simpa using hpoint'),
        scanFraction_of_no_point (by simpa using hpoint)]

theorem unscaled_fold (cs : List Char) :
    unscaled (Text.fold cs) = ((unscaled cs).1, Text.fold (unscaled cs).2) := by
  simp only [unscaled, Text.takeWhile_isDigit_fold, Text.dropWhile_fold Text.isDigit_toLower,
    scanFraction_fold]

/-- **Where a numeral ends does not depend on the case** of any letter. -/
theorem scan_fold (cs : List Char) :
    scan (Text.fold cs) = ((scan cs).1.lower, Text.fold (scan cs).2) := by
  rw [scan_eq, scan_eq cs, unscaled_fold, Exponent.scan_fold]
  split
  · rfl
  · rfl

end Numeral

/-! ### Reading up to what is quoted -/

/-- The kinds of failures. -/
inductive Malformed.Kind where
  | empty
  | notANumber
  | negative
  deriving DecidableEq, Repr

/-- The kind of a failure, without the text that it quotes. -/
def Malformed.kind : Malformed → Malformed.Kind
  | empty => .empty
  | notANumber _ => .notANumber
  | negative _ => .negative

/-- What is read of a text without white space in front of it. -/
def readTrimmed (cs : List Char) : Except Malformed.Kind Bytes :=
  if cs = [] then .error .empty
  else if cs.head? = some '-' then .error .negative
  else
    let (numeral, rest) := Numeral.scan (dropPlus cs)
    if numeral.hasDigits then .ok (numeral.bytes (Scale.ofSuffix (Text.trimStart rest)))
    else .error .notANumber

theorem mapError_parse (raw : String) :
    (parse raw).mapError Malformed.kind = readTrimmed (Text.trimStart raw.toList) := by
  by_cases hsome : Text.trimStart raw.toList = []
  · rw [parse_of_blank hsome, hsome]
    rfl
  · rw [readTrimmed, if_neg hsome]
    by_cases hminus : (Text.trimStart raw.toList).head? = some '-'
    · rw [parse_of_minus hminus, if_pos hminus]
      rfl
    · rw [parse_of_unsigned hsome hminus, if_neg hminus, unsigned]
      simp only
      split
      · rfl
      · rfl

theorem dropPlus_fold (cs : List Char) : dropPlus (Text.fold cs) = Text.fold (dropPlus cs) := by
  cases cs with
  | nil => rfl
  | cons c rest =>
    by_cases hplus : c = '+'
    · subst hplus
      rfl
    · have hplus' : c.toLower ≠ '+' := mt (Text.toLower_eq_iff (by decide)).1 hplus
      simp [dropPlus, hplus, hplus']

theorem head?_fold_eq_minus_iff (cs : List Char) :
    (Text.fold cs).head? = some '-' ↔ cs.head? = some '-' := by
  cases cs with
  | nil => rfl
  | cons c rest => simpa using Text.toLower_eq_iff (c := c) (by decide)

/-- The folded text is read as the text is. -/
theorem readTrimmed_fold (cs : List Char) : readTrimmed (Text.fold cs) = readTrimmed cs := by
  have hnil : Text.fold cs = [] ↔ cs = [] := List.map_eq_nil_iff
  have hsuffix (rest : List Char) : Scale.ofSuffix (Text.fold rest) = Scale.ofSuffix rest :=
    Scale.ofSuffix_congr (Text.fold_fold rest)
  simp only [readTrimmed, hnil, head?_fold_eq_minus_iff, dropPlus_fold, Numeral.scan_fold,
    Numeral.hasDigits_lower, Numeral.bytes_lower, Text.trimStart_fold, hsuffix]

/-! ### Blanks behind the numeral -/

/-- What stands in front of a number may stand in front of every number. -/
theorem exists_front (raw : String) :
    ∃ front, raw.toList = front ++ unsigned raw ∧
      ∀ cs, StartsNumber cs →
        Text.trimStart (front ++ cs) ≠ [] ∧ (Text.trimStart (front ++ cs)).head? ≠ some '-' ∧
          unsigned (String.ofList (front ++ cs)) = cs := by
  have hsplit : raw.toList = raw.toList.takeWhile Text.isBlank ++ Text.trimStart raw.toList :=
    List.takeWhile_append_dropWhile.symm
  have hblank : ∀ c ∈ raw.toList.takeWhile Text.isBlank, Text.isBlank c = true :=
    List.all_eq_true.1 List.all_takeWhile
  have hfront (plus : Bool) (cs : List Char) (hstarts : StartsNumber cs) :=
    trimStart_of_startsNumber hblank plus hstarts
  -- The front is the white space, with the `+` where there is one.
  rcases eq_dropPlus_or (Text.trimStart raw.toList) with hunsigned | hplus
  · refine ⟨raw.toList.takeWhile Text.isBlank, ?_, fun cs hstarts => ?_⟩
    · rw [unsigned, ← hunsigned]
      exact hsplit
    · rw [unsigned, String.toList_ofList]
      exact hfront false cs hstarts
  · refine ⟨raw.toList.takeWhile Text.isBlank ++ ['+'], ?_, fun cs hstarts => ?_⟩
    · rw [List.append_assoc, unsigned, List.singleton_append, ← hplus]
      exact hsplit
    · rw [unsigned, String.toList_ofList, List.append_assoc]
      exact hfront true cs hstarts

/-- A numeral ends where it did, whether or not there are blanks behind it. -/
theorem scan_append_blanks {n : Numeral} {rest : List Char} (hn : n.WellFormed)
    (hscan : Numeral.scan (n.toList ++ rest) = (n, rest)) {ws : List Char}
    (hblank : ∀ c ∈ ws, Text.isBlank c = true) :
    Numeral.scan (n.toList ++ (ws ++ rest)) = (n, ws ++ rest) := by
  cases ws with
  | nil => exact hscan
  | cons w ws => exact Numeral.scan_append_of_isBlank hn (hblank w (by simp)) (ws ++ rest)

/-- Blanks behind the numeral of a quantity are not seen. -/
theorem Quantity.parse_eq_of_blanks {raw text : String} (q : Quantity raw) {ws : List Char}
    (hblank : ∀ c ∈ ws, Text.isBlank c = true) (hsome : Text.trimStart text.toList ≠ [])
    (hminus : (Text.trimStart text.toList).head? ≠ some '-')
    (hunsigned : unsigned text = q.numeral.toList ++ (ws ++ q.rest)) : parse text = parse raw := by
  have hscan : Numeral.scan (q.numeral.toList ++ q.rest) = (q.numeral, q.rest) := by
    rw [← q.text_eq]
    exact q.scan_eq
  rw [parse_of_unsigned hsome hminus, hunsigned, scan_append_blanks q.wellFormed hscan hblank,
    q.parse_eq]
  simp only [q.wellFormed.hasDigits, if_true, Text.trimStart_append_of_isBlank _ _ hblank]

/-- What is split off a text is what is scanned. -/
theorem SplitsOff.toList_eq {cs rest : List Char} {n : Numeral} (h : SplitsOff cs n rest) :
    n.toList = (Numeral.scan cs).1.toList := by
  have hstarts := Numeral.startsNumber_of_isNumeral h.isNumeral rest
  rw [← h.eq_append, ← Numeral.hasDigits_scan_iff] at hstarts
  have hlonger := Numeral.prefix_scan h.isNumeral ⟨rest, h.eq_append.symm⟩
  have hshorter := h.longest _ (Numeral.isNumeral_scan hstarts) ⟨_, Numeral.toList_scan cs⟩
  exact hlonger.eq_of_length (Nat.le_antisymm hlonger.length_le hshorter.length_le)

/-- **One size in many spellings.** White space in front of a text, and letters in either case, change
neither the number of bytes nor the kind of failure.

A text that is read consists of the longest numeral that it has behind white space and an optional `+`,
and of what is in front of and behind the numeral. White space directly behind the numeral does not
change the number of bytes. -/
theorem parse_spelling (raw : String) :
    (∀ ws spelled, (∀ c ∈ ws, Text.isBlank c = true) →
      List.Forall₂ Text.SameLetter raw.toList spelled →
      (parse (String.ofList (ws ++ spelled))).mapError Malformed.kind
        = (parse raw).mapError Malformed.kind) ∧
    ∀ bytes, parse raw = .ok bytes → ∃ front numeral rest,
      raw.toList = front ++ (numeral.toList ++ rest) ∧ SplitsOff (unsigned raw) numeral rest ∧
        ∀ ws, (∀ c ∈ ws, Text.isBlank c = true) →
          parse (String.ofList (front ++ (numeral.toList ++ (ws ++ rest)))) = .ok bytes := by
  constructor
  · intro ws spelled hblank hspelled
    -- Both texts are folded before they are read; then they are the same text.
    have hfold := Text.fold_eq_of_forall₂ hspelled
    rw [mapError_parse, mapError_parse, String.toList_ofList,
      Text.trimStart_append_of_isBlank _ _ hblank, ← readTrimmed_fold,
      ← readTrimmed_fold (Text.trimStart raw.toList), ← Text.trimStart_fold,
      ← Text.trimStart_fold, hfold]
  · intro bytes hparse
    obtain ⟨q⟩ := nonempty_quantity_iff.2 ⟨bytes, hparse⟩
    have hsplit := splitsOff_scan q.startsNumber
    rw [q.scan_eq] at hsplit
    obtain ⟨front, hraw, hfront⟩ := exists_front raw
    refine ⟨front, q.numeral, q.rest, by rw [hraw, q.text_eq], hsplit, fun ws hblank => ?_⟩
    have hstarts := Numeral.startsNumber_of_isNumeral hsplit.isNumeral (ws ++ q.rest)
    obtain ⟨hsome, hminus, hunsigned⟩ := hfront _ hstarts
    rw [← String.toList_ofList (l := front ++ _)] at hsome hminus
    rw [q.parse_eq_of_blanks hblank hsome hminus hunsigned, hparse]

/-- An exponent and a unit, with blanks from outside ASCII in front of either. -/
theorem parse_spelling_kibibytes :
    parse "+1.5e3KiB" = .ok 1536000 ∧
      (parse "\u2003+1.5E3kIb").mapError Malformed.kind = .ok 1536000 ∧
      parse "+1.5e3\u3000KiB" = .ok 1536000 := by
  have hparse : parse "+1.5e3KiB" = .ok 1536000 := rfl
  obtain ⟨hspelled, hblanks⟩ := parse_spelling "+1.5e3KiB"
  refine ⟨hparse, ?_, ?_⟩
  · have hread := hspelled ['\u2003'] "+1.5E3kIb".toList (List.forall_mem_singleton.2 rfl)
      (by decide)
    rw [hparse] at hread
    exact hread
  · obtain ⟨front, numeral, rest, hraw, hsplit, hinsert⟩ := hblanks _ hparse
    have hnumeral : numeral.toList = "1.5e3".toList := hsplit.toList_eq
    have hbehind : "1.5e3".toList ++ "KiB".toList = "1.5e3".toList ++ rest := by
      have hbehind := hsplit.eq_append
      rw [hnumeral] at hbehind
      exact hbehind
    obtain rfl : "KiB".toList = rest := List.append_cancel_left hbehind
    have hahead : ['+'] ++ "1.5e3KiB".toList = front ++ "1.5e3KiB".toList := by
      rw [hnumeral] at hraw
      exact hraw
    obtain rfl : ['+'] = front := List.append_cancel_right hahead
    have hread := hinsert ['\u3000'] (List.forall_mem_singleton.2 rfl)
    rw [hnumeral] at hread
    exact hread

end Size

end DeviceQuota
