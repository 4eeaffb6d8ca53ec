import DeviceQuota.Proofs.Size.Grammar

/-!
# Numerals in octets

Texts are kept in UTF-8, and a numeral can be split off by counting octets: the digits, a point, the
digits behind it and the exponent have four lengths, each measured where the one before has ended.
Numerals are written in ASCII, where a character is one octet, and no octet of any other character is
in ASCII. So the four lengths are those of the scanned parts, and a text that is cut there is cut
between two characters.

* **`Text.octets`** — a text in UTF-8;
* **`Extent`** — four lengths, and **`Extent.measure`**, how they are measured;
* **`Text.AsciiTest`** — a test of octets that tells characters apart;
* **`Extent.measure_octets`** — what is measured is what is scanned, and **`Extent.octets_split`**,
  the cuts.
-/

namespace DeviceQuota

namespace Text

/-- The octets of a text in UTF-8. -/
def octets (cs : List Char) : List UInt8 := cs.flatMap String.utf8EncodeChar

@[simp] theorem octets_nil : octets [] = [] := rfl

theorem octets_append (cs ds : List Char) : octets (cs ++ ds) = octets cs ++ octets ds :=
  List.flatMap_append

/-- A character of ASCII. -/
def IsAscii (c : Char) : Prop := c.toNat < 128

instance : DecidablePred IsAscii := fun c => inferInstanceAs (Decidable (c.toNat < 128))

theorem octets_cons_of_isAscii {c : Char} (h : IsAscii c) (cs : List Char) :
    octets (c :: cs) = c.toUInt8 :: octets cs := by
  have hsize : c.utf8Size = 1 :=
    Char.utf8Size_eq_one_iff.2 (UInt32.le_iff_toNat_le.2 (Nat.le_of_lt_succ h))
  simp [octets, String.utf8EncodeChar_eq_singleton hsize]

theorem toNat_toUInt8_of_isAscii {c : Char} (h : IsAscii c) : c.toUInt8.toNat = c.toNat := by
  show (c.val.toUInt8).toNat = c.val.toNat
  rw [UInt32.toNat_toUInt8]
  exact Nat.mod_eq_of_lt (Nat.lt_trans h (by decide))

/-- A character outside ASCII begins with an octet outside ASCII. -/
theorem octets_cons_of_not_isAscii {c : Char} (h : ¬ IsAscii c) (cs : List Char) :
    ∃ b bs, octets (c :: cs) = b :: bs ∧ 128 ≤ b.toNat := by
  have hlarge : ¬ c.val.toNat ≤ 127 := fun hle => h (Nat.lt_succ_of_le hle)
  simp only [octets, List.flatMap_cons, String.utf8EncodeChar, if_neg hlarge]
  split
  · exact ⟨_, _, rfl, by simp; omega⟩
  · split
    · exact ⟨_, _, rfl, by simp; omega⟩
    · exact ⟨_, _, rfl, by simp; omega⟩

theorem length_octets {cs : List Char} (h : ∀ c ∈ cs, IsAscii c) :
    (octets cs).length = cs.length := by
  induction cs with
  | nil => rfl
  | cons c cs ih =>
    rw [octets_cons_of_isAscii (h c (by simp)), List.length_cons, List.length_cons,
      ih fun d hd => h d (by simp [hd])]

section Cut

variable {cs front rest : List Char} (hsplit : front ++ rest = cs) (h : ∀ c ∈ front, IsAscii c)
include hsplit h

/-- Behind characters of ASCII a text is cut by their number. -/
theorem drop_octets : (octets cs).drop front.length = octets rest := by
  rw [← hsplit, octets_append, ← length_octets h, List.drop_left]

theorem take_octets : (octets cs).take front.length = octets front := by
  rw [← hsplit, octets_append, ← length_octets h, List.take_left]

end Cut

/-- A test of octets and one of characters, which only characters of ASCII pass. -/
structure AsciiTest (q : UInt8 → Bool) (p : Char → Bool) : Prop where
  octet_lt : ∀ b, q b = true → b.toNat < 128
  isAscii : ∀ c, p c = true → IsAscii c
  eq : ∀ c, IsAscii c → q c.toUInt8 = p c

namespace AsciiTest

variable {q : UInt8 → Bool} {p : Char → Bool}

/-- A character is told by its first octet. -/
theorem head_octets (h : AsciiTest q p) (c : Char) (cs : List Char) :
    ∃ b bs, octets (c :: cs) = b :: bs ∧ q b = p c ∧ (p c = true → bs = octets cs) := by
  by_cases hc : IsAscii c
  · exact ⟨_, _, octets_cons_of_isAscii hc cs, h.eq c hc, fun _ => rfl⟩
  · obtain ⟨b, bs, hcs, hb⟩ := octets_cons_of_not_isAscii hc cs
    have hq : q b = false := Bool.eq_false_iff.2 fun hpass => by
      have := h.octet_lt b hpass
      omega
    have hp : p c = false := Bool.eq_false_iff.2 fun hpass => hc (h.isAscii c hpass)
    exact ⟨b, bs, hcs, hq.trans hp.symm, fun hpass => absurd hpass (by simp [hp])⟩

/-- The characters at the front that pass are as many as the octets. -/
theorem length_takeWhile (h : AsciiTest q p) (cs : List Char) :
    ((octets cs).takeWhile q).length = (cs.takeWhile p).length := by
  induction cs with
  | nil => rfl
  | cons c cs ih =>
    obtain ⟨b, bs, hcs, hsame, htail⟩ := h.head_octets c cs
    rw [hcs, List.takeWhile_cons, List.takeWhile_cons, hsame]
    cases hp : p c with
    | true => simp [htail hp, ih]
    | false => rfl

/-- The next character passes exactly if the next octet does. -/
theorem any_head? (h : AsciiTest q p) (cs : List Char) :
    (octets cs).head?.any q = cs.head?.any p := by
  cases cs with
  | nil => rfl
  | cons c cs =>
    obtain ⟨b, bs, hcs, hsame, -⟩ := h.head_octets c cs
    simp [hcs, hsame]

end AsciiTest

theorem asciiTest_beq {c : Char} (hc : IsAscii c) : AsciiTest (· == c.toUInt8) (· == c) where
  octet_lt b hb := by
    rw [eq_of_beq hb, toNat_toUInt8_of_isAscii hc]
    exact hc
  isAscii d hd := eq_of_beq hd ▸ hc
  eq d hd := by
    rw [Bool.eq_iff_iff, beq_iff_eq, beq_iff_eq, ← UInt8.toNat_inj, toNat_toUInt8_of_isAscii hd,
      toNat_toUInt8_of_isAscii hc, Char.toNat_inj]

theorem AsciiTest.or {q r : UInt8 → Bool} {p o : Char → Bool} (hq : AsciiTest q p)
    (hr : AsciiTest r o) : AsciiTest (fun b => q b || r b) (fun c => p c || o c) where
  octet_lt b hb := by
    obtain hb | hb := Bool.or_eq_true_iff.1 hb
    · exact hq.octet_lt b hb
    · exact hr.octet_lt b hb
  isAscii c hc := by
    obtain hc | hc := Bool.or_eq_true_iff.1 hc
    · exact hq.isAscii c hc
    · exact hr.isAscii c hc
  eq c hc := by rw [hq.eq c hc, hr.eq c hc]

theorem isAscii_of_isDigit {c : Char} (h : c.isDigit = true) : IsAscii c := by
  have hle : c.toNat ≤ 57 := (Size.toNat_of_isDigit h).2
  exact Nat.lt_of_le_of_lt hle (by decide)

end Text

namespace Size

open Text

theorem isAscii_of_allDigits {ds : List Char} (h : AllDigits ds) : ∀ c ∈ ds, IsAscii c :=
  fun c hc => isAscii_of_isDigit (h c hc)

theorem isAscii_of_isMantissa {m : List Char} (h : IsMantissa m) : ∀ c ∈ m, IsAscii c := by
  obtain ⟨-, hdigits⟩ | ⟨ds, fs, rfl, hdigits, hfraction⟩ := h.shape
  · exact isAscii_of_allDigits hdigits
  · exact List.forall_mem_append.2 ⟨isAscii_of_allDigits hdigits,
      List.forall_mem_cons.2 ⟨by decide, isAscii_of_allDigits hfraction⟩⟩

theorem isAscii_of_sign {sign : List Char} (h : sign = [] ∨ sign = ['+'] ∨ sign = ['-']) :
    ∀ c ∈ sign, IsAscii c := by
  obtain rfl | rfl | rfl := h
  · exact List.forall_mem_nil _
  · exact List.forall_mem_singleton.2 (by decide)
  · exact List.forall_mem_singleton.2 (by decide)

theorem isAscii_of_isExponent {e : List Char} (h : IsExponent e) : ∀ c ∈ e, IsAscii c := by
  cases h with
  | intro hletter hsign _ hdigits =>
    refine List.forall_mem_cons.2 ⟨?_, List.forall_mem_append.2 ⟨?_, isAscii_of_allDigits hdigits⟩⟩
    · obtain rfl | rfl := hletter <;> decide
    · exact isAscii_of_sign hsign

/-- A numeral is written in ASCII. -/
theorem isAscii_of_isNumeral {p : List Char} (h : IsNumeral p) : ∀ c ∈ p, IsAscii c := by
  cases h with
  | plain hm => exact isAscii_of_isMantissa hm
  | scaled hm he =>
    exact List.forall_mem_append.2 ⟨isAscii_of_isMantissa hm, isAscii_of_isExponent he⟩

/-- The lengths of the parts of a numeral: digits, point, digits behind it, and exponent. -/
structure Extent where
  whole : Nat
  point : Nat
  fraction : Nat
  exponent : Nat
  deriving DecidableEq, Repr

namespace Extent

/-- The length of the numeral. -/
def total (x : Extent) : Nat := x.whole + x.point + x.fraction + x.exponent

/-- An octet that is a digit. -/
def isDigit (b : UInt8) : Bool := '0'.toUInt8 ≤ b && b ≤ '9'.toUInt8

/-- An octet that is the letter `e` in either case. -/
def isLetter (b : UInt8) : Bool := b == 'e'.toUInt8 || b == 'E'.toUInt8

/-- An octet that is a sign. -/
def isSign (b : UInt8) : Bool := b == '+'.toUInt8 || b == '-'.toUInt8

def countDigits (bs : List UInt8) : Nat := (bs.takeWhile isDigit).length

/-- The length of the exponent at the front; zero where no digit follows the letter. -/
def ofExponent (bs : List UInt8) : Nat :=
  if bs.head?.any isLetter then
    let sign := if bs[1]?.any isSign then 1 else 0
    let digits := countDigits (bs.drop (1 + sign))
    if digits = 0 then 0 else 1 + sign + digits
  else 0

/-- The lengths of the parts of the numeral at the front, an exponent only behind a digit. -/
def measure (bs : List UInt8) : Extent :=
  let whole := countDigits bs
  let point := if bs[whole]?.any (· == '.'.toUInt8) then 1 else 0
  let fraction := if point = 1 then countDigits (bs.drop (whole + 1)) else 0
  let exponent :=
    if 0 < whole + fraction then ofExponent (bs.drop (whole + point + fraction)) else 0
  ⟨whole, point, fraction, exponent⟩

/-- The lengths of the parts of a numeral as scanned. -/
def ofNumeral (n : Numeral) : Extent where
  whole := n.whole.length
  point := if n.fraction.isSome then 1 else 0
  fraction := n.fractionDigits.length
  exponent := ((n.exponent.map Exponent.toList).getD []).length

theorem total_ofNumeral (n : Numeral) : (ofNumeral n).total = n.toList.length := by
  obtain ⟨whole, fraction, exponent⟩ := n
  cases fraction with
  | none => simp [total, ofNumeral, Numeral.toList, Numeral.fractionDigits]
  | some digits =>
    simp [total, ofNumeral, Numeral.toList, Numeral.fractionDigits]
    omega

/-! ### Measuring -/

theorem asciiTest_isDigit : AsciiTest isDigit Char.isDigit where
  octet_lt b hb := by
    have hle : b ≤ '9'.toUInt8 := by simp_all [isDigit]
    exact Nat.lt_of_le_of_lt (UInt8.le_iff_toNat_le.1 hle) (by decide)
  isAscii _ := isAscii_of_isDigit
  eq c hc := by
    simp only [isDigit, Char.isDigit, UInt8.le_iff_toNat_le, UInt32.le_iff_toNat_le, ge_iff_le,
      toNat_toUInt8_of_isAscii hc]
    rfl

theorem asciiTest_isLetter : AsciiTest isLetter (fun c => c == 'e' || c == 'E') :=
  (asciiTest_beq (by decide)).or (asciiTest_beq (by decide))

theorem asciiTest_isSign : AsciiTest isSign (fun c => c == '+' || c == '-') :=
  (asciiTest_beq (by decide)).or (asciiTest_beq (by decide))

theorem countDigits_octets (cs : List Char) :
    countDigits (octets cs) = (cs.takeWhile Char.isDigit).length :=
  asciiTest_isDigit.length_takeWhile cs

theorem length_sign (cs : List Char) :
    (Exponent.scanSign cs).1.toList.length = if (octets cs).head?.any isSign then 1 else 0 := by
  rw [asciiTest_isSign.any_head?]
  unfold Exponent.scanSign
  split
  · rfl
  · rfl
  · next hplus hminus =>
    cases cs with
    | nil => rfl
    | cons c cs =>
      have hp : c ≠ '+' := fun h => hplus cs (h ▸ rfl)
      have hm : c ≠ '-' := fun h => hminus cs (h ▸ rfl)
      simp [hp, hm]

theorem ofExponent_octets (cs : List Char) :
    ofExponent (octets cs) = (((Exponent.scan cs).1.map Exponent.toList).getD []).length := by
  cases cs with
  | nil => rfl
  | cons c rest =>
    simp only [ofExponent, Exponent.scan, asciiTest_isLetter.any_head?, List.head?_cons,
      Option.any_some, Bool.or_eq_true, beq_iff_eq]
    by_cases hletter : c = 'e' ∨ c = 'E'
    · have hascii : IsAscii c := by
        obtain rfl | rfl := hletter <;> decide
      have hnext : (octets (c :: rest))[1]? = (octets rest).head? := by
        simp [octets_cons_of_isAscii hascii, List.head?_eq_getElem?]
      have hunsigned : (octets (c :: rest)).drop (1 + (Exponent.scanSign rest).1.toList.length)
          = octets (Exponent.scanSign rest).2 := by
        rw [octets_cons_of_isAscii hascii, Nat.add_comm, List.drop_succ_cons]
        exact drop_octets (Exponent.toList_scanSign rest)
          (isAscii_of_sign (Exponent.toList_fst_scanSign rest))
      rw [if_pos hletter, if_pos hletter, hnext, ← length_sign, hunsigned, countDigits_octets]
      cases hdigits : (Exponent.scanSign rest).2.takeWhile Char.isDigit with
      | nil => rfl
      | cons d ds => simp [Exponent.toList]; omega
    · rw [if_neg hletter, if_neg hletter]
      rfl

/-- A point at the front and the digits behind it. -/
theorem fraction_octets (cs : List Char) :
    let point := if (octets cs).head?.any (· == '.'.toUInt8) then 1 else 0
    let fraction := if point = 1 then countDigits ((octets cs).drop 1) else 0
    point = (if (Numeral.scanFraction cs).1.isSome then 1 else 0) ∧
      fraction = ((Numeral.scanFraction cs).1.getD []).length ∧
      (octets cs).drop (point + fraction) = octets (Numeral.scanFraction cs).2 := by
  rw [(asciiTest_beq (by decide)).any_head?]
  by_cases hpoint : cs.head? = some '.'
  · obtain ⟨rest, rfl⟩ := List.head?_eq_some_iff.1 hpoint
    have hrest : (octets ('.' :: rest)).drop 1 = octets rest := by
      rw [octets_cons_of_isAscii (by decide), List.drop_one, List.tail_cons]
    have hcut : (octets rest).drop (rest.takeWhile Char.isDigit).length
        = octets (rest.dropWhile Char.isDigit) :=
      drop_octets List.takeWhile_append_dropWhile (isAscii_of_allDigits (allDigits_takeWhile rest))
    simp [Numeral.scanFraction, hrest, countDigits_octets, ← List.drop_drop, hcut]
  · have hnone : cs.head?.any (· == '.') = false := by
      cases hhead : cs.head? with
      | none => rfl
      | some c => simpa [hhead] using hpoint
    simp [Numeral.scanFraction_of_no_point hpoint, hnone]

/-- **What is measured is what is scanned.** -/
theorem measure_octets (cs : List Char) :
    measure (octets cs) = ofNumeral (Numeral.scan cs).1 := by
  have hwhole : (octets cs).drop (cs.takeWhile Char.isDigit).length
      = octets (cs.dropWhile Char.isDigit) :=
    drop_octets List.takeWhile_append_dropWhile (isAscii_of_allDigits (allDigits_takeWhile cs))
  obtain ⟨hpoint, hfraction, hrest⟩ := fraction_octets (cs.dropWhile Char.isDigit)
  simp only [measure, countDigits_octets, ← List.head?_drop, ← List.drop_drop, hwhole]
  simp only [← List.drop_drop] at hrest
  rw [hrest, hfraction, hpoint, ofExponent_octets, Numeral.scan_eq]
  have hhas : (Numeral.unscaled cs).1.hasDigits = true ↔
      0 < (cs.takeWhile Char.isDigit).length
        + ((Numeral.scanFraction (cs.dropWhile Char.isDigit)).1.getD []).length := by
    rw [Numeral.hasDigits_iff, Nat.add_pos_iff_pos_or_pos, List.length_pos_iff, List.length_pos_iff]
    rfl
  by_cases hdigits : (Numeral.unscaled cs).1.hasDigits = true
  · rw [if_pos hdigits, if_pos (hhas.1 hdigits)]
    rfl
  · rw [if_neg hdigits, if_neg (mt hhas.2 hdigits)]
    rfl

/-- **The cuts lie between characters.** At the measured lengths the octets are cut into those of the
numeral and those of the rest, and the numeral's own behind its whole digits. -/
theorem octets_split {cs : List Char} (hdigits : (Numeral.scan cs).1.hasDigits = true) :
    let x := measure (octets cs)
    (octets cs).take x.total = octets (Numeral.scan cs).1.toList ∧
      (octets cs).drop x.total = octets (Numeral.scan cs).2 ∧
      (octets (Numeral.scan cs).1.toList).take x.whole = octets (Numeral.scan cs).1.whole := by
  have hascii := isAscii_of_isNumeral (Numeral.isNumeral_scan hdigits)
  have hwhole : ∀ c ∈ (Numeral.scan cs).1.whole, IsAscii c := fun c hc =>
    hascii c (by simp [Numeral.toList, hc])
  simp only [measure_octets, total_ofNumeral]
  refine ⟨take_octets (Numeral.toList_scan cs) hascii, drop_octets (Numeral.toList_scan cs) hascii,
    ?_⟩
  simp only [ofNumeral, Numeral.toList, List.append_assoc]
  exact take_octets rfl hwhole

end Extent

end Size

end DeviceQuota
