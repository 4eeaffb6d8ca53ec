import DeviceQuota.Proofs.Size.Octets
import DeviceQuota.Size.Parser

/-!
# What is read as a size

Behind white space and an optional `+` a size begins with a numeral, and nothing else is asked of it:
there is a failure for a text of blanks, one for a minus sign and one for the lack of a numeral, and
what follows the numeral may be anything. The numeral is the longest one that the text begins with.

A numeral that is not whole is handed over to a reader of floating-point numbers, which might refuse
it. A reader that accepts the numerals of the grammar never does.

* **`Size.parse_of_unsigned`** — reading a text with no minus sign;
* **`Size.parseVia`** — reading with a reader that may refuse, and
  **`Size.parseVia_eq_parse`**, where it does not;
* **`Size.parse_accepts_grammar`** — the texts that are read, and what each failure means.
-/

namespace DeviceQuota.Size

theorem eq_dropPlus_or (cs : List Char) : cs = dropPlus cs ∨ cs = '+' :: dropPlus cs := by
  unfold dropPlus
  split
  · exact .inr rfl
  · exact .inl rfl

/-- The characters behind white space and an optional `+`. -/
def unsigned (raw : String) : List Char := dropPlus (Text.trimStart raw.toList)

/-- A numeral is split off a text. It is the longest one that the text begins with. In octets it has
the measured length, so that it ends between two characters, and so do its digits in front of the
point. -/
structure SplitsOff (cs : List Char) (numeral : Numeral) (rest : List Char) : Prop where
  eq_append : cs = numeral.toList ++ rest
  isNumeral : IsNumeral numeral.toList
  longest : ∀ p, IsNumeral p → p <+: cs → p <+: numeral.toList
  octets_numeral :
    (Text.octets cs).take (Extent.measure (Text.octets cs)).total = Text.octets numeral.toList
  octets_rest : (Text.octets cs).drop (Extent.measure (Text.octets cs)).total = Text.octets rest
  octets_whole :
    (Text.octets numeral.toList).take (Extent.measure (Text.octets cs)).whole
      = Text.octets numeral.whole

/-- The number of bytes that `raw` denotes, where a numeral that is not whole is handed over to a
reader that may refuse it. -/
def parseVia (accepts : List Char → Bool) (raw : String) : Except Malformed Bytes :=
  match Text.trimStart raw.toList with
  | [] => .error .empty
  | '-' :: _ => .error (.negative raw)
  | signed =>
    let (numeral, rest) := Numeral.scan (dropPlus signed)
    if numeral.hasDigits then
      if numeral.isWhole || accepts numeral.toList then
        .ok (numeral.bytes (Scale.ofSuffix (Text.trimStart rest)))
      else .error (.notANumber raw)
    else .error (.notANumber raw)

variable {raw : String}

theorem parse_of_blank (h : Text.trimStart raw.toList = []) : parse raw = .error .empty := by
  simp [parse, h]

theorem parse_of_minus (h : (Text.trimStart raw.toList).head? = some '-') :
    parse raw = .error (.negative raw) := by
  obtain ⟨rest, hrest⟩ := List.head?_eq_some_iff.1 h
  simp [parse, hrest]

theorem parseVia_of_unsigned (accepts : List Char → Bool) (hsome : Text.trimStart raw.toList ≠ [])
    (hminus : (Text.trimStart raw.toList).head? ≠ some '-') :
    parseVia accepts raw =
      let (numeral, rest) := Numeral.scan (unsigned raw)
      if numeral.hasDigits then
        if numeral.isWhole || accepts numeral.toList then
          .ok (numeral.bytes (Scale.ofSuffix (Text.trimStart rest)))
        else .error (.notANumber raw)
      else .error (.notANumber raw) := by
  unfold parseVia
  split
  · contradiction
  · next h => exact absurd (by rw [h]; rfl) hminus
  · rfl

theorem parse_eq_parseVia (raw : String) : parse raw = parseVia (fun _ => true) raw := by
  simp only [parseVia, Bool.or_true, if_true]
  rfl

/-- Without a minus sign the numeral decides. -/
theorem parse_of_unsigned (hsome : Text.trimStart raw.toList ≠ [])
    (hminus : (Text.trimStart raw.toList).head? ≠ some '-') :
    parse raw =
      let (numeral, rest) := Numeral.scan (unsigned raw)
      if numeral.hasDigits then .ok (numeral.bytes (Scale.ofSuffix (Text.trimStart rest)))
      else .error (.notANumber raw) := by
  rw [parse_eq_parseVia, parseVia_of_unsigned _ hsome hminus]
  simp

/-- A reader that accepts all numerals is never asked in vain. -/
theorem parseVia_eq_parse {accepts : List Char → Bool}
    (haccepts : ∀ cs, IsNumeral cs → accepts cs = true) (raw : String) :
    parseVia accepts raw = parse raw := by
  by_cases hsome : Text.trimStart raw.toList = []
  · simp [parseVia, parse, hsome]
  · by_cases hminus : (Text.trimStart raw.toList).head? = some '-'
    · obtain ⟨rest, hrest⟩ := List.head?_eq_some_iff.1 hminus
      simp [parseVia, parse, hrest]
    · rw [parseVia_of_unsigned accepts hsome hminus, parse_of_unsigned hsome hminus]
      cases hdigits : (Numeral.scan (unsigned raw)).1.hasDigits with
      | false => simp only [hdigits, Bool.false_eq_true, if_false]
      | true =>
        have haccepted := haccepts _ (Numeral.isNumeral_scan hdigits)
        simp only [hdigits, haccepted, Bool.or_true, if_true]

/-- The four ends of reading a text. -/
theorem parse_cases (raw : String) :
    (Text.trimStart raw.toList = [] ∧ parse raw = .error .empty) ∨
    ((Text.trimStart raw.toList).head? = some '-' ∧ parse raw = .error (.negative raw)) ∨
    Text.trimStart raw.toList ≠ [] ∧ (Text.trimStart raw.toList).head? ≠ some '-' ∧
      (¬ StartsNumber (unsigned raw) ∧
          parse raw = .error (.notANumber raw) ∨
        StartsNumber (unsigned raw) ∧
          parse raw =
            let (numeral, rest) := Numeral.scan (unsigned raw)
            .ok (numeral.bytes (Scale.ofSuffix (Text.trimStart rest)))) := by
  by_cases hsome : Text.trimStart raw.toList = []
  · exact .inl ⟨hsome, parse_of_blank hsome⟩
  · by_cases hminus : (Text.trimStart raw.toList).head? = some '-'
    · exact .inr (.inl ⟨hminus, parse_of_minus hminus⟩)
    · refine .inr (.inr ⟨hsome, hminus, ?_⟩)
      have hread := parse_of_unsigned hsome hminus
      rw [← Numeral.hasDigits_scan_iff]
      by_cases hdigits : (Numeral.scan (unsigned raw)).1.hasDigits = true
      · exact .inr ⟨hdigits, hread.trans (if_pos hdigits)⟩
      · exact .inl ⟨hdigits, hread.trans (if_neg hdigits)⟩

theorem splitsOff_scan {cs : List Char} (h : StartsNumber cs) :
    SplitsOff cs (Numeral.scan cs).1 (Numeral.scan cs).2 := by
  have hdigits := (Numeral.hasDigits_scan_iff cs).2 h
  obtain ⟨hnumeral, hrest, hwhole⟩ := Extent.octets_split hdigits
  exact
    { eq_append := (Numeral.toList_scan cs).symm
      isNumeral := Numeral.isNumeral_scan hdigits
      longest := fun _ hp hfront => Numeral.prefix_scan hp hfront
      octets_numeral := hnumeral
      octets_rest := hrest
      octets_whole := hwhole }

/-- **What is read as a size.** White space is taken from the front of a text, and then a `+`.

There is nothing else exactly where the failure says so, and a minus sign exactly where the failure
says so; otherwise the text is not a number exactly where it goes on neither with a digit nor with a
point and a digit, and it is read in every other case. What is read is the longest numeral of the
grammar, and the unit behind it. A reader of numerals that accepts the grammar refuses nothing that it
is given. -/
theorem parse_accepts_grammar (raw : String) :
    (parse raw = .error .empty ↔ Text.trimStart raw.toList = []) ∧
    (parse raw = .error (.negative raw) ↔ (Text.trimStart raw.toList).head? = some '-') ∧
    (parse raw = .error (.notANumber raw) ↔
      Text.trimStart raw.toList ≠ [] ∧ (Text.trimStart raw.toList).head? ≠ some '-' ∧
        ¬ StartsNumber (unsigned raw)) ∧
    ((∃ bytes, parse raw = .ok bytes) ↔
      Text.trimStart raw.toList ≠ [] ∧ (Text.trimStart raw.toList).head? ≠ some '-' ∧
        StartsNumber (unsigned raw)) ∧
    (∀ bytes, parse raw = .ok bytes → ∃ numeral rest, SplitsOff (unsigned raw) numeral rest ∧
      bytes = numeral.bytes (Scale.ofSuffix (Text.trimStart rest))) ∧
    ∀ accepts : List Char → Bool, (∀ cs, IsNumeral cs → accepts cs = true) →
      parseVia accepts raw = parse raw := by
  have hvia : ∀ accepts : List Char → Bool, (∀ cs, IsNumeral cs → accepts cs = true) →
      parseVia accepts raw = parse raw := fun _ haccepts => parseVia_eq_parse haccepts raw
  obtain ⟨hblank, hparse⟩ | ⟨hminus, hparse⟩ | ⟨hsome, hminus, hends⟩ := parse_cases raw
  · exact ⟨by simp [hparse, hblank], by simp [hparse, hblank], by simp [hparse, hblank],
      by simp [hparse, hblank], by simp [hparse], hvia⟩
  · have hsome : Text.trimStart raw.toList ≠ [] := by
      rintro hnil
      simp [hnil] at hminus
    exact ⟨by simp [hparse, hsome], by simp [hparse, hminus], by simp [hparse, hminus],
      by simp [hparse, hminus], by simp [hparse], hvia⟩
  · obtain ⟨hnot, hparse⟩ | ⟨hnumber, hparse⟩ := hends
    · exact ⟨by simp [hparse, hsome], by simp [hparse, hminus],
        by simp [hparse, hsome, hminus, hnot], by simp [hparse, hnot], by simp [hparse], hvia⟩
    · refine ⟨by simp [hparse, hsome], by simp [hparse, hminus], by simp [hparse, hnumber],
        by simp [hparse, hsome, hminus, hnumber], ?_, hvia⟩
      intro bytes hbytes
      exact ⟨_, _, splitsOff_scan hnumber, Except.ok.inj (hbytes.symm.trans hparse)⟩

/-- A reader that accepts what the scanner reads to the end. -/
def readsToEnd (cs : List Char) : Bool :=
  (Numeral.scan cs).1.hasDigits && (Numeral.scan cs).2.isEmpty

theorem readsToEnd_of_isNumeral {cs : List Char} (h : IsNumeral cs) : readsToEnd cs = true := by
  have hstarts : StartsNumber cs := by
    cases h with
    | plain hm => simpa using Numeral.startsNumber_of_isMantissa hm []
    | scaled hm _ => exact Numeral.startsNumber_of_isMantissa hm _
  have hall := (Numeral.prefix_scan h List.prefix_rfl).length_le
  have hlength := congrArg List.length (Numeral.toList_scan cs)
  rw [List.length_append] at hlength
  have hrest : (Numeral.scan cs).2 = [] := List.length_eq_zero_iff.1 (by omega)
  simp [readsToEnd, (Numeral.hasDigits_scan_iff cs).2 hstarts, hrest]

/-- The letter begins no exponent, as no digit follows it, and no unit either. -/
theorem parse_accepts_grammar_letter :
    parse "\u2003+1.50e+Mi" = .ok 1 ∧ parseVia readsToEnd "\u2003+1.50e+Mi" = .ok 1 ∧
      ∃ numeral rest, SplitsOff "1.50e+Mi".toList numeral rest := by
  have hparse : parse "\u2003+1.50e+Mi" = .ok 1 := by rfl
  obtain ⟨-, -, -, -, hread, hvia⟩ := parse_accepts_grammar "\u2003+1.50e+Mi"
  obtain ⟨numeral, rest, hsplit, -⟩ := hread 1 hparse
  exact ⟨hparse, (hvia readsToEnd fun _ => readsToEnd_of_isNumeral).trans hparse, numeral, rest,
    hsplit⟩

end DeviceQuota.Size
