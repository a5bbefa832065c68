import Breero.Geography.Models
import Breero.Lib.Text
import Breero.Lib.Transaction

/-!
The three readers of a ZIP code: of a booking, of the geography schemas and of an address
that the geocoding provider returns.

* `Zip digit cs zip plus4` is the format, for a given class of digits;
* `booking_reads`, `geography_reads` and `geocoding_reads` say which texts each accepts;
* `readers_agree_iff`: the three agree on a text iff it is not nine digits in a row and has
  no digits but those of ASCII where it has the format.
-/

namespace Breero
open Transaction

/-! ## The readers -/

structure USPostalCode where
  postalCode : String
  plus4 : Option String := none
  deriving DecidableEq, Repr

/-- `ZIP_PATTERN`: `^(?P<zip>\d{5})(?:-(?P<plus4>\d{4}))?$` -/
def zipPattern (digit : Char → Bool) (cs : List Char) :
    Option (List Char × Option (List Char)) :=
  if (cs.take 5).length = 5 ∧ (cs.take 5).all digit then
    match cs.drop 5 with
    | [] => some (cs.take 5, none)
    | sep :: plus4 =>
      if sep = '-' ∧ plus4.length = 4 ∧ plus4.all digit then some (cs.take 5, some plus4)
      else none
  else none

def normalizeUsPostalCode (value : String) : Except Raised USPostalCode := do
  let normalized := strip value
  let groups ← orRaise (zipPattern isDecimal normalized.toList)
    (.domainError "INVALID_ZIP_CODE" "A five-digit U.S. ZIP or ZIP+4 is required" 422)
  return { postalCode := String.ofList groups.1, plus4 := groups.2.map String.ofList }

namespace Geography

/-- The parts of a code that is normalized. -/
def PostalCode.parts (code : PostalCode) : USPostalCode :=
  let pieces := Text.splitOnce '-' code.val.toList
  { postalCode := String.ofList pieces.1, plus4 := pieces.2.map String.ofList }

end Geography

/-- A hyphen after the fifth of nine digits in a row. -/
def hyphenated (cs : List Char) : List Char :=
  if cs.length = 9 ∧ cs.all isDigit then cs.take 5 ++ '-' :: cs.drop 5 else cs

/-- `_postal_code` of the geocoding provider: `raw` is the property of the feature, if it
has one. -/
def geocodedPostalCode (raw : Option String) : Except Raised USPostalCode := do
  let value := strip (raw.getD "")
  let pieces := Text.splitOnce '-' (hyphenated value.toList)
  require (¬ (pieces.1.length ≠ 5 ∨ ¬ pieces.1.all isDigit ∨
      ∃ plus4 ∈ pieces.2, plus4.length ≠ 4 ∨ ¬ plus4.all isDigit))
    (.domainError "ADDRESS_ZIP_INVALID" "A five-digit U.S. ZIP code is required." 422)
  return { postalCode := String.ofList pieces.1, plus4 := pieces.2.map String.ofList }

/-! ## The format -/

/-- `cs` is five digits `zip`, followed by a hyphen and four digits if there is a `plus4`. -/
structure Zip (digit : Char → Bool) (cs zip : List Char) (plus4 : Option (List Char)) :
    Prop where
  text : cs = Text.joinOnce '-' zip plus4
  zip_length : zip.length = 5
  zip_digits : ∀ c ∈ zip, digit c = true
  plus4_length : ∀ ext ∈ plus4, ext.length = 4
  plus4_digits : ∀ ext ∈ plus4, ∀ c ∈ ext, digit c = true

namespace Zip

variable {digit digit' : Char → Bool} {cs zip zip' : List Char}
  {plus4 plus4' : Option (List Char)}

theorem imp (h : Zip digit cs zip plus4) (himp : ∀ c ∈ cs, digit c = true → digit' c = true) :
    Zip digit' cs zip plus4 := by
  obtain ⟨htext, hzip, hdigits, hplus4, hext⟩ := h
  refine ⟨htext, hzip, fun c hc => himp c ?_ (hdigits c hc), hplus4,
    fun ext hmem c hc => himp c ?_ (hext ext hmem c hc)⟩
  · rw [htext]
    cases plus4 with
    | none => exact hc
    | some ext => exact List.mem_append_left _ hc
  · cases hmem
    rw [htext]
    exact List.mem_append_right _ (List.mem_cons_of_mem _ hc)

theorem length (h : Zip digit cs zip plus4) : cs.length = 5 ∨ cs.length = 10 := by
  rw [h.text]
  cases plus4 with
  | none => exact .inl h.zip_length
  | some ext =>
    have hext := h.plus4_length ext rfl
    have hzip := h.zip_length
    right
    simp only [Text.joinOnce, List.length_append, List.length_cons]
    omega

/-- A text that has the format, but for its hyphen, is made of digits. -/
theorem mem_digits (h : Zip digit cs zip plus4) {c : Char} (hc : c ∈ cs) :
    c = '-' ∨ digit c = true := by
  rw [h.text] at hc
  cases plus4 with
  | none => exact .inr (h.zip_digits c hc)
  | some ext =>
    rcases List.mem_append.mp hc with hc | hc
    · exact .inr (h.zip_digits c hc)
    · rcases List.mem_cons.mp hc with hc | hc
      · exact .inl hc
      · exact .inr (h.plus4_digits ext rfl c hc)

theorem zipPattern_eq_some_iff :
    zipPattern digit cs = some (zip, plus4) ↔ Zip digit cs zip plus4 := by
  unfold zipPattern
  constructor
  · intro h
    split at h
    · next hzip =>
      have hcs := List.take_append_drop 5 cs
      split at h
      · next hrest =>
        cases h
        rw [hrest, List.append_nil] at hcs
        exact ⟨hcs.symm, hzip.1, List.all_eq_true.mp hzip.2, nofun, nofun⟩
      · next sep ext hrest =>
        split at h
        · next hplus4 =>
          cases h
          obtain ⟨rfl, hlength, hdigits⟩ := hplus4
          rw [hrest] at hcs
          refine ⟨hcs.symm, hzip.1, List.all_eq_true.mp hzip.2, ?_, ?_⟩
          · rintro _ ⟨⟩
            exact hlength
          · rintro _ ⟨⟩
            exact List.all_eq_true.mp hdigits
        · cases h
    · cases h
  · rintro ⟨rfl, hzip, hdigits, hplus4, hext⟩
    have htake : (Text.joinOnce '-' zip plus4).take 5 = zip := by
      cases plus4 with
      | none => exact List.take_of_length_le (le_of_eq hzip)
      | some ext => exact List.take_left' hzip
    rw [if_pos (by rw [htake]; exact ⟨hzip, List.all_eq_true.mpr hdigits⟩), htake]
    cases plus4 with
    | none =>
      have hdrop : (Text.joinOnce '-' zip none).drop 5 = [] :=
        List.drop_of_length_le (le_of_eq hzip)
      rw [hdrop]
    | some ext =>
      have hdrop : (Text.joinOnce '-' zip (some ext)).drop 5 = '-' :: ext := List.drop_left' hzip
      rw [hdrop]
      exact if_pos ⟨rfl, hplus4 ext rfl, List.all_eq_true.mpr (hext ext rfl)⟩

/-- The first hyphen separates the parts, as it is no digit. -/
theorem iff_splitOnce (hhyphen : digit '-' = false) :
    Zip digit cs zip plus4 ↔ Text.splitOnce '-' cs = (zip, plus4) ∧
      zip.length = 5 ∧ zip.all digit ∧ ∀ ext ∈ plus4, ext.length = 4 ∧ ext.all digit := by
  rw [Text.splitOnce_eq_iff]
  constructor
  · rintro ⟨htext, hzip, hdigits, hplus4, hext⟩
    have hfree : '-' ∉ zip := by
      intro hmem
      rw [hdigits '-' hmem] at hhyphen
      cases hhyphen
    exact ⟨⟨htext, hfree⟩, hzip, List.all_eq_true.mpr hdigits,
      fun ext hmem => ⟨hplus4 ext hmem, List.all_eq_true.mpr (hext ext hmem)⟩⟩
  · rintro ⟨⟨htext, -⟩, hzip, hdigits, hplus4⟩
    exact ⟨htext, hzip, List.all_eq_true.mp hdigits, fun ext hmem => (hplus4 ext hmem).1,
      fun ext hmem => List.all_eq_true.mp (hplus4 ext hmem).2⟩

end Zip

/-! ## What each reader accepts -/

/-- A code that is read from a text in the format. -/
def Reads (digit : Char → Bool) (cs : List Char) (code : USPostalCode) : Prop :=
  ∃ zip plus4, Zip digit cs zip plus4 ∧
    code = { postalCode := String.ofList zip, plus4 := plus4.map String.ofList }

theorem booking_reads {value : String} {code : USPostalCode} :
    normalizeUsPostalCode value = .ok code ↔ Reads isDecimal (strip value).toList code := by
  simp only [normalizeUsPostalCode, seq_committed, orRaise_committed, return_committed]
  constructor
  · rintro ⟨⟨zip, plus4⟩, hmatch, rfl⟩
    exact ⟨zip, plus4, Zip.zipPattern_eq_some_iff.mp hmatch, rfl⟩
  · rintro ⟨zip, plus4, hzip, rfl⟩
    exact ⟨(zip, plus4), Zip.zipPattern_eq_some_iff.mpr hzip, rfl⟩

theorem geocoding_reads {value : String} {code : USPostalCode} :
    geocodedPostalCode (some value) = .ok code ↔
      Reads isDigit (hyphenated (strip value).toList) code := by
  have hvalid : ∀ (zip : List Char) (plus4 : Option (List Char)),
      ¬ (zip.length ≠ 5 ∨ ¬ zip.all isDigit ∨
        ∃ ext ∈ plus4, ext.length ≠ 4 ∨ ¬ ext.all isDigit) ↔
      zip.length = 5 ∧ zip.all isDigit ∧ ∀ ext ∈ plus4, ext.length = 4 ∧ ext.all isDigit := by
    intro zip plus4
    push Not
    exact Iff.rfl
  simp only [geocodedPostalCode, Option.getD_some, seq_committed, require_committed,
    return_committed, hvalid]
  generalize hyphenated (strip value).toList = cs
  constructor
  · rintro ⟨_, hshape, rfl⟩
    exact ⟨_, _, (Zip.iff_splitOnce not_isDigit_hyphen).mpr ⟨rfl, hshape⟩, rfl⟩
  · rintro ⟨zip, plus4, hzip, rfl⟩
    obtain ⟨hsplit, hshape⟩ := (Zip.iff_splitOnce not_isDigit_hyphen).mp hzip
    rw [hsplit]
    exact ⟨(), hshape, rfl⟩

namespace Geography

theorem zipRe_iff {s : String} :
    zipRe s ↔ ∃ zip plus4, Zip isAsciiDigit s.toList zip plus4 := by
  simp only [zipRe, Bool.or_eq_true, Bool.and_eq_true, decide_eq_true_eq]
  constructor
  · rintro (⟨hlength, hdigits⟩ | ⟨⟨⟨hlength, hfirst⟩, hhyphen⟩, hlast⟩)
    · exact ⟨s.toList, none, rfl, hlength, List.all_eq_true.mp hdigits, nofun, nofun⟩
    · refine ⟨s.toList.take 5, some (s.toList.drop 6), ?_, ?_, List.all_eq_true.mp hfirst, ?_, ?_⟩
      · have hrest : s.toList.drop 5 = '-' :: s.toList.drop 6 := by
          rw [List.head?_eq_some_iff] at hhyphen
          obtain ⟨rest, hrest⟩ := hhyphen
          have hdrop := congrArg (List.drop 1) hrest
          rw [List.drop_drop, List.drop_one, List.tail_cons] at hdrop
          rw [hrest, hdrop]
        rw [Text.joinOnce, ← hrest, List.take_append_drop]
      · rw [List.length_take]
        omega
      · rintro _ ⟨⟩
        rw [List.length_drop]
        omega
      · rintro _ ⟨⟩
        exact List.all_eq_true.mp hlast
  · rintro ⟨zip, plus4, hzip⟩
    cases plus4 with
    | none =>
      left
      rw [hzip.text]
      exact ⟨hzip.zip_length, List.all_eq_true.mpr hzip.zip_digits⟩
    | some ext =>
      right
      have hdrop : (zip ++ '-' :: ext).drop 5 = '-' :: ext := List.drop_left' hzip.zip_length
      have hext := hzip.plus4_length ext rfl
      rw [hzip.text]
      simp only [Text.joinOnce]
      refine ⟨⟨⟨?_, ?_⟩, ?_⟩, ?_⟩
      · rw [List.length_append, hzip.zip_length, List.length_cons, hext]
      · rw [List.take_left' hzip.zip_length]
        exact List.all_eq_true.mpr hzip.zip_digits
      · rw [hdrop]
        rfl
      · rw [← List.drop_drop (i := 1) (j := 5), hdrop]
        exact List.all_eq_true.mpr (hzip.plus4_digits ext rfl)

/-- A text without white space is trimmed to itself. -/
theorem strip_eq_self {s : String} (h : ∀ c ∈ s.toList, isSpace c = false) : strip s = s := by
  have hleft : s.toList.dropWhile isSpace = s.toList :=
    List.dropWhile_eq_self_iff.mpr fun hl => Bool.eq_false_iff.mp (h _ (List.getElem_mem hl))
  have hright : s.toList.reverse.dropWhile isSpace = s.toList.reverse :=
    List.dropWhile_eq_self_iff.mpr fun hl =>
      Bool.eq_false_iff.mp (h _ (List.mem_reverse.mp (List.getElem_mem hl)))
  rw [strip, hleft, hright, List.reverse_reverse, String.ofList_toList]

theorem not_isSpace_of_digit {c : Char} (h : isAsciiDigit c = true) : isSpace c = false := by
  simp only [isAsciiDigit, Bool.and_eq_true, decide_eq_true_eq] at h
  have hfirst : '0'.toNat ≤ c.toNat := h.1
  have hlast : c.toNat ≤ '9'.toNat := h.2
  have hzero : '0'.toNat = 48 := rfl
  have hnine : '9'.toNat = 57 := rfl
  simp only [isSpace, List.mem_cons, List.not_mem_nil, or_false, not_or, Bool.or_eq_false_iff,
    Bool.and_eq_false_iff, decide_eq_false_iff_not]
  omega

/-- A code that is normalized is read as itself. -/
theorem normalizePostalCode_val (code : PostalCode) : normalizePostalCode code.val = some code := by
  obtain ⟨zip, plus4, hzip⟩ := zipRe_iff.mp code.property
  have hstrip : strip code.val = code.val := by
    refine strip_eq_self fun c hc => ?_
    rcases hzip.mem_digits hc with rfl | hdigit
    · decide
    · exact not_isSpace_of_digit hdigit
  have hlength : ¬ (code.val.toList.length = 9 ∧ code.val.toList.all isDigit) := by
    rcases hzip.length with h | h <;> omega
  simp only [normalizePostalCode, hstrip, hlength, if_false, code.property, dite_true]

theorem geography_reads {value : String} {code : USPostalCode} :
    (normalizePostalCode value).map PostalCode.parts = some code ↔
      Reads isAsciiDigit (hyphenated (strip value).toList) code := by
  have hhyphen : isAsciiDigit '-' = false := by decide
  have hcode : normalizePostalCode value =
      if h : zipRe (String.ofList (hyphenated (strip value).toList)) then
        some ⟨String.ofList (hyphenated (strip value).toList), h⟩
      else none := by
    simp only [normalizePostalCode, hyphenated]
    split
    · rfl
    · simp only [String.ofList_toList]
  rw [hcode]
  generalize hyphenated (strip value).toList = cs
  constructor
  · intro h
    split at h
    · next hzip =>
      simp only [Option.map_some, Option.some.injEq, PostalCode.parts] at h
      obtain ⟨zip, plus4, hzip⟩ := zipRe_iff.mp hzip
      obtain ⟨hsplit, _⟩ := (Zip.iff_splitOnce hhyphen).mp hzip
      rw [hsplit] at h
      rw [String.toList_ofList] at hzip
      exact ⟨zip, plus4, hzip, h.symm⟩
    · cases h
  · rintro ⟨zip, plus4, hzip, rfl⟩
    rw [← String.toList_ofList (l := cs)] at hzip
    obtain ⟨hsplit, _⟩ := (Zip.iff_splitOnce hhyphen).mp hzip
    rw [dif_pos (zipRe_iff.mpr ⟨zip, plus4, hzip⟩)]
    simp only [Option.map_some, PostalCode.parts, hsplit]

end Geography

/-! ## Where they agree -/

section
variable {digit digit' : Char → Bool} {cs : List Char} {code code' : USPostalCode}

theorem Reads.imp (h : Reads digit cs code) (himp : ∀ c ∈ cs, digit c = true → digit' c = true) :
    Reads digit' cs code := by
  obtain ⟨zip, plus4, hzip, rfl⟩ := h
  exact ⟨zip, plus4, hzip.imp himp, rfl⟩

theorem Reads.digits (h : Reads digit cs code) : ∀ c ∈ code.postalCode.toList, digit c = true := by
  obtain ⟨zip, plus4, hzip, rfl⟩ := h
  intro c hc
  rw [String.toList_ofList] at hc
  exact hzip.zip_digits c hc

theorem Reads.length (h : Reads digit cs code) : cs.length = 5 ∨ cs.length = 10 := by
  obtain ⟨zip, plus4, hzip, rfl⟩ := h
  exact hzip.length

theorem Reads.mem_digits (h : Reads digit cs code) {c : Char} (hc : c ∈ cs) :
    c = '-' ∨ digit c = true := by
  obtain ⟨zip, plus4, hzip, rfl⟩ := h
  exact hzip.mem_digits hc

theorem isSome_zipPattern_iff : (zipPattern digit cs).isSome ↔ ∃ code, Reads digit cs code := by
  rw [Option.isSome_iff_exists]
  constructor
  · rintro ⟨⟨zip, plus4⟩, hmatch⟩
    exact ⟨_, zip, plus4, Zip.zipPattern_eq_some_iff.mp hmatch, rfl⟩
  · rintro ⟨_, zip, plus4, hzip, -⟩
    exact ⟨(zip, plus4), Zip.zipPattern_eq_some_iff.mpr hzip⟩

/-- Digits that are characters of ASCII are digits of ASCII. -/
theorem Reads.ascii (h : Reads isDigit cs code)
    (hascii : (zipPattern isDigit cs).isSome → ∀ c ∈ cs, c.toNat < 128) :
    Reads isAsciiDigit cs code :=
  h.imp fun c hc => isDigit_ascii (hascii (isSome_zipPattern_iff.mpr ⟨code, h⟩) c hc)

/-- Nine digits in a row are read as if they had their hyphen. -/
theorem exists_reads_hyphenated (h : cs.length = 9 ∧ cs.all isDigit) :
    ∃ code, Reads isDigit (hyphenated cs) code := by
  have hdigits := List.all_eq_true.mp h.2
  refine ⟨_, cs.take 5, some (cs.drop 5), ⟨?_, ?_, ?_, ?_, ?_⟩, rfl⟩
  · rw [hyphenated, if_pos h, Text.joinOnce]
  · rw [List.length_take]
    omega
  · exact fun c hc => hdigits c (List.mem_of_mem_take hc)
  · rintro _ ⟨⟩
    rw [List.length_drop]
    omega
  · rintro _ ⟨⟩ c hc
    exact hdigits c (List.mem_of_mem_drop hc)

end

/-- The three readers accept the text or refuse it, with the same parts, and the ZIP is
made of the digits of ASCII. -/
def ReadersAgree (value : String) : Prop :=
  (normalizeUsPostalCode value).toOption =
      (Geography.normalizePostalCode value).map Geography.PostalCode.parts ∧
    (Geography.normalizePostalCode value).map Geography.PostalCode.parts =
      (geocodedPostalCode (some value)).toOption ∧
    ∀ code ∈ (normalizeUsPostalCode value).toOption,
      ∀ c ∈ code.postalCode.toList, isAsciiDigit c = true

instance (value : String) : Decidable (ReadersAgree value) :=
  inferInstanceAs (Decidable (_ ∧ _ ∧ _))

theorem toOption_eq_some {ε α : Type} {r : Except ε α} {a : α} :
    r.toOption = some a ↔ r = .ok a := by
  cases r with
  | error e => simp [Except.toOption]
  | ok b => simp [Except.toOption]

/-- **The three readers agree** on the texts that, trimmed, are not nine digits in a row and
have no digits but those of ASCII where they are five digits or five and four. -/
theorem readers_agree_iff (value : String) :
    ReadersAgree value ↔
      ¬ ((strip value).toList.length = 9 ∧ (strip value).toList.all isDigit) ∧
        ((zipPattern isDigit (strip value).toList).isSome →
          ∀ c ∈ (strip value).toList, c.toNat < 128) := by
  have hbooking : ∀ code, (normalizeUsPostalCode value).toOption = some code ↔
      Reads isDecimal (strip value).toList code :=
    fun code => toOption_eq_some.trans booking_reads
  have hgeocoding : ∀ code, (geocodedPostalCode (some value)).toOption = some code ↔
      Reads isDigit (hyphenated (strip value).toList) code :=
    fun code => toOption_eq_some.trans geocoding_reads
  have hgeography : ∀ code,
      (Geography.normalizePostalCode value).map Geography.PostalCode.parts = some code ↔
        Reads isAsciiDigit (hyphenated (strip value).toList) code :=
    fun code => Geography.geography_reads
  unfold ReadersAgree
  generalize (normalizeUsPostalCode value).toOption = booked at *
  generalize (geocodedPostalCode (some value)).toOption = geocoded at *
  generalize (Geography.normalizePostalCode value).map Geography.PostalCode.parts = listed at *
  generalize (strip value).toList = cs at *
  constructor
  · rintro ⟨hfirst, hsecond, -⟩
    have hplain : ¬ (cs.length = 9 ∧ cs.all isDigit) := by
      -- nine digits in a row are no code of a booking
      intro hnine
      obtain ⟨code, hreads⟩ := exists_reads_hyphenated hnine
      rw [← hgeocoding, ← hsecond, ← hfirst, hbooking] at hreads
      rcases hreads.length with hlength | hlength <;> omega
    rw [hyphenated, if_neg hplain] at hgeography hgeocoding
    refine ⟨hplain, fun hsome c hc => ?_⟩
    obtain ⟨code, hreads⟩ := isSome_zipPattern_iff.mp hsome
    rw [← hgeocoding, ← hsecond, hgeography] at hreads
    rcases hreads.mem_digits hc with rfl | hdigit
    · decide
    · exact ascii_of_isAsciiDigit hdigit
  · rintro ⟨hplain, hascii⟩
    rw [hyphenated, if_neg hplain] at hgeography hgeocoding
    refine ⟨Option.ext fun code => ?_, Option.ext fun code => ?_, fun code hcode => ?_⟩
    · rw [hbooking, hgeography]
      constructor
      · intro h
        exact (h.imp fun c _ => isDigit_of_decimal).ascii hascii
      · intro h
        exact h.imp fun c _ => isDecimal_of_ascii
    · rw [hgeography, hgeocoding]
      constructor
      · intro h
        exact h.imp fun c _ hdigit => isDigit_of_decimal (isDecimal_of_ascii hdigit)
      · intro h
        exact h.ascii hascii
    · have hreads := (hbooking code).mp hcode
      exact ((hreads.imp fun c _ => isDigit_of_decimal).ascii hascii).digits

/-- Only the booking refuses nine digits in a row, and only the geography schemas refuse
digits of another script. -/
theorem readers_disagree :
    ¬ ReadersAgree "123456789" ∧ ¬ ReadersAgree "１２３４５" := by
  decide

end Breero
