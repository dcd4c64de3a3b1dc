/-
# RFC 3339 texts

The spellings of an instant: a date and time with any number of fractional
digits up to nanoseconds, in any offset from UTC, its letters in either case.
One spelling is canonical, in UTC with nine fractional digits; it has a fixed
width from year zero on, so canonical texts are ordered as instants.

Key theorems: `parse_text`, `text_ofNanoseconds`, `print_lt`.
-/
import Sentinel.Lib.Calendar
import Sentinel.Lib.FixedWidth

namespace Rfc3339

open Calendar FixedWidth

/-! ### Spellings -/

inductive Offset where
  | utc (letter : Char)
  | numeric (negative : Bool) (hours minutes : ℕ)
  deriving DecidableEq, Repr

namespace Offset

def Valid : Offset → Prop
  | utc letter => letter.toUpper = 'Z'
  | numeric _ hours minutes => hours < 24 ∧ minutes < 60

def seconds : Offset → ℤ
  | utc _ => 0
  | numeric negative hours minutes => (if negative then -1 else 1) * ((hours * 60 + minutes) * 60)

def text : Offset → List Char
  | utc letter => [letter]
  | numeric negative hours minutes => (if negative then '-' else '+') :: padded 2 hours ++ ':' :: padded 2 minutes

end Offset

structure Spelling where
  date : Date
  /-- The letter between the date and the time. -/
  separator : Char
  hour : ℕ
  minute : ℕ
  second : ℕ
  /-- The fractional digits; without any there is no decimal point. -/
  fraction : List Char
  offset : Offset
  deriving DecidableEq, Repr

namespace Spelling

/-- The nanoseconds that fractional digits spell. -/
def fractionNanoseconds (fraction : List Char) : ℕ :=
  Nat.ofDigitChars 10 fraction 0 * 10 ^ (9 - fraction.length)

def civil (spelling : Spelling) : Civil :=
  ⟨spelling.date, spelling.hour, spelling.minute, spelling.second, fractionNanoseconds spelling.fraction⟩

structure Valid (spelling : Spelling) : Prop where
  date : spelling.date.Valid
  year_nonneg : 0 ≤ spelling.date.year
  year_lt : spelling.date.year < 10000
  separator : spelling.separator.toUpper = 'T'
  hour : spelling.hour < 24
  minute : spelling.minute < 60
  second : spelling.second < 60
  digits : ∀ c ∈ spelling.fraction, c.isDigit
  precision : spelling.fraction.length ≤ 9
  offset : spelling.offset.Valid

/-- The instant a spelling denotes. -/
def nanoseconds (spelling : Spelling) : ℤ :=
  spelling.civil.nanoseconds - spelling.offset.seconds * 1000000000

def fractionText (fraction : List Char) : List Char := if fraction = [] then [] else '.' :: fraction

/-- The parts of a text before its seconds. -/
def layout (separator : Char) : Layout := [(4, '-'), (2, '-'), (2, separator), (2, ':'), (2, ':')]

def text (spelling : Spelling) : String :=
  String.ofList (writeFields (layout spelling.separator)
      [spelling.date.year.toNat, spelling.date.month, spelling.date.day, spelling.hour, spelling.minute] ++
    (padded 2 spelling.second ++ (fractionText spelling.fraction ++ spelling.offset.text)))

end Spelling

/-! ### Reading -/

def readOffset : List Char → Option Offset
  | sign :: text =>
    if sign.toUpper = 'Z' then if text = [] then some (.utc sign) else none
    else if sign = '+' ∨ sign = '-' then
      match readFields [(2, ':')] text with
      | some ([hours], text) =>
        match readDigits 2 text with
        | some (minutes, []) => some (.numeric (sign = '-') hours minutes)
        | _ => none
      | _ => none
    else none
  | [] => none

def readFraction : List Char → List Char × List Char
  | '.' :: text => (text.takeWhile Char.isDigit, text.dropWhile Char.isDigit)
  | text => ([], text)

def read (text : List Char) : Option Spelling :=
  match readFields (Spelling.layout 'T') text with
  | some ([year, month, day, hour, minute], text) => do
    let (second, text) ← readDigits 2 text
    let (fraction, text) := readFraction text
    let offset ← readOffset text
    return ⟨⟨year, month, day⟩, 'T', hour, minute, second, fraction, offset⟩
  | _ => none

theorem toUpper_of_isDigit {c : Char} (h : c.isDigit) : c.toUpper = c := by
  simp only [Char.isDigit, Bool.and_eq_true, decide_eq_true_eq] at h
  have hhigh : c.val.toNat ≤ 57 := h.2
  unfold Char.toUpper
  split
  · rename_i hlower
    have hlow : 97 ≤ c.val.toNat := hlower.1
    omega
  · rfl

/-- No offset begins as a fraction goes on. -/
theorem Offset.exists_cons_text {offset : Offset} (h : offset.Valid) :
    ∃ c rest, offset.text = c :: rest ∧ c.isDigit = false ∧ c ≠ '.' := by
  cases offset with
  | utc letter =>
    refine ⟨letter, [], rfl, ?_, ?_⟩
    · by_contra hdigit
      have hdigit := Bool.not_eq_false _ ▸ hdigit
      have hletter : letter.toUpper = 'Z' := h
      rw [toUpper_of_isDigit hdigit] at hletter
      rw [hletter] at hdigit
      exact absurd hdigit (by decide)
    · rintro rfl
      have hpoint : '.'.toUpper = 'Z' := h
      exact absurd hpoint (by decide)
  | numeric negative hours minutes =>
    cases negative
    · exact ⟨'+', _, rfl, by decide, by decide⟩
    · exact ⟨'-', _, rfl, by decide, by decide⟩

theorem readFraction_append {fraction : List Char} (hdigits : ∀ c ∈ fraction, c.isDigit) {c : Char}
    {rest : List Char} (hdigit : c.isDigit = false) (hpoint : c ≠ '.') :
    readFraction (Spelling.fractionText fraction ++ c :: rest) = (fraction, c :: rest) := by
  by_cases hempty : fraction = []
  · rw [hempty, Spelling.fractionText, if_pos rfl, List.nil_append]
    unfold readFraction
    split
    · rename_i heq
      exact absurd (List.cons.inj heq).1 hpoint
    · rfl
  · have hstop : ¬ c.isDigit = true := by rw [hdigit]; decide
    rw [Spelling.fractionText, if_neg hempty, List.cons_append, readFraction,
      List.takeWhile_append_of_pos hdigits, List.takeWhile_cons_of_neg hstop, List.append_nil,
      List.dropWhile_append_of_pos hdigits, List.dropWhile_cons_of_neg hstop]

theorem readOffset_text {offset : Offset} (h : offset.Valid) : readOffset offset.text = some offset := by
  cases offset with
  | utc letter =>
    have hletter : letter.toUpper = 'Z' := h
    rw [Offset.text, readOffset, if_pos hletter, if_pos rfl]
  | numeric negative hours minutes =>
    obtain ⟨hhours, hminutes⟩ := h
    have hfields : readFields [(2, ':')] (padded 2 hours ++ ':' :: padded 2 minutes) = some ([hours], padded 2 minutes) := by
      have hfits : Fits [(2, ':')] [hours] := ⟨by omega, trivial⟩
      have hlayout : List.Forall₂ (fun field field' => field.1 = field'.1 ∧ field'.2.toUpper = field.2)
          [(2, ':')] [(2, ':')] := .cons ⟨rfl, by decide⟩ .nil
      have hread := readFields_writeFields (padded 2 minutes) hlayout hfits
      rw [writeFields, writeFields, List.append_assoc] at hread
      exact hread
    have hbound : minutes < 10 ^ 2 := by omega
    have hdigits := readDigits_padded hbound []
    rw [List.append_nil] at hdigits
    cases negative <;> simp [Offset.text, readOffset, hfields, hdigits]

/-- **A spelling is read back**, the letter of its time aside. -/
theorem read_text {spelling : Spelling} (h : spelling.Valid) :
    read spelling.text.toList = some { spelling with separator := 'T' } := by
  have hmonth := h.date.month_le
  have hday := h.date.day_le
  have hlength : monthLength spelling.date.year spelling.date.month ≤ 31 := monthLength_le _ _
  have hhour := h.hour
  have hminute := h.minute
  have hsecond := h.second
  have hyear : (spelling.date.year.toNat : ℤ) = spelling.date.year := Int.toNat_of_nonneg h.year_nonneg
  have hbound := h.year_lt
  have hfits : Fits (Spelling.layout spelling.separator)
      [spelling.date.year.toNat, spelling.date.month, spelling.date.day, spelling.hour, spelling.minute] :=
    ⟨by omega, by omega, by omega, by omega, by omega, trivial⟩
  have hlayout : List.Forall₂ (fun field field' : ℕ × Char => field.1 = field'.1 ∧ field'.2.toUpper = field.2)
      (Spelling.layout 'T') (Spelling.layout spelling.separator) :=
    .cons ⟨rfl, by decide⟩ (.cons ⟨rfl, by decide⟩ (.cons ⟨rfl, h.separator⟩ (.cons ⟨rfl, by decide⟩
      (.cons ⟨rfl, by decide⟩ .nil))))
  obtain ⟨c, rest, hoffset, hdigit, hpoint⟩ := Offset.exists_cons_text h.offset
  have hseconds : readDigits 2 (padded 2 spelling.second ++ (Spelling.fractionText spelling.fraction ++ c :: rest)) =
      some (spelling.second, Spelling.fractionText spelling.fraction ++ c :: rest) := readDigits_padded (by omega) _
  rw [read, Spelling.text, String.toList_ofList, readFields_writeFields _ hlayout hfits]
  simp only [hoffset, hseconds, Option.bind_eq_bind, Option.bind_some, readFraction_append h.digits hdigit hpoint]
  rw [← hoffset, readOffset_text h.offset, hyear]
  rfl

/-! ### Checking -/

instance : DecidablePred Date.Valid := fun date =>
  decidable_of_iff (1 ≤ date.month ∧ date.month ≤ 12 ∧ 1 ≤ date.day ∧ date.day ≤ monthLength date.year date.month)
    ⟨fun ⟨h1, h2, h3, h4⟩ => ⟨h1, h2, h3, h4⟩, fun h => ⟨h.month_pos, h.month_le, h.day_pos, h.day_le⟩⟩

instance : DecidablePred Offset.Valid
  | .utc letter => inferInstanceAs (Decidable (letter.toUpper = 'Z'))
  | .numeric _ hours minutes => inferInstanceAs (Decidable (hours < 24 ∧ minutes < 60))

instance : DecidablePred Spelling.Valid := fun spelling =>
  decidable_of_iff (spelling.date.Valid ∧ 0 ≤ spelling.date.year ∧ spelling.date.year < 10000 ∧
      spelling.separator.toUpper = 'T' ∧ spelling.hour < 24 ∧ spelling.minute < 60 ∧ spelling.second < 60 ∧
      spelling.fraction.all Char.isDigit ∧ spelling.fraction.length ≤ 9 ∧ spelling.offset.Valid)
    ⟨fun ⟨h1, h2, h3, h4, h5, h6, h7, h8, h9, h10⟩ => ⟨h1, h2, h3, h4, h5, h6, h7, List.all_eq_true.mp h8, h9, h10⟩,
      fun h => ⟨h.date, h.year_nonneg, h.year_lt, h.separator, h.hour, h.minute, h.second,
        List.all_eq_true.mpr h.digits, h.precision, h.offset⟩⟩

/-- The instant a text spells. -/
def parse (text : String) : Option ℤ :=
  (read text.toList).bind fun spelling => if spelling.Valid then some spelling.nanoseconds else none

/-- **A spelling is parsed as the instant it denotes.** -/
theorem parse_text {spelling : Spelling} (h : spelling.Valid) : parse spelling.text = some spelling.nanoseconds := by
  have hvalid : ({ spelling with separator := 'T' } : Spelling).Valid := { h with separator := show 'T'.toUpper = 'T' by decide }
  rw [parse, read_text h, Option.bind_some, if_pos hvalid]
  rfl

/-! ### The canonical text -/

def canonicalLayout : Layout := [(4, '-'), (2, '-'), (2, 'T'), (2, ':'), (2, ':'), (2, '.'), (9, 'Z')]

/-- The text of an instant in UTC, with nine fractional digits; a year before
zero has six digits and a sign. -/
def print (n : ℤ) : String :=
  let civil := Civil.ofNanoseconds n
  if civil.date.year < 0 then
    String.ofList ('-' :: writeFields ((6, '-') :: canonicalLayout.tail) ((-civil.date.year).toNat :: civil.fields.tail))
  else String.ofList (writeFields canonicalLayout civil.fields)

/-- Only a year before zero is printed with a sign. -/
theorem head?_print (n : ℤ) : (print n).toList.head? = some '-' ↔ (Civil.ofNanoseconds n).date.year < 0 := by
  unfold print
  simp only
  split_ifs with h
  · simp [h]
  · have hwidth : 0 < (padded 4 (Civil.ofNanoseconds n).date.year.toNat).length := by
      rw [length_padded]
      decide
    obtain ⟨c, digits, hdigits⟩ := List.exists_cons_of_length_pos hwidth
    have hdigit : c.isDigit := isDigit_padded 4 _ c (hdigits ▸ List.mem_cons_self)
    rw [String.toList_ofList, Civil.fields, canonicalLayout, writeFields, hdigits, List.cons_append, List.head?_cons]
    refine iff_of_false (fun hsign => ?_) h
    rw [Option.some.inj hsign] at hdigit
    exact absurd hdigit (by decide)

/-- The canonical spelling of an instant. -/
def Spelling.ofNanoseconds (n : ℤ) : Spelling :=
  let civil := Civil.ofNanoseconds n
  ⟨civil.date, 'T', civil.hour, civil.minute, civil.second, padded 9 civil.nanosecond, .utc 'Z'⟩

section Canonical

variable {n : ℤ} (hnonneg : 0 ≤ (Civil.ofNanoseconds n).date.year)

include hnonneg

theorem text_ofNanoseconds : (Spelling.ofNanoseconds n).text = print n := by
  have hfraction : padded 9 (Civil.ofNanoseconds n).nanosecond ≠ [] := fun h => by
    have hlength := congrArg List.length h
    rw [length_padded] at hlength
    cases hlength
  rw [print, if_neg (not_lt.mpr hnonneg)]
  simp [Spelling.text, Spelling.ofNanoseconds, Spelling.layout, canonicalLayout, Civil.fields, writeFields,
    Spelling.fractionText, Offset.text, hfraction]

variable (hyear : (Civil.ofNanoseconds n).date.year < 10000)

include hyear

theorem valid_ofNanoseconds : (Spelling.ofNanoseconds n).Valid := by
  obtain ⟨hvalid, -⟩ := Civil.nanoseconds_ofNanoseconds n
  have hseparator : 'T'.toUpper = 'T' := by decide
  have hoffset : 'Z'.toUpper = 'Z' := by decide
  exact ⟨hvalid.date, hnonneg, hyear, hseparator, hvalid.hour, hvalid.minute, hvalid.second, isDigit_padded 9 _,
    (length_padded 9 _).le, hoffset⟩

theorem fits_fields : Fits canonicalLayout (Civil.ofNanoseconds n).fields := by
  obtain ⟨hvalid, -⟩ := Civil.nanoseconds_ofNanoseconds n
  have hmonth := hvalid.date.month_le
  have hday := hvalid.date.day_le
  have hlength := monthLength_le (Civil.ofNanoseconds n).date.year (Civil.ofNanoseconds n).date.month
  have hhour := hvalid.hour
  have hminute := hvalid.minute
  have hsecond := hvalid.second
  exact ⟨by omega, by omega, by omega, by omega, by omega, by omega, hvalid.nanosecond, trivial⟩

end Canonical

theorem nanoseconds_ofNanoseconds (n : ℤ) : (Spelling.ofNanoseconds n).nanoseconds = n := by
  obtain ⟨hvalid, hn⟩ := Civil.nanoseconds_ofNanoseconds n
  have hfraction : Spelling.fractionNanoseconds (padded 9 (Civil.ofNanoseconds n).nanosecond) =
      (Civil.ofNanoseconds n).nanosecond := by
    rw [Spelling.fractionNanoseconds, length_padded, ofDigitChars_padded hvalid.nanosecond, Nat.sub_self, Nat.pow_zero,
      Nat.mul_one]
  have hcivil : (Spelling.ofNanoseconds n).civil = Civil.ofNanoseconds n := by
    rw [Spelling.civil, Spelling.ofNanoseconds]
    simp only [hfraction]
  rw [Spelling.nanoseconds, hcivil, hn]
  simp [Spelling.ofNanoseconds, Offset.seconds]

/-- **Canonical texts are ordered as instants.** -/
theorem print_lt {n m : ℤ} (hn : 0 ≤ (Civil.ofNanoseconds n).date.year) (hn' : (Civil.ofNanoseconds n).date.year < 10000)
    (hm : 0 ≤ (Civil.ofNanoseconds m).date.year) (hm' : (Civil.ofNanoseconds m).date.year < 10000) (h : n < m) :
    print n < print m := by
  rw [print, print, if_neg (not_lt.mpr hn), if_neg (not_lt.mpr hm), String.lt_iff_toList_lt, String.toList_ofList,
    String.toList_ofList]
  exact writeFields_lt (fits_fields hn hn') (fits_fields hm hm') (Civil.fields_ofNanoseconds_lt hn hm h)

end Rfc3339
