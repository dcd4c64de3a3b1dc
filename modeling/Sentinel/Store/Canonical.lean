/-
# Stored times as text

The store keeps an instant as its UTC text with nine fractional digits and
compares texts, in SQL and in the program, without parsing them. From year
zero on those texts are ordered as the instants, whatever spelling they were
given in, so the rest of the development keeps the instants themselves. The
time library's parser is a parameter: it reads a text of RFC 3339 as the
instant it denotes, and may read others.

Key theorems: `canonicalTimestampText_eq`, `printed_lt_iff`, `maxText_printed`,
`canonical_texts`.
-/
import Sentinel.Lib.Rfc3339
import Sentinel.Lib.Utf8
import Sentinel.Store.Schema

namespace Sentinel

open Calendar

/-- `{timestamp:.9}`. -/
def Timestamp.printed (timestamp : Timestamp) : String := Rfc3339.print timestamp.nanoseconds

/-- The parser reads a spelling of an instant that it can hold. -/
def ReadsRfc3339 (parse : String → Except String Timestamp) : Prop :=
  ∀ (spelling : Rfc3339.Spelling) (timestamp : Timestamp), spelling.Valid →
    spelling.nanoseconds = timestamp.nanoseconds → parse spelling.text = .ok timestamp

/-! ### The years of an instant -/

theorem Timestamp.year_nonneg_iff (timestamp : Timestamp) :
    0 ≤ (Civil.ofNanoseconds timestamp.nanoseconds).date.year ↔ Timestamp.yearZero ≤ timestamp.nanoseconds :=
  Civil.le_year_iff

theorem Timestamp.year_lt (timestamp : Timestamp) :
    (Civil.ofNanoseconds timestamp.nanoseconds).date.year < 10000 := by
  have hupper := timestamp.upper
  rw [← not_le, Civil.le_year_iff, not_le]
  exact hupper.trans (by decide)

/-! ### The canonical text -/

section Canonical

variable (parse : String → Except String Timestamp)

def canonicalTimestampText (value : String) : Except StoreError String :=
  match parse value with
  | .error error => .error (.invalidData s!"invalid timestamp: {error}")
  | .ok timestamp =>
    let canonical := timestamp.printed
    if canonical.toList.head? = some '-' then
      .error (.invalidData "timestamps before year zero are unsupported")
    else .ok canonical

/-- **The canonical text is that of the instant**, if it is not before year zero. -/
theorem canonicalTimestampText_eq (value : String) : canonicalTimestampText parse value =
    match parse value with
    | .error error => .error (.invalidData s!"invalid timestamp: {error}")
    | .ok timestamp => (canonicalTimestamp timestamp).map Timestamp.printed := by
  unfold canonicalTimestampText
  cases parse value with
  | error error => rfl
  | ok timestamp =>
    have hsign : timestamp.printed.toList.head? = some '-' ↔ timestamp.nanoseconds < Timestamp.yearZero := by
      rw [Timestamp.printed, Rfc3339.head?_print, ← not_le, timestamp.year_nonneg_iff, not_le]
    simp only [hsign, canonicalTimestamp]
    split_ifs <;> rfl

variable {parse}

theorem canonicalTimestampText_eq_ok_iff {value canonical : String} :
    canonicalTimestampText parse value = .ok canonical ↔
      ∃ timestamp, parse value = .ok timestamp ∧ Timestamp.yearZero ≤ timestamp.nanoseconds ∧
        canonical = timestamp.printed := by
  rw [canonicalTimestampText_eq]
  cases parse value with
  | error error => simp
  | ok timestamp =>
    simp only [Except.ok.injEq, exists_eq_left']
    unfold canonicalTimestamp
    split_ifs with h
    · simp [Except.map, not_le.mpr h]
    · simp [Except.map, not_lt.mp h, eq_comm]

end Canonical

/-! ### The order of the texts -/

section Order

variable {a b : Timestamp} (ha : Timestamp.yearZero ≤ a.nanoseconds) (hb : Timestamp.yearZero ≤ b.nanoseconds)

include ha hb

theorem bytes_printed_lt (h : a < b) : Text.bytes a.printed < Text.bytes b.printed :=
  Text.bytes_lt (Rfc3339.print_lt (a.year_nonneg_iff.mpr ha) a.year_lt (b.year_nonneg_iff.mpr hb) b.year_lt h)

/-- **Texts are before each other as their instants are.** -/
theorem printed_lt_iff : Text.bytes a.printed < Text.bytes b.printed ↔ a < b := by
  refine ⟨fun h => ?_, bytes_printed_lt ha hb⟩
  rcases lt_trichotomy a b with hlt | rfl | hgt
  · exact hlt
  · exact absurd h (List.lt_irrefl _)
  · exact absurd h (List.lt_asymm (bytes_printed_lt hb ha hgt))

theorem printed_le_iff : Text.bytes a.printed ≤ Text.bytes b.printed ↔ a ≤ b := by
  rw [← List.not_lt, printed_lt_iff hb ha, not_lt]

theorem printed_inj : a.printed = b.printed ↔ a = b := by
  refine ⟨fun h => ?_, congrArg _⟩
  have hle : a ≤ b := (printed_le_iff ha hb).mp (h ▸ List.le_refl _)
  have hge : b ≤ a := (printed_le_iff hb ha).mp (h ▸ List.le_refl _)
  exact le_antisymm hle hge

end Order

/-- `MAX` of a text column. -/
def maxText : List String → Option String
  | [] => none
  | text :: texts => some (texts.foldl (fun a b => if Text.bytes a ≤ Text.bytes b then b else a) text)

/-- **The greatest of stored texts** is that of the latest instant. -/
theorem maxText_printed {timestamps : List Timestamp}
    (h : ∀ timestamp ∈ timestamps, Timestamp.yearZero ≤ timestamp.nanoseconds) :
    maxText (timestamps.map Timestamp.printed) = timestamps.max?.map Timestamp.printed := by
  cases timestamps with
  | nil => rfl
  | cons first rest =>
    rw [List.map_cons, maxText, List.max?_cons', Option.map_some, Option.some.injEq]
    induction rest generalizing first with
    | nil => rfl
    | cons next rest ih =>
      have hfirst := h first List.mem_cons_self
      have hnext := h next (List.mem_cons_of_mem _ List.mem_cons_self)
      rw [List.map_cons, List.foldl_cons, List.foldl_cons, ← ih]
      · congr 1
        simp only [printed_le_iff hfirst hnext, max_def]
        split_ifs <;> rfl
      · intro timestamp hmem
        rcases List.mem_cons.mp hmem with rfl | hmem
        · rcases max_choice first next with hmax | hmax <;> rw [hmax]
          · exact hfirst
          · exact hnext
        · exact h timestamp (List.mem_cons_of_mem _ (List.mem_cons_of_mem _ hmem))

/-! ### Reading what was printed -/

theorem ReadsRfc3339.parse_printed {parse : String → Except String Timestamp} (h : ReadsRfc3339 parse)
    {timestamp : Timestamp} (hzero : Timestamp.yearZero ≤ timestamp.nanoseconds) :
    parse timestamp.printed = .ok timestamp := by
  have hnonneg := timestamp.year_nonneg_iff.mpr hzero
  rw [Timestamp.printed, ← Rfc3339.text_ofNanoseconds hnonneg]
  exact h _ _ (Rfc3339.valid_ofNanoseconds hnonneg timestamp.year_lt) (Rfc3339.nanoseconds_ofNanoseconds _)

/-- A parser of the texts of RFC 3339 alone. -/
def rfc3339Parser (value : String) : Except String Timestamp :=
  match Rfc3339.parse value with
  | none => .error "not an RFC 3339 timestamp"
  | some n =>
    if h : -377705023201 * nanosecondsPerSecond ≤ n ∧ n < 253402207201 * nanosecondsPerSecond then .ok ⟨n, h.1, h.2⟩
    else .error "timestamp is out of range"

theorem reads_rfc3339Parser : ReadsRfc3339 rfc3339Parser := by
  intro spelling timestamp hvalid hinstant
  unfold rfc3339Parser
  rw [Rfc3339.parse_text hvalid, hinstant]
  exact dif_pos ⟨timestamp.lower, timestamp.upper⟩

/-- The instants of texts that were accepted. -/
theorem mapM_canonicalTimestampText {parse : String → Except String Timestamp} {values canonicals : List String}
    {timestamps : List Timestamp} (hparse : List.Forall₂ (fun value timestamp => parse value = .ok timestamp) values timestamps)
    (h : values.mapM (canonicalTimestampText parse) = .ok canonicals) :
    (∀ timestamp ∈ timestamps, Timestamp.yearZero ≤ timestamp.nanoseconds) ∧
      canonicals = timestamps.map Timestamp.printed := by
  have hall := Fallible.mapM_eq_ok_iff.mp h
  induction hparse generalizing canonicals with
  | nil =>
    cases hall
    exact ⟨fun _ hmem => absurd hmem List.not_mem_nil, rfl⟩
  | cons hvalue _ ih =>
    obtain ⟨canonical, rest, hcanonical, hrest, rfl⟩ := List.forall₂_cons_left_iff.mp hall
    obtain ⟨timestamp, htimestamp, hzero, rfl⟩ := canonicalTimestampText_eq_ok_iff.mp hcanonical
    obtain rfl := Except.ok.inj (hvalue.symm.trans htimestamp)
    obtain ⟨hzeros, rfl⟩ := ih (Fallible.mapM_eq_ok_iff.mpr hrest) hrest
    exact ⟨List.forall_mem_cons.mpr ⟨hzero, hzeros⟩, rfl⟩

/-- **Text order is time order.** The canonical text is its own, it is the
same for every spelling of an instant, and comparing canonical texts byte by
byte, or taking the greatest of them, is comparing instants. -/
theorem canonical_texts (parse : String → Except String Timestamp) (reads : ReadsRfc3339 parse) :
    (∀ value canonical, canonicalTimestampText parse value = .ok canonical →
        canonicalTimestampText parse canonical = .ok canonical) ∧
      (∀ (spelling : Rfc3339.Spelling) (timestamp : Timestamp), spelling.Valid →
        spelling.nanoseconds = timestamp.nanoseconds → Timestamp.yearZero ≤ timestamp.nanoseconds →
        canonicalTimestampText parse spelling.text = .ok timestamp.printed) ∧
      (∀ a b timestampA timestampB canonicalA canonicalB, parse a = .ok timestampA → parse b = .ok timestampB →
        canonicalTimestampText parse a = .ok canonicalA → canonicalTimestampText parse b = .ok canonicalB →
        (canonicalA = canonicalB ↔ timestampA = timestampB) ∧
          (Text.bytes canonicalA < Text.bytes canonicalB ↔ timestampA < timestampB) ∧
          (Text.bytes canonicalA ≤ Text.bytes canonicalB ↔ timestampA ≤ timestampB)) ∧
      ∀ values timestamps canonicals, List.Forall₂ (fun value timestamp => parse value = .ok timestamp) values timestamps →
        values.mapM (canonicalTimestampText parse) = .ok canonicals →
        maxText canonicals = timestamps.max?.map Timestamp.printed := by
  refine ⟨?_, ?_, ?_, ?_⟩
  · intro value canonical h
    obtain ⟨timestamp, -, hzero, rfl⟩ := canonicalTimestampText_eq_ok_iff.mp h
    exact canonicalTimestampText_eq_ok_iff.mpr ⟨timestamp, reads.parse_printed hzero, hzero, rfl⟩
  · intro spelling timestamp hvalid hinstant hzero
    exact canonicalTimestampText_eq_ok_iff.mpr ⟨timestamp, reads spelling timestamp hvalid hinstant, hzero, rfl⟩
  · intro a b timestampA timestampB canonicalA canonicalB hparseA hparseB hcanonicalA hcanonicalB
    obtain ⟨_, hA, hzeroA, rfl⟩ := canonicalTimestampText_eq_ok_iff.mp hcanonicalA
    obtain ⟨_, hB, hzeroB, rfl⟩ := canonicalTimestampText_eq_ok_iff.mp hcanonicalB
    obtain rfl := Except.ok.inj (hparseA.symm.trans hA)
    obtain rfl := Except.ok.inj (hparseB.symm.trans hB)
    exact ⟨printed_inj hzeroA hzeroB, printed_lt_iff hzeroA hzeroB, printed_le_iff hzeroA hzeroB⟩
  · intro values timestamps canonicals hparse h
    obtain ⟨hzeros, rfl⟩ := mapM_canonicalTimestampText hparse h
    exact maxText_printed hzeros

theorem canonical_texts_offset :
    canonicalTimestampText rfc3339Parser "2026-01-01T00:30:00.5+01:00" = .ok "2025-12-31T23:30:00.500000000Z" ∧
      canonicalTimestampText rfc3339Parser "2025-12-31T23:30:00.500000000Z" = .ok "2025-12-31T23:30:00.500000000Z" :=
  ⟨by decide +kernel, (canonical_texts rfc3339Parser reads_rfc3339Parser).1 "2026-01-01T00:30:00.5+01:00" _
    (by decide +kernel)⟩

end Sentinel
