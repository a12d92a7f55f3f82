import AquaAuth.Support.Text
set_option autoImplicit false
/-!
# UTC date-times

An instant is a Unix timestamp with a fraction of a second that may run on into
a leap second.  Instants are confined to the range a calendar library represents,
so adding a number of seconds can fail.  The calendar is proleptic Gregorian.
-/

namespace AquaAuth.Support

/-! ## Seconds -/

/-- A span of time: whole seconds as an unsigned 64-bit number, and nanoseconds. -/
structure Duration where
  secs : Nat
  nanos : Nat
  secsLt : secs < 2 ^ 64
  nanosLt : nanos < 1000000000

instance : DecidableEq Duration := fun a b =>
  decidable_of_iff (a.secs = b.secs ∧ a.nanos = b.nanos) (by cases a; cases b; simp)

/-- A span of whole seconds. -/
def Duration.fromSecs (secs : Nat) (h : secs < 2 ^ 64) : Duration := ⟨secs, 0, h, by omega⟩

theorem Duration.fiveMinutes_lt : 300 < 2 ^ 64 := by decide

/-- Whether one span is longer than another. -/
def Duration.exceeds (a b : Duration) : Prop :=
  b.secs < a.secs ∨ (a.secs = b.secs ∧ b.nanos < a.nanos)

instance (a b : Duration) : Decidable (a.exceeds b) := inferInstanceAs (Decidable (_ ∨ _))

/-- A number in the range of signed 64-bit seconds. -/
def InI64 (n : Int) : Prop := -2 ^ 63 ≤ n ∧ n < 2 ^ 63

instance (n : Int) : Decidable (InI64 n) := inferInstanceAs (Decidable (_ ∧ _))

/-- Addition that stays in the signed 64-bit range. -/
def saturatingAdd (a b : Int) : Int := max (-2 ^ 63) (min (2 ^ 63 - 1) (a + b))

/-- An unsigned 64-bit number read as a signed one. -/
def asI64 (n : Nat) : Int := if n < 2 ^ 63 then n else (n : Int) - 2 ^ 64

theorem saturatingAdd_eq {a b : Int} (h : InI64 (a + b)) : saturatingAdd a b = a + b := by
  unfold InI64 at h
  unfold saturatingAdd
  omega

theorem asI64_eq {n : Nat} (h : n < 2 ^ 63) : asI64 n = n := if_pos h

/-! ## Instants -/

/-- An instant: whole seconds since the epoch, and nanoseconds. -/
structure DateTime where
  timestamp : Int
  nanos : Nat
  inRange : -8334601228800 ≤ timestamp ∧ timestamp ≤ 8210266876799
  nanosLt : nanos < 2000000000
  /-- Only the last second of a minute can be a leap second. -/
  leapSecond : 1000000000 ≤ nanos → timestamp % 60 = 59
  deriving DecidableEq

namespace DateTime

theorem wholeSecond_lt : 0 < 2000000000 := by decide

/-- A duration of whole seconds, when it is representable in milliseconds. -/
def durationSeconds (seconds : Int) : Option Int :=
  if -9223372036854775 ≤ seconds ∧ seconds ≤ 9223372036854775 then some seconds else none

/-- The second and fraction that adding a non-zero number of seconds starts from:
it leaves a leap second for the second next to it. -/
def leaveLeapSecond (t : DateTime) (seconds : Int) : Int × Nat :=
  if t.nanos < 1000000000 then (t.timestamp, t.nanos)
  else if 0 < seconds then (t.timestamp, t.nanos - 1000000000)
  else (t.timestamp + 1, t.nanos - 1000000000)

/-- The instant a number of seconds later, when it is in range. -/
def addSeconds (t : DateTime) (seconds : Int) : Option DateTime :=
  if seconds = 0 then some t
  else
    let start := t.leaveLeapSecond seconds
    if h : -8334601228800 ≤ start.1 + seconds ∧ start.1 + seconds ≤ 8210266876799 then
      have hlt : start.2 < 1000000000 := by
        have := t.nanosLt
        simp only [start, leaveLeapSecond]
        split_ifs <;> simp only <;> omega
      some ⟨start.1 + seconds, start.2, h, by omega, by omega⟩
    else none

/-! ## Adding seconds -/

/-- The last second of the calendar. -/
def lastSecond : Int := 8210266876799

theorem leaveLeapSecond_of_pos (t : DateTime) {seconds : Int} (h : 0 < seconds) :
    (t.leaveLeapSecond seconds).1 = t.timestamp := by
  unfold leaveLeapSecond
  split_ifs <;> rfl

/-- Leaving a leap second moves by at most one second. -/
theorem leaveLeapSecond_near (t : DateTime) (seconds : Int) :
    t.timestamp ≤ (t.leaveLeapSecond seconds).1 ∧
      (t.leaveLeapSecond seconds).1 ≤ t.timestamp + 1 := by
  unfold leaveLeapSecond
  split_ifs <;> simp only <;> omega

theorem timestamp_of_addSeconds {t t' : DateTime} {seconds : Int} (hne : seconds ≠ 0)
    (h : t.addSeconds seconds = some t') :
    t'.timestamp = (t.leaveLeapSecond seconds).1 + seconds := by
  simp only [addSeconds, if_neg hne] at h
  split at h
  · cases h
    rfl
  · cases h

theorem isSome_addSeconds {t : DateTime} {seconds : Int} (hne : seconds ≠ 0) :
    (t.addSeconds seconds).isSome ↔
      -8334601228800 ≤ (t.leaveLeapSecond seconds).1 + seconds ∧
        (t.leaveLeapSecond seconds).1 + seconds ≤ lastSecond := by
  simp only [addSeconds, if_neg hne, lastSecond]
  split
  · exact iff_of_true rfl ‹_›
  · exact iff_of_false Bool.false_ne_true ‹_›

/-- A later instant is in the calendar when its second is, and is that many seconds later. -/
theorem addSeconds_of_nonneg (t : DateTime) {seconds : Int} (h : 0 ≤ seconds)
    (hlast : t.timestamp + seconds ≤ lastSecond) :
    ∃ t', t.addSeconds seconds = some t' ∧ t'.timestamp = t.timestamp + seconds := by
  rcases h.eq_or_lt with rfl | hpos
  · exact ⟨t, if_pos rfl, (Int.add_zero _).symm⟩
  · have hstart := t.leaveLeapSecond_of_pos hpos
    have hfirst := t.inRange.1
    have hsome : (t.addSeconds seconds).isSome := by
      apply (isSome_addSeconds hpos.ne').mpr
      rw [hstart]
      omega
    obtain ⟨t', ht'⟩ := Option.isSome_iff_exists.mp hsome
    refine ⟨t', ht', ?_⟩
    rw [timestamp_of_addSeconds hpos.ne' ht', hstart]

/-! ## Calendar -/

/-- Year, month and day of a day number counted from the epoch. -/
def civil (days : Int) : Int × Int × Int :=
  -- Count from 1 March of year 0, so that a leap day ends its year.
  let z := days + 719468
  let era := z / 146097
  let dayOfEra := z % 146097
  let yearOfEra := (dayOfEra - dayOfEra / 1460 + dayOfEra / 36524 - dayOfEra / 146096) / 365
  let dayOfYear := dayOfEra - (365 * yearOfEra + yearOfEra / 4 - yearOfEra / 100)
  let shiftedMonth := (5 * dayOfYear + 2) / 153
  let day := dayOfYear - (153 * shiftedMonth + 2) / 5 + 1
  let month := if shiftedMonth < 10 then shiftedMonth + 3 else shiftedMonth - 9
  let year := yearOfEra + era * 400
  (if month ≤ 2 then year + 1 else year, month, day)

/-- A number with leading zeros up to a width. -/
def padded (width n : Nat) : Str :=
  let digits := Text.decimal n
  List.replicate (width - digits.length) '0' ++ digits

/-- A year, signed when it does not have four digits. -/
def formatYear (year : Int) : Str :=
  if 0 ≤ year ∧ year ≤ 9999 then padded 4 year.toNat
  else (if year < 0 then '-' else '+') :: padded 4 year.natAbs

/-- The RFC 3339 form in milliseconds, `%Y-%m-%dT%H:%M:%S%.3fZ`. -/
def format (t : DateTime) : Str :=
  let date := civil (t.timestamp / 86400)
  let ofDay := (t.timestamp % 86400).toNat
  formatYear date.1 ++ '-' :: padded 2 date.2.1.toNat ++ '-' :: padded 2 date.2.2.toNat ++
    'T' :: padded 2 (ofDay / 3600) ++ ':' :: padded 2 (ofDay / 60 % 60) ++
    ':' :: padded 2 (ofDay % 60 + t.nanos / 1000000000) ++
    '.' :: padded 3 (t.nanos % 1000000000 / 1000000) ++ text "Z"

/-! ## One line -/

theorem isDigit_of_mem_decimal {n : Nat} {c : Char} (h : c ∈ Text.decimal n) :
    c.isDigit = true :=
  Nat.isDigit_of_mem_toDigits (by decide) (by decide) h

theorem not_mem_padded {c : Char} (hc : c.isDigit = false) (width n : Nat) :
    c ∉ padded width n := by
  simp only [padded, List.mem_append, List.mem_replicate, not_or, not_and]
  refine ⟨fun _ hzero => ?_, fun hmem => ?_⟩
  · simp [hzero] at hc
  · simp [isDigit_of_mem_decimal hmem] at hc

/-- A formatted instant is on one line. -/
theorem newline_not_mem_format (t : DateTime) : '\n' ∉ t.format := by
  have hdigits := fun width n => not_mem_padded (c := '\n') (by decide) width n
  have hyear : ∀ year, '\n' ∉ formatYear year := fun year => by
    unfold formatYear
    split_ifs <;> simp [hdigits]
  have hz : '\n' ∉ text "Z" := by decide
  simp [format, hdigits, hyear, hz]

end DateTime

end AquaAuth.Support
