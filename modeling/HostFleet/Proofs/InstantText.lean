import HostFleet.Instant.Text
import HostFleet.Proofs.CivilDates

/-!
# Times as they are written

An instant of the calendar is read back from the text that it is written as, to the nanosecond.
-/

namespace HostFleet.Proofs
open Instant

/-! ### Numbers -/

section Digits

variable {width n : Nat} {rest : List Char}

lemma isDigit_of_mem_padded : ∀ c ∈ padded width n, c.isDigit = true := by
  intro c hc
  rcases List.mem_append.mp hc with hc | hc
  · rw [List.eq_of_mem_replicate hc]
    decide
  · exact Nat.isDigit_of_mem_toDigits (by decide) (by decide) hc

lemma length_padded (h : n < 10 ^ width) (hwidth : 0 < width) :
    (padded width n).length = width := by
  have hle := (Nat.length_toDigits_le_iff (b := 10) (by decide) hwidth).mpr h
  simp only [padded, List.length_append, List.length_replicate]
  omega

lemma foldl_padded :
    (padded width n).foldl (fun n c => n * 10 + (c.toNat - '0'.toNat)) 0 = n := by
  have hfold : ∀ cs : List Char, cs.foldl (fun n c => n * 10 + (c.toNat - '0'.toNat)) 0 =
      Nat.ofDigitChars 10 cs 0 := by
    intro cs
    simp only [Nat.ofDigitChars_eq_foldl, Nat.mul_comm]
  rw [hfold, padded, Nat.ofDigitChars_append, Nat.ofDigitChars_replicate_zero, Nat.mul_zero,
    Nat.ofDigitChars_ten_toDigits]

/-- Nothing that belongs to a number follows. -/
def NoDigit (rest : List Char) : Prop := ∀ c ∈ rest.head?, c.isDigit = false

lemma takeWhile_digits {ds : List Char} (hds : ∀ c ∈ ds, c.isDigit = true) (h : NoDigit rest) :
    (ds ++ rest).takeWhile Char.isDigit = ds := by
  rw [List.takeWhile_append_of_pos hds]
  cases rest with
  | nil => rw [List.takeWhile_nil, List.append_nil]
  | cons c rest => rw [List.takeWhile_cons, if_neg (by simp [h c rfl]), List.append_nil]

lemma noDigit_take (h : NoDigit rest) (k : Nat) : NoDigit (rest.take k) := by
  intro c hc
  cases k with
  | zero => cases hc
  | succ k =>
    cases rest with
    | nil => cases hc
    | cons d rest => exact h c hc

lemma padded_ne_nil (width n : Nat) : padded width n ≠ [] := by
  intro h
  exact Nat.toDigits_ne_nil (List.append_eq_nil_iff.mp h).2

/-- A number is read to its end. -/
lemma digits?_padded {limit : Nat} (hlimit : (padded width n).length ≤ limit) (h : NoDigit rest) :
    digits? limit (padded width n ++ rest) = some (n, (padded width n).length, rest) := by
  have htake : ((padded width n ++ rest).take limit).takeWhile Char.isDigit = padded width n := by
    rw [List.take_append, List.take_of_length_le hlimit]
    exact takeWhile_digits isDigit_of_mem_padded (noDigit_take h _)
  rw [digits?, htake]
  split
  · next hnil => exact absurd hnil (padded_ne_nil width n)
  · next ds _ =>
    rw [foldl_padded, List.drop_left]

end Digits

/-! ### Parts of a time -/

section Parts

variable {rest : List Char}

lemma skipBlanks_of_head {cs : List Char} (h : ∀ c ∈ cs.head?, isBlank c = false) :
    skipBlanks cs = cs := by
  cases cs with
  | nil => rfl
  | cons c cs => rw [skipBlanks, List.dropWhile_cons, if_neg (by simp [h c rfl])]

lemma not_isBlank_of_isDigit {c : Char} (h : c.isDigit = true) : isBlank c = false := by
  simp only [Char.isDigit, Bool.and_eq_true, decide_eq_true_eq, ge_iff_le,
    UInt32.le_iff_toNat_le] at h
  change 48 ≤ c.toNat ∧ c.toNat ≤ 57 at h
  simp only [isBlank, Bool.or_eq_false_iff, Bool.and_eq_false_iff, decide_eq_false_iff_not,
    beq_eq_false_iff_ne]
  omega

lemma isDigit_of_mem_head? {width n : Nat} {c : Char} (hc : c ∈ (padded width n ++ rest).head?) :
    c.isDigit = true := by
  obtain ⟨d, ds, hpadded⟩ := List.exists_cons_of_ne_nil (padded_ne_nil width n)
  rw [hpadded] at hc
  obtain rfl : d = c := Option.some.inj hc
  exact isDigit_of_mem_padded d (by rw [hpadded]; exact .head _)

lemma skipBlanks_padded (width n : Nat) :
    skipBlanks (padded width n ++ rest) = padded width n ++ rest :=
  skipBlanks_of_head fun _ hc => not_isBlank_of_isDigit (isDigit_of_mem_head? hc)

lemma separator?_cons {c : Char} (h : isBlank c = false) :
    separator? c (c :: rest) = some rest := by
  rw [separator?, skipBlanks_of_head (by rintro d ⟨⟩; exact h)]
  simp

/-- Two digits are read as the number. -/
lemma twoDigits?_padded {n lo hi : Nat} (hn : lo ≤ n ∧ n ≤ hi) (hhi : hi < 100)
    (h : NoDigit rest) : twoDigits? lo hi (padded 2 n ++ rest) = some (n, rest) := by
  have hlength : (padded 2 n).length = 2 := length_padded (by omega) (by decide)
  rw [twoDigits?, skipBlanks_padded, digits?_padded (by omega) h]
  simp [hn]

/-- A year without a sign has four digits at most. -/
lemma year?_unsigned {cs : List Char} (hblank : skipBlanks cs = cs)
    (h : ∀ c ∈ cs.head?, c.isDigit = true) {n count : Nat}
    (hdigits : digits? 4 cs = some (n, count, rest)) :
    year? cs = if firstYear ≤ (n : Int) && (n : Int) ≤ lastYear then some (↑n, rest) else none := by
  rw [year?, hblank]
  split
  · exact absurd (h _ rfl) (by decide)
  · exact absurd (h _ rfl) (by decide)
  · simp only [hdigits, Option.bind_eq_bind, Option.bind_some]

/-- A year is read, with its sign if it has one. -/
lemma year?_formatYear {y : Int} (hy : firstYear ≤ y ∧ y ≤ lastYear) (h : NoDigit rest) :
    year? (formatYear y ++ rest) = some (y, rest) := by
  have hlong : ∀ n : Nat, digits? ((padded 4 n).length + rest.length) (padded 4 n ++ rest) =
      some (n, (padded 4 n).length, rest) := fun n => digits?_padded (by omega) h
  rw [formatYear]
  split
  · next hplain =>
    simp only [Bool.and_eq_true, decide_eq_true_eq] at hplain
    have hlength : (padded 4 y.toNat).length = 4 := length_padded (by omega) (by decide)
    have hvalue : (y.toNat : Int) = y := by omega
    rw [year?_unsigned (skipBlanks_padded 4 _) (fun _ hc => isDigit_of_mem_head? hc)
      (digits?_padded (by omega) h), hvalue]
    simp [hy]
  · rw [List.cons_append]
    by_cases hneg : y < 0
    · have hvalue : -(y.natAbs : Int) = y := by omega
      rw [if_pos hneg, year?, skipBlanks_of_head (by rintro c ⟨⟩; decide)]
      generalize y.natAbs = n at hvalue
      simp [hlong, hvalue, hy]
    · have hvalue : (y.natAbs : Int) = y := by omega
      rw [if_neg hneg, year?, skipBlanks_of_head (by rintro c ⟨⟩; decide)]
      simp [hlong, hvalue, hy]

lemma noDigit_cons {c : Char} (h : c.isDigit = false) : NoDigit (c :: rest) := by
  rintro d ⟨⟩
  exact h

/-- A date is read as the day that it names. -/
lemma date?_format {y : Int} {m d : Nat} (hy : firstYear ≤ y ∧ y ≤ lastYear)
    (hm : 1 ≤ m ∧ m ≤ 12) (hd : 1 ≤ d ∧ d ≤ daysInMonth y m) (h : NoDigit rest) :
    date? (formatYear y ++ '-' :: (padded 2 m ++ '-' :: (padded 2 d ++ rest))) =
      some (dayOfDate y m d, rest) := by
  have hdash : isBlank '-' = false := by decide
  have hlength : daysInMonth y m ≤ 31 := by
    rw [daysInMonth]
    repeat' split
    all_goals decide
  rw [date?, year?_formatYear hy (noDigit_cons (by decide))]
  simp only [Option.bind_eq_bind, Option.bind_some, separator?_cons hdash]
  rw [twoDigits?_padded hm (by decide) (noDigit_cons (by decide))]
  simp only [Option.bind_some, separator?_cons hdash]
  rw [twoDigits?_padded ⟨hd.1, by omega⟩ (by decide) h]
  simp [hd.2]

/-- A fraction is read as the nanoseconds that it stands for. -/
lemma fraction?_formatFraction {nano : Nat} (hnano : nano < 1000000000)
    (h : ∀ c ∈ rest.head?, c.isDigit = false ∧ c ≠ '.') :
    fraction? (formatFraction nano ++ rest) = some (nano, rest) := by
  have hdigit : NoDigit rest := fun c hc => (h c hc).1
  have hdrop : rest.dropWhile Char.isDigit = rest := by
    cases rest with
    | nil => rfl
    | cons c rest => rw [List.dropWhile_cons, if_neg (by simp [hdigit c rfl])]
  have hread : ∀ width n, 0 < width → width ≤ 9 → n < 10 ^ width →
      n * 10 ^ (9 - width) = nano →
        fraction? ('.' :: (padded width n ++ rest)) = some (nano, rest) := by
    intro width n hpos hwidth hn hvalue
    have hlength := length_padded hn hpos
    rw [fraction?, digits?_padded (by omega) hdigit, hlength]
    simp [hvalue, hdrop]
  rw [formatFraction]
  split
  · next hzero =>
    rw [List.nil_append, fraction?.eq_def]
    split
    · exact absurd rfl (h _ rfl).2
    · rw [hzero]
  split
  · exact hread 3 _ (by decide) (by decide) (by omega) (by omega)
  split
  · exact hread 6 _ (by decide) (by decide) (by omega) (by omega)
  · exact hread 9 _ (by decide) (by decide) (by omega) (by omega)

/-- A time of day is read to the nanosecond. The second 60 is a leap second. -/
lemma time?_format {hour minute second nano : Nat} (hhour : hour ≤ 23) (hminute : minute ≤ 59)
    (hsecond : second ≤ 60) (hnano : nano < 1000000000)
    (h : ∀ c ∈ rest.head?, c.isDigit = false ∧ c ≠ '.') :
    time? (padded 2 hour ++ ':' :: (padded 2 minute ++ ':' :: (padded 2 second ++
        (formatFraction nano ++ rest)))) =
      some (hour * 3600 + minute * 60 + (if second = 60 then 59 else second),
        nano + (if second = 60 then 1000000000 else 0), rest) := by
  have hcolon : isBlank ':' = false := by decide
  have hfraction : NoDigit (formatFraction nano ++ rest) := by
    rw [formatFraction]
    split
    · exact fun c hc => (h c hc).1
    split
    · exact noDigit_cons (by decide)
    split
    · exact noDigit_cons (by decide)
    · exact noDigit_cons (by decide)
  rw [time?, twoDigits?_padded ⟨Nat.zero_le _, hhour⟩ (by decide) (noDigit_cons (by decide))]
  simp only [Option.bind_eq_bind, Option.bind_some, separator?_cons hcolon]
  rw [twoDigits?_padded ⟨Nat.zero_le _, hminute⟩ (by decide) (noDigit_cons (by decide))]
  simp only [Option.bind_some, separator?_cons hcolon]
  rw [twoDigits?_padded ⟨Nat.zero_le _, hsecond⟩ (by decide) hfraction]
  simp only [Option.bind_some, fraction?_formatFraction hnano h]
  split <;> rfl

end Parts

/-! ### Instants -/

/-- An instant that a calendar shows: a day within its years, and a leap second only at the end
of a minute. -/
structure OnCalendar (t : Instant) : Prop where
  day : firstDay ≤ t.day ∧ t.day ≤ lastDay
  leap : 1000000000 ≤ t.nano → t.second % 60 = 59

lemma ofSeconds?_self {t : Instant} (h : OnCalendar t) :
    ofSeconds? t.day t.second t.nano = some t := by
  have hsecond := t.second_lt
  have hday : t.day + (t.second : Int) / 86400 = t.day := by omega
  have hmod : ((t.second : Int) % 86400).toNat = t.second := by omega
  rw [ofSeconds?]
  simp only [hday, hmod]
  rw [dif_pos ⟨h.day.1, h.day.2, t.nano_lt⟩]

/-- An instant of the calendar is read back from its text. -/
theorem parse?_format {t : Instant} (h : OnCalendar t) : parse? t.format = some t := by
  obtain ⟨hyear, hmonth, hdate⟩ := dateOfDay_bounds h.day
  have hnumber := dayOfDate_dateOfDay t.day
  have hsecond := t.second_lt
  have hnano := t.nano_lt
  have hleap := h.leap
  generalize hdate' : dateOfDay t.day = date at hyear hmonth hdate hnumber
  obtain ⟨y, m, d⟩ := date
  have htext : t.format.toList = formatYear y ++ '-' :: (padded 2 m ++ '-' :: (padded 2 d ++
      'T' :: (padded 2 (t.second / 3600) ++ ':' :: (padded 2 (t.second / 60 % 60) ++ ':' ::
        (padded 2 (t.second % 60 + t.nano / 1000000000) ++
          (formatFraction (t.nano % 1000000000) ++ ['Z'])))))) := by
    simp [format, hdate']
  have htime := @time?_format ['Z'] (t.second / 3600) (t.second / 60 % 60)
    (t.second % 60 + t.nano / 1000000000) (t.nano % 1000000000) (by omega) (by omega)
    (by omega) (by omega) (by rintro c ⟨⟩; decide)
  have hseconds : t.second / 3600 * 3600 + t.second / 60 % 60 * 60 +
      (if t.second % 60 + t.nano / 1000000000 = 60 then 59
        else t.second % 60 + t.nano / 1000000000) = t.second := by
    split <;> omega
  have hnanos : t.nano % 1000000000 +
      (if t.second % 60 + t.nano / 1000000000 = 60 then 1000000000 else 0) = t.nano := by
    split <;> omega
  rw [hseconds, hnanos] at htime
  have hoffset : offset? ['Z'] = some (0, []) := by decide
  have hsplit : isDateEnd 'T' = true := by decide
  rw [parse?, htext, date?_format hyear hmonth hdate (noDigit_cons (by decide)), hnumber]
  simp only [Option.bind_eq_bind, Option.bind_some, hsplit, Bool.not_true, Bool.false_eq_true,
    if_false, htime, hoffset, Int.sub_zero]
  exact ofSeconds?_self h

end HostFleet.Proofs
