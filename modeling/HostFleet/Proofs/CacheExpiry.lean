import HostFleet.Proofs.CacheLoads

/-!
# When a cache expires

A value is expired when more whole seconds have passed since it was saved than the time to live
counts. The seconds are cut off toward zero, which no clock that runs behind can turn into an
expiry: a part of a second before the time of saving counts as none. On the calendar fewer seconds
can pass than a signed number of 64 bits counts, so it makes no difference whether a greater time to
live is capped at the greatest such number.
-/

namespace HostFleet.Proofs
open Instant

/-- The instant is earlier on the calendar. A leap second comes after the second that it is shown
with. -/
def Precedes (s t : Instant) : Prop :=
  s.day < t.day ∨ s.day = t.day ∧ (s.second < t.second ∨ s.second = t.second ∧ s.nano < t.nano)

/-- Among these instants subtraction is exact: it gives the way between their places on a time line
that keeps their order. -/
def ExactAmong (S : Set Instant) : Prop :=
  ∃ place : Instant → ℤ, ∀ s ∈ S, ∀ t ∈ S,
    elapsed s t = place t - place s ∧ (Precedes s t ↔ place s < place t)

/-! ### What passes between two instants -/

section Elapsed

variable {s t u : Instant}

lemma leapCorrection_cases (s t : Instant) :
    leapCorrection s t = 0 ∨
    leapCorrection s t = 1 ∧ 1000000000 ≤ s.nano ∧ s.second < t.second ∨
    leapCorrection s t = -1 ∧ 1000000000 ≤ t.nano ∧ t.second < s.second := by
  rw [leapCorrection]
  split
  · next h => exact .inr (.inl ⟨rfl, by simpa [and_comm] using h⟩)
  split
  · next h => exact .inr (.inr ⟨rfl, by simpa [and_comm] using h⟩)
  · exact .inl rfl

/-- Outside leap seconds every instant has its place on the line of nanoseconds. -/
lemma exactAmong_of_no_leap : ExactAmong {t : Instant | t.nano < 1000000000} := by
  refine ⟨fun t => (t.day * 86400 + t.second) * 1000000000 + t.nano, ?_⟩
  intro s (hs : s.nano < 1000000000) t (ht : t.nano < 1000000000)
  have hcorrection : leapCorrection s t = 0 := by
    have hcases := leapCorrection_cases s t
    omega
  have hssecond := s.second_lt
  have htsecond := t.second_lt
  rw [elapsed, hcorrection, Precedes]
  constructor
  · ring
  · dsimp only
    omega

/-- A leap second is not counted beyond the day, and so an age can go down over midnight. -/
example : (⟨0, 43259, 1500000000, by decide, by decide⟩ : Instant).secondsBetween
      ⟨1, 86399, 900000000, by decide, by decide⟩ = 129540 ∧
    (⟨0, 43259, 1500000000, by decide, by decide⟩ : Instant).secondsBetween
      ⟨2, 0, 0, by decide, by decide⟩ = 129539 := by decide

/-- Not a whole second passes until an instant that is not later, leap second or not. -/
lemma elapsed_lt_of_not_precedes (h : ¬Precedes s t) : elapsed s t < 1000000000 := by
  have hcases := leapCorrection_cases s t
  have hssecond := s.second_lt
  have htsecond := t.second_lt
  have htnano := t.nano_lt
  rw [Precedes] at h
  rw [elapsed]
  omega

/-- The whole calendar has fewer nanoseconds than 2 ^ 63 seconds have. -/
lemma elapsed_lt_of_onCalendar (hs : OnCalendar s) (ht : OnCalendar t) :
    elapsed s t < (2 ^ 63 - 1) * 1000000000 := by
  have hcases := leapCorrection_cases s t
  have hsday := hs.day
  have htday := ht.day
  have hfirst : firstDay = -96465292 := by decide
  have hlast : lastDay = 95026236 := by decide
  have htsecond := t.second_lt
  have htnano := t.nano_lt
  rw [hfirst, hlast] at hsday htday
  rw [elapsed]
  omega

lemma elapsed_le_of_exactAmong {S : Set Instant} (hS : ExactAmong S) (hs : s ∈ S) (ht : t ∈ S)
    (hu : u ∈ S) (h : ¬Precedes u t) : elapsed s t ≤ elapsed s u := by
  obtain ⟨place, hplace⟩ := hS
  have horder : ¬place u < place t := mt (hplace u hu t ht).2.mpr h
  rw [(hplace s hs t ht).1, (hplace s hs u hu).1]
  omega

/-- More than `n` whole seconds are `n + 1` seconds at least. -/
lemma lt_secondsBetween_iff {n : ℕ} :
    (n : ℤ) < secondsBetween s t ↔ ((n : ℤ) + 1) * 1000000000 ≤ elapsed s t := by
  rw [secondsBetween]
  rcases Int.le_total 0 (elapsed s t) with hpos | hneg
  · rw [Int.tdiv_eq_ediv_of_nonneg hpos]
    omega
  · have hzero := Int.tdiv_nonneg (Int.neg_nonneg_of_nonpos hneg) (b := 1000000000) (by decide)
    rw [Int.neg_tdiv] at hzero
    omega

end Elapsed

/-! ### Expiry -/

section Expiry

variable {α : Type} {v : Stamped α} {now : Instant} {ttl : ℕ}

lemma isExpired_iff :
    v.isExpired ttl now = true ↔ ((ttl : ℤ) + 1) * 1000000000 ≤ v.time.elapsed now := by
  rw [← lt_secondsBetween_iff]
  exact decide_eq_true_iff

lemma isExpired_eq_false_iff :
    v.isExpired ttl now = false ↔ v.time.elapsed now < ((ttl : ℤ) + 1) * 1000000000 := by
  rw [← Bool.not_eq_true, isExpired_iff, Int.not_le]

/-- What is compared with the age can as well be capped at the greatest signed number of 64 bits. -/
lemma isExpired_eq_capped (hv : OnCalendar v.time) (hnow : OnCalendar now) :
    v.isExpired ttl now = decide (min (ttl : ℤ) (2 ^ 63 - 1) < v.age now) := by
  have hage : ¬((2 ^ 63 - 1 : ℕ) : ℤ) < v.age now := by
    rw [Stamped.age, lt_secondsBetween_iff]
    have hlt := elapsed_lt_of_onCalendar hv hnow
    omega
  rw [Stamped.isExpired, decide_eq_decide]
  omega

/-- A load that is refused for its age tells an age beyond the time to live. -/
lemma lt_of_load_expired {i : Inventory} {read : FileReader} {allowStale : Bool} {age : ℤ}
    (h : i.load read allowStale now = .error (.cacheExpired age ttl)) : (ttl : ℤ) < age := by
  have hattempt : attempt i read allowStale now = (.error (.cacheExpired age ttl), i) := by
    rw [attempt, h]
  have hends := attempt_ends i read allowStale now
  rw [hattempt] at hends
  cases hends with
  | expired _ _ hage => exact hage

/-- A saved cache that is too old is refused with its age. -/
lemma load_savedData_expired (i : Inventory) (now : Instant) {time : Instant}
    (htime : OnCalendar time) (hage : (i.settings.cacheTtl : ℤ) < time.secondsBetween now) :
    i.load (fun _ => .ok (savedData i time)) false now =
      .error (.cacheExpired (time.secondsBetween now) i.settings.cacheTtl) := by
  have hexpired : Stamped.isExpired (⟨time, i.store.toSnapshot⟩ : Stamped Snapshot)
      i.settings.cacheTtl now = true := decide_eq_true hage
  rw [Inventory.load, decode_savedData i htime]
  simp only [bind, Except.bind, Bool.not_false, Bool.true_and, hexpired, if_true]
  rfl

end Expiry

/-- A value is expired just when `ttl + 1` seconds have passed or more: never before it was saved, and
on the calendar never with a time to live beyond the signed numbers of 64 bits, which is why these
can stand for all. Where subtraction is exact, as it is outside leap seconds, what is expired stays
so; a greater time to live keeps a value good; and a load that is refused shows an age that is
greater than the time to live. -/
theorem expiry_exact {α : Type} (v : Stamped α) (now : Instant) (ttl : ℕ) :
    (v.isExpired ttl now = true ↔ ((ttl : ℤ) + 1) * 1000000000 ≤ v.time.elapsed now) ∧
    (¬Precedes v.time now → v.isExpired ttl now = false) ∧
    (OnCalendar v.time → OnCalendar now →
      v.isExpired ttl now = decide (min (ttl : ℤ) (2 ^ 63 - 1) < v.age now) ∧
      (2 ^ 63 ≤ ttl → v.isExpired ttl now = false)) ∧
    ExactAmong {t : Instant | t.nano < 1000000000} ∧
    (∀ S, ExactAmong S → v.time ∈ S → now ∈ S → ∀ later ∈ S, ¬Precedes later now →
      v.isExpired ttl now = true → v.isExpired ttl later = true) ∧
    (∀ larger, ttl ≤ larger → v.isExpired ttl now = false → v.isExpired larger now = false) ∧
    ∀ (i : Inventory) (read : FileReader) (allowStale : Bool) (age : ℤ) (ttl : ℕ),
      i.load read allowStale now = .error (.cacheExpired age ttl) → (ttl : ℤ) < age := by
  refine ⟨isExpired_iff, fun h => ?_, fun hv hnow => ⟨isExpired_eq_capped hv hnow, fun h => ?_⟩,
    exactAmong_of_no_leap, fun S hS hv hnow later hlater h hexpired => ?_, fun larger h hgood => ?_,
    fun i read allowStale age ttl h => lt_of_load_expired h⟩
  · have hlt := elapsed_lt_of_not_precedes h
    exact isExpired_eq_false_iff.mpr (by omega)
  · have hlt := elapsed_lt_of_onCalendar hv hnow
    exact isExpired_eq_false_iff.mpr (by omega)
  · exact isExpired_iff.mpr
      ((isExpired_iff.mp hexpired).trans (elapsed_le_of_exactAmong hS hv hnow hlater h))
  · have hlt := isExpired_eq_false_iff.mp hgood
    exact isExpired_eq_false_iff.mpr (by omega)

/-- A second after an hour has passed. -/
theorem expiry_exact_of_hour : ∃ (v : Stamped Unit) (now later : Instant),
    v.time = default ∧ now = ⟨0, 3601, 0, by decide, by decide⟩ ∧
    later = ⟨1, 0, 0, by decide, by decide⟩ ∧
    v.isExpired 0 v.time = false ∧ v.isExpired (2 ^ 64 - 1) now = false ∧
    v.isExpired 3600 now = true ∧ v.isExpired 3600 later = true ∧
    v.isExpired 3601 now = false ∧ v.isExpired 7200 now = false ∧
    ∃ (i : Inventory) (read : FileReader),
      i.load read false now = .error (.cacheExpired 3601 3600) ∧ ((3600 : ℕ) : ℤ) < 3601 := by
  let v : Stamped Unit := ⟨default, ()⟩
  let now : Instant := ⟨0, 3601, 0, by decide, by decide⟩
  let later : Instant := ⟨1, 0, 0, by decide, by decide⟩
  have hnow : OnCalendar now := ⟨by decide, by decide⟩
  obtain ⟨-, hnever, -⟩ := expiry_exact v v.time 0
  obtain ⟨-, -, hcapped, -⟩ := expiry_exact v now (2 ^ 64 - 1)
  obtain ⟨-, -, -, hexact, hstays, -⟩ := expiry_exact v now 3600
  obtain ⟨-, -, -, -, -, hlarger, hload⟩ := expiry_exact v now 3601
  have hexpired : v.isExpired 3600 now = true := by decide
  have hgood : v.isExpired 3601 now = false := by decide
  obtain ⟨i, httl⟩ : ∃ i : Inventory, i.settings.cacheTtl = 3600 :=
    ⟨.new { (default : InventorySettings) with cacheTtl := 3600 }, rfl⟩
  have hage : (default : Instant).secondsBetween now = 3601 := by decide
  have hrefused := load_savedData_expired i now onCalendar_default (by omega)
  rw [hage, httl] at hrefused
  exact ⟨v, now, later, rfl, rfl, rfl, hnever (by simp [Precedes]),
    (hcapped onCalendar_default hnow).2 (by decide), hexpired,
    hstays _ hexact (by decide) (by decide) later (by decide) (by simp [Precedes, now, later])
      hexpired,
    hgood, hlarger 7200 (by decide) hgood, i, _, hrefused, hload i _ false 3601 3600 hrefused⟩

end HostFleet.Proofs
