import WalletWatch.Time.Calendar

/-!
# Dates and days

Every number of days is that of a valid date. The calendar repeats after 400 years of 146097 days, which are
four centuries of 25 spans of four years; only the last year of a span has 366 days, and at the end of a
century not even this one, unless it ends the 400 years. `Parts` splits a day of the 400 years in this way,
and `CivilDate.ofDays` is evaluated from its parts.
-/

namespace WalletWatch

namespace CivilDate

/-- A day of an era of 400 years by its century, span of four years, year, and day of the year. -/
structure Parts (d c q a r : Int) : Prop where
  sum : d = 36524 * c + (1461 * q + 365 * a + r)
  century : 0 ≤ c ∧ c ≤ 3
  span : 0 ≤ q ∧ q ≤ 24
  year : 0 ≤ a ∧ a ≤ 3
  day : 0 ≤ r ∧ r ≤ 365
  leap : r = 365 → a = 3 ∧ (q = 24 → c = 3)

theorem exists_parts {d : Int} (low : 0 ≤ d) (high : d < 146097) : ∃ c q a r, Parts d c q a r := by
  have bounds : ∃ c q a r : Int, d = 36524 * c + (1461 * q + 365 * a + r) ∧ (0 ≤ c ∧ c ≤ 3) ∧
      (0 ≤ q ∧ q ≤ 24) ∧ (0 ≤ a ∧ a ≤ 3) ∧ (0 ≤ r ∧ r ≤ 365) ∧
      (r = 365 → a = 3 ∧ (q = 24 → c = 3)) := by
    refine ⟨min (d / 36524) 3, (d - 36524 * min (d / 36524) 3) / 1461,
      min ((d - 36524 * min (d / 36524) 3) % 1461 / 365) 3,
      (d - 36524 * min (d / 36524) 3) % 1461 -
        365 * min ((d - 36524 * min (d / 36524) 3) % 1461 / 365) 3, ?_⟩
    omega
  obtain ⟨c, q, a, r, sum, century, span, year, day, leap⟩ := bounds
  exact ⟨c, q, a, r, sum, century, span, year, day, leap⟩

theorem Parts.centuries_eq {d c q a r : Int} (h : Parts d c q a r) : d / 36524 - d / 146096 = c := by
  have inside : 1461 * q + 365 * a + r < 36524 ∨ c = 3 ∧ 1461 * q + 365 * a + r = 36524 := by
    obtain ⟨-, -, span, year, day, leap⟩ := h
    by_cases hl : r = 365
    · obtain ⟨rfl, late⟩ := leap hl
      by_cases hq : q = 24
      · exact .inr ⟨late hq, by omega⟩
      · exact .inl (by omega)
    · exact .inl (by omega)
  obtain ⟨sum, century, span, year, day, -⟩ := h
  have behind : 0 ≤ 1461 * q + 365 * a + r := by omega
  generalize 1461 * q + 365 * a + r = z at *
  rcases inside with inside | ⟨rfl, rfl⟩ <;> omega

/-- The days beyond 1460 in each span add up to less than one span. -/
theorem Parts.spans_eq {d c q a r : Int} (h : Parts d c q a r) :
    d / 1460 = 25 * c + q ∨ d / 1460 = 25 * c + q + 1 ∧ 1460 ≤ 24 * c + q + 365 * a + r := by
  obtain ⟨sum, century, span, year, day, -⟩ := h
  omega

theorem Parts.yearOfEra_eq {d c q a r : Int} (h : Parts d c q a r) :
    (d - d / 1460 + d / 36524 - d / 146096) / 365 = 100 * c + 4 * q + a := by
  have days : d - d / 1460 + d / 36524 - d / 146096 =
      365 * (100 * c + 4 * q + a) + (r - (d / 1460 - 25 * c - q)) := by
    have sum := h.sum
    have centuries := h.centuries_eq
    omega
  rw [days]
  obtain ⟨-, century, span, year, day, leap⟩ := id h
  rcases h.spans_eq with few | ⟨many, far⟩
  · rw [few]
    omega
  · rw [many]
    omega

theorem Parts.leapDays_eq {d c q a r : Int} (h : Parts d c q a r) :
    (100 * c + 4 * q + a) / 4 - (100 * c + 4 * q + a) / 100 = 24 * c + q := by
  obtain ⟨-, century, span, year, -, -⟩ := h
  have fours : (100 * c + 4 * q + a) / 4 = 25 * c + q := by omega
  have hundreds : (100 * c + 4 * q + a) / 100 = c := by omega
  omega

/-- The date of a day from its parts, with months counted from March. -/
theorem Parts.ofDays_eq {d c q a r : Int} {n era : Int} (h : Parts d c q a r)
    (hn : n + 719468 = 146097 * era + d) :
    ofDays n =
      let month := (5 * r + 2) / 153
      let year := 400 * era + 100 * c + 4 * q + a
      let day := r - (153 * month + 2) / 5 + 1
      if month < 10 then ⟨year, (month + 3).toNat, day.toNat⟩
      else ⟨year + 1, (month - 9).toNat, day.toNat⟩ := by
  have range : 0 ≤ d ∧ d < 146097 := by
    obtain ⟨sum, century, span, year, day, leap⟩ := h
    omega
  have era_eq : (n + 719468) / 146097 = era := by omega
  have rest_eq : (n + 719468) % 146097 = d := by omega
  have day_eq : d - (365 * (100 * c + 4 * q + a) + (100 * c + 4 * q + a) / 4 -
      (100 * c + 4 * q + a) / 100) = r := by
    have sum := h.sum
    have leapDays := h.leapDays_eq
    omega
  have bounds := h.day
  simp only [ofDays, era_eq, rest_eq, h.yearOfEra_eq, day_eq]
  split
  · rw [if_neg (by omega)]
    congr 1
    omega
  · rw [if_pos (by omega)]
    congr 1
    omega

/-- A year from March on has a leap day if its last month lies in a leap year. -/
theorem Parts.isLeapYear_of_last {d c q a r : Int} (era : Int) (h : Parts d c q a r) (last : r = 365) :
    isLeapYear (400 * era + 100 * c + 4 * q + a + 1) = true := by
  obtain ⟨-, century, span, -, -, leap⟩ := h
  obtain ⟨rfl, late⟩ := leap last
  simp only [isLeapYear, Bool.and_eq_true, Bool.or_eq_true, decide_eq_true_eq, ne_eq]
  refine ⟨by omega, ?_⟩
  by_cases hq : q = 24
  · have hc := late hq
    exact .inr (by omega)
  · exact .inl (by omega)

theorem monthLength_le (y : Int) (m : Nat) : monthLength y m ≤ 31 := by
  unfold monthLength
  split
  · split <;> decide
  · split <;> decide

theorem isValid_ofDays (n : Int) : (ofDays n).isValid = true := by
  obtain ⟨c, q, a, r, parts⟩ := exists_parts (d := (n + 719468) % 146097) (by omega) (by omega)
  have split_n : n + 719468 = 146097 * ((n + 719468) / 146097) + (n + 719468) % 146097 := by omega
  rw [parts.ofDays_eq split_n]
  have last := parts.isLeapYear_of_last ((n + 719468) / 146097)
  obtain ⟨low, high⟩ := parts.day
  generalize 400 * ((n + 719468) / 146097) + 100 * c + 4 * q + a = year at *
  by_cases february : (5 * r + 2) / 153 = 11
  · have fits : r - 337 + 1 ≤ monthLength (year + 1) 2 := by
      rw [monthLength, if_pos rfl]
      by_cases hr : r = 365
      · rw [if_pos (last hr)]
        omega
      · split <;> omega
    simpa [february, isValid] using ⟨by omega, fits⟩
  · have months : (5 * r + 2) / 153 = 0 ∨ (5 * r + 2) / 153 = 1 ∨ (5 * r + 2) / 153 = 2 ∨
        (5 * r + 2) / 153 = 3 ∨ (5 * r + 2) / 153 = 4 ∨ (5 * r + 2) / 153 = 5 ∨
        (5 * r + 2) / 153 = 6 ∨ (5 * r + 2) / 153 = 7 ∨ (5 * r + 2) / 153 = 8 ∨
        (5 * r + 2) / 153 = 9 ∨ (5 * r + 2) / 153 = 10 := by omega
    rcases months with hm | hm | hm | hm | hm | hm | hm | hm | hm | hm | hm <;>
      simp [hm, isValid, monthLength] <;> omega

theorem toDays_ofDays (n : Int) : (ofDays n).toDays = n := by
  obtain ⟨c, q, a, r, parts⟩ := exists_parts (d := (n + 719468) % 146097) (by omega) (by omega)
  have split_n : n + 719468 = 146097 * ((n + 719468) / 146097) + (n + 719468) % 146097 := by omega
  rw [parts.ofDays_eq split_n]
  generalize (n + 719468) / 146097 = era at *
  have leapDays := parts.leapDays_eq
  obtain ⟨sum, century, span, year, day, -⟩ := parts
  have cycle : (400 * era + 100 * c + 4 * q + a) / 400 = era := by omega
  have rest : (400 * era + 100 * c + 4 * q + a) % 400 = 100 * c + 4 * q + a := by omega
  have dayOfMonth : ((r - (153 * ((5 * r + 2) / 153) + 2) / 5 + 1).toNat : Int) =
      r - (153 * ((5 * r + 2) / 153) + 2) / 5 + 1 := by omega
  dsimp only
  split
  · next early =>
      have month : ((((5 * r + 2) / 153 + 3).toNat : Nat) : Int) - 3 = (5 * r + 2) / 153 := by omega
      have later : ¬ ((5 * r + 2) / 153 + 3).toNat ≤ 2 := by omega
      simp only [toDays, if_neg later, cycle, rest, month, dayOfMonth]
      omega
  · next late =>
      have month : ((((5 * r + 2) / 153 - 9).toNat : Nat) : Int) + 9 = (5 * r + 2) / 153 := by omega
      have first : ((5 * r + 2) / 153 - 9).toNat ≤ 2 := by omega
      simp only [toDays, if_pos first, Int.add_sub_cancel, cycle, rest, month, dayOfMonth]
      omega

end CivilDate

end WalletWatch
