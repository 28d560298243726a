import PipelineWatch.Time.Calendar

/-!
The days of the calendar are numbered one after the other, over the ends of months and years,
and the first of January 1970 has the number zero.
-/
namespace PipelineWatch.Time

/-! ### Months and years -/

/-- How many days the month has. -/
def Date.monthLength (d : Date) : Nat :=
  (monthLengths d.year).getD (d.month - 1) 0

/-- The day after this one. -/
def Date.next (d : Date) : Date :=
  if d.day < d.monthLength then { d with day := d.day + 1 }
  else if d.month < 12 then ⟨d.year, d.month + 1, 1⟩
  else ⟨d.year + 1, 1, 1⟩

theorem Date.isValid_iff {d : Date} :
    d.isValid = true ↔ (firstYear ≤ d.year ∧ d.year ≤ lastYear) ∧ 1 ≤ d.month ∧ 1 ≤ d.day ∧
      d.day ≤ d.monthLength := by
  simp [isValid, monthLength, and_assoc]

/-- A month that has days is one of the twelve. -/
theorem Date.month_le_of_day_le {d : Date} (first : 1 ≤ d.day) (last : d.day ≤ d.monthLength) :
    d.month ≤ 12 := by
  apply Decidable.byContradiction
  intro beyondTwelve
  have beyond : (monthLengths d.year).length ≤ d.month - 1 := by
    simp only [monthLengths, List.length_cons, List.length_nil]
    omega
  have none : d.monthLength = 0 := by
    rw [monthLength, List.getD_eq_getElem?_getD, List.getElem?_eq_none beyond]
    rfl
  omega

/-- The days of some months, added up. -/
def total (lengths : List Nat) : Nat :=
  lengths.foldl (· + ·) 0

theorem total_take_succ (lengths : List Nat) (k : Nat) :
    total (lengths.take (k + 1)) = total (lengths.take k) + lengths.getD k 0 := by
  rw [total, total, List.take_add_one, List.foldl_append, List.getD_eq_getElem?_getD]
  cases lengths[k]? with
  | none => rfl
  | some n => rfl

theorem total_monthLengths (year : Int) :
    total (monthLengths year) = if isLeapYear year then 366 else 365 := by
  cases h : isLeapYear year <;> simp [monthLengths, total, h]

theorem daysBefore_succ (year : Int) :
    daysBefore (year + 1) = daysBefore year + total (monthLengths year) := by
  rw [total_monthLengths]
  simp only [isLeapYear, daysBefore, Bool.and_eq_true, Bool.or_eq_true, beq_iff_eq, bne_iff_ne]
  split
  · omega
  · omega

/-! ### Days -/

theorem Date.dayNumber_mk (year : Int) (month day : Nat) :
    Date.dayNumber ⟨year, month, day⟩ = daysBefore year - daysBefore 1970 +
      (total ((monthLengths year).take (month - 1)) + day - 1 : Nat) :=
  rfl

theorem Date.dayNumber_next {d : Date} (h : d.isValid = true) :
    d.next.dayNumber = d.dayNumber + 1 := by
  obtain ⟨year, month, day⟩ := d
  obtain ⟨-, start, first, last⟩ := isValid_iff.mp h
  have twelve := month_le_of_day_le first last
  have through := total_take_succ (monthLengths year) (month - 1)
  simp only [next, monthLength] at *
  split
  · rw [dayNumber_mk, dayNumber_mk]
    omega
  split
  · -- the first of a month comes after all days of the month before
    have same : month - 1 + 1 = month + 1 - 1 := by omega
    rw [same] at through
    rw [dayNumber_mk, dayNumber_mk]
    omega
  · have same : month - 1 + 1 = 12 := by omega
    have all : (monthLengths year).take 12 = monthLengths year := rfl
    have none : total ((monthLengths (year + 1)).take (1 - 1)) = 0 := rfl
    rw [same, all] at through
    rw [dayNumber_mk, dayNumber_mk, daysBefore_succ, none]
    omega

/-- Days are numbered one after the other, from the first of January 1970 on. -/
structure NumbersDays (number : Date → Int) : Prop where
  epoch : number ⟨1970, 1, 1⟩ = 0
  next : ∀ d : Date, d.isValid = true → number d.next = number d + 1

theorem Date.dayNumber_numbersDays : NumbersDays Date.dayNumber where
  epoch := by decide
  next := fun _ => dayNumber_next

end PipelineWatch.Time
