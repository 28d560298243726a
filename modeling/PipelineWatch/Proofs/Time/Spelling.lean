import PipelineWatch.Proofs.Text.Blank
import PipelineWatch.Proofs.Time.Order

/-!
Texts of days, times and offsets, told without a reader, and what the readers make of their
parts. A number is read from its digits whatever stands behind them, since it has its full
width; only a fraction is as long as its digits go on.
-/
namespace PipelineWatch.Time

/-! ### Texts -/

/-- So many digits, and the number that they are. -/
structure SpellsNumber (width n : Nat) (cs : List Char) : Prop where
  digit : ∀ c ∈ cs, c.isDigit = true
  length : cs.length = width
  value : Nat.ofDigitChars 10 cs 0 = n

/-- A fraction of a second with its point, if there is one: as many nanoseconds as it has
whole ones. -/
inductive SpellsFraction : Nat → List Char → Prop where
  | whole : SpellsFraction 0 []
  | parts {ds : List Char} (digit : ∀ c ∈ ds, c.isDigit = true) (ne_nil : ds ≠ []) :
      SpellsFraction (Nat.ofDigitChars 10 ds 0 * nanosPerSecond / 10 ^ ds.length) ('.' :: ds)

/-- A day and a time down to the second. -/
inductive SpellsSeconds (separator : Char) : Date → Clock → List Char → Prop where
  | mk {year month day hour minute second : Nat} {y m d h n s : List Char} :
      SpellsNumber 4 year y → SpellsNumber 2 month m → SpellsNumber 2 day d →
      SpellsNumber 2 hour h → SpellsNumber 2 minute n → SpellsNumber 2 second s →
      SpellsSeconds separator ⟨year, month, day⟩ ⟨hour, minute, second, 0⟩
        (y ++ '-' :: (m ++ '-' :: (d ++ separator :: (h ++ ':' :: (n ++ ':' :: s)))))

/-- A day and a time: `2026-02-07T21:00:00`, or `2026-02-07T21:00:00.5`. -/
inductive SpellsMoment : Date → Clock → List Char → Prop where
  | mk {d : Date} {c : Clock} {nanos : Nat} {text fraction : List Char} :
      SpellsSeconds 'T' d c text → SpellsFraction nanos fraction →
      SpellsMoment d { c with nanos } (text ++ fraction)

/-- How many minutes a clock is ahead of universal time: `Z`, `+02:00` or `-02:00`. -/
inductive SpellsOffset : Int → List Char → Prop where
  | zero : SpellsOffset 0 ['Z']
  | ahead {hours minutes : Nat} {h n : List Char} : SpellsNumber 2 hours h →
      SpellsNumber 2 minutes n → minutes < 60 → hours * 60 + minutes < 24 * 60 →
      SpellsOffset (hours * 60 + minutes : Nat) ('+' :: (h ++ ':' :: n))
  | behind {hours minutes : Nat} {h n : List Char} : SpellsNumber 2 hours h →
      SpellsNumber 2 minutes n → minutes < 60 → hours * 60 + minutes < 24 * 60 →
      SpellsOffset (-(hours * 60 + minutes : Nat)) ('-' :: (h ++ ':' :: n))

/-! ### Numbers -/

/-- No digit comes next. -/
def EndsDigits (rest : List Char) : Prop :=
  ∀ c ∈ rest.head?, c.isDigit = false

theorem digitsOf_append {ds rest : List Char} (digit : ∀ c ∈ ds, c.isDigit = true)
    (width : Nat) (ends : width ≤ ds.length ∨ EndsDigits rest) :
    digitsOf width (ds ++ rest) = ds.take width := by
  have digits : ∀ c ∈ ds.take width, c.isDigit = true := by
    intro c hc
    exact digit c (List.mem_of_mem_take hc)
  rw [digitsOf, List.take_append, List.takeWhile_append_of_pos digits]
  have none : (rest.take (width - ds.length)).takeWhile Char.isDigit = [] := by
    rcases ends with full | ends
    · rw [Nat.sub_eq_zero_of_le full]
      rfl
    · cases rest with
      | nil => simp
      | cons c rest =>
        have other := ends c rfl
        cases width - ds.length with
        | zero => rfl
        | succ k => simp [other]
  rw [none, List.append_nil]

theorem length_sub_length_drop (most : Nat) (ds rest : List Char) :
    (ds ++ rest).length - (ds.drop most ++ rest).length = (ds.take most).length := by
  rw [List.length_append, List.length_append, List.length_drop, List.length_take]
  omega

theorem number?_append {least most : Nat} {ds rest : List Char}
    (digit : ∀ c ∈ ds, c.isDigit = true) (ends : most ≤ ds.length ∨ EndsDigits rest)
    (enough : least ≤ (ds.take most).length) :
    number? least most (ds ++ rest) =
      some (Nat.ofDigitChars 10 (ds.take most) 0, ds.drop most ++ rest) := by
  have behind : (ds ++ rest).drop (ds.take most).length = ds.drop most ++ rest := by
    rw [List.length_take]
    rcases Nat.le_total most ds.length with few | all
    · rw [Nat.min_eq_left few, List.drop_append_of_le_length few]
    · rw [Nat.min_eq_right all, List.drop_left, List.drop_of_length_le all, List.nil_append]
  rw [number?, takeDigits_eq, digitsOf_append digit most ends, behind]
  simp only [length_sub_length_drop, if_pos enough]

theorem number?_spelled {least most n : Nat} {cs : List Char} (h : SpellsNumber most n cs)
    (le : least ≤ most) (rest : List Char) :
    number? least most (cs ++ rest) = some (n, rest) := by
  have full : most ≤ cs.length := Nat.le_of_eq h.length.symm
  have whole : cs.take most = cs := List.take_of_length_le (Nat.le_of_eq h.length)
  have none : cs.drop most = [] := List.drop_of_length_le (Nat.le_of_eq h.length)
  have enough : least ≤ (cs.take most).length := by
    rw [whole]
    exact Nat.le_trans le full
  rw [number?_append h.digit (.inl full) enough, whole, none, h.value, List.nil_append]

theorem exists_spelled_of_number? {width n : Nat} {cs rest : List Char}
    (h : number? width width cs = some (n, rest)) :
    ∃ ds, SpellsNumber width n ds ∧ cs = ds ++ rest := by
  obtain ⟨value, count⟩ := eq_of_number? h
  rw [number?, takeDigits_eq] at h
  simp only at h
  split at h
  · next full =>
    obtain ⟨-, rfl⟩ := Prod.mk.inj (Option.some.inj h)
    have few := (length_digitsOf_le width cs).1
    refine ⟨digitsOf width cs, ⟨isDigit_of_mem_digitsOf width cs, by omega, value.symm⟩, ?_⟩
    have front : digitsOf width cs <+: cs :=
      (List.takeWhile_prefix _).trans (List.take_prefix width cs)
    exact List.prefix_iff_eq_append.mp front |>.symm
  · cases h

/-! ### Fractions -/

/-- The digits that are kept are worth the whole nanoseconds. -/
theorem ofDigitChars_take_nine {ds : List Char} (digit : ∀ c ∈ ds, c.isDigit = true) :
    Nat.ofDigitChars 10 (ds.take 9) 0 * 10 ^ (9 - (ds.take 9).length) =
      Nat.ofDigitChars 10 ds 0 * nanosPerSecond / 10 ^ ds.length := by
  have billion : nanosPerSecond = 10 ^ 9 := rfl
  rw [billion]
  by_cases short : ds.length ≤ 9
  · have split : 10 ^ 9 = 10 ^ (9 - ds.length) * 10 ^ ds.length := by
      rw [← Nat.pow_add, Nat.sub_add_cancel short]
    rw [List.take_of_length_le short, split, ← Nat.mul_assoc,
      Nat.mul_div_cancel _ (Nat.pow_pos (by decide))]
  · have nine : (ds.take 9).length = 9 := by
      rw [List.length_take]
      omega
    have below : Nat.ofDigitChars 10 (ds.drop 9) 0 < 10 ^ (ds.drop 9).length := by
      have rest : ∀ c ∈ ds.drop 9, c.isDigit = true :=
        fun c hc => digit c (List.mem_of_mem_drop hc)
      have small := Text.ofDigitChars_lt rest 0
      rwa [Nat.zero_add, Nat.one_mul] at small
    have whole : Nat.ofDigitChars 10 ds 0 =
        10 ^ (ds.drop 9).length * Nat.ofDigitChars 10 (ds.take 9) 0 +
          Nat.ofDigitChars 10 (ds.drop 9) 0 := by
      rw [← Nat.ofDigitChars_eq_ofDigitChars_zero, ← Nat.ofDigitChars_append,
        List.take_append_drop]
    have length : 10 ^ ds.length = 10 ^ (ds.drop 9).length * 10 ^ 9 := by
      rw [← Nat.pow_add, List.length_drop]
      congr 1
      omega
    rw [nine, length, Nat.mul_div_mul_right _ _ (by decide), whole,
      Nat.mul_add_div (Nat.pow_pos (by decide)), Nat.div_eq_of_lt below]
    simp

/-- Neither a digit nor a point comes next. -/
def EndsSeconds (rest : List Char) : Prop :=
  ∀ c ∈ rest.head?, c.isDigit = false ∧ c ≠ '.'

theorem isSome_digitValue? (c : Char) : (digitValue? c).isSome = c.isDigit := by
  rw [digitValue?_eq]
  cases c.isDigit <;> rfl

/-- The digits that are dropped end where all of them do. -/
theorem dropWhile_digits {ds rest : List Char} (digit : ∀ c ∈ ds, c.isDigit = true)
    (ends : EndsDigits rest) : (ds ++ rest).dropWhile (fun c => (digitValue? c).isSome) = rest := by
  simp only [isSome_digitValue?]
  rw [List.dropWhile_append_of_pos digit]
  cases rest with
  | nil => rfl
  | cons c rest => simp [ends c rfl]

theorem fraction?_spelled {nanos : Nat} {cs rest : List Char} (h : SpellsFraction nanos cs)
    (ends : EndsSeconds rest) : fraction? (cs ++ rest) = some (nanos, rest) := by
  cases h with
  | whole =>
    rw [List.nil_append]
    unfold fraction?
    split
    · exact absurd rfl (ends '.' rfl).2
    · rfl
  | @parts ds digit ne_nil =>
    have endsDigits : EndsDigits rest := by
      intro c hc
      exact (ends c hc).1
    have one : 1 ≤ (ds.take 9).length := by
      have positive := List.length_pos_iff.mpr ne_nil
      rw [List.length_take]
      omega
    have number := number?_append digit (.inr endsDigits) one
    have passed : (ds.drop 9 ++ rest).dropWhile (fun c => (digitValue? c).isSome) = rest :=
      dropWhile_digits (fun c hc => digit c (List.mem_of_mem_drop hc)) endsDigits
    rw [List.cons_append]
    simp only [fraction?, number, length_sub_length_drop, passed]
    exact congrArg (fun n => some (n, rest)) (ofDigitChars_take_nine digit)

theorem fraction?_spelled_end {nanos : Nat} {cs : List Char} (h : SpellsFraction nanos cs) :
    fraction? cs = some (nanos, []) := by
  have ends : EndsSeconds [] := by nofun
  have read := fraction?_spelled h ends
  rwa [List.append_nil] at read

/-! ### Offsets -/

theorem magnitude_spelled {hours minutes : Nat} {h n : List Char} (hh : SpellsNumber 2 hours h)
    (hn : SpellsNumber 2 minutes n) (hour : minutes < 60) (day : hours * 60 + minutes < 24 * 60) :
    offset?.magnitude (h ++ ':' :: n) = some (((hours * 60 + minutes : Nat) : Int) * 60, []) := by
  have last := number?_spelled hn (Nat.le_refl 2) []
  rw [List.append_nil] at last
  rw [offset?.magnitude, number?_spelled hh (Nat.le_refl 2)]
  simp only [Option.bind_eq_bind, Option.bind_some, literal?, if_true, last]
  rw [if_pos (by omega), Int.natCast_add, Int.natCast_mul]
  rfl

theorem offset?_spelled {minutes : Int} {cs : List Char} (h : SpellsOffset minutes cs) :
    offset? cs = some (minutes * 60, []) := by
  cases h with
  | zero => rfl
  | ahead hh hn hour day =>
    have read := magnitude_spelled hh hn hour day
    simp [offset?, read]
  | behind hh hn hour day =>
    have read := magnitude_spelled hh hn hour day
    rw [Int.neg_mul]
    simp [offset?, read]

end PipelineWatch.Time
