import PipelineWatch.Proofs.Text.Digits
import PipelineWatch.Time.Instant

/-!
What a clock of universal time shows at an instant, and that the order of instants is that of
what it shows. A leap second is the sixty-first of its minute: it comes after everything in
the second before it and before everything in the next minute. Every instant that is read from
text is one that such a clock can show.
-/
namespace PipelineWatch.Time

/-- The nanoseconds of a second. -/
def nanosPerSecond : Nat := 1000000000

/-- What a clock of universal time shows: the minute, counted from the start of 1970, the second
of the minute, which is 60 in a leap second, and the nanoseconds of the second. -/
structure Reading where
  minute : Int
  second : Nat
  nanos : Nat
deriving DecidableEq, Repr

/-- What it shows when a clock that is so many minutes ahead shows this day and time. -/
def Reading.universal (d : Date) (c : Clock) (ahead : Int) : Reading where
  minute := d.dayNumber * 1440 + (c.hour * 60 + c.minute : Nat) - ahead
  second := c.second
  nanos := c.nanos

/-- The clock shows the one before the other. -/
def Reading.Before (a b : Reading) : Prop :=
  a.minute < b.minute ∨ a.minute = b.minute ∧
    (a.second < b.second ∨ a.second = b.second ∧ a.nanos < b.nanos)

instance (a b : Reading) : Decidable (a.Before b) :=
  inferInstanceAs (Decidable (_ ∨ _))

namespace Instant

/-- What the clock shows at the instant. -/
def reading (t : Instant) : Reading where
  minute := t.seconds / 60
  second := (t.seconds % 60).toNat + t.nanos / nanosPerSecond
  nanos := t.nanos % nanosPerSecond

/-- There is a leap second only behind the last second of a minute, and it is no longer than
any other. -/
structure Proper (t : Instant) : Prop where
  short : t.nanos < 2 * nanosPerSecond
  last : nanosPerSecond ≤ t.nanos → t.seconds % 60 = 59

/-! ### Order -/

instance : Std.TransCmp Instant.compare :=
  inferInstanceAs (Std.TransCmp (compareLex (compareOn Instant.seconds) (compareOn Instant.nanos)))

variable {s t : Instant}

theorem compare_eq_lt_iff : s.compare t = .lt ↔
    s.seconds < t.seconds ∨ s.seconds = t.seconds ∧ s.nanos < t.nanos := by
  simp only [compare, compareLex, compareOn, Ordering.then_eq_lt, Int.compare_eq_lt,
    Int.compare_eq_eq, Nat.compare_eq_lt]

theorem compare_eq_eq_iff : s.compare t = .eq ↔ s = t := by
  cases s
  cases t
  simp only [compare, compareLex, compareOn, Ordering.then_eq_eq, Int.compare_eq_eq,
    Nat.compare_eq_eq, mk.injEq]

/-- One instant is earlier than the other if the clock shows it before. -/
theorem Proper.compare_eq_lt_iff (hs : s.Proper) (ht : t.Proper) :
    s.compare t = .lt ↔ s.reading.Before t.reading := by
  obtain ⟨short, last⟩ := hs
  obtain ⟨short', last'⟩ := ht
  rw [Instant.compare_eq_lt_iff]
  simp only [Reading.Before, reading, nanosPerSecond] at *
  omega

/-- The instant at which a clock that is so many minutes ahead of universal time shows this day
and time. -/
structure ShownAs (t : Instant) (d : Date) (c : Clock) (ahead : Int) : Prop where
  made : ∃ shown, ofParts? d c = some shown ∧
    t = { shown with seconds := shown.seconds - ahead * 60 }
  nanos : c.nanos < nanosPerSecond

theorem shownAs_of_ofParts? {d : Date} {c : Clock} (h : ofParts? d c = some t)
    (nanos : c.nanos < nanosPerSecond) : t.ShownAs d c 0 :=
  ⟨⟨t, h, by rw [Int.zero_mul, Int.sub_zero]⟩, nanos⟩

theorem ShownAs.proper_and_reading {d : Date} {c : Clock} {ahead : Int}
    (h : t.ShownAs d c ahead) : t.Proper ∧ t.reading = .universal d c ahead := by
  obtain ⟨⟨shown, made, rfl⟩, nanos⟩ := h
  unfold ofParts? at made
  split at made
  · rename_i valid
    obtain rfl := Option.some.inj made
    simp only [Clock.isValid, Bool.and_eq_true, decide_eq_true_eq] at valid
    obtain ⟨-, ⟨hour, minute⟩, second⟩ := valid
    have whole : Nat.pow 10 9 = nanosPerSecond := rfl
    rw [whole]
    refine ⟨⟨?_, ?_⟩, ?_⟩
    · simp only [nanosPerSecond] at *
      omega
    · simp only [nanosPerSecond] at *
      omega
    · simp only [reading, Reading.universal, nanosPerSecond, Reading.mk.injEq] at *
      omega
  · cases made

end Instant

/-! ### Instants that are read -/

theorem digitValue?_eq (c : Char) :
    digitValue? c = if c.isDigit then some (c.toNat - '0'.toNat) else none := by
  have digit : '0' ≤ c ∧ c ≤ '9' ↔ c.isDigit = true := by
    simp [Char.isDigit, Char.le_def]
  simp only [digitValue?, digit]

/-- The digits that are taken: all that there are in front, but no more than `width`. -/
def digitsOf (width : Nat) (cs : List Char) : List Char :=
  (cs.take width).takeWhile Char.isDigit

theorem takeDigits_eq (width value : Nat) (cs : List Char) :
    takeDigits width value cs =
      (Nat.ofDigitChars 10 (digitsOf width cs) value, cs.drop (digitsOf width cs).length) := by
  induction cs generalizing width value with
  | nil => cases width <;> simp [takeDigits, digitsOf]
  | cons c cs ih =>
    cases width with
    | zero => simp [takeDigits, digitsOf]
    | succ width =>
      cases digit : c.isDigit with
      | false =>
        simp [takeDigits, digitsOf, digitValue?_eq, digit]
      | true =>
        have more : digitsOf (width + 1) (c :: cs) = c :: digitsOf width cs := by
          simp [digitsOf, digit]
        rw [takeDigits, digitValue?_eq, digit, more, Nat.ofDigitChars_cons, List.length_cons,
          List.drop_succ_cons]
        show takeDigits width (value * 10 + _) cs = _
        rw [ih, Nat.mul_comm]

theorem isDigit_of_mem_digitsOf (width : Nat) (cs : List Char) :
    ∀ c ∈ digitsOf width cs, c.isDigit = true := by
  intro c hc
  exact List.all_eq_true.mp List.all_takeWhile c hc

theorem length_digitsOf_le (width : Nat) (cs : List Char) :
    (digitsOf width cs).length ≤ width ∧ (digitsOf width cs).length ≤ cs.length := by
  have taken := (List.takeWhile_sublist Char.isDigit (l := cs.take width)).length_le
  rw [List.length_take] at taken
  exact Nat.le_min.mp taken

/-- A number that is read is that of the digits in front. -/
theorem eq_of_number? {least most n : Nat} {cs rest : List Char}
    (h : number? least most cs = some (n, rest)) :
    n = Nat.ofDigitChars 10 (digitsOf most cs) 0 ∧
      cs.length - rest.length = (digitsOf most cs).length := by
  rw [number?, takeDigits_eq] at h
  simp only at h
  split at h
  · obtain ⟨rfl, rfl⟩ := Prod.mk.inj (Option.some.inj h)
    refine ⟨rfl, ?_⟩
    rw [List.length_drop]
    exact Nat.sub_sub_self (length_digitsOf_le most cs).2
  · cases h

/-- The digits of a fraction are less than a second. -/
theorem fraction?_lt {cs rest : List Char} {n : Nat} (h : fraction? cs = some (n, rest)) :
    n < nanosPerSecond := by
  unfold fraction? at h
  split at h
  · rename_i cs
    cases number : number? 1 9 cs with
    | none =>
      rw [number] at h
      cases h
    | some read =>
      obtain ⟨value, left⟩ := read
      obtain ⟨rfl, count⟩ := eq_of_number? number
      rw [number] at h
      obtain ⟨rfl, -⟩ := Prod.mk.inj (Option.some.inj h)
      have few := (length_digitsOf_le 9 cs).1
      have small := Text.ofDigitChars_lt (isDigit_of_mem_digitsOf 9 cs) 0
      rw [count]
      generalize (digitsOf 9 cs).length = k at few small
      calc _ < (0 + 1) * 10 ^ k * 10 ^ (9 - k) :=
            Nat.mul_lt_mul_of_pos_right small (Nat.pow_pos (by decide))
        _ = 10 ^ 9 := by rw [Nat.zero_add, Nat.one_mul, ← Nat.pow_add, Nat.add_sub_cancel' few]
        _ = nanosPerSecond := rfl
  · obtain ⟨rfl, -⟩ := Prod.mk.inj (Option.some.inj h)
    decide

/-- An offset is a number of minutes. -/
theorem exists_minutes_of_offset? {cs rest : List Char} {n : Int}
    (h : offset? cs = some (n, rest)) : ∃ minutes : Int, n = minutes * 60 := by
  have magnitude {cs rest : List Char} {n : Int} (h : offset?.magnitude cs = some (n, rest)) :
      ∃ minutes : Int, n = minutes * 60 := by
    obtain ⟨⟨hours, _⟩, -, h⟩ := Option.bind_eq_some_iff.mp h
    obtain ⟨_, -, h⟩ := Option.bind_eq_some_iff.mp h
    obtain ⟨⟨minutes, _⟩, -, h⟩ := Option.bind_eq_some_iff.mp h
    obtain ⟨-, h⟩ := Option.ite_none_right_eq_some.mp h
    obtain ⟨rfl, -⟩ := Prod.mk.inj (Option.some.inj h)
    exact ⟨_, rfl⟩
  unfold offset? at h
  split at h
  · cases h
  · split at h
    · obtain ⟨rfl, -⟩ := Prod.mk.inj (Option.some.inj h)
      exact ⟨0, rfl⟩
    · split at h
      · exact magnitude h
      · split at h
        · obtain ⟨⟨m, left⟩, hm, same⟩ := Option.map_eq_some_iff.mp h
          obtain ⟨minutes, rfl⟩ := magnitude hm
          obtain ⟨rfl, -⟩ := Prod.mk.inj same
          exact ⟨-minutes, (Int.neg_mul ..).symm⟩
        · cases h

theorem exists_shownAs_of_withOffset? {cs : List Char} {t : Instant}
    (h : withOffset? cs = some t) : ∃ d c ahead, t.ShownAs d c ahead := by
  -- Of what is read on the way, only the fraction and the offset bear on the instant's form.
  obtain ⟨⟨year, _⟩, -, h⟩ := Option.bind_eq_some_iff.mp h
  obtain ⟨_, -, h⟩ := Option.bind_eq_some_iff.mp h
  obtain ⟨⟨month, _⟩, -, h⟩ := Option.bind_eq_some_iff.mp h
  obtain ⟨_, -, h⟩ := Option.bind_eq_some_iff.mp h
  obtain ⟨⟨day, _⟩, -, h⟩ := Option.bind_eq_some_iff.mp h
  obtain ⟨_, -, h⟩ := Option.bind_eq_some_iff.mp h
  obtain ⟨⟨hour, _⟩, -, h⟩ := Option.bind_eq_some_iff.mp h
  obtain ⟨_, -, h⟩ := Option.bind_eq_some_iff.mp h
  obtain ⟨⟨minute, _⟩, -, h⟩ := Option.bind_eq_some_iff.mp h
  obtain ⟨_, -, h⟩ := Option.bind_eq_some_iff.mp h
  obtain ⟨⟨second, _⟩, -, h⟩ := Option.bind_eq_some_iff.mp h
  obtain ⟨⟨nanos, _⟩, fraction, h⟩ := Option.bind_eq_some_iff.mp h
  obtain ⟨⟨offset, _⟩, behind, h⟩ := Option.bind_eq_some_iff.mp h
  obtain ⟨-, h⟩ := Option.ite_none_right_eq_some.mp h
  obtain ⟨shown, made, same⟩ := Option.bind_eq_some_iff.mp h
  obtain ⟨minutes, rfl⟩ := exists_minutes_of_offset? behind
  exact ⟨_, _, minutes, ⟨shown, made, (Option.some.inj same).symm⟩, fraction?_lt fraction⟩

theorem exists_shownAs_of_withoutOffset? {cs : List Char} {t : Instant}
    (h : withoutOffset? cs = some t) : ∃ d c, t.ShownAs d c 0 := by
  obtain ⟨⟨year, _⟩, -, h⟩ := Option.bind_eq_some_iff.mp h
  obtain ⟨_, -, h⟩ := Option.bind_eq_some_iff.mp h
  obtain ⟨⟨month, _⟩, -, h⟩ := Option.bind_eq_some_iff.mp h
  obtain ⟨_, -, h⟩ := Option.bind_eq_some_iff.mp h
  obtain ⟨⟨day, _⟩, -, h⟩ := Option.bind_eq_some_iff.mp h
  obtain ⟨_, -, h⟩ := Option.bind_eq_some_iff.mp h
  obtain ⟨⟨hour, _⟩, -, h⟩ := Option.bind_eq_some_iff.mp h
  obtain ⟨_, -, h⟩ := Option.bind_eq_some_iff.mp h
  obtain ⟨⟨minute, _⟩, -, h⟩ := Option.bind_eq_some_iff.mp h
  obtain ⟨_, -, h⟩ := Option.bind_eq_some_iff.mp h
  obtain ⟨⟨second, _⟩, -, h⟩ := Option.bind_eq_some_iff.mp h
  obtain ⟨⟨nanos, _⟩, fraction, h⟩ := Option.bind_eq_some_iff.mp h
  obtain ⟨-, h⟩ := Option.ite_none_right_eq_some.mp h
  exact ⟨_, _, Instant.shownAs_of_ofParts? h (fraction?_lt fraction)⟩

/-- Whatever is read from text is an instant that some clock can show. -/
theorem Instant.exists_shownAs_of_parse? {s : String} {t : Instant} (h : parse? s = some t) :
    ∃ d c ahead, t.ShownAs d c ahead := by
  rcases Option.or_eq_some_iff.mp h with offset | ⟨-, none⟩
  · exact exists_shownAs_of_withOffset? offset
  · obtain ⟨d, c, shown⟩ := exists_shownAs_of_withoutOffset? none
    exact ⟨d, c, 0, shown⟩

end PipelineWatch.Time
