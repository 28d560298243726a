import PipelineWatch.Proofs.Time.Calendar
import PipelineWatch.Proofs.Time.Spelling

/-!
The two forms of a timestamp agree. A day and a time without an offset are read as universal
time, and an offset behind them moves the instant by so much and by nothing else, over the ends
of days and years and in leap seconds as well. No text is of both forms.
-/
namespace PipelineWatch.Time

open Text (Blanks)

/-! ### Down to the second -/

/-- The instant on the day `d` at `c` and a fraction, where an offset has to follow. -/
def offsetForm (d : Date) (c : Clock) (rest : List Char) : Option Instant := do
  let (nanos, rest) ← fraction? rest
  let (offset, rest) ← offset? rest
  if rest.isEmpty then
    let shown ← Instant.ofParts? d { c with nanos }
    some { shown with seconds := shown.seconds - offset }
  else none

/-- The instant on the day `d` at `c` and a fraction, where nothing may follow. -/
def plainForm (d : Date) (c : Clock) (rest : List Char) : Option Instant := do
  let (nanos, rest) ← fraction? rest
  if rest.isEmpty then Instant.ofParts? d { c with nanos } else none

variable {d : Date} {c : Clock} {separator : Char} {text : List Char}

section

variable {α β : Type} {a : α}

theorem bind_of_eq_some {o : Option α} (h : o = some a) (next : α → Option β) :
    o.bind next = next a := by
  rw [h, Option.bind_some]

theorem bind_ite {p : Prop} [Decidable p] (next : α → Option β) :
    (if p then some a else none).bind next = if p then next a else none := by
  split <;> rfl

end

theorem literal?_self (x : Char) (rest : List Char) : literal? x (x :: rest) = some rest :=
  if_pos rfl

theorem withOffset?_spelled (h : SpellsSeconds separator d c text) (rest : List Char) :
    withOffset? (text ++ rest) =
      if separator = 'T' ∨ separator = 't' ∨ separator = ' ' then offsetForm d c rest
      else none := by
  obtain ⟨hy, hm, hd, hh, hn, hs⟩ := h
  have two : 2 ≤ 2 := Nat.le_refl 2
  simp only [List.append_assoc, List.cons_append]
  refine (bind_of_eq_some (number?_spelled hy (Nat.le_refl 4) _) _).trans ?_
  refine (bind_of_eq_some (literal?_self '-' _) _).trans ?_
  refine (bind_of_eq_some (number?_spelled hm two _) _).trans ?_
  refine (bind_of_eq_some (literal?_self '-' _) _).trans ?_
  refine (bind_of_eq_some (number?_spelled hd two _) _).trans ?_
  refine (bind_ite _).trans (if_congr Iff.rfl ?_ rfl)
  refine (bind_of_eq_some (number?_spelled hh two _) _).trans ?_
  refine (bind_of_eq_some (literal?_self ':' _) _).trans ?_
  refine (bind_of_eq_some (number?_spelled hn two _) _).trans ?_
  refine (bind_of_eq_some (literal?_self ':' _) _).trans ?_
  exact bind_of_eq_some (number?_spelled hs two _) _

theorem isBlank_of_isDigit {c : Char} (h : c.isDigit = true) : Text.isBlank c = false := by
  have range := Text.isDigit_iff.mp h
  simp [Text.isBlank]
  omega

/-- A number starts with a digit, and so with no blank. -/
theorem trimFront_spelled {width n : Nat} {cs : List Char} (h : SpellsNumber (width + 1) n cs)
    (rest : List Char) : Text.trimFront (cs ++ rest) = cs ++ rest := by
  apply Text.trimFront_of_front
  intro c hc
  cases cs with
  | nil => cases h.length
  | cons c' cs =>
    obtain rfl := Option.some.inj hc
    exact isBlank_of_isDigit (h.digit c' List.mem_cons_self)

theorem looseNumber?_spelled {n : Nat} {cs : List Char} (h : SpellsNumber 2 n cs)
    (rest : List Char) : looseNumber? (cs ++ rest) = some (n, rest) := by
  rw [looseNumber?, trimFront_spelled h, number?_spelled h (by decide)]

theorem looseYear?_spelled {n : Nat} {cs : List Char} (h : SpellsNumber 4 n cs)
    (rest : List Char) : looseYear? (cs ++ rest) = some ((n : Int), rest) := by
  have number : number? 1 4 (cs ++ rest) = some (n, rest) := number?_spelled h (by decide) rest
  have front := trimFront_spelled h rest
  cases cs with
  | nil => cases h.length
  | cons c cs =>
    have digit := h.digit c List.mem_cons_self
    have minus : c ≠ '-' := by
      rintro rfl
      cases digit
    have plus : c ≠ '+' := by
      rintro rfl
      cases digit
    rw [List.cons_append] at number front ⊢
    simp only [looseYear?, front, if_neg minus, if_neg plus, number]
    rfl

theorem withoutOffset?_spelled (h : SpellsSeconds separator d c text) (rest : List Char) :
    withoutOffset? (text ++ rest) = if separator = 'T' then plainForm d c rest else none := by
  obtain ⟨hy, hm, hd, hh, hn, hs⟩ := h
  simp only [List.append_assoc, List.cons_append]
  refine (bind_of_eq_some (looseYear?_spelled hy _) _).trans ?_
  refine (bind_of_eq_some (literal?_self '-' _) _).trans ?_
  refine (bind_of_eq_some (looseNumber?_spelled hm _) _).trans ?_
  refine (bind_of_eq_some (literal?_self '-' _) _).trans ?_
  refine (bind_of_eq_some (looseNumber?_spelled hd _) _).trans ?_
  refine (bind_ite _).trans (if_congr Iff.rfl ?_ rfl)
  refine (bind_of_eq_some (looseNumber?_spelled hh _) _).trans ?_
  refine (bind_of_eq_some (literal?_self ':' _) _).trans ?_
  refine (bind_of_eq_some (looseNumber?_spelled hn _) _).trans ?_
  refine (bind_of_eq_some (literal?_self ':' _) _).trans ?_
  exact bind_of_eq_some (looseNumber?_spelled hs _) _

/-! ### No text of both forms -/

section

variable {β : Type} {cs : List Char} {b : β}

theorem exists_of_bind_number? {width : Nat} {next : Nat × List Char → Option β}
    (h : (number? width width cs).bind next = some b) :
    ∃ n ds rest, SpellsNumber width n ds ∧ cs = ds ++ rest ∧ next (n, rest) = some b := by
  obtain ⟨⟨n, rest⟩, number, behind⟩ := Option.bind_eq_some_iff.mp h
  obtain ⟨ds, spelled, same⟩ := exists_spelled_of_number? number
  exact ⟨n, ds, rest, spelled, same, behind⟩

theorem exists_of_bind_literal? {x : Char} {next : List Char → Option β}
    (h : (literal? x cs).bind next = some b) : ∃ rest, cs = x :: rest ∧ next rest = some b := by
  obtain ⟨rest, passed, behind⟩ := Option.bind_eq_some_iff.mp h
  cases cs with
  | nil => cases passed
  | cons y cs =>
    obtain ⟨same, left⟩ := Option.ite_none_right_eq_some.mp passed
    exact ⟨rest, by rw [same, Option.some.inj left], behind⟩

theorem exists_of_bind_separator? {next : List Char → Option β}
    (h : (separator? cs).bind next = some b) : ∃ x rest, cs = x :: rest ∧ next rest = some b := by
  obtain ⟨rest, passed, behind⟩ := Option.bind_eq_some_iff.mp h
  cases cs with
  | nil => cases passed
  | cons y cs =>
    obtain ⟨-, left⟩ := Option.ite_none_right_eq_some.mp passed
    exact ⟨y, rest, by rw [Option.some.inj left], behind⟩

end

/-- What is read with an offset starts with a day and a time in their full widths. -/
theorem exists_seconds_of_withOffset? {cs : List Char} {t : Instant} (h : withOffset? cs = some t) :
    ∃ separator d c text rest, SpellsSeconds separator d c text ∧ cs = text ++ rest := by
  obtain ⟨year, y, _, hy, e1, h⟩ := exists_of_bind_number? h
  obtain ⟨_, e2, h⟩ := exists_of_bind_literal? h
  obtain ⟨month, m, _, hm, e3, h⟩ := exists_of_bind_number? h
  obtain ⟨_, e4, h⟩ := exists_of_bind_literal? h
  obtain ⟨day, d, _, hd, e5, h⟩ := exists_of_bind_number? h
  obtain ⟨separator, _, e6, h⟩ := exists_of_bind_separator? h
  obtain ⟨hour, x, _, hh, e7, h⟩ := exists_of_bind_number? h
  obtain ⟨_, e8, h⟩ := exists_of_bind_literal? h
  obtain ⟨minute, n, _, hn, e9, h⟩ := exists_of_bind_number? h
  obtain ⟨_, e10, h⟩ := exists_of_bind_literal? h
  obtain ⟨second, s, rest, hs, e11, -⟩ := exists_of_bind_number? h
  -- put in all at once, since each equation is about the rest that the one before it left
  subst e1 e2 e3 e4 e5 e6 e7 e8 e9 e10 e11
  exact ⟨separator, _, _, _, rest, .mk hy hm hd hh hn hs, by simp⟩

/-- Behind the fraction there is an offset or there is none. -/
theorem offsetForm_or_plainForm (d : Date) (c : Clock) (rest : List Char) :
    offsetForm d c rest = none ∨ plainForm d c rest = none := by
  simp only [offsetForm, plainForm]
  cases fraction? rest with
  | none => exact .inl rfl
  | some read =>
    obtain ⟨nanos, behind⟩ := read
    cases behind with
    | nil => exact .inl rfl
    | cons c behind => exact .inr rfl

theorem withOffset?_or_withoutOffset? (cs : List Char) :
    withOffset? cs = none ∨ withoutOffset? cs = none := by
  cases with? : withOffset? cs with
  | none => exact .inl rfl
  | some t =>
    obtain ⟨separator, d, c, text, rest, spelled, rfl⟩ := exists_seconds_of_withOffset? with?
    right
    rw [withOffset?_spelled spelled] at with?
    rw [withoutOffset?_spelled spelled]
    split
    · next capital =>
      rw [if_pos (.inl capital)] at with?
      refine (offsetForm_or_plainForm d c rest).resolve_left ?_
      rw [with?]
      nofun
    · rfl

/-! ### The two forms agree -/

theorem SpellsNumber.solid {width n : Nat} {cs : List Char} (h : SpellsNumber width n cs) :
    ∀ x ∈ cs, Text.isBlank x = false :=
  fun x hx => isBlank_of_isDigit (h.digit x hx)

theorem SpellsFraction.solid {nanos : Nat} {cs : List Char} (h : SpellsFraction nanos cs) :
    ∀ x ∈ cs, Text.isBlank x = false := by
  cases h with
  | whole => nofun
  | parts digit =>
    rw [List.forall_mem_cons]
    exact ⟨by decide, fun x hx => isBlank_of_isDigit (digit x hx)⟩

/-- There is no blank in a day and a time. -/
theorem SpellsMoment.solid {cs : List Char} (h : SpellsMoment d c cs) :
    ∀ x ∈ cs, Text.isBlank x = false := by
  obtain ⟨⟨hy, hm, hd, hh, hn, hs⟩, fraction⟩ := h
  simp only [List.forall_mem_append, List.forall_mem_cons]
  exact ⟨⟨hy.solid, by decide, hm.solid, by decide, hd.solid, by decide, hh.solid, by decide,
    hn.solid, by decide, hs.solid⟩, fraction.solid⟩

theorem SpellsOffset.solid {minutes : Int} {cs : List Char} (h : SpellsOffset minutes cs) :
    ∀ x ∈ cs, Text.isBlank x = false := by
  cases h with
  | zero => exact List.forall_mem_singleton.mpr (by decide)
  | ahead hh hn hour day =>
    simp only [List.forall_mem_append, List.forall_mem_cons]
    exact ⟨by decide, hh.solid, by decide, hn.solid⟩
  | behind hh hn hour day =>
    simp only [List.forall_mem_append, List.forall_mem_cons]
    exact ⟨by decide, hh.solid, by decide, hn.solid⟩

theorem SpellsOffset.endsSeconds {minutes : Int} {cs : List Char} (h : SpellsOffset minutes cs) :
    EndsSeconds cs := by
  cases h with
  | zero => rintro c ⟨⟩; decide
  | ahead hh hn hour day => rintro c ⟨⟩; decide
  | behind hh hn hour day => rintro c ⟨⟩; decide

theorem SpellsFraction.lt {nanos : Nat} {cs : List Char} (h : SpellsFraction nanos cs) :
    nanos < nanosPerSecond :=
  fraction?_lt (fraction?_spelled_end h)

theorem SpellsMoment.nanos_lt {cs : List Char} (h : SpellsMoment d c cs) :
    c.nanos < nanosPerSecond := by
  obtain ⟨-, fraction⟩ := h
  exact fraction.lt

/-- Without an offset the reader that asks for one fails, and the other one reads universal
time. -/
theorem read_spelled {cs : List Char} (h : SpellsMoment d c cs) :
    withOffset? cs = none ∧ withoutOffset? cs = Instant.ofParts? d c := by
  obtain ⟨seconds, fraction⟩ := h
  rw [withOffset?_spelled seconds, withoutOffset?_spelled seconds, if_pos (.inl rfl), if_pos rfl,
    offsetForm, plainForm, fraction?_spelled_end fraction]
  exact ⟨rfl, rfl⟩

theorem withOffset?_spelled_offset {minutes : Int} {cs o : List Char} (h : SpellsMoment d c cs)
    (offset : SpellsOffset minutes o) :
    withOffset? (cs ++ o) = (Instant.ofParts? d c).map fun shown =>
      { shown with seconds := shown.seconds - minutes * 60 } := by
  obtain ⟨seconds, fraction⟩ := h
  rw [List.append_assoc, withOffset?_spelled seconds, if_pos (.inl rfl), offsetForm,
    fraction?_spelled fraction offset.endsSeconds]
  simp only [Option.bind_eq_bind, Option.bind_some, offset?_spelled offset]
  rw [if_pos List.isEmpty_nil, Option.map_eq_bind]
  rfl

/-- What a day and a time are read as, whatever blanks stand around them: without an offset as
universal time, and with one as so many minutes earlier, in the same part of a second. -/
structure FormsAgree (d : Date) (c : Clock) (s : String) (t : Instant) : Prop where
  read : Instant.parse? s = some t
  proper : t.Proper
  universal : t.reading = .universal d c 0
  shifted : ∀ (minutes : Int) (o : String), SpellsOffset minutes o.toList →
    Instant.parse? (s ++ o) = some { t with seconds := t.seconds - minutes * 60 }
  blanks : ∀ as zs : String, Blanks as.toList → Blanks zs.toList →
    Instant.parse? (as ++ (s ++ zs)) = some t ∧
    ∀ (minutes : Int) (o : String), SpellsOffset minutes o.toList →
      Instant.parse? (as ++ (s ++ o ++ zs)) =
        some { t with seconds := t.seconds - minutes * 60 }

theorem parse?_blanks {as zs : String} (ha : Blanks as.toList) (hz : Blanks zs.toList)
    (s : String) : Instant.parse? (as ++ (s ++ zs)) = Instant.parse? s := by
  simp only [Instant.parse?, String.toList_append, Text.trimChars_blanks ha hz]

theorem parse?_of_solid {s : String} (h : ∀ x ∈ s.toList, Text.isBlank x = false) :
    Instant.parse? s = (withOffset? s.toList).or (withoutOffset? s.toList) := by
  rw [Instant.parse?, Text.trimChars_eq_self_iff.mpr (Text.bare_of_forall h)]

theorem parse?_spelled {s : String} {t : Instant} (spelled : SpellsMoment d c s.toList)
    (made : Instant.ofParts? d c = some t) : Instant.parse? s = some t := by
  obtain ⟨none, read⟩ := read_spelled spelled
  rw [parse?_of_solid spelled.solid, none, read, Option.none_or, made]

theorem parse?_spelled_offset {s o : String} {t : Instant} {minutes : Int}
    (spelled : SpellsMoment d c s.toList) (made : Instant.ofParts? d c = some t)
    (offset : SpellsOffset minutes o.toList) :
    Instant.parse? (s ++ o) = some { t with seconds := t.seconds - minutes * 60 } := by
  have solid : ∀ x ∈ (s ++ o).toList, Text.isBlank x = false := by
    rw [String.toList_append, List.forall_mem_append]
    exact ⟨spelled.solid, offset.solid⟩
  rw [parse?_of_solid solid, String.toList_append, withOffset?_spelled_offset spelled offset, made,
    Option.map_some, Option.some_or]

theorem formsAgree_of_ofParts? {s : String} {t : Instant} (spelled : SpellsMoment d c s.toList)
    (made : Instant.ofParts? d c = some t) : FormsAgree d c s t := by
  obtain ⟨proper, universal⟩ :=
    (Instant.shownAs_of_ofParts? made spelled.nanos_lt).proper_and_reading
  refine ⟨parse?_spelled spelled made, proper, universal,
    fun _ _ => parse?_spelled_offset spelled made,
    fun as zs ha hz => ⟨?_, fun minutes o offset => ?_⟩⟩
  · rw [parse?_blanks ha hz, parse?_spelled spelled made]
  · rw [parse?_blanks ha hz, parse?_spelled_offset spelled made offset]

theorem exists_ofParts? (day : d.isValid = true) (clock : c.isValid = true) :
    ∃ t, Instant.ofParts? d c = some t :=
  ⟨_, if_pos (by rw [day, clock]; rfl)⟩

/-- The order in which the two readers are asked makes no difference. -/
theorem parse?_eq_or (text : String) :
    Instant.parse? text = (withoutOffset? (Text.trimChars text.toList)).or
      (withOffset? (Text.trimChars text.toList)) := by
  rw [Instant.parse?]
  rcases withOffset?_or_withoutOffset? (Text.trimChars text.toList) with none | none
  · rw [none, Option.none_or, Option.or_none]
  · rw [none, Option.none_or, Option.or_none]

/-- A valid day and time are read, with an offset and without, and the two readings agree. No
text is read by both readers, so it does not matter which is asked first. -/
theorem forms_agree {s : String} (spelled : SpellsMoment d c s.toList) (day : d.isValid = true)
    (clock : c.isValid = true) :
    (∃ t, FormsAgree d c s t) ∧ NumbersDays Date.dayNumber ∧
      (∀ cs, withOffset? cs = none ∨ withoutOffset? cs = none) ∧
      ∀ text, Instant.parse? text =
        (withoutOffset? (Text.trimChars text.toList)).or
          (withOffset? (Text.trimChars text.toList)) := by
  obtain ⟨t, made⟩ := exists_ofParts? day clock
  exact ⟨⟨t, formsAgree_of_ofParts? spelled made⟩, Date.dayNumber_numbersDays,
    withOffset?_or_withoutOffset?, parse?_eq_or⟩

/-- The leap second at the end of 2016, half of it gone. -/
theorem forms_agree_leapSecond :
    SpellsMoment ⟨2016, 12, 31⟩ ⟨23, 59, 60, 500000000⟩ "2016-12-31T23:59:60.5".toList ∧
      ∃ t, FormsAgree ⟨2016, 12, 31⟩ ⟨23, 59, 60, 500000000⟩ "2016-12-31T23:59:60.5" t := by
  have spelled : SpellsMoment ⟨2016, 12, 31⟩ ⟨23, 59, 60, 500000000⟩
      "2016-12-31T23:59:60.5".toList :=
    .mk (.mk (y := "2016".toList) (m := "12".toList) (d := "31".toList) (h := "23".toList)
        (n := "59".toList) (s := "60".toList)
        ⟨List.all_eq_true.mp rfl, rfl, rfl⟩ ⟨List.all_eq_true.mp rfl, rfl, rfl⟩
        ⟨List.all_eq_true.mp rfl, rfl, rfl⟩ ⟨List.all_eq_true.mp rfl, rfl, rfl⟩
        ⟨List.all_eq_true.mp rfl, rfl, rfl⟩ ⟨List.all_eq_true.mp rfl, rfl, rfl⟩)
      (@SpellsFraction.parts ['5'] (List.all_eq_true.mp rfl) (by decide))
  exact ⟨spelled, (forms_agree spelled (by decide) (by decide)).1⟩

-- half a second after the start of a leap second, on either side of a year's end
example : Instant.parse? "\u00a02017-01-01T05:29:60.5+05:30" =
    Instant.parse? "2016-12-31T23:59:60.5\n" := by
  decide

end PipelineWatch.Time
