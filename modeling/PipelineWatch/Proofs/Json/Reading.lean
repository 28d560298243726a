import PipelineWatch.Proofs.Json.Normal
import PipelineWatch.Proofs.Json.Number
import PipelineWatch.Proofs.Json.Text

/-!
Reading a document: `readTree` accepts exactly the texts of the grammar, and gives the
document that a text spells.
-/
namespace PipelineWatch.Json

/-! ### Blanks -/

theorem Blanks.nil : Blanks [] := by simp [Blanks]

theorem Blanks.append {as bs : Bytes} (ha : Blanks as) (hb : Blanks bs) : Blanks (as ++ bs) := by
  intro b h
  rcases List.mem_append.mp h with h | h
  · exact ha b h
  · exact hb b h

theorem skipBlanks_append {as : Bytes} (h : Blanks as) (rest : Bytes) :
    skipBlanks (as ++ rest) = skipBlanks rest :=
  List.dropWhile_append_of_pos h

theorem skipBlanks_cons {b : UInt8} (h : Byte.isBlank b = false) (rest : Bytes) :
    skipBlanks (b :: rest) = b :: rest := by
  simp [skipBlanks, h]

theorem exists_blanks (input : Bytes) :
    ∃ as, Blanks as ∧ input = as ++ skipBlanks input :=
  ⟨input.takeWhile Byte.isBlank, List.all_eq_true.mp List.all_takeWhile,
    List.takeWhile_append_dropWhile.symm⟩

theorem skipBlanks_eq_cons {input rest : Bytes} {b : UInt8} (h : skipBlanks input = b :: rest) :
    ∃ as, Blanks as ∧ input = as ++ b :: rest := by
  obtain ⟨as, ha, hin⟩ := exists_blanks input
  exact ⟨as, ha, h ▸ hin⟩

theorem endsNumber_blanks {z rest : Bytes} (hz : Blanks z) (h : EndsNumber rest) :
    EndsNumber (z ++ rest) := by
  cases z with
  | nil => exact h
  | cons b z =>
    rintro _ ⟨rfl⟩
    have hb := hz b (List.mem_cons_self ..)
    simp only [Byte.isBlank, Bool.or_eq_true, beq_iff_eq] at hb
    rcases hb with ((rfl | rfl) | rfl) | rfl <;> decide

/-! ### Values that stand by themselves -/

theorem readWord_eq_ok_iff {word input rest : Bytes} :
    readWord word input = .ok ((), rest) ↔ input = word ++ rest := by
  induction word generalizing input with
  | nil => simp [readWord]
  | cons w word ih =>
    cases input with
    | nil => simp [readWord]
    | cons b input =>
      by_cases hb : b = w
      · simp [readWord, hb, ih]
      · simp [readWord, hb]

theorem readWordAs_eq_ok_iff {value v : Json} {word input rest : Bytes} :
    readWordAs value word input = .ok (v, rest) ↔ v = value ∧ input = word ++ rest := by
  rw [readWordAs, ← readWord_eq_ok_iff]
  rcases hw : readWord word input with stop | ⟨-, tail⟩
  · simp
  · simp [eq_comm]

/-- What a value by itself starts with. No container starts so. -/
theorem SpellsScalar.cons {v : Json} {bs : Bytes} (h : SpellsScalar v bs) :
    ∃ b more, bs = b :: more ∧ Byte.isBlank b = false ∧ b ≠ Byte.openBracket ∧
      b ≠ Byte.openBrace ∧ b ≠ Byte.closeBracket := by
  cases h with
  | null | yes | no => exact ⟨_, _, rfl, by decide⟩
  | text h =>
    obtain ⟨more, hm, -⟩ := readText_spelled h []
    exact ⟨_, more, by simpa using hm, by decide⟩
  | number h =>
    obtain ⟨b, more, rfl, hb⟩ := h.cons
    refine ⟨b, more, rfl, ?_⟩
    by_cases hm : b = Byte.minus
    · subst hm
      decide
    · have hd : (Byte.digit? b).isSome = true := by simpa [startsNumber, hm] using hb
      refine ⟨?_, ?_, ?_, ?_⟩
      · cases hbl : Byte.isBlank b with
        | false => rfl
        | true =>
          simp only [Byte.isBlank, Bool.or_eq_true, beq_iff_eq] at hbl
          rcases hbl with ((rfl | rfl) | rfl) | rfl <;> simp [Byte.digit?] at hd
      all_goals
        rintro rfl
        exact absurd hd (by decide)

theorem readScalar_spelled {v : Json} {bs rest : Bytes} (h : SpellsScalar v bs)
    (hrest : EndsNumber rest) : readScalar (bs ++ rest) = .ok (v, rest) := by
  cases h with
  | null =>
    show readWordAs .null [0x75, 0x6C, 0x6C] ([0x75, 0x6C, 0x6C] ++ rest) = _
    exact readWordAs_eq_ok_iff.mpr ⟨rfl, rfl⟩
  | yes =>
    show readWordAs (.bool true) [0x72, 0x75, 0x65] ([0x72, 0x75, 0x65] ++ rest) = _
    exact readWordAs_eq_ok_iff.mpr ⟨rfl, rfl⟩
  | no =>
    show readWordAs (.bool false) [0x61, 0x6C, 0x73, 0x65] ([0x61, 0x6C, 0x73, 0x65] ++ rest) = _
    exact readWordAs_eq_ok_iff.mpr ⟨rfl, rfl⟩
  | text h =>
    obtain ⟨more, hm, hr⟩ := readText_spelled h rest
    have hquote : Byte.quote ≠ 0x6E ∧ Byte.quote ≠ 0x74 ∧ Byte.quote ≠ 0x66 := by decide
    rw [hm]
    simp only [readScalar, if_neg hquote.1, if_neg hquote.2.1, if_neg hquote.2.2, ↓reduceIte, hr]
  | number h hv =>
    have hr := readNumber_spelled h hv hrest
    obtain ⟨b, more, rfl, hb⟩ := h.cons
    have hne : ∀ c : UInt8, startsNumber c = false → b ≠ c := by
      rintro c hc rfl
      rw [hb] at hc
      cases hc
    have hb' : (b = Byte.minus || (Byte.digit? b).isSome) = true := by
      simpa [startsNumber] using hb
    simp only [List.cons_append, readScalar]
    rw [if_neg (hne _ (by decide)), if_neg (hne _ (by decide)), if_neg (hne _ (by decide)),
      if_neg (hne _ (by decide)), if_pos hb']
    exact hr

theorem exists_spelled_of_readScalar {input rest : Bytes} {v : Json}
    (h : readScalar input = .ok (v, rest)) : ∃ bs, SpellsScalar v bs ∧ input = bs ++ rest := by
  cases input with
  | nil => cases h
  | cons b input =>
    simp only [readScalar] at h
    split at h
    · next hb =>
      obtain ⟨rfl, rfl⟩ := readWordAs_eq_ok_iff.mp h
      exact ⟨_, .null, by rw [hb]; rfl⟩
    split at h
    · next hb =>
      obtain ⟨rfl, rfl⟩ := readWordAs_eq_ok_iff.mp h
      exact ⟨_, .yes, by rw [hb]; rfl⟩
    split at h
    · next hb =>
      obtain ⟨rfl, rfl⟩ := readWordAs_eq_ok_iff.mp h
      exact ⟨_, .no, by rw [hb]; rfl⟩
    split at h
    · next hb =>
      split at h
      · next s tail hs =>
        cases h
        obtain ⟨bs, ht, hbs⟩ := exists_spelled_of_readText hs
        exact ⟨bs, .text ht, by rw [hb, hbs]⟩
      · cases h
    split at h
    · obtain ⟨n, bs, hbs, hn, hv⟩ := exists_spelled_of_readNumber h
      exact ⟨bs, .number hn hv, hbs⟩
    · cases h

/-! ### The parts of a container -/

theorem endsNumber_cons {b : UInt8} (rest : Bytes)
    (h : (Byte.digit? b).isSome = false ∧ b ≠ Byte.point ∧ Byte.isExponentMark b = false) :
    EndsNumber (b :: rest) := by
  rintro _ ⟨rfl⟩
  exact h

section

variable {α : Type}

theorem SpellsMore.endsNumber {part : α → Bytes → Prop} {xs : List α} {bs rest : Bytes}
    (h : SpellsMore part xs bs) (hrest : EndsNumber rest) : EndsNumber (bs ++ rest) := by
  cases h with
  | nil hz => exact endsNumber_blanks hz hrest
  | cons hz =>
    rw [List.append_assoc]
    exact endsNumber_blanks hz (endsNumber_cons _ (by decide))

theorem SpellsMore.length_le {part : α → Bytes → Prop} {xs : List α} {bs : Bytes}
    (h : SpellsMore part xs bs) : xs.length ≤ bs.length := by
  induction h with
  | nil => exact Nat.zero_le _
  | cons _ _ _ _ ih =>
    simp only [List.length_cons, List.length_append]
    omega

/-- Reads parts up to the closing bracket. The readers of lists and of objects are this
one with a `next` of their own, but for the fault when `fuel` runs out. -/
def readParts (next : Bool → Bytes → Taken (Option α)) :
    Bytes → Bool → List α → Bytes → Taken (List α)
  | [], _, _, rest => .error (.behind .endInValue rest)
  | _ :: fuel, first, done, input =>
    match next first input with
    | .error stop => .error stop
    | .ok (none, rest) => .ok (done.reverse, rest.drop 1)
    | .ok (some x, rest) => readParts next fuel false (x :: done) rest

/-- `next` takes a part that is spelled where one may stand, or stops in front of the
bracket. -/
structure TakesParts (part : α → Bytes → Prop) (close : UInt8)
    (next : Bool → Bytes → Taken (Option α)) : Prop where
  ends : (Byte.digit? close).isSome = false ∧ close ≠ Byte.point ∧
    Byte.isExponentMark close = false
  closes : ∀ {first z} rest, Blanks z → next first (z ++ close :: rest) = .ok (none, close :: rest)
  first : ∀ {a x bs rest}, Blanks a → part x bs → EndsNumber rest →
    next true (a ++ (bs ++ rest)) = .ok (some x, rest)
  later : ∀ {z a x bs rest}, Blanks z → Blanks a → part x bs → EndsNumber rest →
    next false (z ++ Byte.comma :: (a ++ (bs ++ rest))) = .ok (some x, rest)
  stops : ∀ {first input rest}, next first input = .ok (none, rest) →
    ∃ z tail, Blanks z ∧ rest = close :: tail ∧ input = z ++ rest
  takes : ∀ {first input x rest}, next first input = .ok (some x, rest) →
    ∃ a bs, Blanks a ∧ part x bs ∧
      if first then input = a ++ (bs ++ rest)
      else ∃ z, Blanks z ∧ input = z ++ Byte.comma :: (a ++ (bs ++ rest))

variable {part : α → Bytes → Prop} {close : UInt8} {next : Bool → Bytes → Taken (Option α)}

theorem TakesParts.readParts_more (h : TakesParts part close next) {xs : List α} {bs : Bytes}
    (hx : SpellsMore part xs bs) {fuel : Bytes} (hfuel : xs.length < fuel.length)
    (done : List α) (rest : Bytes) :
    readParts next fuel false done (bs ++ close :: rest) = .ok (done.reverse ++ xs, rest) := by
  induction hx generalizing fuel done with
  | nil hz =>
    cases fuel with
    | nil => simp at hfuel
    | cons f fuel => simp [readParts, h.closes rest hz]
  | @cons z a bs more x xs hz ha hp hm ih =>
    cases fuel with
    | nil => simp at hfuel
    | cons f fuel =>
      have hn := h.later hz ha hp (hm.endsNumber (endsNumber_cons rest h.ends))
      simp only [List.append_assoc, List.cons_append, readParts, hn]
      rw [ih (by simpa using hfuel)]
      simp

theorem TakesParts.readParts_spelled (h : TakesParts part close next) {xs : List α} {bs : Bytes}
    (hx : SpellsParts part xs bs) {fuel : Bytes} (hfuel : bs.length + 1 < fuel.length)
    (rest : Bytes) : readParts next fuel true [] (bs ++ close :: rest) = .ok (xs, rest) := by
  cases fuel with
  | nil => simp at hfuel
  | cons f fuel =>
    cases hx with
    | nil ha => simp [readParts, h.closes rest ha]
    | @cons a bs more x xs ha hp hm =>
      have hn := h.first ha hp (hm.endsNumber (endsNumber_cons rest h.ends))
      have hle := hm.length_le
      have hlt : xs.length < fuel.length := by
        simp only [List.length_append, List.length_cons] at hfuel
        omega
      simp only [List.append_assoc, readParts, hn]
      rw [h.readParts_more hm hlt]
      rfl

theorem TakesParts.exists_more (h : TakesParts part close next) {fuel : Bytes} {done xs : List α}
    {input rest : Bytes} (hr : readParts next fuel false done input = .ok (xs, rest)) :
    ∃ ys bs, SpellsMore part ys bs ∧ xs = done.reverse ++ ys ∧ input = bs ++ close :: rest := by
  induction fuel generalizing done input with
  | nil => cases hr
  | cons f fuel ih =>
    rw [readParts] at hr
    split at hr
    · cases hr
    · next tail hn =>
      cases hr
      obtain ⟨z, tail, hz, rfl, rfl⟩ := h.stops hn
      exact ⟨[], z, .nil hz, by simp, rfl⟩
    · next x tail hn =>
      obtain ⟨ys, more, hm, rfl, rfl⟩ := ih hr
      obtain ⟨a, bs, ha, hp, z, hz, rfl⟩ := h.takes hn
      exact ⟨x :: ys, _, .cons hz ha hp hm, by simp, by simp⟩

theorem TakesParts.exists_spelled (h : TakesParts part close next) {fuel : Bytes} {xs : List α}
    {input rest : Bytes} (hr : readParts next fuel true [] input = .ok (xs, rest)) :
    ∃ bs, SpellsParts part xs bs ∧ input = bs ++ close :: rest := by
  cases fuel with
  | nil => cases hr
  | cons f fuel =>
    rw [readParts] at hr
    split at hr
    · cases hr
    · next tail hn =>
      cases hr
      obtain ⟨z, tail, hz, rfl, rfl⟩ := h.stops hn
      exact ⟨z, .nil hz, rfl⟩
    · next x tail hn =>
      obtain ⟨ys, more, hm, rfl, rfl⟩ := h.exists_more hr
      obtain ⟨a, bs, ha, hp, rfl⟩ := h.takes hn
      exact ⟨_, .cons ha hp hm, by simp⟩

end

/-! ### Lists -/

/-- A reader of values that reads exactly the texts that `spells` tells. -/
structure Reads (spells : Json → Bytes → Prop) (item : Bytes → Taken Json) : Prop where
  cons : ∀ {v bs}, spells v bs → ∃ b more, bs = b :: more ∧ Byte.isBlank b = false ∧
    b ≠ Byte.closeBracket
  spelled : ∀ {v bs a rest}, spells v bs → Blanks a → EndsNumber rest →
    item (a ++ (bs ++ rest)) = .ok (v, rest)
  exists_spelled : ∀ {v input rest}, item input = .ok (v, rest) →
    ∃ a bs, Blanks a ∧ spells v bs ∧ input = a ++ (bs ++ rest)

variable {spells : Json → Bytes → Prop} {item : Bytes → Taken Json}

/-- Takes the next item of a list. -/
def takeItem (item : Bytes → Taken Json) (first : Bool) (input : Bytes) : Taken (Option Json) :=
  match nextItem first input with
  | .error stop => .error stop
  | .ok (false, rest) => .ok (none, rest)
  | .ok (true, rest) => (item rest).map fun (v, rest) => (some v, rest)

theorem readItems_eq_ok_iff {fuel input : Bytes} {first : Bool} {done : List Json}
    {r : List Json × Bytes} :
    readItems item fuel first done input = .ok r ↔
      readParts (takeItem item) fuel first done input = .ok r := by
  induction fuel generalizing first done input with
  | nil => simp [readItems, readParts]
  | cons f fuel ih =>
    simp only [readItems, readParts, takeItem]
    rcases nextItem first input with stop | ⟨more, rest⟩
    · rfl
    · cases more with
      | false => rfl
      | true =>
        simp only
        rcases item rest with stop | ⟨v, tail⟩
        · rfl
        · exact ih

theorem nextItem_of_item {b : UInt8} {a bs : Bytes} (ha : Blanks a)
    (hb : Byte.isBlank b = false) (hc : b ≠ Byte.closeBracket) :
    nextItem true (a ++ b :: bs) = .ok (true, b :: bs) ∧
      ∀ {z}, Blanks z →
        nextItem false (z ++ Byte.comma :: (a ++ b :: bs)) = .ok (true, b :: bs) := by
  have hs : skipBlanks (a ++ b :: bs) = b :: bs := by
    rw [skipBlanks_append ha, skipBlanks_cons hb]
  have hcomma : Byte.comma ≠ Byte.closeBracket := by decide
  refine ⟨by simp [nextItem, hs, hc], fun {z} hz => ?_⟩
  rw [nextItem, skipBlanks_append hz, skipBlanks_cons (by decide)]
  simp [hcomma, hs, hc]

theorem nextItem_close {first : Bool} {z : Bytes} (hz : Blanks z) (rest : Bytes) :
    nextItem first (z ++ Byte.closeBracket :: rest) =
      .ok (false, Byte.closeBracket :: rest) := by
  rw [nextItem, skipBlanks_append hz, skipBlanks_cons (by decide)]
  simp

/-- Where the next item of a list is looked for, and what is found there. -/
theorem nextItem_eq_ok {first more : Bool} {input rest : Bytes}
    (h : nextItem first input = .ok (more, rest)) :
    if more then
      ∃ a, Blanks a ∧
        if first then input = a ++ rest
        else ∃ z, Blanks z ∧ input = z ++ Byte.comma :: (a ++ rest)
    else ∃ z tail, Blanks z ∧ rest = Byte.closeBracket :: tail ∧ input = z ++ rest := by
  simp only [nextItem] at h
  split at h
  · cases h
  · next b tail hs =>
    obtain ⟨z, hz, hin⟩ := skipBlanks_eq_cons hs
    split at h
    · next hb =>
      cases h
      exact ⟨z, tail, hz, by rw [hb], hin⟩
    split at h
    · next hf =>
      cases h
      exact ⟨z, hz, by rw [if_pos hf]; exact hin⟩
    next hf =>
    split at h
    · next hb =>
      split at h
      · cases h
      · next b' tail' hs' =>
        obtain ⟨a, ha, hin'⟩ := skipBlanks_eq_cons hs'
        split at h
        · cases h
        · cases h
          exact ⟨a, ha, by rw [if_neg hf]; exact ⟨z, hz, by rw [hin, hb, hin']⟩⟩
    · cases h

theorem Reads.takesItems (h : Reads spells item) :
    TakesParts spells Byte.closeBracket (takeItem item) where
  ends := by decide
  closes rest hz := by simp [takeItem, nextItem_close hz]
  first {a v bs rest} ha hv hrest := by
    obtain ⟨b, tail, rfl, hb, hc⟩ := h.cons hv
    have hi := h.spelled hv .nil hrest
    rw [List.nil_append, List.cons_append] at hi
    rw [List.cons_append, takeItem, (nextItem_of_item ha hb hc).1]
    simp only [hi]
    rfl
  later {z a v bs rest} hz ha hv hrest := by
    obtain ⟨b, tail, rfl, hb, hc⟩ := h.cons hv
    have hi := h.spelled hv .nil hrest
    rw [List.nil_append, List.cons_append] at hi
    rw [List.cons_append, takeItem, (nextItem_of_item ha hb hc).2 hz]
    simp only [hi]
    rfl
  stops {first input rest} hn := by
    rw [takeItem] at hn
    split at hn
    · cases hn
    · next hi =>
      cases hn
      exact nextItem_eq_ok hi
    · next tail hi =>
      cases hv : item tail <;> simp [hv, Except.map] at hn
  takes {first input v rest} hn := by
    rw [takeItem] at hn
    split at hn
    · cases hn
    · cases hn
    · next tail hi =>
      rcases hv : item tail with stop | ⟨w, tail'⟩
      · simp [hv, Except.map] at hn
      · simp only [hv, Except.map, Except.ok.injEq, Prod.mk.injEq, Option.some.injEq] at hn
        obtain ⟨rfl, rfl⟩ := hn
        obtain ⟨a, ha, hin⟩ := nextItem_eq_ok hi
        obtain ⟨a', bs, ha', hs, rfl⟩ := h.exists_spelled hv
        refine ⟨a ++ a', bs, ha.append ha', hs, ?_⟩
        cases first with
        | true => simpa using hin
        | false => simpa using hin

/-! ### Objects -/

/-- Takes the next member of an object. -/
def takeMember (item : Bytes → Taken Json) (first : Bool) (input : Bytes) :
    Taken (Option (String × Json)) :=
  match nextKey first input with
  | .error stop => .error stop
  | .ok (none, rest) => .ok (none, rest)
  | .ok (some key, rest) =>
    match readColon rest with
    | .error stop => .error stop
    | .ok (_, rest) => (item rest).map fun (v, rest) => (some (key, v), rest)

theorem readMembers_eq_ok_iff {fuel input : Bytes} {first : Bool} {done : Members}
    {r : Members × Bytes} :
    readMembers item fuel first done input = .ok r ↔
      readParts (takeMember item) fuel first done input = .ok r := by
  induction fuel generalizing first done input with
  | nil => simp [readMembers, readParts]
  | cons f fuel ih =>
    simp only [readMembers, readParts, takeMember]
    rcases nextKey first input with stop | ⟨key, rest⟩
    · rfl
    · cases key with
      | none => rfl
      | some key =>
        simp only
        rcases readColon rest with stop | ⟨-, rest⟩
        · rfl
        · simp only
          rcases item rest with stop | ⟨v, tail⟩
          · rfl
          · exact ih

theorem readKey_spelled {key : String} {ks : Bytes} (h : SpellsText key ks) (rest : Bytes) :
    readKey (ks ++ rest) = .ok (some key, rest) := by
  obtain ⟨more, hm, hr⟩ := readText_spelled h rest
  rw [hm]
  simp only [readKey, ↓reduceIte, hr]

theorem exists_spelled_of_readKey {input rest : Bytes} {key : Option String}
    (h : readKey input = .ok (key, rest)) :
    ∃ k ks, key = some k ∧ SpellsText k ks ∧ input = ks ++ rest := by
  cases input with
  | nil => cases h
  | cons b input =>
    simp only [readKey] at h
    split at h
    · next hb =>
      split at h
      · next k tail hk =>
        cases h
        obtain ⟨ks, ht, hks⟩ := exists_spelled_of_readText hk
        exact ⟨k, ks, rfl, ht, by rw [hb, hks]⟩
      · cases h
    · cases h

theorem nextKey_of_key {key : String} {a ks : Bytes} (ha : Blanks a) (h : SpellsText key ks)
    (rest : Bytes) :
    nextKey true (a ++ (ks ++ rest)) = .ok (some key, rest) ∧
      ∀ {z}, Blanks z →
        nextKey false (z ++ Byte.comma :: (a ++ (ks ++ rest))) = .ok (some key, rest) := by
  have hk := readKey_spelled h rest
  obtain ⟨more, hm, -⟩ := readText_spelled h rest
  rw [hm] at hk ⊢
  have hs : skipBlanks (a ++ Byte.quote :: more) = Byte.quote :: more := by
    rw [skipBlanks_append ha, skipBlanks_cons (by decide)]
  have hq : Byte.quote ≠ Byte.closeBrace := by decide
  have hcomma : Byte.comma ≠ Byte.closeBrace := by decide
  refine ⟨by simp [nextKey, hs, hq, hk], fun {z} hz => ?_⟩
  rw [nextKey, skipBlanks_append hz, skipBlanks_cons (by decide)]
  simp [hcomma, hs, hq, hk]

theorem nextKey_close {first : Bool} {z : Bytes} (hz : Blanks z) (rest : Bytes) :
    nextKey first (z ++ Byte.closeBrace :: rest) = .ok (none, Byte.closeBrace :: rest) := by
  rw [nextKey, skipBlanks_append hz, skipBlanks_cons (by decide)]
  simp

/-- Where the next key of an object is looked for, and what is found there. -/
theorem nextKey_eq_ok {first : Bool} {key : Option String} {input rest : Bytes}
    (h : nextKey first input = .ok (key, rest)) :
    match key with
    | some k =>
      ∃ a ks, Blanks a ∧ SpellsText k ks ∧
        if first then input = a ++ (ks ++ rest)
        else ∃ z, Blanks z ∧ input = z ++ Byte.comma :: (a ++ (ks ++ rest))
    | none => ∃ z tail, Blanks z ∧ rest = Byte.closeBrace :: tail ∧ input = z ++ rest := by
  simp only [nextKey] at h
  split at h
  · cases h
  · next b tail hs =>
    obtain ⟨z, hz, hin⟩ := skipBlanks_eq_cons hs
    split at h
    · next hb =>
      cases h
      exact ⟨z, tail, hz, by rw [hb], hin⟩
    split at h
    · next hf =>
      obtain ⟨k, ks, rfl, ht, hks⟩ := exists_spelled_of_readKey h
      exact ⟨z, ks, hz, ht, by rw [if_pos hf, hin, hks]⟩
    next hf =>
    split at h
    · next hb =>
      split at h
      · cases h
      · next b' tail' hs' =>
        obtain ⟨a, ha, hin'⟩ := skipBlanks_eq_cons hs'
        split at h
        · cases h
        · obtain ⟨k, ks, rfl, ht, hks⟩ := exists_spelled_of_readKey h
          exact ⟨a, ks, ha, ht, by rw [if_neg hf]; exact ⟨z, hz, by rw [hin, hb, hin', hks]⟩⟩
    · cases h

theorem readColon_spelled {a : Bytes} (ha : Blanks a) (rest : Bytes) :
    readColon (a ++ Byte.colon :: rest) = .ok ((), rest) := by
  rw [readColon, skipBlanks_append ha, skipBlanks_cons (by decide)]
  simp

theorem exists_spelled_of_readColon {input rest : Bytes} {u : Unit}
    (h : readColon input = .ok (u, rest)) :
    ∃ a, Blanks a ∧ input = a ++ Byte.colon :: rest := by
  simp only [readColon] at h
  split at h
  · cases h
  · next b tail hs =>
    obtain ⟨a, ha, hin⟩ := skipBlanks_eq_cons hs
    split at h
    · next hb =>
      cases h
      exact ⟨a, ha, hb ▸ hin⟩
    · cases h

theorem Reads.takesMembers (h : Reads spells item) :
    TakesParts (SpellsMember spells) Byte.closeBrace (takeMember item) where
  ends := by decide
  closes rest hz := by simp [takeMember, nextKey_close hz]
  first {a m bs rest} ha hm hrest := by
    obtain ⟨hk, hb, hc, hv⟩ := hm
    simp only [List.append_assoc, List.cons_append]
    rw [takeMember, (nextKey_of_key ha hk _).1]
    simp only [readColon_spelled hb, h.spelled hv hc hrest]
    rfl
  later {z a m bs rest} hz ha hm hrest := by
    obtain ⟨hk, hb, hc, hv⟩ := hm
    simp only [List.append_assoc, List.cons_append]
    rw [takeMember, (nextKey_of_key ha hk _).2 hz]
    simp only [readColon_spelled hb, h.spelled hv hc hrest]
    rfl
  stops {first input rest} hn := by
    rw [takeMember] at hn
    split at hn
    · cases hn
    · next hi =>
      cases hn
      exact nextKey_eq_ok hi
    · next key tail hi =>
      split at hn
      · cases hn
      · next tail' hc => cases hv : item tail' <;> simp [hv, Except.map] at hn
  takes {first input m rest} hn := by
    rw [takeMember] at hn
    split at hn
    · cases hn
    · cases hn
    · next key tail hi =>
      split at hn
      · cases hn
      · next tail' hc =>
        rcases hv : item tail' with stop | ⟨w, tail''⟩
        · simp [hv, Except.map] at hn
        · simp only [hv, Except.map, Except.ok.injEq, Prod.mk.injEq, Option.some.injEq] at hn
          obtain ⟨rfl, rfl⟩ := hn
          obtain ⟨a, ks, ha, hk, hin⟩ := nextKey_eq_ok hi
          obtain ⟨b, hb, rfl⟩ := exists_spelled_of_readColon hc
          obtain ⟨c, bs, hc', hs, rfl⟩ := h.exists_spelled hv
          refine ⟨a, _, ha, .mk hk hb hc' hs, ?_⟩
          cases first with
          | true => simpa using hin
          | false => simpa using hin

/-! ### Values -/

theorem readWith_scalar {inner : Option (Bytes → Taken Json)} {v : Json} {a bs rest : Bytes}
    (ha : Blanks a) (h : SpellsScalar v bs) (hrest : EndsNumber rest) :
    readWith inner (a ++ (bs ++ rest)) = .ok (v, rest) := by
  have hr := readScalar_spelled h hrest
  obtain ⟨b, more, rfl, hb, hbracket, hbrace, -⟩ := h.cons
  rw [List.cons_append] at hr ⊢
  rw [readWith, skipBlanks_append ha, skipBlanks_cons hb]
  simp only [if_neg hbracket, if_neg hbrace]
  exact hr

theorem Reads.readWith_container (h : Reads spells item) {v : Json} {a bs : Bytes}
    (ha : Blanks a) (hv : SpellsContainer spells v bs) (rest : Bytes) :
    readWith (some item) (a ++ (bs ++ rest)) = .ok (v, rest) := by
  cases hv with
  | @array vs bs hp =>
    have hr : readItems item (Byte.openBracket :: (bs ++ Byte.closeBracket :: rest)) true []
        (bs ++ Byte.closeBracket :: rest) = .ok (vs, rest) :=
      readItems_eq_ok_iff.mpr (h.takesItems.readParts_spelled hp (by simp) rest)
    rw [List.cons_append, List.cons_append, List.append_assoc, readWith, skipBlanks_append ha,
      skipBlanks_cons (by decide)]
    simp [hr]
  | @object ms bs hp =>
    have hr : readMembers item (Byte.openBrace :: (bs ++ Byte.closeBrace :: rest)) true []
        (bs ++ Byte.closeBrace :: rest) = .ok (ms, rest) :=
      readMembers_eq_ok_iff.mpr (h.takesMembers.readParts_spelled hp (by simp) rest)
    have hne : Byte.openBrace ≠ Byte.openBracket := by decide
    rw [List.cons_append, List.cons_append, List.append_assoc, readWith, skipBlanks_append ha,
      skipBlanks_cons (by decide)]
    simp [hr, hne]

theorem exists_spelled_of_readWith {inner : Option (Bytes → Taken Json)}
    (h : ∀ item ∈ inner, Reads spells item) {input rest : Bytes} {v : Json}
    (hr : readWith inner input = .ok (v, rest)) :
    ∃ a bs, Blanks a ∧ input = a ++ (bs ++ rest) ∧
      (SpellsScalar v bs ∨ inner.isSome = true ∧ SpellsContainer spells v bs) := by
  simp only [readWith] at hr
  split at hr
  · cases hr
  · next b tail hs =>
    obtain ⟨a, ha, rfl⟩ := skipBlanks_eq_cons hs
    split at hr
    · next hb =>
      cases inner with
      | none => cases hr
      | some item =>
        simp only at hr
        split at hr
        · next items tail' hi =>
          cases hr
          obtain ⟨bs, hp, rfl⟩ :=
            (h item rfl).takesItems.exists_spelled (readItems_eq_ok_iff.mp hi)
          exact ⟨a, _, ha, by simp [hb], .inr ⟨rfl, .array hp⟩⟩
        · cases hr
    split at hr
    · next hb =>
      cases inner with
      | none => cases hr
      | some item =>
        simp only at hr
        split at hr
        · next members tail' hi =>
          cases hr
          obtain ⟨bs, hp, rfl⟩ :=
            (h item rfl).takesMembers.exists_spelled (readMembers_eq_ok_iff.mp hi)
          exact ⟨a, _, ha, by simp [hb], .inr ⟨rfl, .object hp⟩⟩
        · cases hr
    · obtain ⟨bs, hv, hbs⟩ := exists_spelled_of_readScalar hr
      exact ⟨a, bs, ha, by rw [hbs], .inl hv⟩

theorem SpellsContainer.cons {v : Json} {bs : Bytes} (h : SpellsContainer spells v bs) :
    ∃ b more, bs = b :: more ∧ (b = Byte.openBracket ∨ b = Byte.openBrace) := by
  cases h with
  | array => exact ⟨_, _, rfl, .inl rfl⟩
  | object => exact ⟨_, _, rfl, .inr rfl⟩

theorem Spells.cons {depth : Nat} {v : Json} {bs : Bytes} (h : Spells depth v bs) :
    ∃ b more, bs = b :: more ∧ Byte.isBlank b = false ∧ b ≠ Byte.closeBracket := by
  have scalar {v : Json} (h : SpellsScalar v bs) :
      ∃ b more, bs = b :: more ∧ Byte.isBlank b = false ∧ b ≠ Byte.closeBracket := by
    obtain ⟨b, more, rfl, hb, -, -, hc⟩ := h.cons
    exact ⟨b, more, rfl, hb, hc⟩
  cases depth with
  | zero => exact scalar h
  | succ depth =>
    rcases h with h | h
    · exact scalar h
    · obtain ⟨b, more, rfl, rfl | rfl⟩ := h.cons <;> exact ⟨_, more, rfl, by decide⟩

/-- At every depth the reader reads exactly the texts of the grammar. -/
theorem reads_spells (depth : Nat) : Reads (Spells depth) (readValue depth) := by
  induction depth with
  | zero =>
    refine ⟨Spells.cons, fun hv ha hrest => readWith_scalar ha hv hrest, fun hr => ?_⟩
    -- no container is read here, so any grammar of its parts will do
    have hnone : ∀ item ∈ (none : Option (Bytes → Taken Json)), Reads (fun _ _ => False) item := by
      simp
    obtain ⟨a, bs, ha, rfl, hv | ⟨h, -⟩⟩ := exists_spelled_of_readWith hnone hr
    · exact ⟨a, bs, ha, hv, rfl⟩
    · cases h
  | succ depth ih =>
    refine ⟨Spells.cons, fun {v bs a rest} hv ha hrest => ?_, fun hr => ?_⟩
    · rcases hv with hv | hv
      · exact readWith_scalar ha hv hrest
      · exact ih.readWith_container ha hv rest
    · obtain ⟨a, bs, ha, rfl, hv | ⟨-, hv⟩⟩ :=
        exists_spelled_of_readWith (by rintro _ ⟨rfl⟩; exact ih) hr
      · exact ⟨a, bs, ha, .inl hv, rfl⟩
      · exact ⟨a, bs, ha, .inr hv, rfl⟩

/-! ### Whole texts -/

theorem readEnd_eq_ok_iff {input : Bytes} : readEnd input = .ok () ↔ Blanks input := by
  rw [readEnd]
  split
  · next hs =>
    obtain ⟨as, ha, hin⟩ := exists_blanks input
    rw [hs, List.append_nil] at hin
    simpa [hin] using ha
  · next hs =>
    refine iff_of_false (fun h => by cases h) fun h => hs ?_
    have := skipBlanks_append h []
    rwa [List.append_nil] at this

/-- A text holds a document exactly when it spells it. -/
theorem readTree_eq_ok_iff {input : Bytes} {v : Json} :
    readTree input = .ok v ↔ SpellsDocument v input := by
  constructor
  · intro h
    simp only [readTree] at h
    split at h
    · next w rest hr =>
      obtain ⟨a, bs, ha, hs, rfl⟩ := (reads_spells maxDepth).exists_spelled hr
      split at h
      · next u he =>
        cases h
        exact .mk ha hs (readEnd_eq_ok_iff.mp he)
      · cases h
    · cases h
  · rintro ⟨ha, hs, hz⟩
    have hend := endsNumber_blanks hz (show EndsNumber [] by simp [EndsNumber])
    rw [List.append_nil] at hend
    simp [readTree, (reads_spells maxDepth).spelled hs ha hend, readEnd_eq_ok_iff.mpr hz]

/-! ### What a text can spell -/

theorem growDigits_lt {limit value : Nat} (count : Nat) (ds : Bytes) (h : value < limit) :
    (growDigits limit value count ds).1 < limit := by
  induction ds generalizing value count with
  | nil => exact h
  | cons b ds ih =>
    simp only [growDigits]
    split
    · split
      · next hlt => exact ih _ hlt
      · exact h
    · exact h

theorem scaledBy?_signed {negative : Bool} {significand : Nat} {scale : Int}
    {exponent : Option (Bool × Bytes)} {v : Json}
    (h : scaledBy? negative significand scale exponent = some v) :
    ∃ x, v = signed negative x := by
  have scaled : ∀ {o : Option Decimal.Binary64}, o.map (signed negative) = some v →
      ∃ x, v = signed negative x := by
    intro o ho
    obtain ⟨x, -, rfl⟩ := Option.map_eq_some_iff.mp ho
    exact ⟨x, rfl⟩
  cases exponent with
  | none => exact scaled h
  | some e =>
    obtain ⟨down, ds⟩ := e
    simp only [scaledBy?] at h
    split at h
    · exact scaled h
    · split at h
      · cases h
      · cases h
        exact ⟨_, rfl⟩

theorem Numeral.whole_or_signed {n : Numeral} {v : Json} (h : n.value? = some v) :
    (∃ k, k < Text.wordSize ∧ v = wholeNumber n.negative k) ∨ ∃ x, v = signed n.negative x := by
  have hlt := growDigits_lt 0 n.whole (show 0 < Text.wordSize by decide)
  simp only [Numeral.value?, numberBy?] at h
  split at h
  · split at h
    · exact .inl ⟨_, hlt, (Option.some.inj h).symm⟩
    · exact .inr (scaledBy?_signed h)
  · exact .inr (scaledBy?_signed h)
  · exact .inr (scaledBy?_signed h)

/-- A value by itself is no container, and a whole number among them fits 64 bits. -/
theorem SpellsScalar.depth_bounded {v : Json} {bs : Bytes} (h : SpellsScalar v bs) :
    v.depth = 0 ∧ v.Bounded := by
  have hword : Text.wordSize = 2 ^ 64 := rfl
  have float : ∀ x, (Json.float x).Bounded := fun x n hn => by cases List.mem_singleton.mp hn
  cases h with
  | number _ hv =>
    obtain ⟨k, hk, rfl⟩ | ⟨x, rfl⟩ := Numeral.whole_or_signed hv
    · simp only [wholeNumber]
      split
      · refine ⟨rfl, fun n hn => ?_⟩
        obtain rfl := Json.integer.inj (List.mem_singleton.mp hn)
        omega
      split
      · refine ⟨rfl, fun n hn => ?_⟩
        obtain rfl := Json.integer.inj (List.mem_singleton.mp hn)
        omega
      · exact ⟨rfl, float _⟩
    · exact ⟨rfl, float _⟩
  | _ => exact ⟨rfl, fun n hn => by cases List.mem_singleton.mp hn⟩

theorem SpellsParts.forall {α : Type} {part : α → Bytes → Prop} {P : α → Prop}
    (h : ∀ {x bs}, part x bs → P x) {xs : List α} {bs : Bytes} (hx : SpellsParts part xs bs) :
    ∀ x ∈ xs, P x := by
  have more : ∀ {xs bs}, SpellsMore part xs bs → ∀ x ∈ xs, P x := by
    intro xs bs hm
    induction hm with
    | nil => simp
    | cons _ _ hp _ ih => exact List.forall_mem_cons.mpr ⟨h hp, ih⟩
  cases hx with
  | nil => simp
  | cons _ hp hm => exact List.forall_mem_cons.mpr ⟨h hp, more hm⟩

/-- A text spells nothing that nests deeper than it may. -/
theorem Spells.depth_le {d : Nat} {v : Json} {bs : Bytes} (h : Spells d v bs) : v.depth ≤ d := by
  induction d generalizing v bs with
  | zero => exact Nat.le_of_eq (SpellsScalar.depth_bounded h).1
  | succ d ih =>
    rcases h with h | h
    · exact h.depth_bounded.1 ▸ Nat.zero_le _
    · cases h with
      | array hp => exact depth_array_le_iff.mpr (hp.forall (P := fun v => v.depth ≤ d) ih)
      | object hp =>
        refine depth_object_le_iff.mpr (hp.forall ?_)
        rintro _ _ ⟨-, -, -, hv⟩
        exact ih hv

/-- Every whole number that a text spells fits 64 bits. -/
theorem Spells.bounded {d : Nat} {v : Json} {bs : Bytes} (h : Spells d v bs) : v.Bounded := by
  induction d generalizing v bs with
  | zero => exact (SpellsScalar.depth_bounded h).2
  | succ d ih =>
    rcases h with h | h
    · exact h.depth_bounded.2
    · cases h with
      | array hp =>
        intro n hn
        obtain ⟨v, hv, hl⟩ := mem_leaves_array.mp hn
        exact hp.forall (P := Bounded) ih v hv n hl
      | object hp =>
        intro n hn
        obtain ⟨m, hm, hl⟩ := mem_leaves_object.mp hn
        refine hp.forall (P := fun m => Bounded m.2) ?_ m hm n hl
        rintro _ _ ⟨-, -, -, hv⟩
        exact ih hv

end PipelineWatch.Json
