import PipelineWatch.Proofs.Decimal.Layout
import PipelineWatch.Proofs.Json.Writing

/-!
No two documents share a text. In any style that divides the parts of a container by a
comma, the text of a document tells where it ends and which document it is: the first
character tells the kind of value, a string ends at its closing quote, and a number ends
where something follows that no number is written with.
-/
namespace PipelineWatch.Json

open Decimal (isNumeric)

/-- No text that goes on with a number. -/
def Ends (s : List Char) : Prop :=
  ∀ c ∈ s.head?, isNumeric c = false

/-- Whatever follows, the text of `v` is no other document's. -/
def Unambiguous (style : Style) (v : Json) : Prop :=
  ∀ {w : Json} {s t : List Char}, Finite w → Ends s → Ends t →
    chars style v ++ s = chars style w ++ t → v = w ∧ s = t

variable {style : Style}

/-! ### Strings and numbers -/

theorem quoted_append_inj {k l : String} {s t : List Char}
    (h : style.quoted k ++ s = style.quoted l ++ t) : k = l ∧ s = t := by
  have hbytes := congrArg Text.Utf8.encode h
  rw [Text.Utf8.encode_append, Text.Utf8.encode_append] at hbytes
  obtain ⟨more, hmore, hk⟩ := readText_spelled (style.spellsText k) (Text.Utf8.encode s)
  obtain ⟨more', hmore', hl⟩ := readText_spelled (style.spellsText l) (Text.Utf8.encode t)
  rw [hmore, hmore'] at hbytes
  rw [(List.cons.inj hbytes).2, hl] at hk
  simp only [Except.ok.injEq, Prod.mk.injEq] at hk
  exact ⟨hk.1.symm, Text.Utf8.encode_injective hk.2.symm⟩

theorem numeric_append_inj {as bs s t : List Char} (ha : ∀ c ∈ as, isNumeric c = true)
    (hb : ∀ c ∈ bs, isNumeric c = true) (hs : Ends s) (ht : Ends t) (h : as ++ s = bs ++ t) :
    as = bs ∧ s = t := by
  have takes : ∀ {as s : List Char}, (∀ c ∈ as, isNumeric c = true) → Ends s →
      (as ++ s).takeWhile isNumeric = as := by
    intro as s ha hs
    rw [List.takeWhile_append_of_pos ha]
    cases s with
    | nil => simp
    | cons c s => simp [hs c rfl]
  have heq : as = bs := by
    rw [← takes ha hs, h, takes hb ht]
  rw [heq] at h
  exact ⟨heq, List.append_cancel_left h⟩

/-- A whole number is written with digits and maybe a minus. -/
theorem integer_chars (n : Int) {c : Char} (hc : c ∈ (toString n).toList) :
    c.isDigit = true ∨ c = '-' := by
  cases n with
  | ofNat n =>
    rw [Text.toList_ofNat] at hc
    exact .inl (Text.isDigit_toDigits hc)
  | negSucc n =>
    rw [Text.toList_negSucc] at hc
    rcases List.mem_cons.mp hc with rfl | hc
    · exact .inr rfl
    · exact .inl (Text.isDigit_toDigits hc)

theorem integer_numeric (n : Int) : ∀ c ∈ (toString n).toList, isNumeric c = true := by
  intro c hc
  rcases integer_chars n hc with h | rfl
  · exact Decimal.isNumeric_of_isDigit h
  · decide

theorem integer_ne_nil (n : Int) : (toString n).toList ≠ [] := by
  cases n with
  | ofNat n =>
    rw [Text.toList_ofNat]
    exact Nat.toDigits_ne_nil
  | negSucc n =>
    rw [Text.toList_negSucc]
    exact List.cons_ne_nil _ _

theorem float_numeric {x : Decimal.Binary64} (hx : x.isFinite = true) :
    ∀ c ∈ (style.numbers.write x).toList, isNumeric c = true := by
  rw [Decimal.write_finite hx]
  intro c hc
  rcases List.mem_append.mp hc with hc | hc
  · rw [Decimal.signOf] at hc
    split at hc
    · rw [List.mem_singleton.mp hc]
      decide
    · cases hc
  · exact (Decimal.fractional_body _ x).numeric c hc

/-- A fraction shows a point or an exponent, a whole number neither. -/
theorem integer_ne_float (n : Int) {x : Decimal.Binary64} (hx : x.isFinite = true) :
    (toString n).toList ≠ (style.numbers.write x).toList := by
  intro h
  rw [Decimal.write_finite hx] at h
  have none : ∀ c ∈ (toString n).toList, c ≠ '.' ∧ c ≠ 'e' := by
    intro c hc
    rcases integer_chars n hc with hd | rfl
    · exact ⟨Decimal.ne_of_isDigit hd (by decide), Decimal.ne_of_isDigit hd (by decide)⟩
    · decide
  rcases (Decimal.fractional_body style.numbers x).marked with hm | hm
  · exact (none '.' (h ▸ List.mem_append_right _ hm)).1 rfl
  · exact (none 'e' (h ▸ List.mem_append_right _ hm)).2 rfl

/-! ### First characters -/

/-- The first character of a value, one for all numbers and one for both truth values. -/
def mark : Json → Char
  | .null => 'n'
  | .bool _ => 't'
  | .integer _ | .float _ => '0'
  | .text _ => '"'
  | .array _ => '['
  | .object _ => '\x7b'

/-- What the first character of a text tells. -/
def markOf (c : Char) : Char :=
  if isNumeric c then '0' else if c = 'f' then 't' else c

theorem chars_cons (style : Style) {v : Json} (hv : Finite v) :
    ∃ c cs, chars style v = c :: cs ∧ markOf c = v.mark := by
  have numeric : ∀ {as : List Char}, as ≠ [] → (∀ c ∈ as, isNumeric c = true) →
      ∃ c cs, as = c :: cs ∧ markOf c = '0' := by
    intro as hne ha
    obtain ⟨c, cs, rfl⟩ := List.exists_cons_of_ne_nil hne
    exact ⟨c, cs, rfl, if_pos (ha c (List.mem_cons_self ..))⟩
  cases v with
  | null => exact ⟨_, _, rfl, by decide⟩
  | bool b => cases b <;> exact ⟨_, _, rfl, by decide⟩
  | integer n => exact numeric (integer_ne_nil n) (integer_numeric n)
  | float x =>
    have hx := hv x (List.mem_singleton.mpr rfl)
    obtain ⟨c, ds, hc, -⟩ := (Decimal.fractional_body style.numbers x).head
    have hne : (style.numbers.write x).toList ≠ [] := by
      rw [Decimal.write_finite hx, hc]
      simp
    exact numeric hne (float_numeric hx)
  | text s => exact ⟨_, _, rfl, rfl⟩
  | array vs => exact ⟨_, _, rfl, rfl⟩
  | object ms => exact ⟨_, _, rfl, rfl⟩

theorem mark_eq {v w : Json} (hv : Finite v) (hw : Finite w) {s t : List Char}
    (h : chars style v ++ s = chars style w ++ t) : v.mark = w.mark := by
  obtain ⟨c, cs, hc, hcm⟩ := chars_cons style hv
  obtain ⟨d, ds, hd, hdm⟩ := chars_cons style hw
  rw [hc, hd] at h
  rw [← hcm, ← hdm, (List.cons.inj h).1]

theorem chars_ne_bracket {v : Json} (hv : Finite v) {s t : List Char} :
    chars style v ++ s ≠ ']' :: t := by
  intro h
  obtain ⟨c, cs, hc, hm⟩ := chars_cons style hv
  have hmark : markOf ']' = ']' := by decide
  rw [hc] at h
  rw [(List.cons.inj h).1, hmark] at hm
  cases v <;> simp [mark] at hm

/-! ### Containers -/

/-- What stands between two parts starts with a comma. -/
def Style.Divides (style : Style) : Prop :=
  ∃ more, style.between = ',' :: more

theorem ends_cons {c : Char} (s : List Char) (h : isNumeric c = false) : Ends (c :: s) := by
  rintro _ ⟨rfl⟩
  exact h

/-- Parts end at the closing bracket, if none of them starts with it and each tells where it
ends itself. -/
theorem parts_append_inj {α : Type} {part : α → List Char} {close : Char}
    (hstyle : style.Divides) (hclose : isNumeric close = false ∧ close ≠ ',') {xs ys : List α}
    (hx : ∀ x ∈ xs, ∀ s t, part x ++ s ≠ close :: t)
    (hy : ∀ y ∈ ys, ∀ s t, part y ++ s ≠ close :: t)
    (h : ∀ x ∈ xs, ∀ y ∈ ys, ∀ {s t}, Ends s → Ends t → part x ++ s = part y ++ t →
      x = y ∧ s = t)
    {first : Bool} {s t : List Char}
    (heq : partsChars style part first xs ++ close :: s =
      partsChars style part first ys ++ close :: t) :
    xs = ys ∧ s = t := by
  obtain ⟨more, hbetween⟩ := hstyle
  -- behind a part stands a comma or the bracket, and no number goes on with these
  have ends : ∀ (xs : List α) (s : List Char),
      Ends (partsChars style part false xs ++ close :: s) := by
    intro xs s
    cases xs with
    | nil => exact ends_cons s hclose.1
    | cons x xs =>
      simp only [partsChars, Bool.false_eq_true, if_false, hbetween]
      exact ends_cons _ (by decide)
  have stops : ∀ {x : α} {xs : List α} {first : Bool} {s t : List Char},
      (∀ s t, part x ++ s ≠ close :: t) →
      partsChars style part first (x :: xs) ++ s ≠ close :: t := by
    intro x xs first s t hne he
    cases first with
    | false =>
      simp only [partsChars, Bool.false_eq_true, if_false, hbetween] at he
      exact hclose.2 (List.cons.inj he).1.symm
    | true =>
      simp only [partsChars, if_true, List.nil_append, List.append_assoc] at he
      exact hne _ _ he
  induction xs generalizing ys first with
  | nil =>
    cases ys with
    | nil => exact ⟨rfl, (List.cons.inj heq).2⟩
    | cons y ys => exact absurd heq.symm (stops (hy y (List.mem_cons_self ..)))
  | cons x xs ih =>
    obtain ⟨hx, hxs⟩ := List.forall_mem_cons.mp hx
    cases ys with
    | nil => exact absurd heq (stops hx)
    | cons y ys =>
      obtain ⟨hy, hys⟩ := List.forall_mem_cons.mp hy
      simp only [partsChars, List.append_assoc] at heq
      obtain ⟨rfl, hrest⟩ := h x (List.mem_cons_self ..) y (List.mem_cons_self ..) (ends xs s)
        (ends ys t) (List.append_cancel_left heq)
      obtain ⟨rfl, rfl⟩ := ih hxs hys
        (fun x hx y hy => h x (List.mem_cons_of_mem _ hx) y (List.mem_cons_of_mem _ hy)) hrest
      exact ⟨rfl, rfl⟩

theorem memberChars_ne_bracket (m : String × Json) (s t : List Char) :
    memberChars style m ++ s ≠ '\x7d' :: t := by
  intro h
  simp only [memberChars, Style.quoted, List.cons_append] at h
  exact absurd (List.cons.inj h).1 (by decide)

theorem memberChars_append_inj {m n : String × Json} (hm : Unambiguous style m.2)
    (hn : Finite n.2) {s t : List Char} (hs : Ends s) (ht : Ends t)
    (h : memberChars style m ++ s = memberChars style n ++ t) : m = n ∧ s = t := by
  simp only [memberChars, List.append_assoc] at h
  obtain ⟨hkey, hrest⟩ := quoted_append_inj h
  obtain ⟨hvalue, rfl⟩ := hm hn hs ht (List.append_cancel_left hrest)
  exact ⟨Prod.ext hkey hvalue, rfl⟩

/-- The text of a document, whatever follows it, is no other document's. -/
theorem unambiguous (hstyle : style.Divides) {v : Json} (hv : Finite v) :
    Unambiguous style v := by
  have self : ∀ {x : Decimal.Binary64}, Finite (.float x) → x.isFinite = true :=
    fun hx => hx _ (List.mem_singleton.mpr rfl)
  -- in every case the first characters leave only values `w` of the same kind
  induction v with
  | null =>
    intro w s t hw hs ht h
    have hm := mark_eq hv hw h
    cases w with
    | null => exact ⟨rfl, List.append_cancel_left h⟩
    | _ => simp [mark] at hm
  | bool b =>
    intro w s t hw hs ht h
    have hm := mark_eq hv hw h
    cases w with
    | bool c =>
      obtain rfl : b = c := by cases b <;> cases c <;> simp [chars] at h <;> rfl
      exact ⟨rfl, List.append_cancel_left h⟩
    | _ => simp [mark] at hm
  | integer m =>
    intro w s t hw hs ht h
    have hm := mark_eq hv hw h
    cases w with
    | integer n =>
      obtain ⟨htext, hrest⟩ := numeric_append_inj (integer_numeric m) (integer_numeric n) hs ht h
      exact ⟨congrArg _ (Text.integer_injective htext), hrest⟩
    | float y =>
      obtain ⟨htext, -⟩ :=
        numeric_append_inj (integer_numeric m) (float_numeric (self hw)) hs ht h
      exact absurd htext (integer_ne_float m (self hw))
    | _ => simp [mark] at hm
  | float x =>
    intro w s t hw hs ht h
    have hm := mark_eq hv hw h
    cases w with
    | integer n =>
      obtain ⟨htext, -⟩ :=
        numeric_append_inj (float_numeric (self hv)) (integer_numeric n) hs ht h
      exact absurd htext.symm (integer_ne_float n (self hv))
    | float y =>
      obtain ⟨htext, hrest⟩ :=
        numeric_append_inj (float_numeric (self hv)) (float_numeric (self hw)) hs ht h
      have heq := Decimal.write_injective (self hv) (self hw) (String.toList_inj.mp htext)
      exact ⟨congrArg _ heq, hrest⟩
    | _ => simp [mark] at hm
  | text k =>
    intro w s t hw hs ht h
    have hm := mark_eq hv hw h
    cases w with
    | text l =>
      obtain ⟨rfl, rfl⟩ := quoted_append_inj h
      exact ⟨rfl, rfl⟩
    | _ => simp [mark] at hm
  | array vs ih =>
    intro w s t hw hs ht h
    have hm := mark_eq hv hw h
    cases w with
    | array ws =>
      simp only [chars, itemsChars_eq, List.cons_append, List.append_assoc] at h
      obtain ⟨rfl, rfl⟩ := parts_append_inj hstyle (by decide)
        (fun v hmem s t => chars_ne_bracket (hv.item v hmem))
        (fun w hmem s t => chars_ne_bracket (hw.item w hmem))
        (fun v hmem w hmem' {s t} hs ht h => ih v hmem (hv.item v hmem) (hw.item w hmem') hs ht h)
        (List.cons.inj h).2
      exact ⟨rfl, rfl⟩
    | _ => simp [mark] at hm
  | object ms ih =>
    intro w s t hw hs ht h
    have hm := mark_eq hv hw h
    cases w with
    | object ns =>
      simp only [chars, membersChars_eq, List.cons_append, List.append_assoc] at h
      obtain ⟨rfl, rfl⟩ := parts_append_inj hstyle (by decide)
        (fun m hmem => memberChars_ne_bracket m) (fun n hmem => memberChars_ne_bracket n)
        (fun m hmem n hmem' {s t} hs ht h =>
          memberChars_append_inj (ih m hmem (hv.member m hmem)) (hw.member n hmem') hs ht h)
        (List.cons.inj h).2
      exact ⟨rfl, rfl⟩
    | _ => simp [mark] at hm

/-- Documents that are written alike in such a style are the same. -/
theorem write_injective (hstyle : style.Divides) {v w : Json} (hv : Finite v) (hw : Finite w)
    (h : write style v = write style w) : v = w := by
  rw [write_eq, write_eq] at h
  have hchars := String.ofList_injective h
  rw [← List.append_nil (chars style v), ← List.append_nil (chars style w)] at hchars
  exact (unambiguous hstyle hv hw (by simp [Ends]) (by simp [Ends]) hchars).1

end PipelineWatch.Json
