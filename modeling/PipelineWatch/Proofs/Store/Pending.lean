import Mathlib.Data.List.Induction
import Mathlib.Data.Nat.Find
import PipelineWatch.Proofs.Session.Refinement
import PipelineWatch.Proofs.Store.Dispatch

/-!
Which approvals are pending after any changes. One is pending when it was inserted and
neither removed nor cleared away later; of several insertions with one id the first
counts, both for the record and for the place in the list. The same is told of the
frames and clearings that a session's stores take in.
-/
namespace PipelineWatch.Store.Approvals

/-- Something that is done to the approvals. -/
inductive Change where
  | insert (a : Approval)
  | remove (id : String)
  | clear
deriving DecidableEq, Repr

/-- Whether an approval with this id is not pending behind the change, whatever was
before. -/
def Change.ends (id : String) : Change → Bool
  | .insert _ => false
  | .remove other => other == id
  | .clear => true

/-- The approvals after a change. -/
def change (s : Approvals) : Change → Approvals
  | .insert a => (s.insert a).2
  | .remove id => (s.remove id).2
  | .clear => empty

/-- The approvals after some changes from the start on. -/
def after (changes : List Change) : Approvals :=
  changes.foldl change empty

/-- Change number `i` inserts `a`, which has this id, and no later change ends it. -/
structure Puts (changes : List Change) (id : String) (i : Nat) (a : Approval) : Prop where
  insert : changes[i]? = some (.insert a)
  named : a.id = id
  stays : ∀ j c, i < j → changes[j]? = some c → c.ends id = false

/-- It is the first one that does so. -/
structure Opens (changes : List Change) (i : Nat) (a : Approval) : Prop where
  puts : Puts changes a.id i a
  first : ∀ j b, Puts changes a.id j b → i ≤ j

/-! ### One more change -/

theorem Puts.lt_length {changes : List Change} {id : String} {i : Nat} {a : Approval}
    (h : Puts changes id i a) : i < changes.length :=
  (List.getElem?_eq_some_iff.mp h.insert).1

theorem puts_concat {changes : List Change} {c : Change} {id : String} {i : Nat}
    {a : Approval} :
    Puts (changes ++ [c]) id i a ↔
      (Puts changes id i a ∧ c.ends id = false) ∨
        (i = changes.length ∧ c = .insert a ∧ a.id = id) := by
  constructor
  · intro h
    rcases Nat.lt_trichotomy i changes.length with hlt | rfl | hgt
    · refine .inl ⟨⟨?_, h.named, ?_⟩, ?_⟩
      · rw [← List.getElem?_append_left hlt]
        exact h.insert
      · intro j d hj hd
        obtain ⟨hjl, -⟩ := List.getElem?_eq_some_iff.mp hd
        exact h.stays j d hj (by rwa [List.getElem?_append_left hjl])
      · exact h.stays changes.length c hlt List.getElem?_concat_length
    · have hi := h.insert
      rw [List.getElem?_concat_length] at hi
      exact .inr ⟨rfl, Option.some.inj hi, h.named⟩
    · have hl := h.lt_length
      rw [List.length_append, List.length_singleton] at hl
      omega
  · rintro (⟨h, hc⟩ | ⟨rfl, rfl, hid⟩)
    · refine ⟨?_, h.named, ?_⟩
      · rw [List.getElem?_append_left h.lt_length]
        exact h.insert
      · intro j d hj hd
        rcases Nat.lt_or_ge j changes.length with hjl | hjl
        · rw [List.getElem?_append_left hjl] at hd
          exact h.stays j d hj hd
        · obtain ⟨hlt, -⟩ := List.getElem?_eq_some_iff.mp hd
          rw [List.length_append, List.length_singleton] at hlt
          obtain rfl : j = changes.length := by omega
          rw [List.getElem?_concat_length] at hd
          exact (Option.some.inj hd) ▸ hc
    · refine ⟨List.getElem?_concat_length, hid, ?_⟩
      intro j d hj hd
      obtain ⟨hlt, -⟩ := List.getElem?_eq_some_iff.mp hd
      rw [List.length_append, List.length_singleton] at hlt
      omega

theorem opens_concat {changes : List Change} {c : Change} {i : Nat} {a : Approval} :
    Opens (changes ++ [c]) i a ↔
      (Opens changes i a ∧ c.ends a.id = false) ∨
        (i = changes.length ∧ c = .insert a ∧ ∀ j b, ¬ Puts changes a.id j b) := by
  constructor
  · intro h
    rcases puts_concat.mp h.puts with ⟨hp, hc⟩ | ⟨rfl, rfl, -⟩
    · exact .inl ⟨⟨hp, fun j b hb => h.first j b (puts_concat.mpr (.inl ⟨hb, hc⟩))⟩, hc⟩
    · refine .inr ⟨rfl, rfl, fun j b hb => ?_⟩
      -- an earlier one would be the first
      have hle := h.first j b (puts_concat.mpr (.inl ⟨hb, rfl⟩))
      have hlt := hb.lt_length
      omega
  · rintro (⟨h, hc⟩ | ⟨rfl, rfl, hn⟩)
    · refine ⟨puts_concat.mpr (.inl ⟨h.puts, hc⟩), fun j b hb => ?_⟩
      rcases puts_concat.mp hb with ⟨hp, -⟩ | ⟨rfl, -, -⟩
      · exact h.first j b hp
      · exact Nat.le_of_lt h.puts.lt_length
    · refine ⟨puts_concat.mpr (.inr ⟨rfl, rfl, rfl⟩), fun j b hb => ?_⟩
      rcases puts_concat.mp hb with ⟨hp, -⟩ | ⟨rfl, -, -⟩
      · exact absurd hp (hn j b)
      · exact Nat.le_refl _

/-- Of several insertions that stay, one is the first. -/
theorem Puts.exists_opens {changes : List Change} {id : String} {i : Nat} {a : Approval}
    (h : Puts changes id i a) : ∃ j b, Opens changes j b ∧ b.id = id := by
  classical
  have hex : ∃ j b, Puts changes id j b := ⟨i, a, h⟩
  obtain ⟨b, hb⟩ := Nat.find_spec hex
  refine ⟨Nat.find hex, b, ⟨by rw [hb.named]; exact hb, ?_⟩, hb.named⟩
  intro j d hd
  rw [hb.named] at hd
  exact Nat.find_min' hex ⟨d, hd⟩

theorem Opens.unique {changes : List Change} {i j : Nat} {a b : Approval}
    (ha : Opens changes i a) (hb : Opens changes j b) (hid : a.id = b.id) :
    i = j ∧ a = b := by
  obtain rfl : i = j :=
    Nat.le_antisymm (ha.first j b (hid ▸ hb.puts)) (hb.first i a (hid ▸ ha.puts))
  have h := ha.puts.insert.symm.trans hb.puts.insert
  exact ⟨rfl, Change.insert.inj (Option.some.inj h)⟩

/-! ### The list -/

/-- The entries of the list are the first insertions, by falling number. -/
structure Listed (changes : List Change) (s : Approvals) (entries : List (Nat × Approval)) :
    Prop where
  list : s.list = entries.map Prod.snd
  order : entries.Pairwise fun x y => y.1 < x.1
  opens : ∀ i a, (i, a) ∈ entries ↔ Opens changes i a

variable {changes : List Change} {s : Approvals} {entries : List (Nat × Approval)}

theorem Listed.mem_list (h : Listed changes s entries) (a : Approval) :
    a ∈ s.list ↔ ∃ i, Opens changes i a := by
  rw [h.list]
  simp [h.opens]

theorem Listed.contains (h : Listed changes s entries) (id : String) :
    s.contains id = true ↔ ∃ i a, Puts changes id i a := by
  have hc : s.contains id = true ↔ ∃ a ∈ s.list, a.id = id := by
    simp [Approvals.contains]
  rw [hc]
  constructor
  · rintro ⟨a, ha, rfl⟩
    obtain ⟨i, hi⟩ := (h.mem_list a).mp ha
    exact ⟨i, a, hi.puts⟩
  · rintro ⟨i, a, ha⟩
    obtain ⟨j, b, hb, hid⟩ := ha.exists_opens
    exact ⟨b, (h.mem_list b).mpr ⟨j, hb⟩, hid⟩

/-- Different entries have different ids. -/
theorem Listed.distinct (h : Listed changes s entries) :
    entries.Pairwise fun x y => x.2.id ≠ y.2.id := by
  refine h.order.imp_of_mem ?_
  intro x y hx hy hlt hid
  have hn := (((h.opens x.1 x.2).mp hx).unique ((h.opens y.1 y.2).mp hy) hid).1
  omega

theorem Listed.insert (h : Listed changes s entries) (a : Approval) :
    ∃ entries, Listed (changes ++ [.insert a]) (s.insert a).2 entries := by
  cases hc : s.contains a.id with
  | true =>
    rw [insert_of_contains hc]
    obtain ⟨j, b, hb⟩ := (h.contains a.id).mp hc
    refine ⟨entries, h.list, h.order, fun i d => ?_⟩
    rw [h.opens, opens_concat]
    constructor
    · exact fun hd => .inl ⟨hd, rfl⟩
    · rintro (⟨hd, -⟩ | ⟨-, he, hn⟩)
      · exact hd
      · obtain rfl := Change.insert.inj he
        exact absurd hb (hn j b)
  | false =>
    rw [insert_of_not_contains hc]
    have hnone : ∀ j b, ¬ Puts changes a.id j b := by
      intro j b hb
      rw [(h.contains a.id).mpr ⟨j, b, hb⟩] at hc
      exact Bool.noConfusion hc
    refine ⟨(changes.length, a) :: entries, ?_, ?_, fun i d => ?_⟩
    · simp [h.list]
    · refine List.pairwise_cons.mpr ⟨fun x hx => ?_, h.order⟩
      exact ((h.opens x.1 x.2).mp hx).puts.lt_length
    · rw [List.mem_cons, h.opens, opens_concat, Prod.mk.injEq]
      constructor
      · rintro (⟨rfl, rfl⟩ | hd)
        · exact .inr ⟨rfl, rfl, hnone⟩
        · exact .inl ⟨hd, rfl⟩
      · rintro (⟨hd, -⟩ | ⟨rfl, he, -⟩)
        · exact .inr hd
        · exact .inl ⟨rfl, (Change.insert.inj he).symm⟩

/-- With ids that differ, taking out the first one is taking out every one. -/
theorem eraseP_map_snd (id : String) {entries : List (Nat × Approval)}
    (h : entries.Pairwise fun x y => x.2.id ≠ y.2.id) :
    (entries.map Prod.snd).eraseP (fun a => a.id == id) =
      (entries.filter fun x => x.2.id != id).map Prod.snd := by
  induction entries with
  | nil => rfl
  | cons x entries ih =>
    obtain ⟨hx, hrest⟩ := List.pairwise_cons.mp h
    by_cases hid : x.2.id = id
    · have hkeep : entries.filter (fun y => y.2.id != id) = entries := by
        refine List.filter_eq_self.mpr fun y hy => ?_
        simpa [hid] using (hx y hy).symm
      simp [hid, hkeep]
    · simp [hid, ih hrest]

theorem Listed.remove (h : Listed changes s entries) (id : String) :
    ∃ entries, Listed (changes ++ [.remove id]) (s.remove id).2 entries := by
  refine ⟨entries.filter fun x => x.2.id != id, ?_, h.order.filter _, fun i a => ?_⟩
  · show s.list.eraseP _ = _
    rw [h.list, eraseP_map_snd id h.distinct]
  · rw [List.mem_filter, h.opens, opens_concat]
    have hends : (a.id != id) = true ↔ (Change.remove id).ends a.id = false := by
      simp [Change.ends, ne_comm]
    rw [hends]
    simp

theorem Listed.change (h : Listed changes s entries) (c : Change) :
    ∃ entries, Listed (changes ++ [c]) (s.change c) entries := by
  cases c with
  | insert a => exact h.insert a
  | remove id => exact h.remove id
  | clear =>
    refine ⟨[], rfl, .nil, fun i a => ?_⟩
    rw [opens_concat]
    simp [Change.ends]

theorem after_concat (changes : List Change) (c : Change) :
    after (changes ++ [c]) = (after changes).change c :=
  List.foldl_append

theorem after_listed (changes : List Change) :
    ∃ entries, Listed changes (after changes) entries := by
  induction changes using List.reverseRecOn with
  | nil => exact ⟨[], rfl, .nil, fun i a => ⟨fun h => by simp at h, fun h => by
      simpa using h.puts.insert⟩⟩
  | append_singleton changes c ih =>
    obtain ⟨entries, h⟩ := ih
    rw [after_concat]
    exact h.change c

/-- What the approvals are after any changes. -/
structure ClosedForm (changes : List Change) (s : Approvals) : Prop where
  /-- An id is pending when it was inserted and nothing has ended it since. -/
  pending : ∀ id, s.contains id = true ↔ ∃ i a, Puts changes id i a
  /-- The record is that of the first such insertion. -/
  record : ∀ a, a ∈ s.list ↔ ∃ i, Opens changes i a
  /-- No two pending approvals share an id. -/
  distinct : s.ids.Nodup
  /-- What was first inserted later stands in front. -/
  order : s.list.Pairwise fun a b => ∃ i j, Opens changes i a ∧ Opens changes j b ∧ j < i
  /-- An insertion is answered by whether the id was not pending. -/
  inserted : ∀ a, (s.insert a).1 = true ↔ ¬ ∃ i b, Puts changes a.id i b
  /-- A removal is answered by the record that was pending, and by none without one. -/
  removed : ∀ id a, (s.remove id).1 = some a ↔ a.id = id ∧ ∃ i, Opens changes i a

theorem Listed.closedForm (h : Listed changes s entries) : ClosedForm changes s where
  pending := h.contains
  record := h.mem_list
  distinct := by
    rw [ids, h.list, List.map_map]
    exact List.pairwise_map.mpr h.distinct
  order := by
    rw [h.list, List.pairwise_map]
    refine h.order.imp_of_mem fun {x y} hx hy hlt => ?_
    exact ⟨x.1, y.1, (h.opens _ _).mp hx, (h.opens _ _).mp hy, hlt⟩
  inserted := by
    intro a
    rw [← h.contains]
    cases hc : s.contains a.id with
    | true => simp [insert_of_contains hc]
    | false => simp [insert_of_not_contains hc]
  removed := by
    intro id a
    rw [← h.mem_list]
    show s.list.find? _ = some a ↔ _
    constructor
    · intro hf
      exact ⟨by simpa using List.find?_some hf, List.mem_of_find?_eq_some hf⟩
    · rintro ⟨rfl, ha⟩
      -- whatever is found has the same id, and so is the same record
      obtain ⟨b, hb⟩ : ∃ b, s.list.find? (fun b => b.id == a.id) = some b :=
        Option.isSome_iff_exists.mp (by simpa using ⟨a, ha, rfl⟩)
      obtain ⟨i, hi⟩ := (h.mem_list a).mp ha
      obtain ⟨j, hj⟩ := (h.mem_list b).mp (List.mem_of_find?_eq_some hb)
      have hid : b.id = a.id := by simpa using List.find?_some hb
      obtain ⟨-, rfl⟩ := hi.unique hj hid.symm
      exact hb

/-! ### Frames -/

/-- The change that the approvals undergo when a frame or a clearing is taken in. -/
def Change.ofIntake? (limit : Nat) : Session.Intake → Option Change
  | .frame _ bytes =>
    match Frame.decode limit bytes with
    | .ok (.message (.approval a)) => some (.insert a)
    | .ok (.message (.approvalDecided a)) => some (.remove a.id)
    | _ => none
  | .clearApprovals => some .clear
  | .clearEvents => none

theorem approvals_apply_history (s : Stores) (e : History) :
    (s.apply (.history e)).2.approvals = s.approvals := by
  simp only [Stores.apply]
  split <;> rfl

theorem apply_approval (s : Stores) (a : Approval) :
    s.apply (.approval a) =
      (if s.approvals.contains a.id then .approvalDuplicate a.id else .approvalQueued a.id,
        { s with approvals := (s.approvals.insert a).2 }) := by
  cases hc : s.approvals.contains a.id with
  | true => simp [Stores.apply, insert_of_contains hc]
  | false => simp [Stores.apply, insert_of_not_contains hc]

theorem apply_approvalDecided (s : Stores) (a : Approval) :
    s.apply (.approvalDecided a) =
      (if s.approvals.contains a.id then .approvalResolved a.id else .approvalAbsent a.id,
        { s with approvals := (s.approvals.remove a.id).2 }) := by
  have hsome : (s.approvals.remove a.id).1.isSome = s.approvals.contains a.id := by
    rw [Bool.eq_iff_iff]
    simp [remove, contains]
  rw [← hsome]
  simp only [Stores.apply]
  rcases s.approvals.remove a.id with ⟨found, approvals⟩
  cases found <;> rfl

theorem approvals_takeIn (limit : Nat) (s : Stores) (i : Session.Intake) :
    (s.takeIn limit i).approvals =
      ((Change.ofIntake? limit i).map s.approvals.change).getD s.approvals := by
  cases i with
  | clearEvents => rfl
  | clearApprovals => rfl
  | frame link bytes =>
    simp only [Stores.takeIn, Stores.dispatch, Change.ofIntake?]
    cases Frame.decode limit bytes with
    | error e => rfl
    | ok d =>
      cases d with
      | unrecognized type => rfl
      | message m =>
        cases m with
        | event e => rfl
        | history h => exact approvals_apply_history s h
        | approval a => exact congrArg (·.2.approvals) (apply_approval s a)
        | approvalDecided a => exact congrArg (·.2.approvals) (apply_approvalDecided s a)

theorem approvals_foldl_takeIn (limit : Nat) (s : Stores) (intake : List Session.Intake) :
    (intake.foldl (Stores.takeIn limit) s).approvals =
      (intake.filterMap (Change.ofIntake? limit)).foldl change s.approvals := by
  induction intake generalizing s with
  | nil => rfl
  | cons i intake ih =>
    rw [List.foldl_cons, ih, approvals_takeIn]
    cases hc : Change.ofIntake? limit i with
    | none => simp [hc]
    | some c => simp [hc]

/-- What the outcome of a frame tells of the approvals that it met. -/
structure Answers (limit : Nat) (s : Stores) (bytes : List UInt8) : Prop where
  insert : ∀ link a, Change.ofIntake? limit (.frame link bytes) = some (.insert a) →
    (s.dispatch limit bytes).1 =
      if s.approvals.contains a.id then .approvalDuplicate a.id else .approvalQueued a.id
  remove : ∀ link id, Change.ofIntake? limit (.frame link bytes) = some (.remove id) →
    (s.dispatch limit bytes).1 =
      if s.approvals.contains id then .approvalResolved id else .approvalAbsent id

theorem dispatch_answers (limit : Nat) (s : Stores) (bytes : List UInt8) :
    Answers limit s bytes := by
  constructor
  · intro link a h
    simp only [Change.ofIntake?] at h
    simp only [Stores.dispatch]
    split at h
    · next hd =>
      obtain rfl := Change.insert.inj (Option.some.inj h)
      rw [hd]
      exact congrArg Prod.fst (apply_approval s _)
    · cases h
    · cases h
  · intro link id h
    simp only [Change.ofIntake?] at h
    simp only [Stores.dispatch]
    split at h
    · cases h
    · next hd =>
      obtain rfl := Change.remove.inj (Option.some.inj h)
      rw [hd]
      exact congrArg Prod.fst (apply_approvalDecided s _)
    · cases h

/-- **The pending approvals in closed form**, after any changes from the start on, and
after any frames and clearings that empty stores have taken in. -/
theorem approvals_closed_form :
    (∀ changes, ClosedForm changes (after changes)) ∧
      ∀ limit capacity (intake : List Session.Intake),
        let s := intake.foldl (Stores.takeIn limit) (Stores.empty capacity)
        ClosedForm (intake.filterMap (Change.ofIntake? limit)) s.approvals ∧
          ∀ bytes, Answers limit s bytes := by
  have closed : ∀ changes, ClosedForm changes (after changes) := fun changes =>
    (after_listed changes).elim fun _ h => h.closedForm
  refine ⟨closed, fun limit capacity intake => ⟨?_, dispatch_answers limit _⟩⟩
  rw [approvals_foldl_takeIn]
  exact closed _

end PipelineWatch.Store.Approvals
