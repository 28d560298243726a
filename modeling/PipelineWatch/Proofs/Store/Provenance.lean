import Mathlib.Data.List.Induction
import PipelineWatch.Proofs.Store.Window

/-!
Where the events of the list come from. Each entry bears the number of the change that
has put it there. Ids alone do not tell entries apart: a live event is put whatever is
there, and what was pushed out may come again from the backlog. But of the entries with
one id at most one is from the backlog, and every other one is a live event that came
while it was there.
-/
namespace PipelineWatch.Store

/-- An entry of the list: the event, whether it came as a live one, and the number of
the change that has put it. -/
structure Placed where
  event : Event
  live : Bool
  number : Nat
deriving DecidableEq, Repr

/-- What has become of the change that has put the entry. -/
def Placed.done (x : Placed) : Done :=
  if x.live then .live x.event else .accepted x.event

namespace Events

/-- The entries after the change with this number, told from what has become of it. -/
def place (capacity number : Nat) (entries : List Placed) : Done → List Placed
  | .live e => (⟨e, true, number⟩ :: entries).take capacity
  | .accepted e => entries ++ [⟨e, false, number⟩]
  | .refused _ => entries
  | .cleared => []

/-- The entries after some changes from the start on. -/
def placed (capacity : Nat) (changes : List Change) : List Placed :=
  ((empty capacity).notes changes).zipIdx.foldl
    (fun entries d => place capacity d.2 entries d.1) []

variable {c : Nat} {changes : List Change}

theorem length_notes (s : Events) (changes : List Change) :
    (s.notes changes).length = changes.length := by
  induction changes generalizing s with
  | nil => rfl
  | cons o changes ih => rw [notes, List.length_cons, ih, List.length_cons]

theorem notes_concat (s : Events) (changes : List Change) (o : Change) :
    s.notes (changes ++ [o]) = s.notes changes ++ [(s.after changes).note o] :=
  notes_append s changes [o]

theorem after_concat (s : Events) (changes : List Change) (o : Change) :
    s.after (changes ++ [o]) = (s.after changes).change o :=
  after_append s changes [o]

theorem placed_concat (c : Nat) (changes : List Change) (o : Change) :
    placed c (changes ++ [o]) =
      place c changes.length (placed c changes) (((empty c).after changes).note o) := by
  rw [placed, notes_concat, List.zipIdx_append, List.foldl_append, length_notes,
    Nat.zero_add]
  rfl

/-! ### The entries with one id -/

/-- If the entries share their id, `x` is a live event that was put while `y` was there. -/
def Covers (c : Nat) (changes : List Change) (x y : Placed) : Prop :=
  x.event.id = y.event.id →
    x.live = true ∧ y.number < x.number ∧ y ∈ placed c (changes.take x.number)

/-- What is known of the entries after some changes. -/
structure Marked (c : Nat) (changes : List Change) : Prop where
  list : (placed c changes).map (·.event) = ((empty c).after changes).list
  put : ∀ x ∈ placed c changes, ((empty c).notes changes)[x.number]? = some x.done
  distinct : (placed c changes).Pairwise (·.number ≠ ·.number)
  covers : (placed c changes).Pairwise (Covers c changes)

theorem Marked.lt_length (h : Marked c changes) {x : Placed} (hx : x ∈ placed c changes) :
    x.number < changes.length := by
  obtain ⟨hlt, -⟩ := List.getElem?_eq_some_iff.mp (h.put x hx)
  rwa [length_notes] at hlt

theorem Marked.put_concat (h : Marked c changes) (o : Change) {x : Placed}
    (hx : x ∈ placed c changes) :
    ((empty c).notes (changes ++ [o]))[x.number]? = some x.done := by
  have hlt := h.lt_length hx
  rw [notes_concat, List.getElem?_append_left (by rwa [length_notes]), h.put x hx]

/-- What came before an entry does not change by what comes later. -/
theorem Marked.covers_concat (h : Marked c changes) (o : Change) :
    (placed c changes).Pairwise (Covers c (changes ++ [o])) := by
  refine h.covers.imp_of_mem fun {x y} hx _ hxy hid => ?_
  obtain ⟨live, older, there⟩ := hxy hid
  refine ⟨live, older, ?_⟩
  rwa [List.take_append_of_le_length (Nat.le_of_lt (h.lt_length hx))]

/-- The events tell whether an entry with this id is there. -/
theorem Marked.contains_iff (h : Marked c changes) (id : String) :
    ((empty c).after changes).contains id = true ↔ ∃ x ∈ placed c changes, x.event.id = id := by
  simp [contains, ← h.list]

theorem after_capacity (c : Nat) (changes : List Change) :
    ((empty c).after changes).capacity = c := by
  obtain ⟨kept, w⟩ := after_window c changes
  exact w.capacity

theorem Marked.live (h : Marked c changes) (e : Event) : Marked c (changes ++ [.live e]) := by
  have hp : placed c (changes ++ [.live e]) =
      (⟨e, true, changes.length⟩ :: placed c changes).take c := placed_concat ..
  have hnew : ((empty c).notes (changes ++ [.live e]))[changes.length]? = some (.live e) := by
    rw [notes_concat, ← length_notes (empty c) changes, List.getElem?_concat_length]
    rfl
  have hput : ∀ x ∈ ⟨e, true, changes.length⟩ :: placed c changes,
      ((empty c).notes (changes ++ [.live e]))[x.number]? = some x.done := by
    intro x hx
    rcases List.mem_cons.mp hx with rfl | hx
    · exact hnew
    · exact h.put_concat _ hx
  refine ⟨?_, ?_, ?_, ?_⟩
  · rw [hp, after_concat, List.map_take, List.map_cons, h.list]
    show _ = List.take ((empty c).after changes).capacity _
    rw [after_capacity]
  · rw [hp]
    exact fun x hx => hput x (List.mem_of_mem_take hx)
  · rw [hp]
    refine List.Pairwise.sublist (List.take_sublist ..) (List.pairwise_cons.mpr ⟨?_, h.distinct⟩)
    exact fun y hy => (Nat.ne_of_lt (h.lt_length hy)).symm
  · rw [hp]
    refine List.Pairwise.sublist (List.take_sublist ..)
      (List.pairwise_cons.mpr ⟨?_, h.covers_concat _⟩)
    -- whatever was there before the live event is now under it
    intro y hy _
    exact ⟨rfl, h.lt_length hy, by rwa [List.take_left]⟩

theorem Marked.accepted (h : Marked c changes) {e : Event}
    (hc : ((empty c).after changes).contains e.id = false) :
    Marked c (changes ++ [.history e]) := by
  have hnote : ((empty c).after changes).note (.history e) = .accepted e := by
    rw [note_history, hc]
    rfl
  have hp : placed c (changes ++ [.history e]) =
      placed c changes ++ [⟨e, false, changes.length⟩] := by
    rw [placed_concat, hnote]
    rfl
  have hnone : ∀ x ∈ placed c changes, x.event.id ≠ e.id := by
    intro x hx hid
    exact Bool.false_ne_true (hc.symm.trans ((h.contains_iff _).mpr ⟨x, hx, hid⟩))
  refine ⟨?_, ?_, ?_, ?_⟩
  · rw [hp, after_concat, List.map_append, h.list]
    show _ = ((((empty c).after changes).pushHistory e).2).list
    rw [pushHistory_of_not_contains hc]
    rfl
  · intro x hx
    rw [hp, List.mem_append, List.mem_singleton] at hx
    rcases hx with hx | rfl
    · exact h.put_concat _ hx
    · rw [notes_concat, hnote, ← length_notes (empty c) changes, List.getElem?_concat_length]
      rfl
  · rw [hp]
    refine List.pairwise_append.mpr ⟨h.distinct, List.pairwise_singleton .., ?_⟩
    intro x hx y hy
    rw [List.mem_singleton] at hy
    subst hy
    exact Nat.ne_of_lt (h.lt_length hx)
  · rw [hp]
    refine List.pairwise_append.mpr ⟨h.covers_concat _, List.pairwise_singleton .., ?_⟩
    -- an event of the backlog is put only where nothing has its id
    intro x hx y hy hid
    rw [List.mem_singleton] at hy
    subst hy
    exact absurd hid (hnone x hx)

theorem Marked.refused (h : Marked c changes) {e : Event}
    (hc : ((empty c).after changes).contains e.id = true) :
    Marked c (changes ++ [.history e]) := by
  have hp : placed c (changes ++ [.history e]) = placed c changes := by
    rw [placed_concat, note_history, hc]
    rfl
  have hs : (empty c).after (changes ++ [.history e]) = (empty c).after changes := by
    rw [after_concat]
    show (((empty c).after changes).pushHistory e).2 = _
    rw [pushHistory_of_contains hc]
  refine ⟨?_, ?_, ?_, ?_⟩
  · rw [hp, hs, h.list]
  · rw [hp]
    exact fun x hx => h.put_concat _ hx
  · rw [hp]
    exact h.distinct
  · rw [hp]
    exact h.covers_concat _

theorem marked_clear (c : Nat) (changes : List Change) : Marked c (changes ++ [.clear]) := by
  have hp : placed c (changes ++ [.clear]) = [] := placed_concat ..
  have hs : ((empty c).after (changes ++ [.clear])).list = [] := by
    rw [after_concat]
    rfl
  refine ⟨?_, ?_, ?_, ?_⟩ <;> rw [hp]
  · exact hs.symm
  · simp
  · exact .nil
  · exact .nil

theorem marked (c : Nat) (changes : List Change) : Marked c changes := by
  induction changes using List.reverseRecOn with
  | nil => exact ⟨rfl, by simp [placed, notes], .nil, .nil⟩
  | append_singleton changes o ih =>
    cases o with
    | live e => exact ih.live e
    | history e =>
      cases hc : ((empty c).after changes).contains e.id with
      | true => exact ih.refused hc
      | false => exact ih.accepted hc
    | clear => exact marked_clear c changes

/-! ### Provenance -/

theorem Marked.shared (h : Marked c changes) {i j : Nat} {x y : Placed} (hij : i < j)
    (hi : (placed c changes)[i]? = some x) (hj : (placed c changes)[j]? = some y) :
    Covers c changes x y := by
  obtain ⟨hil, rfl⟩ := List.getElem?_eq_some_iff.mp hi
  obtain ⟨hjl, rfl⟩ := List.getElem?_eq_some_iff.mp hj
  exact List.pairwise_iff_getElem.mp h.covers i j hil hjl hij

theorem Marked.once (h : Marked c changes) (id : String) :
    (placed c changes).countP (fun x => !x.live && x.event.id == id) ≤ 1 := by
  rw [List.countP_eq_length_filter]
  have hp := h.covers.filter fun x => !x.live && x.event.id == id
  have hm : ∀ x ∈ (placed c changes).filter (fun x => !x.live && x.event.id == id),
      x.live = false ∧ x.event.id = id := by
    intro x hx
    simpa using (List.mem_filter.mp hx).2
  generalize (placed c changes).filter (fun x => !x.live && x.event.id == id) = backlog
    at hp hm ⊢
  -- the first of two such entries would be a live event
  match backlog with
  | [] => exact Nat.zero_le 1
  | [_] => exact Nat.le_refl 1
  | x :: y :: rest =>
    obtain ⟨hx, hxid⟩ := hm x (by simp)
    obtain ⟨-, hyid⟩ := hm y (by simp)
    have live := (List.rel_of_pairwise_cons hp (by simp) (hxid.trans hyid.symm)).1
    exact absurd (live.symm.trans hx) (by simp)

theorem Marked.order (h : Marked c changes) {i j : Nat} {x y : Placed}
    (hi : (placed c changes)[i]? = some x) (hj : (placed c changes)[j]? = some y)
    (hid : x.event.id = y.event.id) (hx : x.live = true) (hy : y.live = false) :
    y.number < x.number ∧ i < j := by
  have apart : ¬ y.live = true := by simp [hy]
  rcases Nat.lt_trichotomy i j with hlt | rfl | hgt
  · exact ⟨(h.shared hlt hi hj hid).2.1, hlt⟩
  · obtain rfl := Option.some.inj (hi.symm.trans hj)
    exact absurd hx apart
  · exact absurd (h.shared hgt hj hi hid.symm).1 apart

theorem Marked.answer (h : Marked c changes) (e : Event) :
    (((empty c).after changes).pushHistory e).1 = true ↔
      ∀ x ∈ placed c changes, x.event.id ≠ e.id := by
  have hiff := h.contains_iff e.id
  cases hc : ((empty c).after changes).contains e.id with
  | true =>
    rw [pushHistory_of_contains hc]
    obtain ⟨x, hx, hid⟩ := hiff.mp hc
    exact ⟨fun hf => absurd hf Bool.false_ne_true, fun hn => absurd hid (hn x hx)⟩
  | false =>
    rw [pushHistory_of_not_contains hc]
    refine ⟨fun _ x hx hid => ?_, fun _ => rfl⟩
    exact Bool.false_ne_true (hc.symm.trans (hiff.mpr ⟨x, hx, hid⟩))

/-- Where the entries of the list come from. -/
structure Provenance (c : Nat) (changes : List Change) : Prop where
  /-- The entries are the list of events. -/
  list : (placed c changes).map (·.event) = ((empty c).after changes).list
  /-- The number of an entry is that of the change that has put it, -/
  put : ∀ x ∈ placed c changes, ((empty c).notes changes)[x.number]? = some x.done
  /-- and no two entries share theirs. -/
  distinct : (placed c changes).Pairwise (·.number ≠ ·.number)
  /-- At most one entry with an id is from the backlog. -/
  once : ∀ id, (placed c changes).countP (fun x => !x.live && x.event.id == id) ≤ 1
  /-- A live event that shares its id with it came later and stands in front of it. -/
  order : ∀ (i j : Nat) (x y : Placed), (placed c changes)[i]? = some x →
    (placed c changes)[j]? = some y → x.event.id = y.event.id → x.live = true →
      y.live = false → y.number < x.number ∧ i < j
  /-- Of any two entries with one id the one in front is a live event that was put while
  the other one was there. -/
  shared : ∀ (i j : Nat) (x y : Placed), i < j → (placed c changes)[i]? = some x →
    (placed c changes)[j]? = some y → x.event.id = y.event.id →
      x.live = true ∧ y.number < x.number ∧ y ∈ placed c (changes.take x.number)
  /-- One more event of the backlog is put if no entry has its id. -/
  answer : ∀ e, (((empty c).after changes).pushHistory e).1 = true ↔
    ∀ x ∈ placed c changes, x.event.id ≠ e.id

/-- **Each event of the backlog is there once**, and whatever shares its id is a live
event that came while it was there. -/
theorem provenance_of_entries (c : Nat) (changes : List Change) : Provenance c changes := by
  have h := marked c changes
  exact {
    list := h.list
    put := h.put
    distinct := h.distinct
    once := h.once
    order := fun _ _ _ _ hi hj => h.order hi hj
    shared := fun _ _ _ _ hij hi hj => h.shared hij hi hj
    answer := h.answer }

example (e : Event) : (placed 2 [.history e, .live e]).map (fun x => (x.live, x.number)) =
    [(true, 1), (false, 0)] := rfl

end Events

end PipelineWatch.Store
