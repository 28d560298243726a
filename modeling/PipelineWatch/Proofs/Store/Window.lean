import PipelineWatch.Proofs.Store.Dispatch

/-!
What the list of events is after any changes. In front stand the newest live events
since the last clearing, as many as there is room for, and nothing that comes from
the backlog moves them. Behind them stand events of the backlog, which a live event
pushes out from the end.
-/
namespace PipelineWatch.Store

/-- Something that is done to the events. -/
inductive Change where
  | live (e : Event)
  | history (e : Event)
  | clear
deriving DecidableEq, Repr

/-- Whether a live event is put in front. -/
def Change.isLive : Change → Bool
  | .live _ => true
  | _ => false

/-- What has become of a change. -/
inductive Done where
  | live (e : Event)
  | accepted (e : Event)
  /-- An event of the backlog whose id was there. -/
  | refused (e : Event)
  | cleared
deriving DecidableEq, Repr

namespace Done

/-- The event that was put in front. -/
def live? : Done → Option Event
  | .live e => some e
  | _ => none

/-- The event that was put at the back. -/
def accepted? : Done → Option Event
  | .accepted e => some e
  | _ => none

def isClear : Done → Bool
  | .cleared => true
  | _ => false

def isHistory : Done → Bool
  | .accepted _ => true
  | .refused _ => true
  | _ => false

end Done

namespace Events

/-- The events after a change. -/
def change (s : Events) : Change → Events
  | .live e => s.pushLive e
  | .history e => (s.pushHistory e).2
  | .clear => s.clear

/-- What becomes of a change. -/
def note (s : Events) : Change → Done
  | .live e => .live e
  | .history e => if (s.pushHistory e).1 then .accepted e else .refused e
  | .clear => .cleared

/-- The events after some changes. -/
def after (s : Events) (changes : List Change) : Events :=
  changes.foldl change s

/-- What becomes of some changes, in their order. -/
def notes (s : Events) : List Change → List Done
  | [] => []
  | o :: changes => s.note o :: (s.change o).notes changes

end Events

/-! ### The past, newest first -/

/-- The live events since the last clearing, newest first. -/
def lives (past : List Done) : List Event :=
  (past.takeWhile fun d => !d.isClear).filterMap Done.live?

/-- The events of the backlog accepted since the last clearing, in the order of
their acceptance. -/
def accepted (past : List Done) : List Event :=
  ((past.takeWhile fun d => !d.isClear).filterMap Done.accepted?).reverse

/-- Those of them that were accepted since the last live event. -/
def recent (past : List Done) : List Event :=
  ((past.takeWhile Done.isHistory).filterMap Done.accepted?).reverse

/-- The past after some changes from the start on. -/
def pastOf (capacity : Nat) (changes : List Change) : List Done :=
  ((Events.empty capacity).notes changes).reverse

namespace Events

theorem notes_append (s : Events) (xs ys : List Change) :
    s.notes (xs ++ ys) = s.notes xs ++ (s.after xs).notes ys := by
  induction xs generalizing s with
  | nil => rfl
  | cons o xs ih => exact congrArg (s.note o :: ·) (ih (s.change o))

theorem after_append (s : Events) (xs ys : List Change) :
    s.after (xs ++ ys) = (s.after xs).after ys :=
  List.foldl_append

theorem note_history (s : Events) (e : Event) :
    s.note (.history e) = if s.contains e.id then .refused e else .accepted e := by
  cases hc : s.contains e.id with
  | true => simp [note, pushHistory_of_contains hc]
  | false => simp [note, pushHistory_of_not_contains hc]

/-! ### The window -/

/-- The list is made of the newest live events, of what is kept of the backlog
behind them, and of what was accepted since the last live event. -/
structure Window (c : Nat) (past : List Done) (kept : List Event) (s : Events) : Prop where
  capacity : s.capacity = c
  list : s.list = (lives past).take c ++ (kept ++ recent past)
  order : (kept ++ recent past).Sublist (accepted past)
  room : ((lives past).take c ++ kept).length ≤ c

variable {c : Nat} {past : List Done} {kept : List Event} {s : Events}

theorem window_empty (c : Nat) {p : List Done} (hl : lives p = [])
    (hr : recent p = []) : Window c p [] (empty c) where
  capacity := rfl
  list := by rw [hl, hr, List.take_nil]; rfl
  order := by rw [hr]; exact List.nil_sublist _
  room := by rw [hl, List.take_nil]; exact Nat.zero_le _

/-- A live event comes in front of the others and takes its room from the end. -/
theorem Window.pushLive (h : Window c past kept s) (e : Event) :
    ∃ kept, Window c (.live e :: past) kept (s.pushLive e) := by
  -- the oldest live event that makes room was at the end of the window
  have front : (e :: (lives past).take c).take c = (e :: lives past).take c := by
    cases c with
    | zero => rfl
    | succ c => simp [List.take_take]
  -- what is left of the backlog, old and new alike
  let left := (kept ++ recent past).take (c - (((lives past).take c).length + 1))
  have whole : (s.pushLive e).list = (e :: lives past).take c ++ left := by
    show (e :: s.list).take s.capacity = _
    rw [h.capacity, h.list, ← List.cons_append, List.take_append, front, List.length_cons]
  refine ⟨left, h.capacity, ?_, ?_, ?_⟩
  · rw [whole]
    exact congrArg _ (List.append_nil _).symm
  · show (left ++ []).Sublist (accepted past)
    rw [List.append_nil]
    exact (List.take_sublist ..).trans h.order
  · have hlen : (s.pushLive e).list.length ≤ s.capacity := List.length_take_le ..
    rw [whole, h.capacity] at hlen
    exact hlen

/-- An event of the backlog leaves the live events where they are. -/
theorem Window.pushHistory (h : Window c past kept s) (e : Event) :
    Window c (s.note (.history e) :: past) kept (s.pushHistory e).2 := by
  rw [note_history]
  cases hc : s.contains e.id with
  | true =>
    rw [pushHistory_of_contains hc]
    exact ⟨h.capacity, h.list, h.order, h.room⟩
  | false =>
    have hrecent : recent (.accepted e :: past) = recent past ++ [e] := List.reverse_cons ..
    have haccepted : accepted (.accepted e :: past) = accepted past ++ [e] :=
      List.reverse_cons ..
    rw [pushHistory_of_not_contains hc, if_neg Bool.false_ne_true]
    refine ⟨h.capacity, ?_, ?_, h.room⟩
    · show s.list ++ [e] = (lives past).take c ++ _
      rw [hrecent, h.list, List.append_assoc, List.append_assoc]
    · rw [hrecent, haccepted, ← List.append_assoc]
      exact h.order.append (.refl _)

theorem Window.change (h : Window c past kept s) (o : Change) :
    ∃ kept, Window c (s.note o :: past) kept (s.change o) := by
  cases o with
  | live e => exact h.pushLive e
  | history e => exact ⟨kept, h.pushHistory e⟩
  | clear =>
    refine ⟨[], ?_⟩
    show Window c (.cleared :: past) [] (empty s.capacity)
    rw [h.capacity]
    exact window_empty c rfl rfl

theorem Window.after (h : Window c past kept s) (changes : List Change) :
    ∃ kept, Window c ((s.notes changes).reverse ++ past) kept (s.after changes) := by
  induction changes generalizing past kept s with
  | nil => exact ⟨kept, h⟩
  | cons o changes ih =>
    obtain ⟨kept', ho⟩ := h.change o
    obtain ⟨kept'', hr⟩ := ih ho
    refine ⟨kept'', ?_⟩
    rw [notes, List.reverse_cons, List.append_assoc]
    exact hr

theorem after_window (c : Nat) (changes : List Change) :
    ∃ kept, Window c (pastOf c changes) kept ((empty c).after changes) := by
  obtain ⟨kept, h⟩ := (window_empty c (p := []) rfl rfl).after changes
  refine ⟨kept, ?_⟩
  rwa [List.append_nil] at h

/-! ### Live events -/

/-- Live events come in front of those that were there. -/
theorem lives_notes (s : Events) (past : List Done) {changes : List Change}
    (h : .clear ∉ changes) :
    ∃ newer, lives ((s.notes changes).reverse ++ past) = newer ++ lives past ∧
      newer.length = changes.countP Change.isLive := by
  induction changes generalizing s past with
  | nil => exact ⟨[], rfl, rfl⟩
  | cons o changes ih =>
    obtain ⟨newer, hnewer, hlen⟩ := ih (s.change o) (s.note o :: past)
      fun hm => h (List.mem_cons_of_mem _ hm)
    rw [notes, List.reverse_cons, List.append_assoc, List.singleton_append, hnewer]
    cases o with
    | live e =>
      refine ⟨newer ++ [e], ?_, ?_⟩
      · simp [lives, note, Done.isClear, Done.live?]
      · rw [List.length_append, hlen, List.countP_cons]
        rfl
    | history e =>
      have hn : lives (s.note (.history e) :: past) = lives past := by
        rw [note_history]
        split <;> rfl
      exact ⟨newer, by rw [hn], hlen⟩
    | clear => exact absurd (List.mem_cons_self ..) h

theorem pastOf_append (c : Nat) (changes later : List Change) :
    pastOf c (changes ++ later) =
      (((empty c).after changes).notes later).reverse ++ pastOf c changes := by
  rw [pastOf, notes_append, List.reverse_append]
  rfl

theorem list_getElem?_of_lives {c : Nat} {changes : List Change} {i : Nat} {e : Event}
    (h : (lives (pastOf c changes))[i]? = some e) (hi : i < c) :
    ((empty c).after changes).list[i]? = some e := by
  obtain ⟨kept, w⟩ := after_window c changes
  have hlen : i < ((lives (pastOf c changes)).take c).length := by
    obtain ⟨hlt, -⟩ := List.getElem?_eq_some_iff.mp h
    rw [List.length_take]
    omega
  rw [w.list, List.getElem?_append_left hlen, List.getElem?_take_of_lt hi, h]

/-- What the list of events is after any changes. -/
structure ClosedForm (c : Nat) (changes : List Change) : Prop where
  /-- The newest live events and, behind them, accepted events of the backlog. Those
  that were accepted since the last live event are all there. -/
  list : ∃ kept, ((empty c).after changes).list =
      (lives (pastOf c changes)).take c ++ (kept ++ recent (pastOf c changes)) ∧
    (kept ++ recent (pastOf c changes)).Sublist (accepted (pastOf c changes))
  /-- Only what was accepted since the last live event goes beyond the capacity. -/
  length : ((empty c).after changes).list.length ≤ c + (recent (pastOf c changes)).length
  /-- Nothing goes beyond it once a live event has come. -/
  live : ∀ e, ((empty c).after (changes ++ [.live e])).list.length ≤ c
  /-- A live event stays in its place until it is cleared away or newer live ones
  take all the room. -/
  stays : ∀ i e later, (lives (pastOf c changes))[i]? = some e → .clear ∉ later →
    i + later.countP Change.isLive < c →
      ((empty c).after (changes ++ later)).list[i + later.countP Change.isLive]? = some e

/-- **The list of events in closed form**, after any changes from the start on. -/
theorem events_closed_form (c : Nat) (changes : List Change) : ClosedForm c changes := by
  obtain ⟨kept, w⟩ := after_window c changes
  refine ⟨⟨kept, w.list, w.order⟩, ?_, ?_, ?_⟩
  · have hroom := w.room
    rw [w.list]
    simp only [List.length_append] at hroom ⊢
    omega
  · intro e
    have hl : ((empty c).after (changes ++ [.live e])).list =
        (e :: ((empty c).after changes).list).take c := by
      rw [after_append]
      show List.take ((empty c).after changes).capacity _ = _
      rw [w.capacity]
    rw [hl]
    exact List.length_take_le ..
  · intro i e later hi hclear hlt
    obtain ⟨newer, hnewer, hlen⟩ :=
      lives_notes ((empty c).after changes) (pastOf c changes) hclear
    refine list_getElem?_of_lives ?_ hlt
    rw [pastOf_append, hnewer, List.getElem?_append_right (by omega), hlen,
      Nat.add_sub_cancel, hi]

end Events

end PipelineWatch.Store
