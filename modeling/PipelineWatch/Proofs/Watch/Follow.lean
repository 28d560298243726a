import PipelineWatch.Watch.Follow

/-!
What a notice does to a watcher. Either it looks at the events again or it stays as it is,
and what it prints shows what has become of it: the last list of plans and the last
selection that were printed are those that it has.
-/
namespace PipelineWatch

namespace Watch

open Session (Update Notice)

/-- The events that the watcher looks at when it takes in an update. -/
def lookAt? (stores : Stores) : Update → Option (List Event)
  | .dispatched outcome => if outcome.changedEvents then some stores.events.list else none
  | .eventsCleared => some []
  | _ => none

/-- The events that the watcher looks at when it takes in a notice. -/
def look? (stores : Stores) : Notice → Option (List Event)
  | .update u => lookAt? stores u
  | .lagged _ => some stores.events.list
  | .closed => none

/-- The watcher after it has looked at these events, if it does. -/
def afterLook (w : Watch) (look : Option (List Event)) : Watch :=
  (look.map fun events => (w.refresh events).1).getD w

theorem announce_watch (w : Watch) (events : List Event) (id : String) :
    (w.announce events id).1 = (w.refresh events).1 := by
  simp only [announce]
  split <;> rfl

theorem applyOutcome_watch (w : Watch) (stores : Stores) (o : Store.Outcome) :
    (w.applyOutcome stores o).1 = w.afterLook (lookAt? stores (.dispatched o)) := by
  cases o with
  | eventInserted id => exact announce_watch ..
  | historyAppended id => exact announce_watch ..
  | approvalQueued id =>
    simp only [applyOutcome]
    split <;> rfl
  | _ => rfl

/-- All that a notice does to a watcher is to make it look at some events. -/
theorem take_watch (w : Watch) (stores : Stores) (n : Notice) :
    (w.take stores n).1 = w.afterLook (look? stores n) := by
  cases n with
  | update u =>
    cases u with
    | dispatched o => exact applyOutcome_watch w stores o
    | _ => rfl
  | _ => rfl

/-! ### What is printed -/

/-- The plans that are printed. -/
def Print.plans? : Print → Option (List String)
  | .plans ids => some ids
  | _ => none

/-- The selection that is printed. -/
def Print.following? : Print → Option Plan.Selection
  | .following selection => some selection
  | _ => none

/-- The last plans among what is printed, and `before` if there are none. -/
def lastPlans (before : List String) (prints : List Print) : List String :=
  (prints.filterMap Print.plans?).getLast?.getD before

/-- The last selection among what is printed, and `before` if there is none. -/
def lastFollowing (before : Plan.Selection) (prints : List Print) : Plan.Selection :=
  (prints.filterMap Print.following?).getLast?.getD before

/-- The lines of the plans that are printed. -/
def planLines (prints : List Print) : List String :=
  (prints.filter fun p => p.plans?.isSome).map (·.line)

/-- The lines of the selections that are printed. -/
def followingLines (prints : List Print) : List String :=
  (prints.filter fun p => p.following?.isSome).map (·.line)

/-- The lines of one kind of prints are those of what these prints hold. -/
theorem lines_eq {α : Type} {kind : Print → Option α} {line : α → String}
    (h : ∀ p x, kind p = some x → p.line = line x) (prints : List Print) :
    (prints.filter fun p => (kind p).isSome).map (·.line) = (prints.filterMap kind).map line := by
  induction prints with
  | nil => rfl
  | cons p prints ih =>
    rw [List.filter_cons, List.filterMap_cons]
    cases hp : kind p with
    | none => exact ih
    | some x =>
      show p.line :: _ = line x :: _
      rw [h p x hp, ih]

theorem lastPlans_append (before : List String) (xs ys : List Print) :
    lastPlans before (xs ++ ys) = lastPlans (lastPlans before xs) ys := by
  simp only [lastPlans, List.filterMap_append, List.getLast?_append]
  cases (ys.filterMap Print.plans?).getLast? <;> rfl

theorem lastFollowing_append (before : Plan.Selection) (xs ys : List Print) :
    lastFollowing before (xs ++ ys) = lastFollowing (lastFollowing before xs) ys := by
  simp only [lastFollowing, List.filterMap_append, List.getLast?_append]
  cases (ys.filterMap Print.following?).getLast? <;> rfl

/-- These prints lead those who read them from the watcher `w` to `w'`. -/
structure Shows (w w' : Watch) (prints : List Print) : Prop where
  plans : lastPlans w.planIds prints = w'.planIds
  following : lastFollowing w.selection prints = w'.selection

theorem Shows.refl (w : Watch) : Shows w w [] :=
  ⟨rfl, rfl⟩

theorem Shows.trans {w w' w'' : Watch} {xs ys : List Print} (h : Shows w w' xs)
    (h' : Shows w' w'' ys) : Shows w w'' (xs ++ ys) where
  plans := by rw [lastPlans_append, h.plans, h'.plans]
  following := by rw [lastFollowing_append, h.following, h'.following]

/-- Nothing else that is printed says anything of the plans or the selection. -/
theorem Shows.other (w : Watch) {p : Print} (plans : p.plans? = none)
    (following : p.following? = none) : Shows w w [p] where
  plans := by simp [lastPlans, plans]
  following := by simp [lastFollowing, following]

theorem refresh_shows (w : Watch) (events : List Event) :
    Shows w (w.refresh events).1 (w.refresh events).2 := by
  simp only [refresh]
  constructor
  · rw [lastPlans_append]
    split <;> split <;> simp_all [lastPlans, Print.plans?]
  · rw [lastFollowing_append]
    split <;> split <;> simp_all [lastFollowing, Print.following?]

theorem announce_shows (w : Watch) (events : List Event) (id : String) :
    Shows w (w.announce events id).1 (w.announce events id).2 := by
  have h := w.refresh_shows events
  simp only [announce]
  split
  · split
    · exact h.trans (.other _ rfl rfl)
    · exact h
  · exact h

theorem applyOutcome_shows (w : Watch) (stores : Stores) (o : Store.Outcome) :
    Shows w (w.applyOutcome stores o).1 (w.applyOutcome stores o).2 := by
  cases o with
  | eventInserted id => exact announce_shows ..
  | historyAppended id => exact announce_shows ..
  | approvalQueued id =>
    simp only [applyOutcome]
    split
    · exact .other w rfl rfl
    · exact .refl w
  | approvalResolved id => exact .other w rfl rfl
  | _ => exact .refl w

/-- What the watcher prints shows what has become of it. -/
theorem take_shows (w : Watch) (stores : Stores) (n : Notice) :
    Shows w (w.take stores n).1 (w.take stores n).2 := by
  cases n with
  | lagged lost => exact refresh_shows ..
  | closed => exact .refl w
  | update u =>
    cases u with
    | dispatched o => exact applyOutcome_shows ..
    | eventsCleared => exact (refresh_shows w []).trans (.other _ rfl rfl)
    | status status => exact .other w rfl rfl
    | approvalsCleared => exact .other w rfl rfl

end Watch

end PipelineWatch
