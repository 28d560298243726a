import PipelineWatch.Proofs.Session.Notices
import PipelineWatch.Proofs.Session.Run
import PipelineWatch.Proofs.Watch.Follow
import PipelineWatch.Watch.Live

/-!
A session and its watcher side by side. Things happen in the session, and now and then the
watcher reads a notice, with the stores as they are by then. However these follow on each
other and whatever is lost, a watcher that has read all there is knows the plans of the
events that are in the store, and has printed them.
-/
namespace PipelineWatch.Watch

open Session (Notice Subscription Moment Still)

/-- A watcher at work: the session with the watcher, all that was printed, and the events
that the watcher has looked at each time, both oldest first. -/
structure Sitting where
  live : Live
  printed : List Print
  looks : List (List Event)

/-- Something that happens while a watcher is at work. -/
inductive Happening where
  | session (moment : Moment)
  /-- The watcher reads a notice, if there is one. -/
  | receive

namespace Sitting

/-- A watcher that has followed a session from the start on. -/
def start (c : Config) (requested : Plan.Selection) : Sitting :=
  ⟨.start (.ofConfig c) c.updateBuffer requested, [], []⟩

/-- The watcher reads one notice and takes it in. There is nothing to ask any more once the
session was given up. -/
def receive (s : Sitting) : Sitting :=
  if s.live.session.phase = .gone then s
  else
    match s.live.reader.receive s.live.size s.live.session.sent with
    | none => s
    | some (notice, reader) =>
      let taken := s.live.watch.take s.live.session.stores notice
      { live := { s.live with reader, watch := taken.1 }
        printed := s.printed ++ taken.2
        looks := s.looks ++ (look? s.live.session.stores notice).toList }

/-- The sitting after something has happened. -/
def next (s : Sitting) : Happening → Sitting
  | .session moment => { s with live.session := s.live.session.next moment }
  | .receive => s.receive

/-- The sitting after all that has happened. -/
def after (s : Sitting) (happenings : List Happening) : Sitting :=
  happenings.foldl next s

/-- The updates that the watcher has not read, newest first. -/
def waiting (s : Sitting) : List Session.Update :=
  s.live.reader.waiting s.live.session.sent

/-- All updates that were told have been read or lost. -/
def CaughtUp (s : Sitting) : Prop :=
  s.live.reader.seen = s.live.session.sent.length

theorem CaughtUp.still {s : Sitting} (h : s.CaughtUp) : Still s.waiting := by
  have none : s.waiting = [] := by
    rw [waiting, Subscription.waiting, h, Nat.sub_self]
    rfl
  simp [none, Still]

/-! ### What a watcher looks at -/

/-- The events that are looked at are those in the store, if no update that waits behind
the notice tells that they have moved. -/
theorem look_eq {capacity size : Nat} {s : Session} {r r' : Subscription} {n : Notice}
    {events : List Event} (mirrored : s.Mirrored capacity) (receives : r.Receives r' size s.sent n)
    (look : look? s.stores n = some events) (still : Still (r'.waiting s.sent)) :
    events = s.stores.events.list := by
  cases receives with
  | lagged lost => exact (Option.some.inj look).symm
  | update u waits =>
    cases u with
    | dispatched o =>
      simp only [look?, lookAt?] at look
      split at look
      · exact (Option.some.inj look).symm
      · cases look
    | eventsCleared =>
      obtain rfl := Option.some.inj look
      -- the store holds nothing since then, and events that were told of later would wait
      have sent : s.sent =
          r'.waiting s.sent ++ .eventsCleared :: s.sent.drop (s.sent.length - r.seen) := by
        calc s.sent = r.waiting s.sent ++ s.sent.drop (s.sent.length - r.seen) :=
              (List.take_append_drop ..).symm
          _ = _ := by rw [waits, List.append_assoc]; rfl
      exact (mirrored.events_eq_nil sent still).symm
    | _ => cases look

/-- Where the events are not looked at, the notice is an update that does not move them. -/
theorem still_of_look_none {size : Nat} {s : Session} {r r' : Subscription} {n : Notice}
    (receives : r.Receives r' size s.sent n) (look : look? s.stores n = none)
    (still : Still (r'.waiting s.sent)) : Still (r.waiting s.sent) := by
  cases receives with
  | lagged lost => cases look
  | update u waits =>
    rw [waits, Session.still_append]
    refine ⟨still, fun v hv => ?_⟩
    obtain rfl := List.mem_singleton.mp hv
    cases v with
    | dispatched o => simpa [look?, lookAt?, Session.Update.movesEvents] using look
    | eventsCleared => cases look
    | _ => rfl

/-! ### What stays true -/

/-- What is known of a watcher at work that was asked for this selection. -/
structure Sound (requested : Plan.Selection) (s : Sitting) : Prop where
  mirrored : ∃ capacity, s.live.session.Mirrored capacity
  seen : s.live.reader.seen ≤ s.live.session.sent.length
  watch : s.live.watch = s.looks.foldl (fun w events => (w.refresh events).1) (.start requested)
  shows : Shows (.start requested) s.live.watch s.printed
  plans : Still s.waiting →
    s.live.watch.planIds = Plan.known s.live.session.stores.events.list
  /-- What was read before the watcher looks at any events does not move them. -/
  unlooked : s.looks = [] → Still s.waiting → Still s.live.session.sent

variable {requested : Plan.Selection} {s : Sitting}

theorem sound_start (c : Config) (requested : Plan.Selection) :
    Sound requested (start c requested) where
  mirrored := ⟨c.eventCapacity, rfl, rfl⟩
  seen := Nat.le_refl _
  watch := rfl
  shows := .refl _
  plans := fun _ => rfl
  unlooked := fun _ _ => fun _ hu => absurd hu List.not_mem_nil

theorem Sound.session (h : Sound requested s) (m : Moment) :
    Sound requested (s.next (.session m)) := by
  obtain ⟨capacity, mirrored⟩ := h.mirrored
  obtain ⟨new, told, kept⟩ := s.live.session.next_tellsEvents m
  have waits : (s.next (.session m)).waiting = new ++ s.waiting := by
    show s.live.reader.waiting (s.live.session.next m).sent = _
    rw [told]
    exact Subscription.waiting_append h.seen new
  refine ⟨⟨capacity, mirrored.next m⟩, ?_, h.watch, h.shows, fun still => ?_, fun none still => ?_⟩
  · show s.live.reader.seen ≤ (s.live.session.next m).sent.length
    rw [told, List.length_append]
    exact Nat.le_add_left_of_le h.seen
  · rw [waits, Session.still_append] at still
    show s.live.watch.planIds = Plan.known (s.live.session.next m).stores.events.list
    rw [kept still.1]
    exact h.plans still.2
  · rw [waits, Session.still_append] at still
    show Still (s.live.session.next m).sent
    rw [told, Session.still_append]
    exact ⟨still.1, h.unlooked none still.2⟩

theorem Sound.receive (h : Sound requested s) : Sound requested s.receive := by
  unfold Sitting.receive
  split
  · exact h
  · split
    · exact h
    · rename_i n reader hr
      obtain ⟨capacity, mirrored⟩ := h.mirrored
      obtain ⟨receives, -, seen⟩ := Subscription.receives_of_receive hr
      have taken := s.live.watch.take_watch s.live.session.stores n
      refine ⟨⟨capacity, mirrored⟩, seen, ?_, h.shows.trans (take_shows ..), fun still => ?_,
        fun none still => ?_⟩
      · show (s.live.watch.take s.live.session.stores n).1 = _
        rw [taken, List.foldl_append, ← h.watch]
        cases look? s.live.session.stores n <;> rfl
      · show (s.live.watch.take s.live.session.stores n).1.planIds = _
        rw [taken]
        cases look : look? s.live.session.stores n with
        | none => exact h.plans (still_of_look_none receives look still)
        | some events => exact congrArg Plan.known (look_eq mirrored receives look still)
      · obtain ⟨before, look⟩ := List.append_eq_nil_iff.mp none
        exact h.unlooked before
          (still_of_look_none receives (Option.toList_eq_nil_iff.mp look) still)

theorem Sound.next (h : Sound requested s) (what : Happening) : Sound requested (s.next what) := by
  cases what with
  | session m => exact h.session m
  | receive => exact h.receive

theorem Sound.after (h : Sound requested s) (happenings : List Happening) :
    Sound requested (s.after happenings) := by
  induction happenings generalizing s with
  | nil => exact h
  | cons what happenings ih => exact ih (h.next what)

end Sitting

end PipelineWatch.Watch
