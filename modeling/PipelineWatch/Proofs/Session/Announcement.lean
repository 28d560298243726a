import Mathlib.Data.List.Induction
import PipelineWatch.Config
import PipelineWatch.Proofs.Session.Mirror
import PipelineWatch.Proofs.Store.Dispatch

/-!
What a session tells of an event and whether the event is in the store. A moment tells at most
one thing. Right after an update tells of an event, the event stands where the update says,
unless it is a live one and the settings leave no room for any: the outcome of a live event
does not ask what the store has kept of it.
-/
namespace PipelineWatch

/-! ### Frames -/

/-- The events have what the outcome tells of them: a live event in front, an event of the
backlog at the back and nowhere else. -/
def Store.Outcome.BackedBy (events : Store.Events) : Store.Outcome → Prop
  | .eventInserted id => events.ids.head? = some id
  | .historyAppended id => ∃ before, events.ids = before ++ [id] ∧ id ∉ before
  | _ => True

/-- The outcome is that of a live event, and a store of this capacity has no room for it. -/
structure Store.Outcome.Dropped (capacity : Nat) (events : Store.Events) (o : Store.Outcome) :
    Prop where
  live : ∃ id, o = .eventInserted id
  full : capacity = 0
  gone : events.list = []

namespace Stores

open Store (Outcome)

variable {s t : Stores} {m : Message} {o : Outcome}

/-- The outcome of a message is backed by the events that come out, or the message was dropped. -/
theorem Effect.backed (h : Effect s m o t) :
    o.BackedBy t.events ∨ o.Dropped s.events.capacity t.events := by
  cases h with
  | eventInserted e =>
    cases hc : s.events.capacity with
    | zero =>
      refine .inr ⟨⟨e.id, rfl⟩, rfl, ?_⟩
      show (e :: s.events.list).take s.events.capacity = []
      rw [hc, List.take_zero]
    | succ room =>
      refine .inl ?_
      show (s.events.pushLive e).ids.head? = some e.id
      rw [Store.Events.ids_pushLive, hc]
      rfl
  | historyAppended h absent =>
    refine .inl ⟨s.events.ids, ?_, absent⟩
    simp [Store.Events.ids, History.toEvent]
  | _ => exact .inl trivial

theorem FrameEffect.backed {d : Except Frame.Failure Frame.Decoded} (h : FrameEffect s d o t) :
    o.BackedBy t.events ∨ o.Dropped s.events.capacity t.events := by
  cases h with
  | message effect => exact effect.backed
  | ignored | discarded => exact .inl trivial

end Stores

namespace Session

/-! ### Moments -/

/-- The events have what the update tells of them. -/
def Update.BackedBy (events : Store.Events) : Update → Prop
  | .dispatched o => o.BackedBy events
  | _ => True

/-- What `s` tells by coming to `t`: nothing, the outcome of a frame that the stores take in,
or something that is not the outcome of a frame. -/
inductive Telling (s t : Session) : Prop where
  | nothing (sent : t.sent = s.sent)
  | outcome (frame : List UInt8)
      (sent : t.sent = .dispatched (s.stores.dispatch s.frameLimit frame).1 :: s.sent)
      (stores : t.stores = (s.stores.dispatch s.frameLimit frame).2)
  | other (u : Update) (sent : t.sent = u :: s.sent) (plain : ∀ o, u ≠ .dispatched o)

theorem Telling.of_unmoved {s t : Session} (h : Unmoved s t) : Telling s t :=
  .nothing (by rw [sent, h.journal, sent])

theorem telling_herald {s t : Session} {status : Status} (entries : List Entry)
    (plain : entries.filterMap Entry.update? = [])
    (journal : t.journal = entries ++ (s.herald status ++ s.journal)) : Telling s t := by
  have told : t.sent = (s.herald status).filterMap Entry.update? ++ s.sent := by
    simp [sent, journal, plain]
  unfold herald at told
  split at told
  · exact .nothing told
  · exact .other (.status status) told (by simp)

theorem Advance.telling {s t : Session} (h : Advance s t) : Telling s t := by
  cases h with
  | attempt => exact telling_herald [⟨s.clock, .attempt⟩] rfl rfl
  | refused => exact telling_herald [] rfl rfl
  | connected n => exact telling_herald [⟨s.clock, .connect n⟩] rfl rfl
  | lost => exact telling_herald [] rfl rfl
  | ended => exact .nothing rfl
  | frame n link bytes =>
    cases changed : (s.stores.dispatch s.frameLimit bytes).1.changed with
    | false =>
      refine .nothing ?_
      simp only [sent, reception, changed]
      rfl
    | true =>
      refine .outcome bytes ?_ rfl
      simp only [sent, reception, changed]
      rfl

theorem telling_clear (s : Session) (clean : Stores → Stores) {u : Update}
    (plain : ∀ o, u ≠ .dispatched o) : Telling s (s.clear clean u) := by
  by_cases live : s.phase = .live
  · rw [clear_of_live live]
    exact .other u rfl plain
  · rw [clear_of_not_live live]
    exact .nothing rfl

theorem telling_happen (s : Session) (o : Operation) : Telling s (s.happen o) := by
  by_cases he : o = .clearEvents
  · subst he
    exact telling_clear s _ (by simp)
  · by_cases ha : o = .clearApprovals
    · subst ha
      exact telling_clear s _ (by simp)
    · exact .of_unmoved (happen_unmoved s he ha)

theorem telling_next (s : Session) (m : Moment) : Telling s (s.next m) := by
  cases m with
  | operation o => exact telling_happen s o
  | turn heeds =>
    rcases next_turn s heeds with same | advances
    · rw [same]
      exact .nothing rfl
    · exact advances.telling

/-- What has just been told is backed by the events, or it is a live event without room. -/
theorem Telling.backed {s t : Session} {u : Update} (h : Telling s t)
    (told : t.sent = u :: s.sent) :
    u.BackedBy t.stores.events ∨
      ∃ o, u = .dispatched o ∧ o.Dropped s.stores.events.capacity t.stores.events := by
  cases h with
  | nothing sent => exact absurd (told.symm.trans sent) (List.cons_ne_self u s.sent)
  | outcome frame sent stores =>
    obtain rfl : u = .dispatched _ := (List.cons.inj (told.symm.trans sent)).1
    rw [stores]
    exact (Stores.dispatch_effect s.frameLimit s.stores frame).backed.imp id fun dropped =>
      ⟨_, rfl, dropped⟩
  | other v sent plain =>
    obtain rfl : u = v := (List.cons.inj (told.symm.trans sent)).1
    refine .inl ?_
    cases u with
    | dispatched o => exact absurd rfl (plain o)
    | _ => trivial

/-- Not more than one thing is told at a time. -/
theorem Telling.sent_eq {s t : Session} (h : Telling s t) :
    t.sent = s.sent ∨ ∃ u, t.sent = u :: s.sent := by
  cases h with
  | nothing sent => exact .inl sent
  | outcome frame sent stores => exact .inr ⟨_, sent⟩
  | other u sent plain => exact .inr ⟨u, sent⟩

/-! ### Schedules -/

theorem after_concat (s : Session) (before : List Moment) (m : Moment) :
    s.after (before ++ [m]) = (s.after before).next m :=
  after_append s before [m]

/-- `u` is what the moment `m` tells, and was not told before. -/
structure ToldAt (s : Session) (before : List Moment) (m : Moment) (u : Update)
    (older : List Update) : Prop where
  was : (s.after before).sent = older
  is : (s.after (before ++ [m])).sent = u :: older

/-- Whatever a session tells in the course of a schedule it tells at a moment of its own. -/
theorem exists_toldAt {s : Session} (silent : s.sent = []) {schedule : List Moment}
    {newer older : List Update} {u : Update}
    (told : (s.after schedule).sent = newer ++ u :: older) :
    ∃ before m later, schedule = before ++ m :: later ∧ ToldAt s before m u older := by
  induction schedule using List.reverseRecOn generalizing newer with
  | nil =>
    have none : s.sent = newer ++ u :: older := told
    simp [silent] at none
  | append_singleton schedule m ih =>
    -- it may have been told before the last moment,
    have earlier {newer : List Update} (h : (s.after schedule).sent = newer ++ u :: older) :
        ∃ before m' later, schedule ++ [m] = before ++ m' :: later ∧
          ToldAt s before m' u older := by
      obtain ⟨before, m', later, split, at_m'⟩ := ih h
      exact ⟨before, m', later ++ [m], by simp [split], at_m'⟩
    have last := (telling_next (s.after schedule) m).sent_eq
    rw [← after_concat] at last
    rcases last with same | ⟨v, one⟩
    · exact earlier (same.symm.trans told)
    · rcases List.cons_eq_append_iff.mp (one.symm.trans told) with ⟨-, here⟩ | ⟨rest, -, before⟩
      · -- or else it is what the last moment tells
        obtain ⟨rfl, rfl⟩ := List.cons.inj here
        exact ⟨schedule, m, [], rfl, rfl, one⟩
      · exact earlier before

/-- **What is told of an event is backed by the store right then**, in every run: each update
is told at a moment of its own, and after that moment the events have what it tells of them.
The exception is a live event where the settings leave no room for events. -/
theorem told_event_is_stored (c : Config) (schedule : List Moment) {newer older : List Update}
    {u : Update} (told : ((ofConfig c).after schedule).sent = newer ++ u :: older) :
    ∃ before m later, schedule = before ++ m :: later ∧ ToldAt (ofConfig c) before m u older ∧
      (u.BackedBy ((ofConfig c).after (before ++ [m])).stores.events ∨
        ∃ o, u = .dispatched o ∧
          o.Dropped c.eventCapacity ((ofConfig c).after (before ++ [m])).stores.events) := by
  obtain ⟨before, m, later, split, at_m⟩ := exists_toldAt rfl told
  refine ⟨before, m, later, split, at_m, ?_⟩
  have capacity := (after_mirrored c before).capacity_eq
  have now := at_m.is
  rw [after_concat, ← at_m.was] at now
  rw [after_concat, ← capacity]
  exact (telling_next _ m).backed now

/-! ### Runs -/

/-- The frame of a live event with this id. -/
def liveFrame (id : String) : List UInt8 :=
  Text.Utf8.ofString <| Json.compact <| .object
    [("type", .text "event"),
     ("event", .object
       [("event_id", .text id), ("event_type", .text ""), ("timestamp", .text ""),
        ("producer", .text "")])]

/-- Settings that leave room for one event. -/
def roomForOne : Config :=
  { sampleConfig with eventCapacity := 1 }

/-- A link opens and one live event after the other comes over it. -/
def liveRun (ids : List String) : List Moment :=
  [.operation .planLink, .operation .start, .turn true, .turn true,
    .operation (.frames 0 (ids.map liveFrame))] ++ List.replicate ids.length (.turn true)

/-- With room for one event, the first one of two: it was told of before the second one came. -/
theorem told_event_is_stored_first :
    ((ofConfig roomForOne).after (liveRun ["a", "b"])).sent =
        [.dispatched (.eventInserted "b")] ++
          .dispatched (.eventInserted "a") :: [.status .connected] ∧
      ∃ before m later, liveRun ["a", "b"] = before ++ m :: later ∧
        ToldAt (ofConfig roomForOne) before m (.dispatched (.eventInserted "a"))
          [.status .connected] ∧
        (Update.BackedBy ((ofConfig roomForOne).after (before ++ [m])).stores.events
            (.dispatched (.eventInserted "a")) ∨
          ∃ o, .dispatched (.eventInserted "a") = Update.dispatched o ∧
            o.Dropped 1 ((ofConfig roomForOne).after (before ++ [m])).stores.events) := by
  have told : ((ofConfig roomForOne).after (liveRun ["a", "b"])).sent =
      [.dispatched (.eventInserted "b")] ++
        .dispatched (.eventInserted "a") :: [.status .connected] := by
    decide +kernel
  exact ⟨told, told_event_is_stored roomForOne (liveRun ["a", "b"]) told⟩

/-! ### No room -/

/-- Variables that leave no room for events. -/
def noRoom (name : String) : Option String :=
  if name = "ADM_EVENT_CAPACITY" then some "0" else none

/-- The settings that they hold. -/
def noRoomConfig : Config :=
  { sampleConfig with eventCapacity := 0 }

/-- A live event may be told of that is not in the store. -/
theorem told_event_not_stored :
    ¬ ∀ (lookup : String → Option String) (c : Config) (schedule : List Moment) (m : Moment)
      (u : Update), Config.ofLookup lookup = .ok c →
        ((ofConfig c).after (schedule ++ [m])).sent = u :: ((ofConfig c).after schedule).sent →
          u.BackedBy ((ofConfig c).after (schedule ++ [m])).stores.events := by
  intro backed
  have accepted : Config.ofLookup noRoom = .ok noRoomConfig := rfl
  -- the event comes at the last moment of the run
  let before := (liveRun ["a"]).dropLast
  have told : ((ofConfig noRoomConfig).after (before ++ [.turn true])).sent =
      .dispatched (.eventInserted "a") :: ((ofConfig noRoomConfig).after before).sent := by
    decide +kernel
  have lost : ((ofConfig noRoomConfig).after (before ++ [.turn true])).stores.events.ids.head? ≠
      some "a" := by
    decide +kernel
  have stored : ((ofConfig noRoomConfig).after (before ++ [.turn true])).stores.events.ids.head? =
      some "a" :=
    backed noRoom noRoomConfig before (.turn true) _ accepted told
  exact lost stored

end Session

end PipelineWatch
