import PipelineWatch.Proofs.Session.Open

/-!
Which links a session closes. A link is closed by the last turn of the task, and only if
the session has ended while the task had it in hand. A link that has failed, or that the
remote side has ended, is let go without a word, and the session never comes back to it.
-/
namespace PipelineWatch.Session

/-- How often link `n` was closed from this side. -/
def closes (s : Session) (n : Nat) : Nat :=
  s.links[n]?.elim 0 Link.closes

theorem closes_of_links {s t : Session} (links : t.links = s.links) (n : Nat) :
    t.closes n = s.closes n := by
  rw [closes, links, closes]

theorem closes_of_modify {s t : Session} {m : Nat} {f : Link → Link}
    (links : t.links = s.links.modify m f) (keep : ∀ link, (f link).closes = link.closes)
    (n : Nat) : t.closes n = s.closes n := by
  rw [closes, links, modify_getElem?, closes]
  cases s.links[n]? with
  | none => rfl
  | some link =>
    show (if m = n then f link else link).closes = link.closes
    split
    · exact keep link
    · rfl

/-! ### What closes no link -/

theorem receive_closes (arrivals : List Arrival) (link : Link) :
    (link.receive arrivals).closes = link.closes := by
  unfold Link.receive
  split <;> rfl

/-- No operation closes a link at once, and a new link was not closed. -/
theorem happen_closes (s : Session) (o : Operation) (n : Nat) :
    (s.happen o).closes n = s.closes n := by
  cases o with
  | planLink =>
    show (s.links ++ [({} : Link)])[n]?.elim 0 Link.closes = s.links[n]?.elim 0 Link.closes
    rw [List.getElem?_append]
    split
    · rfl
    · rename_i beyond
      rw [List.getElem?_eq_none (Nat.le_of_not_lt beyond)]
      cases n - s.links.length <;> rfl
  | frames m batch => exact closes_of_modify rfl (receive_closes _) n
  | failure m => exact closes_of_modify rfl (receive_closes _) n
  | endLink m => exact closes_of_modify rfl (by exact fun _ => rfl) n
  | start =>
    show s.start.closes n = s.closes n
    unfold start
    split <;> rfl
  | clearEvents => exact closes_of_links (clear_alike ..).links n
  | clearApprovals => exact closes_of_links (clear_alike ..).links n
  | _ => rfl

theorem Advance.closes {s t : Session} (ha : Advance s t) (live : s.phase = .live) (n : Nat) :
    t.closes n = s.closes n := by
  cases ha with
  | frame => exact closes_of_modify rfl (by exact fun _ => rfl) n
  | lost => exact closes_of_modify rfl (by exact fun _ => rfl) n
  | ended _ dead => exact absurd live dead
  | _ => rfl

/-! ### The last turn -/

/-- The next thing to be read of the link is its failure or its end. -/
def Link.spent (link : Link) : Bool :=
  link.waiting.head? == some .failure || (link.waiting.isEmpty && link.ended)

/-- The link that the last turn of the task closes. If the task looks at the end of the
session first, that is the link that it reads. Otherwise it lets go of a link that is
spent, and closes one that an attempt has just met. -/
def inHand (s : Session) (heeds : Bool) : Option Nat :=
  match s.task with
  | .reading n =>
    match s.links[n]? with
    | some link => if heeds || !link.spent then some n else none
    | none => none
  | .attempting (.link n) => if heeds || s.links.length ≤ n then none else some n
  | _ => none

/-- A link is in hand while it is read, and when an attempt has met it. -/
theorem task_of_inHand {s : Session} {heeds : Bool} {n : Nat} (h : s.inHand heeds = some n) :
    s.task = .reading n ∨ s.task = .attempting (.link n) := by
  unfold inHand at h
  split at h
  · rename_i m ht
    cases hl : s.links[m]? <;> simp_all
  · simp_all
  · exact absurd h (by simp)

theorem inHand_unfinished {s : Session} {heeds : Bool} {n : Nat}
    (h : s.inHand heeds = some n) : s.task ≠ .finished := by
  rcases task_of_inHand h with ht | ht <;> simp [ht]

/-- From `s` to `t` this link was closed once, if there is one, and no other link. -/
def Closes (hand : Option Nat) (s t : Session) : Prop :=
  ∀ n, t.closes n = s.closes n + if hand = some n then 1 else 0

theorem Closes.nothing {s t : Session} (same : ∀ n, t.closes n = s.closes n) :
    Closes none s t := fun n => by
  rw [same n, if_neg (by simp), Nat.add_zero]

theorem Closes.finish (s : Session) : Closes none s s.finish :=
  .nothing fun _ => rfl

theorem Closes.hangUp {s : Session} {n : Nat} {link : Link} (found : s.links[n]? = some link) :
    Closes (some n) s (s.hangUp n) := by
  intro m
  show (s.links.modify n _)[m]?.elim 0 Link.closes = s.links[m]?.elim 0 Link.closes + _
  rw [modify_getElem?]
  by_cases same : n = m
  · subst same
    simp [found]
  · rw [if_neg (by simpa using same)]
    simp [same]

/-- There is no link to be closed. -/
theorem Closes.hangUp_none {s : Session} {n : Nat} (missing : s.links[n]? = none) :
    Closes none s (s.hangUp n) := by
  refine .nothing fun m => ?_
  show (s.links.modify n _)[m]?.elim 0 Link.closes = s.links[m]?.elim 0 Link.closes
  rw [modify_getElem?]
  by_cases same : n = m
  · subst same
    simp [missing]
  · simp [same]

/-- Only what is counted of the links before matters. -/
theorem Closes.of_eq {hand : Option Nat} {s u t : Session} (h : Closes hand u t)
    (same : ∀ n, u.closes n = s.closes n) : Closes hand s t := fun n => by
  rw [h n, same n]

theorem quit_closes {s t : Session} (h : s.quit = some t) : Closes (s.inHand true) s t := by
  unfold quit at h
  cases ht : s.task with
  | absent => simp [ht] at h
  | finished => simp [ht] at h
  | reading n =>
    obtain rfl : s.hangUp n = t := by simpa [ht] using h
    cases found : s.links[n]? with
    | none => simpa [inHand, ht, found] using Closes.hangUp_none found
    | some link => simpa [inHand, ht, found] using Closes.hangUp found
  | attempting meets =>
    obtain rfl : s.finish = t := by simpa [ht] using h
    cases meets <;> simpa [inHand, ht] using Closes.finish s
  | _ =>
    obtain rfl : s.finish = t := by simpa [ht] using h
    simpa [inHand, ht] using Closes.finish s

/-- A pause that is begun too late ends the task. -/
theorem pause_closes {s t : Session} (dead : t.phase ≠ .live)
    (same : ∀ n, t.closes n = s.closes n) : Closes none s t.pause := by
  have idle : t.pause = t.finish := by rw [pause, whileLive_of_not_live dead]
  rw [idle]
  exact .nothing same

theorem answer_closes {s t : Session} (dead : s.phase ≠ .live) {meets : Attempt}
    (met : s.task = .attempting meets) (h : s.answer meets = some t) :
    Closes (s.inHand false) s t := by
  cases meets with
  | hang => simp [answer] at h
  | fail =>
    obtain rfl : s.pause = t := by simpa [answer] using h
    simpa [inHand, met] using pause_closes dead fun _ => rfl
  | link n =>
    have late : s.connect n = s.hangUp n := by rw [connect, whileLive_of_not_live dead]
    obtain rfl : s.hangUp n = t := by simpa [answer, late] using h
    cases found : s.links[n]? with
    | none =>
      have beyond := List.getElem?_eq_none_iff.mp found
      simpa [inHand, met, beyond] using Closes.hangUp_none found
    | some link =>
      have there := Nat.not_le.mpr (List.getElem?_eq_some_iff.mp found).1
      simpa [inHand, met, there] using Closes.hangUp found

theorem release_closes (s : Session) (n m : Nat) : (s.release n).closes m = s.closes m :=
  closes_of_modify rfl (by exact fun _ => rfl) m

theorem read_closes {s t : Session} (dead : s.phase ≠ .live) {n : Nat}
    (reading : s.task = .reading n) (h : s.read n = some t) : Closes (s.inHand false) s t := by
  unfold read at h
  cases found : s.links[n]? with
  | none => simp [found] at h
  | some link =>
    have hand : s.inHand false = if link.spent then none else some n := by
      cases hs : link.spent <;> simp [inHand, reading, found, hs]
    rw [hand]
    have lost : link.spent = true → (s.release n).pause = t →
        Closes (if link.spent then none else some n) s t := by
      rintro spent rfl
      rw [if_pos spent]
      exact pause_closes dead (release_closes s n)
    simp only [found] at h
    cases hw : link.waiting with
    | nil =>
      by_cases he : link.ended = true
      · exact lost (by simp [Link.spent, hw, he]) (by simpa [hw, he] using h)
      · simp [hw, he] at h
    | cons first waiting =>
      cases first with
      | failure => exact lost (by simp [Link.spent, hw]) (by simpa [hw] using h)
      | frame bytes =>
        -- the frame is taken off the link that is closed
        simp only [hw, Option.some.injEq] at h
        rw [whileLive_of_not_live (by exact dead), Option.getD_none] at h
        subst h
        rw [if_neg (by simp [Link.spent, hw])]
        have found' : (s.modifyLink n fun link => { link with waiting }).links[n]? =
            some { link with waiting } := by simp [modifyLink, found]
        refine (Closes.hangUp found').of_eq ?_
        exact closes_of_modify rfl (by exact fun _ => rfl)

theorem proceed_closes {s t : Session} (dead : s.phase ≠ .live) (h : s.proceed = some t) :
    Closes (s.inHand false) s t := by
  have idle : s.attempt = s.finish := by rw [attempt, whileLive_of_not_live dead]
  unfold proceed at h
  cases ht : s.task with
  | absent => simp [ht] at h
  | finished => simp [ht] at h
  | starting =>
    obtain rfl : s.finish = t := by simpa [ht, idle] using h
    simpa [inHand, ht] using Closes.finish s
  | attempting meets => exact answer_closes dead ht (by simpa [ht] using h)
  | reading n => exact read_closes dead ht (by simpa [ht] using h)
  | pausing due =>
    obtain ⟨-, rfl⟩ : due ≤ s.clock ∧ s.finish = t := by simpa [ht, idle] using h
    simpa [inHand, ht] using Closes.finish s

/-- Where there is nothing to go on with, the task looks at the end of the session first. -/
theorem inHand_of_proceed {s : Session} (h : s.proceed = none) :
    s.inHand false = s.inHand true := by
  unfold proceed at h
  cases ht : s.task with
  | attempting meets => cases meets <;> simp_all [answer, inHand]
  | reading n =>
    have empty := read_eq_none_iff.mp (by simpa [ht] using h)
    cases found : s.links[n]? with
    | none => simp [inHand, ht, found]
    | some link =>
      obtain ⟨hw, he⟩ := empty link found
      simp [inHand, ht, found, Link.spent, hw, he]
  | _ => simp [inHand, ht]

/-- The turn that ends the task of a session which is not live closes the link in hand. -/
theorem turn_closes {s t : Session} {heeds : Bool} (dead : s.phase ≠ .live)
    (h : s.turn heeds = some t) : Closes (s.inHand heeds) s t := by
  rw [turn_of_not_live dead] at h
  cases heeds with
  | true => exact quit_closes h
  | false =>
    rcases Option.or_eq_some_iff.mp h with hp | ⟨hp, hq⟩
    · exact proceed_closes dead hp
    · rw [inHand_of_proceed hp]
      exact quit_closes hq

/-! ### Schedules -/

/-- A moment closes no link, or it is the last turn of a session that is not live. -/
theorem next_closes (s : Session) (m : Moment) (n : Nat) :
    (s.next m).closes n = s.closes n ∨
      ∃ heeds, m = .turn heeds ∧ s.phase ≠ .live ∧ s.inHand heeds = some n ∧
        (s.next m).closes n = s.closes n + 1 := by
  cases m with
  | operation o => exact .inl (happen_closes s o n)
  | turn heeds =>
    cases ht : s.turn heeds with
    | none => exact .inl (by rw [next, ht]; rfl)
    | some t =>
      have hnext : s.next (.turn heeds) = t := by simp [next, ht]
      rw [hnext]
      by_cases live : s.phase = .live
      · exact .inl ((turn_advances ht).closes live n)
      · by_cases hand : s.inHand heeds = some n
        · exact .inr ⟨heeds, rfl, live, hand, by rw [turn_closes live ht n, if_pos hand]⟩
        · exact .inl (by rw [turn_closes live ht n, if_neg hand, Nat.add_zero])

/-- Link `n` was not closed, or it was closed once and the task has ended. -/
def ClosedOnce (s : Session) (n : Nat) : Prop :=
  s.closes n = 0 ∨ s.closes n = 1 ∧ s.Over ∧ s.task = .finished

theorem next_finished {s : Session} (h : s.Over) (ht : s.task = .finished) (m : Moment) :
    (s.next m).Over ∧ (s.next m).task = .finished :=
  ⟨(next_over h m).1, after_finished h ht [m]⟩

theorem over_of_inHand {s : Session} (attended : s.Attended) (dead : s.phase ≠ .live)
    {heeds : Bool} {n : Nat} (hand : s.inHand heeds = some n) : s.Over := by
  have opened : s.phase ≠ .unopened := fun hu => by
    simp [inHand, (attended.before hu).1] at hand
  rw [Over]
  cases hp : s.phase <;> simp_all

theorem ClosedOnce.next {s : Session} {n : Nat} (h : s.ClosedOnce n) (attended : s.Attended)
    (m : Moment) : (s.next m).ClosedOnce n := by
  rcases next_closes s m n with same | ⟨heeds, rfl, dead, hand, once⟩
  · rw [ClosedOnce, same]
    exact h.imp_right fun ⟨one, hover, ended⟩ => ⟨one, next_finished hover ended m⟩
  · -- a link in hand was not closed, since the task has not ended
    have unclosed : s.closes n = 0 :=
      h.resolve_right fun ⟨_, _, ended⟩ => inHand_unfinished hand ended
    have hover := over_of_inHand attended dead hand
    refine .inr ⟨by rw [once, unclosed], (next_over hover _).1, ?_⟩
    exact next_turn_finished hover attended heeds

theorem Attended.next {s : Session} (h : s.Attended) (m : Moment) : (s.next m).Attended :=
  h.after [m]

/-- Link `n` is there, the session does not read it, and no attempt is to meet it. -/
structure Behind (s : Session) (n : Nat) : Prop where
  there : n < s.links.length
  unread : s.task ≠ .reading n
  unmet : n ∉ s.outstanding

theorem Behind.inHand {s : Session} {n : Nat} (h : s.Behind n) (heeds : Bool) :
    s.inHand heeds ≠ some n := by
  intro hand
  rcases task_of_inHand hand with ht | ht
  · exact h.unread ht
  · exact h.unmet (by simp [outstanding, ht, Task.meets, Attempt.link?])

theorem happen_unread {s : Session} {n : Nat} (h : s.task ≠ .reading n) (o : Operation) :
    (s.happen o).task ≠ .reading n := by
  cases o with
  | start =>
    show s.start.task ≠ _
    unfold start
    split
    · simp
    · exact h
  | clearEvents => exact (clear_alike s _ _).task ▸ h
  | clearApprovals => exact (clear_alike s _ _).task ▸ h
  | _ => exact h

theorem Behind.happen {s : Session} {n : Nat} (h : s.Behind n) (attended : s.Attended)
    (o : Operation) : (s.happen o).Behind n := by
  refine ⟨?_, happen_unread h.unread o, ?_⟩
  · have found := List.getElem?_eq_getElem h.there
    exact (List.getElem?_eq_some_iff.mp (happen_links found o)).1
  · by_cases hp : o = .planLink
    · subst hp
      rw [outstanding_planLink, List.mem_append, List.mem_singleton]
      exact fun hn => hn.elim h.unmet (Nat.ne_of_lt h.there)
    · rw [(happen_outstanding attended hp).1]
      exact h.unmet

/-- The links still to be met are met from the first one on. -/
theorem Advance.outstanding {s t : Session} (ha : Advance s t) :
    t.outstanding <:+ s.outstanding := by
  have kept : ∀ {u : Session}, u.plan = s.plan → u.task.meets = [] →
      u.outstanding <:+ s.outstanding := by
    intro u plan meets
    rw [Session.outstanding, Session.outstanding, plan, meets, List.nil_append,
      List.filterMap_append]
    exact List.suffix_append ..
  cases ha with
  | attempt live awake =>
    have meets : s.task.meets = [] := by
      rcases awake with h | ⟨due, h, -⟩ <;> simp [h, Task.meets]
    rw [Session.outstanding, Session.outstanding, meets]
    cases s.plan <;> exact List.suffix_rfl
  | frame n link bytes waiting live reading => exact kept rfl (by simp [reading, Task.meets])
  | _ => exact kept rfl rfl

theorem Behind.advance {s t : Session} (ha : Advance s t) {n : Nat} (h : s.Behind n) :
    t.Behind n := by
  refine ⟨?_, ?_, fun hn => h.unmet (ha.outstanding.subset hn)⟩
  · cases ha with
    | ended links dead busy same => exact same.symm ▸ h.there
    | frame => exact (List.length_modify ..).symm ▸ h.there
    | lost => exact (List.length_modify ..).symm ▸ h.there
    | _ => exact h.there
  · cases ha with
    | connected m live met =>
      rintro ⟨⟩
      exact h.unmet (by simp [Session.outstanding, met, Task.meets, Attempt.link?])
    | frame m link bytes waiting live reading => exact h.unread
    | _ => simp

end PipelineWatch.Session
