import PipelineWatch.Proofs.Session.Close
import PipelineWatch.Proofs.Session.Feed
import PipelineWatch.Proofs.Session.Links

/-!
Which frames a session takes in. It reads one link after the other, each of them
from its first frame to its failure or end, and leaves no frame out and takes none
twice. `Delivery` is the invariant: every link that was read before the last one is
exhausted, and the links that are read or still to be met hold the rest of what
they were fed.
-/
namespace PipelineWatch.Session

/-! ### The links to come -/

/-- The link that an attempt meets. -/
def Attempt.link? : Attempt → Option Nat
  | .link n => some n
  | _ => none

/-- What the attempt meets that has been made and is not answered. -/
def Task.meets : Task → List Attempt
  | .attempting meets => [meets]
  | _ => []

/-- The links that attempts are still to meet, in their order. -/
def outstanding (s : Session) : List Nat :=
  (s.task.meets ++ s.plan).filterMap Attempt.link?

/-- Link `n` is there and holds what it was fed and what was not taken. -/
def Holds (s : Session) (os : List Operation) (n : Nat) : Prop :=
  ∃ link, s.links[n]? = some link ∧ Tracks n os (framesOf n s.taken) link

/-- Link `n` has failed or is at its end, and all before that was taken. -/
def Exhausted (s : Session) (os : List Operation) (n : Nat) : Prop :=
  framesOf n s.taken = feed n os ∧ stopped n os = true

/-- Link `n` is the last one connected. While the session is live it is being read;
what was taken so far is a beginning of what it was fed. -/
structure Current (s : Session) (os : List Operation) (n : Nat) : Prop where
  last : s.connected.getLast? = some n
  reading : s.phase = .live → s.task = .reading n
  taken : framesOf n s.taken <+: feed n os

/-- What was delivered of what was fed by the operations `os`. -/
structure Delivery (os : List Operation) (s : Session) : Prop where
  attended : s.Attended
  planned : planned os = s.links.length
  ordered : s.connected <+: List.range s.links.length
  lined : ¬ s.Over → s.connected ++ s.outstanding = List.range s.links.length
  grouped : s.taken = byLink s.connected s.taken
  ahead : ¬ s.Over → ∀ n ∈ s.outstanding, s.Holds os n
  behind : ∀ n ∈ s.connected, s.Exhausted os n ∨ s.Current os n
  reading : s.phase = .live → ∀ n, s.task = .reading n →
    s.connected.getLast? = some n ∧ s.Holds os n

/-- No link is connected twice. -/
theorem Delivery.distinct {os : List Operation} {s : Session} (h : Delivery os s) :
    s.connected.Nodup :=
  h.ordered.sublist.nodup List.nodup_range

theorem Delivery.lt_length {os : List Operation} {s : Session} (h : Delivery os s) {n : Nat}
    (hn : n ∈ s.connected) : n < s.links.length :=
  List.mem_range.mp (h.ordered.subset hn)

theorem Delivery.lt_length_of_outstanding {os : List Operation} {s : Session}
    (h : Delivery os s) (ho : ¬ s.Over) {n : Nat} (hn : n ∈ s.outstanding) :
    n < s.links.length := by
  rw [← List.mem_range, ← h.lined ho]
  exact List.mem_append_right _ hn

/-- No link that is still to be met was connected before. -/
theorem Delivery.apart {os : List Operation} {s : Session} (h : Delivery os s)
    (ho : ¬ s.Over) {n m : Nat} (hn : n ∈ s.connected) (hm : m ∈ s.outstanding) : n ≠ m := by
  have hd : (s.connected ++ s.outstanding).Nodup := by
    rw [h.lined ho]
    exact List.nodup_range
  exact (List.nodup_append.mp hd).2.2 n hn m hm

/-! ### Operations -/

theorem happen_seen (s : Session) (o : Operation) :
    (s.happen o).connected = s.connected ∧ (s.happen o).taken = s.taken := by
  rcases happen_journal s o with hj | ⟨u, -, hj⟩
  · exact ⟨by rw [connected, hj, connected], by rw [taken, hj, taken]⟩
  · have none : ∀ time, [(⟨time, .tell u⟩ : Entry)].filterMap Entry.connected? = [] ∧
        [(⟨time, .tell u⟩ : Entry)].filterMap Entry.frame? = [] := fun _ => ⟨rfl, rfl⟩
    exact ⟨connected_of_journal (e := [_]) hj (none _).1, taken_of_journal (e := [_]) hj (none _).2⟩

/-- A session that is live after an operation was so before, or is opened by it. -/
theorem happen_live {s : Session} {o : Operation} (h : (s.happen o).phase = .live) :
    (s.phase = .live ∧ (s.happen o).task = s.task) ∨
      (s.phase = .unopened ∧ (s.happen o).task = .starting) := by
  have alike : ∀ {t}, Alike s t → t.phase = .live → s.phase = .live ∧ t.task = s.task :=
    fun ha hl => ⟨ha.phase.symm.trans hl, ha.task⟩
  cases o with
  | start =>
    by_cases hu : s.phase = .unopened
    · exact .inr ⟨hu, by simp [happen, start, hu]⟩
    · have hs : s.happen .start = s := if_neg hu
      rw [hs] at h ⊢
      exact .inl ⟨h, rfl⟩
  | close =>
    have hc : s.phase.close = .live := h
    cases hp : s.phase <;> simp [hp, Phase.close] at hc
  | leave =>
    have hc : s.phase.leave = .live := h
    cases hp : s.phase <;> simp [hp, Phase.leave] at hc
  | clearEvents => exact .inl (alike (clear_alike ..) h)
  | clearApprovals => exact .inl (alike (clear_alike ..) h)
  | _ => exact .inl ⟨h, rfl⟩

theorem planned_concat (os : List Operation) (o : Operation) :
    planned (os ++ [o]) = planned os + if o = .planLink then 1 else 0 := by
  simp only [planned, List.count_append, List.count_singleton, beq_iff_eq]

theorem happen_outstanding {s : Session} (h : s.Attended) {o : Operation}
    (hp : o ≠ .planLink) :
    (s.happen o).outstanding = s.outstanding ∧ (s.happen o).links.length = s.links.length := by
  have alike : ∀ {t}, Alike s t → t.outstanding = s.outstanding ∧
      t.links.length = s.links.length := by
    intro t ha
    exact ⟨by rw [outstanding, ha.task, ha.plan, outstanding], by rw [ha.links]⟩
  cases o with
  | planLink => exact absurd rfl hp
  | planHang => exact ⟨by simp [happen, outstanding, Attempt.link?], rfl⟩
  | planFail => exact ⟨by simp [happen, outstanding, Attempt.link?], rfl⟩
  | start =>
    by_cases hu : s.phase = .unopened
    · have ht := (h.before hu).1
      simp [happen, start, hu, outstanding, Task.meets, ht]
    · have hs : s.happen .start = s := if_neg hu
      rw [hs]
      exact ⟨rfl, rfl⟩
  | clearEvents => exact alike (clear_alike ..)
  | clearApprovals => exact alike (clear_alike ..)
  | frames => exact ⟨rfl, List.length_modify ..⟩
  | failure => exact ⟨rfl, List.length_modify ..⟩
  | endLink => exact ⟨rfl, List.length_modify ..⟩
  | _ => exact ⟨rfl, rfl⟩

theorem outstanding_planLink (s : Session) :
    (s.happen .planLink).outstanding = s.outstanding ++ [s.links.length] := by
  simp [happen, outstanding, Attempt.link?]

theorem Holds.happen {s : Session} {os : List Operation} {n : Nat} (h : s.Holds os n)
    (hn : n < planned os) (o : Operation) : (s.happen o).Holds (os ++ [o]) n := by
  obtain ⟨link, found, tracks⟩ := h
  refine ⟨_, happen_links found o, ?_⟩
  rw [(happen_seen s o).2]
  exact tracks.touch hn o

theorem Exhausted.happen {s : Session} {os : List Operation} {n : Nat} (h : s.Exhausted os n)
    (hn : n < planned os) (o : Operation) : (s.happen o).Exhausted (os ++ [o]) n := by
  refine ⟨?_, ?_⟩
  · rw [(happen_seen s o).2, feed_concat hn, if_pos h.2, h.1]
  · rw [stopped_concat hn, h.2, Bool.true_or]

theorem Current.happen {s : Session} {os : List Operation} {n : Nat} (h : s.Current os n)
    (hd : s.Attended) (hn : n < planned os) (o : Operation) :
    (s.happen o).Current (os ++ [o]) n where
  last := by rw [(happen_seen s o).1, h.last]
  reading := by
    intro hl
    rcases happen_live hl with ⟨live, ht⟩ | ⟨hu, -⟩
    · rw [ht, h.reading live]
    · -- nothing is connected before the opening
      have hl := h.last
      simp [connected, (hd.before hu).2] at hl
  taken := by
    rw [(happen_seen s o).2]
    exact h.taken.trans (feed_prefix_concat hn o)

theorem Delivery.ahead_happen {os : List Operation} {s : Session} (h : Delivery os s)
    {o : Operation} (hno : ¬ (s.happen o).Over) {n : Nat} (hn : n ∈ s.outstanding) :
    (s.happen o).Holds (os ++ [o]) n := by
  have still : ¬ s.Over := fun ho => hno (happen_over ho o).1
  have hk := h.lt_length_of_outstanding still hn
  exact (h.ahead still n hn).happen (h.planned.symm ▸ hk) o

theorem Delivery.behind_happen {os : List Operation} {s : Session} (h : Delivery os s)
    (o : Operation) {n : Nat} (hn : n ∈ (s.happen o).connected) :
    (s.happen o).Exhausted (os ++ [o]) n ∨ (s.happen o).Current (os ++ [o]) n := by
  rw [(happen_seen s o).1] at hn
  have hk : n < Session.planned os := h.planned.symm ▸ h.lt_length hn
  exact (h.behind n hn).imp (·.happen hk o) (·.happen h.attended hk o)

theorem Delivery.reading_happen {os : List Operation} {s : Session} (h : Delivery os s)
    {o : Operation} (hl : (s.happen o).phase = .live) {n : Nat}
    (hn : (s.happen o).task = .reading n) :
    (s.happen o).connected.getLast? = some n ∧ (s.happen o).Holds (os ++ [o]) n := by
  rcases happen_live hl with ⟨live, htask⟩ | ⟨-, htask⟩
  · -- it was live before, and read the same link
    obtain ⟨last, holds⟩ := h.reading live n (htask ▸ hn)
    have hk : n < Session.planned os := h.planned.symm ▸ h.lt_length (List.mem_of_getLast? last)
    exact ⟨by rw [(happen_seen s o).1, last], holds.happen hk o⟩
  · rw [htask] at hn
    simp at hn

/-- A new link holds all that was taken from it, which is nothing. -/
theorem Delivery.holds_planLink {os : List Operation} {s : Session} (h : Delivery os s) :
    (s.happen .planLink).Holds (os ++ [.planLink]) s.links.length := by
  have hnew : s.links.length ∉ s.connected := fun hm => Nat.lt_irrefl _ (h.lt_length hm)
  refine ⟨{}, by simp [Session.happen], ?_⟩
  rw [(happen_seen s _).2, framesOf_eq_nil h.grouped hnew]
  exact Tracks.new (Nat.le_of_eq h.planned) _

theorem Delivery.happen {os : List Operation} {s : Session} (h : Delivery os s)
    (o : Operation) : Delivery (os ++ [o]) (s.happen o) := by
  obtain ⟨hc, ht⟩ := happen_seen s o
  have still : ¬ (s.happen o).Over → ¬ s.Over := fun hno ho => hno (happen_over ho o).1
  have grouped : (s.happen o).taken = byLink (s.happen o).connected (s.happen o).taken := by
    rw [ht, hc]
    exact h.grouped
  -- of all operations only the planning of a link changes what is still to be met
  by_cases hp : o = .planLink
  · subst hp
    have hout := outstanding_planLink s
    have hlen : (s.happen .planLink).links.length = s.links.length + 1 := by
      simp [Session.happen]
    refine ⟨h.attended.happen _, ?_, ?_, ?_, grouped, ?_, fun n => h.behind_happen _,
      fun hl n => h.reading_happen hl⟩
    · rw [planned_concat, if_pos rfl, hlen, h.planned]
    · rw [hc, hlen, List.range_succ]
      exact h.ordered.trans (List.prefix_append ..)
    · intro hno
      rw [hc, hout, ← List.append_assoc, h.lined (still hno), hlen, List.range_succ]
    · intro hno n hn
      rw [hout, List.mem_append, List.mem_singleton] at hn
      rcases hn with hn | rfl
      · exact h.ahead_happen hno hn
      · exact h.holds_planLink
  · obtain ⟨hout, hlen⟩ := happen_outstanding h.attended hp
    refine ⟨h.attended.happen o, ?_, ?_, ?_, grouped, ?_, fun n => h.behind_happen o,
      fun hl n => h.reading_happen hl⟩
    · rw [planned_concat, if_neg hp, hlen, h.planned]
      rfl
    · rw [hc, hlen]
      exact h.ordered
    · intro hno
      rw [hc, hout, hlen]
      exact h.lined (still hno)
    · intro hno n hn
      exact h.ahead_happen hno (hout ▸ hn)

/-! ### Turns -/

/-- A turn that takes in no frame and leaves the links alone keeps what is known of
each link. -/
theorem Holds.of_eq {s t : Session} {os : List Operation} {n : Nat} (h : s.Holds os n)
    (hl : t.links[n]? = s.links[n]?) (ht : framesOf n t.taken = framesOf n s.taken) :
    t.Holds os n := by
  obtain ⟨link, found, tracks⟩ := h
  exact ⟨link, hl.trans found, by rwa [ht]⟩

theorem Exhausted.of_eq {s t : Session} {os : List Operation} {n : Nat}
    (h : s.Exhausted os n) (ht : framesOf n t.taken = framesOf n s.taken) :
    t.Exhausted os n :=
  ⟨ht.trans h.1, h.2⟩

/-- A session that reads no link has exhausted all that were connected. -/
theorem Delivery.exhausted {os : List Operation} {s : Session} (h : Delivery os s)
    (live : s.phase = .live) (resting : ∀ n, s.task ≠ .reading n) {n : Nat}
    (hn : n ∈ s.connected) : s.Exhausted os n :=
  (h.behind n hn).resolve_right fun hc => resting n (hc.reading live)

/-- So it has with all but the one that it reads. -/
theorem Delivery.exhausted_of_ne {os : List Operation} {s : Session} (h : Delivery os s)
    (live : s.phase = .live) {n m : Nat} (reading : s.task = .reading n)
    (hm : m ∈ s.connected) (hne : m ≠ n) : s.Exhausted os m := by
  refine (h.behind m hm).resolve_right fun hc => hne ?_
  have he := hc.reading live
  rw [reading, Task.reading.injEq] at he
  exact he.symm

/-- A turn after which no link is read. It takes in no frame, connects no link and
leaves the links to come alone. -/
theorem Delivery.rest {os : List Operation} {s t : Session} (h : Delivery os s)
    (ha : Advance s t) (live : s.phase = .live) (length : t.links.length = s.links.length)
    (links : ∀ n ∈ s.outstanding, t.links[n]? = s.links[n]?) (taken : t.taken = s.taken)
    (connected : t.connected = s.connected) (outstanding : t.outstanding = s.outstanding)
    (resting : ∀ n, t.task ≠ .reading n)
    (exhausted : ∀ n ∈ s.connected, s.Exhausted os n) : Delivery os t where
  attended := h.attended.advance ha
  planned := by rw [length, h.planned]
  ordered := by rw [connected, length]; exact h.ordered
  lined := by
    intro _
    rw [connected, outstanding, length]
    exact h.lined (not_over_of_live live)
  grouped := by rw [taken, connected]; exact h.grouped
  ahead := by
    intro _ n hn
    rw [outstanding] at hn
    exact (h.ahead (not_over_of_live live) n hn).of_eq (links n hn) (by rw [taken])
  behind := by
    intro n hn
    rw [connected] at hn
    exact .inl ((exhausted n hn).of_eq (by rw [taken]))
  reading := fun _ n hn => absurd hn (resting n)

/-- A turn that begins to read a link. -/
theorem Delivery.connect {os : List Operation} {s t : Session} (h : Delivery os s)
    (ha : Advance s t) (live : s.phase = .live) {n : Nat}
    (met : s.task = .attempting (.link n)) (links : t.links = s.links)
    (taken : t.taken = s.taken) (connected : t.connected = s.connected ++ [n])
    (outstanding : s.outstanding = n :: t.outstanding) (task : t.task = .reading n) :
    Delivery os t := by
  have hlive := not_over_of_live live
  have lined : t.connected ++ t.outstanding = List.range t.links.length := by
    rw [links, ← h.lined hlive, connected, outstanding, List.append_assoc]
    rfl
  have fresh : n ∉ s.connected := fun hn =>
    h.apart hlive hn (by rw [outstanding]; exact List.mem_cons_self ..) rfl
  have last : t.connected.getLast? = some n := by simp [connected]
  have nothing : framesOf n t.taken = [] := by
    rw [taken]
    exact framesOf_eq_nil h.grouped fresh
  have holds : t.Holds os n :=
    (h.ahead hlive n (by rw [outstanding]; simp)).of_eq (by rw [links]) (by rw [taken])
  refine ⟨h.attended.advance ha, ?_, ?_, ?_, ?_, ?_, ?_, ?_⟩
  · rw [links, h.planned]
  · exact ⟨_, lined⟩
  · exact fun _ => lined
  · rw [taken, connected]
    exact byLink_connect h.grouped fresh
  · intro _ m hm
    exact (h.ahead hlive m (by rw [outstanding]; simp [hm])).of_eq (by rw [links]) (by rw [taken])
  · intro m hm
    rw [connected, List.mem_append, List.mem_singleton] at hm
    rcases hm with hm | rfl
    · have resting : ∀ n, s.task ≠ .reading n := fun n => by simp [met]
      exact .inl ((h.exhausted live resting hm).of_eq (by rw [taken]))
    · exact .inr ⟨last, fun _ => task, by simp [nothing]⟩
  · intro _ m hm
    rw [task, Task.reading.injEq] at hm
    exact hm ▸ ⟨last, holds⟩

/-- A turn that takes in a frame. -/
theorem Delivery.deliver {os : List Operation} {s t : Session} (h : Delivery os s)
    (ha : Advance s t) (live : s.phase = .live) {n : Nat} {link : Link} {bytes : List UInt8}
    {waiting : List Arrival} (reading : s.task = .reading n)
    (found : s.links[n]? = some link) (first : link.waiting = .frame bytes :: waiting)
    (links : t.links = s.links.modify n fun link => { link with waiting })
    (taken : t.taken = s.taken ++ [(n, bytes)]) (connected : t.connected = s.connected)
    (outstanding : t.outstanding = s.outstanding) (task : t.task = s.task) :
    Delivery os t := by
  obtain ⟨last, link', found', tracks⟩ := h.reading live n reading
  obtain rfl : link = link' := Option.some.inj (found.symm.trans found')
  have hmem : n ∈ s.connected := List.mem_of_getLast? last
  have hlive := not_over_of_live live
  -- the frame goes to the link that is read, and no other link sees anything of it
  have others : ∀ m, m ≠ n → framesOf m t.taken = framesOf m s.taken := by
    intro m hm
    rw [taken, framesOf_concat, if_neg (Ne.symm hm), List.append_nil]
  have got : framesOf n t.taken = framesOf n s.taken ++ [bytes] := by
    rw [taken, framesOf_concat, if_pos rfl]
  have tracks' : Tracks n os (framesOf n t.taken) { link with waiting } := by
    rw [got]
    exact tracks.take first
  have last' : t.connected.getLast? = some n := by rw [connected, last]
  have length : t.links.length = s.links.length := by rw [links, List.length_modify]
  refine ⟨h.attended.advance ha, ?_, ?_, ?_, ?_, ?_, ?_, ?_⟩
  · rw [length, h.planned]
  · rw [connected, length]
    exact h.ordered
  · intro _
    rw [connected, outstanding, length]
    exact h.lined hlive
  · rw [taken, connected]
    exact byLink_deliver h.grouped h.distinct last bytes
  · intro _ m hm
    rw [outstanding] at hm
    have hne : m ≠ n := (h.apart hlive hmem hm).symm
    have hlink : t.links[m]? = s.links[m]? := by
      rw [links, modify_getElem?]
      simp [Ne.symm hne]
    exact (h.ahead hlive m hm).of_eq hlink (others m hne)
  · intro m hm
    rw [connected] at hm
    by_cases hne : m = n
    · subst hne
      refine .inr ⟨last', fun _ => by rw [task, reading], ?_⟩
      rw [tracks'.fed]
      exact List.prefix_append ..
    · exact .inl ((h.exhausted_of_ne live reading hm hne).of_eq (others m hne))
  · intro _ m hm
    rw [task, reading, Task.reading.injEq] at hm
    subst hm
    refine ⟨last', _, ?_, tracks'⟩
    rw [links, modify_getElem?, found]
    simp

/-- The turn that ends the task of a session that is over. -/
theorem Delivery.finish {os : List Operation} {s t : Session} (h : Delivery os s)
    (ha : Advance s t) (dead : s.phase ≠ .live) (length : t.links.length = s.links.length)
    (journal : t.journal = s.journal) : Delivery os t := by
  have taken : t.taken = s.taken := by rw [Session.taken, journal, Session.taken]
  have connected : t.connected = s.connected := by
    rw [Session.connected, journal, Session.connected]
  have ended : t.Over := by
    have hp := h.attended.opened ha
    rw [Over, ha.phase]
    cases hs : s.phase <;> simp_all
  refine ⟨h.attended.advance ha, ?_, ?_, ?_, ?_, fun ho => absurd ended ho, ?_, ?_⟩
  · rw [length, h.planned]
  · rw [connected, length]
    exact h.ordered
  · exact fun ho => absurd ended ho
  · rw [taken, connected]
    exact h.grouped
  · intro n hn
    rw [connected] at hn
    rcases h.behind n hn with he | hcur
    · exact .inl (he.of_eq (by rw [taken]))
    · exact .inr ⟨by rw [connected, hcur.last], fun hl => absurd (ha.phase ▸ hl) dead,
        by rw [taken]; exact hcur.taken⟩
  · intro hl
    exact absurd (ha.phase ▸ hl) dead

theorem Delivery.advance {os : List Operation} {s t : Session} (ha : Advance s t)
    (h : Delivery os s) : Delivery os t := by
  cases ha with
  | attempt live awake =>
    obtain ⟨hf, hc⟩ := herald_quiet s .connecting
    have resting : ∀ n, s.task ≠ .reading n := by
      intro n hn
      rcases awake with h | ⟨due, h, -⟩ <;> simp [h] at hn
    have meets : s.task.meets = [] := by
      rcases awake with h | ⟨due, h, -⟩ <;> simp [h, Task.meets]
    refine h.rest (.attempt live awake) live rfl (fun _ _ => rfl) ?_ ?_ ?_ (by simp)
      fun n hn => h.exhausted live resting hn
    · exact taken_of_journal (e := ⟨s.clock, .attempt⟩ :: s.herald .connecting) rfl hf
    · exact connected_of_journal (e := ⟨s.clock, .attempt⟩ :: s.herald .connecting) rfl hc
    · rw [outstanding, outstanding, meets]
      cases s.plan <;> rfl
  | refused live met =>
    obtain ⟨hf, hc⟩ := herald_quiet s .disconnected
    have resting : ∀ n, s.task ≠ .reading n := fun n => by simp [met]
    refine h.rest (.refused live met) live rfl (fun _ _ => rfl) (taken_of_journal rfl hf)
      (connected_of_journal rfl hc) ?_ (by simp) fun n hn => h.exhausted live resting hn
    rw [outstanding, outstanding, met]
    rfl
  | connected n live met =>
    obtain ⟨hf, hc⟩ := herald_quiet s .connected
    refine h.connect (.connected n live met) live met rfl ?_ ?_ ?_ rfl
    · exact taken_of_journal (e := ⟨s.clock, .connect n⟩ :: s.herald .connected) rfl hf
    · simp [connected, hc, Entry.connected?]
    · rw [outstanding, outstanding, met]
      rfl
  | frame n link bytes waiting live reading found first =>
    have hf : (s.reception n bytes).filterMap Entry.frame? = [(n, bytes)] :=
      filterMap_reception _ (fun _ _ => rfl) s n bytes
    have hc : (s.reception n bytes).filterMap Entry.connected? = [] :=
      filterMap_reception _ (fun _ _ => rfl) s n bytes
    refine h.deliver (.frame n link bytes waiting live reading found first) live reading found
      first rfl ?_ (connected_of_journal rfl hc) rfl rfl
    simp [taken, hf]
  | lost n link live reading found spent =>
    obtain ⟨hf, hc⟩ := herald_quiet s .disconnected
    obtain ⟨last, link', found', tracks⟩ := h.reading live n reading
    obtain rfl : link = link' := Option.some.inj (found.symm.trans found')
    refine h.rest (.lost n link live reading found spent) live (List.length_modify ..) ?_
      (taken_of_journal rfl hf) (connected_of_journal rfl hc) ?_ (by simp) ?_
    · intro m hm
      have hne : n ≠ m :=
        h.apart (not_over_of_live live) (List.mem_of_getLast? last) hm
      show (s.links.modify n _)[m]? = _
      rw [modify_getElem?]
      simp [hne]
    · rw [outstanding, outstanding, reading]
      rfl
    · intro m hm
      by_cases hne : m = n
      · subst hne
        exact tracks.exhausted spent
      · exact h.exhausted_of_ne live reading hm hne
  | ended links dead busy same =>
    exact h.finish (.ended links dead busy same) dead same rfl

/-- What was delivered, after every schedule. -/
theorem after_delivery (c : Config) (schedule : List Moment) :
    Delivery (operations schedule) ((ofConfig c).after schedule) := by
  refine after_rule ?_ (fun _ _ o h => h.happen o) (fun _ _ _ ha h => h.advance ha) schedule
  exact {
    attended := ⟨fun _ => ⟨rfl, rfl⟩, fun h => absurd rfl h⟩
    planned := rfl
    ordered := List.nil_prefix
    lined := fun _ => rfl
    grouped := rfl
    ahead := by simp [outstanding, ofConfig, idle, Task.meets]
    behind := by simp [connected, ofConfig, idle]
    reading := fun h => by simp [ofConfig, idle] at h }

end PipelineWatch.Session
