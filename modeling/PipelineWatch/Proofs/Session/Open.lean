import PipelineWatch.Proofs.Session.Delivery
import PipelineWatch.Proofs.Session.Run

/-!
Which links are open. A link is open from its connection until the session lets go of
it. A live session lets go of each link before it turns to another one, so that the
link that it reads is open and no other.
-/
namespace PipelineWatch.Session

/-- Link `n` was connected and has not been let go. -/
def IsOpen (s : Session) (n : Nat) : Prop :=
  n ∈ s.connected ∧ ∃ link, s.links[n]? = some link ∧ link.released = false

/-- Link `n` was let go. -/
def LetGo (s : Session) (n : Nat) : Prop :=
  ∃ link, s.links[n]? = some link ∧ link.released = true

/-- While it is live, the session holds no link but the one that it reads. -/
def HoldsOne (s : Session) : Prop :=
  s.phase = .live → ∀ n ∈ s.connected, s.task = .reading n ∨ s.LetGo n

/-! ### Operations -/

theorem touch_released (n : Nat) (o : Operation) (link : Link) :
    (o.touch n link).released = link.released := by
  have receive : ∀ arrivals, (link.receive arrivals).released = link.released := by
    intro arrivals
    unfold Link.receive
    split <;> rfl
  cases o with
  | frames m batch =>
    show (if m = n then link.receive (batch.map .frame) else link).released = _
    split
    · exact receive _
    · rfl
  | failure m =>
    show (if m = n then link.receive [.failure] else link).released = _
    split
    · exact receive _
    · rfl
  | endLink m =>
    show (if m = n then { link with ended := true } else link).released = _
    split <;> rfl
  | _ => rfl

theorem LetGo.happen {s : Session} {n : Nat} (h : s.LetGo n) (o : Operation) :
    (s.happen o).LetGo n := by
  obtain ⟨link, found, released⟩ := h
  exact ⟨_, happen_links found o, (touch_released n o link).trans released⟩

theorem HoldsOne.happen {s : Session} (h : s.HoldsOne) (attended : s.Attended)
    (o : Operation) : (s.happen o).HoldsOne := by
  intro live n hn
  rw [(happen_seen s o).1] at hn
  rcases happen_live live with ⟨was, task⟩ | ⟨unopened, -⟩
  · rw [task]
    exact (h was n hn).imp_right (·.happen o)
  · -- nothing is connected before the opening
    simp [connected, (attended.before unopened).2] at hn

/-! ### Turns -/

theorem LetGo.modify {s t : Session} {n m : Nat} {f : Link → Link} (h : s.LetGo n)
    (links : t.links = s.links.modify m f)
    (keep : ∀ link, link.released = true → (f link).released = true) : t.LetGo n := by
  obtain ⟨link, found, released⟩ := h
  refine ⟨if m = n then f link else link, ?_, ?_⟩
  · rw [links, modify_getElem?, found]
    rfl
  · split
    · exact keep link released
    · exact released

theorem connected_of_connect {s t : Session} {e : List Entry} {time : Nat} (n : Nat)
    (hj : t.journal = ⟨time, .connect n⟩ :: (e ++ s.journal))
    (hc : e.filterMap Entry.connected? = []) : t.connected = s.connected ++ [n] := by
  simp [connected, hj, hc, Entry.connected?]

theorem HoldsOne.advance {s t : Session} (ha : Advance s t) (h : s.HoldsOne) :
    t.HoldsOne := by
  cases ha with
  | attempt live awake =>
    intro _ n hn
    rw [connected_of_journal (e := ⟨s.clock, .attempt⟩ :: s.herald .connecting) rfl
      (herald_quiet s _).2] at hn
    refine .inr ((h live n hn).resolve_left fun hr => ?_)
    rcases awake with hs | ⟨due, hp, -⟩
    · simp [hs] at hr
    · simp [hp] at hr
  | refused live met =>
    intro _ n hn
    rw [connected_of_journal rfl (herald_quiet s _).2] at hn
    exact .inr ((h live n hn).resolve_left (by simp [met]))
  | connected m live met =>
    intro _ n hn
    have hc := (herald_quiet s .connected).2
    rw [connected_of_connect m rfl hc, List.mem_append, List.mem_singleton] at hn
    rcases hn with hn | rfl
    · exact .inr ((h live n hn).resolve_left (by simp [met]))
    · exact .inl rfl
  | frame m link bytes waiting live reading =>
    intro _ n hn
    rw [connected_of_journal rfl (filterMap_reception _ (fun _ _ => rfl) s m bytes)] at hn
    exact (h live n hn).imp_right (·.modify rfl fun _ hr => hr)
  | lost m link live reading found =>
    intro _ n hn
    rw [connected_of_journal rfl (herald_quiet s _).2] at hn
    rcases h live n hn with hr | hr
    · -- the link that was read is the one that is let go
      obtain rfl : m = n := Task.reading.inj (reading.symm.trans hr)
      refine .inr ⟨{ link with released := true, waiting := [] }, ?_, rfl⟩
      simp [found]
    · exact .inr (hr.modify rfl fun _ _ => rfl)
  | ended links dead => exact fun live => absurd live dead

theorem after_holdsOne (c : Config) (schedule : List Moment) :
    ((ofConfig c).after schedule).HoldsOne := by
  have start : (ofConfig c).Attended ∧ (ofConfig c).HoldsOne :=
    ⟨after_attended c [], fun live => by simp [ofConfig, idle] at live⟩
  exact (after_invariant (P := fun s => s.Attended ∧ s.HoldsOne) start
    (fun _ o h => ⟨h.1.happen o, h.2.happen h.1 o⟩)
    (fun _ _ ha h => ⟨h.1.advance ha, h.2.advance ha⟩) schedule).2

/-! ### The open link -/

/-- A live session has one link open while it reads it, and none at other times. -/
theorem isOpen_iff_reading {c : Config} {s : Session} (h : Reachable c s)
    (live : s.phase = .live) {n : Nat} : s.IsOpen n ↔ s.task = .reading n := by
  obtain ⟨schedule, rfl⟩ := h
  constructor
  · rintro ⟨hn, link, found, held⟩
    refine (after_holdsOne c schedule live n hn).resolve_right ?_
    rintro ⟨link', found', released⟩
    obtain rfl : link = link' := Option.some.inj (found.symm.trans found')
    exact Bool.false_ne_true (held.symm.trans released)
  · intro hr
    obtain ⟨last, link, found, tracks⟩ := (after_delivery c schedule).reading live n hr
    exact ⟨List.mem_of_getLast? last, link, found, tracks.held⟩

theorem reachable_run (c : Config) (os : List Operation) :
    Reachable c ((ofConfig c).run os) := by
  obtain ⟨schedule, hrun, -⟩ := plays_run (ofConfig c) os
  exact ⟨schedule, hrun.symm⟩

end PipelineWatch.Session
