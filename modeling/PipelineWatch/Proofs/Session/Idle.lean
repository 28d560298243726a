import PipelineWatch.Proofs.Session.Turn

/-!
Idle sessions, and runs as schedules. The turns that are left before a session is
idle are bounded by what waits on its links, so that a run lets the task make all
of them: after each operation of a run the session is idle.
-/
namespace PipelineWatch.Session

/-- The task has no turn to make. -/
def IsIdle (s : Session) : Prop :=
  s.turn true = none

/-- What an idle session waits for. -/
inductive Waits (s : Session) : Prop where
  | unopened (task : s.task = .absent)
  | finished (task : s.task = .finished)
  /-- For an answer that never comes. -/
  | hanging (live : s.phase = .live) (task : s.task = .attempting .hang)
  /-- For something to arrive on its link. -/
  | reading (n : Nat) (live : s.phase = .live) (task : s.task = .reading n)
      (empty : ∀ link, s.links[n]? = some link → link.waiting = [] ∧ link.ended = false)
  /-- For the time of the next attempt. -/
  | pausing (due : Nat) (live : s.phase = .live) (task : s.task = .pausing due)
      (early : s.clock < due)

theorem read_eq_none_iff {s : Session} {n : Nat} :
    s.read n = none ↔
      ∀ link, s.links[n]? = some link → link.waiting = [] ∧ link.ended = false := by
  unfold read
  cases hl : s.links[n]? with
  | none => simp
  | some link =>
    cases hw : link.waiting with
    | nil => simp [hw]
    | cons first waiting => cases first <;> simp [hw]

theorem isIdle_iff {s : Session} : s.IsIdle ↔ s.Waits := by
  by_cases live : s.phase = .live
  · rw [IsIdle, turn_of_live live, proceed]
    constructor
    · intro h
      cases ht : s.task with
      | absent => exact .unopened ht
      | finished => exact .finished ht
      | starting => simp [ht] at h
      | attempting meets => cases meets <;> simp [ht, answer] at h ⊢; exact .hanging live ht
      | reading n => exact .reading n live ht (read_eq_none_iff.mp (by simpa [ht] using h))
      | pausing due => exact .pausing due live ht (by simpa [ht] using h)
    · intro h
      cases h with
      | unopened ht => simp [ht]
      | finished ht => simp [ht]
      | hanging _ ht => simp [ht, answer]
      | reading n _ ht empty => simpa [ht] using read_eq_none_iff.mpr empty
      | pausing due _ ht early => simpa [ht] using early
  · rw [IsIdle, turn_of_not_live live, if_pos rfl, quit]
    constructor
    · intro h
      cases ht : s.task with
      | absent => exact .unopened ht
      | finished => exact .finished ht
      | _ => simp [ht] at h
    · intro h
      cases h with
      | unopened ht => simp [ht]
      | finished ht => simp [ht]
      | hanging hl => exact absurd hl live
      | reading n hl => exact absurd hl live
      | pausing due hl => exact absurd hl live

/-! ### The turns that are left -/

/-- How much waits on all links. -/
def load : List Link → Nat
  | [] => 0
  | link :: links => link.waiting.length + load links

theorem turnsAhead_eq (s : Session) : s.turnsAhead = load s.links + 4 := by
  have key : ∀ (links : List Link) (k : Nat),
      links.foldl (fun count link => count + link.waiting.length) k = load links + k := by
    intro links
    induction links with
    | nil => intro k; simp [load]
    | cons link links ih =>
      intro k
      rw [List.foldl_cons, ih, load]
      omega
  exact key s.links 4

theorem length_waiting_le_load {links : List Link} {n : Nat} {link : Link}
    (h : links[n]? = some link) : link.waiting.length ≤ load links := by
  induction links generalizing n with
  | nil => simp at h
  | cons first links ih =>
    cases n with
    | zero =>
      obtain rfl : first = link := by simpa using h
      exact Nat.le_add_right ..
    | succ n =>
      have hle := ih (n := n) (by simpa using h)
      rw [load]
      omega

/-- How much waits on one link. -/
def waitingOn (s : Session) (n : Nat) : Nat :=
  match s.links[n]? with
  | some link => link.waiting.length
  | none => 0

theorem waitingOn_le_load (s : Session) (n : Nat) : s.waitingOn n ≤ load s.links := by
  unfold waitingOn
  split
  · rename_i link h
    exact length_waiting_le_load h
  · exact Nat.zero_le _

/-- A bound of the turns before the clock has to move on. -/
def turnsLeft (s : Session) : Nat :=
  match s.task with
  | .absent => 0
  | .starting => load s.links + 3
  | .attempting _ => load s.links + 2
  | .reading n => s.waitingOn n + 1
  | .pausing due => if s.phase = .live ∧ s.clock < due then 0 else load s.links + 3
  | .finished => 0

theorem turnsLeft_le_turnsAhead (s : Session) : s.turnsLeft ≤ s.turnsAhead := by
  rw [turnsAhead_eq, turnsLeft]
  split
  · exact Nat.zero_le _
  · omega
  · omega
  · rename_i n _
    have hw := s.waitingOn_le_load n
    omega
  · split <;> omega
  · exact Nat.zero_le _

theorem Advance.turnsLeft_lt {s t : Session} (h : Advance s t) (hd : 0 < s.delay) :
    t.turnsLeft < s.turnsLeft := by
  cases h with
  | attempt live awake =>
    have hs : s.turnsLeft = load s.links + 3 := by
      rcases awake with h | ⟨due, h, hle⟩
      · simp [turnsLeft, h]
      · have hn : ¬ s.clock < due := Nat.not_lt.mpr hle
        simp [turnsLeft, h, hn]
    rw [hs]
    exact Nat.lt_succ_self _
  | refused live met =>
    -- no turn is left in the pause that follows, since the delay is not zero
    have hs : s.turnsLeft = load s.links + 2 := by simp [turnsLeft, met]
    rw [hs]
    simp [turnsLeft, live, hd]
  | connected n live met =>
    have hs : s.turnsLeft = load s.links + 2 := by simp [turnsLeft, met]
    have hw := s.waitingOn_le_load n
    rw [hs]
    show s.waitingOn n + 1 < _
    omega
  | frame n link bytes waiting live reading found first =>
    simp [turnsLeft, reading, waitingOn, found, first]
  | lost n link live reading found spent =>
    simp [turnsLeft, reading, live, hd]
  | ended links dead busy same =>
    obtain ⟨ha, hf⟩ := busy
    show 0 < s.turnsLeft
    cases ht : s.task with
    | absent => exact absurd ht ha
    | finished => exact absurd ht hf
    | _ => simp [turnsLeft, ht, dead]

theorem Advance.delay {s t : Session} (h : Advance s t) : t.delay = s.delay := by
  cases h <;> rfl

/-- What turns keep holds when the session has settled. -/
theorem settleWithin_rule {P : Session → Prop} (turn : ∀ s t, Advance s t → P s → P t)
    (n : Nat) {s : Session} (h : P s) : P (settleWithin n s) := by
  induction n generalizing s with
  | zero => exact h
  | succ n ih =>
    unfold settleWithin
    split
    · exact h
    · rename_i t ht
      exact ih (turn s t (turn_advances ht) h)

theorem settleWithin_isIdle {n : Nat} {s : Session} (hd : 0 < s.delay)
    (h : s.turnsLeft ≤ n) : (settleWithin n s).IsIdle := by
  induction n generalizing s with
  | zero =>
    -- a turn would leave fewer than no turns
    show s.turn true = none
    cases ht : s.turn true with
    | none => rfl
    | some t =>
      have hlt := (turn_advances ht).turnsLeft_lt hd
      omega
  | succ n ih =>
    unfold settleWithin
    cases ht : s.turn true with
    | none => exact ht
    | some t =>
      have ha := turn_advances ht
      have hlt := ha.turnsLeft_lt hd
      exact ih (ha.delay ▸ hd) (by omega)

theorem settle_isIdle {s : Session} (hd : 0 < s.delay) : s.settle.IsIdle :=
  settleWithin_isIdle hd s.turnsLeft_le_turnsAhead

theorem settle_clock (s : Session) : s.settle.clock = s.clock :=
  settleWithin_rule (P := fun t => t.clock = s.clock) (fun _ _ ha h => ha.clock.trans h) _ rfl

theorem settle_delay (s : Session) : s.settle.delay = s.delay :=
  settleWithin_rule (P := fun t => t.delay = s.delay) (fun _ _ ha h => ha.delay.trans h) _ rfl

end PipelineWatch.Session
