import PipelineWatch.Proofs.Session.Turn

/-!
Which links were connected and which frames were delivered, read off the journal,
and frames sorted by their links. A list of frames is `byLink` of an order when the
frames of each link stand together and the links follow one another in that order.
-/
namespace PipelineWatch.Session

/-! ### What the journal says -/

/-- The link that the deed begins to read. -/
def Entry.connected? (e : Entry) : Option Nat :=
  match e.deed with
  | .connect n => some n
  | _ => none

/-- The link and the frame that the deed takes in. -/
def Entry.frame? (e : Entry) : Option (Nat × List UInt8) :=
  match e.deed with
  | .frame n bytes => some (n, bytes)
  | _ => none

/-- The links that were connected, in the order of connection. -/
def connected (s : Session) : List Nat :=
  (s.journal.filterMap Entry.connected?).reverse

/-- The frames that were delivered, each with its link, in the order of delivery. -/
def taken (s : Session) : List (Nat × List UInt8) :=
  (s.journal.filterMap Entry.frame?).reverse

theorem filterMap_herald {α : Type} (f : Entry → Option α)
    (h : ∀ time u, f ⟨time, .tell u⟩ = none) (s : Session) (status : Status) :
    (s.herald status).filterMap f = [] := by
  unfold herald
  split
  · rfl
  · simp [h]

theorem filterMap_reception {α : Type} (f : Entry → Option α)
    (h : ∀ time u, f ⟨time, .tell u⟩ = none) (s : Session) (n : Nat) (frame : List UInt8) :
    (s.reception n frame).filterMap f = (f ⟨s.clock, .frame n frame⟩).toList := by
  have one : ∀ e, [e].filterMap f = (f e).toList := by
    intro e
    cases he : f e <;> simp [he]
  simp only [reception]
  split <;> simp [h, one]

theorem taken_of_journal {s t : Session} {e : List Entry}
    (hj : t.journal = e ++ s.journal) (hf : e.filterMap Entry.frame? = []) :
    t.taken = s.taken := by
  simp [taken, hj, hf]

theorem connected_of_journal {s t : Session} {e : List Entry}
    (hj : t.journal = e ++ s.journal) (hc : e.filterMap Entry.connected? = []) :
    t.connected = s.connected := by
  simp [connected, hj, hc]

theorem herald_quiet (s : Session) (status : Status) :
    (s.herald status).filterMap Entry.frame? = [] ∧
      (s.herald status).filterMap Entry.connected? = [] :=
  ⟨filterMap_herald _ (fun _ _ => rfl) s status, filterMap_herald _ (fun _ _ => rfl) s status⟩

/-! ### Frames by their links -/

/-- The frames of link `n`. -/
def framesOf (n : Nat) (frames : List (Nat × List UInt8)) : List (List UInt8) :=
  (frames.filter fun f => f.1 == n).map (·.2)

/-- The frames of the links in this order, one link after the other. -/
def byLink (order : List Nat) (frames : List (Nat × List UInt8)) : List (Nat × List UInt8) :=
  order.flatMap fun n => (framesOf n frames).map (n, ·)

theorem framesOf_concat (m n : Nat) (frames : List (Nat × List UInt8)) (bytes : List UInt8) :
    framesOf m (frames ++ [(n, bytes)]) =
      framesOf m frames ++ if n = m then [bytes] else [] := by
  by_cases h : n = m <;> simp [framesOf, h]

theorem framesOf_eq_nil {order : List Nat} {frames : List (Nat × List UInt8)}
    (h : frames = byLink order frames) {n : Nat} (hn : n ∉ order) : framesOf n frames = [] := by
  have hf : ∀ f ∈ frames, ¬ (f.1 == n) = true := by
    intro f hf heq
    rw [h] at hf
    obtain ⟨m, hm, hf⟩ := List.mem_flatMap.mp hf
    obtain ⟨bytes, -, rfl⟩ := List.mem_map.mp hf
    exact hn (by simpa using (eq_of_beq heq) ▸ hm)
  simp [framesOf, List.filter_eq_nil_iff.mpr hf]

theorem byLink_connect {order : List Nat} {frames : List (Nat × List UInt8)}
    (h : frames = byLink order frames) {n : Nat} (hn : n ∉ order) :
    frames = byLink (order ++ [n]) frames := by
  have hnil := framesOf_eq_nil h hn
  simp only [byLink, List.flatMap_append, List.flatMap_cons, List.flatMap_nil, hnil]
  simpa [byLink] using h

theorem byLink_congr {order : List Nat} {xs ys : List (Nat × List UInt8)}
    (h : ∀ n ∈ order, framesOf n xs = framesOf n ys) : byLink order xs = byLink order ys := by
  induction order with
  | nil => rfl
  | cons n order ih =>
    simp only [byLink, List.flatMap_cons]
    rw [h n (by simp)]
    exact congrArg _ (ih fun m hm => h m (by simp [hm]))

theorem byLink_deliver {order : List Nat} {frames : List (Nat × List UInt8)}
    (h : frames = byLink order frames) (distinct : order.Nodup) {n : Nat}
    (last : order.getLast? = some n) (bytes : List UInt8) :
    frames ++ [(n, bytes)] = byLink order (frames ++ [(n, bytes)]) := by
  obtain ⟨before, rfl⟩ := List.getLast?_eq_some_iff.mp last
  have hn : n ∉ before := by
    intro hmem
    exact (List.nodup_append.mp distinct).2.2 n hmem n (by simp) rfl
  have hb : byLink before (frames ++ [(n, bytes)]) = byLink before frames := by
    apply byLink_congr
    intro m hm
    have hne : n ≠ m := fun he => hn (he ▸ hm)
    simp [framesOf_concat, hne]
  have hsplit : ∀ fs, byLink (before ++ [n]) fs =
      byLink before fs ++ (framesOf n fs).map (n, ·) := by
    intro fs
    simp [byLink]
  rw [hsplit, hb, framesOf_concat, if_pos rfl, List.map_append, ← List.append_assoc, ← hsplit,
    ← h]
  rfl

end PipelineWatch.Session
