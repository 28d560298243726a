import PipelineWatch.Proofs.Session.Turn

/-!
What a link is fed, told from the operations alone, and how much of it a link
still holds. `Tracks` ties the two together: what was fed up to the first failure
or end is what was taken from the link and what waits on it in front of a failure.
-/
namespace PipelineWatch.Session

/-! ### The operations on one link -/

/-- Whether the operation is a failure or the end of link `n`. -/
def stops (n : Nat) : Operation → Bool
  | .failure link => link == n
  | .endLink link => link == n
  | _ => false

/-- The frames that link `n` is fed before its first failure or end. -/
def framesFed (n : Nat) : List Operation → List (List UInt8)
  | [] => []
  | .frames link frames :: os => (if link = n then frames else []) ++ framesFed n os
  | o :: os => if stops n o then [] else framesFed n os

/-- What follows the planning of link `n`. Links are numbered as they are planned. -/
def sincePlanned : Nat → List Operation → List Operation
  | _, [] => []
  | 0, .planLink :: os => os
  | n + 1, .planLink :: os => sincePlanned n os
  | n, _ :: os => sincePlanned n os

/-- All frames fed to link `n` before its first failure or end, in their order. -/
def feed (n : Nat) (os : List Operation) : List (List UInt8) :=
  framesFed n (sincePlanned n os)

/-- Whether link `n` has met a failure or its end. -/
def stopped (n : Nat) (os : List Operation) : Bool :=
  (sincePlanned n os).any (stops n)

/-- How many links are planned. -/
def planned (os : List Operation) : Nat :=
  os.count .planLink

theorem framesFed_append (n : Nat) (xs ys : List Operation) :
    framesFed n (xs ++ ys) =
      if xs.any (stops n) then framesFed n xs else framesFed n xs ++ framesFed n ys := by
  induction xs with
  | nil => rfl
  | cons o os ih =>
    cases o with
    | frames link frames =>
      simp only [List.cons_append, framesFed, ih, List.any_cons, stops, Bool.false_or]
      cases os.any (stops n) with
      | true => rfl
      | false => exact (List.append_assoc ..).symm
    | failure link =>
      by_cases h : link = n <;> simp [framesFed, stops, h, ih]
    | endLink link =>
      by_cases h : link = n <;> simp [framesFed, stops, h, ih]
    | _ => simpa [framesFed, stops] using ih

theorem sincePlanned_append {n : Nat} {xs : List Operation} (ys : List Operation)
    (h : n < planned xs) : sincePlanned n (xs ++ ys) = sincePlanned n xs ++ ys := by
  induction xs generalizing n with
  | nil => simp [planned] at h
  | cons o os ih =>
    cases o with
    | planLink =>
      cases n with
      | zero => rfl
      | succ n => exact ih (by simpa [planned] using h)
    | _ => cases n <;> exact ih (by simpa [planned] using h)

theorem sincePlanned_concat_of_le {n : Nat} {os : List Operation} (h : planned os ≤ n)
    (o : Operation) : sincePlanned n (os ++ [o]) = [] := by
  induction os generalizing n with
  | nil => cases n <;> cases o <;> rfl
  | cons o' os ih =>
    cases o' with
    | planLink =>
      cases n with
      | zero => simp [planned] at h
      | succ n => exact ih (by simpa [planned] using h)
    | _ => cases n <;> exact ih (by simpa [planned] using h)

/-- One more operation feeds a link that is planned, unless it was stopped. -/
theorem feed_concat {n : Nat} {os : List Operation} (h : n < planned os) (o : Operation) :
    feed n (os ++ [o]) =
      if stopped n os then feed n os else feed n os ++ framesFed n [o] := by
  rw [feed, sincePlanned_append _ h, framesFed_append]
  rfl

theorem stopped_concat {n : Nat} {os : List Operation} (h : n < planned os) (o : Operation) :
    stopped n (os ++ [o]) = (stopped n os || stops n o) := by
  simp [stopped, sincePlanned_append _ h]

/-- What was fed is never taken back. -/
theorem feed_prefix_concat {n : Nat} {os : List Operation} (h : n < planned os)
    (o : Operation) : feed n os <+: feed n (os ++ [o]) := by
  rw [feed_concat h]
  split
  · exact List.prefix_rfl
  · exact List.prefix_append ..

/-- What the operation does to link `n` when it is there. -/
def Operation.touch (n : Nat) (o : Operation) (link : Link) : Link :=
  match o with
  | .frames m batch => if m = n then link.receive (batch.map .frame) else link
  | .failure m => if m = n then link.receive [.failure] else link
  | .endLink m => if m = n then { link with ended := true } else link
  | _ => link

theorem modify_getElem? (links : List Link) (m n : Nat) (f : Link → Link) :
    (links.modify m f)[n]? = links[n]?.map fun link => if m = n then f link else link := by
  rw [List.getElem?_modify]
  split
  · rfl
  · simp

theorem happen_links {s : Session} {n : Nat} {link : Link} (h : s.links[n]? = some link)
    (o : Operation) : (s.happen o).links[n]? = some (o.touch n link) := by
  have hn : n < s.links.length := (List.getElem?_eq_some_iff.mp h).1
  cases o with
  | planLink =>
    show (s.links ++ [({} : Link)])[n]? = _
    rw [List.getElem?_append_left hn, h]
    rfl
  | frames m frames =>
    show (s.links.modify m _)[n]? = _
    rw [modify_getElem?, h]
    rfl
  | failure m =>
    show (s.links.modify m _)[n]? = _
    rw [modify_getElem?, h]
    rfl
  | endLink m =>
    show (s.links.modify m _)[n]? = _
    rw [modify_getElem?, h]
    rfl
  | start =>
    show s.start.links[n]? = _
    unfold start
    split <;> exact h
  | clearEvents => exact (congrArg (·[n]?) (clear_alike s _ _).links).trans h
  | clearApprovals => exact (congrArg (·[n]?) (clear_alike s _ _).links).trans h
  | _ => exact h

/-! ### One link -/

/-- The frames that wait in front of a failure. -/
def framesAhead : List Arrival → List (List UInt8)
  | .frame bytes :: waiting => bytes :: framesAhead waiting
  | _ => []

theorem framesAhead_append (xs ys : List Arrival) :
    framesAhead (xs ++ ys) =
      if .failure ∈ xs then framesAhead xs else framesAhead xs ++ framesAhead ys := by
  induction xs with
  | nil => rfl
  | cons x xs ih =>
    cases x with
    | failure => simp [framesAhead]
    | frame bytes =>
      simp only [List.cons_append, framesAhead, ih, List.mem_cons, reduceCtorEq, false_or]
      split <;> rfl

theorem framesAhead_map_frame (frames : List (List UInt8)) :
    framesAhead (frames.map .frame) = frames := by
  induction frames with
  | nil => rfl
  | cons bytes frames ih => simp [framesAhead, ih]

/-- Link `n`, from which `got` was taken, is still held and holds the rest of what
it was fed. -/
structure Tracks (n : Nat) (os : List Operation) (got : List (List UInt8)) (link : Link) :
    Prop where
  held : link.released = false
  fed : feed n os = got ++ framesAhead link.waiting
  stopped : stopped n os = true ↔ link.ended = true ∨ .failure ∈ link.waiting

/-- A link that the operation has just planned holds nothing. -/
theorem Tracks.new {n : Nat} {os : List Operation} (h : planned os ≤ n) (o : Operation) :
    Tracks n (os ++ [o]) [] {} := by
  refine ⟨rfl, ?_, ?_⟩
  · rw [feed, sincePlanned_concat_of_le h]
    rfl
  · simp [Session.stopped, sincePlanned_concat_of_le h]

theorem Tracks.receive {n : Nat} {os : List Operation} {got : List (List UInt8)} {link : Link}
    (h : Tracks n os got link) (hn : n < planned os) {o : Operation}
    (arrivals : List Arrival) (hf : framesFed n [o] = framesAhead arrivals)
    (hs : stops n o = true ↔ .failure ∈ arrivals) :
    Tracks n (os ++ [o]) got (link.receive arrivals) := by
  have hfed := feed_concat hn o
  have hstop := stopped_concat hn o
  by_cases he : link.ended = true
  · -- behind its end nothing arrives, and nothing counts as fed
    have hst : Session.stopped n os = true := h.stopped.mpr (.inl he)
    have hl : link.receive arrivals = link := by simp [Link.receive, he]
    rw [hl]
    refine ⟨h.held, ?_, ?_⟩
    · rw [hfed, if_pos hst, h.fed]
    · simp [hstop, hst, he]
  · have hl : link.receive arrivals = { link with waiting := link.waiting ++ arrivals } := by
      simp [Link.receive, he, h.held]
    rw [hl]
    refine ⟨h.held, ?_, ?_⟩
    · simp only [framesAhead_append]
      rw [hfed, h.fed, hf]
      by_cases hw : Arrival.failure ∈ link.waiting
      · rw [if_pos (h.stopped.mpr (.inr hw)), if_pos hw]
      · have hst : ¬ Session.stopped n os = true := fun hc => by
          rcases h.stopped.mp hc with hc | hc
          · exact he hc
          · exact hw hc
        rw [if_neg hst, if_neg hw, List.append_assoc]
    · rw [hstop, Bool.or_eq_true, h.stopped, hs, List.mem_append, or_assoc]

theorem Tracks.untouched {n : Nat} {os : List Operation} {got : List (List UInt8)}
    {link : Link} (h : Tracks n os got link) (hn : n < planned os) {o : Operation}
    (hf : framesFed n [o] = []) (hs : stops n o = false) : Tracks n (os ++ [o]) got link := by
  refine ⟨h.held, ?_, ?_⟩
  · rw [feed_concat hn, hf, List.append_nil, ite_self, h.fed]
  · rw [stopped_concat hn, hs, Bool.or_false, h.stopped]

/-- Taking the first frame from a link leaves it with the rest. -/
theorem Tracks.take {n : Nat} {os : List Operation} {got : List (List UInt8)} {link : Link}
    (h : Tracks n os got link) {bytes : List UInt8} {waiting : List Arrival}
    (first : link.waiting = .frame bytes :: waiting) :
    Tracks n os (got ++ [bytes]) { link with waiting } := by
  refine ⟨h.held, ?_, ?_⟩
  · rw [h.fed, first]
    simp [framesAhead]
  · rw [h.stopped, first]
    simp

/-- All is taken from a link that has come to its failure or to its end. -/
theorem Tracks.exhausted {n : Nat} {os : List Operation} {got : List (List UInt8)}
    {link : Link} (h : Tracks n os got link)
    (spent : link.waiting.head? = some .failure ∨ link.waiting = [] ∧ link.ended = true) :
    got = feed n os ∧ Session.stopped n os = true := by
  rcases spent with hw | ⟨hw, he⟩
  · obtain ⟨waiting, hw⟩ := List.head?_eq_some_iff.mp hw
    refine ⟨?_, h.stopped.mpr (.inr (by simp [hw]))⟩
    rw [h.fed, hw]
    simp [framesAhead]
  · refine ⟨?_, h.stopped.mpr (.inl he)⟩
    rw [h.fed, hw]
    simp [framesAhead]

/-- A link keeps track of what it is fed by each operation. -/
theorem Tracks.touch {n : Nat} {os : List Operation} {got : List (List UInt8)} {link : Link}
    (h : Tracks n os got link) (hn : n < planned os) (o : Operation) :
    Tracks n (os ++ [o]) got (o.touch n link) := by
  cases o with
  | frames m frames =>
    by_cases hm : m = n
    · subst hm
      have hr := h.receive hn (o := .frames m frames) (frames.map .frame)
        (by simp [framesFed, framesAhead_map_frame]) (by simp [stops])
      simpa [Operation.touch] using hr
    · simpa [Operation.touch, hm] using
        h.untouched hn (o := .frames m frames) (by simp [framesFed, hm]) rfl
  | failure m =>
    by_cases hm : m = n
    · subst hm
      have hr := h.receive hn (o := .failure m) [.failure]
        (by simp [framesFed, stops, framesAhead]) (by simp [stops])
      simpa [Operation.touch] using hr
    · simpa [Operation.touch, hm] using
        h.untouched hn (o := .failure m) (by simp [framesFed]) (by simp [stops, hm])
  | endLink m =>
    by_cases hm : m = n
    · subst hm
      have ht : (Operation.endLink m).touch m link = { link with ended := true } := by
        simp [Operation.touch]
      rw [ht]
      refine ⟨h.held, ?_, ?_⟩
      · have hf : framesFed m [.endLink m] = [] := by simp [framesFed, stops]
        rw [feed_concat hn, hf, List.append_nil, ite_self, h.fed]
      · simp [stopped_concat hn, stops]
    · simpa [Operation.touch, hm] using
        h.untouched hn (o := .endLink m) (by simp [framesFed]) (by simp [stops, hm])
  | _ => exact h.untouched hn (by simp [framesFed]) rfl

end PipelineWatch.Session
