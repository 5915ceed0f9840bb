import Mathlib.Algebra.GroupWithZero.Nat
import SlimInterface.Proofs.Run
import SlimInterface.Proofs.Ssdo.ReceiveStep

/-!
# What the receiving side keeps of the frames it accepted

Steps of the receiving side may fail, and each may be handed another stream. A step that fails has
written nothing, so the frame it was about to post is still in the cache.

What becomes of it depends on the state the step failed in. While a frame waits to be posted
again the next step offers it once more, and nothing is lost. A step that fails on a frame it has
just taken from the queue leaves the state behind (`Event.Strands`): the next step takes the next
frame, and writes it over the cached one. `accepted_eq_left` accounts for every accepted frame in
both cases, and says that without such a step the frames are those posted, the cached one and the
queued ones.
-/

namespace SlimInterface

variable {ω : Type}

namespace Retention

/-! ## Runs -/

/-- What happens to the receiving side of a channel. -/
inductive Event (ω : Type)
  /-- The network hands over a frame. -/
  | receive (p : Bytes) (answer : Except Fault Unit)
  /-- A step that starts from `before`, and leaves `after` and the stream it was handed. -/
  | process (before : Receive) (answer : Except Fault Unit) (after : Receive) (left : Station ω)

/-- The steps of the receiving side. Every step may be handed another stream. -/
inductive Step (ω : Type) (r : Receive) : Event ω → Receive → Prop
  | receive {p : Bytes} {a : Except Fault Unit} {r' : Receive}
      (h : (Receive.accept p).eval r = (a, r')) : Step ω r (.receive p a) r'
  | process {s t : Station ω} {a : Except Fault Unit} {r' : Receive}
      (h : Receive.process.eval (r, s) = (a, r', t)) : Step ω r (.process r a r' t) r'

namespace Event

/-- A frame the receiving side accepted. -/
def accepted? : Event ω → Option Bytes
  | .receive p (.ok ()) => some p
  | _ => none

/-- A step posted a frame if one is outstanding that was not outstanding before. The frame is
what the buffer then holds. -/
def posted? : Event ω → Option Bytes
  | .process r _ r' t =>
    if r'.outstanding = true ∧ ¬ (r.outstanding = true ∧ r'.seq = r.seq) then
      (t.stream.frame? r'.buffer).map Frame.payload
    else none
  | _ => none

/-- A step that takes a frame from the queue writes it over the one in the cache. -/
def overwritten? : Event ω → Option Bytes
  | .process r _ _ _ => if r.state = .waitForFrame ∧ r.queue ≠ [] then r.cached else none
  | _ => none

/-- The frames a step was the last to see. -/
def left (e : Event ω) : List Bytes := e.overwritten?.toList ++ e.posted?.toList

/-- A step failed on a frame it had just taken from the queue. -/
def Strands : Event ω → Prop
  | .process r (.error _) _ _ => r.state = .waitForFrame
  | _ => False

end Event

/-- The frames the receiving side accepted, oldest first. -/
def accepted (es : List (Event ω)) : List Bytes := es.filterMap Event.accepted?

/-- The frames the receiving side posted, oldest first. -/
def posted (es : List (Event ω)) : List Bytes := es.filterMap Event.posted?

/-- The frames the receiving side posted and those it wrote over, oldest first. -/
def left (es : List (Event ω)) : List Bytes := es.flatMap Event.left

theorem accepted_append (es : List (Event ω)) (e : Event ω) :
    accepted (es ++ [e]) = accepted es ++ e.accepted?.toList :=
  filterMap_append_one _ es e

theorem posted_append (es : List (Event ω)) (e : Event ω) :
    posted (es ++ [e]) = posted es ++ e.posted?.toList :=
  filterMap_append_one _ es e

theorem left_append (es : List (Event ω)) (e : Event ω) :
    left (es ++ [e]) = left es ++ e.left := by
  unfold left
  rw [List.flatMap_append, List.flatMap_singleton]

/-! ## Where the frames are -/

variable {r r' : Receive} {s t : Station ω} {a : Except Fault Unit} {es : List (Event ω)}

/-- What holds of the receiving side after the events `es`. -/
structure Inv (es : List (Event ω)) (r : Receive) : Prop where
  accounted : accepted es = left es ++ r.cached.toList ++ r.queue
  /-- A frame that waits to be posted again is cached. -/
  cached : r.state = .repostFrame → r.cached.isSome = true
  /-- Without a step that strands, no other frame is. -/
  orderly : (∀ e ∈ es, ¬ e.Strands) →
    left es = posted es ∧ (r.cached.isSome = true → r.state = .repostFrame)

theorem posted?_of_unposted (queue : List Bytes) (cached : Option Bytes) (state : ReceiveState)
    (hr : r.Unposted r') :
    (Event.process r a { r' with queue, cached, state } t).posted? = none := by
  unfold Event.posted?
  refine if_neg fun h => ?_
  obtain ⟨ho, hn⟩ := h
  rcases hr with ⟨hout, rfl⟩ | rfl
  · exact hn ⟨hout, rfl⟩
  · exact absurd (r.outstanding_freed.symm.trans ho) (by simp)

theorem posted?_of_posted {p : Bytes} (queue : List Bytes) (state : ReceiveState)
    (hf : t.stream.frame? r.buffer = some ⟨r.freed.seq, p⟩) :
    (Event.process r a
      { r.freed with queue, state, outstanding := true, cached := none } t).posted? = some p := by
  have hnew : ¬ (r.outstanding = true ∧ r.freed.seq = r.seq) := by
    intro h
    obtain ⟨ho, hseq⟩ := h
    rw [Receive.freed_of_outstanding ho] at hseq
    exact SeqNr.flip_ne _ hseq
  unfold Event.posted?
  dsimp only
  rw [if_pos ⟨rfl, hnew⟩, r.freed_keeps.1, hf]
  rfl

theorem overwritten?_of_waiting {p : Bytes} {rest : List Bytes} (hs : r.state = .waitForFrame)
    (hq : r.queue = p :: rest) : (Event.process r a r' t).overwritten? = r.cached :=
  if_pos ⟨hs, by rw [hq]; exact List.cons_ne_nil p rest⟩

theorem overwritten?_of_reposting (hs : r.state = .repostFrame) :
    (Event.process r a r' t).overwritten? = none := by
  refine if_neg fun h => ?_
  rw [hs] at h
  cases h.1

/-- What an event does to the frames that are kept, it does to all of them. -/
theorem Inv.next {e : Event ω} (h : Inv es r)
    (hframes : r.cached.toList ++ r.queue ++ e.accepted?.toList =
      e.left ++ r'.cached.toList ++ r'.queue)
    (hcached : r'.state = .repostFrame → r'.cached.isSome = true)
    (horderly : ¬ e.Strands → (r.cached.isSome = true → r.state = .repostFrame) →
      e.left = e.posted?.toList ∧ (r'.cached.isSome = true → r'.state = .repostFrame)) :
    Inv (es ++ [e]) r' := by
  refine ⟨?_, hcached, fun hn => ?_⟩
  · rw [accepted_append, left_append, h.accounted]
    simp only [List.append_assoc] at hframes ⊢
    rw [hframes]
  · obtain ⟨hleft, hrepost⟩ := h.orderly fun x hx => hn x (List.mem_append_left _ hx)
    obtain ⟨he, hrepost'⟩ :=
      horderly (hn e (List.mem_append_right _ (List.mem_singleton.mpr rfl))) hrepost
    rw [left_append, posted_append, hleft, he]
    exact ⟨rfl, hrepost'⟩

/-- A frame is accepted at the end of the queue. -/
theorem Inv.receive {p : Bytes} (h : Inv es r) (ha : (Receive.accept p).eval r = (a, r')) :
    Inv (es ++ [.receive p a]) r' := by
  have hrefused {f : Fault} : Inv (es ++ [.receive p (.error f)]) r :=
    h.next (by simp [Event.accepted?, Event.left, Event.overwritten?, Event.posted?]) h.cached
      fun _ hc => ⟨rfl, hc⟩
  unfold Receive.accept at ha
  rw [Op.eval_bind_ok (Op.eval_read _)] at ha
  by_cases hlong : Frame.maxPayload < p.length
  · rw [if_pos hlong] at ha
    cases ha
    exact hrefused
  · rw [if_neg hlong] at ha
    by_cases hfull : receiveDepth ≤ r.queue.length
    · rw [if_pos hfull] at ha
      cases ha
      exact hrefused
    · rw [if_neg hfull] at ha
      cases ha
      refine h.next ?_ h.cached fun _ hc => ⟨rfl, hc⟩
      simp [Event.accepted?, Event.left, Event.overwritten?, Event.posted?]

/-- A step moves frames from the queue into the cache and on into the buffer, and writes over
the cached one if it takes another from the queue. -/
theorem Inv.process (h : Inv es r) (hp : r.ProcessStep s a r' t) :
    Inv (es ++ [.process r a r' t]) r' := by
  -- while the receiving side waits for a frame none is cached, unless one was stranded
  have hnone (hs : r.state = .waitForFrame)
      (hc : r.cached.isSome = true → r.state = .repostFrame) : r.cached = none := by
    cases hcached : r.cached with
    | none => rfl
    | some q =>
      rw [hcached, hs] at hc
      cases hc rfl
  cases hp with
  | idle hs hq =>
    have hposted : (Event.process r (.ok ()) r s).posted? = none :=
      posted?_of_unposted r.queue r.cached r.state (.refl r)
    have hover : (Event.process r (.ok ()) r s).overwritten? = none := if_neg fun hn => hn.2 hq
    refine h.next ?_ h.cached fun _ hc => ?_
    · simp [Event.left, Event.accepted?, hposted, hover]
    · exact ⟨by simp [Event.left, hover], hc⟩
  | @posted p rest t hs hq hf =>
    have hposted := posted?_of_posted (a := .ok ()) rest r.freed.state hf
    refine h.next ?_ (fun hr => ?_) fun _ hc => ?_
    · simp [Event.left, Event.accepted?, hposted, overwritten?_of_waiting hs hq, hq]
    · rw [show Receive.state _ = r.freed.state from rfl, r.freed_keeps.2.1, hs] at hr
      cases hr
    · refine ⟨?_, fun hn => by cases hn⟩
      simp [Event.left, overwritten?_of_waiting hs hq, hnone hs hc]
  | @postponed p rest hs hq ho =>
    have hposted := posted?_of_unposted (a := .ok ()) (t := s) rest (some p) .repostFrame (.refl r)
    refine h.next ?_ (fun _ => rfl) fun _ hc => ?_
    · simp [Event.left, Event.accepted?, hposted, overwritten?_of_waiting hs hq, hq]
    · refine ⟨?_, fun _ => rfl⟩
      simp [Event.left, overwritten?_of_waiting hs hq, hnone hs hc]
  | @stranded p rest f r'' hs hq hr =>
    have hposted := posted?_of_unposted (a := .error f) (t := s) rest (some p) r''.state hr
    refine h.next ?_ (fun _ => rfl) fun hn _ => absurd hs hn
    simp [Event.left, Event.accepted?, hposted, overwritten?_of_waiting hs hq, hq]
  | @reposted t hs hf =>
    obtain ⟨p, hcached⟩ := Option.isSome_iff_exists.mp (h.cached hs)
    have hposted := posted?_of_posted (a := .ok ()) r.freed.queue .waitForFrame hf
    refine h.next ?_ (fun hr => by cases hr) fun _ _ => ⟨?_, fun hn => by cases hn⟩
    · simpa [Event.left, Event.accepted?, hposted, overwritten?_of_reposting hs, hcached]
        using r.freed_keeps.2.2.1.symm
    · simp [Event.left, overwritten?_of_reposting hs]
  | @waiting _ r' hs hr =>
    obtain ⟨hstate, hqueue, hcached⟩ := hr.keeps
    have hposted := posted?_of_unposted (a := a) (t := s) r'.queue r'.cached r'.state hr
    refine h.next ?_ ?_ fun _ hc => ⟨?_, ?_⟩
    · simp [Event.left, Event.accepted?, hposted, overwritten?_of_reposting hs, hcached, hqueue]
    · rw [hcached, hstate]
      exact h.cached
    · simp [Event.left, overwritten?_of_reposting hs]
    · rw [hcached, hstate]
      exact hc

theorem inv_created {id : UInt8} {buffer : BufferId} {status : Status}
    (h : (Receive.create id buffer status).eval s = (.ok r, t)) :
    Inv ([] : List (Event ω)) r := by
  unfold Receive.create at h
  simp only [Op.eval_bind_eq_ok, Op.eval_log, Op.eval_pure] at h
  obtain ⟨-, _, -, -, _, ⟨⟩, ⟨⟩⟩ := h
  exact ⟨rfl, fun hr => (by cases hr), fun _ => ⟨rfl, fun hc => (by cases hc)⟩⟩

theorem Inv.step {e : Event ω} (h : Inv es r) (hs : Step ω r e r') : Inv (es ++ [e]) r' := by
  cases hs with
  | receive ha => exact h.receive ha
  | @process s t a _ hp =>
    obtain ⟨a', r'', t', heval, hstep⟩ := Receive.eval_process r s
    rw [hp] at heval
    cases heval
    exact h.process hstep

/-- A step that strands a frame leaves it in the cache although the receiving side waits for the
next one. -/
theorem cached_of_strands {e : Event ω} (hs : Step ω r e r') (he : e.Strands) :
    r'.cached.isSome = true ∧ r'.state = .waitForFrame := by
  cases hs with
  | receive => exact absurd he id
  | @process s t a _ hp =>
    obtain ⟨a', r'', t', heval, hstep⟩ := Receive.eval_process r s
    rw [hp] at heval
    cases heval
    cases hstep with
    | stranded hs _ hr => exact ⟨rfl, hr.keeps.1.trans hs⟩
    | @waiting a _ hs =>
      cases a with
      | ok => exact absurd he id
      | error f =>
        have hwait : r.state = .waitForFrame := he
        rw [hs] at hwait
        cases hwait
    | _ => exact absurd he id

/-- Every accepted frame is accounted for: it was posted, written over, or is still in the cache
or in the queue. As long as no step strands a frame none is written over, and a frame is cached
exactly while it waits to be posted again, whether steps fail or not. A step that strands one
breaks this at once. -/
theorem accepted_eq_left {id : UInt8} {buffer : BufferId} {status : Status} {s t : Station ω}
    {r0 r : Receive} {es : List (Event ω)}
    (hcreate : (Receive.create id buffer status).eval s = (.ok r0, t))
    (hrun : Run (Step ω) r0 es r) :
    accepted es = left es ++ r.cached.toList ++ r.queue ∧
      ((∀ e ∈ es, ¬ e.Strands) →
        left es = posted es ∧ (r.cached.isSome = true ↔ r.state = .repostFrame)) ∧
      (∀ e, es.getLast? = some e → e.Strands →
        r.cached.isSome = true ∧ r.state = .waitForFrame) := by
  have hinv : Inv es r :=
    hrun.invariant (I := Inv) (inv_created hcreate) fun hi hs => hi.step hs
  refine ⟨hinv.accounted, fun hn => ?_, fun e he hstrands => ?_⟩
  · obtain ⟨hleft, hrepost⟩ := hinv.orderly hn
    exact ⟨hleft, hrepost, hinv.cached⟩
  · cases hrun with
    | start => cases he
    | next h hs =>
      rw [List.getLast?_concat] at he
      cases he
      exact cached_of_strands hs hstrands

/-! ## A frame that is lost -/

/-- A stream with buffers of the given sizes that nothing happens on. The remote side shows the
acknowledges `ssdoTx`. -/
def stationOf (sizes : List Nat) (ssdoTx : UInt16) : Station Unit where
  stream :=
    { descriptors := Descriptor.layout sizes
      image := List.replicate sizes.sum 0
      consumer := ⟨0, sizes.headD 0⟩
      producer := ⟨sizes.headD 0, sizes.tail.sum⟩
      transfer := fun _ => pure ()
      pre := []
      post := []
      onSync := none }
  around := ⟨[{ Registers.clear with ssdoTx }], [], ()⟩

/-- The receiving side of channel zero on the third buffer of a stream. -/
def sideOf (state : ReceiveState) (seq : SeqNr) (outstanding : Bool) (queue : List Bytes)
    (cached : Option Bytes) : Receive :=
  ⟨0, ⟨2⟩, state, seq, outstanding, queue, cached, ⟨0⟩⟩

/-- Two frames are handed over. -/
def handedOver : List (Event Unit) := [.receive [0xaa] (.ok ()), .receive [0xbb] (.ok ())]

theorem run_handedOver :
    Run (Step Unit) (sideOf .waitForFrame .second false [] none) handedOver
      (sideOf .waitForFrame .second false [[0xaa], [0xbb]] none) :=
  (Run.one (.receive rfl)).next (.receive rfl)

theorem room_wide :
    ∃ b, (stationOf [12, 4, 256] 0).stream.buffer? ⟨2⟩ = some b ∧
      Frame.payloadOffset + 1 ≤ b.length := by
  have hfit : (⟨16, 256⟩ : Span).Fits (List.replicate 272 0) :=
    Nat.le_of_eq List.length_replicate.symm
  refine ⟨_, rfl, Nat.le_trans ?_ (Nat.le_of_eq (Span.length_read hfit).symm)⟩
  decide

/-- The first frame is taken from the queue by a step that finds no buffer, and the second one is
posted by the next step. -/
theorem run_stranded : ∃ r1 r2 r3 t, ∃ es, es = handedOver ++ [.process r1
        (.error .invalidBuffer) r2 (stationOf [12, 4] 0)] ++ [.process r2 (.ok ()) r3 t] ∧
    Run (Step Unit) (sideOf .waitForFrame .second false [] none) es r3 ∧
    r3 = sideOf .waitForFrame .second true [] none ∧ posted es = [[0xbb]] := by
  have hfail : Receive.process.eval
      (sideOf .waitForFrame .second false [[0xaa], [0xbb]] none, stationOf [12, 4] 0) =
      (.error .invalidBuffer, sideOf .waitForFrame .second false [[0xbb]] (some [0xaa]),
        stationOf [12, 4] 0) := rfl
  obtain ⟨b, hb, hroom⟩ := room_wide
  obtain ⟨t, hpost, hf⟩ := Receive.eval_process_of_room
    (r := sideOf .waitForFrame .second false [[0xbb]] (some [0xaa])) rfl rfl rfl hb
    (show 1 ≤ Frame.maxPayload by decide) hroom
  refine ⟨_, _, _, t, _, rfl, (run_handedOver.next (.process hfail)).next (.process hpost), rfl, ?_⟩
  have hposted := posted?_of_posted (a := .ok ()) [] .waitForFrame hf
  rw [posted_append]
  exact congrArg ([] ++ Option.toList ·) hposted

/-- The second frame has to wait, and a step that finds no buffer leaves it waiting. -/
theorem run_reposted : ∃ r1 r2 r3 r4 r5 t u, ∃ es, es = handedOver ++
        [.process r1 (.ok ()) r2 t] ++ [.process r2 (.ok ()) r3 (stationOf [12, 4, 256] 0)] ++
        [.process r3 (.error .invalidBuffer) r4 (stationOf [12, 4] 1)] ++
        [.process r4 (.ok ()) r5 u] ∧
    Run (Step Unit) (sideOf .waitForFrame .second false [] none) es r5 ∧
    r5 = sideOf .waitForFrame .first true [] none ∧ ∀ e ∈ es, ¬ e.Strands := by
  obtain ⟨b, hb, hroom⟩ := room_wide
  have hone : 1 ≤ Frame.maxPayload := by decide
  obtain ⟨t, hpost, -⟩ := Receive.eval_process_of_room
    (r := sideOf .waitForFrame .second false [[0xaa], [0xbb]] none) rfl rfl rfl hb hone hroom
  have hbusy : Receive.process.eval
      (sideOf .waitForFrame .second true [[0xbb]] none, stationOf [12, 4, 256] 0) =
      (.ok (), sideOf .repostFrame .second true [] (some [0xbb]), stationOf [12, 4, 256] 0) := rfl
  -- the acknowledge of the first frame is taken note of before the buffer is missed
  have hfail : Receive.process.eval
      (sideOf .repostFrame .second true [] (some [0xbb]), stationOf [12, 4] 1) =
      (.error .invalidBuffer, sideOf .repostFrame .first false [] (some [0xbb]),
        stationOf [12, 4] 1) := rfl
  obtain ⟨u, hrepost, -⟩ := Receive.eval_process_reposting
    (r := sideOf .repostFrame .first false [] (some [0xbb])) rfl rfl rfl hb hone hroom
  refine ⟨_, _, _, _, _, t, u, _, rfl, (((run_handedOver.next (.process hpost)).next
    (.process hbusy)).next (.process hfail)).next (.process hrepost), rfl, ?_⟩
  simp [handedOver, Event.Strands, sideOf]

/-- Two runs over two frames. In the first one a step finds no buffer while the receiving side
waits for a frame, and the frame is lost. In the second one that happens to a frame that waits to
be posted again, which is posted later. -/
theorem accepted_eq_left_reference :
    let wide := stationOf [12, 4, 256] 0
    let received : List (Event Unit) := [.receive [0xaa] (.ok ()), .receive [0xbb] (.ok ())]
    ∃ r0, (Receive.create 0 ⟨2⟩ ⟨0⟩).eval wide = (.ok r0, wide) ∧
      (∃ r1 r2 r3 t, ∃ es, es = received ++ [.process r1 (.error .invalidBuffer) r2
            (stationOf [12, 4] 0)] ++ [.process r2 (.ok ()) r3 t] ∧
        Run (Step Unit) r0 es r3 ∧ r3.cached = none ∧ r3.queue = [] ∧
        accepted es = [[0xaa], [0xbb]] ∧ left es = accepted es ∧ posted es = [[0xbb]]) ∧
      (∃ r1 r2 r3 r4 r5 t u, ∃ es, es = received ++ [.process r1 (.ok ()) r2 t] ++
            [.process r2 (.ok ()) r3 wide] ++
            [.process r3 (.error .invalidBuffer) r4 (stationOf [12, 4] 1)] ++
            [.process r4 (.ok ()) r5 u] ∧
        Run (Step Unit) r0 es r5 ∧ r5.cached = none ∧ r5.queue = [] ∧
        accepted es = [[0xaa], [0xbb]] ∧ posted es = accepted es) := by
  intro wide received
  have hcreate : (Receive.create 0 ⟨2⟩ ⟨0⟩).eval wide =
      (.ok (sideOf .waitForFrame .second false [] none), wide) := rfl
  refine ⟨_, hcreate, ?_, ?_⟩
  · obtain ⟨r1, r2, r3, t, es, hes, hrun, rfl, hposted⟩ := run_stranded
    obtain ⟨haccounted, -, -⟩ := accepted_eq_left hcreate hrun
    have hleft : left es = accepted es :=
      (haccounted.trans ((List.append_nil _).trans (List.append_nil _))).symm
    subst hes
    exact ⟨r1, r2, _, t, _, rfl, hrun, rfl, rfl, rfl, hleft, hposted⟩
  · obtain ⟨r1, r2, r3, r4, r5, t, u, es, hes, hrun, rfl, hnone⟩ := run_reposted
    obtain ⟨haccounted, horderly, -⟩ := accepted_eq_left hcreate hrun
    have hleft : left es = accepted es :=
      (haccounted.trans ((List.append_nil _).trans (List.append_nil _))).symm
    have hposted : posted es = accepted es := (horderly hnone).1.symm.trans hleft
    subst hes
    exact ⟨r1, r2, r3, r4, _, t, u, _, rfl, hrun, rfl, rfl, rfl, hposted⟩

end Retention

end SlimInterface
