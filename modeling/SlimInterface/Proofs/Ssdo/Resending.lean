import SlimInterface.Proofs.Ssdo.Attempts
import SlimInterface.Proofs.Ssdo.ReceiveStep
import SlimInterface.Proofs.Ssdo.TransmitStep

/-!
# How often a frame is sent

A transmitting side is opened on a stream that others use as well. A step may be handed any stream,
since what the buffer holds while a frame is in flight does not matter; the stream the side was
opened on advances its timer.

What the counter of the timer shows in a pause is the number of rounds since the latest call of the
network, because nothing else on the stream holds it. With that, every step makes the call that was
due (`Inv.follows`), and `attempts_of_run` says what this comes to for the calls for a frame.
-/

namespace SlimInterface

variable {υ : Type}

/-- Sending is written down with the answer. -/
theorem Transport.send_of_recorded {net : Transport υ} {id : UInt8} {p : Bytes}
    {w w' : List NetCall × υ} {r : Except Fault Unit}
    (h : (net.recorded.send id p).eval w = (r, w')) : w'.1 = w.1 ++ [.send id p r.isOk] := by
  cases h
  rfl

theorem Transport.poll_of_recorded {net : Transport υ} {id : UInt8} {w w' : List NetCall × υ}
    {r : TxProgress} (h : net.recorded.poll id w = (r, w')) : w'.1 = w.1 ++ [.poll id r] := by
  cases h
  rfl

namespace Sending

/-! ## Runs -/

/-- What happens to a transmitting side and its station. -/
inductive Event
  | process (c : Call)
  | sync
  /-- A second half of a cycle that comes as far as the action of the channel. -/
  | round
  /-- A second half of a cycle that an action before it ends. -/
  | short
  /-- Something goes on around the channel. -/
  | beside

/-- One event. A step may be handed another stream than the one the channel was opened on. The
action of the channel is the one at place `n` of the latter. -/
inductive Step (net : Transport υ) (n : Nat) (p : Transmit × Station (List NetCall × υ)) :
    Event → Transmit × Station (List NetCall × υ) → Prop
  | process {stream : Stream (Bench (List NetCall × υ))} {a : Except Fault Unit} {t : Transmit}
      {u : Station (List NetCall × υ)}
      (h : (Transmit.process net.recorded).eval (p.1, ⟨stream, p.2.around⟩) = (a, t, u)) :
      Step net n p (.process ⟨stream.frame? p.1.buffer, p.1.state, t.state,
        u.around.world.1.drop p.2.around.world.1.length⟩) (t, ⟨p.2.stream, u.around⟩)
  | sync : Step net n p .sync (p.1, (Site.processSync.eval p.2).2)
  | round {q : Bytes × Bench (List NetCall × υ)}
      (hran : (Stream.runActions .post p.2.stream.descriptors (p.2.stream.post.take n)).eval
        (p.2.stream.image, p.2.around) = (.ok (), q)) :
      Step net n p .round (p.1, (Site.processPost.eval p.2).2)
  | short {f : Fault} {q : Bytes × Bench (List NetCall × υ)}
      (hran : (Stream.runActions .post p.2.stream.descriptors (p.2.stream.post.take n)).eval
        (p.2.stream.image, p.2.around) = (.error f, q)) :
      Step net n p .short (p.1, (Site.processPost.eval p.2).2)
  | beside {t : Station (List NetCall × υ)} (h : Station.Beside p.1.retry.counter p.2 t) :
      Step net n p .beside (p.1, t)

/-- The record after another event. -/
def Record.next (r : Record) : Event → Record
  | .process c => r.call c
  | .round => { r with rounds := r.rounds + 1 }
  | _ => r

/-- The record after some events. -/
def record (es : List Event) : Record := es.foldl Record.next .clear

theorem record_append_one (es : List Event) (ev : Event) :
    record (es ++ [ev]) = (record es).next ev := by
  unfold record
  rw [List.foldl_append]
  rfl

variable {id : UInt8} {x y : Option Counter} {p : Bytes} {r : Record} {f : Frame}

/-! ## What a run keeps -/

/-- The channel has its place on the station. -/
structure Lodged (id : UInt8) (n : Nat) (t : Transmit) (s : Station (List NetCall × υ)) :
    Prop extends Station.Ticks n t.retry t.buffer s where
  id_eq : t.id = id
  threshold : t.retry.threshold = retryCycles

/-- What holds of the channel and its station after the events `es`. -/
structure Inv (id : UInt8) (n : Nat) (es : List Event)
    (q : Transmit × Station (List NetCall × υ)) : Prop extends Lodged id n q.1 q.2 where
  counted : q.2.around.counters[q.1.retry.counter]? ≠ none
  phase : Phase id (record es) q.1.payload q.2.around.counters[q.1.retry.counter]? q.1.state

variable {net : Transport υ} {n : Nat} {t t' : Transmit} {s u : Station (List NetCall × υ)}
  {q : Transmit × Station (List NetCall × υ)} {es : List Event} {ev : Event}
  {stream : Stream (Bench (List NetCall × υ))} {a : Except Fault Unit}
  {b : Bench (List NetCall × υ)}

theorem Lodged.of_counts {g : Option Counter → Option Counter} (h : Lodged id n t s)
    (hu : Station.Counts t.retry.counter g s u) : Lodged id n t u :=
  ⟨h.toTicks.of_counts hu, h.id_eq, h.threshold⟩

/-- The pause is over once the rounds since the latest call are enough. -/
theorem Inv.expired_iff (h : Inv id n es (t, s)) (hs : t.state = .waitForNextArpRetry) :
    t.retryState s.around = .expired ↔ retryCycles ≤ (record es).rounds := by
  have hphase : Phase id (record es) t.payload s.around.counters[t.retry.counter]? t.state :=
    h.phase
  have hthreshold : t.retry.threshold = retryCycles := h.threshold
  rw [hs] at hphase
  obtain ⟨f, failed, polls, hshows, hsteps, hx⟩ := hphase
  unfold Transmit.retryState
  rw [Timer.expired_iff hx (by rw [hthreshold]; decide), hthreshold]

/-- What a step calls the network for is due, and the record goes with it. -/
theorem Inv.follows (h : Inv id n es (t, s))
    (hstep : Transmit.ProcessStep net.recorded t ⟨stream, s.around⟩ a t' b) :
    Follows id (record es) ⟨stream.frame? t.buffer, t.state, t'.state,
      b.world.1.drop s.around.world.1.length⟩ t'.payload b.counters[t.retry.counter]? := by
  have hphase : Phase id (record es) t.payload s.around.counters[t.retry.counter]? t.state :=
    h.phase
  have hid : t.id = id := h.id_eq
  cases hstep with
  | missing hs | malformed hs | known hs =>
    rw [hs] at hphase ⊢
    rw [List.drop_length]
    exact hphase.idle
  | @captured b f hs hb hf =>
    have hshown : stream.frame? t.buffer = some f := by
      rw [Stream.frame?, show stream.buffer? t.buffer = some b from hb, Option.bind_some, hf]
      rfl
    rw [hs] at hphase
    rw [hs, hshown, List.drop_length]
    exact hphase.captured f
  | sent hs hn =>
    rw [hs] at hphase
    rw [hs, Transport.send_of_recorded hn, List.drop_left, hid]
    exact hphase.sent
  | refused hs hn =>
    rw [hs] at hphase
    rw [hs, Transport.send_of_recorded hn, List.drop_left, hid]
    exact hphase.refused
  | pending hs hn =>
    rw [hs] at hphase
    rw [hs, Transport.poll_of_recorded hn, List.drop_left, hid]
    exact hphase.pending
  | finished hs hn =>
    rw [hs] at hphase
    rw [hs, Transport.poll_of_recorded hn, List.drop_left, hid]
    exact hphase.finished
  | @unresolved w hs hn =>
    obtain ⟨x, hx⟩ := Option.ne_none_iff_exists'.mp h.counted
    have hstart : (s.around.counters.modify t.retry.counter Counter.start)[t.retry.counter]? =
        some ⟨0, true⟩ := by
      rw [List.getElem?_modify_eq, show s.around.counters[t.retry.counter]? = _ from hx]
      rfl
    rw [hs] at hphase
    show Follows id (record es) ⟨_, _, _, w.1.drop s.around.world.1.length⟩ _ _
    rw [hs, Transport.poll_of_recorded hn, List.drop_left, hid]
    exact hphase.unresolved hstart
  | resting hs ht =>
    have hrounds : (record es).rounds < retryCycles :=
      Nat.lt_of_not_le fun hr => ht ((h.expired_iff hs).mpr hr)
    rw [hs] at hphase
    rw [hs, List.drop_length]
    exact hphase.resting hrounds
  | rested hs ht =>
    have hrounds : retryCycles ≤ (record es).rounds := (h.expired_iff hs).mp ht
    rw [hs] at hphase
    show Follows id (record es) ⟨_, _, _, s.around.world.1.drop s.around.world.1.length⟩ _ _
    rw [hs, List.drop_length]
    exact hphase.rested hrounds
  | acknowledged hs =>
    rw [hs] at hphase
    show Follows id (record es) ⟨_, _, _, s.around.world.1.drop s.around.world.1.length⟩ _ _
    rw [hs, List.drop_length]
    exact hphase.acknowledged
  | stuck hs =>
    rw [hs] at hphase
    rw [hs, List.drop_length]
    exact hphase.stuck

theorem Inv.process (h : Inv id n es (t, s))
    (hstep : Transmit.ProcessStep net.recorded t ⟨stream, s.around⟩ a t' b) :
    Inv id n (es ++ [.process ⟨stream.frame? t.buffer, t.state, t'.state,
      b.world.1.drop s.around.world.1.length⟩]) (t', ⟨s.stream, b⟩) := by
  obtain ⟨hid, hbuffer, hretry⟩ := hstep.side_eq
  have hcounted := hstep.counter_ne_none
  refine ⟨⟨?_, hid.trans h.id_eq, ?_⟩, ?_, ?_⟩
  · rw [hbuffer, hretry]
    exact ⟨h.buffer, h.quiet, h.ticked⟩
  · rw [hretry]
    exact h.threshold
  · rw [hretry]
    exact hcounted h.counted
  · rw [record_append_one, hretry]
    exact (h.follows hstep).phase

/-- What happens around the channel leaves its timer alone. -/
theorem Inv.stay (h : Inv id n es (t, s)) (hev : ∀ r : Record, r.next ev = r)
    (hu : Lodged id n t u)
    (hx : u.around.counters[t.retry.counter]? = s.around.counters[t.retry.counter]?) :
    Inv id n (es ++ [ev]) (t, u) := by
  refine ⟨hu, ?_, ?_⟩
  · rw [hx]
    exact h.counted
  · rw [record_append_one, hev, hx]
    exact h.phase

/-- A round that reaches the action of the channel counts. -/
theorem Inv.round (h : Inv id n es (t, s))
    (hu : Station.Counts t.retry.counter (Option.map Counter.increment) s u) :
    Inv id n (es ++ [.round]) (t, u) := by
  refine ⟨h.toLodged.of_counts hu, ?_, ?_⟩
  · rw [hu.counter]
    exact fun hn => h.counted (Option.map_eq_none_iff.mp hn)
  · rw [record_append_one, hu.counter]
    exact Phase.round h.phase

/-- A step is one of those of the transmitting side. -/
theorem Step.process_cases {c : Call} (hs : Step net n (t, s) (.process c) q) :
    ∃ (stream : Stream (Bench (List NetCall × υ))) (a : Except Fault Unit) (t' : Transmit)
      (b : Bench (List NetCall × υ)),
      Transmit.ProcessStep net.recorded t ⟨stream, s.around⟩ a t' b ∧ q = (t', ⟨s.stream, b⟩) ∧
        c = ⟨stream.frame? t.buffer, t.state, t'.state,
          b.world.1.drop s.around.world.1.length⟩ := by
  cases hs with
  | @process stream a t' u h =>
    obtain ⟨a', t'', b, heval, hstep⟩ := Transmit.eval_process net.recorded t ⟨stream, s.around⟩
    rw [heval] at h
    cases h
    exact ⟨stream, _, _, _, hstep, rfl, rfl⟩

/-- Every event keeps the invariant. -/
theorem Inv.step (h : Inv id n es q) {q' : Transmit × Station (List NetCall × υ)}
    (hs : Step net n q ev q') : Inv id n (es ++ [ev]) q' := by
  obtain ⟨t, s⟩ := q
  cases ev with
  | process c =>
    obtain ⟨stream, a, t', b, hstep, rfl, rfl⟩ := hs.process_cases
    exact h.process hstep
  | sync =>
    cases hs
    have hu := Station.counts_processSync h.quiet
    exact h.stay (fun _ => rfl) (h.toLodged.of_counts hu) hu.counter
  | round =>
    cases hs with
    | round hran => exact h.round (h.toTicks.counts_processPost hran)
  | short =>
    cases hs with
    | short hran =>
      have hu := Station.counts_processPost_short h.quiet hran
      exact h.stay (fun _ => rfl) (h.toLodged.of_counts hu) hu.counter
  | beside =>
    cases hs with
    | beside hu =>
      exact h.stay (fun _ => rfl) ⟨h.toTicks.of_beside hu, h.id_eq, h.threshold⟩ hu.counter_eq

/-! ## The calls of the network -/

/-- The calls of the network after the events `es`, and at the step after them. -/
structure Disciplined (net : Transport υ) (id : UInt8) (n : Nat) (es : List Event) (t : Transmit)
    (s : Station (List NetCall × υ)) : Prop where
  /-- There is a frame unless the channel waits for one. -/
  idle : (record es).frame = none ↔ t.state = .waitForFrame
  /-- The network is called for a frame only. -/
  silent : (record es).frame = none → (record es).calls = []
  /-- For a frame it is called in attempts. -/
  course : ∀ f, (record es).frame = some f → Course id f.payload (record es).calls
  /-- It is asked about a payload only when it took it. -/
  asked : ∀ f, (record es).frame = some f → Asked id f.payload (record es).calls
  /-- A step makes the calls that are due. -/
  due : ∀ c q, Step net n (t, s) (.process c) q → (record es).due.Met id c.calls
  /-- A frame is acknowledged once the network has finished it; it was sent once more than its
  attempts failed. -/
  acknowledged : ∀ c q, Step net n (t, s) (.process c) q → c.Acknowledges →
    ∃ f failed polls, (record es).frame = some f ∧
      (record es).calls = attempts id f.payload failed ++ settled id f.payload polls ∧
      (record es).calls.countP NetCall.isSend = 1 + (record es).calls.countP NetCall.isRefusal +
        (record es).calls.countP NetCall.isUnresolved

theorem Phase.course {st : TransmitState} (h : Phase id r p x st) (hf : r.frame = some f) :
    Course id f.payload r.calls := by
  have hshows {calls : List NetCall} {g : Frame} (hg : r.Shows p g calls) :
      p = f.payload ∧ r.calls = calls := by
    obtain rfl : f = g := Option.some.inj (hf.symm.trans hg.frame)
    exact ⟨hg.payload, hg.calls⟩
  cases st with
  | waitForFrame => cases hf.symm.trans h.1
  | processFrame =>
    obtain ⟨g, failed, hg, -⟩ := h
    obtain ⟨rfl, hcalls⟩ := hshows hg
    rw [hcalls]
    exact .failed failed
  | waitForTxFinished =>
    obtain ⟨g, failed, polls, hg⟩ := h
    obtain ⟨rfl, hcalls⟩ := hshows hg
    rw [hcalls]
    exact .taken failed polls
  | waitForNextArpRetry =>
    obtain ⟨g, failed, polls, hg, -⟩ := h
    obtain ⟨rfl, hcalls⟩ := hshows hg
    rw [hcalls]
    exact .failed _
  | txFinished =>
    obtain ⟨g, failed, polls, hg⟩ := h
    obtain ⟨rfl, hcalls⟩ := hshows hg
    rw [hcalls]
    exact .settled failed polls

theorem Phase.idle_iff {st : TransmitState} (h : Phase id r p x st) :
    r.frame = none ↔ st = .waitForFrame := by
  have hshows {calls : List NetCall} {g : Frame} (hg : r.Shows p g calls) : r.frame ≠ none := by
    rw [hg.frame]
    simp
  cases st with
  | waitForFrame => exact iff_of_true h.1 rfl
  | processFrame =>
    obtain ⟨g, failed, hg, -⟩ := h
    exact iff_of_false (hshows hg) (by decide)
  | waitForTxFinished =>
    obtain ⟨g, failed, polls, hg⟩ := h
    exact iff_of_false (hshows hg) (by decide)
  | waitForNextArpRetry =>
    obtain ⟨g, failed, polls, hg, -⟩ := h
    exact iff_of_false (hshows hg) (by decide)
  | txFinished =>
    obtain ⟨g, failed, polls, hg⟩ := h
    exact iff_of_false (hshows hg) (by decide)

theorem Inv.disciplined (h : Inv id n es (t, s)) : Disciplined net id n es t s where
  idle := h.phase.idle_iff
  silent := by
    intro hf
    have hphase : Phase id (record es) t.payload _ t.state := h.phase
    rw [hphase.idle_iff.mp hf] at hphase
    exact hphase.2
  course := fun f hf => h.phase.course hf
  asked := fun f hf => (h.phase.course hf).asked
  due := by
    intro c q hs
    obtain ⟨stream, a, t', b, hstep, -, rfl⟩ := hs.process_cases
    exact (h.follows hstep).met
  acknowledged := by
    intro c q hs hc
    obtain ⟨stream, a, t', b, -, -, rfl⟩ := hs.process_cases
    have hphase : Phase id (record es) t.payload _ t.state := h.phase
    rw [show t.state = .txFinished from hc.1] at hphase
    obtain ⟨f, failed, polls, hshows⟩ := hphase
    refine ⟨f, failed, polls, hshows.frame, ?_, ?_⟩
    · rw [hshows.calls, hshows.payload]
    · rw [hshows.calls]
      exact countP_settled failed polls

/-! ## Opening -/

variable {buffer : BufferId} {status : Status}

theorem inv_fresh (hquiet : s.stream.Quiet s.around.counters.length fun _ => False)
    (h : (Transmit.create id buffer status).eval s = (.ok t, u)) :
    Inv id s.stream.post.length [] (t, u) := by
  obtain ⟨⟨d, hd, -⟩, -, rfl, rfl⟩ := Transmit.create_eq_ok.mp h
  have hne : s.stream.descriptor? buffer ≠ none := by
    rw [hd]
    simp
  refine ⟨⟨Station.ticks_append hne hquiet, rfl, rfl⟩, ?_, rfl, rfl⟩
  rw [List.getElem?_concat_length]
  simp

/-- **How often a frame is sent.** A channel is opened on a station where nothing holds the counter
its timer is given. Whatever is then done with the channel, in the cycles of the stream and around
it, whatever the buffer shows at each step and whatever the network answers, each frame is sent in
attempts: the next attempt follows a refusal at once, and a failure to resolve after a pause of
`retryCycles` rounds. -/
theorem attempts_of_run {before s0 : Station (List NetCall × υ)} {t0 : Transmit}
    (hquiet : before.stream.Quiet before.around.counters.length fun _ => False)
    (hcreate : (Transmit.create id buffer status).eval before = (.ok t0, s0))
    (hrun : Run (Step net before.stream.post.length) (t0, s0) es (t, s)) :
    Disciplined net id before.stream.post.length es t s :=
  (hrun.invariant (I := Inv id before.stream.post.length) (inv_fresh hquiet hcreate)
    fun h hs => h.step hs).disciplined

/-! ## A frame that is sent again -/

/-- A network that counts its calls. It refuses the first payload, cannot resolve the second, and
finishes the third. -/
def reluctant : Transport Nat where
  send _ _ := fun m => ⟨if m = 0 then .error .channelBusy else .ok (), m + 1, []⟩
  poll _ m := (if m = 2 then .arpFailed else .finished, m + 1)

/-- A channel buffer between the two acknowledge registers. -/
def plan : Blueprint (Bench (List NetCall × Nat)) where
  descriptors := Descriptor.layout [4, Frame.bufferSize, 4]
  transfer _ := pure ()
  consAck := ⟨0⟩
  prodAck := ⟨2⟩

def request : Frame := ⟨.second, [7, 8, 9]⟩

/-- The channel in a state, with the payload it has captured. -/
def channel (state : TransmitState) (payload : Bytes) (pending : SeqNr) : Transmit :=
  ⟨0, ⟨1⟩, state, .first, pending, none, payload, ⟨retryCycles, 0⟩, ⟨0⟩⟩

/-- The station of the channel with the request in the buffer. -/
def station (counter : Counter) (calls : List NetCall) : Station (List NetCall × Nat) :=
  ⟨{ plan.bare.append .post ⟨⟨1⟩, Bench.tick ⟨retryCycles, 0⟩⟩ with
      image := (Span.mk 4 Frame.bufferSize).place
        (request.imprint (List.replicate Frame.bufferSize 0)) plan.bare.image },
    ⟨[.clear], [counter], (calls, calls.length)⟩⟩

set_option maxRecDepth 2000 in
theorem frame_station (counter : Counter) (calls : List NetCall) :
    (station counter calls).stream.frame? ⟨1⟩ = some request := by
  rfl

/-- The station before the channel is opened. -/
def bare : Station (List NetCall × Nat) := ⟨plan.bare, ⟨[.clear], [], ([], 0)⟩⟩

def opened : Station (List NetCall × Nat) := ((Transmit.create 0 ⟨1⟩ ⟨0⟩).eval bare).2

/-- The calls up to the pause. -/
def early : List NetCall :=
  [.send 0 request.payload false, .send 0 request.payload true, .poll 0 .arpFailed]

/-- A step on the station, with the calls it adds. -/
theorem step_process {st st' : TransmitState} {p p' : Bytes} {pending pending' : SeqNr}
    {x y : Counter} {calls more : List NetCall}
    (h : (Transmit.process reluctant.recorded).eval (channel st p pending, station x calls) =
      (.ok (), channel st' p' pending', station y (calls ++ more))) :
    Step reluctant 0 (channel st p pending, station x calls)
      (.process ⟨some request, st, st', more⟩)
      (channel st' p' pending', station y (calls ++ more)) := by
  have hdrop : (calls ++ more).drop calls.length = more := List.drop_left
  have hstep : Step reluctant 0 (channel st p pending, station x calls)
      (.process ⟨(station x calls).stream.frame? ⟨1⟩, st, st', (calls ++ more).drop calls.length⟩)
      (channel st' p' pending', station y (calls ++ more)) :=
    @Step.process _ reluctant 0 (channel st p pending, station x calls) (station x calls).stream
      _ _ _ h
  rw [frame_station, hdrop] at hstep
  exact hstep

set_option maxRecDepth 2000 in
/-- Rounds of the stream count, and do nothing else. -/
theorem run_rounds (t : Transmit) (calls : List NetCall) (m : Nat) :
    Run (Step reluctant 0) (t, station ⟨0, true⟩ calls) (List.replicate m .round)
      (t, station ⟨min m Counter.limit, true⟩ calls) := by
  induction m with
  | zero => exact .start _
  | succ m ih =>
    have hround : Step reluctant 0 (t, station ⟨min m Counter.limit, true⟩ calls) .round
        (t, station (Counter.increment ⟨min m Counter.limit, true⟩) calls) := .round rfl
    rw [Counter.increment_min] at hround
    rw [List.replicate_succ']
    exact ih.next hround

set_option maxRecDepth 2000 in
/-- One attempt is refused and one does not find its destination; after the pause the third one is
finished, and its acknowledge is the next step. -/
theorem attempts_of_run_resent :
    bare.stream.Quiet bare.around.counters.length (fun _ => False) ∧
    (Transmit.create 0 ⟨1⟩ ⟨0⟩).eval bare = (.ok (channel .waitForFrame [] .first), opened) ∧
    ∃ es t s c q, Run (Step reluctant bare.stream.post.length)
        (channel .waitForFrame [] .first, opened) es (t, s) ∧
      (record es).calls = early ++ settled 0 request.payload 0 ∧
      Step reluctant bare.stream.post.length (t, s) (.process c) q ∧ c.Acknowledges ∧
      (record es).calls.countP NetCall.isSend = 1 + (record es).calls.countP NetCall.isRefusal +
        (record es).calls.countP NetCall.isUnresolved := by
  have hopen : (Stream.create plan.descriptors plan.transfer plan.consAck plan.prodAck).eval () =
      (.ok plan.bare, ()) := rfl
  have hquiet : bare.stream.Quiet bare.around.counters.length fun _ => False :=
    Stream.quiet_create hopen fun _ _ => rfl
  have hcreate : (Transmit.create 0 ⟨1⟩ ⟨0⟩).eval bare =
      (.ok (channel .waitForFrame [] .first), opened) := rfl
  let p := request.payload
  have hshown : Step reluctant 0 (channel .waitForFrame [] .first, opened) .beside
      (channel .waitForFrame [] .first, station .idle []) := .beside (.edit ⟨1⟩ request.write)
  have hcaptured : Step reluctant 0 (channel .waitForFrame [] .first, station .idle [])
      (.process ⟨some request, .waitForFrame, .processFrame, []⟩)
      (channel .processFrame p .second, station .idle []) := step_process rfl
  have hrefused : Step reluctant 0 (channel .processFrame p .second, station .idle [])
      (.process ⟨some request, .processFrame, .processFrame, [.send 0 p false]⟩)
      (channel .processFrame p .second, station .idle (early.take 1)) := step_process rfl
  have hsent : Step reluctant 0 (channel .processFrame p .second, station .idle (early.take 1))
      (.process ⟨some request, .processFrame, .waitForTxFinished, [.send 0 p true]⟩)
      (channel .waitForTxFinished p .second, station .idle (early.take 2)) := step_process rfl
  have hunresolved : Step reluctant 0
      (channel .waitForTxFinished p .second, station .idle (early.take 2))
      (.process ⟨some request, .waitForTxFinished, .waitForNextArpRetry, [.poll 0 .arpFailed]⟩)
      (channel .waitForNextArpRetry p .second, station ⟨0, true⟩ early) := step_process rfl
  have hrested : Step reluctant 0
      (channel .waitForNextArpRetry p .second, station ⟨min retryCycles Counter.limit, true⟩ early)
      (.process ⟨some request, .waitForNextArpRetry, .processFrame, []⟩)
      (channel .processFrame p .second, station .idle early) := step_process rfl
  have hresent : Step reluctant 0 (channel .processFrame p .second, station .idle early)
      (.process ⟨some request, .processFrame, .waitForTxFinished, [.send 0 p true]⟩)
      (channel .waitForTxFinished p .second, station .idle (early ++ [.send 0 p true])) :=
    step_process rfl
  have hfinished : Step reluctant 0
      (channel .waitForTxFinished p .second, station .idle (early ++ [.send 0 p true]))
      (.process ⟨some request, .waitForTxFinished, .txFinished, [.poll 0 .finished]⟩)
      (channel .txFinished p .second, station .idle (early ++ settled 0 p 0)) := step_process rfl
  have hrun := ((((Run.one hshown).next hcaptured).next hrefused).next hsent).next hunresolved
    |>.trans (run_rounds _ _ retryCycles)
    |>.next hrested |>.next hresent |>.next hfinished
  have hlast := @Step.process _ reluctant 0
    (channel .txFinished p .second, station .idle (early ++ settled 0 p 0))
    (station .idle []).stream _ _ _ rfl
  have hdisciplined := attempts_of_run hquiet hcreate hrun
  obtain ⟨f, failed, polls, -, -, hcount⟩ := hdisciplined.acknowledged _ _ hlast ⟨rfl, rfl⟩
  exact ⟨hquiet, hcreate, _, _, _, _, _, hrun, rfl, hlast, ⟨rfl, rfl⟩, hcount⟩

end Sending

end SlimInterface
