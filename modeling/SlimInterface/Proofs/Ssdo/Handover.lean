import SlimInterface.Proofs.Remote.Linked

/-!
# How far a published frame has come

The remote side publishes a frame; a transfer brings it to the endpoint, which hands it to
the network and acknowledges it. The acknowledge passes from the register through the status
buffer to the remote copy, and the remote side waits for it there before it publishes the next
frame.

`View` is what both sides know of the frame. `Phase` has one case for the time in which
everything is acknowledged and one for the time in which a frame is due. `Move` lists what the
transmitting side does, with its calls of the network; `Phase.move` and `Phase.acknowledge`
say what becomes of the frame.
-/

namespace SlimInterface

variable {υ : Type}

/-- A call of the network, with its answer. -/
inductive NetCall
  | send (id : UInt8) (payload : Bytes) (accepted : Bool)
  | poll (id : UInt8) (progress : TxProgress)
  deriving DecidableEq, Repr

/-- A network whose calls are written down. -/
def Transport.recorded (net : Transport υ) : Transport (List NetCall × υ) where
  send id p := fun w =>
    let o := net.send id p w.2
    ⟨o.result, (w.1 ++ [.send id p o.result.isOk], o.state), o.lines⟩
  poll id w := ((net.poll id w.2).1, w.1 ++ [.poll id (net.poll id w.2).1], (net.poll id w.2).2)

/-- Sending is written down with the answer. -/
theorem Transport.send_recorded {net : Transport υ} {id : UInt8} {p : Bytes}
    {w w' : Link × List NetCall × υ} {r : Except Fault Unit}
    (h : (net.recorded.linked.send id p).eval w = (r, w')) :
    w'.2.1 = w.2.1 ++ [.send id p r.isOk] := by
  cases h
  rfl

theorem Transport.poll_recorded {net : Transport υ} {id : UInt8} {w w' : Link × List NetCall × υ}
    {r : TxProgress} (h : net.recorded.linked.poll id w = (r, w')) :
    w'.2.1 = w.2.1 ++ [.poll id r] := by
  cases h
  rfl

namespace Transmission

/-- The number of the frame the remote side publishes next. -/
def nextSeq : Option SeqNr → SeqNr
  | none => .second
  | some s => s.flip

/-- The network accepted a payload, and has not finished it since. -/
def Sent (p : Bytes) (calls : List NetCall) : Prop :=
  ∃ front polls, calls = front ++ .send 0 p true :: polls ∧ ∀ x ∈ polls, x = .poll 0 .pending

/-- The network accepted a payload and then finished it. -/
def Finished (p : Bytes) (calls : List NetCall) : Prop :=
  ∃ before, Sent p before ∧ calls = before ++ [.poll 0 .finished]

/-! ## How far a frame and its acknowledge have come -/

/-- What both sides know of the frame published last. -/
structure View where
  state : TransmitState
  acked : SeqNr
  pending : SeqNr
  payload : Bytes
  /-- The frame the remote side shows. -/
  shown : Except Fault Frame
  /-- The frame in the local buffer. -/
  held : Except Fault Frame
  /-- The acknowledge in the register. -/
  register : SeqNr
  /-- The acknowledge in the local status buffer. -/
  out : SeqNr
  /-- The acknowledge the remote side has received. -/
  seen : SeqNr

/-- The view of an endpoint on a link. -/
def view (c : Config) (k : Live (Link × υ)) : View where
  state := k.txState
  acked := k.acked
  pending := k.pending
  payload := k.payload
  shown := Frame.read (k.link.consumed c c.ssdoConsumer)
  held := Frame.read (k.buffer c c.ssdoConsumer)
  register := SeqNr.ofLowBit k.registers.ssdoRx.toNat
  out := (k.buffer c c.statusIn).flagAt Status.ssdoRxOffset
  seen := (k.link.sent c c.statusIn).flagAt Status.ssdoRxOffset

/-- What the calls of the network must have been in a state of the transmitting side. -/
def Progress (p : Bytes) (calls : List NetCall) : TransmitState → Prop
  | .waitForTxFinished => Sent p calls
  | .txFinished => Finished p calls
  | _ => True

/-- How far the frame published last has come; it is due until it is acknowledged. -/
inductive Phase (v : View) (last : Option SeqNr) (calls : List NetCall) : Option Frame → Prop
  /-- Every frame was acknowledged; the remote side may not know yet. -/
  | settled {f g : Frame} (hstate : v.state = .waitForFrame) (hshown : v.shown = .ok f)
      (hf : f.seq = v.acked) (hheld : v.held = .ok g) (hg : g.seq = v.acked)
      (hregister : v.register = v.acked) (hseen : v.seen = v.acked → v.out = v.acked)
      (hlast : last = some v.acked ∨ last = none ∧ v.acked = .first ∧ v.seen = v.acked) :
      Phase v last calls none
  /-- A frame is due. While it waits in the remote copy, the local one is the last. -/
  | due {f g : Frame} (hshown : v.shown = .ok f) (hf : f.seq = v.acked.flip)
      (hheld : v.held = .ok g) (hregister : v.register = v.acked) (hout : v.out = v.acked)
      (hseen : v.seen = v.acked) (hlast : last = some f.seq)
      (hwait : v.state = .waitForFrame → g.seq = v.acked ∨ g = f)
      (hbusy : v.state ≠ .waitForFrame → g = f ∧ v.payload = f.payload ∧ v.pending = f.seq)
      (hcalls : Progress f.payload calls v.state) : Phase v last calls (some f)

/-- What one step of the transmitting side does to the view, and which calls it makes. -/
inductive Move (v : View) : List NetCall → View → Prop
  | stay (hs : v.state = .waitForFrame) (hf : ∀ f, v.held = .ok f → f.seq = v.acked) : Move v [] v
  | capture {f : Frame} (hs : v.state = .waitForFrame) (hf : v.held = .ok f)
      (ha : f.seq ≠ v.acked) :
      Move v [] { v with state := .processFrame, payload := f.payload, pending := f.seq }
  | send (hs : v.state = .processFrame) :
      Move v [.send 0 v.payload true] { v with state := .waitForTxFinished }
  | refuse (hs : v.state = .processFrame) : Move v [.send 0 v.payload false] v
  | wait (hs : v.state = .waitForTxFinished) : Move v [.poll 0 .pending] v
  | finish (hs : v.state = .waitForTxFinished) :
      Move v [.poll 0 .finished] { v with state := .txFinished }
  | fail (hs : v.state = .waitForTxFinished) :
      Move v [.poll 0 .arpFailed] { v with state := .waitForNextArpRetry }
  | rest (hs : v.state = .waitForNextArpRetry) : Move v [] v
  | resume (hs : v.state = .waitForNextArpRetry) : Move v [] { v with state := .processFrame }
  | acknowledge (hs : v.state = .txFinished) :
      Move v [] { v with state := .waitForFrame, acked := v.pending, register := v.pending }

theorem sent_append (p : Bytes) (calls : List NetCall) : Sent p (calls ++ [.send 0 p true]) :=
  ⟨calls, [], rfl, fun _ hx => absurd hx List.not_mem_nil⟩

theorem Sent.poll {p : Bytes} {calls : List NetCall} (h : Sent p calls) :
    Sent p (calls ++ [.poll 0 .pending]) := by
  obtain ⟨front, polls, rfl, hpolls⟩ := h
  refine ⟨front, polls ++ [.poll 0 .pending], by simp, ?_⟩
  intro x hx
  rcases List.mem_append.mp hx with hx | hx
  · exact hpolls x hx
  · exact List.mem_singleton.mp hx

namespace Phase

variable {v v' : View} {last : Option SeqNr} {calls more : List NetCall} {q : Option Frame}

/-- A transfer brings the frame that is shown, and carries the acknowledge out. -/
theorem exchange (h : Phase v last calls q) :
    Phase { v with held := v.shown, seen := v.out } last calls q := by
  cases h with
  | settled hstate hshown hf _ _ hregister hseen hlast =>
    refine .settled hstate hshown hf hshown hf hregister id ?_
    rcases hlast with hl | ⟨hl, ha, hs⟩
    · exact .inl hl
    · exact .inr ⟨hl, ha, hseen hs⟩
  | due hshown hf _ hregister hout _ hlast _ hbusy hcalls =>
    exact .due hshown hf hshown hregister hout hout hlast (fun _ => .inr rfl)
      (fun hs => ⟨rfl, (hbusy hs).2⟩) hcalls

/-- The register is published after each transfer. -/
theorem round (h : Phase v last calls q) : Phase { v with out := v.register } last calls q := by
  cases h with
  | settled hstate hshown hf hheld hg hregister _ hlast =>
    exact .settled hstate hshown hf hheld hg hregister (fun _ => hregister) hlast
  | due hshown hf hheld hregister _ hseen hlast hwait hbusy hcalls =>
    exact .due hshown hf hheld hregister hregister hseen hlast hwait hbusy hcalls

/-- The remote side publishes a frame only when none is due. -/
theorem publish {f : Frame} (h : Phase v last calls q) (hseq : f.seq = nextSeq last)
    (hlast : ∀ s, last = some s → v.seen = s) :
    q = none ∧ Phase { v with shown := .ok f } (some f.seq) calls (some f) := by
  cases h with
  | settled hstate _ _ hheld hg hregister hseen hl =>
    -- the remote side has seen the last acknowledge, or has published nothing yet
    have hnext : v.seen = v.acked ∧ f.seq = v.acked.flip := by
      rcases hl with rfl | ⟨rfl, ha, hs⟩
      · exact ⟨hlast _ rfl, hseq⟩
      · refine ⟨hs, ?_⟩
        rw [hseq, ha]
        rfl
    refine ⟨rfl, .due rfl hnext.2 hheld hregister (hseen hnext.1) hnext.1 rfl (fun _ => .inl hg)
      (fun hs => absurd hstate hs) ?_⟩
    show Progress f.payload calls v.state
    rw [hstate]
    trivial
  | due _ hf _ _ _ hseen hl =>
    -- the remote side waits for the acknowledge of the frame that is due
    exact absurd (hseen.symm.trans ((hlast _ hl).trans hf)) fun he => SeqNr.flip_ne _ he.symm

/-- Only the frame that is due is sent. -/
theorem send (h : Phase v last calls q) (hm : Move v more v') {id : UInt8} {p : Bytes} {r : Bool}
    (hmem : .send id p r ∈ more) : ∃ f, q = some f ∧ p = f.payload := by
  have hcase : v.state = .processFrame ∧ p = v.payload := by
    cases hm with
    | send hs =>
      cases List.mem_singleton.mp hmem
      exact ⟨hs, rfl⟩
    | refuse hs =>
      cases List.mem_singleton.mp hmem
      exact ⟨hs, rfl⟩
    | wait | finish | fail => cases List.mem_singleton.mp hmem
    | stay | capture | rest | resume | acknowledge => exact absurd hmem List.not_mem_nil
  cases h with
  | settled hstate => exact absurd (hcase.1.symm.trans hstate) (by simp)
  | due _ _ _ _ _ _ _ _ hbusy =>
    exact ⟨_, rfl, hcase.2.trans (hbusy (by rw [hcase.1]; simp)).2.1⟩

/-- The frame that is due is acknowledged once the network has finished it. -/
theorem acknowledge (h : Phase v last calls q) (hm : Move v more v') (hs : v.state = .txFinished) :
    v'.state ≠ .txFinished ∧ q = some ⟨v.pending, v.payload⟩ ∧ Finished v.payload calls ∧
      Phase v' last [] none := by
  cases hm with
  | acknowledge =>
    cases h with
    | settled hstate => exact absurd (hs.symm.trans hstate) (by simp)
    | @due f g hshown hf hheld _ _ hseen hlast _ hbusy hcalls =>
      obtain ⟨rfl, hpayload, hpending⟩ := hbusy (by rw [hs]; simp)
      rw [hs] at hcalls
      refine ⟨by simp, ?_, ?_, ?_⟩
      · rw [hpending, hpayload]
      · rw [hpayload]
        exact hcalls
      · refine .settled rfl hshown hpending.symm hheld hpending.symm rfl ?_ (.inl ?_)
        · intro hk
          refine absurd (hseen.symm.trans (hk.trans (hpending.trans hf))) ?_
          exact fun he => SeqNr.flip_ne _ he.symm
        · rw [hlast, hpending]
  | stay h' | capture h' | send h' | refuse h' | wait h' | finish h' | fail h' | rest h'
  | resume h' => exact absurd (hs.symm.trans h') (by simp)

/-- Every other step leaves the frame due. -/
theorem move (h : Phase v last calls q) (hm : Move v more v') (hs : v.state ≠ .txFinished) :
    v'.acked = v.acked ∧ Phase v' last (calls ++ more) q := by
  cases h with
  | settled hstate hshown hf hheld hg hregister hseen hlast =>
    cases hm with
    | stay => exact ⟨rfl, .settled hstate hshown hf hheld hg hregister hseen hlast⟩
    | capture _ hc ha =>
      -- the frame in the local copy was acknowledged
      rw [hheld] at hc
      cases hc
      exact absurd hg ha
    | send h' | refuse h' | wait h' | finish h' | fail h' | rest h' | resume h'
    | acknowledge h' => exact absurd (hstate.symm.trans h') (by simp)
  | @due f g hshown hf hheld hregister hout hseen hlast hwait hbusy hcalls =>
    -- most moves change the state alone; the frame stays due
    have hdue {v' : View} (hv : v'.shown = v.shown ∧ v'.held = v.held ∧ v'.register = v.register ∧
        v'.out = v.out ∧ v'.seen = v.seen ∧ v'.acked = v.acked)
        (hbusy' : g = f ∧ v'.payload = f.payload ∧ v'.pending = f.seq)
        (hcalls' : Progress f.payload (calls ++ more) v'.state) :
        v'.acked = v.acked ∧ Phase v' last (calls ++ more) (some f) := by
      obtain ⟨h1, h2, h3, h4, h5, h6⟩ := hv
      refine ⟨h6, .due (h1.trans hshown) (by rw [h6]; exact hf) (h2.trans hheld)
        (by rw [h3, h6]; exact hregister) (by rw [h4, h6]; exact hout)
        (by rw [h5, h6]; exact hseen) hlast (fun _ => .inr hbusy'.1) (fun _ => hbusy') hcalls'⟩
    cases hm with
    | stay =>
      rw [List.append_nil]
      exact ⟨rfl, .due hshown hf hheld hregister hout hseen hlast hwait hbusy hcalls⟩
    | capture hst hc ha =>
      rw [hheld] at hc
      cases hc
      -- the local copy is still the last frame, or it is the one that is due
      rcases hwait hst with hg | rfl
      · exact absurd hg ha
      · exact hdue ⟨rfl, rfl, rfl, rfl, rfl, rfl⟩ ⟨rfl, rfl, rfl⟩ trivial
    | send hst =>
      have hb := hbusy (by rw [hst]; simp)
      refine hdue ⟨rfl, rfl, rfl, rfl, rfl, rfl⟩ hb ?_
      rw [hb.2.1]
      exact sent_append _ _
    | refuse hst =>
      refine hdue ⟨rfl, rfl, rfl, rfl, rfl, rfl⟩ (hbusy (by rw [hst]; simp)) ?_
      rw [hst]
      trivial
    | wait hst =>
      refine hdue ⟨rfl, rfl, rfl, rfl, rfl, rfl⟩ (hbusy (by rw [hst]; simp)) ?_
      rw [hst] at hcalls ⊢
      exact Sent.poll hcalls
    | finish hst =>
      refine hdue ⟨rfl, rfl, rfl, rfl, rfl, rfl⟩ (hbusy (by rw [hst]; simp)) ?_
      rw [hst] at hcalls
      exact ⟨calls, hcalls, rfl⟩
    | fail hst =>
      exact hdue ⟨rfl, rfl, rfl, rfl, rfl, rfl⟩ (hbusy (by rw [hst]; simp)) trivial
    | rest hst =>
      refine hdue ⟨rfl, rfl, rfl, rfl, rfl, rfl⟩ (hbusy (by rw [hst]; simp)) ?_
      rw [hst]
      trivial
    | resume hst =>
      exact hdue ⟨rfl, rfl, rfl, rfl, rfl, rfl⟩ (hbusy (by rw [hst]; simp)) trivial
    | acknowledge h' => exact absurd h' hs

end Phase

/-! ## Steps -/

variable {c : Config} {net : Transport υ}

section Frame

variable {k k' : Live (Link × υ)}

/-- What the view shows beside the state of the transmitting side is in the image and on the
link. -/
theorem view_eq (hl : k'.link = k.link) (hi : k'.image = k.image) :
    view c k' = { view c k with
      state := k'.txState
      acked := k'.acked
      pending := k'.pending
      payload := k'.payload
      register := SeqNr.ofLowBit k'.registers.ssdoRx.toNat } := by
  unfold view Live.buffer
  rw [hl, hi]

theorem view_entryStep (hc : c.Accepted) {e : LogEntry} {a : Posting}
    (hs : Live.EntryStep c e k a k') : view c k' = view c k := by
  cases hs with
  | busy => rfl
  | posted =>
    have hheld : (k.entered c e).buffer c c.ssdoConsumer = k.buffer c c.ssdoConsumer :=
      Live.buffer_entered hc (by rw [hc.ssdoConsumer_size]; decide)
    have hout : (k.entered c e).buffer c c.statusIn = k.buffer c c.statusIn :=
      Live.buffer_entered hc (by rw [hc.statusIn_size]; decide)
    unfold view
    rw [hheld, hout]
    rfl

theorem view_logStep (hs : Live.LogStep k k') : view c k' = view c k := by
  cases hs <;> rfl

theorem view_afterPost (hc : c.Accepted) (h : k.Sound c) :
    view c (k.afterPost c) = { view c k with out := (view c k).register } := by
  have hlen : (k.buffer c c.statusIn).length = Status.inSize := by
    rw [Live.length_buffer h, hc.statusIn_size]
  have hheld : (k.afterPost c).buffer c c.ssdoConsumer = k.buffer c c.ssdoConsumer :=
    Live.buffer_afterPost hc (by rw [hc.ssdoConsumer_size]; decide)
  have hstatus : (k.afterPost c).buffer c c.statusIn =
      (k.buffer c c.statusIn).overwrite Status.ssdoRxOffset
        (Bytes.littleEndian 2 k.registers.ssdoRx.toNat) :=
    Live.buffer_putBuffer h (by rw [Bytes.length_overwrite, Live.length_buffer h])
  have hout : ((k.afterPost c).buffer c c.statusIn).flagAt Status.ssdoRxOffset =
      SeqNr.ofLowBit k.registers.ssdoRx.toNat := by
    rw [hstatus, Bytes.flagAt_overwrite_word (by rw [hlen]; decide)]
  unfold view
  rw [hheld, hout]
  rfl

theorem view_exchanged (h : k.Connected c) (hc : c.Accepted) (hin : c.Consumed c.ssdoConsumer)
    (hack : c.Produced c.statusIn) (u : υ) :
    view c (k.exchanged c u) =
      { view c k with held := (view c k).shown, seen := (view c k).out } := by
  unfold view
  rw [Live.buffer_exchanged h hin, Live.buffer_exchanged_of_not hc.toLaidOut hack.not_consumed,
    Live.sent_exchanged hack]
  rfl

end Frame

/-- The transmitting side makes its moves, and only calls the network it should. -/
theorem move_txStep {k k' : Live (Link × List NetCall × υ)}
    (hs : Live.TxStep c net.recorded.linked k k') :
    ∃ calls, k'.world.2.1 = k.world.2.1 ++ calls ∧ Move (view c k) calls (view c k') := by
  have hv := view_eq (c := c) (Live.TxStep.link_eq hs) (by cases hs <;> rfl)
  cases hs with
  | malformed hs hf =>
    refine ⟨[], (List.append_nil _).symm, .stay hs ?_⟩
    intro f hheld
    rw [show (view c k).held = _ from hf] at hheld
    cases hheld
  | known hs hf ha =>
    refine ⟨[], (List.append_nil _).symm, .stay hs ?_⟩
    intro f hheld
    rw [show (view c k).held = _ from hf] at hheld
    cases hheld
    exact ha
  | captured hs hf ha => exact ⟨[], (List.append_nil _).symm, .capture hs hf ha⟩
  | sent hs hn =>
    refine ⟨_, Transport.send_recorded hn, ?_⟩
    rw [hv]
    exact .send hs
  | refused hs hn =>
    refine ⟨_, Transport.send_recorded hn, ?_⟩
    rw [hv]
    exact .refuse hs
  | pending hs hn =>
    refine ⟨_, Transport.poll_recorded hn, ?_⟩
    rw [hv]
    exact .wait hs
  | finished hs hn =>
    refine ⟨_, Transport.poll_recorded hn, ?_⟩
    rw [hv]
    exact .finish hs
  | unresolved hs hn =>
    refine ⟨_, Transport.poll_recorded hn, ?_⟩
    rw [hv]
    exact .fail hs
  | resting hs => exact ⟨[], (List.append_nil _).symm, .rest hs⟩
  | rested hs => exact ⟨[], (List.append_nil _).symm, .resume hs⟩
  | acknowledged hs =>
    refine ⟨[], (List.append_nil _).symm, ?_⟩
    rw [hv, Status.ofLowBit_withFlag]
    exact .acknowledge hs

end Transmission

end SlimInterface
