import SlimInterface.Proofs.Remote.Linked

/-!
# How far an offered frame has come

The endpoint offers a frame of the network by writing it into a buffer. A transfer carries it
to the remote side, which takes it when its number differs from the acknowledge it shows, and
then shows that number; the acknowledge comes back with a transfer and is kept in a register.

`View` is what both sides know of the frame, `Phase` how far it and its acknowledge have come.
Every step of either side keeps the phase (`Phase.exchange`, `Phase.keep`, `Phase.post`,
`Phase.look`); the `view_` lemmas say what the steps of an endpoint do to the view.
-/

namespace SlimInterface

variable {υ : Type}

/-- The remote side looks at the frames for it: it takes one whose number differs from the
acknowledge it shows, and shows that number. -/
def Link.look (c : Config) : Op Link (Option Frame) := do
  let l ← Op.read
  let frame ← Op.ofExcept (l.produced c.ssdoProducer >>= Frame.read)
  let span ← Op.ofExcept (l.consumerSpan c.statusOut)
  let shown ← Op.ofExcept ((span.read l.consumer).wordAt Status.ssdoOffset)
  if SeqNr.ofLowBit shown.toNat = frame.seq then pure none
  else do
    Link.publish c.statusOut Status.ssdoOffset
      (Bytes.littleEndian 2 (Status.withFlag shown 0 frame.seq).toNat)
    pure (some frame)

namespace Reception

/-- The acknowledge the remote side shows. -/
def shown (c : Config) (l : Link) : SeqNr := (l.consumed c c.statusOut).flagAt Status.ssdoOffset

/-! ## How far a frame and its acknowledge have come -/

/-- What both sides know of the frame posted last. -/
structure View where
  outstanding : Bool
  seq : SeqNr
  /-- The frame in the buffer. -/
  staged : Except Fault Frame
  /-- The frame in the remote copy of the buffer. -/
  sent : Except Fault Frame
  /-- The acknowledge the remote side shows. -/
  shown : SeqNr
  /-- The acknowledge in the local status buffer. -/
  received : SeqNr
  /-- The acknowledge in the register. -/
  kept : SeqNr

/-- The view of an endpoint on a link. -/
def view (c : Config) (k : Live (Link × υ)) : View where
  outstanding := k.outstanding
  seq := k.rxSeq
  staged := Frame.read (k.buffer c c.ssdoProducer)
  sent := Frame.read (k.link.sent c c.ssdoProducer)
  shown := shown c k.link
  received := (k.buffer c c.statusOut).flagAt Status.ssdoOffset
  kept := SeqNr.ofLowBit k.registers.ssdoTx.toNat

/-- How far the frame posted last has come, with its payload while nobody has taken it. -/
inductive Phase (v : View) : Option Bytes → Prop
  /-- No frame was posted. -/
  | fresh {f g : Frame} (ho : v.outstanding = false) (hstaged : v.staged = .ok f)
      (hf : f.seq = v.seq.flip) (hsent : v.sent = .ok g) (hg : g.seq = v.seq.flip)
      (hshown : v.shown = v.seq.flip) (hreceived : v.received = v.seq.flip)
      (hkept : v.kept = v.seq.flip) : Phase v none
  /-- The frame is in the buffer. -/
  | posted {p : Bytes} {g : Frame} (ho : v.outstanding = true)
      (hstaged : v.staged = .ok ⟨v.seq, p⟩) (hsent : v.sent = .ok g) (hg : g.seq = v.seq.flip)
      (hshown : v.shown = v.seq.flip) (hreceived : v.received = v.seq.flip)
      (hkept : v.kept = v.seq.flip) : Phase v (some p)
  /-- The remote side can see the frame. -/
  | sent {p : Bytes} (ho : v.outstanding = true) (hstaged : v.staged = .ok ⟨v.seq, p⟩)
      (hsent : v.sent = .ok ⟨v.seq, p⟩) (hshown : v.shown = v.seq.flip)
      (hreceived : v.received = v.seq.flip) (hkept : v.kept = v.seq.flip) : Phase v (some p)
  /-- The remote side has taken the frame; its acknowledge is on the way back. -/
  | taken {p : Bytes} (ho : v.outstanding = true) (hstaged : v.staged = .ok ⟨v.seq, p⟩)
      (hsent : v.sent = .ok ⟨v.seq, p⟩) (hshown : v.shown = v.seq)
      (hkept : v.kept = v.seq → v.received = v.seq) : Phase v none

namespace Phase

variable {v : View} {q : Option Bytes}

/-- A transfer carries the frame to the remote side, and the acknowledge back. -/
theorem exchange (h : Phase v q) : Phase { v with sent := v.staged, received := v.shown } q := by
  cases h with
  | fresh ho hstaged hf _ _ hshown _ hkept =>
    exact .fresh ho hstaged hf hstaged hf hshown hshown hkept
  -- the remote side can see the frame now; it has not looked yet
  | posted ho hstaged _ _ hshown _ hkept => exact .sent ho hstaged hstaged hshown hshown hkept
  | sent ho hstaged _ hshown _ hkept => exact .sent ho hstaged hstaged hshown hshown hkept
  | taken ho hstaged _ hshown _ => exact .taken ho hstaged hstaged hshown fun _ => hshown

/-- The acknowledge is kept after each transfer. -/
theorem keep (h : Phase v q) : Phase { v with kept := v.received } q := by
  cases h with
  | fresh ho hstaged hf hsent hg hshown hreceived _ =>
    exact .fresh ho hstaged hf hsent hg hshown hreceived hreceived
  | posted ho hstaged hsent hg hshown hreceived _ =>
    exact .posted ho hstaged hsent hg hshown hreceived hreceived
  | sent ho hstaged hsent hshown hreceived _ =>
    exact .sent ho hstaged hsent hshown hreceived hreceived
  | taken ho hstaged hsent hshown _ => exact .taken ho hstaged hsent hshown id

/-- The next frame is posted once the one before it was acknowledged; nothing is on its way
then. -/
theorem post (h : Phase v q) (hready : v.outstanding = true → v.kept = v.seq) (p : Bytes) :
    q = none ∧
      ∀ s, s = (if v.outstanding then v.seq.flip else v.seq) →
        Phase { v with outstanding := true, seq := s, staged := .ok ⟨s, p⟩ } (some p) := by
  cases h with
  | fresh ho _ _ hsent hg hshown hreceived hkept =>
    refine ⟨rfl, ?_⟩
    intro s h
    subst h
    rw [ho, if_neg (by simp)]
    exact .posted rfl rfl hsent hg hshown hreceived hkept
  -- nobody has taken the frame, so its acknowledge cannot be back
  | posted ho _ _ _ _ _ hkept =>
    exact absurd ((hready ho).symm.trans hkept) fun he => SeqNr.flip_ne _ he.symm
  | sent ho _ _ _ _ hkept =>
    exact absurd ((hready ho).symm.trans hkept) fun he => SeqNr.flip_ne _ he.symm
  | taken ho _ hsent hshown hkept =>
    -- all copies show the number of this frame, which is not the next one
    refine ⟨rfl, ?_⟩
    intro s h
    subst h
    rw [ho, if_pos rfl]
    refine .posted rfl rfl hsent ?_ ?_ ?_ ?_
    · exact (SeqNr.flip_flip _).symm
    · exact hshown.trans (SeqNr.flip_flip _).symm
    · exact (hkept (hready ho)).trans (SeqNr.flip_flip _).symm
    · exact (hready ho).trans (SeqNr.flip_flip _).symm

/-- What the remote side sees is a frame. It takes the one on its way, if it can see it. -/
theorem look (h : Phase v q) :
    ∃ g, v.sent = .ok g ∧
      (v.shown = g.seq ∨
        v.shown ≠ g.seq ∧ q = some g.payload ∧ Phase { v with shown := g.seq } none) := by
  cases h with
  | fresh _ _ _ hsent hg hshown => exact ⟨_, hsent, .inl (hshown.trans hg.symm)⟩
  | posted _ _ hsent hg hshown => exact ⟨_, hsent, .inl (hshown.trans hg.symm)⟩
  | sent ho hstaged hsent hshown _ hkept =>
    refine ⟨_, hsent, .inr ⟨?_, rfl, ?_⟩⟩
    · rw [hshown]
      exact SeqNr.flip_ne _
    · exact .taken ho hstaged hsent rfl fun he => absurd (hkept.symm.trans he) (SeqNr.flip_ne _)
  | taken _ _ hsent hshown => exact ⟨_, hsent, .inl hshown⟩

end Phase

/-! ## Steps -/

variable {c : Config} {net : Transport υ} {k k' : Live (Link × υ)}

/-- Posting an entry, and what the logbook channel and the transmitting side do, leave the
view as it is. -/
theorem view_entryStep (hc : c.Accepted) {e : LogEntry} {a : Posting}
    (hs : Live.EntryStep c e k a k') : view c k' = view c k := by
  cases hs with
  | busy => rfl
  | posted =>
    have hstaged : (k.entered c e).buffer c c.ssdoProducer = k.buffer c c.ssdoProducer :=
      Live.buffer_entered hc (by rw [hc.ssdoProducer_size]; decide)
    have hreceived : (k.entered c e).buffer c c.statusOut = k.buffer c c.statusOut :=
      Live.buffer_entered hc (by rw [hc.statusOut_size]; decide)
    unfold view
    rw [hstaged, hreceived]
    rfl

theorem view_logStep (hs : Live.LogStep k k') : view c k' = view c k := by
  cases hs <;> rfl

theorem view_txStep (hs : Live.TxStep c net.linked k k') : view c k' = view c k := by
  have hl := Live.TxStep.link_eq hs
  unfold view
  rw [hl]
  cases hs <;> rfl

theorem view_afterPost (hc : c.Accepted) :
    view c (k.afterPost c) = { view c k with kept := (view c k).received } := by
  have hstaged : (k.afterPost c).buffer c c.ssdoProducer = k.buffer c c.ssdoProducer :=
    Live.buffer_afterPost hc (by rw [hc.ssdoProducer_size]; decide)
  have hreceived : (k.afterPost c).buffer c c.statusOut = k.buffer c c.statusOut :=
    Live.buffer_afterPost hc (by rw [hc.statusOut_size]; decide)
  have hkept : SeqNr.ofLowBit (k.afterPost c).registers.ssdoTx.toNat =
      (k.buffer c c.statusOut).flagAt Status.ssdoOffset :=
    Bytes.ofLowBit_word _ _
  unfold view
  rw [hstaged, hreceived, hkept]
  rfl

theorem view_exchanged (h : k.Connected c) (hc : c.Accepted) (hout : c.Consumed c.statusOut)
    (hprod : c.Produced c.ssdoProducer) (u : υ) :
    view c (k.exchanged c u) =
      { view c k with sent := (view c k).staged, received := (view c k).shown } := by
  unfold view
  rw [Live.buffer_exchanged_of_not hc.toLaidOut hprod.not_consumed, Live.buffer_exchanged h hout,
    Live.sent_exchanged hprod]
  rfl

theorem view_offered (hc : c.Accepted) (h : k.Sound c) {p : Bytes}
    (hp : p.length ≤ Frame.maxPayload) :
    view c (k.offered c p) =
      { view c k with outstanding := true, seq := k.nextSeq, staged := .ok ⟨k.nextSeq, p⟩ } := by
  have hlen := Live.length_ssdoProducer hc h
  have hstaged : (k.offered c p).buffer c c.ssdoProducer =
      Frame.imprint ⟨k.nextSeq, p⟩ (k.buffer c c.ssdoProducer) :=
    Live.buffer_putBuffer h (by rw [Frame.length_imprint, Live.length_buffer h])
  have hreceived : (k.offered c p).buffer c c.statusOut = k.buffer c c.statusOut :=
    Live.buffer_offered hc (by rw [hc.statusOut_size]; decide)
  unfold view
  rw [hstaged, hreceived, Frame.read_imprint hlen hp]
  rfl

/-- Looking comes down to two sequence numbers, the one of the frame and the one shown. -/
theorem eval_look {l : Link} {g : Frame} (hc : c.Accepted) (h : l.Attached c)
    (hout : c.Consumed c.statusOut) (hprod : c.Produced c.ssdoProducer)
    (hg : Frame.read (l.sent c c.ssdoProducer) = .ok g) :
    (shown c l = g.seq ∧ (Link.look c).eval l = (.ok none, l)) ∨
      (shown c l ≠ g.seq ∧ ∃ b, b.length = l.consumer.length ∧
        (Link.look c).eval l = (.ok (some g), { l with consumer := b }) ∧
        shown c { l with consumer := b } = g.seq) := by
  have hst : (l.consumed c c.statusOut).length = 12 := by
    rw [Link.length_consumed h hout, hc.statusOut_size]
    rfl
  have hoff : Status.ssdoOffset < c.sizeOf c.statusOut := by
    rw [hc.statusOut_size]
    decide
  have hlt := Live.index_statusOut_lt hc
  have hword : (l.consumed c c.statusOut).wordAt Status.ssdoOffset =
      .ok ((l.consumed c c.statusOut).word Status.ssdoOffset) :=
    Bytes.wordAt_of_le (by rw [hst]; decide)
  have hshown : SeqNr.ofLowBit ((l.consumed c c.statusOut).word Status.ssdoOffset).toNat =
      shown c l := Bytes.ofLowBit_word _ _
  have hframe : (l.produced c.ssdoProducer >>= Frame.read) = .ok g := by
    rw [Link.produced_eq h hprod]
    exact hg
  have hlook : (Link.look c).eval l =
      (if SeqNr.ofLowBit ((l.consumed c c.statusOut).word Status.ssdoOffset).toNat = g.seq then
        pure none
      else do
        Link.publish c.statusOut Status.ssdoOffset (Bytes.littleEndian 2
          (Status.withFlag ((l.consumed c c.statusOut).word Status.ssdoOffset) 0 g.seq).toNat)
        pure (some g) : Op Link (Option Frame)).eval l := by
    unfold Link.look
    rw [Op.eval_bind_ok (Op.eval_read _), hframe, Op.eval_bind_ok (Op.eval_ofExcept _ _),
      Link.consumerSpan_eq h hout hlt, Op.eval_bind_ok (Op.eval_ofExcept _ _),
      show ((c.span c.statusOut).shift c.consumerPart.start).read l.consumer =
        l.consumed c c.statusOut from rfl, hword, Op.eval_bind_ok (Op.eval_ofExcept _ _)]
  rw [hlook, hshown]
  -- a frame whose number is shown was taken before
  by_cases he : shown c l = g.seq
  · left
    rw [if_pos he]
    exact ⟨he, rfl⟩
  · right
    rw [if_neg he, Op.eval_bind_ok (Link.eval_publish h hout hlt
      (by rw [Bytes.length_littleEndian, hc.statusOut_size]; decide))]
    refine ⟨he, _, Bytes.length_overwrite _ _ _, rfl, ?_⟩
    have hfit := Link.fits_consumer h hout
    unfold shown
    rw [Link.flagAt_consumed hoff, Bytes.flagAt_overwrite_word, Status.ofLowBit_withFlag]
    unfold Span.Fits at hfit
    have hsize : ((c.span c.statusOut).shift c.consumerPart.start).size = 12 :=
      hc.statusOut_size
    unfold Status.ssdoOffset
    omega

end Reception

end SlimInterface
