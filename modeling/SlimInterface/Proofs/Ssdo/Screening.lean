import SlimInterface.Proofs.Run
import SlimInterface.Proofs.Ssdo.Handover
import SlimInterface.Proofs.Ssdo.Malformed

/-!
# A channel that sees no frame

Two runs of the transmitting side go on side by side. Wherever the buffer holds no frame in the
first while the side waits, it holds the frame acknowledged last in the second; everything else the
two see is the same. Then they do the same (`like_of_run`), because one step does
(`Like.process`), and a second run always exists (`exists_replaced`).

What the side remembers is the sequence byte of the last buffer that held no frame, unless it has
seen a frame since (`Inv.rejected`), and that decides what a step logs.
-/

namespace SlimInterface

variable {υ : Type}

namespace Screening

/-! ## Runs -/

/-- What can be seen of a step of the transmitting side. -/
structure Call (υ : Type) where
  /-- The bytes of the buffer. -/
  shown : Option Bytes
  before : Transmit
  answer : Except Fault Unit
  after : Transmit
  /-- The calls of the network. -/
  calls : List NetCall
  /-- The bench afterwards, and with it the registers the acknowledges are kept in. -/
  bench : Bench (List NetCall × υ)
  /-- The lines the side logs. -/
  lines : List Line

/-- The side waits for a frame, and the buffer holds none. -/
def Call.Rejects (c : Call υ) : Prop :=
  c.before.state = .waitForFrame ∧ ∃ b, c.shown = some b ∧ Frame.Malformed b

/-- What happens to a transmitting side and the bench. -/
inductive Event (υ : Type)
  | process (c : Call υ)
  /-- The bench changes between two steps. -/
  | meanwhile (f : Bench (List NetCall × υ) → Bench (List NetCall × υ))

/-- One event. A step may be handed any stream with a buffer of the right size. What the network
logs itself is left out of the lines. -/
inductive Step (net : Transport υ) (p : Transmit × Bench (List NetCall × υ)) :
    Event υ → Transmit × Bench (List NetCall × υ) → Prop
  | process {stream : Stream (Bench (List NetCall × υ))} {a : Except Fault Unit} {t : Transmit}
      {s : Station (List NetCall × υ)} {lines : List Line}
      (hlen : ∀ b, stream.buffer? p.1.buffer = some b → b.length = Frame.bufferSize)
      (h : (Transmit.process net.recorded.muted).run (p.1, ⟨stream, p.2⟩) = ⟨a, (t, s), lines⟩) :
      Step net p (.process ⟨stream.buffer? p.1.buffer, p.1, a, t,
        s.around.world.1.drop p.2.world.1.length, s.around, lines⟩) (t, s.around)
  | meanwhile (f : Bench (List NetCall × υ) → Bench (List NetCall × υ)) :
      Step net p (.meanwhile f) (p.1, f p.2)

/-- An event of a second run, in which a waiting side sees an acknowledged frame wherever it saw no
frame in the first. -/
inductive Replaced : Event υ → Event υ → Prop
  | meanwhile (f : Bench (List NetCall × υ) → Bench (List NetCall × υ)) :
      Replaced (.meanwhile f) (.meanwhile f)
  | rejects {c c' : Call υ} {b : Bytes} {f : Frame} (hc : c.Rejects) (hb : c'.shown = some b)
      (hf : Frame.read b = .ok f) (hseq : f.seq = c.before.acked) :
      Replaced (.process c) (.process c')
  | same {c c' : Call υ} (hc : ¬ c.Rejects) (hb : c'.shown = c.shown) :
      Replaced (.process c) (.process c')

/-- A step does the same in both runs: the sides pass through the same states and acknowledge the
same frames, and only the byte they remember may differ. -/
structure Call.Alike (c c' : Call υ) : Prop where
  before : c'.before = { c.before with rejected := c'.before.rejected }
  answer : c'.answer = c.answer
  after : c'.after = { c.after with rejected := c'.after.rejected }
  calls : c'.calls = c.calls
  bench : c'.bench = c.bench

inductive Event.Alike : Event υ → Event υ → Prop
  | meanwhile (f : Bench (List NetCall × υ) → Bench (List NetCall × υ)) :
      Alike (.meanwhile f) (.meanwhile f)
  | process {c c' : Call υ} (h : c.Alike c') : Alike (.process c) (.process c')

/-- The byte that is remembered after a step. -/
def Call.remember (byte : Option UInt8) (c : Call υ) : Option UInt8 :=
  if c.before.state = .waitForFrame then
    match c.shown with
    | none => byte
    | some b => if Frame.Malformed b then b.head? else none
  else byte

def Event.remember (byte : Option UInt8) : Event υ → Option UInt8
  | .process c => c.remember byte
  | .meanwhile _ => byte

/-- The sequence byte of the last buffer that held no frame, unless a frame was seen since. -/
def remembered (es : List (Event υ)) : Option UInt8 := es.foldl Event.remember none

theorem remembered_append_one (es : List (Event υ)) (ev : Event υ) :
    remembered (es ++ [ev]) = ev.remember (remembered es) := by
  unfold remembered
  rw [List.foldl_append]
  rfl

/-- What a step logs when `byte` is remembered. -/
structure Reported (byte : Option UInt8) (c : Call υ) : Prop where
  /-- A buffer that holds no frame is mentioned unless its sequence byte is remembered. -/
  rejects : ∀ b, c.before.state = .waitForFrame → c.shown = some b → Frame.Malformed b →
    ∃ e, Frame.read b = .error e ∧
      c.lines = if b.head? = byte then [] else [Transmit.warning c.before.id e]
  /-- Otherwise no line mentions the buffer. -/
  plain : ¬ c.Rejects → ∀ l ∈ c.lines, Transmit.Plain l

/-! ## One step -/

variable {net : Transport υ} {p p' q q' : Transmit × Bench (List NetCall × υ)} {ev ev' : Event υ}
  {c c' : Call υ}

/-- The same but for the remembered byte. -/
def Like (p p' : Transmit × Bench (List NetCall × υ)) : Prop :=
  ∃ rejected, p' = ({ p.1 with rejected }, p.2)

/-- Corresponding steps do the same. -/
theorem Like.process (h : Like p p') (hs : Step net p (.process c) q)
    (hs' : Step net p' (.process c') q') (hc : Replaced (.process c) (.process c')) :
    Like q q' ∧ c.Alike c' := by
  obtain ⟨rejected, rfl⟩ := h
  cases hs with
  | @process stream a t s lines hlen hrun =>
    cases hs' with
    | @process stream' a' t' s' lines' hlen' hrun' =>
      have hsame : Transmit.Same (p.1, ⟨stream, p.2⟩)
          (({ p.1 with rejected } : Transmit), (⟨stream', p.2⟩ : Station (List NetCall × υ))) :=
        ⟨rejected, stream', rfl⟩
      have hstep : ((Transmit.process net.recorded.muted).eval (p.1, ⟨stream, p.2⟩)).1 =
            ((Transmit.process net.recorded.muted).eval
              (({ p.1 with rejected } : Transmit), ⟨stream', p.2⟩)).1 ∧
          Transmit.Same ((Transmit.process net.recorded.muted).eval (p.1, ⟨stream, p.2⟩)).2
            ((Transmit.process net.recorded.muted).eval
              (({ p.1 with rejected } : Transmit), ⟨stream', p.2⟩)).2 := by
        cases hc with
        | @rejects _ _ b f hrejects hb hf hseq =>
          obtain ⟨hw, b0, hb0, hm⟩ := hrejects
          obtain ⟨e, he⟩ := (Frame.malformed_iff (hlen b0 hb0)).mp hm
          exact Transmit.process_of_known hsame hw hb0 he hb hf hseq
        | same _ hb => exact Transmit.process_of_same hsame hb
      rw [Op.eval_of_run hrun, Op.eval_of_run hrun'] at hstep
      obtain ⟨rfl, rejected', stream'', heq⟩ := hstep
      cases heq
      exact ⟨⟨rejected', rfl⟩, rfl, rfl, rfl, rfl, rfl⟩

theorem Like.step (h : Like p p') (hs : Step net p ev q) (hs' : Step net p' ev' q')
    (he : Replaced ev ev') : Like q q' ∧ ev.Alike ev' := by
  cases he with
  | meanwhile f =>
    obtain ⟨rejected, rfl⟩ := h
    cases hs
    cases hs'
    exact ⟨⟨rejected, rfl⟩, .meanwhile f⟩
  | rejects hc hb hf hseq =>
    obtain ⟨hq, hc⟩ := h.process hs hs' (.rejects hc hb hf hseq)
    exact ⟨hq, .process hc⟩
  | same hc hb =>
    obtain ⟨hq, hc⟩ := h.process hs hs' (.same hc hb)
    exact ⟨hq, .process hc⟩

/-- A stream with other bytes in a buffer. -/
theorem exists_shown {stream : Stream (Bench (List NetCall × υ))} {id : BufferId} {b b' : Bytes}
    (hb : stream.buffer? id = some b) (hlen : b'.length = b.length) :
    ∃ stream' : Stream (Bench (List NetCall × υ)), stream'.buffer? id = some b' := by
  obtain ⟨d, hd, rfl⟩ := Option.map_eq_some_iff.mp hb
  refine ⟨{ stream with image := d.span.place b' stream.image }, ?_⟩
  show (stream.descriptor? id).map (fun d' => d'.span.read (d.span.place b' stream.image)) = some b'
  rw [hd, Option.map_some, Span.read_place_of_length hlen]

/-- A second run can go on as the first does. -/
theorem Like.exists_step (h : Like p p') (hs : Step net p ev q) :
    ∃ ev' q', Step net p' ev' q' ∧ Replaced ev ev' := by
  obtain ⟨rejected, rfl⟩ := h
  cases hs with
  | meanwhile f => exact ⟨_, _, .meanwhile f, .meanwhile f⟩
  | @process stream a t s lines hlen hrun =>
    let step (stream' : Stream (Bench (List NetCall × υ))) :=
      (Transmit.process net.recorded.muted).run (({ p.1 with rejected } : Transmit), ⟨stream', p.2⟩)
    by_cases hc : p.1.state = .waitForFrame ∧
        ∃ b, stream.buffer? p.1.buffer = some b ∧ Frame.Malformed b
    · obtain ⟨b, hb, hm⟩ := hc.2
      let b' := Frame.imprint ⟨p.1.acked, []⟩ (List.replicate Frame.bufferSize 0)
      have hlen' : b'.length = Frame.bufferSize := Frame.length_imprint.trans List.length_replicate
      obtain ⟨stream', hb'⟩ := exists_shown hb (hlen'.trans (hlen b hb).symm)
      refine ⟨_, _, .process (p := (({ p.1 with rejected } : Transmit), p.2)) (fun x hx => ?_)
        (show step stream' = ⟨(step stream').result, (_, _), _⟩ from rfl), ?_⟩
      · cases hb'.symm.trans hx
        exact hlen'
      · exact .rejects hc hb' (Frame.read_imprint List.length_replicate (Nat.zero_le _)) rfl
    · exact ⟨_, _, .process (p := (({ p.1 with rejected } : Transmit), p.2)) hlen
        (show step stream = ⟨(step stream).result, (_, _), _⟩ from rfl), .same hc rfl⟩

/-! ## What is remembered -/

/-- A channel buffer that is not malformed holds a frame. -/
theorem exists_frame {b : Bytes} (hlen : b.length = Frame.bufferSize) (hb : ¬ Frame.Malformed b) :
    ∃ f, Frame.read b = .ok f := by
  cases hf : Frame.read b with
  | error e => exact absurd ((Frame.malformed_iff hlen).mpr ⟨e, hf⟩) hb
  | ok f => exact ⟨f, rfl⟩

theorem Step.reported (hs : Step net p (.process c) q) : Reported p.1.rejected c := by
  cases hs with
  | @process stream a t s lines hlen hrun =>
    refine ⟨fun b hw hb hm => ?_, fun hc l hl => ?_⟩
    · obtain ⟨e, he⟩ := (Frame.malformed_iff (hlen b hb)).mp hm
      have hlines := congrArg Outcome.lines hrun
      rw [Transmit.run_process_malformed hw hb he] at hlines
      exact ⟨e, he, hlines.symm⟩
    · have hl : l ∈ ((Transmit.process net.recorded.muted).run (p.1, ⟨stream, p.2⟩)).lines := by
        rw [hrun]
        exact hl
      by_cases hw : p.1.state = .waitForFrame
      · refine Transmit.plain_of_frame hw (fun b hb => exists_frame (hlen b hb) fun hm => ?_) hl
        exact hc ⟨hw, b, hb, hm⟩
      · exact Transmit.plain_of_busy hw hl

theorem Step.remember (hs : Step net p (.process c) q) :
    q.1.rejected = c.remember p.1.rejected := by
  cases hs with
  | @process stream a t s lines hlen hrun =>
    have heval := Op.eval_of_run hrun
    show t.rejected = if p.1.state = .waitForFrame then
      (match stream.buffer? p.1.buffer with
        | none => p.1.rejected
        | some b => if Frame.Malformed b then b.head? else none) else p.1.rejected
    by_cases hw : p.1.state = .waitForFrame
    · rw [if_pos hw]
      cases hb : stream.buffer? p.1.buffer with
      | none =>
        rw [Op.eval_of_run (Transmit.run_process_missing hw hb)] at heval
        cases heval
        rfl
      | some b =>
        dsimp only
        by_cases hm : Frame.Malformed b
        · obtain ⟨e, he⟩ := (Frame.malformed_iff (hlen b hb)).mp hm
          rw [Op.eval_of_run (Transmit.run_process_malformed hw hb he)] at heval
          rw [if_pos hm]
          cases heval
          rfl
        · obtain ⟨f, hf⟩ := exists_frame (hlen b hb) hm
          rw [if_neg hm]
          by_cases ha : f.seq = p.1.acked
          · rw [Op.eval_of_run (Transmit.run_process_known hw hb hf ha)] at heval
            cases heval
            rfl
          · rw [Op.eval_of_run (Transmit.run_process_new hw hb hf ha)] at heval
            cases heval
            rfl
    · obtain ⟨a', t', b, heval', hstep⟩ :=
        Transmit.eval_process net.recorded.muted p.1 ⟨stream, p.2⟩
      rw [heval'] at heval
      cases heval
      rw [if_neg hw]
      exact hstep.rejected_eq hw

/-- A waiting side that sees no frame goes on waiting. -/
theorem Step.rejects {b : Bytes} (hs : Step net p (.process c) q) (hw : p.1.state = .waitForFrame)
    (hb : c.shown = some b) (hm : Frame.Malformed b) :
    q = ({ p.1 with rejected := b.head? }, p.2) := by
  cases hs with
  | @process stream a t s lines hlen hrun =>
    obtain ⟨e, he⟩ := (Frame.malformed_iff (hlen b hb)).mp hm
    have heval := Op.eval_of_run hrun
    rw [Op.eval_of_run (Transmit.run_process_malformed hw hb he)] at heval
    cases heval
    rfl

theorem Step.before_eq (hs : Step net p (.process c) q) : c.before = p.1 := by
  cases hs
  rfl

/-! ## What a run keeps -/

variable {es : List (Event υ)}

/-- What holds of the side and of what it remembers after the events `es`. -/
structure Inv (es : List (Event υ)) (p : Transmit × Bench (List NetCall × υ)) : Prop where
  rejected : p.1.rejected = remembered es
  /-- As long as the buffer shows the same bytes, which are no frame, the side waits. -/
  constant : ∀ b, Frame.Malformed b → (∀ c, .process c ∈ es → c.shown = some b) →
    p.1.state = .waitForFrame ∧
      ((∀ c, .process c ∉ es) ∧ remembered es = none ∨
        (∃ c, .process c ∈ es) ∧ remembered es = b.head?)

theorem Inv.meanwhile (h : Inv es p) (f : Bench (List NetCall × υ) → Bench (List NetCall × υ)) :
    Inv (es ++ [.meanwhile f]) (p.1, f p.2) := by
  have hmem (c : Call υ) : Event.process c ∈ es ++ [.meanwhile f] ↔ .process c ∈ es := by simp
  refine ⟨?_, fun b hm hshown => ?_⟩
  · rw [remembered_append_one]
    exact h.rejected
  · obtain ⟨hstate, hcases⟩ := h.constant b hm fun c hc => hshown c ((hmem c).mpr hc)
    rw [remembered_append_one]
    simp only [hmem]
    exact ⟨hstate, hcases⟩

theorem Inv.process (h : Inv es p) (hs : Step net p (.process c) q) :
    Inv (es ++ [.process c]) q := by
  refine ⟨?_, fun b hm hshown => ?_⟩
  · rw [remembered_append_one, hs.remember, h.rejected]
    rfl
  · obtain ⟨hstate, -⟩ := h.constant b hm fun c hc => hshown c (List.mem_append_left _ hc)
    have hb : c.shown = some b := hshown c List.mem_concat_self
    refine ⟨?_, .inr ⟨⟨c, List.mem_concat_self⟩, ?_⟩⟩
    · rw [hs.rejects hstate hb hm]
      exact hstate
    · have hremember := hs.remember
      rw [hs.rejects hstate hb hm, h.rejected] at hremember
      rw [remembered_append_one]
      exact hremember.symm

/-- While the buffer shows the same bytes, which are no frame, the first step mentions it and no
other does. -/
theorem Inv.once {b : Bytes} (h : Inv es p) (hs : Step net p (.process c) q)
    (hm : Frame.Malformed b)
    (hshown : ∀ c', .process c' ∈ es ++ [.process c] → c'.shown = some b) :
    (∃ e, Transmit.warning c.before.id e ∈ c.lines) ↔ ∀ c', .process c' ∉ es := by
  obtain ⟨hstate, hcases⟩ := h.constant b hm fun c hc => hshown c (List.mem_append_left _ hc)
  have hb : c.shown = some b := hshown c List.mem_concat_self
  obtain ⟨e, -, hlines⟩ := hs.reported.rejects b (by rw [hs.before_eq]; exact hstate) hb hm
  rw [h.rejected] at hlines
  rw [hlines]
  rcases hcases with ⟨hnone, hbyte⟩ | ⟨hsome, hbyte⟩
  · have hne : b.head? ≠ none :=
      fun hn => Frame.ne_nil_of_malformed hm (List.head?_eq_none_iff.mp hn)
    rw [hbyte, if_neg hne]
    exact iff_of_true ⟨e, List.mem_singleton_self _⟩ hnone
  · rw [hbyte, if_pos rfl]
    refine iff_of_false ?_ fun hn => hsome.elim hn
    rintro ⟨e', he'⟩
    exact absurd he' List.not_mem_nil

/-- What a step logs after the events `es`. -/
def Lawful (es : List (Event υ)) (ev : Event υ) : Prop :=
  ∀ c, ev = .process c → Reported (remembered es) c ∧ ∀ b, Frame.Malformed b →
    (∀ c', .process c' ∈ es ++ [.process c] → c'.shown = some b) →
      ((∃ e, Transmit.warning c.before.id e ∈ c.lines) ↔ ∀ c', .process c' ∉ es)

/-- Every event keeps the invariant, and logs what it should. -/
theorem Inv.step (h : Inv es p) (hs : Step net p ev q) : Inv (es ++ [ev]) q ∧ Lawful es ev := by
  cases ev with
  | process c =>
    refine ⟨h.process hs, ?_⟩
    rintro _ ⟨⟩
    exact ⟨h.rejected ▸ hs.reported, fun b hm hshown => h.once hs hm hshown⟩
  | meanwhile f =>
    cases hs
    refine ⟨h.meanwhile f, ?_⟩
    rintro _ ⟨⟩

/-- A channel that was opened remembers nothing. -/
theorem inv_fresh {id : UInt8} {buffer : BufferId} {status : Status}
    {s s0 : Station (List NetCall × υ)} {t0 : Transmit}
    (h : (Transmit.create id buffer status).eval s = (.ok t0, s0)) :
    Inv ([] : List (Event υ)) (t0, s0.around) := by
  obtain ⟨-, -, rfl, rfl⟩ := Transmit.create_eq_ok.mp h
  exact ⟨rfl, fun b _ _ => ⟨rfl, .inl ⟨fun _ => List.not_mem_nil, rfl⟩⟩⟩

/-! ## Two runs -/

theorem like_refl (p : Transmit × Bench (List NetCall × υ)) : Like p p := ⟨p.1.rejected, rfl⟩

/-- Two corresponding runs do the same. -/
theorem like_of_run {es' : List (Event υ)} (h : Run (Step net) p es q)
    (h' : Run (Step net) p es' q') (hes : List.Forall₂ Replaced es es') :
    Like q q' ∧ List.Forall₂ Event.Alike es es' :=
  h.invariant₂ h' hes (like_refl p) Like.step

theorem exists_replaced (h : Run (Step net) p es q) :
    ∃ es' q', Run (Step net) p es' q' ∧ List.Forall₂ Replaced es es' := by
  induction h with
  | start => exact ⟨[], p, .start p, .nil⟩
  | next hrun hs ih =>
    obtain ⟨es', q', hrun', hes⟩ := ih
    obtain ⟨ev', u, hs', hev⟩ := (like_of_run hrun hrun' hes).1.exists_step hs
    exact ⟨_, _, hrun'.next hs', List.rel_append hes (.cons hev .nil)⟩

/-! ## Buffers that hold no frame -/

/-- What buffers that hold no frame do to a run with the events `es`. -/
structure Invisible (net : Transport υ) (p0 : Transmit × Bench (List NetCall × υ))
    (es : List (Event υ)) : Prop where
  /-- There is a run in which the waiting side sees the frame acknowledged last in their place. -/
  replaced : ∃ es' q', Run (Step net) p0 es' q' ∧ List.Forall₂ Replaced es es'
  /-- Every such run does the same. -/
  alike : ∀ es' q', Run (Step net) p0 es' q' → List.Forall₂ Replaced es es' →
    List.Forall₂ Event.Alike es es'
  /-- They are mentioned when their sequence byte is another than that of the last one. -/
  reported : ∀ past c rest, es = past ++ .process c :: rest → Reported (remembered past) c
  /-- A buffer that does not change is mentioned by the first step only. -/
  once : ∀ b, Frame.Malformed b → (∀ c, .process c ∈ es → c.shown = some b) →
    ∀ past c rest, es = past ++ .process c :: rest →
      ((∃ e, Transmit.warning c.before.id e ∈ c.lines) ↔ ∀ c', .process c' ∉ past)

/-- **Buffers that hold no frame.** Whatever a channel that was opened sees in its buffer,
whatever the network answers and whatever becomes of the bench meanwhile: where the buffer holds
no frame, the channel does what it would do if the buffer held the frame acknowledged last, and
logs one line unless it has just logged one about such a buffer with the same sequence byte. -/
theorem invisible_of_run {id : UInt8} {buffer : BufferId} {status : Status}
    {before s0 : Station (List NetCall × υ)} {t0 : Transmit}
    (hcreate : (Transmit.create id buffer status).eval before = (.ok t0, s0))
    (hrun : Run (Step net) (t0, s0.around) es q) : Invisible net (t0, s0.around) es := by
  have hall := (hrun.invariant_forall (I := Inv) (P := Lawful) (inv_fresh hcreate) Inv.step).2
  refine ⟨exists_replaced hrun, fun es' q' h' hes => (like_of_run hrun h' hes).2, ?_, ?_⟩
  · intro past c rest he
    exact (hall past _ rest he c rfl).1
  · intro b hm hshown past c rest he
    refine (hall past _ rest he c rfl).2 b hm fun c' hc' => hshown c' ?_
    rw [he, List.append_cons]
    exact List.mem_append_left _ hc'

/-! ## A buffer that is spoiled -/

/-- A channel buffer between the two acknowledge registers. -/
def plan : Blueprint (Bench (List NetCall × Unit)) where
  descriptors := Descriptor.layout [4, Frame.bufferSize, 4]
  transfer _ := pure ()
  consAck := ⟨0⟩
  prodAck := ⟨2⟩

/-- The bench of the channel, before and after it is opened. -/
def bench (counters : CounterBank) : Bench (List NetCall × Unit) := ⟨[.clear], counters, ([], ())⟩

/-- The channel, with the byte it remembers. -/
def channel (rejected : Option UInt8) : Transmit :=
  ⟨0, ⟨1⟩, .waitForFrame, .first, .first, rejected, [], ⟨retryCycles, 0⟩, ⟨0⟩⟩

/-- A channel buffer whose sequence byte is none. -/
def spoiled : Bytes := 2 :: List.replicate 255 0

/-- The stream with the spoiled buffer. -/
def shown : Stream (Bench (List NetCall × Unit)) :=
  { plan.bare with image := (Span.mk 4 Frame.bufferSize).place spoiled plan.bare.image }

/-- A step that sees the spoiled buffer. -/
def look (rejected : Option UInt8) (lines : List Line) : Call Unit :=
  ⟨some spoiled, channel rejected, .ok (), channel (some 2), [], bench [.idle], lines⟩

set_option maxRecDepth 2000 in
/-- The first of two steps mentions the spoiled buffer. -/
theorem invisible_of_run_spoiled :
    ∃ s0, (Transmit.create 0 ⟨1⟩ ⟨0⟩).eval ⟨plan.bare, bench []⟩ = (.ok (channel none), s0) ∧
      ∃ (net : Transport Unit) (first second : Call Unit)
        (q : Transmit × Bench (List NetCall × Unit)),
        Run (Step net) (channel none, s0.around) [.process first, .process second] q ∧
        (∃ e, Transmit.warning first.before.id e ∈ first.lines) ∧
        ¬ ∃ e, Transmit.warning second.before.id e ∈ second.lines := by
  have hcreate : (Transmit.create 0 ⟨1⟩ ⟨0⟩).eval ⟨plan.bare, bench []⟩ = (.ok (channel none),
      ⟨plan.bare.append .post ⟨⟨1⟩, Bench.tick ⟨retryCycles, 0⟩⟩, bench [.idle]⟩) := rfl
  let net : Transport Unit := ⟨fun _ _ => pure (), fun _ w => (.finished, w)⟩
  let e : Fault := .invalidSeqNr 2
  have hbuffer : shown.buffer? ⟨1⟩ = some spoiled := rfl
  have hlen (b : Bytes) (hb : shown.buffer? ⟨1⟩ = some b) : b.length = Frame.bufferSize := by
    cases hbuffer.symm.trans hb
    rfl
  have hfirst : Step net (channel none, bench [.idle])
      (.process (look none [Transmit.warning 0 e])) (channel (some 2), bench [.idle]) :=
    @Step.process _ net (channel none, bench [.idle]) shown _ _ ⟨shown, bench [.idle]⟩ _ hlen rfl
  have hsecond : Step net (channel (some 2), bench [.idle]) (.process (look (some 2) []))
      (channel (some 2), bench [.idle]) :=
    @Step.process _ net (channel (some 2), bench [.idle]) shown _ _ ⟨shown, bench [.idle]⟩ _ hlen
      rfl
  have hrun := (Run.one hfirst).next hsecond
  have hinvisible := invisible_of_run hcreate hrun
  have honce := hinvisible.once spoiled (by decide) (by simp [look])
  refine ⟨_, hcreate, net, _, _, _, hrun, ?_, ?_⟩
  · exact (honce [] _ _ rfl).mpr fun _ => List.not_mem_nil
  · intro hw
    exact (honce [_] _ [] rfl).mp hw _ List.mem_cons_self

end Screening

end SlimInterface
