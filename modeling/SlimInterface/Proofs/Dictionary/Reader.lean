import SlimInterface.Proofs.Dictionary.Forwarding

/-!
# What the remote side reads

The remote side reads the buffer while an acknowledge is pending, and then clears it. By then the
object that was sent last need not be alone in the buffer: an attempt that is refused has written
its header, over that of an object that still waits to be read.

`Announced` holds of every run: while an acknowledge is pending, the buffer has the value of the
object that was sent last, behind the header of the latest attempt since it was sent.
`seen_of_run` says this of everything the remote side reads, and what a failing call writes.
-/

namespace SlimInterface

namespace Forwarding

variable {id : BufferId} {es : List Event} {e : Event} {c c' : ConfigChannel}

/-! ## A buffer as it is seen -/

/-- A buffer has the header of `named`, and behind it the value of `o`. -/
structure Shows (seq : SeqNr) (named o : ConfigObject) (data : Bytes) : Prop where
  header_eq : data.take ConfigOutput.lowOffset = named.header seq
  field_eq : (data.drop ConfigOutput.lowOffset).take o.size.toNat = o.field

theorem Shows.written (seq : SeqNr) (o : ConfigObject) (rest : Bytes) :
    Shows seq o o (o.header seq ++ o.field ++ rest) := by
  have hheader : (o.header seq).length = ConfigOutput.lowOffset := ConfigObject.length_header
  refine ⟨?_, ?_⟩
  · rw [List.append_assoc, List.take_left' hheader]
  · rw [List.append_assoc, List.drop_left' hheader, List.take_left' ConfigObject.length_field]

/-- Another header over the same value. -/
theorem Shows.renamed {seq : SeqNr} {named o : ConfigObject} {data : Bytes}
    (h : Shows seq named o data) (seq' : SeqNr) (named' : ConfigObject) :
    Shows seq' named' o (named'.header seq' ++ data.drop ConfigOutput.lowOffset) := by
  have hheader : (named'.header seq').length = ConfigOutput.lowOffset :=
    ConfigObject.length_header
  refine ⟨List.take_left' hheader, ?_⟩
  rw [List.drop_left' hheader, h.field_eq]

/-- The buffer `seen` after the events `past`: it has the value of the object that was sent last,
and the header of the last one that was refused since. If there is none it is what was sent. -/
def Sees (past : List Event) (seen : Bytes) : Prop :=
  ∃ o left since, LastPosted past o left since ∧
    Shows (.ofCount (tried past).length) ((refused since).getLast?.getD o) o seen ∧
    (refused since = [] → seen = left)

/-- What a call that fails with `fault` makes of `c`: the number flips, and the header of an object
that cannot be sent is in the buffer. Nothing else changes. -/
structure GivesUp (c : ConfigChannel) (fault : Fault) (c' : ConfigChannel) : Prop where
  ack_eq : c'.ack = c.ack
  queue_eq : c'.queue = c.queue
  id_eq : c'.output.buffer.id = c.output.buffer.id
  seq_eq : c'.output.seq = c.output.seq.flip
  data_eq : ∃ o rest, c.queue = o :: rest ∧ fault = .invalidSizeOfObject o.size ∧
    c'.output.buffer.data = o.header c.output.seq.flip ++
      c.output.buffer.data.drop ConfigOutput.lowOffset
  data_ne : c'.output.buffer.data ≠ c.output.buffer.data

/-! ## What holds of every run -/

/-- While the acknowledge of the buffer is pending, an object has been sent. -/
def Announced (id : BufferId) (es : List Event) (c : ConfigChannel) : Prop :=
  c.ack.isPending id = true → Sees es c.output.buffer.data

/-- A step that is no attempt. -/
theorem Announced.quiet (h : Announced id es c) (ho : c'.output = c.output)
    (hack : c'.ack.isPending id = true → c.ack.isPending id = true) (he : e.tried? = none) :
    Announced id (es ++ [e]) c' := by
  intro hp
  obtain ⟨o, left, since, hlast, hshows, hleft⟩ := h (hack hp)
  obtain ⟨hposted, hrefused⟩ := Event.of_not_tried he
  have hpast : tried (es ++ [e]) = tried es := by
    rw [tried_append, he, Option.toList_none, List.append_nil]
  have hsince : refused (since ++ [e]) = refused since := by
    rw [refused_append, hrefused, Option.toList_none, List.append_nil]
  refine ⟨o, left, since ++ [e], hlast.next hposted, ?_, ?_⟩
  · rw [ho, hpast, hsince]
    exact hshows
  · rw [ho, hsince]
    exact hleft

theorem Announced.send {r : Except Fault Unit} (hinv : Inv id es c) (h : Announced id es c)
    (hr : ConfigChannel.send.eval c = (r, c')) :
    Announced id (es ++ [.send c.queue.head? r c'.output.buffer.data]) c' := by
  have hseq := (hinv.send hr).seq_eq
  obtain ⟨r', d, heval, hstep⟩ := ConfigChannel.eval_send hinv.length_eq
  rw [heval] at hr
  cases hr
  cases hstep with
  | idle hq =>
    rw [hq]
    exact h.quiet rfl (fun hp => hp) rfl
  | @sent o rest hq ho =>
    rw [show c.queue.head? = some o by rw [hq]; rfl] at hseq ⊢
    intro _
    refine ⟨o, _, [], .now es o _, ?_, fun _ => rfl⟩
    rw [← hseq]
    exact .written _ o _
  | @refused o rest hq ho =>
    rw [show c.queue.head? = some o by rw [hq]; rfl] at hseq ⊢
    intro hp
    obtain ⟨o', left, since, hlast, hshows, -⟩ := h hp
    have hsince : refused (since ++ [.send (some o) (.error (.invalidSizeOfObject o.size))
        (c.refused o).output.buffer.data]) = refused since ++ [o] := refused_append _ _
    refine ⟨o', left, _, hlast.next rfl, ?_, ?_⟩
    · rw [← hseq, hsince, List.getLast?_concat]
      exact hshows.renamed _ o
    · rw [hsince]
      intro hnil
      exact absurd hnil (by simp)

theorem Announced.step (hid : id.index < TripleBuffer.idLimit) (hinv : Inv id es c)
    (h : Announced id es c) (hs : Step c e c') : Announced id (es ++ [e]) c' := by
  cases hs with
  | access hr =>
    rw [ConfigChannel.access, Op.eval_within] at hr
    cases hr
    exact h.quiet rfl (fun hp => hp) rfl
  | write | advance => exact h.quiet rfl (fun hp => hp) rfl
  | clear hother => exact h.quiet rfl (AckRegister.isPending_clear hid hother) rfl
  | look =>
    have hown : c.output.buffer.id.index < TripleBuffer.idLimit := by
      rw [hinv.id_eq]
      exact hid
    exact h.quiet rfl (AckRegister.isPending_clear hid hown) rfl
  | send hr => exact h.send hinv hr

theorem announced_fresh {ack : AckRegister} (hack : ack.isPending id = false) :
    Announced id [] ⟨.opened id, ack, []⟩ := by
  intro hp
  rw [hack] at hp
  cases hp

/-! ## Calls that fail, and what is read -/

/-- The remote side only reads the buffer while the acknowledge is pending. -/
theorem Announced.sees {seen : Bytes} (hinv : Inv id es c) (h : Announced id es c)
    (hs : Step c (.look seen) c') : Sees es seen := by
  cases hs with
  | look hp =>
    rw [hinv.id_eq] at hp
    exact h hp

/-- A call can only fail on an object that cannot be sent. -/
theorem givesUp_of_error {fault : Fault}
    (hlen : c.output.buffer.data.length = ConfigOutput.bufferSize)
    (hnumber : c.output.buffer.data[0]? = some c.output.seq.toByte)
    (hr : ConfigChannel.send.eval c = (.error fault, c')) : GivesUp c fault c' := by
  obtain ⟨r', d, heval, hstep⟩ := ConfigChannel.eval_send hlen
  rw [heval] at hr
  cases hr
  cases hstep with
  | @refused o rest hq ho =>
    refine ⟨rfl, rfl, rfl, rfl, ⟨o, rest, hq, rfl, rfl⟩, ?_⟩
    intro hsame
    -- the first byte is the number of the attempt, and that has flipped
    have hflip : some c.output.seq.flip.toByte = some c.output.seq.toByte :=
      (congrArg (·[0]?) hsame).trans hnumber
    cases hseq : c.output.seq <;> rw [hseq] at hflip <;> cases hflip

/-- A call that fails takes nothing from the queue and raises no acknowledge, but it leaves the
header of the object it could not send in the buffer. The remote side, if it only looks while the
acknowledge is pending, sees the value of the object that was sent last. It sees it as it was sent,
unless an attempt was refused since: then the header is that of the object that was refused. -/
theorem seen_of_run {id : BufferId} (hid : id.index < TripleBuffer.idLimit) {ack : AckRegister}
    (hack : ack.isPending id = false) :
    ∃ output, (ConfigOutput.create id ConfigOutput.bufferSize).eval () = (.ok output, ()) ∧
      ∀ es c, Run Step ⟨output, ack, []⟩ es c →
        (∀ bits queue fault c',
          ConfigChannel.send.eval ⟨c.output, bits, queue⟩ = (.error fault, c') →
            GivesUp ⟨c.output, bits, queue⟩ fault c') ∧
        ∀ past seen rest, es = past ++ .look seen :: rest → Sees past seen := by
  refine ⟨_, ConfigOutput.eval_create hid (), ?_⟩
  intro es c hrun
  obtain ⟨⟨hinv, -⟩, hlooks⟩ := hrun.invariant_forall
    (I := fun es c => Inv id es c ∧ Announced id es c)
    (P := fun past e => ∀ seen, e = .look seen → Sees past seen)
    ⟨inv_fresh id ack, announced_fresh hack⟩ (fun ⟨hinv, h⟩ hs => by
      refine ⟨⟨hinv.step hs, h.step hid hinv hs⟩, ?_⟩
      rintro seen rfl
      exact h.sees hinv hs)
  refine ⟨?_, ?_⟩
  · intro bits queue fault c' hr
    exact givesUp_of_error hinv.length_eq hinv.number_eq hr
  · intro past seen rest hes
    exact hlooks past _ rest hes seen rfl

/-- Two objects of one byte are sent, and the first one is read before the second one is sent.
Before the second one is read, an object of three bytes is refused, and what is read then is the
place of that object and the byte that was sent before it. -/
theorem seen_of_run_refused :
    let id : BufferId := ⟨3⟩
    let one : ConfigObject := ⟨0x2000, 1, 1, 0x11, 0⟩
    let two : ConfigObject := ⟨0x2000, 2, 1, 0x22, 0⟩
    let three : ConfigObject := ⟨0x2001, 3, 3, 0x445566, 0⟩
    id.index < TripleBuffer.idLimit ∧ AckRegister.empty.isPending id = false ∧
    ∃ output, (ConfigOutput.create id ConfigOutput.bufferSize).eval () = (.ok output, ()) ∧
      ∃ first second seen torn c, Run Step ⟨output, .empty, []⟩
          (first ++ .look seen :: (second ++ [.look torn])) c ∧
        posted first = [one] ∧ refused first = [] ∧ Sees first seen ∧
        posted second = [two] ∧ refused second = [three] ∧
        Sees (first ++ .look seen :: second) torn ∧
        seen = [1, 1, 0x00, 0x20, 0x11, 0, 0, 0, 0, 0, 0, 0] ∧
        torn = [1, 3, 0x01, 0x20, 0x22, 0, 0, 0, 0, 0, 0, 0] := by
  intro id one two three
  have hid : id.index < TripleBuffer.idLimit := by decide
  have hack : AckRegister.empty.isPending id = false := by decide
  obtain ⟨output, hcreate, hruns⟩ := seen_of_run hid hack
  obtain rfl := ConfigOutput.eq_opened hid hcreate
  let c0 : ConfigChannel := ⟨.opened id, .empty, [one]⟩
  let c1 : ConfigChannel :=
    { c0.sent one with ack := (c0.sent one).ack.clear id, queue := [two, three] }
  have hone : ConfigChannel.send.eval c0 = (.ok (), c0.sent one) :=
    ConfigChannel.eval_send_sent rfl rfl (by decide)
  have htwo : ConfigChannel.send.eval c1 = (.ok (), c1.sent two) :=
    ConfigChannel.eval_send_sent (by decide) rfl (by decide)
  have hthree : ConfigChannel.send.eval (c1.sent two) =
      (.error (.invalidSizeOfObject three.size), (c1.sent two).refused three) :=
    ConfigChannel.eval_send_refused (by decide) rfl (by decide)
  let first : List Event :=
    [.write one, .send (some one) (.ok ()) (c0.sent one).output.buffer.data]
  let second : List Event := [.write two, .write three,
    .send (some two) (.ok ()) (c1.sent two).output.buffer.data,
    .send (some three) (.error (.invalidSizeOfObject three.size))
      ((c1.sent two).refused three).output.buffer.data]
  have hrun : Run Step ⟨.opened id, .empty, []⟩ (first ++ .look (c0.sent one).output.buffer.data ::
      (second ++ [.look ((c1.sent two).refused three).output.buffer.data])) _ :=
    (((((((Run.one (.write one)).next (.send hone)).next
      (.look (AckRegister.isPending_raise hid))).next (.write two)).next (.write three)).next
        (.send htwo)).next (.send hthree)).next (.look (AckRegister.isPending_raise hid))
  obtain ⟨-, hlooks⟩ := hruns _ _ hrun
  refine ⟨hid, hack, _, hcreate, first, second, _, _, _, hrun, rfl, rfl, ?_, rfl, rfl, ?_,
    by decide, by decide⟩
  · exact hlooks first _ _ rfl
  · exact hlooks (first ++ .look (c0.sent one).output.buffer.data :: second) _ [] rfl

end Forwarding

end SlimInterface
