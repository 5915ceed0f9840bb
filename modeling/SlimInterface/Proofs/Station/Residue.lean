import SlimInterface.Channel.Logbook.Channel
import SlimInterface.Channel.Ssdo.Channel
import SlimInterface.Proofs.Ssdo.TransmitStep
import SlimInterface.Proofs.Station.Gap

/-!
# What a failed opening leaves behind

Opening a channel is a row of checks and attachments, and the first that fails ends it. Each of them
does its work or nothing (`Op.Guards`), but nothing is taken back: what was attached before stays
attached. `Opening.residue` is what that amounts to. Three of the five channels attach one action at
most, in the last step that can fail, and leave nothing. The other two can:

* the status channel attaches to the list before the transfer first. When the list after the
  transfer is full, the application is told the time by a channel it does not have; when that list
  has one free slot, the channel keeps acknowledges there too;
* the SSDO channel opens its transmitting side before it looks at the buffer of the receiving side,
  so the action of a timer is left when that buffer does not fit.

`Opening.attached_of_failed` says that this is all. The registers or the counter that were put down
for the channel are held by nobody, and where no action is left, no later call shows that the
opening was tried.
-/

namespace SlimInterface

variable {σ ω α : Type}

/-! ## Streams -/

namespace Stream

variable {s : Stream σ}

/-- The size of a buffer. -/
def sizeOf? (s : Stream σ) (id : BufferId) : Option Nat := (s.descriptor? id).map (·.size)

/-- Whether there is a free slot for an action. -/
def HasRoom (s : Stream σ) (kind : ActionKind) : Prop :=
  (s.actions kind).length < s.descriptors.length

instance (s : Stream σ) (kind : ActionKind) : Decidable (s.HasRoom kind) := Nat.decLt _ _

/-- Attach actions one after the other. -/
def attach (rs : List (ActionKind × Registration σ)) (s : Stream σ) : Stream σ :=
  rs.foldl (fun s r => s.append r.1 r.2) s

theorem sizeOf?_eq_some {id : BufferId} {size : Nat} :
    s.sizeOf? id = some size ↔ ∃ d, s.descriptor? id = some d ∧ d.size = size :=
  Option.map_eq_some_iff

theorem descriptor?_ne_none {id : BufferId} {size : Nat} (h : s.sizeOf? id = some size) :
    s.descriptor? id ≠ none := by
  obtain ⟨d, hd, -⟩ := sizeOf?_eq_some.mp h
  rw [hd]
  exact Option.some_ne_none d

/-- Every action that is attached makes one of the two lists longer. -/
theorem length_attach (rs : List (ActionKind × Registration σ)) (s : Stream σ) :
    (s.attach rs).pre.length + (s.attach rs).post.length =
      s.pre.length + s.post.length + rs.length := by
  induction rs generalizing s with
  | nil => rfl
  | cons r rest ih =>
    refine (ih (s.append r.1 r.2)).trans ?_
    rw [List.length_cons]
    rcases r with ⟨_ | _, r⟩
    · show (s.pre ++ [r]).length + s.post.length + rest.length = _
      rw [List.length_append, List.length_singleton]
      omega
    · show s.pre.length + (s.post ++ [r]).length + rest.length = _
      rw [List.length_append, List.length_singleton]
      omega

/-- The two lists are as before only if nothing was attached. -/
theorem attach_unchanged_iff {rs : List (ActionKind × Registration σ)} :
    (s.attach rs).pre = s.pre ∧ (s.attach rs).post = s.post ↔ rs = [] := by
  constructor
  · rintro ⟨hpre, hpost⟩
    have hlen := length_attach rs s
    rw [hpre, hpost] at hlen
    exact List.length_eq_zero_iff.mp (by omega)
  · rintro rfl
    exact ⟨rfl, rfl⟩

end Stream

/-! ## Steps that do their work or nothing -/

namespace Op

variable {P : σ → Prop} {g : σ → σ} {op : Op σ Unit} {next : Unit → Op σ α} {s t : σ} {f : Fault}

/-- Where `P` holds the operation does `g`, and elsewhere it fails and does nothing. -/
def Guards (P : σ → Prop) (g : σ → σ) (op : Op σ Unit) : Prop :=
  ∀ s, P s ∧ op.eval s = (.ok (), g s) ∨ ¬ P s ∧ ∃ e, op.eval s = (.error e, s)

/-- A row that starts with such a step fails there, or later. -/
theorem Guards.error_cases (h : op.Guards P g) (hf : (op >>= next).eval s = (.error f, t)) :
    ¬ P s ∧ t = s ∨ P s ∧ (next ()).eval (g s) = (.error f, t) := by
  rcases h s with ⟨hP, hok⟩ | ⟨hP, e, herror⟩
  · rw [eval_bind_ok hok] at hf
    exact .inr ⟨hP, hf⟩
  · rw [eval_bind_error herror] at hf
    cases hf
    exact .inl ⟨hP, rfl⟩

end Op

/-- An action is attached if there is such a buffer and a free slot. -/
theorem Station.guards_attach (kind : ActionKind) (id : BufferId) (act : Action (Bench ω)) :
    (Site.onStream (Stream.register kind id act)).Guards
      (fun s => s.stream.descriptor? id ≠ none ∧ s.stream.HasRoom kind)
      (fun s => { s with stream := s.stream.append kind ⟨id, act⟩ }) := by
  intro s
  rw [Site.onStream, Op.eval_within, Stream.eval_register]
  by_cases hid : s.stream.descriptor? id = none
  · rw [if_pos hid]
    exact .inr ⟨fun h => h.1 hid, _, rfl⟩
  rw [if_neg hid]
  by_cases hroom : s.stream.HasRoom kind
  · rw [if_neg (Nat.not_le.mpr hroom)]
    exact .inl ⟨⟨hid, hroom⟩, rfl⟩
  · rw [if_pos (Nat.le_of_not_lt hroom)]
    exact .inr ⟨fun h => hroom h.2, _, rfl⟩

/-- A buffer passes a check of its size, or the check fails. -/
theorem Station.guards_size (id : BufferId) (size : Nat) (missing : Line)
    (misfit : Descriptor → Line) :
    (Op.read >>= fun s : Station ω =>
      match s.stream.descriptor? id with
      | none => Op.log missing >>= fun _ => Op.fail .invalidParameter
      | some d =>
        if d.size = size then pure ()
        else Op.log (misfit d) >>= fun _ => Op.fail (.bufferSizeMismatch size d.size)).Guards
      (fun s => s.stream.sizeOf? id = some size) (fun s => s) := by
  intro s
  rw [Op.eval_bind_ok (Op.eval_read s)]
  show (s.stream.descriptor? id).map (·.size) = some size ∧ _ ∨
    ¬ (s.stream.descriptor? id).map (·.size) = some size ∧ _
  cases s.stream.descriptor? id with
  | none => exact .inr ⟨nofun, _, rfl⟩
  | some d =>
    by_cases hsize : d.size = size
    · simp [hsize]
    · simp [hsize, Op.eval_bind]

theorem Status.guards_checkBuffer (id : BufferId) (size : Nat) :
    (checkBuffer (ω := ω) id size).Guards (fun s => s.stream.sizeOf? id = some size) (fun s => s) :=
  Station.guards_size id size _ _

theorem Frame.guards_checkBuffer (id : BufferId) :
    (checkBuffer (ω := ω) id).Guards (fun s => s.stream.sizeOf? id = some bufferSize)
      (fun s => s) :=
  Station.guards_size id bufferSize _ _

/-! ## What is left -/

/-- What an opening that failed has made of a station: some more actions, and at the end of the
bench what was put down for the channel. -/
structure Station.Left (rs : List (ActionKind × Registration (Bench ω))) (s t : Station ω) :
    Prop where
  stream : t.stream = s.stream.attach rs
  registers : ∃ added, t.around.registers = s.around.registers ++ added
  counters : ∃ added, t.around.counters = s.around.counters ++ added
  world : t.around.world = s.around.world

/-- What the second bench has at its end and the first one has not. -/
def Bench.gap (b b' : Bench ω) : Gap where
  registers := ⟨b.registers.length, b'.registers.length - b.registers.length⟩
  counters := ⟨b.counters.length, b'.counters.length - b.counters.length⟩

namespace Station

variable {s t : Station ω} {rs : List (ActionKind × Registration (Bench ω))}

theorem Left.refl (s : Station ω) : Left [] s s :=
  ⟨rfl, ⟨[], (List.append_nil _).symm⟩, ⟨[], (List.append_nil _).symm⟩, rfl⟩

/-- New registers and some actions. -/
theorem left_of_registers (rs : List (ActionKind × Registration (Bench ω))) (s : Station ω) :
    Left rs s ⟨s.stream.attach rs,
      { s.around with registers := s.around.registers ++ [.clear] }⟩ :=
  ⟨rfl, ⟨_, rfl⟩, ⟨[], (List.append_nil _).symm⟩, rfl⟩

/-- A new timer and some actions. -/
theorem left_of_timer (rs : List (ActionKind × Registration (Bench ω))) (s : Station ω) :
    Left rs s ⟨s.stream.attach rs, { s.around with counters := s.around.counters ++ [.idle] }⟩ :=
  ⟨rfl, ⟨[], (List.append_nil _).symm⟩, ⟨_, rfl⟩, rfl⟩

/-- What was put down for the channel is a gap on the bench. -/
theorem Left.apart (h : Left rs s t) : s.around.Apart (s.around.gap t.around) t.around := by
  obtain ⟨-, ⟨registers, hregisters⟩, ⟨counters, hcounters⟩, hworld⟩ := h
  unfold Bench.gap
  rw [hregisters, hcounters, List.length_append, List.length_append, Nat.add_sub_cancel_left,
    Nat.add_sub_cancel_left]
  refine ⟨?_, ?_, hworld⟩
  · rw [hregisters]
    exact Hole.parts_append _ _
  · rw [hcounters]
    exact Hole.parts_append _ _

end Station

/-- The calls that open a channel. -/
inductive Opening (ω : Type)
  | status (outId inId : BufferId) (notify : TimeSync ω)
  | log (id : UInt8) (buffer : BufferId) (status : Status)
  | transmit (id : UInt8) (buffer : BufferId) (status : Status)
  | receive (id : UInt8) (buffer : BufferId) (status : Status)
  | ssdo (id : UInt8) (consumer producer : BufferId) (status : Status)

namespace Opening

/-- The call fails with `f`, from `s` to `t`. -/
def Fails (f : Fault) (s t : Station ω) : Opening ω → Prop
  | .status outId inId notify => (Status.create outId inId notify).eval s = (.error f, t)
  | .log id buffer st => (LogChannel.create id buffer st).eval s = (.error f, t)
  | .transmit id buffer st => (Transmit.create id buffer st).eval s = (.error f, t)
  | .receive id buffer st => (Receive.create id buffer st).eval s = (.error f, t)
  | .ssdo id consumer producer st =>
    (SsdoChannel.create id consumer producer st).eval s = (.error f, t)

/-- What stays attached to the stream of `s` if the call fails. -/
def residue (s : Station ω) : Opening ω → List (ActionKind × Registration (Bench ω))
  | .status outId inId notify =>
    if s.stream.sizeOf? outId = some Status.outSize ∧ s.stream.sizeOf? inId = some Status.inSize ∧
        s.stream.HasRoom .pre then
      (.pre, ⟨outId, Status.timeSyncAction s.around.registers.length notify⟩) ::
        if s.stream.HasRoom .post then
          [(.post, ⟨outId, Status.cacheAction s.around.registers.length⟩)]
        else []
    else []
  | .ssdo id consumer _ _ =>
    if id.toNat < ssdoChannelCount ∧ s.stream.sizeOf? consumer = some Frame.bufferSize ∧
        s.stream.HasRoom .post then
      [(.post, ⟨consumer, Bench.tick ⟨retryCycles, s.around.counters.length⟩⟩)]
    else []
  | _ => []

end Opening

/-! ## The five channels -/

section

variable {s t : Station ω} {f : Fault}

/-- The status channel attaches one action before the transfer and two after it, in this order. -/
theorem Status.left_of_failed {outId inId : BufferId} {notify : TimeSync ω}
    (h : (create outId inId notify).eval s = (.error f, t)) :
    Station.Left (Opening.residue s (.status outId inId notify)) s t := by
  unfold create at h
  rw [Opening.residue]
  rcases (guards_checkBuffer outId outSize).error_cases h with ⟨hout, rfl⟩ | ⟨hout, h⟩
  · rw [if_neg fun hc => hout hc.1]
    exact .refl t
  rcases (guards_checkBuffer inId inSize).error_cases h with ⟨hin, rfl⟩ | ⟨hin, h⟩
  · rw [if_neg fun hc => hin hc.2.1]
    exact .refl t
  have hid := Stream.descriptor?_ne_none hout
  have hid' := Stream.descriptor?_ne_none hin
  rw [Op.eval_bind_ok (Station.eval_addRegisters s)] at h
  rcases (Station.guards_attach .pre outId _).error_cases h with ⟨hfull, rfl⟩ | ⟨hpre, h⟩
  · rw [if_neg fun hc => hfull ⟨hid, hc.2.2⟩]
    exact Station.left_of_registers [] s
  rw [if_pos ⟨hout, hin, hpre.2⟩]
  rcases (Station.guards_attach .post outId _).error_cases h with ⟨hfull, rfl⟩ | ⟨hpost, h⟩
  · rw [if_neg fun hc : s.stream.HasRoom .post => hfull ⟨hid, hc⟩]
    exact Station.left_of_registers [_] s
  rw [if_pos (show s.stream.HasRoom .post from hpost.2)]
  rcases (Station.guards_attach .post inId _).error_cases h with ⟨-, rfl⟩ | ⟨-, h⟩
  · exact Station.left_of_registers [_, _] s
  · cases h

/-- A timer and its action: where the list has no room, only the timer stays. -/
theorem Station.left_of_timer_failed {threshold : Nat} {id : BufferId} {line : Line}
    {channel : Timer → α} (hid : s.stream.descriptor? id ≠ none)
    (h : (Station.onBench (Bench.addTimer threshold) >>= fun timer =>
      Site.onStream (Stream.register .post id (Bench.tick timer)) >>= fun _ =>
      Op.log line >>= fun _ => pure (channel timer)).eval s = (.error f, t)) :
    ¬ s.stream.HasRoom .post ∧ Station.Left [] s t := by
  rw [Op.eval_bind_ok (Station.eval_addTimer ..)] at h
  rcases (guards_attach .post id _).error_cases h with ⟨hfull, rfl⟩ | ⟨-, h⟩
  · exact ⟨fun hroom => hfull ⟨hid, hroom⟩, Station.left_of_timer [] s⟩
  · cases h

theorem LogChannel.left_of_failed {id : UInt8} {buffer : BufferId} {st : Status}
    (h : (create id buffer st).eval s = (.error f, t)) : Station.Left [] s t := by
  unfold create at h
  split at h
  · cases h
    exact .refl s
  rw [Op.eval_bind_ok (Op.eval_read s)] at h
  cases hd : s.stream.descriptor? buffer with
  | none =>
    rw [hd] at h
    cases h
    exact .refl s
  | some d =>
    rw [hd] at h
    dsimp only at h
    split at h
    · cases h
      exact .refl s
    · exact (Station.left_of_timer_failed (by rw [hd]; exact Option.some_ne_none d) h).2

/-- The transmitting side looks at its buffer first, and then a timer is all it leaves. -/
theorem Transmit.left_of_failed {id : UInt8} {buffer : BufferId} {st : Status}
    (h : (create id buffer st).eval s = (.error f, t)) :
    ¬ (s.stream.sizeOf? buffer = some Frame.bufferSize ∧ s.stream.HasRoom .post) ∧
      Station.Left [] s t := by
  unfold create at h
  rcases (Frame.guards_checkBuffer buffer).error_cases h with ⟨hfit, rfl⟩ | ⟨hfit, h⟩
  · exact ⟨fun hc => hfit hc.1, .refl t⟩
  obtain ⟨hfull, hleft⟩ := Station.left_of_timer_failed (Stream.descriptor?_ne_none hfit) h
  exact ⟨fun hc => hfull hc.2, hleft⟩

theorem Receive.eq_of_failed {id : UInt8} {buffer : BufferId} {st : Status}
    (h : (create id buffer st).eval s = (.error f, t)) : t = s := by
  unfold create at h
  rcases (Frame.guards_checkBuffer buffer).error_cases h with ⟨-, rfl⟩ | ⟨-, h⟩
  · rfl
  · cases h

/-- The SSDO channel may fail with its transmitting side already open. -/
theorem SsdoChannel.left_of_failed {id : UInt8} {consumer producer : BufferId} {st : Status}
    (h : (create id consumer producer st).eval s = (.error f, t)) :
    Station.Left (Opening.residue s (.ssdo id consumer producer st)) s t := by
  unfold create at h
  rw [Opening.residue]
  split at h
  · next hid =>
    cases h
    rw [if_neg fun hc => absurd hc.1 (Nat.not_lt.mpr hid)]
    exact .refl s
  next hid =>
  rcases htx : (Transmit.create id consumer st).eval s with ⟨_ | tx, u⟩
  · rw [Op.eval_bind_error htx] at h
    cases h
    obtain ⟨hbar, hleft⟩ := Transmit.left_of_failed htx
    rw [if_neg fun hc => hbar hc.2]
    exact hleft
  rw [Op.eval_bind_ok htx] at h
  obtain ⟨hbuffer, hroom, rfl, rfl⟩ := Transmit.create_eq_ok.mp htx
  rw [if_pos ⟨Nat.lt_of_not_le hid, Stream.sizeOf?_eq_some.mpr hbuffer, hroom⟩]
  rcases hrx : (Receive.create id producer st).eval _ with ⟨_ | rx, v⟩
  · rw [Op.eval_bind_error hrx] at h
    cases h
    rw [Receive.eq_of_failed hrx]
    exact Station.left_of_timer [_] s
  · rw [Op.eval_bind_ok hrx] at h
    cases h

theorem Opening.left_of_failed {o : Opening ω} (h : o.Fails f s t) :
    Station.Left (o.residue s) s t := by
  cases o with
  | status => exact Status.left_of_failed h
  | log => exact LogChannel.left_of_failed h
  | transmit => exact (Transmit.left_of_failed h).2
  | receive =>
    obtain rfl := Receive.eq_of_failed h
    exact .refl t
  | ssdo => exact SsdoChannel.left_of_failed h

end

/-- **What a failed opening leaves.** The stream is as before, apart from the actions of the
residue; the two lists are as before exactly if there is no residue. Then nothing shows that the
call was made: any later calls are answered, and change the image and the world, as they would
without it, provided that what is attached holds no position past the end of the bench. -/
theorem Opening.attached_of_failed {o : Opening ω} {s t : Station ω} {f : Fault}
    (h : o.Fails f s t) :
    t.stream = s.stream.attach (o.residue s) ∧ t.world = s.world ∧
      (t.stream.pre = s.stream.pre ∧ t.stream.post = s.stream.post ↔ o.residue s = []) ∧
      (o.residue s = [] → s.stream.Apart (s.around.gap t.around) s.stream →
        ∀ es es', List.Forall₂ (Later.Apart (s.around.gap t.around)) es es' →
          ((Later.play es').eval t).1 = ((Later.play es).eval s).1 ∧
          ((Later.play es').eval t).2.stream.image = ((Later.play es).eval s).2.stream.image ∧
          ((Later.play es').eval t).2.world = ((Later.play es).eval s).2.world) := by
  have hleft := left_of_failed h
  refine ⟨hleft.stream, hleft.world, ?_, ?_⟩
  · rw [hleft.stream]
    exact Stream.attach_unchanged_iff
  · intro hnone hself es es' hes
    have hstream : t.stream = s.stream := by
      rw [hleft.stream, hnone]
      rfl
    have hpair : s.Apart (s.around.gap t.around) t := ⟨by rw [hstream]; exact hself, hleft.apart⟩
    obtain ⟨hanswers, hafter⟩ := Later.mirrors_play hes s t hpair
    exact ⟨hanswers.symm, hafter.stream.image, hafter.around.world⟩

/-! ## A status channel opened twice -/

namespace Opening

/-- Keeps the times the application is told. -/
def told : TimeSync (List TimeStamp) := fun time => Op.update (· ++ [time])

/-- Does nothing. -/
def idle : Action (Bench (List TimeStamp)) := Op.update id

/-- Three buffers, the first two of them for a status channel. -/
def bare : Stream (Bench (List TimeStamp)) :=
  Blueprint.bare ⟨Descriptor.layout [Status.outSize, Status.inSize, 16], fun _ => idle, ⟨0⟩, ⟨1⟩⟩

/-- A station with an open status channel, and some more actions of one kind. -/
def crowded (kind : ActionKind) (n : Nat) : Station (List TimeStamp) :=
  let opened := ((Status.create ⟨0⟩ ⟨1⟩ told).eval ⟨bare, Bench.empty []⟩).2
  { opened with stream := opened.stream.attach (List.replicate n (kind, ⟨⟨2⟩, idle⟩)) }

/-- New registers, whose position is `i`, and a new timer; a slot for the timer is free, and one for
the registers is not. -/
def after (i : Nat) : List (Later (List TimeStamp)) :=
  [.bench (Bench.addRegisters >>= fun _ => pure ()), .bench (Bench.addTimer 5 >>= fun _ => pure ()),
    .register .post ⟨⟨2⟩, Bench.tick ⟨5, 0⟩⟩, .sync, .post,
    .register .pre ⟨⟨0⟩, Status.timeSyncAction i told⟩]

/-- The second registers of a bench, and no counters. -/
def second : Gap := ⟨⟨1, 1⟩, ⟨0, 0⟩⟩

/-- The status channel is opened a second time. Where the list after the transfer is full, the
application is told the time twice from then on. Where the list before it is full, the registers of
the second channel stay and nothing else: the next ones come third instead of second, and everything
goes as it would. -/
theorem attached_of_failed_twice :
    (∃ t, (Opening.status ⟨0⟩ ⟨1⟩ told).Fails .noFreeActionSlot (crowded .post 1) t ∧
      ¬ (t.stream.pre = (crowded .post 1).stream.pre ∧
        t.stream.post = (crowded .post 1).stream.post) ∧
      (Site.processSync.eval t).2.around.world = [.zero, .zero] ∧
      (Site.processSync.eval (crowded .post 1)).2.around.world = [.zero]) ∧
    ∃ t, (Opening.status ⟨0⟩ ⟨1⟩ told).Fails .noFreeActionSlot (crowded .pre 2) t ∧
      (crowded .pre 2).around.registers = [.clear] ∧ t.around.registers = [.clear, .clear] ∧
      ((Later.play (after 1)).eval (crowded .pre 2)).1 =
        .ok (List.replicate 5 (.ok ()) ++ [.error .noFreeActionSlot]) ∧
      ((Later.play (after 2)).eval t).1 = ((Later.play (after 1)).eval (crowded .pre 2)).1 := by
  have hpost : (Opening.status ⟨0⟩ ⟨1⟩ told).Fails .noFreeActionSlot (crowded .post 1)
      ((Status.create ⟨0⟩ ⟨1⟩ told).eval (crowded .post 1)).2 :=
    show (Status.create ⟨0⟩ ⟨1⟩ told).eval (crowded .post 1) = _ from rfl
  have hpre : (Opening.status ⟨0⟩ ⟨1⟩ told).Fails .noFreeActionSlot (crowded .pre 2)
      ((Status.create ⟨0⟩ ⟨1⟩ told).eval (crowded .pre 2)).2 :=
    show (Status.create ⟨0⟩ ⟨1⟩ told).eval (crowded .pre 2) = _ from rfl
  refine ⟨⟨_, hpost, ?_, rfl, rfl⟩, _, hpre, rfl, rfl, rfl, ?_⟩
  · rw [(attached_of_failed hpost).2.2.1]
    exact List.cons_ne_nil _ _
  refine ((attached_of_failed hpre).2.2.2 rfl ?_ (after 1) (after 2) ?_).1
  · have hidle : ∀ g, Op.Mirrors (Bench.ApartBeside g) idle idle :=
      fun _ => Op.mirrors_update fun _ _ h => h
    -- the positions the open channel holds are in front of the gap
    have hcache := Status.mirrors_cacheAction (ω := List TimeStamp) second 0
    have hpublish := Status.mirrors_publishAction (ω := List TimeStamp) second 0
    have htime := Status.mirrors_timeSyncAction second 0 told
    refine ⟨rfl, rfl, rfl, rfl, fun _ => hidle _, ?_, ?_, .none⟩
    · exact .cons ⟨rfl, htime⟩ (.cons ⟨rfl, hidle _⟩ (.cons ⟨rfl, hidle _⟩ .nil))
    · exact .cons ⟨rfl, hcache⟩ (.cons ⟨rfl, hpublish⟩ .nil)
  · exact .cons (.bench (Bench.mirrors_addRegisters _)) <|
      .cons (.bench (Bench.mirrors_addTimer _ 5)) <|
      .cons (.register ⟨rfl, Bench.mirrors_tick second ⟨5, 0⟩⟩) <| .cons .sync <| .cons .post <|
      .cons (.register ⟨rfl, Status.mirrors_timeSyncAction second 1 told⟩) .nil

end Opening

end SlimInterface
