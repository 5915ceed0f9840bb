import SlimInterface.Proofs.Remote.Linked

/-!
# The relative time

The remote side sets the relative time in its copy of the status buffer. The next transfer brings
it into the image, and the first half of the cycle after that one tells the application and keeps
it in a register. So the time passes three places: what the remote side shows, what the local
buffer holds, and what the register keeps. `Inv` says what each of them is in terms of what
happened: the time set last, the one that was set last when the images moved last, and the one the
application heard last.

The first half of a cycle tells the time before it moves the images. It therefore tells the time
of the transfer before, however many cycles have failed since, and `forwarded_of_run` follows.
-/

namespace SlimInterface

variable {υ κ : Type}

/-! ## The time in a status buffer -/

namespace Status

variable {b d : Bytes}

/-- The eight bytes of a time are its two halves. -/
theorem littleEndian_toWord (t : TimeStamp) : Bytes.littleEndian 8 t.toWord.toNat =
    Bytes.littleEndian 4 t.low.toNat ++ Bytes.littleEndian 4 t.high.toNat := by
  have hl := t.low.toNat_lt
  have hh := t.high.toNat_lt
  have hword : t.toWord.toNat = t.high.toNat * 4294967296 + t.low.toNat := by
    show (UInt64.ofNat (t.high.toNat * 4294967296 + t.low.toNat)).toNat = _
    rw [UInt64.toNat_ofNat']
    omega
  have hlow : Bytes.littleEndian 4 t.toWord.toNat = Bytes.littleEndian 4 t.low.toNat := by
    apply Bytes.littleEndian_congr
    rw [hword]
    omega
  rw [show (8 : Nat) = 4 + 4 from rfl, Bytes.littleEndian_add, hlow, hword,
    show (t.high.toNat * 4294967296 + t.low.toNat) / 256 ^ 4 = t.high.toNat by omega]

/-- What the remote side writes as one number is read back as two halves. -/
theorem timeIn_overwrite (h : b.length = outSize) (t : TimeStamp) :
    timeIn (b.overwrite timeLowOffset (Bytes.littleEndian 8 t.toWord.toNat)) = t := by
  have hb : b.length = 12 := h
  have hhalves : b.overwrite timeLowOffset (Bytes.littleEndian 8 t.toWord.toNat) =
      (b.overwrite timeLowOffset (Bytes.littleEndian 4 t.low.toNat)).overwrite timeHighOffset
        (Bytes.littleEndian 4 t.high.toNat) := by
    rw [littleEndian_toWord, ← Bytes.overwrite_overwrite]
    · rw [Bytes.length_littleEndian]
      rfl
    · rw [Bytes.length_littleEndian, Bytes.length_littleEndian, hb]
      decide
  unfold timeIn
  rw [hhalves, Bytes.dword_overwrite (by rw [Bytes.length_overwrite, hb]; decide),
    Bytes.dword_overwrite_of_apart (.inl (by decide)), Bytes.dword_overwrite (by rw [hb]; decide)]

/-- The acknowledges lie behind the time. -/
theorem timeIn_overwrite_log (v : UInt8) : timeIn (b.overwrite logOffset [v]) = timeIn b := by
  unfold timeIn
  rw [Bytes.dword_overwrite_of_apart (.inl (by decide)),
    Bytes.dword_overwrite_of_apart (.inl (by decide))]

theorem timeIn_replicate : timeIn (List.replicate outSize 0) = .zero := by decide

end Status

/-! ## The remote side -/

namespace Link

variable {c : Config} {l : Link}

/-- Setting the time publishes it. -/
theorem eval_setTime (hc : c.Accepted) (h : l.Attached c) (hout : c.Consumed c.statusOut)
    (t : TimeStamp) :
    (setTime t).eval l = (.ok (), l.published c c.statusOut Status.timeLowOffset
      (Bytes.littleEndian 8 t.toWord.toNat)) := by
  unfold setTime
  rw [Op.eval_bind_ok (Op.eval_read _), h.statusOut]
  refine eval_publish h hout (Nat.lt_trans hout.2 hc.prodAck_lt) ?_
  rw [Bytes.length_littleEndian, hc.statusOut_size]
  decide

/-- Taking an entry publishes an acknowledge, if anything. -/
theorem takeLogEntry?_cases (hc : c.Accepted) (h : l.Attached c) (hout : c.Consumed c.statusOut)
    {channel : UInt8} {o : Outcome Link (Option LogEntry)}
    (ho : l.takeLogEntry? channel = some o) :
    o.state = l ∨ ∃ v, o.state = l.published c c.statusOut Status.logOffset [v] := by
  have hspan :
      l.consumerSpan l.statusOut = .ok ((c.span c.statusOut).shift c.consumerPart.start) := by
    rw [h.statusOut]
    exact consumerSpan_eq h hout (Nat.lt_trans hout.2 hc.prodAck_lt)
  unfold takeLogEntry? at ho
  rw [hspan] at ho
  dsimp only at ho
  split at ho
  · cases ho
    exact .inl rfl
  split at ho
  · cases ho
    exact .inl rfl
  · cases ho
    exact .inl rfl
  · next first rest _ =>
    split at ho
    · cases ho
    · next flags _ =>
      split at ho
      · cases ho
        exact .inl rfl
      -- the acknowledge is one byte of the status buffer
      · right
        refine ⟨acknowledged flags channel (first &&& 1), ?_⟩
        unfold published
        rw [← Bytes.set_eq_overwrite]
        split at ho
        · cases ho
          rfl
        · cases ho
          rfl

end Link

/-! ## Runs -/

/-- A network that does not reach what lies beside it. -/
def Transport.beside (net : Transport υ) : Transport (κ × υ) where
  send id p := Op.onSecond (net.send id p)
  poll id w := ((net.poll id w.2).1, w.1, (net.poll id w.2).2)

/-- The times an application was told, each with whether it took it. -/
abbrev Told := List (TimeStamp × Bool)

/-- Surroundings whose time callback is written down. -/
def Surroundings.recorded (app : Surroundings υ) : Surroundings (Told × υ) where
  gate := Op.onSecond app.gate
  timeSync t := fun w =>
    let o := app.timeSync t w.2
    ⟨o.result, (w.1 ++ [(t, o.result.isOk)], o.state), o.lines⟩
  incidents i w := ((w.1, (app.incidents i w.2).1), (app.incidents i w.2).2)

namespace Timing

/-- What happens between an endpoint and the remote side of its link. -/
inductive Event
  /-- The remote side sets the relative time. -/
  | set (t : TimeStamp) (answer : Except Fault Unit)
  /-- The remote side takes a logbook entry. -/
  | take (channel : UInt8) (answer : Except Fault (Option LogEntry))
  /-- The endpoint answers a call; meanwhile the application is told the times `told`, and so
  many transfers are made. -/
  | call (a : Call) (told : Told) (transfers : Nat)

/-- The steps of both sides. -/
inductive Step (net : Transport υ) (s : Endpoint (Link × Told × υ)) :
    Event → Endpoint (Link × Told × υ) → Prop
  | set {t : TimeStamp} {a : Except Fault Unit} {l : Link}
      (h : (Link.setTime t).eval s.world.1 = (a, l)) :
      Step net s (.set t a) (s.setWorld (l, s.world.2))
  | take {channel : UInt8} {o : Outcome Link (Option LogEntry)}
      (h : Link.takeLogEntry? channel s.world.1 = some o) :
      Step net s (.take channel o.result) (s.setWorld (o.state, s.world.2))
  | call {a : Call} {t : Endpoint (Link × Told × υ)}
      (h : Endpoint.Does net.beside.linked s a t) :
      Step net s (.call a (t.world.2.1.drop s.world.2.1.length)
        (t.world.1.transfers - s.world.1.transfers)) t

/-- The time an event sets. -/
def Event.time? : Event → Option UInt64
  | .set t _ => some t.toWord
  | _ => none

/-- The images move in an event. -/
def Event.moves : Event → Bool
  | .call _ _ transfers => transfers != 0
  | _ => false

/-- What the application is told in an event. -/
def Event.told : Event → Told
  | .call _ told _ => told
  | _ => []

/-- The time that was set last; zero if there was none. -/
def latest (es : List Event) : UInt64 := (es.filterMap Event.time?).getLast?.getD 0

/-- The events before the last transfer; none if there was no transfer. -/
def beforeTransfer (es : List Event) : List Event :=
  ((es.reverse.dropWhile fun e => !e.moves).drop 1).reverse

/-- The time that had been set last when the images moved last. -/
def arrived (es : List Event) : UInt64 := latest (beforeTransfer es)

/-- The time the application was told last; zero if it was told none. -/
def toldLast (es : List Event) : TimeStamp :=
  ((es.flatMap Event.told).getLast?.map Prod.fst).getD .zero

/-- What an event says after the events `past`. The first half of a cycle tells the application one
time, the one that has arrived; if the application does not take it, the call fails and nothing
moves. No other call tells it a time. -/
def Forwards (past : List Event) : Event → Prop
  | .set _ a => a = .ok ()
  | .take _ _ => True
  | .call (.sync a) told transfers => ∃ t taken, told = [(t, taken)] ∧ t.toWord = arrived past ∧
      (taken = false ↔ a = .error .timeSyncFailed) ∧
      (a = .ok () ∧ transfers = 1 ∨ (∃ f, a = .error f) ∧ transfers = 0)
  | .call _ told transfers => told = [] ∧ transfers = 0

variable {es : List Event} {e : Event}

theorem latest_append_set (t : TimeStamp) (a : Except Fault Unit) :
    latest (es ++ [.set t a]) = t.toWord := by
  unfold latest
  rw [filterMap_append_one]
  show ((es.filterMap Event.time?) ++ [t.toWord]).getLast?.getD 0 = _
  rw [List.getLast?_concat, Option.getD_some]

theorem latest_append (h : e.time? = none) : latest (es ++ [e]) = latest es := by
  unfold latest
  rw [filterMap_append_one, h, Option.toList_none, List.append_nil]

theorem arrived_append_moves (h : e.moves = true) : arrived (es ++ [e]) = latest es := by
  unfold arrived beforeTransfer
  rw [List.reverse_concat, List.dropWhile_cons_of_neg (by simp [h]), List.drop_one, List.tail_cons,
    List.reverse_reverse]

theorem arrived_append (h : e.moves = false) : arrived (es ++ [e]) = arrived es := by
  unfold arrived beforeTransfer
  rw [List.reverse_concat, List.dropWhile_cons_of_pos (by simp [h])]

theorem toldLast_append_one {t : TimeStamp} {taken : Bool} (h : e.told = [(t, taken)]) :
    toldLast (es ++ [e]) = t := by
  unfold toldLast
  rw [List.flatMap_append, List.flatMap_singleton, h, List.getLast?_concat]
  rfl

theorem toldLast_append (h : e.told = []) : toldLast (es ++ [e]) = toldLast es := by
  unfold toldLast
  rw [List.flatMap_append, List.flatMap_singleton, h, List.append_nil]

/-! ## Calls -/

variable {c : Config} {app : Surroundings υ} {net : Transport υ}
  {k k' : Live (Link × Told × υ)}

/-- What the application was told so far. -/
def told (k : Live (Link × Told × υ)) : Told := k.world.2.1

/-- The time in the local status buffer. -/
def localTime (c : Config) (k : Live (Link × Told × υ)) : TimeStamp :=
  Status.timeIn (k.buffer c c.statusOut)

/-- A call that has nothing to do with the time. -/
structure Apart (c : Config) (k k' : Live (Link × Told × υ)) : Prop where
  link : k'.link = k.link
  told : told k' = told k
  held : localTime c k' = localTime c k
  kept : k'.registers.time = k.registers.time

theorem Apart.refl (c : Config) (k : Live (Link × Told × υ)) : Apart c k k := ⟨rfl, rfl, rfl, rfl⟩

theorem Apart.trans {k'' : Live (Link × Told × υ)} (h : Apart c k k') (h' : Apart c k' k'') :
    Apart c k k'' :=
  ⟨h'.link.trans h.link, h'.told.trans h.told, h'.held.trans h.held, h'.kept.trans h.kept⟩

theorem apart_entryStep (hc : c.Accepted) {entry : LogEntry} {a : Posting}
    (hs : Live.EntryStep c entry k a k') : Apart c k k' := by
  cases hs with
  | busy => exact .refl c k
  | posted =>
    have hbuffer : (k.entered c entry).buffer c c.statusOut = k.buffer c c.statusOut :=
      Live.buffer_entered hc (by rw [hc.statusOut_size]; decide)
    exact ⟨rfl, rfl, congrArg Status.timeIn hbuffer, rfl⟩

theorem apart_frameStep {p : Bytes} {r : Except Fault Unit} (hs : Live.FrameStep p k r k') :
    Apart c k k' := by
  cases hs <;> exact ⟨rfl, rfl, rfl, rfl⟩

theorem apart_logStep (hs : Live.LogStep k k') : Apart c k k' := by
  cases hs <;> exact ⟨rfl, rfl, rfl, rfl⟩

/-- The network reaches neither the link nor what the application was told. -/
theorem apart_txStep (hs : Live.TxStep c net.beside.linked k k') : Apart c k k' := by
  have hlink : k'.link = k.link := Live.TxStep.link_eq hs
  have hsend {id : UInt8} {p : Bytes} {w w' : Link × Told × υ} {r : Except Fault Unit}
      (hn : (net.beside.linked.send id p).eval w = (r, w')) : w'.2.1 = w.2.1 := by
    cases hn
    rfl
  have hpoll {id : UInt8} {w w' : Link × Told × υ} {progress : TxProgress}
      (hn : net.beside.linked.poll id w = (progress, w')) : w'.2.1 = w.2.1 := by
    cases hn
    rfl
  cases hs with
  | sent _ hn | refused _ hn => exact ⟨hlink, hsend hn, rfl, rfl⟩
  | pending _ hn | finished _ hn | unresolved _ hn => exact ⟨hlink, hpoll hn, rfl, rfl⟩
  | malformed | known | captured | resting | rested | acknowledged => exact ⟨rfl, rfl, rfl, rfl⟩

theorem apart_rxStep (hc : c.Accepted) (hs : Live.RxStep c k k') : Apart c k k' := by
  have hbuffer (k : Live (Link × Told × υ)) (p : Bytes) :
      (k.offered c p).buffer c c.statusOut = k.buffer c c.statusOut :=
    Live.buffer_offered hc (by rw [hc.statusOut_size]; decide)
  cases hs with
  | posted | reposted => exact ⟨rfl, rfl, congrArg Status.timeIn (hbuffer _ _), rfl⟩
  | idle | postponed | waiting => exact ⟨rfl, rfl, rfl, rfl⟩

theorem apart_afterPost (hc : c.Accepted) : Apart c k (k.afterPost c) := by
  have hbuffer : (k.afterPost c).buffer c c.statusOut = k.buffer c c.statusOut :=
    Live.buffer_afterPost hc (by rw [hc.statusOut_size]; decide)
  exact ⟨rfl, rfl, congrArg Status.timeIn hbuffer, rfl⟩

/-- What the first half of a cycle can do: the images move, the application refuses the time, or it
refuses the transfer. It is told the time in any case. -/
inductive SyncCases (c : Config) (k : Live (Link × Told × υ)) :
    Except Fault Unit → Live (Link × Told × υ) → Prop
  | moved (v : υ) :
      SyncCases c k (.ok ()) (k.exchanged c (told k ++ [(localTime c k, true)], v))
  | untaken (v : υ) (tally : Tally) : SyncCases c k (.error .timeSyncFailed)
      (k.stalled c (told k ++ [(localTime c k, false)], v) tally)
  | ungated (v : υ) (tally : Tally) : SyncCases c k (.error .transferError)
      (k.stalled c (told k ++ [(localTime c k, true)], v) tally)

theorem syncCases_of_syncStep {r : Except Fault Unit} (h : k.Connected c)
    (hs : Live.SyncStep c app.recorded.linked k r k') : SyncCases c k r k' := by
  have htold {t : TimeStamp} {w : Link × Told × υ} {r : Except Fault Unit}
      (ht : (app.recorded.linked.timeSync t).eval k.world = (r, w)) :
      ∃ v, w = (k.link, told k ++ [(t, r.isOk)], v) := by
    cases ht
    exact ⟨_, rfl⟩
  -- the transfer asks the gate first
  have hrefused {v v' : υ} {log : Told} {f : Fault} (hg : app.gate.eval v = (.error f, v')) :
      (app.recorded.linked.transfer (c.producerPart.read k.image)).eval
        (c.consumerPart.read k.image, k.link, log, v) =
      (.error f, c.consumerPart.read k.image, k.link, log, v') := by
    rw [Live.eval_transfer_linked app.recorded h (w := (k.link, log, v)) rfl,
      show app.recorded.gate.eval (log, v) = ((app.gate.eval v).1, log, (app.gate.eval v).2)
        from rfl, hg]
  have hpassed {v v' : υ} {log : Told} {u : Unit} (hg : app.gate.eval v = (.ok u, v')) :
      (app.recorded.linked.transfer (c.producerPart.read k.image)).eval
        (c.consumerPart.read k.image, k.link, log, v) =
      (.ok (), k.link.consumer, { k.link with
        producer := c.producerPart.read k.image
        transfers := k.link.transfers + 1 }, log, v') := by
    rw [Live.eval_transfer_linked app.recorded h (w := (k.link, log, v)) rfl,
      show app.recorded.gate.eval (log, v) = ((app.gate.eval v).1, log, (app.gate.eval v).2)
        from rfl, hg]
  cases hs with
  | refused ht =>
    obtain ⟨v, rfl⟩ := htold ht
    exact .untaken (app.incidents ⟨.stream, .timeSyncFailed⟩ v).1
      (k.tally.record ⟨.stream, .timeSyncFailed⟩)
  | broken ht hm =>
    obtain ⟨v, rfl⟩ := htold ht
    rcases hg : app.gate.eval v with ⟨f | u, v'⟩
    · rw [hrefused hg] at hm
      cases hm
      -- the gate refused: what is placed back is what was read
      unfold Live.received Live.reported Live.timed
      dsimp only
      rw [Span.place_read]
      exact .ungated (app.incidents ⟨.stream, .transferError⟩ v').1
        (k.tally.record ⟨.stream, .transferError⟩)
    · rw [hpassed hg] at hm
      cases hm
  | moved ht hm =>
    obtain ⟨v, rfl⟩ := htold ht
    rcases hg : app.gate.eval v with ⟨f | u, v'⟩
    · rw [hrefused hg] at hm
      cases hm
    · rw [hpassed hg] at hm
      cases hm
      exact .moved v'

/-! ## Where the time is -/

/-- The three places the time passes, after the events `es`. -/
structure Inv (c : Config) (es : List Event) (k : Live (Link × Told × υ)) : Prop extends
    k.Connected c where
  /-- The remote side shows the time that was set last. -/
  shown : (Status.timeIn (k.link.consumed c c.statusOut)).toWord = latest es
  /-- The local buffer holds the time that was set last when the images moved last. -/
  held : (localTime c k).toWord = arrived es
  /-- The register keeps the time the application was told last. -/
  kept : k.registers.time = toldLast es

theorem inv_initial (hc : c.Accepted) (hout : c.Consumed c.statusOut) (u : υ) :
    Inv c [] (Live.initial c (Link.fresh c, [], u)) where
  toConnected := Live.connected_initial c _
  shown := by
    show (Status.timeIn ((Link.fresh c).consumed c c.statusOut)).toWord = 0
    rw [Link.consumed_fresh hout, hc.statusOut_size, Status.timeIn_replicate]
    rfl
  held := by
    unfold localTime
    rw [Live.buffer_initial, hc.statusOut_size, Status.timeIn_replicate]
    rfl
  kept := rfl

variable {es : List Event} {e : Event}

/-- A call that has nothing to do with the time. -/
theorem Inv.apart (h : Inv c es k) (hk : k'.Connected c) (ha : Apart c k k')
    (htime : e.time? = none) (hmoves : e.moves = false) (htold : e.told = []) :
    Inv c (es ++ [e]) k' where
  toConnected := hk
  shown := by
    rw [ha.link, latest_append htime]
    exact h.shown
  held := by
    rw [ha.held, arrived_append hmoves]
    exact h.held
  kept := by
    rw [ha.kept, toldLast_append htold]
    exact h.kept

/-- The remote side publishes bytes of the status buffer. -/
theorem connected_published (h : k.Connected c) (off : Nat) (data : Bytes) :
    (k.setLink (k.link.published c c.statusOut off data)).Connected c :=
  Live.connected_setLink h (h.attached.consumer (Bytes.length_overwrite _ _ _))

theorem Inv.set (h : Inv c es k) (hc : c.Accepted) (hout : c.Consumed c.statusOut) (t : TimeStamp)
    (a : Except Fault Unit) :
    Inv c (es ++ [.set t a]) (k.setLink (k.link.published c c.statusOut Status.timeLowOffset
      (Bytes.littleEndian 8 t.toWord.toNat))) where
  toConnected := connected_published h.toConnected _ _
  shown := by
    have hlength : (k.link.consumed c c.statusOut).length = Status.outSize :=
      (Link.length_consumed h.attached hout).trans hc.statusOut_size
    have hfit : Status.timeLowOffset + (Bytes.littleEndian 8 t.toWord.toNat).length ≤
        c.sizeOf c.statusOut := by
      rw [Bytes.length_littleEndian, hc.statusOut_size]
      decide
    show (Status.timeIn ((k.link.published c c.statusOut _ _).consumed c c.statusOut)).toWord = _
    rw [Link.consumed_published h.attached hout hfit, Status.timeIn_overwrite hlength,
      latest_append_set]
  held := h.held.trans (arrived_append rfl).symm
  kept := h.kept.trans (toldLast_append rfl).symm

theorem Inv.take (h : Inv c es k) (hc : c.Accepted) (hout : c.Consumed c.statusOut)
    (channel : UInt8) {o : Outcome Link (Option LogEntry)}
    (ho : k.link.takeLogEntry? channel = some o) :
    Inv c (es ++ [.take channel o.result]) (k.setLink o.state) := by
  rcases Link.takeLogEntry?_cases hc h.attached hout ho with hstate | ⟨v, hstate⟩
  · rw [hstate]
    exact h.apart h.toConnected (.refl c k) rfl rfl rfl
  · rw [hstate]
    refine ⟨connected_published h.toConnected _ _, ?_, h.held.trans (arrived_append rfl).symm,
      h.kept.trans (toldLast_append rfl).symm⟩
    have hfit : Status.logOffset + [v].length ≤ c.sizeOf c.statusOut := by
      rw [hc.statusOut_size, List.length_singleton]
      decide
    show (Status.timeIn ((k.link.published c c.statusOut _ _).consumed c c.statusOut)).toWord = _
    rw [Link.consumed_published h.attached hout hfit, Status.timeIn_overwrite_log,
      latest_append rfl]
    exact h.shown

/-- The event of a call that leads from `k` to `k'`. -/
def event (a : Call) (k k' : Live (Link × Told × υ)) : Event :=
  .call a ((told k').drop (told k).length) (k'.link.transfers - k.link.transfers)

theorem event_of_apart (a : Call) (ha : Apart c k k') : event a k k' = .call a [] 0 := by
  unfold event
  rw [ha.told, ha.link, List.drop_length, Nat.sub_self]

theorem event_exchanged (a : Call) (t : TimeStamp × Bool) (v : υ) :
    event a k (k.exchanged c (told k ++ [t], v)) = .call a [t] 1 := by
  unfold event
  rw [show told (k.exchanged c (told k ++ [t], v)) = told k ++ [t] from rfl, List.drop_left,
    show (k.exchanged c (told k ++ [t], v)).link.transfers = k.link.transfers + 1 from rfl,
    Nat.add_sub_cancel_left]

theorem event_stalled (a : Call) (t : TimeStamp × Bool) (v : υ) (tally : Tally) :
    event a k (k.stalled c (told k ++ [t], v) tally) = .call a [t] 0 := by
  unfold event
  rw [show told (k.stalled c (told k ++ [t], v) tally) = told k ++ [t] from rfl, List.drop_left,
    show (k.stalled c (told k ++ [t], v) tally).link = k.link from rfl, Nat.sub_self]

/-- The first half of a cycle tells the time that is held, and then may move the images. -/
theorem Inv.sync (h : Inv c es k) (hout : c.Consumed c.statusOut) {r : Except Fault Unit}
    (hs : SyncCases c k r k') :
    Inv c (es ++ [event (.sync r) k k']) k' ∧ Forwards es (event (.sync r) k k') := by
  cases hs with
  | moved v =>
    rw [event_exchanged]
    refine ⟨⟨Live.connected_exchanged h.toConnected, ?_, ?_, ?_⟩, _, _, rfl, h.held, by simp,
      .inl ⟨rfl, rfl⟩⟩
    · rw [latest_append rfl]
      exact h.shown
    · rw [arrived_append_moves rfl, ← h.shown]
      unfold localTime
      rw [Live.buffer_exchanged h.toConnected hout]
    · rw [toldLast_append_one rfl]
      rfl
  | untaken v tally =>
    rw [event_stalled]
    refine ⟨⟨Live.connected_stalled h.toConnected, ?_, ?_, ?_⟩, _, _, rfl, h.held, by simp,
      .inr ⟨⟨_, rfl⟩, rfl⟩⟩
    · rw [latest_append rfl]
      exact h.shown
    · rw [arrived_append rfl]
      exact h.held
    · rw [toldLast_append_one rfl]
      rfl
  | ungated v tally =>
    rw [event_stalled]
    refine ⟨⟨Live.connected_stalled h.toConnected, ?_, ?_, ?_⟩, _, _, rfl, h.held, by simp,
      .inr ⟨⟨_, rfl⟩, rfl⟩⟩
    · rw [latest_append rfl]
      exact h.shown
    · rw [arrived_append rfl]
      exact h.held
    · rw [toldLast_append_one rfl]
      rfl

/-- Every event keeps the invariant, and says what it should. -/
theorem Inv.step {s : Endpoint (Link × Told × υ)} (h : Inv c es k) (hc : c.Accepted)
    (hout : c.Consumed c.statusOut)
    (hs : Step net (k.endpoint c app.recorded.linked) e s) :
    (∃ k' : Live (Link × Told × υ), s = k'.endpoint c app.recorded.linked ∧
      Inv c (es ++ [e]) k') ∧ Forwards es e := by
  cases hs with
  | @set t a l hset =>
    rw [show (k.endpoint c app.recorded.linked).world.1 = k.link from rfl,
      Link.eval_setTime hc h.attached hout] at hset
    cases hset
    exact ⟨⟨_, rfl, h.set hc hout t _⟩, rfl⟩
  | take ho => exact ⟨⟨_, rfl, h.take hc hout _ ho⟩, trivial⟩
  | @call a t hd =>
    obtain ⟨k', rfl, hcall⟩ := Live.callStep_of_does hc h.toSound hd
    have hconnected := h.toConnected.callStep hcall
    show (∃ l : Live (Link × Told × υ), k'.endpoint c app.recorded.linked = _ ∧
      Inv c (es ++ [event a k k']) l) ∧ Forwards es (event a k k')
    have hquiet (ha : Apart c k k') : Inv c (es ++ [event a k k']) k' := by
      rw [event_of_apart a ha]
      exact h.apart hconnected ha rfl rfl rfl
    cases hcall with
    | sync hsync =>
      obtain ⟨hinv, hforwards⟩ := h.sync hout (syncCases_of_syncStep h.toConnected hsync)
      exact ⟨⟨k', rfl, hinv⟩, hforwards⟩
    | post hs =>
      have ha := apart_entryStep hc hs
      refine ⟨⟨k', rfl, hquiet ha⟩, ?_⟩
      rw [event_of_apart _ ha]
      exact ⟨rfl, rfl⟩
    | receive hs =>
      have ha : Apart c k k' := apart_frameStep hs
      refine ⟨⟨k', rfl, hquiet ha⟩, ?_⟩
      rw [event_of_apart _ ha]
      exact ⟨rfl, rfl⟩
    | round =>
      have ha : Apart c k (k.afterPost c) := apart_afterPost hc
      refine ⟨⟨_, rfl, hquiet ha⟩, ?_⟩
      rw [event_of_apart _ ha]
      exact ⟨rfl, rfl⟩
    | async hlog htx hrx =>
      have ha : Apart c k k' := ((apart_logStep hlog).trans (apart_txStep htx)).trans
        (apart_rxStep hc hrx)
      refine ⟨⟨k', rfl, hquiet ha⟩, ?_⟩
      rw [event_of_apart _ ha]
      exact ⟨rfl, rfl⟩

/-- **The relative time arrives unchanged, one transfer late.** Whatever happens between an endpoint
and the remote side of its link, the first half of every cycle tells the application the time that
was set last before the images moved last, and the snapshot shows the time it was told last. -/
theorem forwarded_of_run {u : υ} {l : Link} {e0 s : Endpoint (Link × Told × υ)}
    {w : Link × Told × υ}
    (hlink : (Link.create c : Op Unit Link).eval () = (.ok l, ()))
    (hopen : (Endpoint.create c app.recorded.linked.hooks).eval (l, [], u) = (.ok e0, w))
    (hout : c.Consumed c.statusOut) (hrun : Run (Step net) e0 es s) :
    s.snapshot.time = toldLast es ∧
      ∀ past e rest, es = past ++ e :: rest → Forwards past e := by
  obtain ⟨hc, rfl, rfl, rfl⟩ := (Live.create_linked app.recorded).mp ⟨hlink, hopen⟩
  obtain ⟨⟨k, rfl, hk⟩, hplaces⟩ := hrun.invariant_forall
    (I := fun es s => ∃ k : Live (Link × Told × υ), s = k.endpoint c app.recorded.linked ∧
      Inv c es k)
    (P := Forwards) ⟨_, rfl, inv_initial hc hout u⟩ (by
      intro es s e t h hs
      obtain ⟨k, rfl, hk⟩ := h
      exact hk.step hc hout hs)
  exact ⟨hk.kept, hplaces⟩

/-! ## A time that is refused -/

/-- An application that takes no time but zero. -/
def picky : Surroundings Unit where
  gate := pure ()
  timeSync t := if t = .zero then pure () else Op.fail .actionFailed
  incidents := IncidentHandler.silent

/-- The time that is held, as a time stamp. -/
theorem Inv.held_eq (h : Inv c es k) : localTime c k = .ofWord (arrived es) := by
  rw [← h.held, TimeStamp.ofWord_toWord]

theorem Inv.exists_set (h : Inv c es k) (hc : c.Accepted) (hout : c.Consumed c.statusOut)
    (app : Surroundings υ) (net : Transport υ) (t : TimeStamp) :
    ∃ k' : Live (Link × Told × υ), Step net (k.endpoint c app.recorded.linked) (.set t (.ok ()))
      (k'.endpoint c app.recorded.linked) ∧ Inv c (es ++ [.set t (.ok ())]) k' :=
  ⟨k.setLink (k.link.published c c.statusOut Status.timeLowOffset _),
    .set (Link.eval_setTime hc h.attached hout t), h.set hc hout t _⟩

/-- The application takes a time of zero, and the images move. -/
theorem Inv.exists_taken {k : Live (Link × Told × Unit)} (h : Inv c es k) (hc : c.Accepted)
    (hout : c.Consumed c.statusOut) (net : Transport Unit) (harrived : arrived es = 0) :
    let e : Event := .call (.sync (.ok ())) [(.zero, true)] 1
    ∃ k' : Live (Link × Told × Unit), Step net (k.endpoint c picky.recorded.linked) e
      (k'.endpoint c picky.recorded.linked) ∧ Inv c (es ++ [e]) k' := by
  intro e
  have hzero : localTime c k = .zero := by
    rw [h.held_eq, harrived]
    rfl
  have htime : (picky.recorded.timeSync (localTime c k)).eval k.world.2 =
      (.ok (), told k ++ [(localTime c k, true)], ()) := by
    rw [hzero]
    rfl
  have hgate : picky.recorded.gate.eval (told k ++ [(localTime c k, true)], ()) =
      (.ok (), told k ++ [(localTime c k, true)], ()) := rfl
  have heval := Live.eval_processSync_linked picky.recorded hc h.toConnected htime hgate
  have hstep : Step net _ (event (.sync (.ok ())) k _) _ := .call (.sync heval)
  have hinv := (h.sync hout (.moved ())).1
  rw [event_exchanged, hzero] at hstep hinv
  exact ⟨_, hstep, hinv⟩

/-- It refuses any other. -/
theorem Inv.exists_untaken {k : Live (Link × Told × Unit)} (h : Inv c es k) (hc : c.Accepted)
    (net : Transport Unit) {t : TimeStamp} (ht : t ≠ .zero) (harrived : arrived es = t.toWord) :
    ∃ s, Step net (k.endpoint c picky.recorded.linked)
      (.call (.sync (.error .timeSyncFailed)) [(t, false)] 0) s := by
  have hheld : localTime c k = t := by rw [h.held_eq, harrived, TimeStamp.ofWord_toWord]
  obtain ⟨r, k', heval, hs⟩ := Live.eval_processSync picky.recorded.linked hc h.toSound
  have hstep : Step net _ (event (.sync r) k k') _ := .call (.sync heval)
  have hfails : ((picky.recorded.linked.timeSync (localTime c k)).eval k.world).1 =
      .error .actionFailed := by
    show ((picky.timeSync (localTime c k)).eval k.world.2.2).1 = _
    rw [hheld, show picky.timeSync t = Op.fail .actionFailed from if_neg ht]
    rfl
  have hr : r = .error .timeSyncFailed := by
    cases hs with
    | refused => rfl
    | broken hok | moved hok =>
      rw [show (picky.recorded.linked.timeSync (localTime c k)).eval k.world = _ from hok] at hfails
      cases hfails
  cases syncCases_of_syncStep h.toConnected hs with
  | untaken v tally =>
    rw [event_stalled, hheld] at hstep
    exact ⟨_, hstep⟩
  | moved | ungated => cases hr

/-- The first cycle brings a time and tells the application of zero; the second tells it the time,
which it does not take. -/
theorem forwarded_of_run_reference :
    let c := Config.reference
    let t : TimeStamp := .ofWord 0x0123456789abcdef
    let es : List Event := [.set t (.ok ()), .call (.sync (.ok ())) [(.zero, true)] 1,
      .call (.sync (.error .timeSyncFailed)) [(t, false)] 0]
    ∃ e s : Endpoint (Link × Told × Unit),
      (Link.create c : Op Unit Link).eval () = (.ok (Link.fresh c), ()) ∧
      (Endpoint.create c picky.recorded.linked.hooks).eval (Link.fresh c, [], ()) =
        (.ok e, (Link.fresh c, [], ())) ∧
      c.Consumed c.statusOut ∧ Run (Step Transport.quiet) e es s ∧
      s.snapshot.time = t ∧ ∀ past e rest, es = past ++ e :: rest → Forwards past e := by
  intro c t es
  have hc : c.Accepted := Config.accepted_reference
  have hout : c.Consumed c.statusOut := by decide
  obtain ⟨hlink, hopen⟩ := (Live.create_linked picky.recorded (u := ([], ()))).mpr
    ⟨hc, rfl, rfl, rfl⟩
  obtain ⟨k1, hset, h1⟩ :=
    (inv_initial hc hout ()).exists_set hc hout picky Transport.quiet t
  obtain ⟨k2, htaken, h2⟩ := h1.exists_taken hc hout Transport.quiet rfl
  obtain ⟨s, huntaken⟩ := h2.exists_untaken hc Transport.quiet (t := t) (by decide) (by decide)
  have hrun : Run (Step Transport.quiet) _ es s := ((Run.one hset).next htaken).next huntaken
  exact ⟨_, s, hlink, hopen, hout, hrun, forwarded_of_run hlink hopen hout hrun⟩

end Timing

end SlimInterface
