import SlimInterface.Channel.Logbook.Channel
import SlimInterface.Proofs.Cycle.Counters
import SlimInterface.Proofs.Wire

/-!
# The lock of a logbook channel

A logbook channel is opened on a stream that others use as well. It is locked by a post that
succeeds, and by nothing else; while it is locked, posting and filling do nothing; it is unlocked by
`process`, and by nothing else.

When it is unlocked depends on two things outside the channel: the acknowledge in the register of
its status channel, and the counter of its timer, which the stream advances. What the counter shows
at that call is the number of rounds since the post (`Inv.counter`), since nothing else on the
stream holds it. `disciplined_of_run` says what this comes to, for every stream and everything that
can happen to it.

Nothing holds a counter that was not put down yet: a stream is opened without such a holder
(`Stream.quiet_create`), and a status channel adds none (`Status.keeps_quiet`).
-/

namespace SlimInterface

variable {ω : Type}

namespace Locking

/-! ## Runs -/

/-- What happens to a logbook channel and its station. -/
inductive Event
  /-- An entry is posted, and the buffer then begins with `number`. -/
  | post (e : LogEntry) (answer : Except Fault Posting) (number : Option UInt8)
  /-- The application fills the buffer in place. -/
  | fill
  | process (answer : Except Fault Unit)
  | sync
  /-- A second half of a cycle that comes as far as the action of the channel. -/
  | round
  /-- A second half of a cycle that an action before it ends. -/
  | short
  /-- Something goes on around the channel. -/
  | beside

/-- An entry was posted. -/
def Event.Posted (ev : Event) : Prop := ∃ e number, ev = .post e (.ok .successful) number

/-- What the buffer of the channel begins with. -/
def number? (c : LogChannel) (s : Station ω) : Option UInt8 :=
  (s.stream.buffer? c.buffer).bind fun b => b[LogEntry.seqOffset]?

/-- One event. The action of the channel is the one at place `n`; the actions before it are those
that were attached before the channel was opened. -/
inductive Step (n : Nat) (p : LogChannel × Station ω) : Event → LogChannel × Station ω → Prop
  | post {e : LogEntry} {a : Except Fault Posting} {q : LogChannel × Station ω}
      (h : (LogChannel.post e).eval p = (a, q)) : Step n p (.post e a (number? q.1 q.2)) q
  | fill {edit : Bytes → Bytes} {a : Except Fault Unit} {q : LogChannel × Station ω}
      (h : (LogChannel.fill edit).eval p = (a, q)) : Step n p .fill q
  | process {a : Except Fault Unit} {q : LogChannel × Station ω}
      (h : (Station.withBench LogChannel.process).eval p = (a, q)) : Step n p (.process a) q
  | sync : Step n p .sync (p.1, (Site.processSync.eval p.2).2)
  | round {q : Bytes × Bench ω}
      (hran : (Stream.runActions .post p.2.stream.descriptors (p.2.stream.post.take n)).eval
        (p.2.stream.image, p.2.around) = (.ok (), q)) :
      Step n p .round (p.1, (Site.processPost.eval p.2).2)
  | short {f : Fault} {q : Bytes × Bench ω}
      (hran : (Stream.runActions .post p.2.stream.descriptors (p.2.stream.post.take n)).eval
        (p.2.stream.image, p.2.around) = (.error f, q)) :
      Step n p .short (p.1, (Site.processPost.eval p.2).2)
  | beside {t : Station ω} (h : Station.Beside p.1.timer.counter p.2 t) :
      Step n p .beside (p.1, t)

/-- What the buffer began with after an entry was posted. -/
def Event.stamp? : Event → Option (Option UInt8)
  | .post _ (.ok .successful) number => some number
  | _ => none

/-- What the buffer began with after each of the entries posted. -/
def stamps (es : List Event) : List (Option UInt8) := es.filterMap Event.stamp?

/-- The rounds since the latest post, counted on. -/
def Event.rounds (m : Nat) : Event → Nat
  | .post _ (.ok .successful) _ => 0
  | .round => m + 1
  | _ => m

/-- The rounds since the latest post. -/
def roundsSincePost (es : List Event) : Nat := es.foldl Event.rounds 0

theorem stamps_append (es : List Event) (ev : Event) :
    stamps (es ++ [ev]) = stamps es ++ ev.stamp?.toList :=
  filterMap_append_one _ _ _

theorem roundsSincePost_append (es : List Event) (ev : Event) :
    roundsSincePost (es ++ [ev]) = ev.rounds (roundsSincePost es) := by
  unfold roundsSincePost
  rw [List.foldl_append]
  rfl

/-- The numbers of the first `m` entries, in turn and beginning with the second. -/
def turns (m : Nat) : List (Option UInt8) :=
  (List.range m).map fun i => some (SeqNr.ofCount (i + 1)).toByte

example : turns 4 = [some 1, some 0, some 1, some 0] := by decide

theorem turns_succ (m : Nat) :
    turns (m + 1) = turns m ++ [some (SeqNr.ofCount (m + 1)).toByte] := by
  unfold turns
  rw [List.range_succ, List.map_append]
  rfl

/-! ## Calls -/

/-- The channel has its place on the station. -/
structure Lodged (n : Nat) (c : LogChannel) (s : Station ω) : Prop where
  valid : c.id.toNat < logChannelCount
  threshold : c.timer.threshold = logTimeoutCycles
  buffer : ∃ d, s.stream.descriptor? c.buffer = some d ∧ d.size = LogEntry.bufferSize
  quiet : s.stream.Quiet c.timer.counter (· = n)
  ticked : s.stream.post[n]? = some ⟨c.buffer, Bench.tick c.timer⟩

variable {n : Nat} {c : LogChannel} {s t : Station ω} {p q : LogChannel × Station ω}

theorem Lodged.ticks (h : Lodged n c s) : Station.Ticks n c.timer c.buffer s := by
  obtain ⟨d, hd, -⟩ := h.buffer
  exact ⟨fun hn => (by cases hd.symm.trans hn), h.quiet, h.ticked⟩

theorem Lodged.of_counts {f : Option Counter → Option Counter} (h : Lodged n c s)
    (ht : Station.Counts c.timer.counter f s t) : Lodged n c t := by
  obtain ⟨-, hquiet, hticked⟩ := h.ticks.of_counts ht
  refine ⟨h.valid, h.threshold, ?_, hquiet, hticked⟩
  rw [ht.stream]
  exact h.buffer

theorem Lodged.of_beside (h : Lodged n c s) (ht : Station.Beside c.timer.counter s t) :
    Lodged n c t := by
  obtain ⟨-, hquiet, hticked⟩ := h.ticks.of_beside ht
  refine ⟨h.valid, h.threshold, ?_, hquiet, hticked⟩
  show ∃ d, t.stream.descriptors[c.buffer.index]? = some d ∧ _
  rw [ht.stream_eq.1]
  exact h.buffer

/-- Whether the channel is locked and which number it has does not matter for its place. -/
theorem Lodged.of_eq {c' : LogChannel} (h : Lodged n c s)
    (hc : c' = { c with seq := c'.seq, locked := c'.locked }) : Lodged n c' s := by
  rw [hc]
  exact ⟨h.valid, h.threshold, h.buffer, h.quiet, h.ticked⟩

/-- A locked channel refuses an entry. -/
theorem eval_post_of_locked (hl : p.1.locked = true) (e : LogEntry) :
    (LogChannel.post e).eval p = (.ok .busy, p) := by
  unfold LogChannel.post
  rw [Op.eval_bind_ok (Op.eval_read _)]
  dsimp only
  rw [if_pos hl]
  rfl

/-- A free channel takes an entry. -/
theorem Lodged.eval_post (h : Lodged n c s) (hl : c.locked = false) (e : LogEntry) :
    ∃ t, (LogChannel.post e).eval (c, s) = (.ok .successful, { c with locked := true }, t) ∧
      number? c t = some c.seq.toByte ∧
      Station.Counts c.timer.counter (Option.map Counter.start) s t := by
  obtain ⟨d, hd, hsize⟩ := h.buffer
  have hfit := h.quiet.fits _ d hd
  have hlen : (d.span.read s.stream.image).length = LogEntry.bufferSize :=
    (Span.length_read hfit).trans hsize
  let image := d.span.place (LogEntry.imprint c.seq e (d.span.read s.stream.image)) s.stream.image
  have hedit : (Stream.editBuffer c.buffer (LogChannel.stage c.seq e)).eval s.stream =
      (.ok (), { s.stream with image }) := by
    rw [Stream.eval_editBuffer hd, LogEntry.eval_stage hlen]
  have hsite : (Site.onStream (Stream.editBuffer c.buffer (LogChannel.stage c.seq e))).eval s =
      (.ok (), { s with stream := { s.stream with image } }) :=
    Op.eval_within_of hedit
  refine ⟨⟨{ s.stream with image }, s.around.setCounters c.timer.start⟩, ?_, ?_, rfl,
    Span.length_place .., ?_⟩
  · unfold LogChannel.post
    rw [Op.eval_bind_ok (Op.eval_read _)]
    dsimp only
    rw [if_neg (by rw [hl]; decide), Op.eval_bind_ok (Op.eval_onSecond_of hsite _)]
    rfl
  · have hread : d.span.read image = LogEntry.imprint c.seq e (d.span.read s.stream.image) :=
      Span.read_place ((LogEntry.length_imprint).trans (hlen.trans hsize.symm)) hfit
    show (((s.stream.descriptor? c.buffer).map fun d => d.span.read image).bind
      fun b => b[LogEntry.seqOffset]?) = _
    rw [hd, Option.map_some, hread, Option.bind_some]
    exact LogEntry.getElem?_imprint hlen
  · show (s.around.counters.modify c.timer.counter Counter.start)[c.timer.counter]? = _
    rw [List.getElem?_modify_eq]
    rfl

/-- While the channel is locked its buffer is not given out. -/
theorem currentBuffer?_of_locked (hl : c.locked = true) (s : Stream (Bench ω)) :
    c.currentBuffer? s = none :=
  if_pos hl

theorem eval_fill_of_locked (hl : p.1.locked = true) (edit : Bytes → Bytes) :
    (LogChannel.fill edit).eval p = (.ok (), p) := by
  unfold LogChannel.fill
  rw [Op.eval_bind_ok (Op.eval_read _)]
  dsimp only
  rw [currentBuffer?_of_locked hl]
  rfl

/-- Filling works on the buffer, if at all. -/
theorem fill_cases (edit : Bytes → Bytes) (p : LogChannel × Station ω) :
    ((LogChannel.fill edit).eval p).2 = p ∨ ((LogChannel.fill edit).eval p).2 =
      (p.1, ((Site.onStream (Stream.editBuffer p.1.buffer (Op.update edit))).eval p.2).2) := by
  unfold LogChannel.fill
  rw [Op.eval_bind_ok (Op.eval_read _)]
  dsimp only
  by_cases hb : (p.1.currentBuffer? p.2.stream).isSome = true
  · rw [if_pos hb]
    exact .inr rfl
  · rw [if_neg hb]
    exact .inl rfl

/-- The acknowledge of the channel, as it is kept in the register. -/
def acknowledge (c : LogChannel) (s : Station ω) : SeqNr :=
  SeqNr.ofLowBit (c.status.read s.around).logTx.toNat

theorem Lodged.eval_logTxFlag (h : Lodged n c s) :
    (c.status.logTxFlag c.id).eval s.around = (.ok (acknowledge c s), s.around) := by
  have hid : c.id = 0 := UInt8.toNat_inj.mp (Nat.lt_one_iff.mp h.valid)
  unfold Status.logTxFlag Status.checkChannel
  rw [if_pos h.valid, Op.eval_bind_ok (Op.eval_pure _ _), Op.eval_bind_ok (Op.eval_read _),
    Op.eval_ofExcept, hid, Status.flag_zero, UInt8.toNat_toUInt32]
  rfl

/-- What `process` can do: release the channel, with or without stopping the timer, or nothing. -/
inductive Processed (c : LogChannel) (s : Station ω) : LogChannel × Station ω → Prop
  | idle (hl : c.locked = false) : Processed c s (c, s)
  | acknowledged (hl : c.locked = true) (ha : acknowledge c s = c.seq) :
      Processed c s (c.release, { s with around := s.around.setCounters c.timer.stop })
  | expired (hl : c.locked = true) (ht : c.timer.state s.around.counters = .expired) :
      Processed c s (c.release, s)
  | waiting (hl : c.locked = true) (ha : acknowledge c s ≠ c.seq)
      (ht : c.timer.state s.around.counters ≠ .expired) : Processed c s (c, s)

theorem Lodged.eval_process (h : Lodged n c s) :
    ∃ q, (Station.withBench LogChannel.process).eval (c, s) = (.ok (), q) ∧ Processed c s q := by
  unfold Station.withBench LogChannel.process
  rw [Op.eval_within, Op.eval_bind_ok (Op.eval_read _)]
  dsimp only
  by_cases hl : c.locked = true
  · rw [if_pos hl, Op.eval_bind_ok (Op.eval_onSecond_of h.eval_logTxFlag _)]
    by_cases ha : acknowledge c s = c.seq
    · rw [if_pos ha]
      exact ⟨_, rfl, .acknowledged hl ha⟩
    · rw [if_neg ha]
      by_cases ht : c.timer.state s.around.counters = .expired
      · rw [if_pos ht]
        exact ⟨_, rfl, .expired hl ht⟩
      · rw [if_neg ht]
        exact ⟨_, rfl, .waiting hl ha ht⟩
  · rw [if_neg hl]
    exact ⟨_, rfl, .idle (Bool.eq_false_iff.mpr hl)⟩

/-- What an event does to the channel, and to the counter of its timer. -/
inductive Move (n : Nat) (c : LogChannel) (s : Station ω) : Event → LogChannel × Station ω → Prop
  | posted {e : LogEntry} {t : Station ω} (hl : c.locked = false)
      (ht : Station.Counts c.timer.counter (Option.map Counter.start) s t) :
      Move n c s (.post e (.ok .successful) (some c.seq.toByte)) ({ c with locked := true }, t)
  | processed {q : LogChannel × Station ω} {a : Except Fault Unit} (hp : Processed c s q) :
      Move n c s (.process a) q
  | counted {t : Station ω}
      (ht : Station.Counts c.timer.counter (Option.map Counter.increment) s t) :
      Move n c s .round (c, t)
  /-- It does nothing to them. -/
  | stay {ev : Event} {t : Station ω} (hev : ev.stamp? = none) (hr : ∀ m, ev.rounds m = m)
      (hl : Lodged n c t)
      (hc : t.around.counters[c.timer.counter]? = s.around.counters[c.timer.counter]?) :
      Move n c s ev (c, t)

/-- Every event is one of these. -/
theorem Lodged.move {ev : Event} (h : Lodged n c s) (hs : Step n (c, s) ev q) :
    Move n c s ev q := by
  have hcounts {ev : Event} (hev : ev.stamp? = none) (hr : ∀ m, ev.rounds m = m) {t : Station ω}
      (ht : Station.Counts c.timer.counter id s t) : Move n c s ev (c, t) :=
    .stay hev hr (h.of_counts ht) ht.counter
  cases hs with
  | @post e a q hs =>
    by_cases hl : c.locked = true
    · rw [eval_post_of_locked hl] at hs
      cases hs
      exact .stay rfl (fun _ => rfl) h rfl
    · rw [Bool.not_eq_true] at hl
      obtain ⟨t, heval, hnumber, ht⟩ := h.eval_post hl e
      rw [heval] at hs
      cases hs
      rw [show number? { c with locked := true } t = some c.seq.toByte from hnumber]
      exact .posted hl ht
  | @fill edit a q hs =>
    have hq : q = ((LogChannel.fill edit).eval (c, s)).2 := by rw [hs]
    rcases fill_cases edit (c, s) with hsame | hedit
    · rw [hq, hsame]
      exact .stay rfl (fun _ => rfl) h rfl
    · rw [hq, hedit]
      exact hcounts rfl (fun _ => rfl) (Station.counts_editBuffer c.buffer (Op.update edit) s)
  | @process a q hs =>
    obtain ⟨q', heval, hp⟩ := h.eval_process
    rw [heval] at hs
    cases hs
    exact .processed hp
  | sync => exact hcounts rfl (fun _ => rfl) (Station.counts_processSync h.quiet)
  | round hran => exact .counted (h.ticks.counts_processPost hran)
  | short hran => exact hcounts rfl (fun _ => rfl) (Station.counts_processPost_short h.quiet hran)
  | beside ht => exact .stay rfl (fun _ => rfl) (h.of_beside ht) ht.counter_eq

/-- Only a post locks the channel, only `process` unlocks it, and then its number flips. -/
theorem Move.channel_cases {ev : Event} (h : Move n c s ev q) :
    (¬ ev.Posted ∧ q.1 = c) ∨
      (ev.Posted ∧ c.locked = false ∧ q.1 = { c with locked := true }) ∨
        (∃ a, ev = .process a) ∧ c.locked = true ∧ q.1 = c.release := by
  cases h with
  | posted hl => exact .inr (.inl ⟨⟨_, _, rfl⟩, hl, rfl⟩)
  | @processed q a hp =>
    have hne : ¬ (Event.process a).Posted := fun ⟨_, _, he⟩ => nomatch he
    cases hp with
    | idle | waiting => exact .inl ⟨hne, rfl⟩
    | acknowledged hl | expired hl => exact .inr (.inr ⟨⟨a, rfl⟩, hl, rfl⟩)
  | counted => exact .inl ⟨fun ⟨_, _, he⟩ => (nomatch he), rfl⟩
  | stay hev =>
    refine .inl ⟨?_, rfl⟩
    rintro ⟨e, number, rfl⟩
    cases hev

/-! ## What a run keeps -/

/-- What holds of the channel and its station after the events `es`. -/
structure Inv (n : Nat) (es : List Event) (p : LogChannel × Station ω) : Prop extends
    Lodged n p.1 p.2 where
  counted : p.2.around.counters[p.1.timer.counter]? ≠ none
  counter : p.1.locked = true → p.2.around.counters[p.1.timer.counter]? =
    some ⟨min (roundsSincePost es) Counter.limit, true⟩
  stamps_eq : stamps es = turns (stamps es).length
  seq_of_locked : p.1.locked = true → stamps es ≠ [] ∧ p.1.seq = SeqNr.ofCount (stamps es).length
  seq_of_free : p.1.locked = false → p.1.seq = SeqNr.ofCount ((stamps es).length + 1)

variable {es : List Event} {ev : Event}

/-- An event that posts nothing and leaves the channel as it is. -/
theorem Inv.unstamped (h : Inv n es (c, s)) (hev : ev.stamp? = none) (hl : Lodged n c t)
    (hc : t.around.counters[c.timer.counter]? ≠ none)
    (hcounter : c.locked = true → t.around.counters[c.timer.counter]? =
      some ⟨min (ev.rounds (roundsSincePost es)) Counter.limit, true⟩) :
    Inv n (es ++ [ev]) (c, t) := by
  have hstamps : stamps (es ++ [ev]) = stamps es := by
    rw [stamps_append, hev, Option.toList_none, List.append_nil]
  refine ⟨hl, hc, ?_, ?_, ?_, ?_⟩
  · rw [roundsSincePost_append]
    exact hcounter
  · rw [hstamps]
    exact h.stamps_eq
  · rw [hstamps]
    exact h.seq_of_locked
  · rw [hstamps]
    exact h.seq_of_free

/-- One that is no round either, and leaves the counter as it is. -/
theorem Inv.stay (h : Inv n es (c, s)) (hev : ev.stamp? = none) (hr : ∀ m, ev.rounds m = m)
    (hl : Lodged n c t)
    (hc : t.around.counters[c.timer.counter]? = s.around.counters[c.timer.counter]?) :
    Inv n (es ++ [ev]) (c, t) := by
  refine h.unstamped hev hl (hc ▸ h.counted) fun hlocked => ?_
  rw [hr, hc]
  exact h.counter hlocked

/-- A round that reaches the action of the channel counts. -/
theorem Inv.round (h : Inv n es (c, s))
    (ht : Station.Counts c.timer.counter (Option.map Counter.increment) s t) :
    Inv n (es ++ [.round]) (c, t) := by
  refine h.unstamped rfl (h.toLodged.of_counts ht) ?_ fun hlocked => ?_
  · rw [ht.counter]
    exact fun hn => h.counted (Option.map_eq_none_iff.mp hn)
  · rw [ht.counter, show s.around.counters[c.timer.counter]? = _ from h.counter hlocked,
      Option.map_some]
    exact congrArg some (Counter.increment_min _)

/-- An entry that is posted has the next number. -/
theorem Inv.posted (h : Inv n es (c, s)) (hl : c.locked = false) (e : LogEntry)
    (ht : Station.Counts c.timer.counter (Option.map Counter.start) s t) :
    Inv n (es ++ [.post e (.ok .successful) (some c.seq.toByte)])
      ({ c with locked := true }, t) := by
  have hseq : c.seq = SeqNr.ofCount ((stamps es).length + 1) := h.seq_of_free hl
  have hstamps : stamps (es ++ [.post e (.ok .successful) (some c.seq.toByte)]) =
      stamps es ++ [some c.seq.toByte] := stamps_append _ _
  have hlen : (stamps (es ++ [.post e (.ok .successful) (some c.seq.toByte)])).length =
      (stamps es).length + 1 := by rw [hstamps, List.length_append, List.length_singleton]
  obtain ⟨x, hx⟩ := Option.ne_none_iff_exists'.mp h.counted
  have hcounter : t.around.counters[c.timer.counter]? = some ⟨0, true⟩ := by
    rw [ht.counter, show s.around.counters[c.timer.counter]? = _ from hx]
    rfl
  refine ⟨(h.toLodged.of_counts ht).of_eq rfl, ?_, fun _ => ?_, ?_, fun _ => ⟨?_, ?_⟩, ?_⟩
  · rw [hcounter]
    simp
  · rw [roundsSincePost_append]
    exact hcounter
  · rw [hlen, turns_succ, ← hseq, ← h.stamps_eq, hstamps]
  · rw [hstamps]
    simp
  · rw [hlen]
    exact hseq
  · intro hf
    cases hf

/-- A channel that is released goes on with the other number. -/
theorem Inv.released (h : Inv n es (c, s)) (hl : c.locked = true) (a : Except Fault Unit)
    (ht : Lodged n c t) (hc : t.around.counters[c.timer.counter]? ≠ none) :
    Inv n (es ++ [.process a]) (c.release, t) := by
  have hstamps : stamps (es ++ [.process a]) = stamps es := by
    rw [stamps_append]
    exact List.append_nil _
  refine ⟨ht.of_eq rfl, hc, fun hf => ?_, ?_, fun hf => ?_, fun _ => ?_⟩
  · cases hf
  · rw [hstamps]
    exact h.stamps_eq
  · cases hf
  · rw [hstamps, SeqNr.ofCount_succ, ← (h.seq_of_locked hl).2]
    rfl

/-- What `process` does to the station it does to the timer of the channel. -/
theorem Inv.processed (h : Inv n es (c, s)) (hp : Processed c s q) (a : Except Fault Unit) :
    Inv n (es ++ [.process a]) q := by
  cases hp with
  | idle | waiting => exact h.stay rfl (fun _ => rfl) h.toLodged rfl
  | acknowledged hl =>
    have hcounts : Station.Counts c.timer.counter (Option.map Counter.stop) s
        { s with around := s.around.setCounters c.timer.stop } :=
      ⟨rfl, rfl, List.getElem?_modify_eq ..⟩
    refine h.released hl a (h.toLodged.of_counts hcounts) ?_
    rw [hcounts.counter]
    exact fun hn => h.counted (Option.map_eq_none_iff.mp hn)
  | expired hl => exact h.released hl a h.toLodged h.counted

/-- Every event keeps the invariant. -/
theorem Inv.step (h : Inv n es p) (hs : Step n p ev q) : Inv n (es ++ [ev]) q := by
  obtain ⟨c, s⟩ := p
  cases h.toLodged.move hs with
  | posted hl ht => exact h.posted hl _ ht
  | processed hp => exact h.processed hp _
  | counted ht => exact h.round ht
  | stay hev hr hl hc => exact h.stay hev hr hl hc

/-- The timer has expired once the rounds since the post are enough. -/
theorem Inv.state_eq_expired (h : Inv n es (c, s)) (hl : c.locked = true) :
    c.timer.state s.around.counters = .expired ↔ logTimeoutCycles ≤ roundsSincePost es := by
  have hlimit : logTimeoutCycles ≤ Counter.limit := by decide
  rw [← show c.timer.threshold = _ from h.threshold] at hlimit ⊢
  exact Timer.expired_iff (h.counter hl) hlimit

/-- A locked channel is released if its entry is acknowledged or its time is up, and only then. -/
theorem Inv.released_iff (h : Inv n es (c, s)) (hp : Processed c s q) (hl : c.locked = true) :
    q.1.locked = false ↔ acknowledge c s = c.seq ∨ logTimeoutCycles ≤ roundsSincePost es := by
  cases hp with
  | idle hf => exact absurd (hl.symm.trans hf) (by decide)
  | acknowledged _ ha => exact iff_of_true rfl (.inl ha)
  | expired _ ht => exact iff_of_true rfl (.inr ((h.state_eq_expired hl).mp ht))
  | waiting _ ha ht =>
    refine iff_of_false (fun hf => absurd (hl.symm.trans hf) (by decide)) ?_
    rintro (ha' | hm)
    · exact ha ha'
    · exact ht ((h.state_eq_expired hl).mpr hm)

/-! ## The lock -/

/-- What the lock does after the events `es`, and at the event after them. -/
structure Disciplined (n : Nat) (es : List Event) (c : LogChannel) (s : Station ω) : Prop where
  /-- The entries are numbered in turn, beginning with the second number. -/
  numbered : stamps es = turns (stamps es).length
  /-- The number of a locked channel is that of the latest entry. -/
  outstanding : c.locked = true → (stamps es).getLast? = some (some c.seq.toByte)
  /-- A locked channel refuses entries and keeps its buffer to itself. -/
  refuses : c.locked = true → (∀ e, (LogChannel.post e).eval (c, s) = (.ok .busy, c, s)) ∧
    c.currentBuffer? s.stream = none ∧ ∀ edit, (LogChannel.fill edit).eval (c, s) = (.ok (), c, s)
  /-- A free channel takes every entry. -/
  takes : c.locked = false → ∀ e, ∃ t, (LogChannel.post e).eval (c, s) =
    (.ok .successful, { c with locked := true }, t)
  /-- `process` succeeds, and releases the channel if its entry is acknowledged or its time is
  up. -/
  releases : ∃ q, (Station.withBench LogChannel.process).eval (c, s) = (.ok (), q) ∧
    (c.locked = true → (q.1.locked = false ↔
      acknowledge c s = c.seq ∨ logTimeoutCycles ≤ roundsSincePost es))
  locks : ∀ ev q, Step n (c, s) ev q → c.locked = false → (q.1.locked = true ↔ ev.Posted)
  unlocks : ∀ ev q, Step n (c, s) ev q → c.locked = true → q.1.locked = false →
    ∃ a, ev = .process a
  flips : ∀ ev q, Step n (c, s) ev q →
    q.1.seq = if c.locked = true ∧ q.1.locked = false then c.seq.flip else c.seq

theorem Inv.disciplined (h : Inv n es (c, s)) : Disciplined n es c s where
  numbered := h.stamps_eq
  outstanding := by
    intro hl
    obtain ⟨hne, hseq⟩ := h.seq_of_locked hl
    obtain ⟨m, hm⟩ := Nat.exists_eq_succ_of_ne_zero fun he => hne (List.length_eq_zero_iff.mp he)
    have hstamps : stamps es = turns m ++ [some c.seq.toByte] := by
      rw [show c.seq = _ from hseq, hm, ← turns_succ]
      exact h.stamps_eq.trans (congrArg turns hm)
    rw [hstamps, List.getLast?_concat]
  refuses := fun hl => ⟨fun e => eval_post_of_locked hl e, currentBuffer?_of_locked hl s.stream,
    fun edit => eval_fill_of_locked hl edit⟩
  takes := by
    intro hl e
    obtain ⟨t, heval, -⟩ := h.toLodged.eval_post hl e
    exact ⟨t, heval⟩
  releases := by
    obtain ⟨q, heval, hp⟩ := h.toLodged.eval_process
    exact ⟨q, heval, h.released_iff hp⟩
  locks := by
    intro ev q hs hl
    rcases (h.toLodged.move hs).channel_cases with ⟨hne, hq⟩ | ⟨hposted, -, hq⟩ | ⟨-, hlocked, -⟩
    · rw [hq]
      exact iff_of_false (by rw [hl]; decide) hne
    · rw [hq]
      exact iff_of_true rfl hposted
    · exact absurd (hl.symm.trans hlocked) (by decide)
  unlocks := by
    intro ev q hs hl hf
    rcases (h.toLodged.move hs).channel_cases with ⟨-, hq⟩ | ⟨-, hfree, -⟩ | ⟨hprocess, -⟩
    · rw [hq, hl] at hf
      cases hf
    · exact absurd (hl.symm.trans hfree) (by decide)
    · exact hprocess
  flips := by
    intro ev q hs
    rcases (h.toLodged.move hs).channel_cases with ⟨-, hq⟩ | ⟨-, hfree, hq⟩ | ⟨-, hlocked, hq⟩
    · rw [hq, if_neg (by rintro ⟨hl, hf⟩; exact absurd (hl.symm.trans hf) (by decide))]
    · rw [hq, if_neg (by rw [hfree]; simp)]
    · rw [hq, if_pos ⟨hlocked, rfl⟩]
      rfl

/-! ## Opening -/

variable {id : UInt8} {buffer : BufferId} {status : Status}

/-- A channel that was opened is free, and its action is the last one. -/
theorem eq_of_create (h : (LogChannel.create id buffer status).eval s = (.ok c, t)) :
    id.toNat < logChannelCount ∧
      (∃ d, s.stream.descriptor? buffer = some d ∧ d.size = LogEntry.bufferSize) ∧
      c = ⟨id, buffer, .second, false, ⟨logTimeoutCycles, s.around.counters.length⟩, status⟩ ∧
      t = ⟨s.stream.append .post
          ⟨buffer, Bench.tick ⟨logTimeoutCycles, s.around.counters.length⟩⟩,
        { s.around with counters := s.around.counters ++ [.idle] }⟩ := by
  unfold LogChannel.create at h
  by_cases hid : logChannelCount ≤ id.toNat
  · rw [if_pos hid, Op.eval_bind_ok (Op.eval_log _ _), Op.eval_fail] at h
    cases h
  rw [if_neg hid, Op.eval_bind_ok (Op.eval_read _)] at h
  cases hd : s.stream.descriptor? buffer with
  | none =>
    rw [hd] at h
    dsimp only at h
    rw [Op.eval_bind_ok (Op.eval_log _ _), Op.eval_fail] at h
    cases h
  | some d =>
    rw [hd] at h
    dsimp only at h
    by_cases hsize : d.size ≠ LogEntry.bufferSize
    · rw [if_pos hsize, Op.eval_bind_ok (Op.eval_log _ _), Op.eval_fail] at h
      cases h
    rw [if_neg hsize, Op.eval_bind_ok (Station.eval_addTimer ..)] at h
    obtain ⟨_, _, hattach, h⟩ := Op.eval_bind_eq_ok.mp h
    obtain ⟨-, -, rfl⟩ := Station.attach_eq_ok.mp hattach
    rw [Op.eval_bind_ok (Op.eval_log _ _), Op.eval_pure] at h
    cases h
    exact ⟨Nat.lt_of_not_le hid, ⟨d, rfl, Decidable.not_not.mp hsize⟩, rfl, rfl⟩

theorem inv_fresh (hquiet : s.stream.Quiet s.around.counters.length fun _ => False)
    (h : (LogChannel.create id buffer status).eval s = (.ok c, t)) :
    Inv s.stream.post.length [] (c, t) := by
  obtain ⟨hid, hbuffer, rfl, rfl⟩ := eq_of_create h
  refine ⟨⟨hid, rfl, hbuffer, hquiet.append_own _, List.getElem?_concat_length⟩, ?_, ?_, rfl, ?_,
    fun _ => rfl⟩
  · rw [List.getElem?_concat_length]
    simp
  · intro hl
    cases hl
  · intro hl
    cases hl

/-- **The lock of a logbook channel.** A channel is opened on a station where nothing holds the
counter its timer is given. Whatever is then done with the channel, in the cycles of the stream
and around it, the channel is locked by posts and released by `process`, at the acknowledge of its
entry or once `logTimeoutCycles` rounds have passed since the post, and its entries are numbered
in turn. -/
theorem disciplined_of_run {before s0 : Station ω} {c0 : LogChannel}
    (hquiet : before.stream.Quiet before.around.counters.length fun _ => False)
    (hcreate : (LogChannel.create id buffer status).eval before = (.ok c0, s0))
    (hrun : Run (Step before.stream.post.length) (c0, s0) es (c, s)) :
    Disciplined before.stream.post.length es c s :=
  (hrun.invariant (I := Inv before.stream.post.length) (inv_fresh hquiet hcreate)
    fun h hs => h.step hs).disciplined

/-! ## An entry that is acknowledged -/

/-- Of three buffers the transfer fills the first. It puts the byte that is the world where the
logbook acknowledges are. -/
def answering : Blueprint (Bench UInt8) where
  descriptors := Descriptor.layout [Status.outSize, Status.inSize, LogEntry.bufferSize]
  transfer _ := Op.update fun p => (p.1.set Status.logOffset p.2.world, p.2)
  consAck := ⟨0⟩
  prodAck := ⟨1⟩

/-- A status channel on the first two buffers. -/
def attended : Station UInt8 :=
  ((Status.create ⟨0⟩ ⟨1⟩ fun _ => pure ()).eval ⟨answering.bare, .empty 1⟩).2

/-- A logbook channel on the third. -/
def channel : LogChannel := ⟨0, ⟨2⟩, .second, false, ⟨logTimeoutCycles, 0⟩, ⟨0⟩⟩

def opened : Station UInt8 := ((LogChannel.create 0 ⟨2⟩ ⟨0⟩).eval attended).2

def posted : Station UInt8 := ((LogChannel.post ⟨1, 2, 3, 4, 5⟩).eval (channel, opened)).2.2

/-- The station after the next transfer. -/
def answered : Station UInt8 := (Site.processSync.eval posted).2

/-- The first entry has the second number, and is acknowledged in the cycle after it. -/
theorem disciplined_of_run_answered :
    attended.stream.Quiet attended.around.counters.length (fun _ => False) ∧
    (LogChannel.create 0 ⟨2⟩ ⟨0⟩).eval attended = (.ok channel, opened) ∧
    ∃ s q, Run (Step attended.stream.post.length) (channel, opened)
        [.post ⟨1, 2, 3, 4, 5⟩ (.ok .successful) (some 1), .sync, .round]
        ({ channel with locked := true }, s) ∧
      (Station.withBench LogChannel.process).eval ({ channel with locked := true }, s) =
        (.ok (), q) ∧ q.1.locked = false := by
  have hopen : (Stream.create answering.descriptors answering.transfer answering.consAck
      answering.prodAck).eval () = (.ok answering.bare, ()) := rfl
  have hquiet : attended.stream.Quiet attended.around.counters.length fun _ => False :=
    (Status.keeps_quiet ⟨0⟩ ⟨1⟩ (fun _ => pure ()) (fun _ => False) [] _
      ⟨Stream.quiet_create hopen fun _ _ => rfl, rfl⟩).1
  have hcreate : (LogChannel.create 0 ⟨2⟩ ⟨0⟩).eval attended = (.ok channel, opened) := rfl
  have hpost : Step 2 (channel, opened) (.post ⟨1, 2, 3, 4, 5⟩ (.ok .successful) (some 1))
      ({ channel with locked := true }, posted) := .post rfl
  have hround : Step 2 ({ channel with locked := true }, answered) .round
      ({ channel with locked := true }, (Site.processPost.eval answered).2) := .round rfl
  have hrun := ((Run.one hpost).next .sync).next hround
  obtain ⟨q, heval, hreleased⟩ := (disciplined_of_run hquiet hcreate hrun).releases
  exact ⟨hquiet, hcreate, _, q, hrun, heval, (hreleased rfl).mpr (.inl rfl)⟩

end Locking

end SlimInterface
