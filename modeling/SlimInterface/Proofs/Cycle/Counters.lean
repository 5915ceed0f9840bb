import SlimInterface.Channel.Status
import SlimInterface.Proofs.Cycle.Opening
import SlimInterface.Proofs.Run

/-!
# What leaves a counter alone

A counter of the bench has two holders: the channel that starts and reads it, and the post-action
that advances it once per cycle. What else is attached to the stream has no business with it
(`Op.Spares`); that goes for every action that works on registers and the world only, and for the
actions of other timers.

On a stream where only the action at one place holds a counter (`Stream.Quiet`), a first half of a
cycle leaves the counter as it is, and a second half advances it by one if it comes as far as that
action (`Stream.Quiet.eval_processPost`), whatever else the two halves do and however they end.
-/

namespace SlimInterface

variable {ω α β : Type} {k : Nat}

theorem Timer.state_eq_expired {t : Timer} {bank : CounterBank} :
    t.state bank = .expired ↔
      (t.read bank).enabled = true ∧ t.threshold ≤ (t.read bank).count := by
  unfold Timer.state Timer.elapsed
  by_cases he : (t.read bank).enabled = true
  · by_cases ht : t.threshold ≤ (t.read bank).count
    · simp [he, ht]
    · simp [he, ht]
  · simp [he]

/-- A timer has expired once the rounds its counter has counted are enough. -/
theorem Timer.expired_iff {t : Timer} {bank : CounterBank} {m : Nat}
    (h : bank[t.counter]? = some ⟨min m Counter.limit, true⟩) (ht : t.threshold ≤ Counter.limit) :
    t.state bank = .expired ↔ t.threshold ≤ m := by
  have hread : t.read bank = ⟨min m Counter.limit, true⟩ := by
    unfold Timer.read
    rw [h, Option.getD_some]
  rw [Timer.state_eq_expired, hread]
  constructor
  · intro hm
    exact (Nat.le_min.mp hm.2).1
  · intro hm
    exact ⟨rfl, Nat.le_min.mpr ⟨hm, ht⟩⟩

/-- A counter that runs counts up to its limit. -/
theorem Counter.increment_min (m : Nat) :
    Counter.increment ⟨min m limit, true⟩ = ⟨min (m + 1) limit, true⟩ := by
  have hmin : min (min m limit + 1) limit = min (m + 1) limit := by omega
  exact congrArg (Counter.mk · true) hmin

/-! ## Operations -/

namespace Op

/-- The operation leaves counter `k` alone. -/
def Spares (k : Nat) (op : Op (Bytes × Bench ω) α) : Prop :=
  ∀ p, (op.eval p).2.2.counters[k]? = p.2.counters[k]?

/-- It also leaves as many bytes as it was given. -/
structure Calm (k : Nat) (op : Op (Bytes × Bench ω) α) : Prop where
  spares : op.Spares k
  length (p : Bytes × Bench ω) : (op.eval p).2.1.length = p.1.length

variable {op : Op (Bytes × Bench ω) α} {next : α → Op (Bytes × Bench ω) β}

theorem calm_pure (a : α) : (pure a : Op (Bytes × Bench ω) α).Calm k := ⟨fun _ => rfl, fun _ => rfl⟩

theorem Spares.keeps (h : op.Spares k) (counter : Option Counter) :
    op.Keeps fun p => p.2.counters[k]? = counter := fun p hp => (h p).trans hp

theorem Calm.keeps (h : op.Calm k) (length : Nat) : op.Keeps fun p => p.1.length = length :=
  fun p hp => (h.length p).trans hp

theorem Spares.bind (h : op.Spares k) (hn : ∀ a, (next a).Spares k) : (op >>= next).Spares k :=
  fun p => (h.keeps _).bind (fun a => (hn a).keeps _) p rfl

theorem Calm.bind (h : op.Calm k) (hn : ∀ a, (next a).Calm k) : (op >>= next).Calm k where
  spares := h.spares.bind fun a => (hn a).spares
  length p := (h.keeps _).bind (fun a => (hn a).keeps _) p rfl

/-- What only works on the bytes. -/
theorem spares_onFirst (op : Op Bytes α) : (op.onFirst : Op (Bytes × Bench ω) α).Spares k :=
  fun _ => rfl

/-- What works on a part of the image works on the image, and keeps its length. -/
theorem Spares.within (h : op.Spares k) (span : Span) :
    (op.within (fun p => (span.read p.1, p.2)) fun q p => (span.place q.1 p.1, q.2)).Calm k :=
  ⟨fun p => h (span.read p.1, p.2), fun _ => Span.length_place ..⟩

theorem Calm.reporting {describe : Fault → Line} {report : Fault → Fault} (h : op.Calm k) :
    (op.reporting describe report).Calm k where
  spares p := (h.spares.keeps _).reporting p rfl
  length p := (h.keeps _).reporting p rfl

end Op

namespace Status

/-! The actions of a status channel work on its registers, and on the world. -/

theorem spares_timeSyncAction (registers : Nat) (notify : TimeSync ω) :
    (timeSyncAction registers notify).Spares k := by
  intro p
  unfold timeSyncAction
  rw [Op.eval_bind_ok (Op.eval_read _)]
  have hrest : ∀ time : TimeStamp, Op.Spares k (do
      Op.onSecond (Op.update (Bench.setRegisters registers fun r => { r with time }))
      Op.onSecond <| Op.reporting
        (fun e => .tagged .error "Status" ("Time synchronisation callback failed: " ++ e.message))
        (fun _ => .timeSyncFailed)
        (Bench.onWorld (notify time)) : Op (Bytes × Bench ω) Unit) := by
    refine fun time => Op.Spares.bind (fun _ => rfl) fun _ q => ?_
    rw [Op.eval_onSecond, Op.eval_reporting]
    rfl
  exact (Op.Spares.bind (fun _ => rfl) fun low => Op.Spares.bind (fun _ => rfl) fun high =>
    hrest ⟨low, high⟩) p

theorem spares_cacheAction (registers : Nat) :
    (cacheAction registers : Op (Bytes × Bench ω) Unit).Spares k := by
  intro p
  unfold cacheAction
  rw [Op.eval_bind_ok (Op.eval_read _)]
  exact (Op.Spares.bind (fun _ => rfl) fun _ => Op.Spares.bind (fun _ => rfl) fun _ =>
    Op.Spares.bind (fun _ => rfl) fun _ _ => rfl) p

theorem spares_publishAction (registers : Nat) :
    (publishAction registers : Op (Bytes × Bench ω) Unit).Spares k := by
  intro p
  unfold publishAction
  rw [Op.eval_bind_ok (Op.eval_read _)]
  exact Op.spares_onFirst _ p

end Status

/-! ## Lists of actions -/

namespace Stream

variable {kind : ActionKind} {ds : List Descriptor}

theorem calm_runActions {rs : List (Registration (Bench ω))} (h : ∀ r ∈ rs, r.act.Spares k) :
    (runActions kind ds rs).Calm k := by
  induction rs with
  | nil => exact Op.calm_pure ()
  | cons r rest ih =>
    have hrest := ih fun x hx => h x (List.mem_cons_of_mem r hx)
    unfold runActions
    cases ds[r.buffer.index]? with
    | none => exact (Op.calm_pure ()).bind fun _ => hrest
    | some d => exact (((h r List.mem_cons_self).within d.span).reporting).bind fun _ => hrest

variable {σ : Type} {r : Registration σ} {rest : List (Registration σ)}

theorem eval_runActions_invoke {d : Descriptor} (h : ds[r.buffer.index]? = some d) (p : Bytes × σ) :
    (runActions kind ds (r :: rest)).eval p =
      (invoke kind d r >>= fun _ => runActions kind ds rest).eval p := by
  rw [runActions, h]

theorem eval_runActions_skip (h : ds[r.buffer.index]? = none) (p : Bytes × σ) :
    (runActions kind ds (r :: rest)).eval p = (runActions kind ds rest).eval p := by
  rw [runActions, h]

/-- Of two lists one after the other the second is run if the first succeeds. -/
theorem eval_runActions_append (as bs : List (Registration σ)) (p : Bytes × σ) :
    (runActions kind ds (as ++ bs)).eval p =
      (runActions kind ds as >>= fun _ => runActions kind ds bs).eval p := by
  induction as generalizing p with
  | nil => rfl
  | cons r rest ih =>
    rw [List.cons_append, Op.eval_bind]
    cases hd : ds[r.buffer.index]? with
    | none => rw [eval_runActions_skip hd, eval_runActions_skip hd, ih, Op.eval_bind]
    | some d =>
      rw [eval_runActions_invoke hd, eval_runActions_invoke hd, Op.eval_bind, Op.eval_bind]
      rcases (invoke kind d r).eval p with ⟨_ | _, q⟩
      · rfl
      · exact (ih q).trans (Op.eval_bind ..)

/-- The action of a timer leaves the bytes of its buffer. -/
theorem eval_invoke_tick (d : Descriptor) (buffer : BufferId) (timer : Timer)
    (p : Bytes × Bench ω) :
    (invoke kind d ⟨buffer, Bench.tick timer⟩).eval p =
      (.ok (), p.1, p.2.setCounters timer.increment) := by
  unfold invoke
  rw [Op.eval_reporting, Op.eval_within]
  show (Except.ok (), d.span.place (d.span.read p.1) p.1, _) = _
  rw [Span.place_read]
  rfl

/-- Nothing on the stream holds counter `k`, apart from the post-actions at the places `own`; and
every buffer lies in the image. -/
structure Quiet (k : Nat) (own : Nat → Prop) (s : Stream (Bench ω)) : Prop where
  fits (id : BufferId) (d : Descriptor) : s.descriptor? id = some d → d.span.Fits s.image
  transfer (sent : Bytes) : (s.transfer sent).Spares k
  pre (r : Registration (Bench ω)) : r ∈ s.pre → r.act.Spares k
  post (i : Nat) (r : Registration (Bench ω)) : s.post[i]? = some r → ¬ own i → r.act.Spares k
  onSync (op : Op (Bench ω) Unit) (b : Bench ω) : s.onSync = some op →
    (op.eval b).2.counters[k]? = b.counters[k]?

variable {own : Nat → Prop} {n : Nat} {id : BufferId} {timer : Timer} {s : Stream (Bench ω)}

/-- The actions before a place, of which none holds the counter. -/
theorem Quiet.calm_take (h : s.Quiet k (· = n)) (ds : List Descriptor) :
    (runActions .post ds (s.post.take n)).Calm k := by
  refine calm_runActions fun r hr => ?_
  obtain ⟨i, hi, he⟩ := List.getElem_of_mem hr
  rw [List.length_take] at hi
  refine h.post i r ?_ (by omega)
  rw [List.getElem_take] at he
  rw [← he]
  exact List.getElem?_eq_getElem _

/-- The actions behind a place. -/
theorem Quiet.calm_drop (h : s.Quiet k (· = n)) (ds : List Descriptor) :
    (runActions .post ds (s.post.drop (n + 1))).Calm k := by
  refine calm_runActions fun r hr => ?_
  obtain ⟨i, hi, he⟩ := List.getElem_of_mem hr
  refine h.post (n + 1 + i) r ?_ (by omega)
  rw [← List.getElem?_drop, ← he]
  exact List.getElem?_eq_getElem _

/-- The list of post-actions, split at the action of a timer. -/
theorem post_eq_of_getElem? (hn : s.post[n]? = some ⟨id, Bench.tick timer⟩) :
    s.post = s.post.take n ++ ⟨id, Bench.tick timer⟩ :: s.post.drop (n + 1) := by
  obtain ⟨hlt, he⟩ := List.getElem?_eq_some_iff.mp hn
  rw [← he, ← List.drop_eq_getElem_cons hlt, List.take_append_drop]

/-- Once the actions before it succeeded, the action of a timer advances it, whatever those behind
it do. -/
theorem Quiet.eval_runActions_through (h : s.Quiet timer.counter (· = n))
    (hn : s.post[n]? = some ⟨id, Bench.tick timer⟩) (hid : s.descriptor? id ≠ none)
    {p q : Bytes × Bench ω}
    (hran : (runActions .post s.descriptors (s.post.take n)).eval p = (.ok (), q)) :
    ∃ a u, (runActions .post s.descriptors s.post).eval p = (a, u) ∧ u.1.length = p.1.length ∧
      u.2.counters[timer.counter]? = p.2.counters[timer.counter]?.map Counter.increment := by
  obtain ⟨d, hd⟩ := Option.ne_none_iff_exists'.mp hid
  have hbefore : q.1.length = p.1.length ∧
      q.2.counters[timer.counter]? = p.2.counters[timer.counter]? := by
    have hlen := (h.calm_take s.descriptors).length p
    have hcount := (h.calm_take s.descriptors).spares p
    rw [hran] at hlen hcount
    exact ⟨hlen, hcount⟩
  -- the bench as the action of the timer leaves it
  let b := q.2.setCounters timer.increment
  have hb : b.counters[timer.counter]? = q.2.counters[timer.counter]?.map Counter.increment := by
    show (q.2.counters.modify timer.counter Counter.increment)[timer.counter]? = _
    rw [List.getElem?_modify_eq]
    rfl
  have heval : (runActions .post s.descriptors s.post).eval p =
      (runActions .post s.descriptors (s.post.drop (n + 1))).eval (q.1, b) := by
    conv => lhs; rw [post_eq_of_getElem? hn]
    rw [eval_runActions_append, Op.eval_bind_ok hran, eval_runActions_invoke hd,
      Op.eval_bind_ok (eval_invoke_tick ..)]
  have hbehind := h.calm_drop s.descriptors
  rw [heval]
  exact ⟨_, _, rfl, (hbehind.length (q.1, b)).trans hbefore.1,
    (hbehind.spares (q.1, b)).trans (hb.trans (by rw [hbefore.2]))⟩

/-! Opening a stream and attaching to it. -/

theorem quiet_create {τ : Type} {transfer : Transfer (Bench ω)} {consAck prodAck : BufferId}
    {t u : τ}
    (h : (create ds transfer consAck prodAck).eval t = (.ok s, u))
    (ht : ∀ sent, (transfer sent).Spares k) : s.Quiet k own := by
  obtain ⟨-, hbreak, -, rfl, -⟩ := create_eq_ok.mp h
  refine ⟨fun id d hd => ?_, ht, fun _ hr => absurd hr List.not_mem_nil, fun _ _ hr => ?_,
    fun _ _ hop => ?_⟩
  · unfold Span.Fits
    rw [List.length_replicate]
    exact Descriptor.end_le hbreak hd
  · cases hr
  · cases hop

theorem Quiet.append (h : s.Quiet k own) {r : Registration (Bench ω)} (hr : r.act.Spares k)
    (kind : ActionKind) : (append kind r s).Quiet k own := by
  cases kind with
  | pre =>
    refine ⟨h.fits, h.transfer, fun x hx => ?_, h.post, h.onSync⟩
    rcases List.mem_append.mp hx with hx | hx
    · exact h.pre x hx
    · rw [List.mem_singleton.mp hx]
      exact hr
  | post =>
    refine ⟨h.fits, h.transfer, h.pre, fun i x hx ho => ?_, h.onSync⟩
    rcases Nat.lt_or_ge i s.post.length with hi | hi
    · exact h.post i x ((List.getElem?_append_left hi).symm.trans hx) ho
    · obtain rfl : r = x := List.mem_singleton.mp
        (List.mem_of_getElem? ((List.getElem?_append_right hi).symm.trans hx)) |>.symm
      exact hr

/-- The place of an action that holds the counter itself. -/
theorem Quiet.append_own (h : s.Quiet k fun _ => False) (r : Registration (Bench ω)) :
    (Stream.append .post r s).Quiet k (· = s.post.length) := by
  refine ⟨h.fits, h.transfer, h.pre, fun i x hx ho => ?_, h.onSync⟩
  have hi : i < s.post.length := by
    obtain ⟨hlt, -⟩ := List.getElem?_eq_some_iff.mp hx
    have hlen : (Stream.append .post r s).post.length = s.post.length + 1 := List.length_append
    omega
  exact h.post i x ((List.getElem?_append_left hi).symm.trans hx) id

theorem Quiet.register (h : s.Quiet k own) {kind : ActionKind} {act : Action (Bench ω)}
    (hr : act.Spares k) : ((register kind id act).eval s).2.Quiet k own := by
  rw [eval_register]
  by_cases hd : s.descriptor? id = none
  · rw [if_pos hd]
    exact h
  rw [if_neg hd]
  by_cases hf : s.descriptors.length ≤ (s.actions kind).length
  · rw [if_pos hf]
    exact h
  · rw [if_neg hf]
    exact h.append hr kind

end Stream

/-! ## Stations -/

namespace Station

/-- Registers that are added come last. -/
theorem eval_addRegisters (s : Station ω) :
    (Station.onBench Bench.addRegisters).eval s =
      (.ok s.around.registers.length,
        { s with around := { s.around with registers := s.around.registers ++ [.clear] } }) := rfl

/-- A timer that is added has the next counter. -/
theorem eval_addTimer (threshold : Nat) (s : Station ω) :
    (Station.onBench (Bench.addTimer threshold)).eval s =
      (.ok ⟨threshold, s.around.counters.length⟩,
        { s with around := { s.around with counters := s.around.counters ++ [.idle] } }) := rfl

/-- Attaching an action to a buffer of the station's stream. -/
theorem attach_eq_ok {kind : ActionKind} {id : BufferId} {act : Action (Bench ω)}
    {s t : Station ω} {u : Unit} :
    (Site.onStream (Stream.register kind id act)).eval s = (.ok u, t) ↔
      s.stream.descriptor? id ≠ none ∧
        (s.stream.actions kind).length < s.stream.descriptors.length ∧
        t = { s with stream := s.stream.append kind ⟨id, act⟩ } := by
  unfold Site.onStream
  rw [Op.eval_within, Prod.mk.injEq]
  constructor
  · intro h
    obtain ⟨hr, rfl⟩ := h
    obtain ⟨hd, hf, hs⟩ := Stream.register_eq_ok.mp
      (Prod.ext hr rfl : (Stream.register kind id act).eval s.stream = (.ok u, _))
    exact ⟨hd, hf, congrArg (fun stream => ({ s with stream } : Station ω)) hs⟩
  · intro h
    obtain ⟨hd, hf, rfl⟩ := h
    rw [Stream.register_eq_ok.mpr ⟨hd, hf, rfl⟩]
    exact ⟨rfl, rfl⟩

/-- From `s` to `t` the image and what lies around the stream changed, and counter `k` as `f`
says. -/
structure Counts (k : Nat) (f : Option Counter → Option Counter) (s t : Station ω) : Prop where
  stream : t.stream = { s.stream with image := t.stream.image }
  length : t.stream.image.length = s.stream.image.length
  counter : t.around.counters[k]? = f s.around.counters[k]?

variable {s t u : Station ω} {own : Nat → Prop} {n : Nat} {f : Option Counter → Option Counter}

theorem Counts.trans (h : Counts k f s t) (h' : Counts k id t u) : Counts k f s u := by
  refine ⟨?_, h'.length.trans h.length, h'.counter.trans h.counter⟩
  rw [h'.stream, h.stream]

theorem Counts.quiet (h : Counts k f s t) (hq : s.stream.Quiet k own) : t.stream.Quiet k own := by
  rw [h.stream]
  refine ⟨fun id d hd => ?_, hq.transfer, hq.pre, hq.post, hq.onSync⟩
  unfold Span.Fits
  rw [h.length]
  exact hq.fits id d hd

theorem counts_onImage {op : Op (Bytes × Bench ω) Unit} (h : op.Calm k) (s : Station ω) :
    Counts k id s ((Site.onImage op).eval s).2 :=
  ⟨rfl, h.length (s.stream.image, s.around), h.spares (s.stream.image, s.around)⟩

/-- What an operation and the one after it do together. -/
theorem Counts.bind {op : Op (Station ω) α} {next : α → Op (Station ω) β}
    (h : Counts k f s (op.eval s).2)
    (hn : ∀ a t, Counts k f s t → op.eval s = (.ok a, t) → Counts k id t ((next a).eval t).2) :
    Counts k f s ((op >>= next).eval s).2 := by
  rw [Op.eval_bind]
  rcases hop : op.eval s with ⟨_ | a, t⟩
  · rw [hop] at h
    exact h
  · rw [hop] at h
    exact h.trans (hn a t h hop)

theorem counts_move (h : s.stream.Quiet k own) : Counts k id s (Site.move.eval s).2 := by
  unfold Site.move
  rw [Op.eval_bind_ok (Op.eval_read _)]
  exact counts_onImage (((h.transfer _).within _).reporting) s

/-- The first half of a cycle leaves the counter as it is. -/
theorem counts_processSync (h : s.stream.Quiet k own) :
    Counts k id s (Site.processSync.eval s).2 := by
  unfold Site.processSync
  rw [Op.eval_bind_ok (Op.eval_read _)]
  exact (counts_onImage (Stream.calm_runActions h.pre) s).bind fun _ t ht _ =>
    counts_move (ht.quiet h)

/-- So does the callback that ends a cycle. -/
theorem counts_callback (h : s.stream.Quiet k own) {callback : Op (Bench ω) Unit}
    (hset : s.stream.onSync = some callback) (describe : Fault → Line) (report : Fault → Fault) :
    Counts k id s ((Site.onAround (Op.reporting describe report callback)).eval s).2 := by
  rw [Site.onAround, Op.eval_within, Op.eval_reporting]
  exact ⟨rfl, rfl, h.onSync callback s.around hset⟩

/-- What follows the post-actions. -/
theorem counts_processPost (h : s.stream.Quiet k own) (hf : Counts k f s
    ((Site.onImage (Stream.runActions .post s.stream.descriptors s.stream.post)).eval s).2) :
    Counts k f s (Site.processPost.eval s).2 := by
  unfold Site.processPost
  rw [Op.eval_bind_ok (Op.eval_read _)]
  refine hf.bind fun _ t ht _ => ?_
  have hset : t.stream.onSync = s.stream.onSync := by rw [ht.stream]
  cases hs : s.stream.onSync with
  | none => exact ⟨rfl, rfl, rfl⟩
  | some callback => exact counts_callback (ht.quiet h) (hset.trans hs) _ _

/-- A second half that comes as far as the action of a timer advances it by one. -/
theorem counts_processPost_through {timer : Timer} {id : BufferId}
    (h : s.stream.Quiet timer.counter (· = n))
    (hn : s.stream.post[n]? = some ⟨id, Bench.tick timer⟩) (hid : s.stream.descriptor? id ≠ none)
    {q : Bytes × Bench ω}
    (hran : (Stream.runActions .post s.stream.descriptors (s.stream.post.take n)).eval
      (s.stream.image, s.around) = (.ok (), q)) :
    Counts timer.counter (Option.map Counter.increment) s (Site.processPost.eval s).2 := by
  refine counts_processPost h ?_
  obtain ⟨a, u, heval, hlen, hcount⟩ := h.eval_runActions_through hn hid hran
  unfold Site.onImage
  rw [Op.eval_within, heval]
  exact ⟨rfl, hlen, hcount⟩

/-- One that ends before it leaves the timer as it is. -/
theorem counts_processPost_short (h : s.stream.Quiet k (· = n)) {e : Fault} {q : Bytes × Bench ω}
    (hran : (Stream.runActions .post s.stream.descriptors (s.stream.post.take n)).eval
      (s.stream.image, s.around) = (.error e, q)) :
    Counts k id s (Site.processPost.eval s).2 := by
  refine counts_processPost h ?_
  have hcalm := h.calm_take s.stream.descriptors
  have hlen := hcalm.length (s.stream.image, s.around)
  have hcount := hcalm.spares (s.stream.image, s.around)
  have heval : (Stream.runActions .post s.stream.descriptors s.stream.post).eval
      (s.stream.image, s.around) = (.error e, q) := by
    conv => lhs; rw [← List.take_append_drop n s.stream.post]
    rw [Stream.eval_runActions_append, Op.eval_bind_error hran]
  rw [hran] at hlen hcount
  unfold Site.onImage
  rw [Op.eval_within, heval]
  exact ⟨rfl, hlen, hcount⟩

/-- What goes on around the holder of counter `k`: others attach actions, work on buffers and on
the bench, but not on that counter. -/
inductive Beside (k : Nat) (s : Station ω) : Station ω → Prop
  | attach {kind : ActionKind} {r : Registration (Bench ω)} (hr : r.act.Spares k) :
      Beside k s ((Site.onStream (Stream.register kind r.buffer r.act)).eval s).2
  | callback {op : Op (Bench ω) Unit} (h : ∀ b, (op.eval b).2.counters[k]? = b.counters[k]?) :
      Beside k s { s with stream := s.stream.setSyncCallback op }
  | edit (buffer : BufferId) (op : Op Bytes Unit) :
      Beside k s ((Site.onStream (Stream.editBuffer buffer op)).eval s).2
  | bench {b : Bench ω} (h : b.counters[k]? = s.around.counters[k]?) :
      Beside k s { s with around := b }

theorem counts_editBuffer (buffer : BufferId) (op : Op Bytes Unit) (s : Station ω) :
    Counts k id s ((Site.onStream (Stream.editBuffer buffer op)).eval s).2 := by
  obtain ⟨a, image, heval, hlen⟩ := Stream.eval_editBuffer_image buffer op s.stream
  unfold Site.onStream
  rw [Op.eval_within, heval]
  exact ⟨rfl, hlen, rfl⟩

theorem Beside.counter_eq (h : Beside k s t) : t.around.counters[k]? = s.around.counters[k]? := by
  cases h with
  | attach | edit | callback => rfl
  | bench h => exact h

theorem Beside.quiet (h : Beside k s t) (hq : s.stream.Quiet k own) : t.stream.Quiet k own := by
  cases h with
  | attach hr => exact hq.register hr
  | @callback op h =>
    refine ⟨hq.fits, hq.transfer, hq.pre, hq.post, fun op' b hop => ?_⟩
    cases hop
    exact h b
  | edit buffer op => exact (counts_editBuffer buffer op s).quiet hq
  | bench => exact hq

/-- The buffers stay where they are, and so do the actions that are attached. -/
theorem Beside.stream_eq (h : Beside k s t) : t.stream.descriptors = s.stream.descriptors ∧
    ∀ (i : Nat) (r : Registration (Bench ω)), s.stream.post[i]? = some r →
      t.stream.post[i]? = some r := by
  cases h with
  | @attach kind r hr =>
    rw [Site.onStream, Op.eval_within, Stream.eval_register]
    by_cases hd : s.stream.descriptor? r.buffer = none
    · rw [if_pos hd]
      exact ⟨rfl, fun _ _ hi => hi⟩
    rw [if_neg hd]
    by_cases hf : s.stream.descriptors.length ≤ (s.stream.actions kind).length
    · rw [if_pos hf]
      exact ⟨rfl, fun _ _ hi => hi⟩
    rw [if_neg hf]
    cases kind with
    | pre => exact ⟨rfl, fun _ _ hi => hi⟩
    | post =>
      refine ⟨rfl, fun i x hi => ?_⟩
      obtain ⟨hlt, -⟩ := List.getElem?_eq_some_iff.mp hi
      exact (List.getElem?_append_left hlt).trans hi
  | edit buffer op =>
    rw [(counts_editBuffer (k := k) buffer op s).stream]
    exact ⟨rfl, fun _ _ hi => hi⟩
  | callback | bench => exact ⟨rfl, fun _ _ hi => hi⟩

/-- The stream advances a timer by the action at place `n`, and by nothing else. -/
structure Ticks (n : Nat) (timer : Timer) (id : BufferId) (s : Station ω) : Prop where
  buffer : s.stream.descriptor? id ≠ none
  quiet : s.stream.Quiet timer.counter (· = n)
  ticked : s.stream.post[n]? = some ⟨id, Bench.tick timer⟩

variable {timer : Timer} {id : BufferId}

theorem Ticks.of_counts (h : Ticks n timer id s) (ht : Counts timer.counter f s t) :
    Ticks n timer id t := by
  refine ⟨?_, ht.quiet h.quiet, ?_⟩
  · rw [ht.stream]
    exact h.buffer
  · rw [ht.stream]
    exact h.ticked

theorem Ticks.of_beside (h : Ticks n timer id s) (ht : Beside timer.counter s t) :
    Ticks n timer id t := by
  obtain ⟨hdescriptors, hpost⟩ := ht.stream_eq
  refine ⟨?_, ht.quiet h.quiet, hpost _ _ h.ticked⟩
  show t.stream.descriptors[id.index]? ≠ none
  rw [hdescriptors]
  exact h.buffer

/-- A second half of a cycle that comes as far as the action advances the timer. -/
theorem Ticks.counts_processPost (h : Ticks n timer id s) {q : Bytes × Bench ω}
    (hran : (Stream.runActions .post s.stream.descriptors (s.stream.post.take n)).eval
      (s.stream.image, s.around) = (.ok (), q)) :
    Counts timer.counter (Option.map Counter.increment) s (Site.processPost.eval s).2 :=
  counts_processPost_through h.quiet h.ticked h.buffer hran

/-- The action of a new timer is attached where nothing holds the counter. -/
theorem ticks_append {b : Bench ω} (hd : s.stream.descriptor? id ≠ none)
    (h : s.stream.Quiet timer.counter fun _ => False) :
    Ticks s.stream.post.length timer id ⟨s.stream.append .post ⟨id, Bench.tick timer⟩, b⟩ :=
  ⟨hd, h.append_own _, List.getElem?_concat_length⟩

end Station

/-- A status channel that is opened on a quiet stream leaves it quiet. -/
theorem Status.keeps_quiet (outId inId : BufferId) (notify : TimeSync ω) (own : Nat → Prop)
    (bank : CounterBank) :
    (Status.create outId inId notify).Keeps fun s : Station ω =>
      s.stream.Quiet k own ∧ s.around.counters = bank := by
  have hcheck (buffer : BufferId) (size : Nat) : (checkBuffer buffer size).Keeps
      fun s : Station ω => s.stream.Quiet k own ∧ s.around.counters = bank := by
    intro s hs
    unfold checkBuffer
    rw [Op.eval_bind_ok (Op.eval_read _)]
    cases s.stream.descriptor? buffer with
    | none => exact hs
    | some d =>
      dsimp only
      by_cases hd : d.size = size
      · rw [if_pos hd]
        exact hs
      · rw [if_neg hd]
        exact hs
  have hattach (kind : ActionKind) (buffer : BufferId) {act : Action (Bench ω)}
      (ha : act.Spares k) : (Site.onStream (Stream.register kind buffer act)).Keeps
      fun s : Station ω => s.stream.Quiet k own ∧ s.around.counters = bank :=
    fun s hs => ⟨hs.1.register ha, hs.2⟩
  unfold create
  refine Op.Keeps.bind (hcheck _ _) fun _ => Op.Keeps.bind (hcheck _ _) fun _ =>
    Op.Keeps.bind (fun _ hs => hs) fun r => ?_
  exact Op.Keeps.bind (hattach _ _ (spares_timeSyncAction r notify)) fun _ =>
    Op.Keeps.bind (hattach _ _ (spares_cacheAction r)) fun _ =>
      Op.Keeps.bind (hattach _ _ (spares_publishAction r)) fun _ =>
        (Op.keeps_log _).bind fun _ => Op.keeps_pure _

end SlimInterface
