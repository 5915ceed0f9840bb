import SlimInterface.Proofs.Endpoint.Call
import SlimInterface.Proofs.Endpoint.Callback
import SlimInterface.Proofs.Run

/-!
# Everything an application can do

Beside the calls for its channels, an application may set the local acknowledge, ask for a
channel there is not, and set a callback, at any time. `Endpoint.Uses` is one such use with its
answer; `Attended` is what changes of an endpoint then, and `UseStep` lists all that a use can
do (`Attended.useStep_of_uses`). What each of these keeps holds of every endpoint that was
opened and used (`Attended.invariant`).
-/

namespace SlimInterface

variable {ω ι : Type}

/-- A use of an endpoint, with its answer. -/
inductive Use (ι : Type)
  | call (a : Call)
  /-- The local acknowledge of an SSDO channel is set. -/
  | flag (channel : UInt8) (seq : SeqNr) (answer : Except Fault Unit)
  /-- An entry for a logbook channel there is not. -/
  | strayEntry (channel : UInt8) (e : LogEntry) (answer : Except Fault Posting)
  /-- A frame for an SSDO channel there is not. -/
  | strayFrame (channel : UInt8) (p : Bytes) (answer : Except Fault Unit)
  /-- A callback is set. -/
  | attend (callback : ι)

namespace Endpoint

/-- An application that has the callbacks `callbacks` uses the endpoint. -/
inductive Uses (net : Transport ω) (callbacks : ι → Op ω Unit) (s : Endpoint ω) :
    Use ι → Endpoint ω → Prop
  | call {a : Call} {t : Endpoint ω} (h : s.Does net a t) : Uses net callbacks s (.call a) t
  | flag {channel : UInt8} {seq : SeqNr} {a : Except Fault Unit} {t : Endpoint ω}
      (h : (setSsdoRxFlag channel seq).eval s = (a, t)) :
      Uses net callbacks s (.flag channel seq a) t
  | strayEntry {channel : UInt8} {e : LogEntry} {a : Except Fault Posting} {t : Endpoint ω}
      (hchannel : channel ≠ 0) (h : (postLogEntry channel e).eval s = (a, t)) :
      Uses net callbacks s (.strayEntry channel e a) t
  | strayFrame {channel : UInt8} {p : Bytes} {a : Except Fault Unit} {t : Endpoint ω}
      (hchannel : channel ≠ 0) (h : (receiveFrame channel p).eval s = (a, t)) :
      Uses net callbacks s (.strayFrame channel p a) t
  | attend (i : ι) : Uses net callbacks s (.attend i) (s.setSyncCallback (callbacks i))

end Endpoint

/-- All that changes of an endpoint while it is used. -/
structure Attended (ω : Type) where
  live : Live ω
  callback : Option (Op ω Unit)

/-- The endpoint of an attended state. -/
def Attended.endpoint (c : Config) (app : Application ω) (k : Attended ω) : Endpoint ω :=
  (k.live.endpoint c app).withCallback k.callback

/-- Nothing happened yet, and there is no callback. -/
def Attended.initial (c : Config) (w : ω) : Attended ω := ⟨.initial c w, none⟩

theorem Attended.create_eq_ok {c : Config} {app : Application ω} {w w' : ω} {e : Endpoint ω} :
    (Endpoint.create c app.hooks).eval w = (.ok e, w') ↔
      c.Accepted ∧ e = (initial c w).endpoint c app ∧ w' = w :=
  Live.create_eq_ok_live app

namespace Live

variable {c : Config} {app : Application ω} {net : Transport ω} {callbacks : ι → Op ω Unit}
  {callback : Option (Op ω Unit)} {k k' : Live ω}

/-! ## The second half of a cycle -/

/-- What the second half of a cycle can do: the post-actions, and then the callback. -/
inductive RoundStep (c : Config) (app : Application ω) (callback : Option (Op ω Unit))
    (k : Live ω) : Except Fault Unit → Live ω → Prop
  | unattended (hf : callback = none) : RoundStep c app callback k (.ok ()) (k.afterPost c)
  | called {f : Op ω Unit} {w : ω} (hf : callback = some f) (hw : f.eval k.world = (.ok (), w)) :
      RoundStep c app callback k (.ok ()) { k.afterPost c with world := w }
  | failed {f : Op ω Unit} {e : Fault} {w : ω} (hf : callback = some f)
      (hw : f.eval k.world = (.error e, w)) :
      RoundStep c app callback k (.error .syncCallbackFailed)
        ({ k.afterPost c with world := w }.reported app ⟨.stream, .syncCallbackFailed⟩)

theorem Sound.roundStep {r : Except Fault Unit} (h : k.Sound c)
    (hs : RoundStep c app callback k r k') : k'.Sound c := by
  obtain ⟨h1, h2, h3⟩ := h.afterPost
  cases hs <;> exact ⟨h1, h2, h3⟩

theorem withCallback_none : (k.endpoint c app).withCallback none = k.endpoint c app := rfl

/-- The callback runs in the world the post-actions left. -/
theorem eval_sitePost {f : Op ω Unit} {r : Except Fault Unit} {w : ω} (hc : c.Accepted)
    (h : k.Sound c) (hw : f.eval k.world = (r, w)) :
    Site.processPost.eval ((k.station c app).withCallback (some f)) =
      (r.mapError fun _ => .syncCallbackFailed,
        (({ k.afterPost c with world := w } : Live ω).station c app).withCallback (some f)) := by
  have himage : (Site.onImage (Stream.runActions .post
      ((k.station c app).withCallback (some f)).stream.descriptors
      ((k.station c app).withCallback (some f)).stream.post)).eval
        ((k.station c app).withCallback (some f)) =
      (.ok (), ((k.afterPost c).station c app).withCallback (some f)) := by
    have hignores : (Site.onImage (Stream.runActions .post (k.station c app).stream.descriptors
        (k.station c app).stream.post)).Ignores (Station.withCallback (some f)) :=
      Station.ignores_onImage _
    have hwithout := hignores (k.station c app)
    rw [eval_postImage app hc h] at hwithout
    exact hwithout
  unfold Site.processPost
  rw [Op.eval_bind_ok (Op.eval_read _), Op.eval_bind_ok himage]
  show (Site.onAround _).eval (((k.afterPost c).station c app).withCallback (some f)) = _
  unfold Site.onAround
  rw [Op.eval_within, Op.eval_reporting, Bench.onWorld, Op.eval_within]
  show (Except.mapError _ (f.eval k.world).1, _) = _
  rw [show (((k.afterPost c).station c app).withCallback (some f)).around.world = k.world from rfl,
    hw]
  rfl

theorem eval_posting_error_attended {source : Source} {op : Op (Endpoint ω) Unit}
    {e : Endpoint ω} {f : Fault}
    (h : op.eval e = (.error f, (k.endpoint c app).withCallback callback)) :
    (Endpoint.posting source op).eval e =
      (.error f, ((k.reported app ⟨source, f⟩).endpoint c app).withCallback callback) :=
  Endpoint.eval_posting_error h

/-- The failure of a callback is posted. -/
theorem eval_processPost_attended (app : Application ω) (callback : Option (Op ω Unit))
    (hc : c.Accepted) (h : k.Sound c) :
    ∃ r k', Endpoint.processPost.eval ((k.endpoint c app).withCallback callback) =
        (r, (k'.endpoint c app).withCallback callback) ∧ RoundStep c app callback k r k' := by
  cases callback with
  | none =>
    refine ⟨.ok (), k.afterPost c, ?_, .unattended rfl⟩
    rw [withCallback_none, withCallback_none]
    exact eval_processPost app hc h
  | some f =>
    rcases hw : f.eval k.world with ⟨r, w⟩
    have hon : (Endpoint.onStation Site.processPost).eval
        ((k.endpoint c app).withCallback (some f)) =
        (r.mapError fun _ => .syncCallbackFailed,
          (({ k.afterPost c with world := w } : Live ω).endpoint c app).withCallback (some f)) :=
      Op.eval_within_of (eval_sitePost hc h hw)
    cases r with
    | ok u => exact ⟨_, _, Endpoint.eval_posting_ok hon, .called rfl hw⟩
    | error e => exact ⟨_, _, eval_posting_error_attended hon, .failed rfl hw⟩

/-! ## The other uses -/

/-- What an endpoint answers when a received frame is handed over. -/
def admission (p : Bytes) (k : Live ω) : Except Fault Unit :=
  if Frame.maxPayload < p.length then .error .outOfBounds
  else if receiveDepth ≤ k.queue.length then .error .fifoFull
  else .ok ()

theorem receiveFrame_answer (c : Config) (app : Application ω) (k : Live ω) (p : Bytes) :
    ((Endpoint.receiveFrame 0 p).eval (k.endpoint c app)).1 = k.admission p := by
  have haccept : ((Receive.accept p).eval (k.rx c)).1 = k.admission p := by
    unfold Receive.accept admission
    rw [Op.eval_bind_ok (Op.eval_read _)]
    split
    · rfl
    · show (Op.eval (if receiveDepth ≤ k.queue.length then _ else _) _).1 = _
      split
      · rfl
      · rfl
  exact haccept

/-- The endpoint after the local acknowledge was set. -/
def flagged (seq : SeqNr) (k : Live ω) : Live ω :=
  { k with registers := { k.registers with ssdoRx := Status.withFlag k.registers.ssdoRx 0 seq } }

end Live

namespace Attended

open Live

variable {c : Config} {app : Application ω} {net : Transport ω} {callbacks : ι → Op ω Unit}
  {k k' : Attended ω}

/-! ## What a use can do -/

/-- What a use can do. -/
inductive UseStep (c : Config) (app : Application ω) (net : Transport ω)
    (callbacks : ι → Op ω Unit) (k : Attended ω) : Use ι → Attended ω → Prop
  | post {e : LogEntry} {a : Posting} {k' : Live ω} (hs : EntryStep c e k.live a k') :
      UseStep c app net callbacks k (.call (.post e (.ok a))) { k with live := k' }
  | receive {p : Bytes} {k' : Live ω} (hs : FrameStep p k.live (k.live.admission p) k') :
      UseStep c app net callbacks k (.call (.receive p (k.live.admission p))) { k with live := k' }
  | sync {r : Except Fault Unit} {k' : Live ω} (hs : SyncStep c app k.live r k') :
      UseStep c app net callbacks k (.call (.sync r)) { k with live := k' }
  | round {r : Except Fault Unit} {k' : Live ω} (hs : RoundStep c app k.callback k.live r k') :
      UseStep c app net callbacks k (.call (.round r)) { k with live := k' }
  | async {k1 k2 k3 : Live ω} (hlog : LogStep k.live k1) (htx : TxStep c net k1 k2)
      (hrx : RxStep c k2 k3) :
      UseStep c app net callbacks k (.call (.async (.ok ()))) { k with live := k3 }
  | flag {seq : SeqNr} :
      UseStep c app net callbacks k (.flag 0 seq (.ok ())) { k with live := k.live.flagged seq }
  | strayFlag {channel : UInt8} {seq : SeqNr} (hchannel : channel ≠ 0) :
      UseStep c app net callbacks k (.flag channel seq (.error .invalidParameter)) k
  | strayEntry {channel : UInt8} {e : LogEntry} :
      UseStep c app net callbacks k (.strayEntry channel e (.error .invalidParameter)) k
  | strayFrame {channel : UInt8} {p : Bytes} :
      UseStep c app net callbacks k (.strayFrame channel p (.error .invalidParameter)) k
  | attend (i : ι) :
      UseStep c app net callbacks k (.attend i) { k with callback := some (callbacks i) }

theorem sound_useStep {u : Use ι} (h : k.live.Sound c) (hs : UseStep c app net callbacks k u k') :
    k'.live.Sound c := by
  cases hs with
  | post hs => exact h.entryStep hs
  | receive hs => exact h.frameStep hs
  | sync hs => exact h.syncStep hs
  | round hs => exact h.roundStep hs
  | async hlog htx hrx => exact ((h.logStep hlog).txStep htx).rxStep hrx
  | flag => exact ⟨h.1, h.2, h.3⟩
  | strayFlag | strayEntry | strayFrame | attend => exact h

/-- Nothing but the callbacks of the application becomes the callback. -/
theorem callback_useStep {P : Op ω Unit → Prop} {u : Use ι} (hall : ∀ i, P (callbacks i))
    (hf : ∀ f, k.callback = some f → P f) (hs : UseStep c app net callbacks k u k') :
    ∀ f, k'.callback = some f → P f := by
  cases hs with
  | attend i =>
    intro f he
    cases he
    exact hall i
  | _ => exact hf

/-- A channel there is not has a number that is not below the number of channels. -/
theorem one_le_of_ne {channel : UInt8} (h : channel ≠ 0) : 1 ≤ channel.toNat :=
  Nat.pos_of_ne_zero fun hz => h (UInt8.toNat_inj.mp hz)

theorem eval_setSsdoRxFlag_stray {channel : UInt8} (seq : SeqNr) (e : Endpoint ω)
    (h : channel ≠ 0) :
    (Endpoint.setSsdoRxFlag channel seq).eval e = (.error .invalidParameter, e) := by
  have hflag : (e.status.setSsdoRxFlag channel seq).eval e.station.around =
      (.error .invalidParameter, e.station.around) := by
    unfold Status.setSsdoRxFlag Status.checkChannel
    rw [if_neg (show ¬ channel.toNat < ssdoChannelCount from Nat.not_lt.mpr (one_le_of_ne h))]
    rfl
  unfold Endpoint.setSsdoRxFlag Endpoint.onStation Station.onBench Site.onAround
  rw [Op.eval_bind_ok (Op.eval_read _), Op.eval_within, Op.eval_within, hflag]

/-- A use leaves an endpoint of the same make. -/
theorem useStep_of_uses (hc : c.Accepted) (h : k.live.Sound c) {u : Use ι} {s : Endpoint ω}
    (hu : Endpoint.Uses net callbacks (k.endpoint c app) u s) :
    ∃ k' : Attended ω, s = k'.endpoint c app ∧ UseStep c app net callbacks k u k' := by
  cases hu with
  | call hd =>
    cases hd with
    | post he =>
      obtain ⟨r, k', hk, hs⟩ := eval_postLogEntry app hc h _
      rw [endpoint, Endpoint.ignores_postLogEntry, hk] at he
      cases he
      exact ⟨_, rfl, .post hs⟩
    | @receive p _ _ he =>
      obtain ⟨r, k', hk, hs⟩ := eval_receiveFrame c app k.live p
      have hanswer := receiveFrame_answer c app k.live p
      rw [endpoint, Endpoint.ignores_receiveFrame, hk] at he
      rw [hk] at hanswer
      subst hanswer
      cases he
      exact ⟨_, rfl, .receive hs⟩
    | sync he =>
      obtain ⟨r, k', hk, hs⟩ := eval_processSync app hc h
      rw [endpoint, Endpoint.ignores_processSync, hk] at he
      cases he
      exact ⟨_, rfl, .sync hs⟩
    | round he =>
      obtain ⟨r, k', hk, hs⟩ := eval_processPost_attended app k.callback hc h
      rw [endpoint, hk] at he
      cases he
      exact ⟨_, rfl, .round hs⟩
    | async he =>
      obtain ⟨k1, k2, k3, hk, h1, h2, h3⟩ := eval_processAsync app net hc h
      rw [endpoint, Endpoint.ignores_processAsync, hk] at he
      cases he
      exact ⟨_, rfl, .async h1 h2 h3⟩
  | @flag channel seq _ _ he =>
    by_cases hchannel : channel = 0
    · subst hchannel
      cases he
      exact ⟨{ k with live := k.live.flagged seq }, rfl, .flag⟩
    · rw [eval_setSsdoRxFlag_stray seq _ hchannel] at he
      cases he
      exact ⟨k, rfl, .strayFlag hchannel⟩
  | strayEntry hchannel he =>
    unfold Endpoint.postLogEntry at he
    rw [if_pos (show logChannelCount ≤ _ from one_le_of_ne hchannel)] at he
    cases he
    exact ⟨k, rfl, .strayEntry⟩
  | strayFrame hchannel he =>
    unfold Endpoint.receiveFrame at he
    rw [if_pos (show ssdoChannelCount ≤ _ from one_le_of_ne hchannel)] at he
    cases he
    exact ⟨k, rfl, .strayFrame⟩
  | attend i => exact ⟨{ k with callback := some (callbacks i) }, rfl, .attend i⟩

/-- What holds of an endpoint that was just opened, and what every use keeps, holds of every
endpoint that was used. -/
theorem invariant {I : List (Use ι) → Attended ω → Prop} (hc : c.Accepted) {w : ω}
    {us : List (Use ι)} {s : Endpoint ω} (h0 : I [] (initial c w))
    (hstep : ∀ {us k u k'}, k.live.Sound c → I us k → UseStep c app net callbacks k u k' →
      I (us ++ [u]) k')
    (hrun : Run (Endpoint.Uses net callbacks) ((initial c w).endpoint c app) us s) :
    ∃ k : Attended ω, s = k.endpoint c app ∧ k.live.Sound c ∧ I us k := by
  refine hrun.invariant
    (I := fun us s => ∃ k : Attended ω, s = k.endpoint c app ∧ k.live.Sound c ∧ I us k)
    ⟨_, rfl, sound_initial c w, h0⟩ ?_
  intro us s u t h hu
  obtain ⟨k, rfl, hk, hi⟩ := h
  obtain ⟨k', rfl, hs⟩ := useStep_of_uses hc hk hu
  exact ⟨k', rfl, sound_useStep hk hs, hstep hk hi hs⟩

end Attended

end SlimInterface
