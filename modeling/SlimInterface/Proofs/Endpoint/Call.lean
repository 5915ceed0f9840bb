import SlimInterface.Proofs.Endpoint.Background

/-!
# Calls

What an application does with an endpoint once it is open: it posts entries, hands over
received frames, drives the two halves of the cycle and the background loop. `Endpoint.Does`
is one such call with its answer; `Live.callStep_of_does` says what it changes.
-/

namespace SlimInterface

variable {ω : Type}

/-- A call of an entry point, with its answer. -/
inductive Call
  | post (e : LogEntry) (answer : Except Fault Posting)
  | receive (p : Bytes) (answer : Except Fault Unit)
  | sync (answer : Except Fault Unit)
  | round (answer : Except Fault Unit)
  | async (answer : Except Fault Unit)

namespace Endpoint

/-- The endpoint answers a call. -/
inductive Does (net : Transport ω) (s : Endpoint ω) : Call → Endpoint ω → Prop
  | post {e : LogEntry} {a : Except Fault Posting} {t : Endpoint ω}
      (h : (postLogEntry 0 e).eval s = (a, t)) : Does net s (.post e a) t
  | receive {p : Bytes} {a : Except Fault Unit} {t : Endpoint ω}
      (h : (receiveFrame 0 p).eval s = (a, t)) : Does net s (.receive p a) t
  | sync {a : Except Fault Unit} {t : Endpoint ω} (h : processSync.eval s = (a, t)) :
      Does net s (.sync a) t
  | round {a : Except Fault Unit} {t : Endpoint ω} (h : processPost.eval s = (a, t)) :
      Does net s (.round a) t
  | async {a : Except Fault Unit} {t : Endpoint ω} (h : (processAsync net).eval s = (a, t)) :
      Does net s (.async a) t

end Endpoint

namespace Live

variable {c : Config} {app : Application ω} {net : Transport ω} {k k' : Live ω}

/-- What a call can do. -/
inductive CallStep (c : Config) (app : Application ω) (net : Transport ω) (k : Live ω) :
    Call → Live ω → Prop
  | post {e : LogEntry} {a : Posting} {k' : Live ω} (hs : EntryStep c e k a k') :
      CallStep c app net k (.post e (.ok a)) k'
  | receive {p : Bytes} {r : Except Fault Unit} {k' : Live ω} (hs : FrameStep p k r k') :
      CallStep c app net k (.receive p r) k'
  | sync {r : Except Fault Unit} {k' : Live ω} (hs : SyncStep c app k r k') :
      CallStep c app net k (.sync r) k'
  | round : CallStep c app net k (.round (.ok ())) (k.afterPost c)
  | async {k1 k2 k3 : Live ω} (hlog : LogStep k k1) (htx : TxStep c net k1 k2)
      (hrx : RxStep c k2 k3) : CallStep c app net k (.async (.ok ())) k3

/-- A call leaves an endpoint of the same make. -/
theorem callStep_of_does (hc : c.Accepted) (h : k.Sound c) {a : Call} {s : Endpoint ω}
    (hd : Endpoint.Does net (k.endpoint c app) a s) :
    ∃ k', s = k'.endpoint c app ∧ CallStep c app net k a k' := by
  cases hd with
  | post he =>
    obtain ⟨r, k', hk, hs⟩ := eval_postLogEntry app hc h _
    rw [hk] at he
    cases he
    exact ⟨k', rfl, .post hs⟩
  | receive he =>
    obtain ⟨r, k', hk, hs⟩ := eval_receiveFrame c app k _
    rw [hk] at he
    cases he
    exact ⟨k', rfl, .receive hs⟩
  | sync he =>
    obtain ⟨r, k', hk, hs⟩ := eval_processSync app hc h
    rw [hk] at he
    cases he
    exact ⟨k', rfl, .sync hs⟩
  | round he =>
    rw [eval_processPost app hc h] at he
    cases he
    exact ⟨_, rfl, .round⟩
  | async he =>
    obtain ⟨k1, k2, k3, hk, h1, h2, h3⟩ := eval_processAsync app net hc h
    rw [hk] at he
    cases he
    exact ⟨k3, rfl, .async h1 h2 h3⟩

end Live

end SlimInterface
