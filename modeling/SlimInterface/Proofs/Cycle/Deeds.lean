import SlimInterface.Proofs.Cycle.Opening
import SlimInterface.Proofs.Run

/-!
# What happens in half a cycle

In half a cycle a stream calls functions it knows nothing about: actions, the transfer, the
synchronous callback. A `Deed` is one such call, with the bytes it was given, what it left, and its
answer. `Blueprint.Does` says what a deed finds and what becomes of the image: each is given the
bytes as the deeds before it left them, and changes its own bytes and no others.

The two halves are then chains of deeds (`performs_processSync`, `performs_processPost`): the
actions of a list one after the other, up to the first that fails, and after the last one the
transfer or the callback.
-/

namespace SlimInterface

variable {σ : Type}

/-! ## Replacing the bytes of a span -/

/-- An operation that leaves as many bytes as it was given. -/
def Op.KeepsLength {α : Type} (op : Op (Bytes × σ) α) : Prop :=
  ∀ b w, (op.eval (b, w)).2.1.length = b.length

namespace Span

/-- The second image has `bytes` in the span, and is the first one elsewhere. -/
structure Replaced (s : Span) (bytes image image' : Bytes) : Prop where
  length : image'.length = image.length
  inside : s.read image' = bytes
  outside : ∀ i, ¬ s.Covers i → image'[i]? = image[i]?

theorem replaced_place {s : Span} {bytes image : Bytes} (hb : bytes.length = s.size)
    (h : s.Fits image) : s.Replaced bytes image (s.place bytes image) :=
  ⟨length_place s bytes image, read_place hb h, fun _ hi => getElem?_place_of_not_covers hi⟩

end Span

/-! ## Deeds -/

/-- A call of a function the stream was handed. -/
inductive Deed (σ : Type)
  /-- An action is given the bytes of its buffer. -/
  | action (r : Registration σ) (given left : Bytes) (answer : Except Fault Unit)
  /-- The transfer is given the consumer part, and the producer part to read. -/
  | transfer (given sent left : Bytes) (answer : Except Fault Unit)
  | callback (answer : Except Fault Unit)

/-- The action that succeeded. -/
def Deed.ran? : Deed σ → Option (Registration σ)
  | .action r _ _ (.ok ()) => some r
  | _ => none

namespace Blueprint

/-- The bytes a deed may change. -/
def span? (b : Blueprint σ) : Deed σ → Option Span
  | .action r _ _ _ => b.descriptors[r.buffer.index]?.map Descriptor.span
  | .transfer _ _ _ _ => some b.consumer
  | .callback _ => none

/-- A deed may change the byte at `i`. -/
def Touches (b : Blueprint σ) (d : Deed σ) (i : Nat) : Prop := ∃ s, b.span? d = some s ∧ s.Covers i

/-- A deed is given what the image holds and what lies around it, and leaves what its function
made of them. -/
inductive Does (b : Blueprint σ) (onSync : Option (Op σ Unit)) (p : Bytes × σ) :
    Deed σ → Bytes × σ → Prop
  | action {r : Registration σ} {d : Descriptor} {left : Bytes} {a : Except Fault Unit}
      {q : Bytes × σ} (hd : b.descriptors[r.buffer.index]? = some d)
      (hact : r.act.eval (d.span.read p.1, p.2) = (a, left, q.2))
      (hq : d.span.Replaced left p.1 q.1) :
      Does b onSync p (.action r (d.span.read p.1) left a) q
  | transfer {left : Bytes} {a : Except Fault Unit} {q : Bytes × σ}
      (hmove : (b.transfer (p.1.drop (b.offset b.prodAck))).eval (b.consumer.read p.1, p.2) =
        (a, left, q.2))
      (hq : b.consumer.Replaced left p.1 q.1) :
      Does b onSync p
        (.transfer (b.consumer.read p.1) (p.1.drop (b.offset b.prodAck)) left a) q
  | callback {op : Op σ Unit} {a : Except Fault Unit} {w : σ} (hop : onSync = some op)
      (hcall : op.eval p.2 = (a, w)) : Does b onSync p (.callback a) (p.1, w)

variable {b : Blueprint σ} {onSync : Option (Op σ Unit)} {p q : Bytes × σ} {d : Deed σ}
  {ds : List (Deed σ)}

theorem Does.length_eq (h : b.Does onSync p d q) : q.1.length = p.1.length := by
  cases h with
  | action _ _ hq => exact hq.length
  | transfer _ hq => exact hq.length
  | callback => rfl

theorem Does.getElem?_eq (h : b.Does onSync p d q) {i : Nat} (hi : ¬ b.Touches d i) :
    q.1[i]? = p.1[i]? := by
  cases h with
  | @action r x left a q hd _ hq =>
    refine hq.outside i fun hc => hi ⟨x.span, ?_, hc⟩
    show b.descriptors[r.buffer.index]?.map Descriptor.span = _
    rw [hd]
    rfl
  | transfer _ hq => exact hq.outside i fun hc => hi ⟨b.consumer, rfl, hc⟩
  | callback => rfl

/-- A byte that no deed may change is what it was. -/
theorem getElem?_eq_of_run (h : Run (b.Does onSync) p ds q) {i : Nat}
    (hi : ∀ d ∈ ds, ¬ b.Touches d i) : q.1[i]? = p.1[i]? := by
  induction h with
  | start => rfl
  | next _ hs ih =>
    rw [hs.getElem?_eq (hi _ (List.mem_append_right _ (List.mem_singleton.mpr rfl)))]
    exact ih fun d hd => hi d (List.mem_append_left _ hd)

theorem length_eq_of_run (h : Run (b.Does onSync) p ds q) : q.1.length = p.1.length := by
  induction h with
  | start => rfl
  | next _ hs ih => exact hs.length_eq.trans ih

/-! ## Actions -/

/-- An action that can be attached: its buffer exists, and it keeps the length of what it is
given. -/
structure Attached (b : Blueprint σ) (r : Registration σ) : Prop where
  descriptor : ∃ d, b.descriptors[r.buffer.index]? = some d
  keepsLength : r.act.KeepsLength

end Blueprint

/-- The deeds are the actions of the list, in order, and all of them succeeded. -/
def AllRan (rs : List (Registration σ)) (ds : List (Deed σ)) : Prop :=
  ds.map Deed.ran? = rs.map some

/-- The deeds are actions of the list, in order, up to the first one that failed. -/
inductive Stopped (rs : List (Registration σ)) : List (Deed σ) → Fault → Prop
  | intro {ran rest : List (Registration σ)} {r : Registration σ} {ds : List (Deed σ)}
      {given left : Bytes} {e : Fault} (hrs : rs = ran ++ r :: rest) (hran : AllRan ran ds) :
      Stopped rs (ds ++ [.action r given left (.error e)]) e

theorem AllRan.cons {r : Registration σ} {rs : List (Registration σ)} {ds : List (Deed σ)}
    {given left : Bytes} (h : AllRan rs ds) :
    AllRan (r :: rs) (.action r given left (.ok ()) :: ds) := by
  unfold AllRan at h ⊢
  rw [List.map_cons, List.map_cons, h]
  rfl

theorem Stopped.first (r : Registration σ) (rest : List (Registration σ)) (given left : Bytes)
    (e : Fault) : Stopped (r :: rest) [.action r given left (.error e)] e :=
  @Stopped.intro σ _ [] rest r [] given left e rfl rfl

theorem Stopped.cons {r : Registration σ} {rs : List (Registration σ)} {ds : List (Deed σ)}
    {given left : Bytes} {e : Fault} (h : Stopped rs ds e) :
    Stopped (r :: rs) (.action r given left (.ok ()) :: ds) e := by
  obtain ⟨rfl, hran⟩ := h
  exact .intro (List.cons_append).symm hran.cons

namespace Blueprint

variable {b : Blueprint σ}

/-- One action changes its own buffer. -/
theorem Sound.eval_invoke (h : b.Sound) (kind : ActionKind) (onSync : Option (Op σ Unit))
    {r : Registration σ} {d : Descriptor} {p : Bytes × σ}
    (hd : b.descriptors[r.buffer.index]? = some d) (hk : r.act.KeepsLength)
    (hp : p.1.length = b.total) :
    ∃ a left q, (Stream.invoke kind d r).eval p = (a, q) ∧
      b.Does onSync p (.action r (d.span.read p.1) left a) q := by
  have hfit := h.fits hd hp
  rcases hact : r.act.eval (d.span.read p.1, p.2) with ⟨a, left, w⟩
  have hlen : left.length = d.span.size := by
    have hkept := hk (d.span.read p.1) p.2
    rw [hact, Span.length_read hfit] at hkept
    exact hkept
  refine ⟨a, left, (d.span.place left p.1, w), ?_, .action hd hact (Span.replaced_place hlen hfit)⟩
  unfold Stream.invoke
  rw [Op.eval_reporting, Op.eval_within, hact]
  cases a with
  | ok => rfl
  | error e => rfl

/-- The actions of a list run in order, until one of them fails. -/
theorem Sound.eval_runActions (h : b.Sound) (kind : ActionKind) (onSync : Option (Op σ Unit))
    {rs : List (Registration σ)} (hrs : ∀ r ∈ rs, b.Attached r) {p : Bytes × σ}
    (hp : p.1.length = b.total) :
    ∃ a ds q, (Stream.runActions kind b.descriptors rs).eval p = (a, q) ∧
      Run (b.Does onSync) p ds q ∧
        (a = .ok () ∧ AllRan rs ds ∨ ∃ e, a = .error e ∧ Stopped rs ds e) := by
  induction rs generalizing p with
  | nil => exact ⟨.ok (), [], p, rfl, .start p, .inl ⟨rfl, rfl⟩⟩
  | cons r rest ih =>
    obtain ⟨⟨d, hd⟩, hk⟩ := hrs r List.mem_cons_self
    obtain ⟨a, left, q, heval, hdoes⟩ := h.eval_invoke kind onSync hd hk hp
    unfold Stream.runActions
    rw [hd]
    dsimp only
    cases a with
    | error e =>
      exact ⟨_, _, q, Op.eval_bind_error heval, .one hdoes, .inr ⟨e, rfl, .first ..⟩⟩
    | ok =>
      obtain ⟨a, ds, u, hrest, hrun, hcase⟩ := ih (fun x hx => hrs x (List.mem_cons_of_mem r hx))
        (hdoes.length_eq.trans hp)
      refine ⟨a, _, u, (Op.eval_bind_ok heval).trans hrest, (Run.one hdoes).trans hrun, ?_⟩
      rcases hcase with ⟨ha, hran⟩ | ⟨e, ha, hstop⟩
      · exact .inl ⟨ha, hran.cons⟩
      · exact .inr ⟨e, ha, hstop.cons⟩

end Blueprint

end SlimInterface
