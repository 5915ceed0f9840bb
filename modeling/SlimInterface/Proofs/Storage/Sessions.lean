import SlimInterface.Proofs.Run
import SlimInterface.Proofs.Storage.Mirror

/-!
# One file, many stores

Stores of one size come and go over the same file. At most one of them is open at a time; the
others keep what they had in memory, and may be called all the same. `Step` is one call of one
store, which works on the file as the calls before left it.

`held` is what the device should hold: the file as it was at first, brought to the size of the
device, and over it what the calls that succeeded wrote. `Inv` says that the file holds just this,
with its old end behind it, and an open store too. From there a call comes to one of the cases of
`CallStep`, and each of them keeps it so (`Inv.step`). `Persistent` is what the application sees
of that: what it reads (`Reads`), which calls succeed and which are refused, and what is still
there after a restart. `persistent_of_run` says that it holds after any calls.
-/

namespace SlimInterface

/-- What a file did not have is erased. -/
theorem Bytes.getElem?_resize_of_le {b : Bytes} {size n : Nat} (h : b.length ≤ n) (hn : n < size) :
    (b.resize size Bytes.erased)[n]? = some Bytes.erased := by
  unfold Bytes.resize
  rw [List.getElem?_append_right (by rw [List.length_take]; omega), List.getElem?_replicate,
    if_pos (by rw [List.length_take]; omega)]

namespace Sessions

/-! ## Calls -/

/-- A call of a store. -/
inductive Call
  | mount
  | unmount
  | write (off : Nat) (data : Bytes)
  | erase (off : Nat)

/-- What a call does. -/
def Call.op : Call → Op FileStore Unit
  | mount => NonVolatile.mount
  | unmount => NonVolatile.unmount
  | write off data => NonVolatile.write off data
  | erase off => NonVolatile.erase off

/-- What a store has for itself. -/
structure Instance where
  handle : Option FileHandle
  memory : Bytes

/-- Whether the store is open. -/
def Instance.isOpen (x : Instance) : Bool := x.handle.isSome

/-- A store of a size over a file. -/
def Instance.store (x : Instance) (f : BackingFile) (size : Nat) : FileStore :=
  ⟨f, size, x.handle, x.memory⟩

/-- A file, and the stores over it. -/
structure Shared where
  file : BackingFile
  instances : List Instance

/-- No store but the one with this number is open. -/
def Shared.Only (w : Shared) (i : Nat) : Prop :=
  ∀ j y, w.instances[j]? = some y → y.isOpen = true → j = i

/-- What happens to the stores. -/
inductive Event
  /-- There is one more store. -/
  | create
  /-- The store with this number is called. -/
  | call (i : Nat) (call : Call) (answer : Except Fault Unit)

/-- A step of the stores of one size. A store is opened only when no other one is open. -/
inductive Step (size : Nat) (w : Shared) : Event → Shared → Prop
  | create {x : Instance} (h : FileStore.create w.file size = x.store w.file size) :
      Step size w .create { w with instances := w.instances ++ [x] }
  | call {i : Nat} {call : Call} {x x' : Instance} {f : BackingFile} {r : Except Fault Unit}
      (hx : w.instances[i]? = some x)
      (halone : call = .mount → w.Only i)
      (h : call.op.eval (x.store w.file size) = (r, x'.store f size)) :
      Step size w (.call i call r) ⟨f, w.instances.set i x'⟩

/-- What an event makes of the bytes of the device. -/
def Event.apply (size : Nat) (b : Bytes) : Event → Bytes
  | .call _ (.write off data) (.ok ()) => b.overwrite off data
  | .call _ (.erase _) (.ok ()) => List.replicate size Bytes.erased
  | _ => b

/-- What the device holds after the events `es`, over a file with the contents `original`. -/
def held (size : Nat) (original : Bytes) (es : List Event) : Bytes :=
  es.foldl (Event.apply size) (original.resize size Bytes.erased)

variable {size off : Nat} {original data rest : Bytes} {es : List Event} {e : Event}
  {w w' : Shared} {x x' y : Instance} {f g : BackingFile} {r : Except Fault Unit} {i : Nat}

theorem held_append (es : List Event) (e : Event) :
    held size original (es ++ [e]) = e.apply size (held size original es) := by
  unfold held
  rw [List.foldl_append]
  rfl

theorem length_held (es : List Event) : (held size original es).length = size := by
  have hfold : ∀ b : Bytes, b.length = size → (es.foldl (Event.apply size) b).length = size := by
    induction es with
    | nil => exact fun b hb => hb
    | cons e es ih =>
      intro b hb
      refine ih _ ?_
      unfold Event.apply
      split
      · rw [Bytes.length_overwrite, hb]
      · exact List.length_replicate
      · exact hb
  exact hfold _ (Bytes.length_resize _ _ _)

theorem store_inj (h : x.store f size = y.store g size) : x = y ∧ f = g := by
  cases x
  cases y
  cases h
  exact ⟨rfl, rfl⟩

theorem isOpen_store (x : Instance) (f : BackingFile) (size : Nat) :
    (x.store f size).isOpen = x.isOpen := rfl

theorem isOpen_of_attached (h : x.handle = some .attached) : x.isOpen = true := by
  unfold Instance.isOpen
  rw [h]
  rfl

/-! ## What the calls do -/

/-- Opening reads the device from the file, and brings the file up to its size. -/
theorem eval_mount (x : Instance) (hf : f.place = .folder)
    (hdata : (f.contents.getD []).resize size Bytes.erased = data)
    (hrest : (f.contents.getD []).drop size = rest) :
    Call.mount.op.eval (x.store f size) =
      (.ok (), Instance.store ⟨some .attached, data⟩ { f with contents := some (data ++ rest) }
        size) := by
  have hopen : (x.store f size).file.obstacle? = none := by
    show f.obstacle? = none
    unfold BackingFile.obstacle?
    rw [hf]
  show FileStore.mount.eval (x.store f size) = _
  unfold FileStore.mount
  rw [Op.eval_bind_ok (Op.eval_read _), hopen]
  dsimp only
  rw [Op.eval_bind_ok (Op.eval_write _ _), Op.eval_log, ← hrest, ← hdata,
    Bytes.resize_append_drop]
  rfl

theorem eval_unmount (x : Instance) (f : BackingFile) (size : Nat) :
    Call.unmount.op.eval (x.store f size) = (.ok (), Instance.store ⟨none, x.memory⟩ f size) := by
  show FileStore.unmount.eval (x.store f size) = _
  unfold FileStore.unmount
  rw [Op.eval_bind_ok (Op.eval_read _), isOpen_store]
  cases hx : x.isOpen with
  | false =>
    have hhandle : x.handle = none :=
      Option.isNone_iff_eq_none.mp (Option.isSome_eq_false_iff.mp hx)
    rw [if_neg Bool.false_ne_true, Op.eval_pure]
    unfold Instance.store
    rw [hhandle]
  | true =>
    rw [if_pos rfl]
    rfl

theorem eval_write_closed (hx : x.isOpen = false) :
    (Call.write off data).op.eval (x.store f size) = (.error .notInitialized, x.store f size) := by
  show (FileStore.write off data).eval (x.store f size) = _
  unfold FileStore.write
  rw [Op.eval_bind_ok (Op.eval_read _), isOpen_store, hx, if_neg Bool.false_ne_true, Op.eval_fail]

theorem eval_erase_closed (hx : x.isOpen = false) :
    (Call.erase off).op.eval (x.store f size) = (.error .notInitialized, x.store f size) := by
  show (FileStore.erase off).eval (x.store f size) = _
  unfold FileStore.erase
  rw [Op.eval_bind_ok (Op.eval_read _), isOpen_store, hx, if_neg Bool.false_ne_true, Op.eval_fail]

theorem eval_write_past (hx : x.isOpen = true) (hpast : x.memory.length < off + data.length) :
    (Call.write off data).op.eval (x.store f size) =
      (.error (.storageError "write beyond the device"), x.store f size) := by
  show (FileStore.write off data).eval (x.store f size) = _
  unfold FileStore.write
  rw [Op.eval_bind_ok (Op.eval_read _), isOpen_store, if_pos hx,
    show (x.store f size).memory = x.memory from rfl, Bytes.put?, if_neg (Nat.not_le.mpr hpast),
    Op.eval_fail]

/-- Writing through the handle changes the bytes of the device in the file. -/
theorem writeThrough_store (hhandle : x.handle = some .attached)
    (hf : f.contents = some (x.memory ++ rest)) {m : Bytes}
    (hfit : off + data.length ≤ x.memory.length) :
    FileStore.writeThrough off data { x.store f size with memory := m } =
      Instance.store ⟨some .attached, m⟩
        { f with contents := some (x.memory.overwrite off data ++ rest) } size := by
  unfold FileStore.writeThrough Instance.store
  dsimp only
  rw [hhandle, hf]
  dsimp only
  rw [BackingFile.writeAt_append hfit]

theorem eval_write (hhandle : x.handle = some .attached)
    (hf : f.contents = some (x.memory ++ rest)) (hfit : off + data.length ≤ x.memory.length) :
    (Call.write off data).op.eval (x.store f size) =
      (.ok (), Instance.store ⟨some .attached, x.memory.overwrite off data⟩
        { f with contents := some (x.memory.overwrite off data ++ rest) } size) := by
  show (FileStore.write off data).eval (x.store f size) = _
  unfold FileStore.write
  rw [Op.eval_bind_ok (Op.eval_read _), isOpen_store, if_pos (isOpen_of_attached hhandle),
    show (x.store f size).memory = x.memory from rfl, Bytes.put?, if_pos hfit,
    ← writeThrough_store hhandle hf hfit]
  rfl

theorem eval_erase (off : Nat) (hhandle : x.handle = some .attached)
    (hlen : x.memory.length = size) (hf : f.contents = some (x.memory ++ rest)) :
    (Call.erase off).op.eval (x.store f size) =
      (.ok (), Instance.store ⟨some .attached, List.replicate size Bytes.erased⟩
        { f with contents := some (List.replicate size Bytes.erased ++ rest) } size) := by
  have hall : (List.replicate size Bytes.erased).length = x.memory.length := by
    rw [List.length_replicate, hlen]
  rw [← Bytes.overwrite_whole hall]
  rw [← writeThrough_store hhandle hf (by omega)]
  show (FileStore.erase off).eval (x.store f size) = _
  unfold FileStore.erase
  rw [Op.eval_bind_ok (Op.eval_read _), isOpen_store, if_pos (isOpen_of_attached hhandle),
    Bytes.overwrite_whole hall, ← hlen]
  rfl

/-- A call that is refused: to a closed store, or past the end of the device. -/
def Refused (size : Nat) (x : Instance) : Call → Prop
  | .write off data => x.isOpen = false ∨ size < off + data.length
  | .erase _ => x.isOpen = false
  | .mount | .unmount => False

/-- What a call of the store `x` comes to, over a device that holds `b` and a file `f` that goes on
with `rest` behind it: the answer, and what becomes of store and file. -/
inductive CallStep (size : Nat) (b rest : Bytes) (x : Instance) (f : BackingFile) :
    Call → Except Fault Unit → Instance → BackingFile → Prop
  | mounted : CallStep size b rest x f .mount (.ok ()) ⟨some .attached, b⟩
      { f with contents := some (b ++ rest) }
  | unmounted : CallStep size b rest x f .unmount (.ok ()) ⟨none, x.memory⟩ f
  | refused {call : Call} {fault : Fault} (h : Refused size x call) :
      CallStep size b rest x f call (.error fault) x f
  | written {off : Nat} {data : Bytes} (ho : x.isOpen = true) (hfit : off + data.length ≤ size) :
      CallStep size b rest x f (.write off data) (.ok ()) ⟨some .attached, b.overwrite off data⟩
        { f with contents := some (b.overwrite off data ++ rest) }
  | erased {off : Nat} (ho : x.isOpen = true) :
      CallStep size b rest x f (.erase off) (.ok ())
        ⟨some .attached, List.replicate size Bytes.erased⟩
        { f with contents := some (List.replicate size Bytes.erased ++ rest) }

/-! ## Steps -/

/-- What holds of a file and its stores after the events `es`. -/
structure Inv (size : Nat) (original : Bytes) (es : List Event) (w : Shared) : Prop where
  place : w.file.place = .folder
  /-- Whoever opens the file finds what the device holds. -/
  loads : (w.file.contents.getD []).resize size Bytes.erased = held size original es
  behind : (w.file.contents.getD []).drop size = original.drop size
  mirror : ∀ {i : Nat} {x : Instance}, w.instances[i]? = some x → x.isOpen = true →
    x.handle = some .attached ∧ x.memory = held size original es ∧
      w.file.contents = some (held size original es ++ original.drop size)
  alone : ∀ {i j : Nat} {x y : Instance}, w.instances[i]? = some x → w.instances[j]? = some y →
    x.isOpen = true → y.isOpen = true → i = j

/-- Every call comes to one of these. -/
theorem Inv.eval_call (h : Inv size original es w) (hx : w.instances[i]? = some x) (call : Call) :
    ∃ r x' f, call.op.eval (x.store w.file size) = (r, x'.store f size) ∧
      CallStep size (held size original es) (original.drop size) x w.file call r x' f := by
  cases call with
  | mount => exact ⟨_, _, _, eval_mount x h.place h.loads h.behind, .mounted⟩
  | unmount => exact ⟨_, _, _, eval_unmount x w.file size, .unmounted⟩
  | write off data =>
    cases ho : x.isOpen with
    | false => exact ⟨_, _, _, eval_write_closed ho, .refused (.inl ho)⟩
    | true =>
      obtain ⟨hhandle, hmemory, hf⟩ := h.mirror hx ho
      have hlen : x.memory.length = size := by rw [hmemory, length_held]
      rw [← hmemory] at hf ⊢
      by_cases hfit : off + data.length ≤ size
      · exact ⟨_, _, _, eval_write hhandle hf (hlen.symm ▸ hfit), .written ho hfit⟩
      · exact ⟨_, _, _, eval_write_past ho (by omega), .refused (.inr (Nat.lt_of_not_le hfit))⟩
  | erase off =>
    cases ho : x.isOpen with
    | false => exact ⟨_, _, _, eval_erase_closed ho, .refused ho⟩
    | true =>
      obtain ⟨hhandle, hmemory, hf⟩ := h.mirror hx ho
      have hlen : x.memory.length = size := by rw [hmemory, length_held]
      exact ⟨_, _, _, eval_erase off hhandle hlen (hmemory ▸ hf), .erased ho⟩

theorem Inv.callStep {call : Call} (h : Inv size original es w)
    (hs : Step size w (.call i call r) w') :
    ∃ x x' f, w.instances[i]? = some x ∧ w' = ⟨f, w.instances.set i x'⟩ ∧
      (call = .mount → w.Only i) ∧
      CallStep size (held size original es) (original.drop size) x w.file call r x' f := by
  cases hs with
  | @call _ _ x x' f _ hx halone he =>
    obtain ⟨r', y, g, he', hc⟩ := h.eval_call hx call
    obtain ⟨rfl, hd⟩ := Prod.mk.inj (he.symm.trans he')
    obtain ⟨rfl, rfl⟩ := store_inj hd
    exact ⟨x, x', f, hx, rfl, halone, hc⟩

theorem inv_initial (hf : f.place = .folder) :
    Inv size (f.contents.getD []) [] ⟨f, []⟩ where
  place := hf
  loads := rfl
  behind := rfl
  mirror h := by cases h
  alone h := by cases h

theorem Inv.create (h : Inv size original es w)
    (hx : FileStore.create w.file size = x.store w.file size) :
    Inv size original (es ++ [.create]) { w with instances := w.instances ++ [x] } := by
  have hheld : held size original (es ++ [.create]) = held size original es := held_append es _
  have hclosed : x.isOpen = false := by
    obtain ⟨rfl, -⟩ := store_inj (x := ⟨none, []⟩) hx
    rfl
  -- an open store is one of those there were before
  have hold {i : Nat} {y : Instance} (hy : (w.instances ++ [x])[i]? = some y)
      (ho : y.isOpen = true) : w.instances[i]? = some y := by
    rw [List.getElem?_append] at hy
    split at hy
    · exact hy
    · have hmem := List.mem_of_getElem? hy
      rw [List.mem_singleton] at hmem
      rw [hmem, hclosed] at ho
      cases ho
  refine ⟨h.place, hheld ▸ h.loads, h.behind, fun hy ho => ?_, fun hy hz ho hp => ?_⟩
  · rw [hheld]
    exact h.mirror (hold hy ho) ho
  · exact h.alone (hold hy ho) (hold hz hp) ho hp

/-- After a call, a store is the one that was called, or it is as before. -/
theorem getElem?_set_cases {xs : List Instance} {j : Nat} (hy : (xs.set i x')[j]? = some y) :
    (j = i ∧ y = x') ∨ (j ≠ i ∧ xs[j]? = some y) := by
  rw [List.getElem?_set] at hy
  split at hy
  · next hij =>
    split at hy
    · cases hy
      exact .inl ⟨hij.symm, rfl⟩
    · cases hy
  · next hij => exact .inr ⟨fun he => hij he.symm, hy⟩

/-- A call that leaves file and memory alone. -/
theorem Inv.quiet (h : Inv size original es w) (hx : w.instances[i]? = some x)
    (hopen : x'.isOpen = true → x' = x) (hheld : e.apply size (held size original es) =
      held size original es) :
    Inv size original (es ++ [e]) ⟨w.file, w.instances.set i x'⟩ := by
  have hsame : held size original (es ++ [e]) = held size original es :=
    (held_append es e).trans hheld
  have hold {j : Nat} {y : Instance} (hy : (w.instances.set i x')[j]? = some y)
      (ho : y.isOpen = true) : w.instances[j]? = some y := by
    rcases getElem?_set_cases hy with ⟨rfl, rfl⟩ | ⟨-, hy⟩
    · rw [hx, hopen ho]
    · exact hy
  refine ⟨h.place, hsame ▸ h.loads, h.behind, fun hy ho => ?_, fun hy hz ho hp => ?_⟩
  · rw [hsame]
    exact h.mirror (hold hy ho) ho
  · exact h.alone (hold hy ho) (hold hz hp) ho hp

/-- A call after which the store is open, and no other one is. -/
theorem inv_of_opened (hplace : f.place = .folder) (halone : w.Only i)
    (hhandle : x'.handle = some .attached)
    (hmemory : x'.memory = e.apply size (held size original es))
    (hf : f.contents = some (e.apply size (held size original es) ++ original.drop size)) :
    Inv size original (es ++ [e]) ⟨f, w.instances.set i x'⟩ := by
  rw [← held_append] at hmemory hf
  have hlen : (held size original (es ++ [e])).length = size := length_held _
  have hdrop : (held size original (es ++ [e]) ++ original.drop size).drop size =
      original.drop size := by
    rw [List.drop_append_of_le_length (by omega), List.drop_of_length_le (by omega),
      List.nil_append]
  have honly {j : Nat} {y : Instance} (hy : (w.instances.set i x')[j]? = some y)
      (ho : y.isOpen = true) : j = i ∧ y = x' := by
    rcases getElem?_set_cases hy with hi | ⟨hne, hy⟩
    · exact hi
    · exact absurd (halone j y hy ho) hne
  refine ⟨hplace, ?_, ?_, fun hy ho => ?_, fun hy hz ho hp => ?_⟩
  · show (f.contents.getD []).resize size Bytes.erased = _
    rw [hf]
    exact Bytes.resize_append hlen
  · show (f.contents.getD []).drop size = _
    rw [hf]
    exact hdrop
  · obtain ⟨-, rfl⟩ := honly hy ho
    exact ⟨hhandle, hmemory, hf⟩
  · rw [(honly hy ho).1, (honly hz hp).1]

theorem Event.apply_error {b : Bytes} {call : Call} {fault : Fault} :
    Event.apply size b (.call i call (.error fault)) = b := by
  cases call <;> rfl

theorem Inv.step (h : Inv size original es w) (hs : Step size w e w') :
    Inv size original (es ++ [e]) w' := by
  cases e with
  | create =>
    cases hs with
    | create hx => exact h.create hx
  | call i call r =>
    obtain ⟨x, x', f, hx, rfl, halone, hc⟩ := h.callStep hs
    -- while the store is open, no other one is
    have hothers (ho : x.isOpen = true) : w.Only i := fun j y hy hp => h.alone hy hx hp ho
    cases hc with
    | mounted => exact inv_of_opened h.place (halone rfl) rfl rfl rfl
    | unmounted => exact h.quiet hx (fun ho => by cases ho) rfl
    | refused => exact h.quiet hx (fun _ => rfl) Event.apply_error
    | written ho => exact inv_of_opened h.place (hothers ho) rfl rfl rfl
    | erased ho => exact inv_of_opened h.place (hothers ho) rfl rfl rfl

theorem inv_of_run (hf : f.place = .folder) (hrun : Run (Step size) ⟨f, []⟩ es w) :
    Inv size (f.contents.getD []) es w :=
  hrun.invariant (inv_initial hf) fun h hs => h.step hs

/-! ## Restarts -/

/-- No store is open. -/
def Closed (w : Shared) : Prop := ∀ x ∈ w.instances, x.isOpen = false

/-- The event opens no store. -/
def Event.Quiet : Event → Prop
  | .call _ .mount _ => False
  | _ => True

theorem Closed.only (h : Closed w) (i : Nat) : w.Only i := by
  intro j y hy ho
  rw [h y (List.mem_of_getElem? hy)] at ho
  cases ho

/-- Without an open store, nothing is written. -/
theorem Closed.step (h : Closed w) (hinv : Inv size original es w) (hs : Step size w e w')
    (hq : e.Quiet) : Closed w' ∧ held size original (es ++ [e]) = held size original es := by
  rw [held_append]
  cases e with
  | create =>
    cases hs with
    | @create x hx =>
      obtain ⟨rfl, -⟩ := store_inj (x := ⟨none, []⟩) hx
      refine ⟨fun y hy => ?_, rfl⟩
      rcases List.mem_append.mp hy with hy | hy
      · exact h y hy
      · rw [List.mem_singleton.mp hy]
        rfl
  | call i call r =>
    obtain ⟨x, x', f, hx, rfl, -, hc⟩ := hinv.callStep hs
    have hclosed : x.isOpen = false := h x (List.mem_of_getElem? hx)
    have hset (hx' : x'.isOpen = false) : Closed ⟨f, w.instances.set i x'⟩ := by
      intro y hy
      rcases List.mem_or_eq_of_mem_set hy with hy | rfl
      · exact h y hy
      · exact hx'
    cases hc with
    | mounted => exact hq.elim
    | unmounted => exact ⟨hset rfl, rfl⟩
    | refused => exact ⟨hset hclosed, Event.apply_error⟩
    | written ho | erased ho =>
      rw [hclosed] at ho
      cases ho

theorem Closed.held_run {fs : List Event} (h : Closed w) (hinv : Inv size original es w)
    (hrun : Run (Step size) w fs w') (hq : ∀ e ∈ fs, e.Quiet) :
    held size original (es ++ fs) = held size original es := by
  refine (hrun.invariant (I := fun fs w => (∀ e ∈ fs, e.Quiet) →
    Inv size original (es ++ fs) w ∧ Closed w ∧
      held size original (es ++ fs) = held size original es)
    (fun _ => by rw [List.append_nil]; exact ⟨hinv, h, rfl⟩) ?_ hq).2.2
  intro fs t e u ih hs hq
  obtain ⟨ht, hclosed, hsame⟩ := ih fun e he => hq e (List.mem_append_left _ he)
  obtain ⟨hu, hnext⟩ :=
    hclosed.step ht hs (hq e (List.mem_append_right _ (List.mem_singleton_self e)))
  rw [← List.append_assoc]
  exact ⟨ht.step hs, hu, hnext.trans hsame⟩

/-- Closing the open store leaves none open. -/
theorem Inv.closed_of_unmount (h : Inv size original es w) (hx : w.instances[i]? = some x)
    (ho : x.isOpen = true) (hs : Step size w (.call i .unmount r) w') : Closed w' := by
  obtain ⟨z, x', f, hz, rfl, -, hc⟩ := h.callStep hs
  have hx' : x'.isOpen = false := by
    cases hc with
    | unmounted => rfl
    | refused href => exact href.elim
  intro y hy
  obtain ⟨j, hj⟩ := List.getElem?_of_mem hy
  rcases getElem?_set_cases hj with ⟨-, rfl⟩ | ⟨hne, hj⟩
  · exact hx'
  · exact Bool.eq_false_iff.mpr fun hp => hne (h.alone hj hx hp ho)

/-- A store that is opened is open, and answers so. -/
theorem Inv.mounted (h : Inv size original es w) (hs : Step size w (.call i .mount r) w') :
    r = .ok () ∧ ∃ y, w'.instances[i]? = some y ∧ y.isOpen = true := by
  obtain ⟨x, x', f, hx, rfl, -, hc⟩ := h.callStep hs
  have hget : (w.instances.set i x')[i]? = some x' :=
    List.getElem?_set_self (List.getElem?_eq_some_iff.mp hx).1
  cases hc with
  | mounted => exact ⟨rfl, _, hget, rfl⟩
  | refused href => exact href.elim

/-! ## What was never written -/

/-- The event writes the byte `n`. -/
def Event.Writes (n : Nat) : Event → Prop
  | .call _ (.write off data) (.ok ()) => off ≤ n ∧ n < off + data.length
  | _ => False

/-- A byte that the file did not have and no call wrote is erased. -/
theorem getElem?_held {n : Nat} (hold : original.length ≤ n) (hn : n < size)
    (hes : ∀ e ∈ es, ¬ e.Writes n) : (held size original es)[n]? = some Bytes.erased := by
  have hfold (b : Bytes) (hb : b[n]? = some Bytes.erased) :
      (es.foldl (Event.apply size) b)[n]? = some Bytes.erased := by
    induction es generalizing b with
    | nil => exact hb
    | cons e es ih =>
      refine ih (fun e he => hes e (List.mem_cons_of_mem _ he)) _ ?_
      have he := hes e List.mem_cons_self
      unfold Event.apply
      split
      · rw [Bytes.getElem?_overwrite, if_neg fun hin => he ⟨hin.1, hin.2.1⟩]
        exact hb
      · rw [List.getElem?_replicate, if_pos hn]
      · exact hb
  exact hfold _ (Bytes.getElem?_resize_of_le hold hn)

/-! ## The contract -/

/-- The byte `n` was in the file from the start, or a call wrote it. -/
def Touched (original : Bytes) (es : List Event) (n : Nat) : Prop :=
  n < original.length ∨ ∃ e ∈ es, e.Writes n

/-- Reading a store answers from the bytes `b`, and refuses what lies beyond them. -/
structure Reads (b : Bytes) (d : FileStore) : Prop where
  bytesFrom : ∀ off, NonVolatile.bytesFrom off d =
    if off ≤ b.length then .ok (b.drop off)
    else .error (.storageError "address beyond the device")
  dwordAt : ∀ off, NonVolatile.dwordAt off d =
    if off + 4 ≤ b.length then .ok (b.dword off)
    else .error (.storageError "read beyond the device")

/-- What the application can rely on after the events `es`. -/
structure Persistent (size : Nat) (original : Bytes) (es : List Event) (w : Shared) : Prop where
  /-- An open store has the bytes of the device in memory and reads them, and the file begins
  with them. -/
  mirror : ∀ {i : Nat} {x : Instance}, w.instances[i]? = some x → x.isOpen = true →
    x.memory.length = size ∧ x.memory = held size original es ∧
      Reads x.memory (x.store w.file size) ∧
      ∃ contents, w.file.contents = some contents ∧ contents.take size = x.memory
  beyond : (w.file.contents.getD []).drop size = original.drop size
  /-- Every call that is due gives an answer. -/
  answered : ∀ {i : Nat} {x : Instance} (call : Call), w.instances[i]? = some x →
    (call = .mount → w.Only i) → ∃ r w', Step size w (.call i call r) w'
  /-- A call that need not be refused succeeds. -/
  granted : ∀ {i : Nat} {x : Instance} {call : Call} {r : Except Fault Unit} {w' : Shared},
    w.instances[i]? = some x → ¬ Refused size x call → Step size w (.call i call r) w' → r = .ok ()
  refused : ∀ {i : Nat} {x : Instance} {call : Call} {r : Except Fault Unit} {w' : Shared},
    w.instances[i]? = some x → Refused size x call → Step size w (.call i call r) w' →
    (∃ fault, r = .error fault) ∧ w' = w
  /-- After closing a store and whatever comes until one is opened, that one reads the same. -/
  survives : ∀ {i j : Nat} {x : Instance} {r r' : Except Fault Unit} {fs : List Event}
    {w₁ w₂ w₃ : Shared}, w.instances[i]? = some x → x.isOpen = true →
    Step size w (.call i .unmount r) w₁ → Run (Step size) w₁ fs w₂ → (∀ e ∈ fs, e.Quiet) →
    Step size w₂ (.call j .mount r') w₃ →
    r' = .ok () ∧ ∃ y, w₃.instances[j]? = some y ∧ y.isOpen = true ∧ ∀ off,
      NonVolatile.dwordAt off (y.store w₃.file size) =
        NonVolatile.dwordAt off (x.store w.file size) ∧
      NonVolatile.bytesFrom off (y.store w₃.file size) =
        NonVolatile.bytesFrom off (x.store w.file size)
  /-- A byte nobody touched reads as erased, wherever reading starts and in every word it is of. -/
  blank : ∀ {i n : Nat} {x : Instance}, w.instances[i]? = some x → x.isOpen = true →
    n < size → ¬ Touched original es n →
    (∀ off ≤ n, ∃ bytes, NonVolatile.bytesFrom off (x.store w.file size) = .ok bytes ∧
      bytes[n - off]? = some Bytes.erased) ∧
    ∀ off ≤ n, n < off + 4 → off + 4 ≤ size →
      ∃ word, NonVolatile.dwordAt off (x.store w.file size) = .ok word ∧
        (Bytes.littleEndian 4 word.toNat)[n - off]? = some Bytes.erased

theorem Inv.answered (h : Inv size original es w) (call : Call) (hx : w.instances[i]? = some x)
    (halone : call = .mount → w.Only i) : ∃ r w', Step size w (.call i call r) w' := by
  obtain ⟨r, x', f, he, -⟩ := h.eval_call hx call
  exact ⟨r, _, .call hx halone he⟩

/-- A call that is refused changes nothing. -/
theorem Inv.refused {call : Call} (h : Inv size original es w) (hx : w.instances[i]? = some x)
    (href : Refused size x call) (hs : Step size w (.call i call r) w') :
    (∃ fault, r = .error fault) ∧ w' = w := by
  obtain ⟨z, x', f, hz, rfl, -, hc⟩ := h.callStep hs
  cases hx.symm.trans hz
  cases hc with
  | mounted | unmounted => exact href.elim
  | refused =>
    obtain ⟨hi, rfl⟩ := List.getElem?_eq_some_iff.mp hx
    rw [List.set_getElem_self]
    exact ⟨⟨_, rfl⟩, rfl⟩
  | written ho hfit =>
    rcases href with hclosed | hpast
    · exact absurd (ho.symm.trans hclosed) (by decide)
    · exact absurd hfit (Nat.not_le.mpr hpast)
  | erased ho => exact absurd (ho.symm.trans href) (by decide)

/-- A call that need not be refused succeeds. -/
theorem Inv.granted {call : Call} (h : Inv size original es w) (hx : w.instances[i]? = some x)
    (hdue : ¬ Refused size x call) (hs : Step size w (.call i call r) w') : r = .ok () := by
  obtain ⟨z, x', f, hz, rfl, -, hc⟩ := h.callStep hs
  cases hx.symm.trans hz
  cases hc with
  | mounted | unmounted | written | erased => rfl
  | refused href => exact absurd href hdue

/-- Reading answers from the memory. -/
theorem reads_memory (x : Instance) (f : BackingFile) (size : Nat) :
    Reads x.memory (x.store f size) where
  bytesFrom off := rfl
  dwordAt off := by
    show FileStore.dwordAt off (x.store f size) = _
    unfold FileStore.dwordAt
    rw [show (x.store f size).memory = x.memory from rfl, Bytes.slice?]
    by_cases hfit : off + 4 ≤ x.memory.length
    · rw [if_pos hfit, if_pos hfit]
      rfl
    · rw [if_neg hfit, if_neg hfit]

/-- A byte of what is read from an offset. -/
theorem Reads.getElem?_bytesFrom {b : Bytes} {d : FileStore} {n : Nat} {v : UInt8} (h : Reads b d)
    (hn : b[n]? = some v) (hoff : off ≤ n) :
    ∃ bytes, NonVolatile.bytesFrom off d = .ok bytes ∧ bytes[n - off]? = some v := by
  have hlt : n < b.length := (List.getElem?_eq_some_iff.mp hn).1
  refine ⟨b.drop off, by rw [h.bytesFrom, if_pos (by omega)], ?_⟩
  rw [List.getElem?_drop, Nat.add_sub_cancel' hoff]
  exact hn

/-- A byte of a double word that is read. -/
theorem Reads.getElem?_dwordAt {b : Bytes} {d : FileStore} {n : Nat} {v : UInt8} (h : Reads b d)
    (hn : b[n]? = some v) (hoff : off ≤ n) (hlt : n < off + 4) (hfit : off + 4 ≤ b.length) :
    ∃ word, NonVolatile.dwordAt off d = .ok word ∧
      (Bytes.littleEndian 4 word.toNat)[n - off]? = some v := by
  refine ⟨b.dword off, by rw [h.dwordAt, if_pos hfit], ?_⟩
  have hslice := Bytes.dwordAt_eq_ok.mp (Bytes.dwordAt_of_le hfit)
  rw [Bytes.slice?, if_pos hfit, Option.some_inj] at hslice
  rw [← hslice, List.getElem?_take_of_lt (by omega), List.getElem?_drop,
    Nat.add_sub_cancel' hoff]
  exact hn

/-- Two stores that read the same bytes answer alike. -/
theorem Reads.unique {b : Bytes} {d d' : FileStore} (h : Reads b d) (h' : Reads b d') (off : Nat) :
    NonVolatile.dwordAt off d = NonVolatile.dwordAt off d' ∧
      NonVolatile.bytesFrom off d = NonVolatile.bytesFrom off d' :=
  ⟨(h.dwordAt off).trans (h'.dwordAt off).symm, (h.bytesFrom off).trans (h'.bytesFrom off).symm⟩

/-- Whatever is called, file and memory agree, and stay what they were across restarts. -/
theorem persistent_of_run (hf : f.place = .folder) (hrun : Run (Step size) ⟨f, []⟩ es w) :
    Persistent size (f.contents.getD []) es w := by
  have h := inv_of_run hf hrun
  have hlen : (held size (f.contents.getD []) es).length = size := length_held es
  refine ⟨?_, h.behind, h.answered, h.granted, h.refused, ?_, ?_⟩
  · intro i x hx ho
    obtain ⟨-, hmemory, hcontents⟩ := h.mirror hx ho
    refine ⟨?_, hmemory, reads_memory x w.file size, _, hcontents, ?_⟩
    · rw [hmemory, hlen]
    · rw [hmemory, List.take_left' hlen]
  · intro i j x r r' fs w₁ w₂ w₃ hx ho hclose hquiet hfs hopen
    have hclosed := h.closed_of_unmount hx ho hclose
    have hrun₂ := (hrun.next hclose).trans hquiet
    obtain ⟨hr, y, hy, hp⟩ := (inv_of_run hf hrun₂).mounted hopen
    have hmemory := ((inv_of_run hf (hrun₂.next hopen)).mirror hy hp).2.1
    -- neither closing nor opening writes, and in between nobody can
    have hsame : y.memory = x.memory := by
      rw [hmemory, held_append, (h.mirror hx ho).2.1]
      exact (hclosed.held_run (h.step hclose) hquiet hfs).trans (held_append _ _)
    exact ⟨hr, y, hy, hp, (hsame ▸ reads_memory y w₃.file size).unique (reads_memory x w.file size)⟩
  · intro i n x hx ho hn huntouched
    have hmemory := (h.mirror hx ho).2.1
    have herased : x.memory[n]? = some Bytes.erased := by
      rw [hmemory]
      exact getElem?_held (Nat.le_of_not_lt fun hlt => huntouched (.inl hlt)) hn
        fun e he hw => huntouched (.inr ⟨e, he, hw⟩)
    have hreads := reads_memory x w.file size
    refine ⟨fun off hoff => hreads.getElem?_bytesFrom herased hoff, fun off hoff hlt hfit => ?_⟩
    exact hreads.getElem?_dwordAt herased hoff hlt (by rw [hmemory, hlen]; exact hfit)

theorem persistent_of_run_two_stores :
    let f : BackingFile := ⟨"device", .folder, some [1, 2, 3]⟩
    let g : BackingFile := ⟨"device", .folder, some [1, 2, 10, 11, 255, 255]⟩
    let es : List Event := [.create, .create, .call 0 .mount (.ok ()),
      .call 0 (.write 2 [10, 11]) (.ok ()),
      .call 0 (.write 5 [12, 13]) (.error (.storageError "write beyond the device")),
      .call 0 .unmount (.ok ()), .call 1 .mount (.ok ())]
    let w : Shared := ⟨g, [⟨none, [1, 2, 10, 11, 255, 255]⟩,
      ⟨some .attached, [1, 2, 10, 11, 255, 255]⟩]⟩
    f.place = .folder ∧ Run (Step 6) ⟨f, []⟩ es w ∧ Persistent 6 (f.contents.getD []) es w := by
  intro f g es w
  let x : Instance := ⟨none, []⟩
  let y : Instance := ⟨some .attached, [1, 2, 3, 255, 255, 255]⟩
  let z : Instance := ⟨some .attached, [1, 2, 10, 11, 255, 255]⟩
  have hcreate : Run (Step 6) ⟨f, []⟩ [.create, .create] ⟨f, [x, x]⟩ :=
    .next (.one (.create rfl)) (.create (x := x) rfl)
  have hmount : Step 6 ⟨f, [x, x]⟩ (.call 0 .mount (.ok ()))
      ⟨{ f with contents := some y.memory }, [y, x]⟩ :=
    .call rfl (fun _ => Closed.only (by unfold Closed; decide) 0) rfl
  have hwrite : Step 6 ⟨{ f with contents := some y.memory }, [y, x]⟩
      (.call 0 (.write 2 [10, 11]) (.ok ())) ⟨g, [z, x]⟩ := .call rfl (fun h => by cases h) rfl
  have hpast : Step 6 ⟨g, [z, x]⟩
      (.call 0 (.write 5 [12, 13]) (.error (.storageError "write beyond the device")))
      ⟨g, [z, x]⟩ := .call rfl (fun h => by cases h) rfl
  have hclose : Step 6 ⟨g, [z, x]⟩ (.call 0 .unmount (.ok ())) ⟨g, [⟨none, z.memory⟩, x]⟩ :=
    .call rfl (fun h => by cases h) rfl
  have hreopen : Step 6 ⟨g, [⟨none, z.memory⟩, x]⟩ (.call 1 .mount (.ok ())) w :=
    .call rfl (fun _ => Closed.only (by unfold Closed; decide) 1) rfl
  have hrun : Run (Step 6) ⟨f, []⟩ es w :=
    ((((hcreate.next hmount).next hwrite).next hpast).next hclose).next hreopen
  exact ⟨rfl, hrun, persistent_of_run rfl hrun⟩

end Sessions

end SlimInterface
