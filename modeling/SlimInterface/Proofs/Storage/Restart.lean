import Mathlib.Algebra.Group.Nat.Defs
import SlimInterface.Proofs.Storage.Completion
import SlimInterface.Proofs.Storage.Mirror

/-!
# Parameter sets across restarts

A set that was stored on a device kept in a file is there again after a restart. The encoder
is spread over many calls: erasing, two steps for the header, one for each piece of eight
bytes, and one that finishes. `RoundTrip` says that this is how it goes, and that what is read
back is the set, before and after a restart, with nothing behind it on the device;
`roundTrip_of_idle` is the proof for a store with nothing under way.

A second store over the first marks the image instead of writing. `Marked` is the state that
leaves, and neither storing nor restarting gets out of it. It is idle, though: erasing the
device makes room for the next round trip. `restored_across_restarts` puts the two together.
-/

namespace SlimInterface

namespace StoredImage

variable {δ : Type} [NonVolatile δ] [LawfulDevice δ] {d : δ}

/-- An image that is marked is not used. -/
theorem find_eq_invalid (h : imageLayout.dataOffset ≤ (LawfulDevice.contents d).length)
    (hm : (LawfulDevice.contents d).dword imageLayout.magicOffset = imageLayout.magic)
    (hs : (LawfulDevice.contents d).dword imageLayout.stateOffset = imageLayout.invalid) :
    find d = .invalid := by
  unfold find
  rw [if_pos ((hasMagic_iff h).mpr hm), dwordAt_eq h (by decide)]
  dsimp only
  rw [if_pos hs]

end StoredImage

namespace ParameterStore

variable {δ ω : Type} [NonVolatile δ] [LawfulDevice δ] {s : ParameterStore δ ω} {p : Bytes}

/-- A device that carries the magic word is marked, whether it has room for the set or not. -/
theorem eval_process_occupied (h : s.Roomy []) (hs : s.phase = .start)
    (hm : s.view.bytes.dword imageLayout.magicOffset = imageLayout.magic)
    (ha : StoreView.Admissible p) :
    ∃ t, (process p).eval s = (.ok .notApplicable, t) ∧
      t.view = s.view.putWord imageLayout.stateOffset imageLayout.invalid := by
  obtain ⟨d, hput, -, hbytes⟩ := eval_putWord h imageLayout.stateOffset imageLayout.invalid
    (by decide)
  have hmagic : StoredImage.hasMagic s.device = true :=
    (StoredImage.hasMagic_iff (Nat.le_trans (Nat.le_add_right _ _) h.fits)).mpr hm
  have hbegin : (begin p).eval s = (.ok .notApplicable, { s with device := d }) := by
    unfold begin
    rw [Op.eval_bind_ok (Op.eval_read _), if_pos hmagic, Op.eval_bind_ok hput,
      Op.eval_bind_ok (Op.eval_log _ _), Op.eval_pure]
  refine ⟨{ s with device := d }, eval_posting_ok ?_, ?_⟩
  · unfold step
    rw [← hbegin, if_neg fun hr => StoreView.refused_iff.mp hr ha,
      Op.eval_bind_ok (Op.eval_read _), hs]
  · unfold view
    rw [hbytes]
    rfl

omit [LawfulDevice δ] in
/-- A set that cannot be stored at all is refused, and an incident posted. -/
theorem eval_process_refused (ha : ¬ StoreView.Admissible p) :
    ∃ tally world, (process p).eval s = (.error .invalidParameter, { s with tally, world }) := by
  apply eval_posting_error
  unfold step
  rw [if_pos (StoreView.refused_iff.mpr ha), Op.eval_fail]

omit [LawfulDevice δ] in
/-- A device that could be opened is that of the new store. -/
theorem eval_mount_ok {d d' : δ} {handler : IncidentHandler ω} {w : ω}
    (h : (NonVolatile.mount : Op δ Unit).eval d = (.ok (), d')) :
    mount.eval (fresh d handler w) = (.ok (), fresh d' handler w) := by
  apply eval_posting_ok
  unfold onDevice
  rw [Op.eval_within, Op.eval_reporting]
  show ((((NonVolatile.mount : Op δ Unit).eval d).1).mapError id,
    fresh ((NonVolatile.mount : Op δ Unit).eval d).2 handler w) = _
  rw [h]
  rfl

end ParameterStore

/-! ## What a step leaves of the device -/

namespace StoreStep

variable {p : Bytes} {v v' : StoreView} {r : Except Fault StoreProgress}

/-- Behind the set no step writes. -/
theorem drop_bytes (hs : StoreStep p v r v') (h : v.Placed) :
    v'.bytes.drop (imageLayout.dataOffset + p.length) =
      v.bytes.drop (imageLayout.dataOffset + p.length) := by
  have hword {u : StoreView} {off : Nat} {word : UInt32} (hoff : off + 4 ≤ imageLayout.dataOffset) :
      (u.putWord off word).bytes.drop (imageLayout.dataOffset + p.length) =
        u.bytes.drop (imageLayout.dataOffset + p.length) :=
    Bytes.drop_overwrite (by rw [Bytes.length_littleEndian]; omega)
  cases hs with
  | refused | unsummable | overrun | finished => rfl
  | occupied | summed => exact hword (by decide)
  | begun => exact (hword (by decide)).trans (hword (by decide))
  | written hs hw =>
    have hlen := Storing.length_chunk (p := p) (v := v)
    have hpos := h hs
    exact Bytes.drop_overwrite (by omega)

end StoreStep

namespace Restarting

variable {ω : Type} {size : Nat} {p : Bytes} {s t : ParameterStore FileStore ω}

/-! ## Sessions -/

/-- What happens to a store over a file. -/
inductive Event
  | process (set : Bytes) (answer : Except Fault StoreProgress)
  | restart (answer : Except Fault Unit)

/-- Steps of storing, and restarts. A restart opens the file of the store for a new one of the
same size; the old one was closed before, or it just stopped. -/
inductive Step (s : ParameterStore FileStore ω) : Event → ParameterStore FileStore ω → Prop
  | process {set : Bytes} {r : Except Fault StoreProgress} {t : ParameterStore FileStore ω}
      (h : (ParameterStore.process set).eval s = (r, t)) : Step s (.process set r) t
  | restart {old : ParameterStore FileStore ω} {handler : IncidentHandler ω} {w : ω}
      {r : Except Fault Unit} {t : ParameterStore FileStore ω}
      (hclose : old = s ∨ ParameterStore.unmount.eval s = (.ok (), old))
      (hopen : ParameterStore.mount.eval (ParameterStore.fresh
        (FileStore.create old.device.file old.device.size) handler w) = (r, t)) :
      Step s (.restart r) t

/-- A set that can be stored on a device of a size. -/
structure Storable (size : Nat) (p : Bytes) : Prop where
  nonempty : p ≠ []
  length_lt : p.length < 2 ^ 32 - 16
  fits : imageLayout.dataOffset + p.length ≤ size
  summable : checksum 0 p ≠ 0

theorem Storable.admissible (h : Storable size p) : StoreView.Admissible p :=
  ⟨h.nonempty, by have := h.length_lt; omega⟩

theorem Storable.words (h : Storable size p) : imageLayout.dataOffset + p.length < 2 ^ 32 := by
  have hsixteen : imageLayout.dataOffset = 16 := rfl
  have := h.length_lt
  omega

/-- From `s`, the set is stored step by step, and `u` is the store that finished: the set is
read back, also after a restart, and the device is erased behind it. -/
structure RoundTrip (size : Nat) (p : Bytes) (s u : ParameterStore FileStore ω) : Prop where
  stored : ∃ t v, ParameterStore.prepare.eval s = (.ok (), t) ∧
    Run (Storing.Step p) t (List.replicate (2 + (p.length + 7) / 8) (.process (.ok .busy))) v ∧
    v.Returns p (.ok .finished) u
  image : (ParameterStore.image.eval u).1 = .ok (some p)
  erased : NonVolatile.bytesFrom (imageLayout.dataOffset + p.length) u.device =
    .ok (List.replicate (size - (imageLayout.dataOffset + p.length)) Bytes.erased)
  restarted : ∀ r v, Step u (.restart r) v →
    r = .ok () ∧ (ParameterStore.image.eval v).1 = .ok (some p)

/-! ## Idle stores -/

/-- The file of the store agrees with its device, and nothing is under way. -/
structure Idle (size : Nat) (s : ParameterStore FileStore ω) : Prop where
  kept : s.device.Kept size
  phase : s.phase = .start

theorem keeps_onDevice {α : Type} {op : Op FileStore α} (h : op.Keeps (FileStore.Kept size)) :
    (ParameterStore.onDevice op : Op (ParameterStore FileStore ω) α).Keeps fun s =>
      s.device.Kept size :=
  h.within (fun _ ht => ht) fun _ _ hs _ => hs

theorem keeps_posting {α : Type} {op : Op (ParameterStore FileStore ω) α}
    (h : op.Keeps fun s => s.device.Kept size) :
    (ParameterStore.posting op).Keeps fun s => s.device.Kept size := by
  refine h.attempt.bind fun r => Op.keeps_read.bind fun s => ?_
  exact Op.Keeps.within (P := fun _ => True) (fun _ _ => trivial) (fun _ _ => trivial)
    fun _ _ _ ht => ht

theorem keeps_putWord (off : Nat) (word : UInt32) :
    (ParameterStore.putWord off word : Op (ParameterStore FileStore ω) Unit).Keeps fun s =>
      s.device.Kept size :=
  keeps_onDevice (FileStore.keeps_write _ _)

/-- No step of storing parts the file from the device. -/
theorem keeps_process (set : Bytes) :
    (ParameterStore.process set : Op (ParameterStore FileStore ω) StoreProgress).Keeps fun s =>
      s.device.Kept size := by
  apply keeps_posting
  unfold ParameterStore.step
  by_cases ha : set.isEmpty ∨ UInt32.size - 1 ≤ set.length
  · rw [if_pos ha]
    exact Op.keeps_fail _
  · rw [if_neg ha]
    refine Op.keeps_read.bind fun s => ?_
    cases s.phase with
    | start =>
      refine Op.keeps_read.bind fun s => ?_
      by_cases hm : StoredImage.hasMagic s.device = true
      · rw [if_pos hm]
        exact (keeps_putWord _ _).bind fun _ => (Op.keeps_log _).bind fun _ => Op.keeps_pure _
      · rw [if_neg hm]
        exact (Op.keeps_log _).bind fun _ => Op.Keeps.bind (Op.keeps_update fun _ h => h) fun _ =>
          (keeps_putWord _ _).bind fun _ => (keeps_putWord _ _).bind fun _ =>
            Op.Keeps.bind (Op.keeps_update fun _ h => h) fun _ => Op.keeps_pure _
    | addChecksum =>
      show Op.Keeps _ (ParameterStore.addChecksum set)
      unfold ParameterStore.addChecksum
      dsimp only
      by_cases hz : checksum 0 set = 0
      · rw [if_pos hz]
        exact (Op.keeps_log _).bind fun _ => Op.keeps_fail _
      · rw [if_neg hz]
        exact (keeps_putWord _ _).bind fun _ =>
          Op.Keeps.bind (Op.keeps_update fun _ h => h) fun _ => Op.keeps_pure _
    | writeData =>
      refine Op.keeps_read.bind fun s => ?_
      by_cases hw : set.length ≤ s.written
      · rw [if_pos hw]
        exact (Op.keeps_log _).bind fun _ => Op.keeps_fail _
      · rw [if_neg hw]
        exact (keeps_onDevice (FileStore.keeps_write _ _)).bind fun _ =>
          Op.Keeps.bind (Op.keeps_update fun _ h => h) fun _ => Op.keeps_pure _
    | finish =>
      exact Op.Keeps.bind (Op.keeps_update fun _ h => h) fun _ => (Op.keeps_log _).bind fun _ =>
        Op.keeps_pure _

/-- A restart finds the device as it was left, and has nothing to do with the store before. -/
theorem restart_eq {r : Except Fault Unit} (h : s.device.Kept size) (hs : Step s (.restart r) t) :
    r = .ok () ∧ t.device = s.device ∧ t.phase = .start := by
  cases hs with
  | @restart old handler w _ _ hclose hopen =>
    have hdevice : FileStore.create old.device.file old.device.size =
        FileStore.create s.device.file s.device.size := by
      rcases hclose with rfl | hclose
      · rfl
      · unfold ParameterStore.unmount ParameterStore.onDevice at hclose
        rw [Op.eval_within] at hclose
        have hunmount : (NonVolatile.unmount : Op FileStore Unit).eval s.device =
            (.ok (), { s.device with handle := none }) := by
          show FileStore.unmount.eval s.device = _
          unfold FileStore.unmount
          rw [Op.eval_bind_ok (Op.eval_read _), if_pos h.1.isOpen]
          rfl
        rw [hunmount] at hclose
        cases hclose
        rfl
    have hmount := FileStore.eval_mount_of_mirrored h.1
    rw [hdevice, ParameterStore.eval_mount_ok hmount] at hopen
    cases hopen
    exact ⟨rfl, rfl, rfl⟩

/-- A store can be restarted at any time. -/
theorem exists_restart (s : ParameterStore FileStore ω) : ∃ r t, Step s (.restart r) t := by
  rcases hopen : ParameterStore.mount.eval (ParameterStore.fresh
    (FileStore.create s.device.file s.device.size) s.incidents s.world) with ⟨r, t⟩
  exact ⟨r, t, .restart (.inl rfl) hopen⟩

/-- Opening a store over any file leaves it idle. -/
theorem exists_mount {f : BackingFile} (hf : f.place = .folder) (size : Nat)
    (handler : IncidentHandler ω) (w : ω) :
    ∃ s, ParameterStore.mount.eval (ParameterStore.fresh (FileStore.create f size) handler w) =
      (.ok (), s) ∧ Idle size s := by
  obtain ⟨d, hmount, hkept⟩ := FileStore.eval_mount size hf
  exact ⟨_, ParameterStore.eval_mount_ok hmount, hkept, rfl⟩

/-! ## Round trips -/

/-- A store on the way to finish `p` on an erased device. -/
structure Underway (size : Nat) (p : Bytes) (es : List Storing.Event)
    (s : ParameterStore FileStore ω) : Prop where
  sound : Storing.Sound p es s
  kept : s.device.Kept size
  erased : s.device.memory.drop (imageLayout.dataOffset + p.length) =
    List.replicate (size - (imageLayout.dataOffset + p.length)) Bytes.erased

theorem eval_prepare (h : s.device.Kept size) :
    ∃ t, ParameterStore.prepare.eval s = (.ok (), t) ∧ t.device.Kept size ∧
      t.device.memory = List.replicate size Bytes.erased ∧ t.phase = s.phase := by
  obtain ⟨d, heval, hkept, hmemory⟩ := FileStore.eval_erase h imageLayout.magicOffset
  have herase : (ParameterStore.onDevice (NonVolatile.erase imageLayout.magicOffset)).eval s =
      (.ok (), { s with device := d }) :=
    Op.eval_within_of heval
  exact ⟨_, ParameterStore.eval_posting_ok herase, hkept, hmemory, rfl⟩

theorem Underway.step {es : List Storing.Event} {e : Storing.Event} (h : Underway size p es s)
    (hs : Storing.Step p s e t) : Underway size p (es ++ [e]) t := by
  have hsound := h.sound.step hs
  cases hs with
  | prepare he =>
    obtain ⟨t', heval, hkept, hmemory, -⟩ := eval_prepare h.kept
    rw [heval] at he
    cases he
    refine ⟨hsound, hkept, ?_⟩
    rw [hmemory, List.drop_replicate]
  | process hr =>
    obtain ⟨-, hstep⟩ := hr.step h.sound.toRoomy h.sound.inv.toPlaced
    have hkept := keeps_process p s h.kept
    rw [(ParameterStore.returns_iff.mp hr).1] at hkept
    exact ⟨hsound, hkept, (hstep.drop_bytes h.sound.inv.toPlaced).trans h.erased⟩

/-- An idle store has begun nothing, once its device is erased. -/
theorem underway_erased (hkept : s.device.Kept size) (hphase : s.phase = .start)
    (hmemory : s.device.memory = List.replicate size Bytes.erased)
    (hfits : imageLayout.dataOffset + p.length ≤ size) : Underway size p [] s := by
  have hlen : s.view.bytes.length = size := by
    show s.device.memory.length = size
    rw [hmemory, List.length_replicate]
  have hblank : s.view.bytes.Blank := by
    show s.device.memory.Blank
    rw [hmemory]
    exact Bytes.blank_replicate (Nat.le_trans (Nat.le_add_right _ _) hfits)
  have hstart : s.view.phase = .start := hphase
  refine ⟨⟨⟨hkept.1.isOpen, by rw [hlen]; exact hfits⟩, ?_⟩, hkept, ?_⟩
  · exact ⟨by simp [hstart, Storing.underway], by simp [hstart], by simp [hstart],
      fun _ => Storing.blank_unmarked hblank, by simp [Storing.underway],
      by simp [Storing.underway]⟩
  · rw [hmemory, List.drop_replicate]

/-- A store that goes on without erasing keeps the header it wrote. -/
theorem underway_busy (n : Nat) :
    Storing.underway (List.replicate (n + 1) (.process (.ok .busy))) = .whole := by
  induction n with
  | zero => rfl
  | succ n ih =>
    rw [List.replicate_succ', Storing.underway_append, ih]
    rfl

/-- A store that finishes over the header it wrote has its set on the device. -/
theorem find_of_finished {es : List Storing.Event} {u : ParameterStore FileStore ω}
    (h : Storing.Sound p es s) (hes : Storing.underway es = .whole) (hp : Storable size p)
    (hfinished : s.Returns p (.ok .finished) u) :
    StoredImage.find u.device = .intact p ∧ u.phase = .start := by
  obtain ⟨hroomy, hstep⟩ := hfinished.step h.toRoomy h.inv.toPlaced
  generalize hv : u.view = v at hstep
  cases hstep with
  | finished hphase =>
    have hbytes : LawfulDevice.contents u.device = s.view.bytes := congrArg StoreView.bytes hv
    have hcarries := h.inv.whole hes
    rw [hphase, h.inv.complete hphase, ← hbytes] at hcarries
    exact ⟨StoredImage.find_eq_intact hp.admissible hroomy.fits (by simpa using hcarries),
      congrArg StoreView.phase hv⟩

/-- Every set there is room for makes a round trip, whatever the device held before. -/
theorem roundTrip_of_idle (h : Idle size s) (hp : Storable size p) :
    ∃ u, RoundTrip size p s u ∧ Idle size u ∧ StoredImage.find u.device = .intact p := by
  obtain ⟨t, hprepare, hkept, hmemory, hphase⟩ := eval_prepare h.kept
  have ht : Underway size p [] t := underway_erased hkept (hphase.trans h.phase) hmemory hp.fits
  have hblank : t.view.bytes.dword imageLayout.magicOffset ≠ imageLayout.magic := by
    show t.device.memory.dword _ ≠ _
    rw [hmemory]
    exact Storing.blank_magic
      (Bytes.blank_replicate (Nat.le_trans (Nat.le_add_right _ _) hp.fits))
  -- the first step, the one for the checksum, and those for the pieces
  obtain ⟨t1, hstep, hcourse, hsum, hwritten⟩ :=
    Storing.step_begun ht.sound.toRoomy hp.nonempty hp.words (hphase.trans h.phase) hblank
  obtain ⟨v, u, hrun, hfinished⟩ := Storing.run_finished hcourse hsum hp.summable
  have hrun' := (Run.one hstep).trans hrun
  have hes : [Storing.Event.process (.ok .busy)] ++ List.replicate (1 + Storing.piecesLeft p t1)
      (.process (.ok .busy)) =
      List.replicate (2 + (p.length + 7) / 8) (.process (.ok .busy)) := by
    have hpieces : Storing.piecesLeft p t1 = (p.length + 7) / 8 := by
      unfold Storing.piecesLeft
      rw [hwritten]
      rfl
    rw [hpieces, List.singleton_append, ← List.replicate_succ]
    congr 1
    omega
  rw [hes] at hrun'
  have hv : Underway size p (List.replicate (2 + (p.length + 7) / 8) (.process (.ok .busy))) v :=
    hrun'.invariant (I := Underway size p) ht fun h hs => h.step hs
  have hu := hv.step (.process hfinished)
  obtain ⟨hfind, hidle⟩ := find_of_finished hv.sound (by
    rw [show 2 + (p.length + 7) / 8 = 1 + (p.length + 7) / 8 + 1 by omega]
    exact underway_busy _) hp hfinished
  have himage : (ParameterStore.image.eval u).1 = .ok (some p) := by
    show Except.ok (StoredImage.find u.device).set? = _
    rw [hfind]
    rfl
  refine ⟨u, ⟨⟨t, v, hprepare, hrun', hfinished⟩, himage, ?_, ?_⟩, ⟨hu.kept, hidle⟩, hfind⟩
  · rw [LawfulDevice.bytesFrom_eq hu.sound.fits]
    exact congrArg Except.ok hu.erased
  · intro r x hr
    obtain ⟨hok, hdevice, -⟩ := restart_eq hu.kept hr
    refine ⟨hok, ?_⟩
    show Except.ok (StoredImage.find x.device).set? = _
    rw [hdevice, hfind]
    rfl

/-! ## Marked images -/

/-- The image was marked, and nothing is under way. -/
structure Marked (size : Nat) (s : ParameterStore FileStore ω) : Prop extends Idle size s where
  room : imageLayout.dataOffset ≤ size
  magic : s.device.memory.dword imageLayout.magicOffset = imageLayout.magic
  invalid : s.device.memory.dword imageLayout.stateOffset = imageLayout.invalid

theorem Marked.image_eq (h : Marked size s) : (ParameterStore.image.eval s).1 = .ok none := by
  have hroom : imageLayout.dataOffset ≤ (LawfulDevice.contents s.device).length := by
    show _ ≤ s.device.memory.length
    rw [h.kept.1.length_memory, h.kept.2]
    exact h.room
  show Except.ok (StoredImage.find s.device).set? = _
  rw [StoredImage.find_eq_invalid hroom h.magic h.invalid]
  rfl

/-- An attempt to store over an image marks it. -/
theorem process_over (h : Idle size s) (hroom : imageLayout.dataOffset ≤ size)
    (hm : s.device.memory.dword imageLayout.magicOffset = imageLayout.magic) {q : Bytes}
    (hq : StoreView.Admissible q) :
    ∃ t, (ParameterStore.process q).eval s = (.ok .notApplicable, t) ∧ Marked size t := by
  have hlen : s.view.bytes.length = size := h.kept.1.length_memory.trans h.kept.2
  obtain ⟨t, heval, hview⟩ := ParameterStore.eval_process_occupied
    ⟨h.kept.1.isOpen, by rw [hlen]; exact hroom⟩ h.phase hm hq
  have hkept := keeps_process q s h.kept
  have hbytes : t.device.memory =
      (s.view.putWord imageLayout.stateOffset imageLayout.invalid).bytes :=
    congrArg StoreView.bytes hview
  have hphase : t.phase = s.phase := congrArg StoreView.phase hview
  rw [heval] at hkept
  refine ⟨t, heval, ⟨hkept, hphase.trans h.phase⟩, hroom, ?_, ?_⟩
  · rw [hbytes, Storing.dword_putWord_of_apart (by decide)]
    exact hm
  · rw [hbytes, Storing.dword_putWord (by rw [hlen]; exact Nat.le_trans (by decide) hroom)]

/-- Neither storing nor restarting removes the mark. -/
theorem Marked.step {e : Event} (h : Marked size s) (hs : Step s e t) : Marked size t := by
  cases hs with
  | @process q _ _ he =>
    by_cases hq : StoreView.Admissible q
    · obtain ⟨t', heval, ht⟩ := process_over h.toIdle h.room h.magic hq
      rw [heval] at he
      cases he
      exact ht
    · obtain ⟨tally, world, heval⟩ := ParameterStore.eval_process_refused (s := s) hq
      rw [heval] at he
      cases he
      exact ⟨⟨h.kept, h.phase⟩, h.room, h.magic, h.invalid⟩
  | restart hclose hopen =>
    obtain ⟨-, hdevice, hphase⟩ := restart_eq h.kept (.restart hclose hopen)
    exact ⟨⟨hdevice ▸ h.kept, hphase⟩, h.room, hdevice ▸ h.magic, hdevice ▸ h.invalid⟩

/-! ## All of it -/

/-- An intact image begins with the magic word. -/
theorem magic_of_intact (h : StoredImage.find s.device = .intact p)
    (hroom : imageLayout.dataOffset ≤ s.device.memory.length) :
    s.device.memory.dword imageLayout.magicOffset = imageLayout.magic := by
  apply Decidable.byContradiction
  intro hm
  rw [StoredImage.find_eq_absent hroom hm] at h
  cases h

/-- Over any file, a set that is stored is read back, also after a restart. Storing anything
over it marks it, and it is not read again, whatever is stored and however often the store is
restarted; but then the device only has to be erased to store the next set. -/
theorem restored_across_restarts {f : BackingFile} (hf : f.place = .folder)
    (hp : Storable size p) (handler : IncidentHandler ω) (w : ω) :
    ∃ s u, ParameterStore.mount.eval (ParameterStore.fresh (FileStore.create f size) handler w) =
        (.ok (), s) ∧ RoundTrip size p s u ∧
      ∀ v, v = u ∨ Step u (.restart (.ok ())) v → ∀ q, StoreView.Admissible q →
        ∃ x, (ParameterStore.process q).eval v = (.ok .notApplicable, x) ∧
          ∀ es y, Run Step x es y → (ParameterStore.image.eval y).1 = .ok none ∧
            y.phase = .start ∧ ∀ p', Storable size p' → ∃ z, RoundTrip size p' y z := by
  have hroom : imageLayout.dataOffset ≤ size := Nat.le_trans (Nat.le_add_right _ _) hp.fits
  obtain ⟨s, hmount, hs⟩ := exists_mount hf size handler w
  obtain ⟨u, htrip, hu, hfind⟩ := roundTrip_of_idle hs hp
  refine ⟨s, u, hmount, htrip, ?_⟩
  intro v hv q hq
  -- the store at hand is the one that finished, or one over the same device
  have hidle : Idle size v ∧ v.device = u.device := by
    rcases hv with rfl | hv
    · exact ⟨hu, rfl⟩
    · obtain ⟨-, hdevice, hphase⟩ := restart_eq hu.kept hv
      exact ⟨⟨hdevice ▸ hu.kept, hphase⟩, hdevice⟩
  have hmagic := magic_of_intact (s := v) (p := p) (by rw [hidle.2, hfind]) (by
    rw [hidle.1.kept.1.length_memory, hidle.1.kept.2]
    exact hroom)
  obtain ⟨x, hprocess, hx⟩ := process_over hidle.1 hroom hmagic hq
  refine ⟨x, hprocess, ?_⟩
  intro es y hrun
  have hy : Marked size y := hrun.invariant (I := fun _ => Marked size) hx fun h hs => h.step hs
  refine ⟨hy.image_eq, hy.phase, ?_⟩
  intro p' hp'
  obtain ⟨z, hz, -⟩ := roundTrip_of_idle hy.toIdle hp'
  exact ⟨z, hz⟩

/-- Nine bytes over a file that is no image, marked after a restart by an attempt to store one
byte, and after another restart that byte. -/
theorem restored_across_restarts_nine_bytes :
    let f : BackingFile := ⟨"params", .folder, some (List.replicate 40 0)⟩
    let p : Bytes := [1, 2, 3, 4, 5, 6, 7, 8, 9]
    let q : Bytes := [7]
    f.place = .folder ∧ Storable 32 p ∧ StoreView.Admissible q ∧
    ∃ s u v x y z : ParameterStore FileStore Unit,
      ParameterStore.mount.eval
          (ParameterStore.fresh (FileStore.create f 32) IncidentHandler.silent ()) = (.ok (), s) ∧
      RoundTrip 32 p s u ∧ Step u (.restart (.ok ())) v ∧
      (ParameterStore.process q).eval v = (.ok .notApplicable, x) ∧
      (∃ r, Step x (.restart r) y) ∧ (ParameterStore.image.eval y).1 = .ok none ∧
      RoundTrip 32 q y z := by
  intro f p q
  have hp : Storable 32 p := ⟨by decide, by decide, by decide, by decide +kernel⟩
  have hq : Storable 32 q := ⟨by decide, by decide, by decide, by decide +kernel⟩
  obtain ⟨s, u, hmount, htrip, hafter⟩ :=
    restored_across_restarts (f := f) rfl hp IncidentHandler.silent ()
  obtain ⟨r, v, hv⟩ := exists_restart u
  obtain ⟨rfl, -⟩ := htrip.restarted r v hv
  obtain ⟨x, hprocess, hmarked⟩ := hafter v (.inr hv) q hq.admissible
  obtain ⟨r, y, hy⟩ := exists_restart x
  obtain ⟨himage, -, hagain⟩ := hmarked [.restart r] y (.one hy)
  obtain ⟨z, hz⟩ := hagain q hq
  exact ⟨rfl, hp, hq.admissible, s, u, v, x, y, z, hmount, htrip, hv, hprocess, ⟨r, hy⟩, himage, hz⟩

end Restarting

end SlimInterface
