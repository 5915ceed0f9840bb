import SlimInterface.Proofs.Dictionary.Forwarding

/-!
# Telling one object from the next

When the same object is sent twice, only the number that it is sent with tells the second time from
the first. It flips with every attempt, and not only with those that send something.

Every call leaves the number of the attempts so far in the buffer (`Inv.number_left`). Two objects
that are sent one after the other therefore have different numbers if the attempts refused between
them are even in number, and else the same (`alternates_of_run`).
-/

namespace SlimInterface

theorem SeqNr.toByte_ofCount_ne {m n : Nat} :
    (ofCount m).toByte ≠ (ofCount n).toByte ↔ (m + n) % 2 = 1 := by
  unfold ofCount
  rcases Nat.mod_two_eq_zero_or_one m with hm | hm <;>
    rcases Nat.mod_two_eq_zero_or_one n with hn | hn <;>
    rw [hm, hn, Nat.add_mod, hm, hn] <;> decide

namespace Forwarding

variable {id : BufferId} {es : List Event} {e : Event} {c c' : ConfigChannel}

/-- Every call leaves the number of the attempts so far at the start of the buffer. -/
theorem Inv.number_left {head : Option ConfigObject} {r : Except Fault Unit} {buffer : Bytes}
    (h : Inv id es c) (hs : Step c (.send head r buffer) c') :
    buffer[0]? = some (SeqNr.ofCount (tried (es ++ [.send head r buffer])).length).toByte := by
  have hnext := h.step hs
  cases hs
  rw [← hnext.seq_eq]
  exact hnext.number_eq

/-- Between two objects that are sent one after the other only the attempts that were refused
count. -/
theorem LastPosted.length_tried {past since : List Event} {o : ConfigObject} {left : Bytes}
    (h : LastPosted past o left since) :
    ∃ before, past = before ++ .send (some o) (.ok ()) left :: since ∧
      (tried past).length =
        (tried (before ++ [.send (some o) (.ok ()) left])).length + (refused since).length := by
  obtain ⟨⟨before, hpast⟩, hposted⟩ := h
  have hsplit : past = (before ++ [.send (some o) (.ok ()) left]) ++ since := by
    rw [hpast, List.append_assoc, List.singleton_append]
  have hsince := Forwarding.length_tried since
  rw [hposted, List.length_nil, Nat.zero_add] at hsince
  refine ⟨before, hpast, ?_⟩
  rw [← hsince, hsplit]
  unfold tried
  rw [List.filterMap_append, List.length_append]

/-- Of two objects that are sent one after the other, whatever happens in between, the second one
has another number than the first one just if the attempts refused in between are even in number. -/
theorem alternates_of_run {id : BufferId} (hid : id.index < TripleBuffer.idLimit)
    (ack : AckRegister) :
    ∃ output, (ConfigOutput.create id ConfigOutput.bufferSize).eval () = (.ok output, ()) ∧
      ∀ es c, Run Step ⟨output, ack, []⟩ es c →
        ∀ past o a since o' b rest, LastPosted past o a since →
          es = past ++ .send (some o') (.ok ()) b :: rest →
            ∃ m n, a[0]? = some m ∧ b[0]? = some n ∧
              (m ≠ n ↔ (refused since).length % 2 = 0) := by
  refine ⟨_, ConfigOutput.eval_create hid (), ?_⟩
  intro es c hrun past o a since o' b rest hlast hes
  obtain ⟨-, hleft⟩ := hrun.invariant_forall (I := Inv id)
    (P := fun past e => ∀ head r buffer, e = .send head r buffer →
      buffer[0]? = some (SeqNr.ofCount (tried (past ++ [e])).length).toByte)
    (inv_fresh id ack) (fun h hs => by
      refine ⟨h.step hs, ?_⟩
      rintro head r buffer rfl
      exact h.number_left hs)
  obtain ⟨before, hpast, hlen⟩ := hlast.length_tried
  have hfirst := hleft before _ (since ++ .send (some o') (.ok ()) b :: rest)
    (by rw [hes, hpast, List.append_assoc, List.cons_append]) _ _ _ rfl
  have hsecond := hleft past _ rest hes _ _ _ rfl
  refine ⟨_, _, hfirst, hsecond, SeqNr.toByte_ofCount_ne.trans ?_⟩
  rw [tried_append past, List.length_append, hlen]
  show (_ + (_ + 1)) % 2 = 1 ↔ _
  omega

/-- Two objects that are sent at once. -/
theorem alternates_of_run_reference :
    let id : BufferId := ⟨3⟩
    let one : ConfigObject := ⟨0x2000, 1, 1, 0x11, 0⟩
    let two : ConfigObject := ⟨0x2000, 2, 2, 0x3322, 0⟩
    id.index < TripleBuffer.idLimit ∧
    ∃ output a b c past,
      (ConfigOutput.create id ConfigOutput.bufferSize).eval () = (.ok output, ()) ∧
      Run Step ⟨output, .empty, []⟩ (past ++ [.send (some two) (.ok ()) b]) c ∧
      LastPosted past one a [] ∧
      ∃ m n, a[0]? = some m ∧ b[0]? = some n ∧ m ≠ n := by
  intro id one two
  have hid : id.index < TripleBuffer.idLimit := by decide
  obtain ⟨output, hcreate, hruns⟩ := alternates_of_run hid .empty
  obtain rfl := ConfigOutput.eq_opened hid hcreate
  let c : ConfigChannel := ⟨.opened id, .empty, [one, two]⟩
  have hone : ConfigChannel.send.eval c = (.ok (), c.sent one) :=
    ConfigChannel.eval_send_sent rfl rfl (by decide)
  have htwo : ConfigChannel.send.eval (c.sent one) = (.ok (), (c.sent one).sent two) :=
    ConfigChannel.eval_send_sent (by decide) rfl (by decide)
  have hrun := (((Run.one (Step.write (c := ⟨.opened id, .empty, []⟩) one)).next (.write two)).next
    (.send hone)).next (.send htwo)
  have hlast := LastPosted.now [.write one, .write two] one (c.sent one).output.buffer.data
  obtain ⟨m, n, hm, hn, hne⟩ := hruns _ _ hrun _ _ _ _ two _ [] hlast rfl
  exact ⟨hid, _, _, _, _, _, hcreate, hrun, hlast, m, n, hm, hn, hne.mpr rfl⟩

/-- One object is refused between two that are sent; it is dropped before the second one is
queued. -/
theorem run_refused_between {id : BufferId} (first between last : ConfigObject)
    (hfirst : first.Sendable) (hbetween : ¬ between.Sendable) (hlast : last.Sendable)
    (ack : AckRegister) :
    ∃ a left b c, Run Step ⟨.opened id, ack, []⟩
        ([.write first, .send (some first) (.ok ()) a, .write between,
          .send (some between) (.error (.invalidSizeOfObject between.size)) left,
          .advance (some between), .write last] ++ [.send (some last) (.ok ()) b]) c ∧
      a[0]? = some 1 ∧ b[0]? = some 1 := by
  let c0 : ConfigChannel := ⟨.opened id, ack, [first]⟩
  let c1 : ConfigChannel := { c0.sent first with queue := [between] }
  let c2 : ConfigChannel := { c1.refused between with queue := [last] }
  have hsize := hfirst.size_le
  have hlen : c1.output.buffer.data.length = 12 := by
    show (first.header .second ++ first.field ++
      (List.replicate 12 0).drop (4 + first.size.toNat)).length = 12
    simp
    omega
  have h0 : ConfigChannel.send.eval c0 = (.ok (), c0.sent first) :=
    ConfigChannel.eval_send_sent rfl rfl hfirst
  have h1 : ConfigChannel.send.eval c1 =
      (.error (.invalidSizeOfObject between.size), c1.refused between) :=
    ConfigChannel.eval_send_refused hlen rfl hbetween
  have h2 : ConfigChannel.send.eval c2 = (.ok (), c2.sent last) := by
    refine ConfigChannel.eval_send_sent ?_ rfl hlast
    show (between.header .first ++ c1.output.buffer.data.drop 4).length = 12
    simp
    omega
  exact ⟨_, _, _, _, ((((((Run.one (.write first)).next (.send h0)).next (.write between)).next
    (.send h1)).next .advance).next (.write last)).next (.send h2), rfl, rfl⟩

/-- Two objects that are sent one after the other may have the same number. -/
theorem not_alternates_of_run :
    ¬ ∀ (id : BufferId) (ack : AckRegister) (output : ConfigOutput),
      id.index < TripleBuffer.idLimit →
      (ConfigOutput.create id ConfigOutput.bufferSize).eval () = (.ok output, ()) →
      ∀ es c, Run Step ⟨output, ack, []⟩ es c → (∀ seen, .look seen ∉ es) →
        ∀ past o a since o' b rest, LastPosted past o a since →
          es = past ++ .send (some o') (.ok ()) b :: rest → a[0]? ≠ b[0]? := by
  intro hall
  let one : ConfigObject := ⟨0x2000, 1, 1, 0x11, 0⟩
  let two : ConfigObject := ⟨0x2000, 2, 1, 0x22, 0⟩
  let three : ConfigObject := ⟨0x2001, 3, 3, 0x445566, 0⟩
  have hid : (⟨3⟩ : BufferId).index < TripleBuffer.idLimit := by decide
  obtain ⟨a, left, b, c, hrun, ha, hb⟩ :=
    run_refused_between one three two (by decide) (by decide) (by decide) .empty
  refine hall ⟨3⟩ .empty _ hid (ConfigOutput.eval_create hid ()) _ c hrun (by simp) _ one a _ two b
    [] ⟨⟨[.write one], rfl⟩, rfl⟩ rfl ?_
  rw [ha, hb]

end Forwarding

end SlimInterface
