import SlimInterface.Monitor.Document
import SlimInterface.Proofs.Monitor.Json

/-!
# What a document tells

Nothing is lost between a snapshot and its document. In the diagnosis of a snapshot numbers and
words are easy to take back (`diagnosis_inj`). The last incident is a sentence, though, and
sentences of different causes must not meet: `cause_eq_of_message_eq` says that their beginnings
differ, before any number or text comes, and `message_inj` that the rest gives the numbers and the
text.

A diagnosis is found again in its JSON value (`Diagnosis.json_inj`), and that in the text of any
serializer that writes JSON. `document_inj` puts these together.
-/

namespace SlimInterface

open Numeral

/-! ## Faults -/

namespace Fault

variable {f g : Fault}

/-- How the sentence of a fault begins. -/
def heading : Fault → String
  | bufferSizeMismatch .. => "Buffer size mismatch: expected "
  | invalidSizeOfObject _ => "Invalid size of object: "
  | objectLengthError _ => "Object length "
  | invalidSeqNr _ => "Invalid sequence number value: "
  | storageError _ => "Storage error: "
  | f => f.message

/-- How it goes on, with what explains the fault. -/
def details : Fault → String
  | bufferSizeMismatch expected actual =>
    toString expected ++ (" bytes, got " ++ toString actual)
  | invalidSizeOfObject size => toString size.toNat ++ " bytes"
  | objectLengthError length => toString length ++ " exceeds 8 bytes"
  | invalidSeqNr value => hex 2 value.toNat
  | storageError text => text
  | _ => ""

theorem message_eq (f : Fault) : f.message = f.heading ++ f.details := by
  cases f with
  | bufferSizeMismatch =>
    rw [heading, details, ← String.append_assoc, ← String.append_assoc]
    rfl
  | invalidSizeOfObject | objectLengthError => exact String.append_assoc ..
  | invalidSeqNr | storageError => rfl
  | _ => simp only [heading, details, String.append_empty]

/-- A fault of the same cause, with nothing to explain it. -/
def cause : Fault → Fault
  | bufferSizeMismatch .. => bufferSizeMismatch 0 0
  | invalidSizeOfObject _ => invalidSizeOfObject 0
  | objectLengthError _ => objectLengthError 0
  | invalidSeqNr _ => invalidSeqNr 0
  | storageError _ => storageError ""
  | f => f

/-- All causes. -/
def causes : List Fault :=
  [invalidParameter, invalidBuffer, bufferSizeMismatch 0 0, outOfBounds, noFreeActionSlot,
    actionFailed, transferError, syncCallbackFailed, timeSyncFailed, channelBusy,
    invalidSizeOfObject 0, objectLengthError 0, fifoFull, invalidState, invalidSeqNr 0,
    storageError "", crcError, notInitialized, sliceConversion]

theorem cause_mem_causes (f : Fault) : f.cause ∈ causes := by
  cases f <;> simp [cause, causes]

theorem heading_cause (f : Fault) : f.cause.heading = f.heading := by
  cases f <;> rfl

/-- No sentence begins like that of another cause. -/
theorem causes_prefix_free : ∀ f ∈ causes, ∀ g ∈ causes,
    f = g ∨ ¬ f.heading.toList <+: g.heading.toList := by
  decide +kernel

theorem cause_eq_of_message_eq (h : f.message = g.message) : f.cause = g.cause := by
  have hbegins (f : Fault) : f.cause.heading.toList <+: f.message.toList := by
    rw [heading_cause, message_eq, String.toList_append]
    exact List.prefix_append _ _
  -- of two beginnings of one sentence, one begins the other
  rcases List.prefix_or_prefix_of_prefix (hbegins f) (h ▸ hbegins g) with hfg | hgf
  · exact (causes_prefix_free _ (cause_mem_causes f) _ (cause_mem_causes g)).resolve_right
      (not_not_intro hfg)
  · exact ((causes_prefix_free _ (cause_mem_causes g) _ (cause_mem_causes f)).resolve_right
      (not_not_intro hgf)).symm

theorem details_eq_of_message_eq (h : f.message = g.message) : f.details = g.details := by
  have hheading : f.heading = g.heading := by
    rw [← heading_cause f, cause_eq_of_message_eq h, heading_cause]
  rw [message_eq, message_eq, hheading] at h
  exact (String.append_right_inj _).mp h

theorem message_inj : f.message = g.message ↔ f = g := by
  refine ⟨fun h => ?_, fun h => h ▸ rfl⟩
  have hcause := cause_eq_of_message_eq h
  have hdetails := details_eq_of_message_eq h
  cases f <;> cases g <;> cases hcause
  case bufferSizeMismatch.bufferSizeMismatch expected actual expected' actual' =>
    have hgot (n : Nat) : Ended (" bytes, got " ++ toString n).toList := ended_append _ _ rfl rfl
    have hnothing : Ended "".toList := ended_nil
    obtain ⟨rfl, hrest⟩ := toString_append_inj (hgot actual) (hgot actual') hdetails
    have hactual : toString actual ++ "" = toString actual' ++ "" :=
      congrArg (· ++ "") ((String.append_right_inj _).mp hrest)
    rw [(toString_append_inj hnothing hnothing hactual).1]
  case invalidSizeOfObject.invalidSizeOfObject size size' =>
    have hbytes : Ended " bytes".toList := ended_cons rfl
    rw [UInt16.toNat_inj.mp (toString_append_inj hbytes hbytes hdetails).1]
  case objectLengthError.objectLengthError length length' =>
    have hexceeds : Ended " exceeds 8 bytes".toList := ended_cons rfl
    rw [(toString_append_inj hexceeds hexceeds hdetails).1]
  case invalidSeqNr.invalidSeqNr value value' =>
    rw [UInt8.toNat_inj.mp (hex_inj hdetails)]
  case storageError.storageError text text' => exact congrArg _ hdetails
  all_goals rfl

end Fault

theorem Source.name_inj {a b : Source} : a.name = b.name ↔ a = b := by
  cases a <;> cases b <;> decide

theorem TransmitState.name_inj {a b : TransmitState} : a.name = b.name ↔ a = b := by
  cases a <;> cases b <;> decide

theorem ReceiveState.name_inj {a b : ReceiveState} : a.name = b.name ↔ a = b := by
  cases a <;> cases b <;> decide

theorem SeqNr.toByte_inj {a b : SeqNr} : a.toByte = b.toByte ↔ a = b := by
  cases a <;> cases b <;> decide

/-! ## Diagnoses of snapshots -/

theorem Incident.info_inj {i j : Incident} : i.info = j.info ↔ i = j := by
  cases i
  cases j
  simp only [info, IncidentInfo.mk.injEq, Source.name_inj, Fault.message_inj, mk.injEq]

theorem LogSnapshot.info_inj {c d : LogSnapshot} : c.info = d.info ↔ c = d := by
  cases c
  cases d
  simp only [info, LogInfo.mk.injEq, SeqNr.toByte_inj, mk.injEq]

theorem SsdoSnapshot.info_inj {c d : SsdoSnapshot} : c.info = d.info ↔ c = d := by
  cases c
  cases d
  simp only [info, SsdoInfo.mk.injEq, TransmitState.name_inj, ReceiveState.name_inj, mk.injEq]

theorem TimeStamp.toWord_inj {t u : TimeStamp} : t.toWord = u.toWord ↔ t = u := by
  refine ⟨fun h => ?_, fun h => h ▸ rfl⟩
  rw [← ofWord_toWord t, h, ofWord_toWord]

theorem Snapshot.diagnosis_inj {s t : Snapshot} : s.diagnosis = t.diagnosis ↔ s = t := by
  obtain ⟨time, icc, logbook, ssdo, errors, last⟩ := s
  obtain ⟨time', icc', logbook', ssdo', errors', last'⟩ := t
  have hbusy : (icc.toByte != 0) = (icc'.toByte != 0) ↔ icc = icc' := by
    cases icc <;> cases icc' <;> decide
  have hlogbook : logbook.map (·.info) = logbook'.map (·.info) ↔ logbook = logbook' :=
    List.map_inj_right fun _ _ => LogSnapshot.info_inj.mp
  have hssdo : ssdo.map (·.info) = ssdo'.map (·.info) ↔ ssdo = ssdo' :=
    List.map_inj_right fun _ _ => SsdoSnapshot.info_inj.mp
  have hlast : last.map (·.info) = last'.map (·.info) ↔ last = last' :=
    Option.map_inj_right fun _ _ => Incident.info_inj.mp
  simp only [diagnosis, Diagnosis.mk.injEq, TimeStamp.toWord_inj, hbusy, hlogbook, hssdo, hlast,
    mk.injEq]

/-! ## Documents -/

theorem IncidentInfo.json_inj {i j : IncidentInfo} : i.datum.json = j.datum.json ↔ i = j := by
  cases i
  cases j
  simp only [datum, Datum.json, Datum.jsonFields, Json.object.injEq, List.cons.injEq,
    Prod.mk.injEq, Json.text.injEq, true_and, and_true, mk.injEq]

theorem LogInfo.json_inj {c d : LogInfo} : c.datum.json = d.datum.json ↔ c = d := by
  cases c
  cases d
  simp only [datum, Datum.json, Datum.jsonFields, Json.object.injEq, List.cons.injEq,
    Prod.mk.injEq, Json.number.injEq, Json.bool.injEq, UInt8.toNat_inj, true_and, and_true,
    mk.injEq]

theorem SsdoInfo.json_inj {c d : SsdoInfo} : c.datum.json = d.datum.json ↔ c = d := by
  cases c
  cases d
  simp only [datum, Datum.json, Datum.jsonFields, Json.object.injEq, List.cons.injEq,
    Prod.mk.injEq, Json.number.injEq, Json.text.injEq, UInt8.toNat_inj, true_and, and_true,
    mk.injEq]

namespace Diagnosis

/-- Nothing there is told from a record. -/
theorem last_json_inj {a b : Option IncidentInfo} :
    (Datum.option (a.map (·.datum))).json = (Datum.option (b.map (·.datum))).json ↔ a = b := by
  cases a <;> cases b
  case none.none => exact ⟨fun _ => rfl, fun _ => rfl⟩
  case none.some i | some.none i =>
    simp only [Option.map_none, Option.map_some, Datum.json, IncidentInfo.datum, reduceCtorEq]
  case some.some i j =>
    simp only [Option.map_some, Datum.json, IncidentInfo.json_inj, Option.some.injEq]

theorem list_json_inj {α : Type} {f : α → Datum} (hf : ∀ {a b}, (f a).json = (f b).json ↔ a = b)
    {as bs : List α} : (Datum.list (as.map f)).json = (Datum.list (bs.map f)).json ↔ as = bs := by
  rw [Datum.json, Datum.json, Json.array.injEq, Datum.jsonItems_eq, Datum.jsonItems_eq,
    List.map_map, List.map_map]
  exact List.map_inj_right fun _ _ => hf.mp

theorem json_inj {d e : Diagnosis} : d.datum.json = e.datum.json ↔ d = e := by
  obtain ⟨time, busy, logbook, ssdo, errors, last⟩ := d
  obtain ⟨time', busy', logbook', ssdo', errors', last'⟩ := e
  have hlogbook : (Datum.list (logbook.map (·.datum))).json =
      (Datum.list (logbook'.map (·.datum))).json ↔ logbook = logbook' :=
    list_json_inj LogInfo.json_inj
  have hssdo : (Datum.list (ssdo.map (·.datum))).json =
      (Datum.list (ssdo'.map (·.datum))).json ↔ ssdo = ssdo' :=
    list_json_inj SsdoInfo.json_inj
  rw [datum, datum, Datum.json, Datum.json]
  simp only [Datum.jsonFields, Json.object.injEq, List.cons.injEq, Prod.mk.injEq, hlogbook, hssdo,
    last_json_inj, true_and, and_true, mk.injEq]
  -- what is left are the numbers and the flag
  simp only [Datum.json, Json.number.injEq, Json.bool.injEq, UInt64.toNat_inj]

end Diagnosis

/-- **Documents of snapshots.** A serializer that writes JSON has a document for every snapshot, and
a document belongs to one snapshot only. -/
theorem Snapshot.document_inj {ε : Type} {serializer : Serializer ε} {form : Char → List Char}
    (h : serializer.WritesJson form) (s t : Snapshot) :
    (∃ text, s.diagnosis.document serializer = .ok text) ∧
      (s.diagnosis.document serializer = t.diagnosis.document serializer ↔ s = t) := by
  have htext (d : Diagnosis) : d.document serializer = .ok (d.datum.json.render form) :=
    h.text_eq d.datum
  refine ⟨⟨_, htext s.diagnosis⟩, ?_⟩
  rw [htext, htext, Except.ok.injEq, Json.render_inj h.escapes, Diagnosis.json_inj, diagnosis_inj]

/-- An escaped quote is told from a backslash before a quote. -/
theorem Snapshot.document_inj_quote :
    let snapshot (text : String) : Snapshot :=
      ⟨.zero, .first, [], [], 1, some ⟨.sodStore, .storageError text⟩⟩
    Json.serializer.WritesJson Json.escape ∧
      (snapshot "a\"b").diagnosis.document Json.serializer = .ok
        ("\x7b\"rel_time\":0,\"icc_busy\":false,\"logbook\":[],\"ssdo\":[],\"error_count\":1," ++
          "\"last_error\":\x7b\"module\":\"SodStore\"," ++
          "\"message\":\"Storage error: a\\\"b\"\x7d\x7d") ∧
      (snapshot "a\"b").diagnosis.document Json.serializer ≠
        (snapshot "a\\\"b").diagnosis.document Json.serializer := by
  intro snapshot
  refine ⟨Json.writesJson_serializer, congrArg Except.ok (by decide +kernel), fun h => ?_⟩
  have hsame : snapshot "a\"b" = snapshot "a\\\"b" :=
    (document_inj Json.writesJson_serializer _ _).2.mp h
  exact absurd hsame (by decide)

end SlimInterface
