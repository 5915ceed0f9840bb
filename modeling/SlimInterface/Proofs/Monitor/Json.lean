import Mathlib.Data.List.Forall2
import SlimInterface.Monitor.Json
import SlimInterface.Proofs.Numeral

/-!
# Reading documents

A JSON document can be read in one way only, however its characters are escaped, as long as they
stand in a way that JSON has for them (`Stands`). The first character tells the sort of the value
(`sort_eq`), a text ends at the first quote that is not escaped (`quoted_append_inj`), and a
comma or a bracket ends every other part (`separated_append_inj`). `write_append_inj` puts them
together by induction on the value: whatever follows a document, as long as it is no digit,
document and rest are found again. For whole documents that is `render_inj`.

`Serializer.WritesJson` is what a serializer promises, one sort of value after the other.
`Serializer.WritesJson.text_eq` says that its texts then are these documents.
-/

namespace SlimInterface

namespace Json

open Numeral

/-- A property of all values: arrays inherit it from their items, objects from their members. -/
@[elab_as_elim]
theorem induct {P : Json → Prop} (null : P .null) (bool : ∀ b, P (.bool b))
    (number : ∀ n, P (.number n)) (text : ∀ s, P (.text s))
    (array : ∀ items, (∀ v ∈ items, P v) → P (.array items))
    (object : ∀ members, (∀ m ∈ members, P m.2) → P (.object members)) : ∀ v, P v
  | .null => null
  | .bool b => bool b
  | .number n => number n
  | .text s => text s
  | .array items => array items fun v _ => induct null bool number text array object v
  | .object members => object members fun m hm =>
      have : sizeOf m.2 < sizeOf members := by
        have := List.sizeOf_lt_of_mem hm
        obtain ⟨name, v⟩ := m
        rw [Prod.mk.sizeOf_spec] at this
        show sizeOf v < sizeOf members
        omega
      induct null bool number text array object m.2

variable {v w : Json} {r s : List Char} {c d : Char} {form : Char → List Char}

/-! ## Characters -/

/-- The characters with an escape of their own, and the letter of that. -/
def shortEscapes : List (Char × Char) :=
  [('"', '"'), ('\\', '\\'), ('/', '/'), ('\x08', 'b'), ('\x0c', 'f'), ('\n', 'n'), ('\r', 'r'),
    ('\t', 't')]

/-- The ways in which a character may stand in a text. -/
inductive Stands (c : Char) : List Char → Prop
  | plain (hc : 32 ≤ c.toNat) (hquote : c ≠ '"') (hback : c ≠ '\\') : Stands c [c]
  | short {letter : Char} (h : (c, letter) ∈ shortEscapes) : Stands c ['\\', letter]
  | hex (h : c.toNat < 65536) : Stands c ('\\' :: 'u' :: hexDigits 4 c.toNat)

/-- The usual escapes are among them. -/
theorem stands_escape (c : Char) : Stands c (escape c) := by
  unfold escape
  -- the characters with an escape of their own
  iterate 7
    split
    · next h =>
      subst h
      exact .short (by decide)
  split
  · next h => exact .hex (by omega)
  · next hquote hback _ _ _ _ _ h => exact .plain (Nat.le_of_not_lt h) hquote hback

/-! ## Sorts -/

/-- The sort of a value. -/
def sort : Json → Nat
  | null => 0
  | bool _ => 1
  | number _ => 2
  | text _ => 3
  | array _ => 4
  | object _ => 5

/-- The sort of a value whose document begins with a character. -/
def lead (c : Char) : Nat :=
  if c = 'n' then 0
  else if c = 't' ∨ c = 'f' then 1
  else if c.isDigit then 2
  else if c = '"' then 3
  else if c = '[' then 4
  else if c = '\x7b' then 5
  else 6

theorem lead_of_isDigit (h : c.isDigit = true) : lead c = 2 := by
  have hne (d : Char) (hd : d.isDigit = false) : c ≠ d := fun he => by
    rw [he, hd] at h
    cases h
  unfold lead
  rw [if_neg (hne 'n' rfl), if_neg (not_or.mpr ⟨hne 't' rfl, hne 'f' rfl⟩), if_pos h]

/-- A document begins with a character of its sort. -/
theorem exists_write (v : Json) : ∃ c rest, v.write form = c :: rest ∧ lead c = v.sort := by
  cases v with
  | null | text | array | object => exact ⟨_, _, by rw [write]; rfl, rfl⟩
  | bool b => cases b <;> exact ⟨_, _, by rw [write]; rfl, rfl⟩
  | number n =>
    rw [write]
    cases hdigits : Nat.toDigits 10 n with
    | nil => exact absurd hdigits Nat.toDigits_ne_nil
    | cons c rest =>
      have hc : c ∈ Nat.toDigits 10 n := hdigits ▸ List.mem_cons_self
      exact ⟨c, rest, rfl, lead_of_isDigit (Nat.isDigit_of_mem_toDigits (by decide) (by decide) hc)⟩

theorem sort_eq (h : v.write form ++ r = w.write form ++ s) : v.sort = w.sort := by
  obtain ⟨c, _, hv, hc⟩ := exists_write v
  obtain ⟨d, _, hw, hd⟩ := exists_write w
  rw [hv, hw] at h
  rw [← hc, ← hd, (List.cons.inj h).1]

theorem cons_ne_write_append (hc : lead c = 6) : c :: r ≠ v.write form ++ s := by
  obtain ⟨d, _, hv, hd⟩ := exists_write v
  rw [hv]
  intro h
  rw [(List.cons.inj h).1, hd] at hc
  cases v <;> cases hc

/-! ## Texts -/

/-- The character an escape stands for, and what follows; the backslash was read before. -/
def unescape : List Char → Option (Char × List Char)
  | 'b' :: rest => some ('\x08', rest)
  | 't' :: rest => some ('\t', rest)
  | 'n' :: rest => some ('\n', rest)
  | 'f' :: rest => some ('\x0c', rest)
  | 'r' :: rest => some ('\r', rest)
  | 'u' :: rest => some (Char.ofNat (ofHexDigits (rest.take 4)), rest.drop 4)
  | c :: rest => some (c, rest)
  | [] => none

/-- The next character of a text, and what follows; there is none before the closing quote. -/
def readChar : List Char → Option (Char × List Char)
  | [] => none
  | c :: rest =>
    if c = '\\' then unescape rest
    else if c = '"' then none
    else some (c, rest)

theorem Stands.readChar_append {text : List Char} (h : Stands c text) (rest : List Char) :
    readChar (text ++ rest) = some (c, rest) := by
  cases h with
  | plain hc hquote hback =>
    show (if c = '\\' then unescape rest else if c = '"' then none else some (c, rest)) = _
    rw [if_neg hback, if_neg hquote]
  | short h =>
    simp only [shortEscapes, List.mem_cons, Prod.mk.injEq, List.not_mem_nil, or_false] at h
    rcases h with ⟨rfl, rfl⟩ | ⟨rfl, rfl⟩ | ⟨rfl, rfl⟩ | ⟨rfl, rfl⟩ | ⟨rfl, rfl⟩ | ⟨rfl, rfl⟩ |
      ⟨rfl, rfl⟩ | ⟨rfl, rfl⟩ <;> rfl
  | hex h =>
    have hlen : (hexDigits 4 c.toNat).length = 4 := length_hexDigits (by decide) (by omega)
    show some (Char.ofNat (ofHexDigits ((hexDigits 4 c.toNat ++ rest).take 4)),
      (hexDigits 4 c.toNat ++ rest).drop 4) = _
    rw [List.take_left' hlen, List.drop_left' hlen, ofHexDigits_hexDigits, Char.ofNat_toNat]

section Texts

variable (hform : ∀ c, Stands c (form c))

include hform

/-- A quote that ends a text is not taken for one of its characters. -/
theorem quote_ne_form_append : '"' :: r ≠ form c ++ s := by
  intro h
  have hread := (hform c).readChar_append s
  rw [← h] at hread
  cases hread

theorem flatMap_form_append_inj {a b : List Char}
    (h : a.flatMap form ++ '"' :: r = b.flatMap form ++ '"' :: s) : a = b ∧ r = s := by
  induction a generalizing b with
  | nil =>
    cases b with
    | nil => exact ⟨rfl, (List.cons.inj h).2⟩
    | cons d b =>
      rw [List.flatMap_cons, List.append_assoc] at h
      exact absurd h (quote_ne_form_append hform)
  | cons c a ih =>
    rw [List.flatMap_cons, List.append_assoc] at h
    cases b with
    | nil => exact absurd h.symm (quote_ne_form_append hform)
    | cons d b =>
      rw [List.flatMap_cons, List.append_assoc] at h
      have hread := congrArg readChar h
      rw [(hform c).readChar_append, (hform d).readChar_append] at hread
      obtain ⟨rfl, hrest⟩ := Prod.mk.inj (Option.some.inj hread)
      obtain ⟨rfl, hr⟩ := ih hrest
      exact ⟨rfl, hr⟩

theorem quoted_append_inj {a b : String} (h : quoted form a ++ r = quoted form b ++ s) :
    a = b ∧ r = s := by
  unfold quoted at h
  rw [List.append_assoc, List.append_assoc] at h
  obtain ⟨htext, hr⟩ := flatMap_form_append_inj hform (List.cons.inj h).2
  exact ⟨String.toList_inj.mp htext, hr⟩

end Texts

/-! ## Lists -/

/-- Parts with commas between them. -/
def separated : List (List Char) → List Char
  | [] => []
  | [part] => part
  | part :: rest => part ++ ',' :: separated rest

theorem writeItems_eq (items : List Json) :
    writeItems form items = separated (items.map (write form)) := by
  induction items with
  | nil => rw [writeItems]; rfl
  | cons v rest ih =>
    cases rest with
    | nil => rw [writeItems]; rfl
    | cons w rest =>
      rw [writeItems, ih]
      · rfl
      · simp

/-- A member of an object. -/
def writeMember (form : Char → List Char) (m : String × Json) : List Char :=
  quoted form m.1 ++ ':' :: write form m.2

theorem writeMembers_eq (members : List (String × Json)) :
    writeMembers form members = separated (members.map (writeMember form)) := by
  induction members with
  | nil => rw [writeMembers]; rfl
  | cons m rest ih =>
    cases rest with
    | nil => rw [writeMembers]; rfl
    | cons w rest =>
      rw [writeMembers, ih]
      · rfl
      · simp

/-- What stands behind a part: the other parts behind a comma, or else the closing bracket. -/
def afterPart (close : Char) (r : List Char) : List (List Char) → List Char
  | [] => close :: r
  | parts => ',' :: (separated parts ++ close :: r)

variable {close : Char}

theorem ended_afterPart (hclose : close.isDigit = false) (parts : List (List Char)) :
    Ended (afterPart close r parts) := by
  cases parts with
  | nil => exact ended_cons hclose
  | cons => exact ended_cons rfl

theorem separated_append (part : List Char) (parts : List (List Char)) :
    separated (part :: parts) ++ close :: r = part ++ afterPart close r parts := by
  cases parts with
  | nil => rfl
  | cons => exact List.append_assoc _ _ _

/-- Parts are found one after the other, if each is found in front of others, and none begins
with a closing bracket. -/
theorem separated_append_inj {α : Type} {f : α → List Char} (hclose : close.isDigit = false)
    (hcomma : close ≠ ',') (hopen : ∀ a t u, close :: t ≠ f a ++ u) {l m : List α}
    (hf : ∀ a ∈ l, ∀ {b t u}, Ended t → Ended u → f a ++ t = f b ++ u → a = b ∧ t = u)
    (h : separated (l.map f) ++ close :: r = separated (m.map f) ++ close :: s) :
    l = m ∧ r = s := by
  induction l generalizing m with
  | nil =>
    cases m with
    | nil => exact ⟨rfl, (List.cons.inj h).2⟩
    | cons b m =>
      rw [List.map_cons, separated_append] at h
      exact absurd h (hopen _ _ _)
  | cons a l ih =>
    rw [List.map_cons, separated_append] at h
    cases m with
    | nil => exact absurd h.symm (hopen _ _ _)
    | cons b m =>
      rw [List.map_cons, separated_append] at h
      obtain ⟨rfl, hafter⟩ := hf a List.mem_cons_self (ended_afterPart hclose _)
        (ended_afterPart hclose _) h
      cases l <;> cases m
      case nil.nil => exact ⟨rfl, (List.cons.inj hafter).2⟩
      case nil.cons => exact absurd (List.cons.inj hafter).1 hcomma
      case cons.nil => exact absurd (List.cons.inj hafter).1.symm hcomma
      case cons.cons =>
        obtain ⟨hl, hr⟩ := ih (fun c hc => hf c (List.mem_cons_of_mem _ hc))
          (List.cons.inj hafter).2
        exact ⟨congrArg _ hl, hr⟩

/-! ## Documents -/

/-- A value and what stands behind its document are both determined. -/
theorem write_append_inj (hform : ∀ c, Stands c (form c)) (hr : Ended r) (hs : Ended s)
    (h : v.write form ++ r = w.write form ++ s) : v = w ∧ r = s := by
  have hsort := sort_eq h
  induction v using induct generalizing w r s with
  | null =>
    cases w with
    | null => exact ⟨rfl, List.append_cancel_left h⟩
    | _ => cases hsort
  | bool b =>
    cases w with
    | bool c =>
      cases b <;> cases c
      case false.false | true.true => exact ⟨rfl, List.append_cancel_left h⟩
      case false.true | true.false =>
        rw [write, write] at h
        cases h
    | _ => cases hsort
  | number m =>
    cases w with
    | number n =>
      rw [write, write] at h
      obtain ⟨rfl, hrest⟩ := toDigits_append_inj hr hs h
      exact ⟨rfl, hrest⟩
    | _ => cases hsort
  | text a =>
    cases w with
    | text b =>
      rw [write, write] at h
      obtain ⟨rfl, hrest⟩ := quoted_append_inj hform h
      exact ⟨rfl, hrest⟩
    | _ => cases hsort
  | array items ih =>
    cases w with
    | array items' =>
      rw [write, write, writeItems_eq, writeItems_eq, List.cons_append, List.cons_append,
        List.append_assoc, List.append_assoc] at h
      obtain ⟨rfl, hrest⟩ := separated_append_inj rfl (by decide)
        (fun _ _ _ => cons_ne_write_append rfl)
        (fun a ha _ _ _ ht hu he => ih a ha ht hu he (sort_eq he)) (List.cons.inj h).2
      exact ⟨rfl, hrest⟩
    | _ => cases hsort
  | object members ih =>
    cases w with
    | object members' =>
      rw [write, write, writeMembers_eq, writeMembers_eq, List.cons_append, List.cons_append,
        List.append_assoc, List.append_assoc] at h
      have hmember : ∀ m ∈ members, ∀ {m' : String × Json} {t u : List Char}, Ended t → Ended u →
          writeMember form m ++ t = writeMember form m' ++ u → m = m' ∧ t = u := by
        intro m hm m' t u ht hu he
        unfold writeMember at he
        rw [List.append_assoc, List.append_assoc] at he
        obtain ⟨hname, hvalue⟩ := quoted_append_inj hform he
        have hwrite := (List.cons.inj hvalue).2
        obtain ⟨hv, hrest⟩ := ih m hm ht hu hwrite (sort_eq hwrite)
        exact ⟨Prod.ext hname hv, hrest⟩
      obtain ⟨rfl, hrest⟩ := separated_append_inj rfl (by decide) (fun _ _ _ he => by cases he)
        hmember (List.cons.inj h).2
      exact ⟨rfl, hrest⟩
    | _ => cases hsort

theorem render_inj (hform : ∀ c, Stands c (form c)) : v.render form = w.render form ↔ v = w := by
  refine ⟨fun h => ?_, fun h => h ▸ rfl⟩
  have hwrite : v.write form = w.write form := String.ofList_inj.mp h
  exact (write_append_inj hform ended_nil ended_nil (congrArg (· ++ []) hwrite)).1

end Json

/-! ## Serializers -/

namespace Datum

/-- A property of all data, by the data they are made of. -/
@[elab_as_elim]
theorem induct {P : Datum → Prop} (bool : ∀ b, P (.bool b)) (number : ∀ n, P (.number n))
    (text : ∀ s, P (.text s)) (none : P (.option none)) (some : ∀ d, P d → P (.option (some d)))
    (list : ∀ items, (∀ d ∈ items, P d) → P (.list items))
    (record : ∀ fields, (∀ f ∈ fields, P f.2) → P (.record fields)) : ∀ d, P d
  | .bool b => bool b
  | .number n => number n
  | .text s => text s
  | .option .none => none
  | .option (.some d) => some d (induct bool number text none some list record d)
  | .list items => list items fun d _ => induct bool number text none some list record d
  | .record fields => record fields fun f hf =>
      have : sizeOf f.2 < sizeOf fields := by
        have := List.sizeOf_lt_of_mem hf
        obtain ⟨name, d⟩ := f
        rw [Prod.mk.sizeOf_spec] at this
        show sizeOf d < sizeOf fields
        omega
      induct bool number text none some list record f.2

theorem jsonItems_eq (items : List Datum) : jsonItems items = items.map json := by
  induction items with
  | nil => rw [jsonItems]; rfl
  | cons d rest ih => rw [jsonItems, ih]; rfl

theorem jsonFields_eq (fields : List (String × Datum)) :
    jsonFields fields = fields.map fun f => (f.1, f.2.json) := by
  induction fields with
  | nil => rw [jsonFields]; rfl
  | cons f rest ih => rw [jsonFields, ih]; rfl

end Datum

namespace Serializer

open Json

variable {ε : Type} {serializer : Serializer ε} {form : Char → List Char}

/-- The serializer makes this text of a value. -/
def Makes (serializer : Serializer ε) (d : Datum) (text : List Char) : Prop :=
  serializer.text d = .ok (String.ofList text)

/-- The texts of a serializer are JSON without blanks: integers in decimal, texts with standard
escapes, records with their fields in the order of their declaration. -/
structure WritesJson (serializer : Serializer ε) (form : Char → List Char) : Prop where
  escapes : ∀ c, Stands c (form c)
  bool : ∀ b, serializer.Makes (.bool b) (if b then "true" else "false").toList
  number : ∀ n, serializer.Makes (.number n) (toString n).toList
  text : ∀ s, serializer.Makes (.text s) (quoted form s)
  none : serializer.Makes (.option none) "null".toList
  some : ∀ d, serializer.text (.option (some d)) = serializer.text d
  list : ∀ items texts, List.Forall₂ serializer.Makes items texts →
    serializer.Makes (.list items) ('[' :: separated texts ++ [']'])
  record : ∀ fields texts, List.Forall₂ (fun f text => serializer.Makes f.2 text) fields texts →
    serializer.Makes (.record fields) ('\x7b' :: separated
      (List.zipWith (fun f text => quoted form f.1 ++ ':' :: text) fields texts) ++ ['\x7d'])

/-- What such a serializer makes of a datum is the document of its JSON value. -/
theorem WritesJson.makes (h : serializer.WritesJson form) (d : Datum) :
    serializer.Makes d (d.json.write form) := by
  induction d using Datum.induct with
  | bool b =>
    rw [Datum.json]
    cases b <;> rw [write] <;> exact h.bool _
  | number n =>
    rw [Datum.json, write, ← String.toList_ofList (l := Nat.toDigits 10 n),
      ← Nat.toString_eq_ofList_toDigits]
    exact h.number n
  | text s =>
    rw [Datum.json, write]
    exact h.text s
  | none =>
    rw [Datum.json, write]
    exact h.none
  | some d ih =>
    rw [Datum.json]
    exact (h.some d).trans ih
  | list items ih =>
    rw [Datum.json, write, writeItems_eq, Datum.jsonItems_eq, List.map_map]
    refine h.list items _ ?_
    rw [List.forall₂_map_right_iff, List.forall₂_same]
    exact ih
  | record fields ih =>
    have hmakes : List.Forall₂ (fun f text => serializer.Makes f.2 text) fields
        (fields.map fun f => f.2.json.write form) := by
      rw [List.forall₂_map_right_iff, List.forall₂_same]
      exact ih
    have hrecord := h.record fields _ hmakes
    rw [List.zipWith_map_right, List.zipWith_self] at hrecord
    rw [Datum.json, write, writeMembers_eq, Datum.jsonFields_eq, List.map_map]
    exact hrecord

theorem WritesJson.text_eq (h : serializer.WritesJson form) (d : Datum) :
    serializer.text d = .ok (d.json.render form) :=
  h.makes d

end Serializer

namespace Json

theorem makes_serializer_iff {d : Datum} {text : List Char} :
    serializer.Makes d text ↔ d.json.write escape = text := by
  show Except.ok (String.ofList _) = Except.ok (String.ofList _) ↔ _
  rw [Except.ok.injEq, String.ofList_inj]

/-- The texts of parts are determined by the parts. -/
theorem map_write_eq_of_makes {α : Type} {part : α → Datum} {parts : List α}
    {texts : List (List Char)}
    (h : List.Forall₂ (fun a text => serializer.Makes (part a) text) parts texts) :
    parts.map (fun a => (part a).json.write escape) = texts := by
  rw [← List.forall₂_eq_eq_eq, List.forall₂_map_left_iff]
  exact h.imp fun _ _ => makes_serializer_iff.mp

/-- The usual way of writing is one of those. -/
theorem writesJson_serializer : serializer.WritesJson escape where
  escapes := stands_escape
  bool b := by cases b <;> exact makes_serializer_iff.mpr (by rw [Datum.json, write]; rfl)
  number n := makes_serializer_iff.mpr <| by
    rw [Datum.json, write, Nat.toString_eq_ofList_toDigits, String.toList_ofList]
  text s := makes_serializer_iff.mpr (by rw [Datum.json, write])
  none := makes_serializer_iff.mpr (by rw [Datum.json, write])
  some d := by
    show Except.ok _ = Except.ok _
    rw [Datum.json]
  list items texts h := by
    rw [makes_serializer_iff, Datum.json, write, writeItems_eq, Datum.jsonItems_eq, List.map_map,
      ← map_write_eq_of_makes h]
    rfl
  record fields texts h := by
    rw [makes_serializer_iff, Datum.json, write, writeMembers_eq, Datum.jsonFields_eq,
      List.map_map, ← map_write_eq_of_makes h, List.zipWith_map_right, List.zipWith_self]
    rfl

end Json

end SlimInterface
