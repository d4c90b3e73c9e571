import Courier.Job.Document
import Courier.Proofs.Json.Text
import Courier.Proofs.Outcome
import Mathlib.Data.List.Nodup
/-! Documents of records. The fields of a record may stand in any order, some may be left out, and
unknown ones may stand among them: what is decoded has the values of the fields that are there, and
is as at the start in all others. -/

namespace Courier

namespace Json

/-- Strings, truth values, null and integers, whatever the count of their digits. -/
inductive IsPlain : Json → Prop where
  | null : IsPlain .null
  | bool (value : Bool) : IsPlain (.bool value)
  | natural (n : Nat) : IsPlain (.number (.natural n))
  | negative (n : Nat) : IsPlain (.number (.negative n))
  | string (value : String) : IsPlain (.string value)

theorem IsPlain.isWhole {json : Json} (plain : json.IsPlain) : json.IsWhole := by
  cases plain <;> constructor

theorem IsPlain.passFlaw? {json : Json} (plain : json.IsPlain) : json.reading.passFlaw? = none := by
  cases plain <;> rfl

/-- A part of a record: its name in documents, and the values there that stand for its own. -/
structure Part where
  name : String
  shows : Json → Prop

def Part.only (name : String) (value : Json) : Part := ⟨name, (· = value)⟩

/-- Whether the fields of an object make a document of a record with these parts: each part at most
once and the needed ones for certain, in any order, and among them any unknown fields. -/
structure IsDocument (extra : Json → Prop) (parts : List Part) (needed : List String)
    (fields : List (String × Json)) : Prop where
  complete : ∀ name ∈ needed, name ∈ fields.map Prod.fst
  once : ((fields.map Prod.fst).filter fun name => name ∈ parts.map Part.name).Nodup
  each : ∀ field ∈ fields, (∃ part ∈ parts, part.name = field.1 ∧ part.shows field.2) ∨
    field.1 ∉ parts.map Part.name ∧ extra field.2

def IsRecord (extra : Json → Prop) (parts : List Part) (needed : List String) (json : Json) : Prop :=
  ∃ fields, json = .object fields ∧ IsDocument extra parts needed fields

variable {extra : Json → Prop} {parts : List Part} {needed : List String}
  {fields : List (String × Json)}

theorem IsDocument.values (document : IsDocument extra parts needed fields) {holds : Json → Prop}
    (known : ∀ part ∈ parts, ∀ value, part.shows value → holds value)
    (unknown : ∀ value, extra value → holds value) : ∀ field ∈ fields, holds field.2 := by
  intro field member
  rcases document.each field member with ⟨part, listed, _, shown⟩ | ⟨_, other⟩
  · exact known part listed field.2 shown
  · exact unknown field.2 other

theorem IsRecord.isWhole {json : Json} (shown : json.IsRecord extra parts needed)
    (known : ∀ part ∈ parts, ∀ value, part.shows value → value.IsWhole)
    (unknown : ∀ value, extra value → value.IsWhole) : json.IsWhole := by
  obtain ⟨fields, rfl, document⟩ := shown
  exact .object (document.values known unknown)

/-- A needed part divides the fields of a document into those before and after it, which are a document
without it. -/
theorem IsDocument.split {part : Part}
    (document : IsDocument extra (part :: parts) (part.name :: needed) fields)
    (alone : part.name ∉ parts.map Part.name) (other : part.name ∉ needed) :
    ∃ before value after, fields = before ++ (part.name, value) :: after ∧ part.shows value ∧
      (∀ field ∈ before ++ after, field.1 ≠ part.name) ∧
      IsDocument extra parts needed (before ++ after) := by
  obtain ⟨⟨name, value⟩, member, same⟩ :=
    List.mem_map.mp (document.complete part.name List.mem_cons_self)
  obtain ⟨before, after, rfl⟩ := List.append_of_mem member
  obtain rfl : name = part.name := same
  have once := document.once
  rw [List.map_append, List.map_cons, List.map_cons, List.filter_append,
    List.filter_cons_of_pos (by simp),
    List.nodup_middle, List.nodup_cons, ← List.filter_append, ← List.map_append] at once
  have differs : ∀ field ∈ before ++ after, field.1 ≠ part.name := by
    intro field member same
    have named : part.name ∈ (before ++ after).map Prod.fst := List.mem_map.mpr ⟨field, member, same⟩
    exact once.1 (List.mem_filter.mpr ⟨named, by simp⟩)
  have others : before ++ after ⊆ before ++ (part.name, value) :: after :=
    ((List.sublist_cons_self _ after).append_left before).subset
  refine ⟨before, value, after, rfl, ?_, differs, ?_, ?_, fun field inner => ?_⟩
  · rcases document.each _ member with ⟨shown, listed, same, shows⟩ | ⟨unknown, _⟩
    · rcases List.mem_cons.mp listed with rfl | later
      · exact shows
      · exact absurd (List.mem_map.mpr ⟨shown, later, same⟩) alone
    · exact absurd (by simp) unknown
  · intro name wanted
    have present := document.complete name (List.mem_cons_of_mem _ wanted)
    have differs : name ≠ part.name := fun same => other (same ▸ wanted)
    simpa [differs] using present
  · refine once.2.sublist (List.monotone_filter_right _ fun name known => ?_)
    simpa using Or.inr (by simpa using known)
  · rcases document.each field (others inner) with ⟨shown, listed, same, shows⟩ | ⟨unknown, plain⟩
    · rcases List.mem_cons.mp listed with rfl | later
      · exact absurd same.symm (differs field inner)
      · exact .inl ⟨shown, later, same, shows⟩
    · rw [List.map_cons, List.mem_cons, not_or] at unknown
      exact .inr ⟨unknown.2, plain⟩

theorem isDocument_of_forall₂ (distinct : (parts.map Part.name).Nodup)
    (all : ∀ name ∈ needed, name ∈ parts.map Part.name)
    (each : List.Forall₂ (fun part field => part.name = field.1 ∧ part.shows field.2) parts fields) :
    IsDocument extra parts needed fields := by
  have names : fields.map Prod.fst = parts.map Part.name := by
    clear distinct all
    induction each with
    | nil => rfl
    | cons both _ ih => rw [List.map_cons, List.map_cons, ih, both.1]
  refine ⟨by simpa only [names] using all, ?_, fun field member => ?_⟩
  · rw [names]
    exact distinct.filter _
  · obtain ⟨part, listed, same, shown⟩ := Outcome.exists_of_mem_forall₂ each.flip member
    exact .inl ⟨part, listed, same, shown⟩

end Json

open Json (Part IsDocument)

/-! ### Records -/

variable {α β : Type}

/-- A value that is there or is the default is the same as the one that is shown. -/
theorem given_or_default {given : Bool} {value default : β} (there : value ≠ default → given = true) :
    (if given then value else default) = value := by
  by_cases same : value = default
  · simp [same]
  · rw [if_pos (there same)]

/-- Whether a field takes from documents what a record has under it, `partly given` being the record
with only its given parts. -/
def Field.Takes (field : Field α) (source : Source) (partly : (String → Bool) → α) (part : Part) :
    Prop :=
  field.name = part.name ∧ ∀ value, part.shows value →
    ∃ change, field.decode source value.reading = .ok change ∧
      ∀ given, change (partly given) = partly fun other => other == part.name || given other

theorem Field.by_takes {name : String} {decode : Source → Reading → Except DecodeError β}
    {set : β → α → α} {source : Source} {partly : (String → Bool) → α} {shows : Json → Prop}
    {wanted : β} (reads : ∀ value, shows value → decode source value.reading = .ok wanted)
    (sets : ∀ given, set wanted (partly given) =
      partly fun other => other == name || given other) :
    (Field.by name decode set).Takes source partly ⟨name, shows⟩ := by
  refine ⟨rfl, fun value shown => ⟨set wanted, ?_, sets⟩⟩
  simp only [Field.by, reads value shown]
  rfl

theorem Field.by_takes_only {name : String} {decode : Source → Reading → Except DecodeError β}
    {set : β → α → α} {source : Source} {partly : (String → Bool) → α} {value : Json} {wanted : β}
    (reads : decode source value.reading = .ok wanted)
    (sets : ∀ given, set wanted (partly given) =
      partly fun other => other == name || given other) :
    (Field.by name decode set).Takes source partly (.only name value) := by
  refine Field.by_takes ?_ sets
  rintro _ rfl
  exact reads

theorem Field.of_takes {name : String} {required : Bool} {decode : Reading → Except DecodeError β}
    {set : β → α → α} {source : Source} {partly : (String → Bool) → α} {value : Json} {wanted : β}
    (reads : decode value.reading = .ok wanted)
    (sets : ∀ given, set wanted (partly given) =
      partly fun other => other == name || given other) :
    (Field.of name required decode set).Takes source partly (.only name value) := by
  refine ⟨rfl, ?_⟩
  rintro _ rfl
  refine ⟨set wanted, ?_, sets⟩
  simp only [Field.of, reads]
  rfl

structure Shape.Takes (shape : Shape α) (source : Source) (parts : List Part)
    (partly : (String → Bool) → α) : Prop where
  start : partly (fun _ => false) = shape.start
  distinct : (parts.map Part.name).Nodup
  each : List.Forall₂ (fun field part => field.Takes source partly part) shape.fields parts

namespace Shape

variable {shape : Shape α} {source : Source} {parts : List Part} {partly : (String → Bool) → α}
  {extra : Json → Prop} {needed : List String} {fields : List (String × Json)}

theorem decodeFields_cons_of_known {closing : Closing} {name : String} {reading : Reading}
    {field : Field α} {change : α → α} {seen : List String}
    (found : shape.fields.find? (fun field => field.name == name) = some field)
    (fresh : seen.contains name = false) (read : field.decode source reading = .ok change)
    (rest : List (Except Flaw String × Reading)) (record : α) :
    shape.decodeFields source closing ((.ok name, reading) :: rest) seen record =
      shape.decodeFields source closing rest (name :: seen) (change record) := by
  rw [decodeFields]
  simp only [Decode.key, Except.mapError, bind, Except.bind, found, fresh, read, Bool.false_eq_true,
    ↓reduceIte]

theorem decodeFields_cons_of_unknown {closing : Closing} {name : String} {reading : Reading}
    (unknown : shape.fields.find? (fun field => field.name == name) = none)
    (passed : reading.passFlaw? = none) (rest : List (Except Flaw String × Reading))
    (seen : List String) (record : α) :
    shape.decodeFields source closing ((.ok name, reading) :: rest) seen record =
      shape.decodeFields source closing rest seen record := by
  rw [decodeFields]
  simp only [Decode.key, Except.mapError, bind, Except.bind, unknown, passed]

theorem find?_of_takes {takers : List (Field α)} (distinct : (parts.map Part.name).Nodup)
    (each : List.Forall₂ (fun field part => field.Takes source partly part) takers parts)
    {part : Part} (member : part ∈ parts) :
    ∃ field, takers.find? (fun field => field.name == part.name) = some field ∧
      field.Takes source partly part := by
  induction each with
  | nil => cases member
  | @cons first head takers parts takes _ ih =>
    rw [List.map_cons, List.nodup_cons] at distinct
    rcases List.mem_cons.mp member with rfl | later
    · exact ⟨first, List.find?_cons_of_pos (by simp [takes.1]), takes⟩
    · have other : first.name ≠ part.name := by
        rw [takes.1]
        rintro same
        exact distinct.1 (same ▸ List.mem_map_of_mem later)
      obtain ⟨field, found, takes⟩ := ih distinct.2 later
      exact ⟨field, by rw [List.find?_cons_of_neg (by simpa using other), found], takes⟩

theorem find?_of_unknown {takers : List (Field α)}
    (each : List.Forall₂ (fun field part => field.Takes source partly part) takers parts)
    {name : String} (unknown : name ∉ parts.map Part.name) :
    takers.find? (fun field => field.name == name) = none := by
  rw [List.find?_eq_none]
  intro field member
  obtain ⟨part, listed, takes⟩ := Outcome.exists_of_mem_forall₂ each member
  have other : part.name ≠ name := fun same => unknown (same ▸ List.mem_map_of_mem listed)
  simpa [takes.1] using other

/-- Each field of a document gives its part to the record that was read so far. -/
theorem decodeFields_of_isDocument (takes : shape.Takes source parts partly)
    (passed : ∀ value, extra value → value.reading.passFlaw? = none)
    (each : ∀ field ∈ fields, (∃ part ∈ parts, part.name = field.1 ∧ part.shows field.2) ∨
      field.1 ∉ parts.map Part.name ∧ extra field.2)
    (seen : List String)
    (once : (((fields.map Prod.fst).filter fun name => name ∈ parts.map Part.name) ++ seen).Nodup) :
    ∃ after, shape.decodeFields source .closed
        (fields.map fun field => (.ok field.1, field.2.reading)) seen (partly seen.contains) =
          .ok (after, partly after.contains) ∧
      ∀ name, name ∈ parts.map Part.name → name ∈ fields.map Prod.fst ∨ name ∈ seen →
        name ∈ after := by
  -- The record so far has the parts that were seen, and is as at the start in all others.
  induction fields generalizing seen with
  | nil => exact ⟨seen, rfl, by simp⟩
  | cons field rest ih =>
    obtain ⟨name, value⟩ := field
    obtain ⟨here, later⟩ := List.forall_mem_cons.mp each
    rw [List.map_cons] at once
    rcases here with ⟨part, listed, rfl, shown⟩ | ⟨unknown, other⟩
    · obtain ⟨taker, found, _, gives⟩ := find?_of_takes takes.distinct takes.each listed
      obtain ⟨change, read, adds⟩ := gives value shown
      have known : part.name ∈ parts.map Part.name := List.mem_map_of_mem listed
      rw [List.filter_cons_of_pos (by simpa using known), List.cons_append,
        ← List.nodup_middle] at once
      have fresh : seen.contains part.name = false := by
        have alone := (List.nodup_cons.mp (List.nodup_middle.mp once)).1
        simpa using fun old => alone (List.mem_append_right _ old)
      have grown : (fun other => other == part.name || seen.contains other) =
          (part.name :: seen).contains := by
        funext other
        exact (List.contains_cons ..).symm
      obtain ⟨after, decoded, there⟩ := ih later (part.name :: seen) once
      refine ⟨after, ?_, fun other own given => there other own ?_⟩
      · rw [List.map_cons, decodeFields_cons_of_known found fresh read, adds, grown]
        exact decoded
      · simpa [or_assoc, or_comm, or_left_comm] using given
    · rw [List.filter_cons_of_neg (by simpa using unknown)] at once
      obtain ⟨after, decoded, there⟩ := ih later seen once
      refine ⟨after, ?_, fun other own given => there other own ?_⟩
      · rw [List.map_cons, decodeFields_cons_of_unknown (find?_of_unknown takes.each unknown)
          (passed value other)]
        exact decoded
      · have differs : other ≠ name := fun same => unknown (same ▸ own)
        simpa [differs] using given

/-- A document is decoded into the record, if what it leaves out is in the record as at the start. -/
theorem decode_of_isRecord (takes : shape.Takes source parts partly)
    (passed : ∀ value, extra value → value.reading.passFlaw? = none)
    (required : ∀ field ∈ shape.fields, field.required = true → field.name ∈ needed)
    (known : ∀ name ∈ needed, name ∈ parts.map Part.name) {record : α}
    (full : ∀ given : String → Bool, (∀ name ∈ needed, given name = true) → partly given = record)
    {json : Json} (shown : json.IsRecord extra parts needed) :
    shape.decode source json.reading = .ok record := by
  obtain ⟨fields, rfl, document⟩ := shown
  obtain ⟨seen, decoded, there⟩ := decodeFields_of_isDocument takes passed document.each []
    (by simpa using document.once)
  have read : ∀ name ∈ needed, seen.contains name = true := by
    intro name member
    simpa using there name (known name member) (.inl (document.complete name member))
  have missing : shape.fields.find? (fun field => field.required && !seen.contains field.name) =
      none := by
    rw [List.find?_eq_none]
    intro field member
    cases must : field.required with
    | false => simp
    | true => simpa using read field.name (required field member must)
  have start : partly (List.contains []) = shape.start := takes.start
  rw [start] at decoded
  rw [Json.reading, Json.readingFields_eq_map, decode, decoded]
  simp only [bind, Except.bind, missing, full seen.contains read]

end Shape

/-! ### Values -/

def Json.IsListOf (shows : β → Json → Prop) (things : List β) (json : Json) : Prop :=
  ∃ items, json = .array items ∧ List.Forall₂ shows things items

theorem Json.IsListOf.items {shows : β → Json → Prop} {things : List β} {json : Json}
    (shown : json.IsListOf shows things) {holds : Json → Prop}
    (known : ∀ thing value, shows thing value → holds value) :
    ∃ items, json = .array items ∧ ∀ item ∈ items, holds item := by
  obtain ⟨items, rfl, each⟩ := shown
  refine ⟨items, rfl, fun item member => ?_⟩
  obtain ⟨thing, _, shown⟩ := Outcome.exists_of_mem_forall₂ each.flip member
  exact known thing item shown

theorem Json.IsListOf.isWhole {shows : β → Json → Prop} {things : List β} {json : Json}
    (shown : json.IsListOf shows things) (known : ∀ thing value, shows thing value → value.IsWhole) :
    json.IsWhole := by
  obtain ⟨items, rfl, each⟩ := shown.items known
  exact .array each

theorem Json.isListOf_map {shows : β → Json → Prop} {write : β → Json}
    (each : ∀ thing, shows thing (write thing)) (things : List β) :
    (Json.array (things.map write)).IsListOf shows things :=
  ⟨_, rfl, List.forall₂_map_right_iff.mpr (List.forall₂_same.mpr fun thing _ => each thing)⟩

theorem Json.isWhole_ofText? (value : Option String) : (Json.ofText? value).IsWhole := by
  cases value <;> constructor

namespace Decode

theorem list_of_isListOf {shows : β → Json → Prop} {decode : Reading → Except DecodeError β}
    (reads : ∀ thing value, shows thing value → decode value.reading = .ok thing)
    {things : List β} {json : Json} (shown : json.IsListOf shows things) :
    list decode json.reading = .ok things := by
  obtain ⟨items, rfl, each⟩ := shown
  have taken : (items.map Json.reading).mapM decode = .ok things := by
    rw [Outcome.mapM_eq_ok_iff, List.forall₂_map_left_iff]
    exact each.flip.imp fun item thing => reads thing item
  rw [Json.reading, Json.readingItems_eq_map, list, taken]
  rfl

theorem natural_nat {n : Nat} (small : n < 2 ^ 64) :
    natural (Json.nat n).reading = .ok n := by
  rw [Json.nat, Json.reading, Json.Number.reread, Json.numberOf_decimal (Nat.le_of_lt_succ small)]
  rfl

theorem optional_ofText? (expected : String) (value : Option String) :
    optional (string expected) (Json.ofText? value).reading = .ok value := by
  cases value <;> rfl

theorem variant_string (source : Source) (known : List (String × β)) (name : String) :
    variant source known (Json.string name).reading = variantNamed known name := by
  cases source <;> rfl

theorem variant_method (source : Source) (method : Method) :
    variant source Method.named (Json.string method.name).reading = .ok method := by
  rw [variant_string]
  cases method <;> rfl

theorem variant_media (source : Source) (media : MediaType) :
    variant source MediaType.named (Json.string media.name).reading = .ok media := by
  rw [variant_string]
  cases media <;> rfl

end Decode

theorem decodeText_text {json : Json} (whole : json.IsWhole)
    (decode : Source → Reading → Except DecodeError β) :
    decodeText decode json.text = decode .text json.reading := by
  rw [decodeText, Json.text, String.toList_ofList, Json.ofText_write whole]
  simp only [bind, Except.bind]
  cases decode .text json.reading <;> rfl

end Courier
