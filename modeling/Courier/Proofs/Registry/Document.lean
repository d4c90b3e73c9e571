import Courier.Proofs.Job.Document
import Courier.Proofs.Registry.Keys
/-! Registries as documents. The fields of an entry are kept whole until its kind is known, so its
kind may stand anywhere among them; and every table of entries is read from each document of it. -/

namespace Courier

open Json (Part IsPlain IsDocument IsRecord IsListOf)

variable {extra : Json → Prop}

/-! ### Kept values -/

namespace Json

/-- Plain values that can be kept whole: an integer only if it has a value. -/
structure IsHeld (json : Json) : Prop where
  plain : json.IsPlain
  held : ∀ number, json = .number number → ∃ value, number.reread = .ok value

theorem exists_numberOf_decimal (minus : Bool) {n : Nat} (small : n < 2 ^ 64) :
    ∃ value, Reading.numberOf minus (decimal n) [] none = .ok value := by
  have taken := takeExact_of_readDigits (readDigits_toDigits (by omega) (by omega) n)
    (Nat.le_of_lt_succ small)
  rw [Reading.numberOf, decimal, taken]
  cases minus with
  | false => exact ⟨_, rfl⟩
  | true =>
    by_cases exactly : 0 < n ∧ n ≤ Reading.greatestNegation
    · exact ⟨.negative n, by simp [exactly]⟩
    · exact ⟨.real true n 0, by simp [exactly]⟩

theorem isHeld_of_lt {n : Nat} (small : n < 2 ^ 64) :
    (Json.number (.natural n)).IsHeld ∧ (Json.number (.negative n)).IsHeld := by
  refine ⟨⟨.natural n, ?_⟩, ⟨.negative n, ?_⟩⟩
  · rintro _ ⟨⟩
    exact exists_numberOf_decimal false small
  · rintro _ ⟨⟩
    exact exists_numberOf_decimal true small

theorem IsHeld.keepFlaw? {json : Json} (held : json.IsHeld) (depth : Nat) :
    json.reading.keepFlaw? depth = none := by
  obtain ⟨plain, value⟩ := held
  cases plain with
  | natural n | negative n =>
    obtain ⟨kept, read⟩ := value _ rfl
    simp only [reading, read, Reading.keepFlaw?]
  | _ => rfl

end Json

namespace Reading

theorem keepFlaw?_array {items : List Json} {depth : Nat}
    (each : ∀ item ∈ items, item.reading.keepFlaw? depth = none) :
    (Json.array items).reading.keepFlaw? (depth + 1) = none := by
  rw [Json.reading, keepFlaw?]
  induction items with
  | nil => rfl
  | cons item rest ih =>
    obtain ⟨here, later⟩ := List.forall_mem_cons.mp each
    rw [Json.readingItems, keepItemsFlaw?, here]
    exact ih later

theorem keepFlaw?_object {fields : List (String × Json)} {depth : Nat}
    (each : ∀ field ∈ fields, field.2.reading.keepFlaw? depth = none) :
    (Json.object fields).reading.keepFlaw? (depth + 1) = none := by
  rw [Json.reading, keepFlaw?]
  induction fields with
  | nil => rfl
  | cons field rest ih =>
    obtain ⟨here, later⟩ := List.forall_mem_cons.mp each
    rw [Json.readingFields, keepFieldsFlaw?, here]
    exact ih later

end Reading

theorem Json.IsListOf.keepFlaw? {β : Type} {shows : β → Json → Prop} {things : List β} {json : Json}
    (shown : json.IsListOf shows things) {depth : Nat}
    (kept : ∀ thing value, shows thing value → value.reading.keepFlaw? depth = none) :
    json.reading.keepFlaw? (depth + 1) = none := by
  obtain ⟨items, rfl, each⟩ := shown.items kept
  exact Reading.keepFlaw?_array each

/-! ### Steps of logins -/

theorem Pair.keepFlaw?_of_isShown
    (held : ∀ value depth, extra value → value.reading.keepFlaw? depth = none) (depth : Nat)
    (pair : Pair) (json : Json) (shown : pair.IsShown extra json) :
    json.reading.keepFlaw? (depth + 1) = none := by
  obtain ⟨fields, rfl, document⟩ := shown
  refine Reading.keepFlaw?_object (document.values ?_ fun value => held value depth)
  exact pair.forall_parts_iff.mpr ⟨rfl, rfl⟩

namespace LoginStep

def parts (extra : Json → Prop) (step : LoginStep) : List Part := [
  .only "url" (.string step.url),
  .only "method" (.string step.method.name),
  ⟨"params", IsListOf (Pair.IsShown extra) step.params⟩]

def needed (step : LoginStep) : List String :=
  "url" :: (if step.method = .get then [] else ["method"]) ++
    if step.params = [] then [] else ["params"]

def IsShown (extra : Json → Prop) (step : LoginStep) (json : Json) : Prop :=
  json.IsRecord extra (step.parts extra) step.needed

def partly (step : LoginStep) (given : String → Bool) : LoginStep where
  url := if given "url" then step.url else ""
  method := if given "method" then step.method else .get
  params := if given "params" then step.params else []

theorem takes (passed : ∀ value, extra value → value.reading.passFlaw? = none) (source : Source)
    (step : LoginStep) : shape.Takes source (step.parts extra) step.partly where
  start := rfl
  distinct := show ["url", "method", "params"].Nodup by decide
  each :=
    .cons (Field.of_takes rfl fun given => by simp [partly]) <|
    .cons (Field.by_takes_only (Decode.variant_method source _) fun given => by simp [partly]) <|
    .cons (Field.by_takes
      (fun _ => Decode.list_of_isListOf (Pair.decode_of_isShown passed source))
      fun given => by simp [partly]) .nil

theorem mem_parts_of_needed (step : LoginStep) :
    ∀ name ∈ step.needed, name ∈ (step.parts extra).map Part.name := by
  have all : ∀ name ∈ step.needed, name ∈ ["url", "method", "params"] := by
    unfold needed
    split <;> split <;> decide
  exact all

theorem decode_of_isShown (passed : ∀ value, extra value → value.reading.passFlaw? = none)
    (source : Source) (step : LoginStep) (json : Json) (shown : step.IsShown extra json) :
    decode source json.reading = .ok step := by
  refine Shape.decode_of_isRecord (step.takes passed source) passed ?_ step.mem_parts_of_needed ?_
    shown
  · simp [shape, Field.of, Field.by, needed]
  · intro given all
    have method : step.method ≠ .get → given "method" = true :=
      fun other => all "method" (by simp [needed, other])
    have params : step.params ≠ [] → given "params" = true :=
      fun other => all "params" (by simp [needed, other])
    rw [partly, if_pos (all "url" (by simp [needed])), given_or_default method,
      given_or_default params]

theorem forall_parts_iff (step : LoginStep) {holds : Json → Prop} :
    (∀ part ∈ step.parts extra, ∀ value, part.shows value → holds value) ↔
      holds (.string step.url) ∧ holds (.string step.method.name) ∧
        ∀ value, value.IsListOf (Pair.IsShown extra) step.params → holds value := by
  simp [parts, Part.only]

theorem isWhole_of_isShown (whole : ∀ value, extra value → value.IsWhole) (step : LoginStep)
    (json : Json) (shown : step.IsShown extra json) : json.IsWhole :=
  shown.isWhole (step.forall_parts_iff.mpr ⟨.string _, .string _,
    fun _ pairs => pairs.isWhole (Pair.isWhole_of_isShown whole)⟩) whole

theorem keepFlaw?_of_isShown
    (held : ∀ value depth, extra value → value.reading.keepFlaw? depth = none) (depth : Nat)
    (step : LoginStep) (json : Json) (shown : step.IsShown extra json) :
    json.reading.keepFlaw? (depth + 3) = none := by
  obtain ⟨fields, rfl, document⟩ := shown
  refine Reading.keepFlaw?_object (document.values ?_ fun value => held value _)
  exact step.forall_parts_iff.mpr
    ⟨rfl, rfl, fun _ pairs => pairs.keepFlaw? (Pair.keepFlaw?_of_isShown held depth)⟩

theorem isShown_toJson (extra : Json → Prop) (step : LoginStep) : step.IsShown extra step.toJson := by
  have params := Json.isListOf_map (Pair.isShown_toJson extra) step.params
  exact ⟨_, rfl, Json.isDocument_of_forall₂ (show ["url", "method", "params"].Nodup by decide)
    step.mem_parts_of_needed (.cons ⟨rfl, rfl⟩ <| .cons ⟨rfl, rfl⟩ <| .cons ⟨rfl, params⟩ .nil)⟩

end LoginStep

/-! ### Authentications -/

namespace Authentication

def parts (extra : Json → Prop) : Authentication → List Part
  | .password key username secret => [
    .only "key_name" (.string key),
    .only "username" (.string username),
    .only "password" (.string secret)]
  | .form key steps => [
    .only "key_name" (.string key),
    ⟨"actions", IsListOf (LoginStep.IsShown extra) steps⟩]

def needed : Authentication → List String
  | .password _ _ _ => ["key_name", "username", "password"]
  | .form _ steps => "key_name" :: if steps = [] then [] else ["actions"]

def kind : Authentication → Kind
  | .password _ _ _ => .password
  | .form _ _ => .form

def kindName : Kind → String
  | .password => "basic_digest"
  | .form => "form"

def IsShown (extra : Json → Prop) (entry : Authentication) (json : Json) : Prop :=
  json.IsRecord extra (.only tag (.string (kindName entry.kind)) :: entry.parts extra)
    (tag :: entry.needed)

def passwordPartly (key username secret : String) (given : String → Bool) :
    String × String × String :=
  (if given "key_name" then key else "", if given "username" then username else "",
    if given "password" then secret else "")

def formPartly (key : String) (steps : List LoginStep) (given : String → Bool) :
    String × List LoginStep :=
  (if given "key_name" then key else "", if given "actions" then steps else [])

theorem takes_password (key username secret : String) : passwordShape.Takes .kept
    ((password key username secret).parts extra) (passwordPartly key username secret) where
  start := rfl
  distinct := show ["key_name", "username", "password"].Nodup by decide
  each :=
    .cons (Field.of_takes rfl fun given => by simp [passwordPartly]) <|
    .cons (Field.of_takes rfl fun given => by simp [passwordPartly]) <|
    .cons (Field.of_takes rfl fun given => by simp [passwordPartly]) .nil

theorem takes_form (passed : ∀ value, extra value → value.reading.passFlaw? = none) (key : String)
    (steps : List LoginStep) :
    formShape.Takes .kept ((form key steps).parts extra) (formPartly key steps) where
  start := rfl
  distinct := show ["key_name", "actions"].Nodup by decide
  each :=
    .cons (Field.of_takes rfl fun given => by simp [formPartly]) <|
    .cons (Field.by_takes
      (fun _ => Decode.list_of_isListOf (LoginStep.decode_of_isShown passed .kept))
      fun given => by simp [formPartly]) .nil

theorem forall_parts_password_iff {key username secret : String} {holds : Json → Prop} :
    (∀ part ∈ (password key username secret).parts extra, ∀ value, part.shows value → holds value) ↔
      holds (.string key) ∧ holds (.string username) ∧ holds (.string secret) := by
  simp [parts, Part.only]

theorem forall_parts_form_iff {key : String} {steps : List LoginStep} {holds : Json → Prop} :
    (∀ part ∈ (form key steps).parts extra, ∀ value, part.shows value → holds value) ↔
      holds (.string key) ∧
        ∀ value, value.IsListOf (LoginStep.IsShown extra) steps → holds value := by
  simp [parts, Part.only]

theorem distinct_parts (entry : Authentication) :
    (tag :: (entry.parts extra).map Part.name).Nodup := by
  cases entry with
  | password key username secret =>
    exact show [tag, "key_name", "username", "password"].Nodup by decide
  | form key steps => exact show [tag, "key_name", "actions"].Nodup by decide

theorem mem_parts_of_needed (entry : Authentication) :
    ∀ name ∈ entry.needed, name ∈ (entry.parts extra).map Part.name := by
  cases entry with
  | password key username secret => exact fun _ => id
  | form key steps =>
    have all : ∀ name ∈ (form key steps).needed, name ∈ ["key_name", "actions"] := by
      simp only [needed]
      split <;> decide
    exact all

theorem ofKept_of_isRecord (passed : ∀ value, extra value → value.reading.passFlaw? = none)
    (entry : Authentication) {json : Json}
    (shown : json.IsRecord extra (entry.parts extra) entry.needed) :
    ofKept entry.kind json.reading = .ok entry := by
  have known : ∀ name ∈ entry.needed, name ∈ (entry.parts extra).map Part.name :=
    entry.mem_parts_of_needed
  cases entry with
  | password key username secret =>
    have read : passwordShape.decode .kept json.reading = .ok (key, username, secret) := by
      refine Shape.decode_of_isRecord (takes_password key username secret) passed ?_ known ?_ shown
      · simp [passwordShape, Field.of, needed]
      · intro given all
        simp [needed] at all
        simp [passwordPartly, all]
    simp only [kind, ofKept, read]
    rfl
  | form key steps =>
    have read : formShape.decode .kept json.reading = .ok (key, steps) := by
      refine Shape.decode_of_isRecord (takes_form passed key steps) passed ?_ known ?_ shown
      · simp [formShape, Field.of, Field.by, needed]
      · intro given all
        have actions : steps ≠ [] → given "actions" = true :=
          fun other => all "actions" (by simp [needed, other])
        rw [formPartly, if_pos (all "key_name" (by simp [needed])), given_or_default actions]
    simp only [kind, ofKept, read]
    rfl

theorem splitFields_append {depth : Nat} {closing : Closing} {fields : List (String × Json)}
    (each : ∀ field ∈ fields, field.1 ≠ tag)
    (kept : ∀ field ∈ fields, field.2.reading.keepFlaw? depth = none)
    (rest : List (Except Flaw String × Reading)) (kind : Option Kind)
    (others : List (Except Flaw String × Reading)) :
    splitFields depth closing (Json.readingFields fields ++ rest) kind others =
      splitFields depth closing rest kind ((Json.readingFields fields).reverse ++ others) := by
  induction fields generalizing others with
  | nil => rfl
  | cons field more ih =>
    obtain ⟨other, each⟩ := List.forall_mem_cons.mp each
    obtain ⟨here, kept⟩ := List.forall_mem_cons.mp kept
    rw [Json.readingFields, List.cons_append, splitFields]
    simp only [Decode.key, Except.mapError, bind, Except.bind, if_neg other, keep, here]
    rw [ih each kept, List.reverse_cons, List.append_assoc, List.singleton_append]

theorem splitFields_kind (depth : Nat) (closing : Closing) (kind : Kind)
    (rest others : List (Except Flaw String × Reading)) :
    splitFields depth closing ((.ok tag, (Json.string (kindName kind)).reading) :: rest) none others =
      splitFields depth closing rest (some kind) others := by
  cases kind <;> rfl

/-- The kind is found wherever it stands, and everything else is kept in its order. -/
theorem splitFields_of_kept {depth : Nat} {kind : Kind} {before after : List (String × Json)}
    (each : ∀ field ∈ before ++ after, field.1 ≠ tag)
    (kept : ∀ field ∈ before ++ after, field.2.reading.keepFlaw? depth = none) :
    splitFields depth .closed
        (Json.readingFields (before ++ (tag, .string (kindName kind)) :: after)) none [] =
      .ok (some kind, Json.readingFields (before ++ after)) := by
  have fields : Json.readingFields (before ++ (tag, .string (kindName kind)) :: after) =
      Json.readingFields before ++ (.ok tag, (Json.string (kindName kind)).reading) ::
        (Json.readingFields after ++ []) := by
    simp [Json.readingFields_eq_map]
  rw [List.forall_mem_append] at each kept
  rw [fields, splitFields_append each.1 kept.1, splitFields_kind, splitFields_append each.2 kept.2]
  simp [splitFields, Closing.flaw?, Json.readingFields_eq_map]

theorem decode_of_isShown (passed : ∀ value, extra value → value.reading.passFlaw? = none)
    (held : ∀ value depth, extra value → value.reading.keepFlaw? depth = none)
    (entry : Authentication) (json : Json) (shown : entry.IsShown extra json) :
    decode 1 json.reading = .ok entry := by
  obtain ⟨fields, rfl, document⟩ := shown
  have distinct : (tag :: (entry.parts extra).map Part.name).Nodup := entry.distinct_parts
  rw [List.nodup_cons] at distinct
  obtain ⟨before, _, after, rfl, rfl, differs, others⟩ := document.split distinct.1
    fun wanted => distinct.1 (entry.mem_parts_of_needed _ wanted)
  have kept : ∀ field ∈ before ++ after, field.2.reading.keepFlaw? 125 = none := by
    refine others.values ?_ fun value => held value 125
    cases entry with
    | password key username secret => exact forall_parts_password_iff.mpr ⟨rfl, rfl, rfl⟩
    | form key steps =>
      exact forall_parts_form_iff.mpr
        ⟨rfl, fun _ list => list.keepFlaw? (LoginStep.keepFlaw?_of_isShown held 121)⟩
  have body := ofKept_of_isRecord passed entry ⟨_, rfl, others⟩
  have outer : greatestDepth - 1 - 1 = 125 := rfl
  change decode 1 (Json.object (before ++ (tag, .string (kindName entry.kind)) :: after)).reading = _
  rw [Json.reading] at body ⊢
  simp only [decode, outer, splitFields_of_kept differs kept, bind, Except.bind, body]

theorem isWhole_of_isShown (whole : ∀ value, extra value → value.IsWhole) (entry : Authentication)
    (json : Json) (shown : entry.IsShown extra json) : json.IsWhole := by
  refine shown.isWhole (List.forall_mem_cons.mpr ⟨?_, ?_⟩) whole
  · rintro _ rfl
    exact .string _
  · cases entry with
    | password key username secret =>
      exact forall_parts_password_iff.mpr ⟨.string _, .string _, .string _⟩
    | form key steps =>
      exact forall_parts_form_iff.mpr
        ⟨.string _, fun _ list => list.isWhole (LoginStep.isWhole_of_isShown whole)⟩

theorem isShown_toJson (extra : Json → Prop) (entry : Authentication) :
    entry.IsShown extra entry.toJson := by
  have all : ∀ name ∈ tag :: entry.needed, name ∈ tag :: (entry.parts extra).map Part.name :=
    fun name => by simpa using Or.imp_right (entry.mem_parts_of_needed name)
  cases entry with
  | password key username secret =>
    exact ⟨_, rfl, Json.isDocument_of_forall₂ (distinct_parts _) all
      (.cons ⟨rfl, rfl⟩ <| .cons ⟨rfl, rfl⟩ <| .cons ⟨rfl, rfl⟩ <| .cons ⟨rfl, rfl⟩ .nil)⟩
  | form key steps =>
    exact ⟨_, rfl, Json.isDocument_of_forall₂ (distinct_parts _) all
      (.cons ⟨rfl, rfl⟩ <| .cons ⟨rfl, rfl⟩ <|
        .cons ⟨rfl, Json.isListOf_map (LoginStep.isShown_toJson extra) steps⟩ .nil)⟩

end Authentication

/-! ### Registries -/

namespace Registry

theorem readEntries_documents {entries : List Authentication} {json : Json}
    (shown : json.IsListOf (Authentication.IsShown Json.IsHeld) entries) :
    readEntries json.text = .ok entries := by
  have passed (value : Json) (held : Json.IsHeld value) : value.reading.passFlaw? = none :=
    held.plain.passFlaw?
  have whole := shown.isWhole (Authentication.isWhole_of_isShown fun _ held => held.plain.isWhole)
  rw [readEntries, decodeText_text whole]
  exact Decode.list_of_isListOf
    (Authentication.decode_of_isShown passed fun _ depth held => held.keepFlaw? depth) shown

/-- A table is read from each document of it whose unknown integers can be kept, as all of 64 bits can:
it is the same table, or is refused for a key that is blank or that an earlier entry has. -/
theorem ofText_documents :
    (∀ n < 2 ^ 64, (Json.number (.natural n)).IsHeld ∧ (Json.number (.negative n)).IsHeld) ∧
    ∀ entries : List Authentication,
      (∀ json : Json, json.IsListOf (Authentication.IsShown Json.IsHeld) entries →
        ofText json.text = ofEntries entries) ∧
      ofText (Json.array (entries.map Authentication.toJson)).text = ofEntries entries ∧
      (Keyed entries → ofEntries entries = .ok { entries }) ∧
      (¬Keyed entries → ∃ before entry after, entries = before ++ entry :: after ∧
        (isBlankText entry.key = true ∧ ofEntries entries = .error .emptyKey ∨
          entry.key ∈ before.map Authentication.key ∧
            ofEntries entries = .error (.duplicateKey entry.key))) := by
  refine ⟨fun n small => Json.isHeld_of_lt small, fun entries => ?_⟩
  have read (json : Json) (shown : json.IsListOf (Authentication.IsShown Json.IsHeld) entries) :
      ofText json.text = ofEntries entries := by
    rw [ofText, readEntries_documents shown]
  refine ⟨read, read _ (Json.isListOf_map (Authentication.isShown_toJson _) entries),
    ofEntries_of_keyed, fun clash => ?_⟩
  rw [← keyError?_eq_none_iff, ← ne_eq, Option.ne_none_iff_exists'] at clash
  obtain ⟨error, found⟩ := clash
  obtain ⟨before, entry, after, rfl, blamed⟩ := keyErrorAfter?_blames found
  refine ⟨before, entry, after, rfl, ?_⟩
  rw [ofEntries, found]
  rcases blamed with ⟨blank, rfl⟩ | ⟨known, rfl⟩
  · exact .inl ⟨blank, rfl⟩
  · exact .inr ⟨known, rfl⟩

def visitorDocument (number : Json.Number) : Json := .array [.object [
  ("key_name", .string "visitor"),
  ("note", .number number),
  ("username", .string "ann"),
  (Authentication.tag, .string "basic_digest"),
  ("password", .string "open")]]

theorem isListOf_visitorDocument {extra : Json → Prop} {number : Json.Number}
    (allowed : extra (.number number)) : (visitorDocument number).IsListOf
      (Authentication.IsShown extra) [.password "visitor" "ann" "open"] := by
  refine ⟨_, rfl, .cons ⟨_, rfl, ?_, ?_, ?_⟩ .nil⟩
  · exact show ∀ name ∈ [Authentication.tag, "key_name", "username", "password"],
      name ∈ ["key_name", "note", "username", Authentication.tag, "password"] by decide
  · exact show (["key_name", "note", "username", Authentication.tag, "password"].filter fun name =>
      name ∈ [Authentication.tag, "key_name", "username", "password"]).Nodup by decide
  · simpa [Authentication.parts, Part.only, Authentication.kind, Authentication.kindName,
      Authentication.tag] using allowed

theorem visitor_read :
    (Json.number (.negative (2 ^ 64 - 1))).IsHeld ∧
    (visitorDocument (.natural (10 ^ 30))).IsListOf (Authentication.IsShown Json.IsHeld)
      [.password "visitor" "ann" "open"] ∧
    ofText (visitorDocument (.natural (10 ^ 30))).text =
      .ok { entries := [.password "visitor" "ann" "open"] } ∧
    ∃ before entry after,
      [.password "visitor" "ann" "open", .form "visitor" []] = before ++ entry :: after ∧
      (isBlankText entry.key = true ∧
        ofEntries [.password "visitor" "ann" "open", .form "visitor" []] = .error .emptyKey ∨
      entry.key ∈ before.map Authentication.key ∧
        ofEntries [.password "visitor" "ann" "open", .form "visitor" []] =
          .error (.duplicateKey entry.key)) := by
  have long : (Json.Number.natural (10 ^ 30)).reread = .ok (.real false (10 ^ 19) 11) := by
    decide +kernel
  have held : (Json.number (.natural (10 ^ 30))).IsHeld := by
    refine ⟨.natural _, ?_⟩
    rintro _ ⟨⟩
    exact ⟨_, long⟩
  have shown := isListOf_visitorDocument held
  have keyed : Keyed [.password "visitor" "ann" "open"] := ⟨by decide +kernel, by decide⟩
  have clash : ¬Keyed [.password "visitor" "ann" "open", .form "visitor" []] :=
    fun keyed => absurd keyed.distinct (by decide)
  have read := ofText_documents.2 [.password "visitor" "ann" "open"]
  exact ⟨(ofText_documents.1 (2 ^ 64 - 1) (by decide)).2, shown,
    (read.1 _ shown).trans (read.2.2.1 keyed), (ofText_documents.2 _).2.2.2 clash⟩

/-- An integer out of the range of floating-point numbers cannot be kept. -/
theorem visitor_refused :
    Keyed [.password "visitor" "ann" "open"] ∧
    (visitorDocument (.natural (10 ^ 400))).IsListOf (Authentication.IsShown IsPlain)
      [.password "visitor" "ann" "open"] ∧
    ofText (visitorDocument (.natural (10 ^ 400))).text =
      .error (.invalidRegistry (.flaw .malformed)) := by
  have shown := isListOf_visitorDocument (IsPlain.natural (10 ^ 400))
  have whole := shown.isWhole (Authentication.isWhole_of_isShown fun _ plain => plain.isWhole)
  have long : (Json.Number.natural (10 ^ 400)).reread = .error .malformed := by decide +kernel
  have unread : Decode.list (Authentication.decode 1)
      (visitorDocument (.natural (10 ^ 400))).reading = .error (.flaw .malformed) := by
    simp only [visitorDocument, Json.reading, Json.readingItems, Json.readingFields, long]
    rfl
  refine ⟨⟨by decide +kernel, by decide⟩, shown, ?_⟩
  rw [ofText, readEntries, decodeText_text whole, unread]

end Registry
end Courier
