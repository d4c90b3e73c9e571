import Courier.Digest.Challenge
import Courier.Proofs.Bytes
import Courier.Proofs.Text
import Mathlib.Data.List.Forall2
/-! Answers to challenges read back. Whatever user name, realm or other text goes into an answer, the
parameters that are read from it are those that were meant, in their order and with their values:
escaping leaves no text a way out of its quotes. -/

namespace Courier.Digest

/-! ### What is read -/

structure IsName (name : List Char) : Prop where
  given : name ≠ []
  solid : ∀ c ∈ name, isNameChar c = true ∧ isBlank c = false

structure IsBare (value : List Char) : Prop where
  given : value ≠ []
  solid : ∀ c ∈ value, isBlank c = false ∧ c ≠ ',' ∧ c ≠ '"'

instance (name : List Char) : Decidable (IsName name) :=
  decidable_of_iff (name ≠ [] ∧ name.all fun c => isNameChar c && !isBlank c) (by
    simp only [List.all_eq_true, Bool.and_eq_true, Bool.not_eq_true']
    exact ⟨fun ⟨given, solid⟩ => ⟨given, solid⟩, fun named => ⟨named.given, named.solid⟩⟩)

instance (value : List Char) : Decidable (IsBare value) :=
  decidable_of_iff (value ≠ [] ∧ value.all fun c => !isBlank c && c != ',' && c != '"') (by
    simp only [List.all_eq_true, Bool.and_eq_true, Bool.not_eq_true', bne_iff_ne, and_assoc]
    exact ⟨fun ⟨given, solid⟩ => ⟨given, solid⟩, fun bare => ⟨bare.given, bare.solid⟩⟩)

theorem params_nil : params [] = [] := by
  rw [params]
  rfl

/-- Blanks and commas in front of a name do not count. -/
theorem params_of_same_start {text other : List Char}
    (same : text.dropWhile isGap = other.dropWhile isGap) : params text = params other := by
  rw [params, params, same]

/-- A name ends at the equals sign or comma after it; blanks before that do not belong to it. -/
theorem params_spaced_name {name blanks rest : List Char} (named : IsName name)
    (blank : ∀ c ∈ blanks, isBlank c = true) (ends : ∀ c ∈ rest.head?, isNameChar c = false) :
    params (name ++ (blanks ++ rest)) = (name, (cutAssigned rest).1) :: params (cutAssigned rest).2 := by
  have solid : ∀ c ∈ name, isBlank c = false := fun c member => (named.solid c member).2
  have chars : ∀ c ∈ name ++ blanks, isNameChar c = true := by
    intro c member
    rcases List.mem_append.mp member with own | after
    · exact (named.solid c own).1
    · have mark : ∀ d, isBlank d = true → d ≠ '=' ∧ d ≠ ',' := by
        intro d space
        constructor <;> intro same <;> rw [same] at space <;> cases space
      simp [isNameChar, mark c (blank c after)]
  have gaps : ∀ c ∈ name, isGap c = false := by
    intro c member
    have comma : c ≠ ',' := by
      have plain := (named.solid c member).1
      simp only [isNameChar, Bool.and_eq_true, decide_eq_true_eq] at plain
      exact plain.2
    simp [isGap, solid c member, comma]
  have starts : (name ++ blanks ++ rest).dropWhile isGap = name ++ blanks ++ rest := by
    rw [List.append_assoc]
    exact dropWhile_append_of_solid named.given gaps (blanks ++ rest)
  have kept : trim (name ++ blanks) = name := by
    rw [trim_append_of_solid named.given solid, List.rdropWhile_eq_nil_iff.mpr blank,
      List.append_nil]
  have shown : name.isEmpty = false := List.isEmpty_eq_false_iff.mpr named.given
  rw [← List.append_assoc, params]
  simp only [starts, takeWhile_part chars ends, dropWhile_part chars ends, kept, shown, ↓reduceDIte]

theorem params_name {name rest : List Char} (named : IsName name)
    (ends : ∀ c ∈ rest.head?, isNameChar c = false) :
    params (name ++ rest) = (name, (cutAssigned rest).1) :: params (cutAssigned rest).2 := by
  have blank : ∀ c ∈ ([] : List Char), isBlank c = true := by simp
  exact params_spaced_name named blank ends

/-! ### Values -/

def escapeChar (c : Char) : List Char := if c = '\\' || c = '"' then ['\\', c] else [c]

theorem toList_escape (text : String) : (escape text).toList = text.toList.flatMap escapeChar := by
  rw [escape, String.toList_ofList]
  rfl

def replaced (c : Char) (other text : List Char) : List Char :=
  text.flatMap fun d => if d = c then other else [d]

/-- Escaping all backslashes and then all quotes comes to the same as going through the text once. -/
theorem replaced_replaced (text : List Char) :
    replaced '"' ['\\', '"'] (replaced '\\' ['\\', '\\'] text) = text.flatMap escapeChar := by
  unfold replaced
  rw [List.flatMap_assoc]
  apply List.flatMap_congr
  intro c _
  by_cases slash : c = '\\'
  · subst slash
    rfl
  · by_cases quote : c = '"'
    · subst quote
      rfl
    · simp [escapeChar, slash, quote]

theorem escape_eq_replaced (text : String) :
    escape text = String.ofList
      (replaced '"' ['\\', '"'] (replaced '\\' ['\\', '\\'] text.toList)) := by
  rw [replaced_replaced, ← toList_escape, String.ofList_toList]

theorem cutQuoted_escaped (value rest : List Char) :
    cutQuoted (value.flatMap escapeChar ++ '"' :: rest) = (value, rest) := by
  induction value with
  | nil => rfl
  | cons c more ih =>
    rw [List.flatMap_cons, List.append_assoc]
    by_cases slash : c = '\\'
    · subst slash
      simp [escapeChar, cutQuoted, ih]
    by_cases quote : c = '"'
    · subst quote
      simp [escapeChar, cutQuoted, ih]
    simp [escapeChar, slash, quote, cutQuoted, ih]

theorem escape_of_clear {text : String} (clear : ∀ c ∈ text.toList, c ≠ '"' ∧ c ≠ '\\') :
    escape text = text := by
  have kept : ∀ c ∈ text.toList, escapeChar c = [c] := by
    intro c member
    simp [escapeChar, clear c member]
  rw [← String.toList_inj, toList_escape, List.flatMap_congr kept, List.flatMap_singleton']

/-- The texts that can stand after an equals sign without quotes. -/
structure IsUnquoted (value : List Char) : Prop where
  given : value ≠ []
  comma : ',' ∉ value
  trimmed : trim value = value
  quote : value.head? ≠ some '"'

instance (value : List Char) : Decidable (IsUnquoted value) :=
  decidable_of_iff (value ≠ [] ∧ ',' ∉ value ∧ trim value = value ∧ value.head? ≠ some '"')
    ⟨fun ⟨given, comma, trimmed, quote⟩ => ⟨given, comma, trimmed, quote⟩,
      fun ⟨given, comma, trimmed, quote⟩ => ⟨given, comma, trimmed, quote⟩⟩

/-- What stands up to the next comma is read as it stands; blanks before that comma do not belong to
it. -/
theorem cutValue_unquoted {value rest : List Char} (unquoted : IsUnquoted value)
    (ends : ∀ c ∈ (trimLeft rest).head?, c = ',') :
    cutValue (value ++ rest) = (value, trimLeft rest) := by
  obtain ⟨given, comma, trimmed, quote⟩ := unquoted
  obtain ⟨left, right⟩ := ends_of_trimmed trimmed
  let blanks := rest.takeWhile isBlank
  have blank : ∀ c ∈ blanks, isBlank c = true := fun c member => List.mem_takeWhile_imp member
  have whole : value ++ rest = value ++ blanks ++ trimLeft rest := by
    rw [List.append_assoc]
    exact congrArg (value ++ ·) List.takeWhile_append_dropWhile.symm
  have starts : trimLeft (value ++ rest) = value ++ rest := by
    rw [trimLeft, List.dropWhile_append, left]
    simp [given]
  have inside : ∀ c ∈ value ++ blanks, decide (c ≠ ',') = true := by
    intro c member
    apply decide_eq_true
    intro same
    rcases List.mem_append.mp member with own | after
    · exact comma (same ▸ own)
    · have space := blank c after
      rw [same] at space
      cases space
  have stops : ∀ c ∈ (trimLeft rest).head?, decide (c ≠ ',') = false := by
    intro c member
    simp [ends c member]
  have kept : trim (value ++ blanks) = value := by
    have front : (value ++ blanks).dropWhile isBlank = value ++ blanks := by
      rw [List.dropWhile_append, left]
      simp [given]
    rw [trim_eq, front, rdropWhile_append_of_blank blank, right]
  unfold cutValue
  rw [starts]
  split
  next inner shown =>
    obtain ⟨c, more, rfl⟩ := List.exists_cons_of_ne_nil given
    exact absurd (congrArg some (List.cons.inj shown).1) quote
  next => rw [whole, takeWhile_part inside stops, dropWhile_part inside stops, kept]

theorem IsBare.isUnquoted {value : List Char} (bare : IsBare value) : IsUnquoted value where
  given := bare.given
  comma := fun member => (bare.solid ',' member).2.1 rfl
  trimmed := trim_of_solid fun c member => (bare.solid c member).1
  quote := fun first => (bare.solid '"' (List.mem_of_head? first)).2.2 rfl

theorem cutValue_bare {value rest : List Char} (bare : IsBare value)
    (ends : ∀ c ∈ rest.head?, c = ',') : cutValue (value ++ rest) = (value, rest) := by
  have starts : trimLeft rest = rest := by
    cases rest with
    | nil => rfl
    | cons c more =>
      have comma : c = ',' := ends c rfl
      subst comma
      rfl
  have cut := cutValue_unquoted bare.isUnquoted (starts.symm ▸ ends)
  rwa [starts] at cut

/-! ### Parameters -/

/-- Whether a piece of a list is read as one parameter, whatever follows it. -/
def Writes (piece : List Char) (param : List Char × List Char) : Prop :=
  ∀ rest : List Char, (∀ c ∈ rest.head?, c = ',') → params (piece ++ rest) = param :: params rest

def WritesField (piece : String) (field : String × String) : Prop :=
  Writes piece.toList (field.1.toList, field.2.toList)

theorem writesField_quoted (name value : String) (named : IsName name.toList) :
    WritesField (quoted name value) (name, value) := by
  intro rest _
  have shape : (quoted name value).toList ++ rest =
      name.toList ++ '=' :: '"' :: (value.toList.flatMap escapeChar ++ '"' :: rest) := by
    simp [quoted, toList_escape]
  have assigned : cutAssigned ('=' :: '"' :: (value.toList.flatMap escapeChar ++ '"' :: rest)) =
      (value.toList, rest) := cutQuoted_escaped value.toList rest
  rw [shape, params_name named (by simp [isNameChar]), assigned]

/-- Quotes alone are enough around a text that holds no quote and no backslash. -/
theorem writesField_enclosed (name value : String) (named : IsName name.toList)
    (clear : ∀ c ∈ value.toList, c ≠ '"' ∧ c ≠ '\\') :
    WritesField (name ++ "=\"" ++ value ++ "\"") (name, value) := by
  have written := writesField_quoted name value named
  rwa [quoted, escape_of_clear clear] at written

theorem writesField_bare (name value : String) (named : IsName name.toList)
    (bare : IsBare value.toList) : WritesField (name ++ "=" ++ value) (name, value) := by
  intro rest ends
  have shape : (name ++ "=" ++ value).toList ++ rest =
      name.toList ++ '=' :: (value.toList ++ rest) := by simp
  have assigned : cutAssigned ('=' :: (value.toList ++ rest)) = (value.toList, rest) :=
    cutValue_bare bare ends
  rw [shape, params_name named (by simp [isNameChar]), assigned]

theorem params_joinWith {pieces : List (List Char)} {fields : List (List Char × List Char)}
    (each : List.Forall₂ Writes pieces fields) : params (joinWith [',', ' '] pieces) = fields := by
  induction each with
  | nil => exact params_nil
  | @cons piece field pieces fields here later ih =>
    cases later with
    | nil =>
      have last := here [] (by simp)
      simpa [joinWith, params_nil] using last
    | @cons second other more others _ _ =>
      have gap : params (',' :: ' ' :: joinWith [',', ' '] (second :: more)) =
          params (joinWith [',', ' '] (second :: more)) := params_of_same_start rfl
      calc params (joinWith [',', ' '] (piece :: second :: more))
        _ = params (piece ++ ',' :: ' ' :: joinWith [',', ' '] (second :: more)) := by
          rw [joinWith_cons_cons, List.append_assoc]
          rfl
        _ = field :: params (',' :: ' ' :: joinWith [',', ' '] (second :: more)) :=
          here _ (by simp)
        _ = field :: other :: others := by rw [gap, ih]

/-! ### Hashes -/

def hashed (texts : List String) : String := hash (joinTexts ":" texts)

/-- The hash for user, realm and password; the session variant of MD5 hashes it once more with both
nonces (RFC 2617, A1). -/
def Challenge.userHash (challenge : Challenge) (username password clientNonce : String) : String :=
  match challenge.algorithm with
  | .md5 => hashed [username, challenge.realm, password]
  | .md5Session =>
    hashed [hashed [username, challenge.realm, password], challenge.nonce, clientNonce]

/-- What proves to the server that the password is known (RFC 2617, request-digest). -/
def Challenge.proof (challenge : Challenge)
    (method uri username password clientNonce : String) : String :=
  let user := challenge.userHash username password clientNonce
  let request := hashed [method, uri]
  if challenge.qopAuth then
    hashed [user, challenge.nonce, "00000001", clientNonce, "auth", request]
  else hashed [user, challenge.nonce, request]

theorem secretHash_eq_userHash (challenge : Challenge) (username password clientNonce : String) :
    challenge.secretHash username password clientNonce =
      challenge.userHash username password clientNonce := by
  unfold Challenge.secretHash Challenge.userHash
  cases challenge.algorithm <;>
    simp only [hashed, joinTexts_cons, joinTexts_singleton, String.append_assoc]

theorem response_eq_proof (challenge : Challenge)
    (method uri username password clientNonce : String) :
    challenge.response method uri username password clientNonce =
      challenge.proof method uri username password clientNonce := by
  have quality : ":auth:" = ":" ++ ("auth" ++ ":") := rfl
  simp only [Challenge.response, secretHash_eq_userHash, Challenge.proof, hashed, joinTexts_cons,
    joinTexts_singleton, nonceCount, quality, String.append_assoc]

theorem decode?_hash (text : String) :
    Hex.decode? (hash text).toList = some (Md5.digest (Utf8.bytes text)) := by
  rw [hash, String.toList_ofList]
  exact Hex.decode?_encode _

theorem all_hash {kind : Char → Bool} (digits : ∀ n < 16, kind (lowerHexDigit n) = true)
    (text : String) : ∀ c ∈ (hash text).toList, kind c = true := by
  have all : (Md5.hexDigest (Utf8.bytes text)).all kind = true := Hex.all_encode digits _
  rw [hash, String.toList_ofList]
  exact List.all_eq_true.mp all

/-! ### Answers -/

def Challenge.fields (challenge : Challenge)
    (method uri username password clientNonce : String) : List (String × String) :=
  [("username", username), ("realm", challenge.realm), ("nonce", challenge.nonce), ("uri", uri),
    ("response", challenge.proof method uri username password clientNonce),
    ("algorithm", match challenge.algorithm with
      | .md5 => "MD5"
      | .md5Session => "MD5-sess")] ++
  (if challenge.qopAuth then [("qop", "auth"), ("nc", "00000001"), ("cnonce", clientNonce)]
    else []) ++
  challenge.token.toList.map fun token => ("opaque", token)

theorem params_joinTexts {pieces : List String} {fields : List (String × String)}
    (each : List.Forall₂ WritesField pieces fields) :
    params (joinTexts ", " pieces).toList =
      fields.map fun field => (field.1.toList, field.2.toList) := by
  rw [joinTexts, String.toList_ofList]
  apply params_joinWith
  rw [List.forall₂_map_left_iff, List.forall₂_map_right_iff]
  exact each

theorem isClear_proof (challenge : Challenge) (method uri username password clientNonce : String) :
    ∀ c ∈ (challenge.proof method uri username password clientNonce).toList,
      c ≠ '"' ∧ c ≠ '\\' := by
  let kind : Char → Bool := fun c => c != '"' && c != '\\'
  have digits : ∀ n < 16, kind (lowerHexDigit n) = true := by decide
  have clear (text : String) : ∀ c ∈ (hash text).toList, c ≠ '"' ∧ c ≠ '\\' := by
    intro c member
    simpa [kind] using all_hash digits text c member
  unfold Challenge.proof
  dsimp only
  split <;> exact clear _

theorem exists_pieces (challenge : Challenge) (method uri username password : String)
    {clientNonce : String} (plain : ∀ c ∈ clientNonce.toList, c ≠ '"' ∧ c ≠ '\\') :
    ∃ pieces, challenge.authorization method uri username password clientNonce =
        "Digest " ++ joinTexts ", " pieces ∧
      List.Forall₂ WritesField pieces
        (challenge.fields method uri username password clientNonce) := by
  refine ⟨_, rfl, ?_⟩
  rw [response_eq_proof]
  have response := writesField_enclosed "response"
    (challenge.proof method uri username password clientNonce) (by decide)
    (isClear_proof challenge method uri username password clientNonce)
  have algorithm : WritesField ("algorithm=" ++ challenge.algorithm.name)
      ("algorithm", match challenge.algorithm with
        | .md5 => "MD5"
        | .md5Session => "MD5-sess") := by
    cases challenge.algorithm with
    | md5 => exact writesField_bare "algorithm" "MD5" (by decide) (by decide)
    | md5Session => exact writesField_bare "algorithm" "MD5-sess" (by decide) (by decide)
  apply List.rel_append
  apply List.rel_append
  · exact .cons (writesField_quoted "username" username (by decide))
      (.cons (writesField_quoted "realm" challenge.realm (by decide))
        (.cons (writesField_quoted "nonce" challenge.nonce (by decide))
          (.cons (writesField_quoted "uri" uri (by decide)) (.cons response (.cons algorithm .nil)))))
  · split
    · have quality := writesField_bare "qop" "auth" (by decide) (by decide)
      have count := writesField_bare "nc" "00000001" (by decide) (by decide)
      have nonce := writesField_enclosed "cnonce" clientNonce (by decide) plain
      exact .cons quality (.cons count (.cons nonce .nil))
    · exact .nil
  · cases challenge.token with
    | none => exact .nil
    | some token => exact .cons (writesField_quoted "opaque" token (by decide)) .nil

/-- Whatever texts go into an answer, reading it gives these texts and nothing else, as long as the
client's own nonce needs no escaping. Its response is made of hashes in lower-case digits. -/
theorem answer_reads_back (challenge : Challenge) (method uri username password clientNonce : String)
    (plain : ∀ c ∈ clientNonce.toList, c ≠ '"' ∧ c ≠ '\\') :
    (∃ rest, challenge.authorization method uri username password clientNonce = "Digest " ++ rest ∧
      params rest.toList =
        (challenge.fields method uri username password clientNonce).map fun field =>
          (field.1.toList, field.2.toList)) ∧
    challenge.response method uri username password clientNonce =
      challenge.proof method uri username password clientNonce ∧
    ∀ text, Hex.decode? (hash text).toList = some (Md5.digest (Utf8.bytes text)) ∧
      ∀ c ∈ (hash text).toList, isAsciiDigit c = true ∨ 'a' ≤ c ∧ c ≤ 'f' := by
  refine ⟨?_, response_eq_proof challenge method uri username password clientNonce, fun text => ?_⟩
  · obtain ⟨pieces, written, each⟩ := exists_pieces challenge method uri username password plain
    exact ⟨joinTexts ", " pieces, written, params_joinTexts each⟩
  · let kind : Char → Bool := fun c => isAsciiDigit c || ('a' ≤ c && c ≤ 'f')
    have digits : ∀ n < 16, kind (lowerHexDigit n) = true := by decide
    refine ⟨decode?_hash text, fun c member => ?_⟩
    simpa [kind] using all_hash digits text c member

def porch : Challenge where
  realm := "porch\\"
  nonce := "0\", opaque=\"1"
  token := some "\"\\, nc=2"
  algorithm := .md5Session
  qopAuth := true

/-- The user name brings a realm with it, which is not read as one. -/
theorem porch_reads_back :
    (∀ c ∈ "4f,=".toList, c ≠ '"' ∧ c ≠ '\\') ∧
      ∃ rest, porch.authorization "GET" "/a?b=\"c" "ann\", realm=\"x" "open" "4f,=" =
          "Digest " ++ rest ∧
        (params rest.toList).map Prod.fst =
          ["username", "realm", "nonce", "uri", "response", "algorithm", "qop", "nc", "cnonce",
            "opaque"].map String.toList ∧
        (params rest.toList).head? = some ("username".toList, "ann\", realm=\"x".toList) ∧
        (params rest.toList)[1]? = some ("realm".toList, "porch\\".toList) := by
  have plain : ∀ c ∈ "4f,=".toList, c ≠ '"' ∧ c ≠ '\\' := by simp
  obtain ⟨⟨rest, written, read⟩, _⟩ :=
    answer_reads_back porch "GET" "/a?b=\"c" "ann\", realm=\"x" "open" "4f,=" plain
  refine ⟨plain, rest, written, ?_⟩
  rw [read]
  exact ⟨rfl, rfl, rfl⟩

end Courier.Digest
