import Courier.Mock.Server
import Courier.Proofs.Bytes
import Courier.Proofs.Text
/-! Answers to the mock server's challenge. The server cuts an answer at its commas and does not know
of backslashes, so it reads what was written as long as no text in the answer holds a comma, a quote
or a backslash. Such an answer is accepted exactly when it is that of the account. -/

namespace Courier.Mock.Account

open Digest (Challenge)

/-! ### One parameter -/

def answerParam? (piece : List Char) : Option (String × String) :=
  (cutAt? (· = '=') piece).map fun (name, value) =>
    (String.ofList (trim name), String.ofList (unquote (trim value)))

theorem answerParam?_append {name : List Char} (clear : '=' ∉ name) (value : List Char) :
    answerParam? (name ++ '=' :: value) =
      some (String.ofList (trim name), String.ofList (unquote (trim value))) := by
  have front : ∀ c ∈ name, decide (c = '=') = false := by
    intro c member
    exact decide_eq_false fun same => clear (same ▸ member)
  rw [answerParam?, cutAt?_append front (by decide), Option.map_some]

/-- A blank before a parameter does not count. -/
theorem answerParam?_blank (piece : List Char) :
    answerParam? (' ' :: piece) = answerParam? piece := by
  have start (name : List Char) : trim (' ' :: name) = trim name := rfl
  simp only [answerParam?, cutAt?, Char.reduceEq, decide_false, Bool.false_eq_true, ↓reduceIte,
    Option.map_map, Function.comp_def, start]

theorem unquote_quoted {value : List Char} (clear : '"' ∉ value) :
    unquote ('"' :: (value ++ ['"'])) = value := by
  change ((('"' :: (value ++ ['"'])).dropWhile (· = '"')).rdropWhile (· = '"')) = value
  cases value with
  | nil => rfl
  | cons c rest =>
    have solid : ∀ d ∈ c :: rest, decide (d = '"') = false := by
      intro d member
      exact decide_eq_false fun same => clear (same ▸ member)
    rw [List.dropWhile_cons_of_pos (by decide),
      dropWhile_append_of_solid (by simp) solid, rdropWhile_append_of_solid solid]
    simp [List.rdropWhile_singleton]

theorem trim_quoted (value : List Char) :
    trim ('"' :: (value ++ ['"'])) = '"' :: (value ++ ['"']) := by
  have solid : isBlank '"' = false := by decide
  have quote : ∀ c ∈ ['"'], isBlank c = false := by simpa using solid
  rw [← List.singleton_append, trim_append_of_solid (by simp) quote,
    List.rdropWhile_concat_neg _ _ _ (by simp [solid])]

theorem answerParam?_enclosed (name : String) {value : String} (clear : '=' ∉ name.toList)
    (bare : trim name.toList = name.toList) (quote : '"' ∉ value.toList) :
    answerParam? (name ++ "=\"" ++ value ++ "\"").toList = some (name, value) := by
  have shape : (name ++ "=\"" ++ value ++ "\"").toList =
      name.toList ++ '=' :: '"' :: (value.toList ++ ['"']) := by simp
  rw [shape, answerParam?_append clear, bare, trim_quoted, unquote_quoted quote]
  simp only [String.ofList_toList]

/-! ### All parameters -/

theorem answerParams_joinTexts {pieces : List String} (given : pieces ≠ [])
    (clear : ∀ piece ∈ pieces, ',' ∉ piece.toList) :
    answerParams (joinTexts ", " pieces).toList =
      pieces.filterMap fun piece => answerParam? piece.toList := by
  obtain ⟨first, rest, rfl⟩ := List.exists_cons_of_ne_nil given
  obtain ⟨first_clear, rest_clear⟩ := List.forall_mem_cons.mp clear
  have cut : splitAt ',' (joinTexts ", " (first :: rest)).toList =
      first.toList :: rest.map fun piece => ' ' :: piece.toList := by
    rw [joinTexts, String.toList_ofList, List.map_cons]
    change splitAt ',' (joinWith (',' :: [' ']) (first.toList :: rest.map String.toList)) = _
    rw [joinWith_cons_padded, List.map_map]
    apply splitAt_joinWith (by simp)
    intro piece member
    rcases List.mem_cons.mp member with rfl | later
    · exact first_clear
    · obtain ⟨other, own, rfl⟩ := List.mem_map.mp later
      simpa using rest_clear other own
  have read (piece : String) : answerParam? (' ' :: piece.toList) = answerParam? piece.toList :=
    answerParam?_blank piece.toList
  change (splitAt ',' (joinTexts ", " (first :: rest)).toList).filterMap answerParam? = _
  rw [cut, List.filterMap_cons, List.filterMap_cons, List.filterMap_map]
  simp only [Function.comp_def, read]

/-! ### Answers -/

structure IsPlain (text : String) : Prop where
  comma : ',' ∉ text.toList
  quote : '"' ∉ text.toList
  slash : '\\' ∉ text.toList

instance (text : String) : Decidable (IsPlain text) :=
  decidable_of_iff (',' ∉ text.toList ∧ '"' ∉ text.toList ∧ '\\' ∉ text.toList)
    ⟨fun ⟨comma, quote, slash⟩ => ⟨comma, quote, slash⟩,
      fun ⟨comma, quote, slash⟩ => ⟨comma, quote, slash⟩⟩

theorem quoted_of_isPlain (name : String) {value : String} (plain : IsPlain value) :
    Digest.quoted name value = name ++ "=\"" ++ value ++ "\"" := by
  have kept : ∀ c ∈ value.toList, (if c = '\\' ∨ c = '"' then ['\\', c] else [c]) = [c] := by
    intro c member
    rw [if_neg]
    rintro (rfl | rfl)
    · exact plain.slash member
    · exact plain.quote member
  simp only [Digest.quoted, Digest.escape, Bool.or_eq_true, decide_eq_true_eq]
  rw [List.flatMap_congr kept, List.flatMap_singleton', String.ofList_toList]

def asked : Challenge where
  realm := realm
  nonce := nonce
  token := some "0pa9ue"
  algorithm := .md5
  qopAuth := true

theorem parse?_challenge : Challenge.parse? challenge = some asked := by decide +kernel

theorem isPlain_hash (text : String) : IsPlain (Digest.hash text) := by
  have digits (c : Char) (other : ∀ n < 16, lowerHexDigit n ≠ c) :
      c ∉ (Digest.hash text).toList := by
    have all : (Md5.hexDigest (Utf8.bytes text)).all (· != c) = true :=
      Hex.all_encode (by simpa using other) _
    rw [Digest.hash, String.toList_ofList]
    intro member
    simpa using List.all_eq_true.mp all c member
  exact ⟨digits ',' (by decide), digits '"' (by decide), digits '\\' (by decide)⟩

def written (uri name response clientNonce : String) : List String :=
  [Digest.quoted "username" name, Digest.quoted "realm" realm, Digest.quoted "nonce" nonce,
    Digest.quoted "uri" uri, "response=\"" ++ response ++ "\"", "algorithm=MD5", "qop=auth",
    "nc=00000001", "cnonce=\"" ++ clientNonce ++ "\"", Digest.quoted "opaque" "0pa9ue"]

theorem authorization_asked (method uri name secret clientNonce : String) :
    asked.authorization method uri name secret clientNonce =
      "Digest " ++ joinTexts ", "
        (written uri name (asked.response method uri name secret clientNonce) clientNonce) := rfl

def taken (uri name response clientNonce : String) : List (String × String) :=
  [("username", name), ("realm", realm), ("nonce", nonce), ("uri", uri), ("response", response),
    ("algorithm", "MD5"), ("qop", "auth"), ("nc", "00000001"), ("cnonce", clientNonce),
    ("opaque", "0pa9ue")]

section

variable {uri name response clientNonce : String}

theorem answerParams_written (uri_plain : IsPlain uri) (name_plain : IsPlain name)
    (response_plain : IsPlain response) (comma : ',' ∉ clientNonce.toList)
    (quote : '"' ∉ clientNonce.toList) :
    answerParams (joinTexts ", " (written uri name response clientNonce)).toList =
      taken uri name response clientNonce := by
  have realm_plain : IsPlain realm := by decide
  have nonce_plain : IsPlain nonce := by decide
  have token_plain : IsPlain "0pa9ue" := by decide
  -- The commas of the answer are those between its parameters.
  have clear : ∀ piece ∈ written uri name response clientNonce, ',' ∉ piece.toList := by
    simp [written, quoted_of_isPlain, uri_plain, name_plain, realm_plain, nonce_plain, token_plain,
      uri_plain.comma, name_plain.comma, realm_plain.comma, nonce_plain.comma,
      response_plain.comma, comma]
  have quoted (key : String) {value : String} (clear : '=' ∉ key.toList)
      (bare : trim key.toList = key.toList) (plain : IsPlain value) :
      answerParam? (Digest.quoted key value).toList = some (key, value) := by
    rw [quoted_of_isPlain key plain, answerParam?_enclosed key clear bare plain.quote]
  have of_username := quoted "username" (by decide) (by decide) name_plain
  have of_realm := quoted "realm" (by decide) (by decide) realm_plain
  have of_nonce := quoted "nonce" (by decide) (by decide) nonce_plain
  have of_uri := quoted "uri" (by decide) (by decide) uri_plain
  have of_token := quoted "opaque" (by decide) (by decide) token_plain
  have of_response : answerParam? ("response=\"" ++ response ++ "\"").toList =
      some ("response", response) :=
    answerParam?_enclosed "response" (by decide) (by decide) response_plain.quote
  have of_count : answerParam? ("cnonce=\"" ++ clientNonce ++ "\"").toList =
      some ("cnonce", clientNonce) :=
    answerParam?_enclosed "cnonce" (by decide) (by decide) quote
  have of_algorithm : answerParam? "algorithm=MD5".toList = some ("algorithm", "MD5") := by decide
  have of_quality : answerParam? "qop=auth".toList = some ("qop", "auth") := by decide
  have of_number : answerParam? "nc=00000001".toList = some ("nc", "00000001") := by decide
  rw [answerParams_joinTexts (by simp [written]) clear]
  simp only [written, taken, List.filterMap_cons, List.filterMap_nil, of_username, of_realm,
    of_nonce, of_uri, of_token, of_response, of_count, of_algorithm, of_quality, of_number]

theorem acceptsParams_taken (method : String) :
    acceptsParams method (taken uri name response clientNonce) =
      (name == username &&
        response == asked.response method uri username password clientNonce) := by
  have expected : expectedResponse method (taken uri name response clientNonce) =
      asked.response method uri username password clientNonce := by
    simp [expectedResponse, taken, param, Challenge.response, Challenge.secretHash, asked, Digest.nonceCount]
  rw [acceptsParams, expected]
  simp [taken, param]

/-- An answer is accepted if it names the account and holds the hash that the account's password
gives. -/
theorem acceptsAnswer_authorization (uri_plain : IsPlain uri) (name_plain : IsPlain name)
    (comma : ',' ∉ clientNonce.toList) (quote : '"' ∉ clientNonce.toList) (method secret : String) :
    acceptsAnswer method (asked.authorization method uri name secret clientNonce) =
      (name == username &&
        asked.response method uri name secret clientNonce ==
          asked.response method uri username password clientNonce) := by
  have response_plain : IsPlain (asked.response method uri name secret clientNonce) := isPlain_hash _
  rw [authorization_asked, ← acceptsParams_taken method,
    ← answerParams_written uri_plain name_plain response_plain comma quote]
  simp only [acceptsAnswer, String.toList_append]
  rfl

end

/-- Whoever asks for the digest page without a right answer is given a challenge to which the answer
with the account's name and password is accepted, and none with another name, as long as all texts
in the answers are plain. -/
theorem account_accepts_own_answers (names : Nat → String) (sessions : List String)
    (request : Incoming) (refused : acceptsDigest request.method request.headers = false) :
    ∃ text challenge,
      Header.values "www-authenticate" (Call.digest.answer names sessions request).1.headers =
        [text] ∧
      Challenge.parse? text = some challenge ∧
      ∀ method uri clientNonce, IsPlain uri → ',' ∉ clientNonce.toList →
        '"' ∉ clientNonce.toList →
        acceptsAnswer method
            (challenge.authorization method uri username password clientNonce) = true ∧
          ∀ name secret, IsPlain name → name ≠ username →
            acceptsAnswer method
              (challenge.authorization method uri name secret clientNonce) = false := by
  have named : IsPlain username := by decide
  refine ⟨challenge, asked, ?_, parse?_challenge, fun method uri clientNonce plain comma quote => ?_⟩
  · simp only [Call.answer, refused]
    rfl
  constructor
  · rw [acceptsAnswer_authorization plain named comma quote]
    simp only [BEq.rfl, Bool.and_self]
  · intro name secret name_plain other
    rw [acceptsAnswer_authorization plain name_plain comma quote, beq_false_of_ne other,
      Bool.false_and]

/-- The target has an equals sign and a blank, and the nonce has a backslash: neither is a text that
the server's cutting spoils. -/
theorem visitor_accepted_as_admin :
    ∃ text challenge,
      Header.values "www-authenticate"
          (Call.digest.answer (fun _ => "s") [] ⟨"GET", "/digest", none, [], []⟩).1.headers = [text] ∧
      Challenge.parse? text = some challenge ∧
      acceptsAnswer "GET" (challenge.authorization "GET" "/digest?a=b c" "admin" "secret" "0\\f") =
        true ∧
      acceptsAnswer "GET" (challenge.authorization "GET" "/digest?a=b c" "ann" "secret" "0\\f") =
        false := by
  obtain ⟨text, challenge, given, parsed, answers⟩ := account_accepts_own_answers (fun _ => "s") []
    ⟨"GET", "/digest", none, [], []⟩ (by decide)
  obtain ⟨accepted, rejected⟩ :=
    answers "GET" "/digest?a=b c" "0\\f" (by decide) (by decide) (by decide)
  exact ⟨text, challenge, given, parsed, accepted, rejected "ann" "secret" (by decide) (by decide)⟩

end Courier.Mock.Account
