import Courier.Digest.Challenge
import Courier.Proofs.Bytes
import Courier.Proofs.Digest.Scanning
import Courier.Proofs.Header
/-! What an answer to a challenge is made of. Everything in a challenge comes from the header that
held it, so an answer can be sent exactly when the user name can: nothing else in it is free. -/

namespace Courier.Digest

open Header (isValue isValueChar isReadable isReadableChar)

/-! ### Challenges -/

structure Challenge.From (challenge : Challenge) (text : List Char) : Prop where
  realm : challenge.realm.toList ⊆ text
  nonce : challenge.nonce.toList ⊆ text
  token : ∀ token ∈ challenge.token, token.toList ⊆ text

theorem lastValue?_subset {name : String} {text value : List Char}
    (found : lastValue? name (params text) = some value) : value ⊆ text := by
  simp only [lastValue?, Option.map_eq_some_iff] at found
  obtain ⟨param, found, rfl⟩ := found
  exact (params_subset text param (List.mem_reverse.mp (List.mem_of_find?_eq_some found))).2

theorem ofParams?_from {text : List Char} {challenge : Challenge}
    (made : ofParams? (params text) = some challenge) : challenge.From text := by
  simp only [ofParams?, Option.bind_eq_bind, Option.bind_eq_some_iff] at made
  obtain ⟨algorithms, _, made⟩ := made
  obtain ⟨_, made⟩ := Option.ite_none_left_eq_some.mp made
  obtain ⟨realm, realm_found, made⟩ := Option.bind_eq_some_iff.mp made
  obtain ⟨nonce, nonce_found, made⟩ := Option.bind_eq_some_iff.mp made
  obtain rfl := Option.some.inj made
  constructor
  case realm =>
    rw [String.toList_ofList]
    exact lastValue?_subset realm_found
  case nonce =>
    rw [String.toList_ofList]
    exact lastValue?_subset nonce_found
  case token =>
    intro token member
    obtain ⟨value, found, rfl⟩ := Option.map_eq_some_iff.mp member
    rw [String.toList_ofList]
    exact lastValue?_subset found

theorem Challenge.from_of_parse {header : String} {challenge : Challenge}
    (parsed : Challenge.parse? header = some challenge) : challenge.From header.toList := by
  simp only [Challenge.parse?, Option.bind_eq_bind, Option.bind_eq_some_iff] at parsed
  obtain ⟨⟨scheme, rest⟩, cut, parsed⟩ := parsed
  obtain ⟨_, made⟩ := Option.ite_none_right_eq_some.mp parsed
  obtain ⟨_, split, _⟩ := cutAt?_eq_some cut
  have inner : rest ⊆ header.toList := by
    intro c member
    apply (trim_sublist _).subset
    rw [split]
    exact List.mem_append_right _ (List.mem_cons_of_mem _ member)
  have held := ofParams?_from made
  exact ⟨List.Subset.trans held.realm inner, List.Subset.trans held.nonce inner,
    fun token member => List.Subset.trans (held.token token member) inner⟩

/-! ### Answers -/

section

variable {kind : Char → Bool} (printable : ∀ c, isReadableChar c = true → kind c = true)
include printable

theorem all_of_subset {value : String} {text : List Char} (held : value.toList ⊆ text)
    (readable : ∀ c ∈ text, isReadableChar c = true) : value.toList.all kind = true :=
  List.all_eq_true.mpr fun c member => printable c (readable c (held member))

theorem all_escape (text : String) : (escape text).toList.all kind = text.toList.all kind := by
  have mark : kind '\\' = true := printable _ (by decide)
  simp only [escape, String.toList_ofList, List.all_flatMap]
  congr 1
  funext c
  split <;> simp [mark]

theorem all_quoted {name : String} (fine : isReadable name = true) (value : String) :
    (quoted name value).toList.all kind = value.toList.all kind := by
  have around : isReadable "=\"" = true ∧ isReadable "\"" = true := by decide
  have named := Header.all_of_isReadable printable fine
  have opening := Header.all_of_isReadable printable around.1
  have closing := Header.all_of_isReadable printable around.2
  simp only [quoted, String.toList_append, List.all_append, all_escape printable, named, opening,
    closing, Bool.true_and, Bool.and_true]

theorem all_quality {clientNonce : String} (nonce_fine : clientNonce.toList.all kind = true)
    (qopAuth : Bool) :
    (if qopAuth then ["qop=auth", "nc=" ++ nonceCount, "cnonce=\"" ++ clientNonce ++ "\""]
      else []).all (·.toList.all kind) = true := by
  have parts : isReadable "qop=auth" = true ∧ isReadable ("nc=" ++ nonceCount) = true ∧
      isReadable "cnonce=\"" = true ∧ isReadable "\"" = true := by decide
  obtain ⟨quality, count, opening, closing⟩ := parts
  have shown : ("cnonce=\"" ++ clientNonce ++ "\"").toList.all kind = true := by
    rw [String.toList_append, String.toList_append, List.all_append, List.all_append, nonce_fine,
      Header.all_of_isReadable printable opening, Header.all_of_isReadable printable closing]
    rfl
  cases qopAuth with
  | false => rfl
  | true =>
    rw [if_pos rfl, List.all_cons, List.all_cons, List.all_cons, shown,
      Header.all_of_isReadable printable quality, Header.all_of_isReadable printable count]
    rfl

end

theorem isReadable_hash (text : String) : isReadable (hash text) = true := by
  rw [hash, Header.isReadable_ofList]
  exact Hex.readable_encode _

theorem isReadable_response (challenge : Challenge)
    (method uri username password clientNonce : String) :
    isReadable (challenge.response method uri username password clientNonce) = true := by
  unfold Challenge.response
  dsimp only
  split <;> exact isReadable_hash _

/-- All parts of an answer but the user name are fixed, digests or taken from the header of the
challenge, so the answer is of a kind that printable characters are of exactly when the name is. -/
theorem all_authorization {kind : Char → Bool}
    (printable : ∀ c, isReadableChar c = true → kind c = true) {challenge : Challenge}
    {text : List Char} (held : challenge.From text) (readable : ∀ c ∈ text, isReadableChar c = true)
    (method : String) {uri clientNonce : String} (uri_fine : uri.toList.all kind = true)
    (nonce_fine : clientNonce.toList.all kind = true) (username password : String) :
    (challenge.authorization method uri username password clientNonce).toList.all kind =
      username.toList.all kind := by
  have fixed {part : String} (plain : isReadable part = true) : part.toList.all kind = true :=
    Header.all_of_isReadable printable plain
  have value {name : String} (named : isReadable name = true) (value : String) :
      (quoted name value).toList.all kind = value.toList.all kind :=
    all_quoted printable named value
  have realm := all_of_subset printable held.realm readable
  have nonce := all_of_subset printable held.nonce readable
  have response := fixed (isReadable_response challenge method uri username password clientNonce)
  have algorithm : challenge.algorithm.name.toList.all kind = true :=
    fixed (by cases challenge.algorithm <;> decide)
  have opening : "response=\"".toList.all kind = true := fixed (by decide)
  have of_algorithm : "algorithm=".toList.all kind = true := fixed (by decide)
  have closing : "\"".toList.all kind = true := fixed (by decide)
  have quality := all_quality printable nonce_fine challenge.qopAuth
  have scheme : "Digest ".toList.all kind = true := fixed (by decide)
  have separator : ", ".toList.all kind = true := fixed (by decide)
  rw [Challenge.authorization, String.toList_append, List.all_append, scheme, Bool.true_and,
    joinTexts, String.toList_ofList, all_joinWith separator, List.all_map]
  simp only [Function.comp_def, List.all_append, quality, List.all_cons, List.all_nil,
    @value "username" (by decide), @value "realm" (by decide), @value "nonce" (by decide),
    @value "uri" (by decide), String.toList_append, realm, nonce, uri_fine, opening, response,
    closing, of_algorithm, algorithm, Bool.and_true]
  cases given : challenge.token with
  | none => simp only [List.all_nil, Bool.and_true]
  | some token =>
    have fine := all_of_subset printable (held.token token given) readable
    simp only [List.all_cons, List.all_nil, @value "opaque" (by decide), fine, Bool.and_true]

theorem isValue_authorization {challenge : Challenge} {text : List Char} (held : challenge.From text)
    (readable : ∀ c ∈ text, isReadableChar c = true) (method : String) {uri clientNonce : String}
    (uri_fine : isValue uri = true) (nonce_fine : isValue clientNonce = true)
    (username password : String) :
    isValue (challenge.authorization method uri username password clientNonce) =
      isValue username :=
  all_authorization (fun _ => Header.isValueChar_of_isReadableChar) held readable method uri_fine
    nonce_fine username password

/-! ### Passwords -/

/-- Of what kind the characters of an answer are does not depend on the password: the answer holds it
in a printed hash only. -/
theorem all_authorization_password {kind : Char → Bool}
    (printable : ∀ c, isReadableChar c = true → kind c = true) (challenge : Challenge)
    (method uri username password other clientNonce : String) :
    (challenge.authorization method uri username password clientNonce).toList.all kind =
      (challenge.authorization method uri username other clientNonce).toList.all kind := by
  have hashed (secret : String) :
      (challenge.response method uri username secret clientNonce).toList.all kind = true :=
    Header.all_of_isReadable printable
      (isReadable_response challenge method uri username secret clientNonce)
  have plain : isReadable ", " = true := by decide
  have separator : ", ".toList.all kind = true := Header.all_of_isReadable printable plain
  simp only [Challenge.authorization, joinTexts, String.toList_append, String.toList_ofList,
    List.all_append, all_joinWith separator, List.map_append, List.map_cons, List.all_cons, hashed]

end Courier.Digest
