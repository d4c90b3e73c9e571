import Courier.Proofs.Session.Illegal
/-! Answers that can be sent. Whatever a challenge says, its answer is a legal field value exactly when
the user name is: all else in it is printable. So nothing that a server says keeps the second run of a
request from the wire or adds a line to it. -/

namespace Courier

open Header (isValue isReadable isReadableChar)

def Hex.IsDigits (text : String) : Prop := ∀ c ∈ text.toList, digitValue? c ≠ none

instance (text : String) : Decidable (Hex.IsDigits text) := List.decidableBAll _ text.toList

theorem isReadableChar_of_digitValue? {c : Char} (digit : digitValue? c ≠ none) :
    isReadableChar c = true := by
  have up_to {low high : Char} (small : isAscii high = true) (within : (low ≤ c && c ≤ high) = true) :
      isAscii c = true := by
    rw [Bool.and_eq_true, decide_eq_true_eq, decide_eq_true_eq] at within
    exact isAscii_of_le within.2 small
  have ascii : isAscii c = true := by
    by_contra outside
    apply digit
    rw [digitValue?, if_neg (mt isAscii_of_isAsciiDigit outside),
      if_neg (mt (up_to (by decide)) outside), if_neg (mt (up_to (by decide)) outside)]
  exact forall_isAscii (fun c => digitValue? c ≠ none → isReadableChar c = true)
    (by decide +kernel) ascii digit

theorem Hex.IsDigits.isReadable {text : String} (digits : IsDigits text) :
    Header.isReadable text = true :=
  List.all_eq_true.mpr fun c member => isReadableChar_of_digitValue? (digits c member)

namespace Session

/-- An answer that depends on its user name for everything that can keep it from being sent. -/
structure Transmits (username answer : String) : Prop where
  legal : isValue answer = true ↔ isValue username = true
  readable : isReadable answer = true ↔ isReadable username = true
  /-- Every character that is not printable is the user's. -/
  own : ∀ c ∈ answer.toList, isReadableChar c = true ∨ c ∈ username.toList

theorem transmits_authorization {header raw : String} {challenge : Digest.Challenge} {url : Url}
    (shown : isReadable header = true) (parsed : Digest.Challenge.parse? header = some challenge)
    (read : Request.parseUrl raw = .ok url) {clientNonce : String} (digits : Hex.IsDigits clientNonce)
    (method username password : String) :
    Transmits username
      (challenge.authorization method url.target username password clientNonce) := by
  have held := Digest.Challenge.from_of_parse parsed
  have target : isReadable url.target = true :=
    Url.readable_target ((Request.parseUrl_eq_ok_iff _ _).mp read).1
  have alike {kind : Char → Bool} (printable : ∀ c, isReadableChar c = true → kind c = true) :
      (challenge.authorization method url.target username password clientNonce).toList.all kind =
        username.toList.all kind :=
    Digest.all_authorization printable held (List.all_eq_true.mp shown) method
      (Header.all_of_isReadable printable target)
      (Header.all_of_isReadable printable digits.isReadable) username password
  constructor
  case legal => exact Bool.eq_iff_iff.mp (alike fun _ => Header.isValueChar_of_isReadableChar)
  case readable => exact Bool.eq_iff_iff.mp (alike fun _ => id)
  case own =>
    -- The user name is of the kind that is printable or its own, so the answer is.
    let kind (c : Char) : Bool := isReadableChar c || decide (c ∈ username.toList)
    have whole : username.toList.all kind = true := by
      rw [List.all_eq_true]
      intro c member
      simp only [kind, member, decide_true, Bool.or_true]
    have printable : ∀ c, isReadableChar c = true → kind c = true := by
      intro c plain
      simp only [kind, plain, Bool.true_or]
    rw [← alike printable, List.all_eq_true] at whole
    intro c member
    simpa only [kind, Bool.or_eq_true, decide_eq_true_eq] using whole c member

/-- Whether the first run of a request is refused with a challenge to the credentials in scope. -/
structure IsChallenged (around : Surroundings) (session : Session) (request : Request) (url : Url)
    (credentials : Credentials) (challenge : Digest.Challenge) (after : Session) : Prop where
  readable : Request.parseUrl request.url = .ok url
  scope : InScope session url request credentials
  refused : ∃ response,
    session.run around request (some credentials.basic) = (.ok response, after) ∧
      response.status = 401 ∧
      IsFirstChallenge (Header.values "www-authenticate" response.headers) challenge

/-- What comes of a request that is sent again with an answer: the answer is handed over as one more
field if the user name is legal, and else nothing is. -/
structure SentAgain (around : Surroundings) (request : Request) (credentials : Credentials)
    (answer : String) (after : Session) (outcome : Except Error Response × Session) : Prop where
  handed : isValue credentials.username = true →
    ∃ destination, Destination.ofText? request.url = some destination ∧
      outcome.2 = { after with wire := (after.wire.exchange around.now destination {
        method := request.method
        headers := request.headers ++ [("Authorization", answer)]
        body := request.body }).2 }
  refused : isValue credentials.username = false →
    ∃ reason, outcome = (.error (.configuration (.invalidUrl request.url reason)), after)

theorem sentAgain_of_isChallenged {around : Surroundings} {session after : Session}
    {request : Request} {url : Url} {credentials : Credentials} {challenge : Digest.Challenge}
    (sound : request.Sound) (digits : Hex.IsDigits around.clientNonce)
    (challenged : IsChallenged around session request url credentials challenge after) :
    SentAgain around request credentials (challenge.authorization request.method.name url.target
      credentials.username credentials.password around.clientNonce) after
      (session.send around request) := by
  obtain ⟨response, ran, status, first⟩ := challenged.refused
  have ⟨_, value, _, _, shown, parsed, _⟩ := first
  have transmits := transmits_authorization shown parsed challenged.readable digits
    request.method.name credentials.username credentials.password
  generalize made : challenge.authorization request.method.name url.target
    credentials.username credentials.password around.clientNonce = answer at transmits
  have applies := (credentialsFor_eq_some_iff _ _ _ _).mpr challenged.scope
  have replied : session.reply? around request url (.ok response) = some answer :=
    (reply?_eq_some_iff _ _ _ _ _ _).mpr
      ⟨credentials, response, challenge, challenged.scope, rfl, status, first, made.symm⟩
  have again : session.send around request = after.run around request (some answer) := by
    rw [send_of_readable around session request challenged.readable]
    simp only [applies, Option.map_some, ran, replied]
  obtain ⟨fit, destination, placed⟩ := of_run_eq_ok (congrArg Prod.fst ran)
  have sendable := ((message_eq_ok_iff request _ _).mp fit).1
  rw [again]
  constructor
  case handed =>
    intro legal
    have fit := message_of_legal sound sendable (transmits.legal.mpr legal)
    rw [run_of_placed around after request fit placed]
    exact ⟨destination, placed, rfl⟩
  case refused =>
    intro illegal
    have unfit : isValue answer = false := by
      rw [← Bool.not_eq_true, transmits.legal, illegal]
      exact Bool.false_ne_true
    obtain ⟨reason, unfit⟩ := (message_added_iff sound sendable answer).mpr unfit
    exact ⟨reason, run_of_unfit around after request unfit⟩

/-- An answer is a legal field value exactly when the user name in it is, whatever the readable header
holds that it answers; and a request that is challenged is sent again exactly then. -/
theorem answer_is_legal_as_username :
    (∀ (header raw : String) (challenge : Digest.Challenge) (url : Url)
      (method username password clientNonce : String), isReadable header = true →
        Digest.Challenge.parse? header = some challenge → Request.parseUrl raw = .ok url →
        Hex.IsDigits clientNonce →
          Transmits username
            (challenge.authorization method url.target username password clientNonce)) ∧
    ∀ (around : Surroundings) (session after : Session) (request : Request) (url : Url)
      (credentials : Credentials) (challenge : Digest.Challenge), request.Sound →
        Hex.IsDigits around.clientNonce →
        IsChallenged around session request url credentials challenge after →
          SentAgain around request credentials (challenge.authorization request.method.name
            url.target credentials.username credentials.password around.clientNonce) after
            (session.send around request) := by
  constructor
  · intro header raw challenge url method username password clientNonce shown parsed read digits
    exact transmits_authorization shown parsed read digits method username password
  · intro around session after request url credentials challenge sound digits challenged
    exact sentAgain_of_isChallenged sound digits challenged

def mangled : String := "Digest realm=\"a\\\"b\\\\\", nonce=\"n,\", opaque=\"\t~\""

def mangledChallenge : Digest.Challenge where
  realm := "a\"b\\"
  nonce := "n,"
  token := some "\t~"
  algorithm := .md5
  qopAuth := false

def twoLined : Credentials := ⟨"[::1]", some 80, "an\nn", "open"⟩

def hindered : Session where
  timeout := 1000
  wire := { network := .scripted [.answer ⟨401, [("www-authenticate", mangled)], .whole []⟩] }
  credentials := some twoLined

theorem mangled_is_answered_for_names_of_one_line :
    isReadable mangled = true ∧ Digest.Challenge.parse? mangled = some mangledChallenge ∧
      isValue (mangledChallenge.authorization "GET" loopback.target "änn" "open" "0aF") = true ∧
      isValue (mangledChallenge.authorization "GET" loopback.target "an\nn" "open" "0aF") = false ∧
      ∃ reason, (hindered.send ⟨0, "0aF"⟩ ⟨.get, "http://[::1]/", [], none⟩).1 =
        .error (.configuration (.invalidUrl "http://[::1]/" reason)) := by
  have shown : isReadable mangled = true := by decide
  have parsed : Digest.Challenge.parse? mangled = some mangledChallenge := by decide +kernel
  have digits : Hex.IsDigits "0aF" := by decide
  obtain ⟨any_answer, any_request⟩ := answer_is_legal_as_username
  have one_line := any_answer mangled _ _ _ "GET" "änn" "open" "0aF" shown parsed parseUrl_loopback
    digits
  have two_lines := any_answer mangled _ _ _ "GET" "an\nn" "open" "0aF" shown parsed
    parseUrl_loopback digits
  have ran : (hindered.run ⟨0, "0aF"⟩ ⟨.get, "http://[::1]/", [], none⟩ (some twoLined.basic)).1 =
      .ok ⟨401, [("www-authenticate", mangled)], .whole []⟩ :=
    Outcome.eq_ok_of_toOption (by decide +kernel)
  have challenged : IsChallenged ⟨0, "0aF"⟩ hindered ⟨.get, "http://[::1]/", [], none⟩ loopback
      twoLined mangledChallenge
      (hindered.run ⟨0, "0aF"⟩ ⟨.get, "http://[::1]/", [], none⟩ (some twoLined.basic)).2 := {
    readable := parseUrl_loopback
    scope := ⟨rfl, by decide +kernel, by decide, List.forall_mem_nil _⟩
    refused := ⟨_, Prod.ext ran rfl, rfl, [], mangled, [], rfl, shown, parsed, by simp⟩ }
  have sound : Request.Sound ⟨.get, "http://[::1]/", [], none⟩ := List.forall_mem_nil _
  have again := any_request _ _ _ _ _ _ _ sound digits challenged
  obtain ⟨reason, refused⟩ := again.refused (by decide)
  refine ⟨shown, parsed, one_line.legal.mpr (by decide), ?_, reason, congrArg Prod.fst refused⟩
  rw [← Bool.not_eq_true, two_lines.legal]
  decide

end Session
end Courier
