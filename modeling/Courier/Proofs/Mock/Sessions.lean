import Courier.Proofs.Header
import Courier.Proofs.Mock.Handling
/-! Sessions of the mock server. The guarded page lets in whoever shows, as the first session in the
cookies, one that an earlier login was handed; only logins with the account's name and password are
handed one, each of them is, and none is ever taken back. -/

namespace Courier.Mock

/-! ### Cookies -/

def cookiePieces (headers : List Header) : List (List Char) :=
  ((Header.values "cookie" headers).filter Header.isReadable).flatMap fun value =>
    splitAt ';' value.toList

def StartsSession (piece : List Char) : Prop := "session=".toList <+: trim piece

/-- Whether the first piece that starts as a session does goes on with that name. -/
def IsFirstSession (headers : List Header) (id : String) : Prop :=
  ∃ before piece after, cookiePieces headers = before ++ piece :: after ∧
    trim piece = "session=".toList ++ id.toList ∧ ∀ earlier ∈ before, ¬StartsSession earlier

namespace Account

theorem sessionOf?_eq_some_iff (piece : List Char) (id : String) :
    sessionOf? piece = some id ↔ trim piece = "session=".toList ++ id.toList := by
  unfold sessionOf?
  split
  next rest shown =>
    have text : (String.ofList rest).toList = rest := String.toList_ofList
    rw [shown, Option.some.injEq]
    constructor
    · rintro rfl
      rw [text]
      rfl
    · intro same
      have texts : "session=".toList ++ rest = "session=".toList ++ id.toList := same
      have rest_eq : rest = id.toList := List.append_cancel_left texts
      rw [rest_eq, String.ofList_toList]
  next other =>
    simp only [reduceCtorEq, false_iff]
    intro same
    exact other id.toList same

theorem sessionOf?_eq_none_iff (piece : List Char) :
    sessionOf? piece = none ↔ ¬StartsSession piece := by
  constructor
  · rintro missed ⟨rest, starts⟩
    have text : (String.ofList rest).toList = rest := String.toList_ofList
    have found := (sessionOf?_eq_some_iff piece (String.ofList rest)).mpr (by rw [text, starts])
    rw [missed] at found
    cases found
  · intro other
    cases found : sessionOf? piece with
    | none => rfl
    | some id =>
      have shown := (sessionOf?_eq_some_iff piece id).mp found
      exact absurd ⟨id.toList, shown.symm⟩ other

theorem session?_eq_some_iff (headers : List Header) (id : String) :
    session? headers = some id ↔ IsFirstSession headers id := by
  change (cookiePieces headers).findSome? sessionOf? = some id ↔ _
  rw [List.findSome?_eq_some_iff]
  simp only [sessionOf?_eq_some_iff, sessionOf?_eq_none_iff, IsFirstSession]

theorem acceptsSession_iff (sessions : List String) (headers : List Header) :
    acceptsSession sessions headers = true ↔ ∃ id, IsFirstSession headers id ∧ id ∈ sessions := by
  simp only [acceptsSession, Option.any_eq_true, session?_eq_some_iff, List.contains_iff_mem]

end Account

/-! ### Answers -/

def handing (id : String) : String := "session=" ++ id ++ "; Path=/"

theorem handing_inj {id other : String} : handing id = handing other ↔ id = other := by
  constructor
  · intro same
    have texts := congrArg String.toList same
    simp only [handing, String.toList_append] at texts
    have ids := List.append_cancel_left (List.append_cancel_right texts)
    exact String.toList_inj.mp ids
  · rintro rfl
    rfl

def Answer.handed (answer : Answer) : List String := Header.values "set-cookie" answer.headers

theorem perm_values_sorted (name : String) (headers : List Header) :
    (Header.values name (Header.sorted headers)).Perm (Header.values name headers) :=
  ((List.mergeSort_perm headers _).filter _).map _

def plainNames : List String := ["content-type", "www-authenticate", "allow", "content-length"]

theorem values_of_plainNames {headers : List Header}
    (plain : ∀ header ∈ headers, header.1 ∈ plainNames) :
    Header.values "set-cookie" headers = [] := by
  have other : ∀ name ∈ plainNames, asciiLowerText name ≠ asciiLowerText "set-cookie" := by decide
  rw [Header.values_eq_nil_iff]
  intro header member
  exact other header.1 (plain header member)

/-- What is added to an answer when it is sent hands out no session. -/
theorem handed_sent (answer : Answer) (method : String) :
    (answer.sent method).handed.Perm answer.handed := by
  have added : Header.values "set-cookie" (if answer.tellsLength method then
      [("content-length", toString answer.body.length)] else []) = [] := by
    apply values_of_plainNames
    split <;> simp [plainNames]
  have whole := perm_values_sorted "set-cookie" (answer.headers ++
    if answer.tellsLength method then [("content-length", toString answer.body.length)] else [])
  unfold Header.values at added whole
  rw [List.filter_append, List.map_append, added, List.append_nil] at whole
  exact whole

theorem handed_sent_eq_nil {answer : Answer} (bare : answer.handed = []) (method : String) :
    (answer.sent method).handed = [] := by
  have sent := handed_sent answer method
  rw [bare] at sent
  exact sent.eq_nil

theorem handed_typed (status : Nat) (type : String) (body : List UInt8) {headers : List Header}
    (plain : ∀ header ∈ headers, header.1 ∈ plainNames) :
    (Answer.typed status type body headers).handed = [] := by
  apply values_of_plainNames
  rw [Answer.typed, List.forall_mem_cons]
  exact ⟨by simp [plainNames], plain⟩

theorem handed_words_handing (status : Nat) (text id : String) :
    (Answer.words status text [("set-cookie", handing id)]).handed = [handing id] := by
  have other : sameIgnoringCase "content-type" "set-cookie" = false := by decide
  have named : sameIgnoringCase "set-cookie" "set-cookie" = true := by decide
  simp only [Answer.handed, Answer.words, Answer.typed, Header.values, List.filter_cons, other,
    named, Bool.false_eq_true, ↓reduceIte, List.filter_nil, List.map_cons, List.map_nil]

/-! ### One request -/

structure IsLogin (request : Incoming) : Prop where
  method : request.method = "POST"
  path : request.path = "/login"
  submits : Submits request "admin" "secret"

theorem accepts_iff (username password : String) :
    Account.accepts username password = true ↔ username = "admin" ∧ password = "secret" := by
  simp only [Account.accepts, Account.username, Account.password, Bool.and_eq_true, beq_iff_eq]

theorem handling_of_isLogin {request : Incoming} (login : IsLogin request) :
    handling request = .handled (.login "admin" "secret") := by
  have reaches : Reaches request .login :=
    ⟨login.path, trivial, login.method, _, _, login.submits⟩
  obtain ⟨call, called, handled⟩ := handling_of_reaches reaches
  obtain ⟨username, password, rfl, submits⟩ := (call_login_eq_ok_iff request call).mp called
  have one : [username] = ["admin"] := submits.username.symm.trans login.submits.username
  have other : [password] = ["secret"] := submits.password.symm.trans login.submits.password
  rw [handled, List.singleton_inj.mp one, List.singleton_inj.mp other]

theorem isLogin_of_handling {request : Incoming} {username password : String}
    (handled : handling request = .handled (.login username password))
    (accepted : Account.accepts username password = true) : IsLogin request := by
  obtain ⟨rfl, rfl⟩ := (accepts_iff username password).mp accepted
  obtain ⟨page, reaches, called⟩ := reaches_of_handling handled
  cases page with
  | login =>
    obtain ⟨_, _, same, submits⟩ := (call_login_eq_ok_iff request _).mp called
    obtain ⟨rfl, rfl⟩ := Call.login.inj same
    exact ⟨reaches.takes, reaches.path, submits⟩
  | echo =>
    simp only [call_echo_eq_ok_iff, reduceCtorEq, and_false, exists_false] at called
  | status | bytes =>
    simp only [Page.call, Outcome.map_eq_ok_iff, reduceCtorEq, and_false, exists_false] at called
  | _ => cases called

/-- Only a login with the account's name and password changes the sessions or hands one out. -/
theorem answer_of_no_login (names : Nat → String) (sessions : List String) (request : Incoming)
    {call : Call} (other : ∀ username password, call = .login username password →
      Account.accepts username password = false) :
    (call.answer names sessions request).2 = sessions ∧
      (call.answer names sessions request).1.handed = [] := by
  have bare (status : Nat) (type : String) (body : List UInt8) :
      (Answer.typed status type body []).handed = [] := handed_typed _ _ _ (by simp)
  cases call with
  | login username password =>
    rw [Call.answer, other username password rfl]
    exact ⟨rfl, bare _ _ _⟩
  | status | guarded | basic =>
    rw [Call.answer]
    split <;> exact ⟨rfl, bare _ _ _⟩
  | digest =>
    rw [Call.answer]
    split
    · exact ⟨rfl, bare _ _ _⟩
    · exact ⟨rfl, handed_typed _ _ _ (by simp [plainNames])⟩
  | stall => exact ⟨rfl, rfl⟩
  | hang => exact ⟨rfl, bare 200 _ (Utf8.bytes "too late")⟩
  | _ => exact ⟨rfl, bare _ _ _⟩

structure Serves (names : Nat → String) (before after : Server) (request : Incoming)
    (answer : Answer) : Prop where
  login : IsLogin request → ∃ id, after.sessions = before.sessions ++ [id] ∧
    answer.status = 200 ∧ answer.handed = [handing id]
  other : ¬IsLogin request → after.sessions = before.sessions ∧ answer.handed = []

theorem serve_serves (names : Nat → String) (server : Server) (request : Incoming) :
    Serves names server (server.serve names request).2 request
      (server.serve names request).1 := by
  constructor
  case login =>
    intro login
    have handled := handling_of_isLogin login
    have accepted : Account.accepts "admin" "secret" = true := by decide
    rw [Server.serve_of_handled names server request handled, Call.answer, if_pos accepted]
    refine ⟨names server.sessions.length, rfl, rfl, ?_⟩
    have sent := handed_sent
      (Answer.words 200 "logged in" [("set-cookie", handing (names server.sessions.length))])
      request.method
    rw [handed_words_handing] at sent
    exact List.perm_singleton.mp sent
  case other =>
    intro foreign
    by_cases handled : ∃ call, handling request = .handled call
    · obtain ⟨call, handled⟩ := handled
      have rejected : ∀ username password, call = .login username password →
          Account.accepts username password = false := by
        rintro username password rfl
        rw [Bool.eq_false_iff]
        intro accepted
        exact foreign (isLogin_of_handling handled accepted)
      obtain ⟨kept, bare⟩ := answer_of_no_login names server.sessions request rejected
      rw [Server.serve_of_handled names server request handled]
      exact ⟨kept, handed_sent_eq_nil bare request.method⟩
    · have unhandled : ¬IsHandled request := fun known => handled ((isHandled_iff request).mp known)
      refine ⟨by rw [Server.serve_of_unhandled names server request unhandled], ?_⟩
      unfold Server.serve
      split
      next => rfl
      next allowed shown =>
        exact handed_sent_eq_nil (values_of_plainNames (by simp [plainNames])) request.method
      next rejection shown => exact handed_sent_eq_nil (handed_typed _ _ _ (by simp)) request.method
      next call shown => exact absurd ⟨call, shown⟩ handled

/-! ### The guarded page -/

structure AsksForGuarded (request : Incoming) : Prop where
  path : request.path = "/protected"
  method : request.method = "GET" ∨ request.method = "HEAD"

theorem serve_guarded (names : Nat → String) (server : Server) {request : Incoming}
    (asks : AsksForGuarded request) :
    (server.serve names request).1.status =
      if Account.acceptsSession server.sessions request.headers then 200 else 403 := by
  have reaches : Reaches request .guarded := ⟨asks.path, trivial, asks.method, trivial⟩
  obtain ⟨call, called, handled⟩ := handling_of_reaches reaches
  obtain rfl := Except.ok.inj called
  rw [Server.serve_of_handled names server request handled, Call.answer]
  split <;> rfl

/-! ### All requests -/

def transcript (names : Nat → String) (server : Server) (requests : List Incoming) :
    List (Incoming × Answer) :=
  requests.zip ((server.serveAll names requests).map Prod.fst)

/-- Whether a session was handed out by a login that succeeded. -/
def HandedOut (past : List (Incoming × Answer)) (id : String) : Prop :=
  ∃ entry ∈ past, IsLogin entry.1 ∧ entry.2.status = 200 ∧ entry.2.handed = [handing id]

structure Answered (past : List (Incoming × Answer)) (request : Incoming) (answer : Answer) :
    Prop where
  /-- Whoever shows a session that was handed out is let in, whatever was asked since then. -/
  admitted : AsksForGuarded request →
    (answer.status = 200 ↔ ∃ id, IsFirstSession request.headers id ∧ HandedOut past id)
  refused : AsksForGuarded request → answer.status = 200 ∨ answer.status = 403
  login : IsLogin request → answer.status = 200 ∧ ∃ id, answer.handed = [handing id]
  other : ¬IsLogin request → answer.handed = []

def Remembers (server : Server) (past : List (Incoming × Answer)) : Prop :=
  ∀ id, id ∈ server.sessions ↔ HandedOut past id

theorem handedOut_concat (past : List (Incoming × Answer)) (request : Incoming) (answer : Answer)
    (id : String) :
    HandedOut (past ++ [(request, answer)]) id ↔
      HandedOut past id ∨ IsLogin request ∧ answer.status = 200 ∧ answer.handed = [handing id] := by
  simp only [HandedOut, List.mem_append, List.mem_singleton, or_and_right, exists_or,
    exists_eq_left]

section

variable {names : Nat → String} {server : Server} {past : List (Incoming × Answer)}
  (remembers : Remembers server past)
include remembers

theorem remembers_serve (request : Incoming) :
    Remembers (server.serve names request).2
      (past ++ [(request, (server.serve names request).1)]) := by
  have serves := serve_serves names server request
  intro id
  rw [handedOut_concat, ← remembers id]
  by_cases login : IsLogin request
  · obtain ⟨new, grown, status, handed⟩ := serves.login login
    rw [grown, List.mem_append, List.mem_singleton, handed, List.singleton_inj, handing_inj]
    simp only [login, status, true_and, eq_comm]
  · obtain ⟨kept, _⟩ := serves.other login
    simp only [kept, login, false_and, or_false]

theorem answered_serve (request : Incoming) :
    Answered past request (server.serve names request).1 := by
  have serves := serve_serves names server request
  constructor
  case admitted =>
    intro asks
    have known : Account.acceptsSession server.sessions request.headers = true ↔
        ∃ id, IsFirstSession request.headers id ∧ HandedOut past id := by
      simp only [Account.acceptsSession_iff, remembers _]
    rw [serve_guarded names server asks, ← known]
    split <;> simp_all
  case refused =>
    intro asks
    rw [serve_guarded names server asks]
    split <;> simp
  case login =>
    intro login
    obtain ⟨id, _, status, handed⟩ := serves.login login
    exact ⟨status, id, handed⟩
  case other => exact fun foreign => (serves.other foreign).2

theorem answered_transcript {requests : List Incoming} {earlier later : List (Incoming × Answer)}
    {request : Incoming} {answer : Answer}
    (split : transcript names server requests = earlier ++ (request, answer) :: later) :
    Answered (past ++ earlier) request answer := by
  induction requests generalizing server past earlier with
  | nil =>
    have none_left : ([] : List (Incoming × Answer)) = earlier ++ (request, answer) :: later := split
    simp at none_left
  | cons first rest ih =>
    have starts : transcript names server (first :: rest) =
        (first, (server.serve names first).1) ::
          transcript names (server.serve names first).2 rest := rfl
    rw [starts] at split
    cases earlier with
    | nil =>
      obtain ⟨same, _⟩ := List.cons.inj split
      obtain ⟨rfl, rfl⟩ := Prod.mk.inj same
      simpa using answered_serve remembers first
    | cons entry more =>
      obtain ⟨rfl, others⟩ := List.cons.inj split
      have next := ih (remembers_serve remembers first) others
      rwa [List.append_assoc, List.singleton_append] at next

end

/-- The guarded page of a new server lets in exactly those whose first session was handed out by a
login before, and answers all others 403. Logins with the account's name and password are handed a
session each, other requests none, and a session stays good whatever is asked after it. -/
theorem guarded_admits_handed_out (names : Nat → String) (requests : List Incoming) :
    (transcript names {} requests).map Prod.fst = requests ∧
    ∀ earlier request answer later,
      transcript names {} requests = earlier ++ (request, answer) :: later →
        Answered earlier request answer := by
  have length (server : Server) : (server.serveAll names requests).length = requests.length := by
    induction requests generalizing server with
    | nil => rfl
    | cons request rest ih => rw [Server.serveAll, List.length_cons, List.length_cons, ih]
  have starts : Remembers {} [] := by
    intro id
    simp [HandedOut]
  constructor
  · rw [transcript, List.map_fst_zip]
    rw [List.length_map, length]
  · intro earlier request answer later split
    simpa using answered_transcript starts split

def shown : Incoming := ⟨"GET", "/protected", none, [("cookie", "theme=dark; session=0")], []⟩

def forged : Incoming :=
  ⟨"GET", "/protected", none, [("cookie", "session=9"), ("cookie", "session=0")], []⟩

def visits : List Incoming :=
  [⟨"POST", "/login", none, [("content-type", "application/x-www-form-urlencoded")],
      Utf8.bytes "username=admin&password=secret"⟩,
    ⟨"DELETE", "/protected", none, [], []⟩, shown, forged]

theorem visits_show_handed_out :
    ∃ past welcome refusal,
      transcript toString {} visits = past ++ [(shown, welcome), (forged, refusal)] ∧
      (welcome.status = 200 ∧ ∃ id, IsFirstSession shown.headers id ∧ HandedOut past id) ∧
      refusal.status = 403 ∧
        ¬∃ id, IsFirstSession forged.headers id ∧ HandedOut (past ++ [(shown, welcome)]) id := by
  obtain ⟨_, answered⟩ := guarded_admits_handed_out toString visits
  let past := (transcript toString {} visits).take 2
  let known : Server := ⟨1, ["0"]⟩
  let welcome := (known.serve toString shown).1
  let refusal := ((known.serve toString shown).2.serve toString forged).1
  have split : transcript toString {} visits = past ++ [(shown, welcome), (forged, refusal)] := by
    rfl
  have again : transcript toString {} visits =
      (past ++ [(shown, welcome)]) ++ (forged, refusal) :: [] := by
    rw [split, List.append_assoc, List.singleton_append]
  have first := (answered past shown welcome _ split).admitted ⟨rfl, .inl rfl⟩
  have second := (answered _ forged refusal _ again).admitted ⟨rfl, .inl rfl⟩
  have admitted : welcome.status = 200 := by decide +kernel
  have refused : refusal.status = 403 := by decide +kernel
  refine ⟨past, welcome, refusal, split, ⟨admitted, first.mp admitted⟩, refused, ?_⟩
  intro handedOut
  have status : refusal.status = 200 := second.mpr handedOut
  rw [refused] at status
  cases status

end Courier.Mock
