import Courier.Mock.Server
import Courier.Proofs.Outcome
import Courier.Proofs.Text
import Courier.Proofs.Text.Parts
import Mathlib.Algebra.Group.Nat.Defs
import Mathlib.Data.List.Infix
/-! Which requests the mock server handles. A request is handled when its path names a page, the page
takes its method, and the request holds what the page needs to know; the server counts exactly the
requests that it handles, and what it answers has nothing to do with the count. -/

namespace Courier.Mock

/-! ### Pages -/

def Page.path : Page → String
  | .echo => "/echo"
  | .hello => "/hello"
  | .status code => "/status/" ++ String.ofList code
  | .hang => "/hang"
  | .stall => "/stall-body"
  | .bytes length => "/bytes/" ++ String.ofList length
  | .binary => "/binary"
  | .login => "/login"
  | .guarded => "/protected"
  | .basic => "/basic"
  | .digest => "/digest"

def Page.IsWhole : Page → Prop
  | .status part | .bytes part => part ≠ [] ∧ '/' ∉ part
  | _ => True

def Page.Takes (page : Page) (method : String) : Prop :=
  match page with
  | .echo | .status _ | .hang | .digest => True
  | .login => method = "POST"
  | _ => method = "GET" ∨ method = "HEAD"

/-- Whether a part of a path stands for a number of so many bits: digits, with a plus sign in front
or without, when its percent signs are undone. -/
def Spells (bits : Nat) (part : List Char) (n : Nat) : Prop :=
  ∃ digits, (Utf8.decode? (Percent.decode part) = some digits ∨
      Utf8.decode? (Percent.decode part) = some ('+' :: digits)) ∧
    number? 10 digits = some n ∧ n < 2 ^ bits

def valuesOf (name : String) (pairs : List Pair) : List String :=
  (pairs.filter fun pair => pair.name == name).map Pair.value

structure Submits (request : Incoming) (username password : String) : Prop where
  announced : announcesForm request.headers = true
  short : request.body.length ≤ greatestBodyLength
  username : valuesOf "username" (Form.decode request.body) = [username]
  password : valuesOf "password" (Form.decode request.body) = [password]

def Page.Finds (page : Page) (request : Incoming) : Prop :=
  match page with
  | .echo => request.body.length ≤ greatestBodyLength ∧ ∃ text, request.body = Utf8.bytes text
  | .status code => ∃ n, Spells 16 code n
  | .bytes length => ∃ n, Spells 64 length n
  | .login => ∃ username password, Submits request username password
  | _ => True

structure Reaches (request : Incoming) (page : Page) : Prop where
  path : request.path = page.path
  whole : page.IsWhole
  takes : page.Takes request.method
  finds : page.Finds request

def IsHandled (request : Incoming) : Prop := ∃ page, Reaches request page

/-! ### Paths -/

theorem ofList_splitAt (path : String) :
    joinTexts "/" ((splitAt '/' path.toList).map String.ofList) = path := by
  have back : (splitAt '/' path.toList).map (fun piece => (String.ofList piece).toList) =
      splitAt '/' path.toList := by simp
  rw [joinTexts, List.map_map]
  change String.ofList (joinWith ['/'] (List.map (fun piece => (String.ofList piece).toList) _)) = path
  rw [back, joinWith_splitAt, String.ofList_toList]

theorem splitAt_parameter (name part : List Char) (clear : '/' ∉ name) (whole : '/' ∉ part) :
    splitAt '/' ('/' :: (name ++ '/' :: part)) = [[], name, part] := by
  have joined : '/' :: (name ++ '/' :: part) = joinWith ['/'] [[], name, part] := by
    simp [joinWith]
  rw [joined]
  apply splitAt_joinWith (by simp)
  simp [clear, whole]

theorem ofPath?_path {page : Page} (whole : page.IsWhole) : Page.ofPath? page.path = some page := by
  cases page with
  | status code =>
    have cut := splitAt_parameter "status".toList code (by decide) whole.2
    have shape : (Page.status code).path.toList = '/' :: ("status".toList ++ '/' :: code) := by
      simp [Page.path]
    rw [Page.ofPath?, shape, cut]
    simp [whole.1]
  | bytes length =>
    have cut := splitAt_parameter "bytes".toList length (by decide) whole.2
    have shape : (Page.bytes length).path.toList = '/' :: ("bytes".toList ++ '/' :: length) := by
      simp [Page.path]
    rw [Page.ofPath?, shape, cut]
    simp [whole.1]
  | _ => decide

theorem path_of_ofPath? {path : String} {page : Page} (found : Page.ofPath? path = some page) :
    path = page.path ∧ page.IsWhole := by
  -- The path is that of its segments, and the segments are those of the page.
  have joined {segments : List (String × List Char)}
      (cut : (splitAt '/' path.toList).map (fun segment => (String.ofList segment, segment)) =
        segments) : path = joinTexts "/" (segments.map Prod.fst) := by
    rw [← cut, List.map_map]
    exact (ofList_splitAt path).symm
  have plain {front next : List Char} {name : String}
      (cut : (splitAt '/' path.toList).map (fun segment => (String.ofList segment, segment)) =
        [("", front), (name, next)]) : path = "/" ++ name := by
    rw [joined cut, List.map_cons, List.map_singleton, joinTexts_cons, joinTexts_singleton]
    rfl
  have parameter {front next part : List Char} {page name : String}
      (cut : (splitAt '/' path.toList).map (fun segment => (String.ofList segment, segment)) =
        [("", front), (page, next), (name, part)]) :
      path = "/" ++ (page ++ ("/" ++ String.ofList part)) ∧ '/' ∉ part := by
    have member : (name, part) ∈
        (splitAt '/' path.toList).map fun segment => (String.ofList segment, segment) := by
      rw [cut]
      simp
    obtain ⟨segment, own, same⟩ := List.mem_map.mp member
    obtain ⟨rfl, rfl⟩ := Prod.mk.inj same
    refine ⟨?_, not_mem_of_mem_splitAt own⟩
    rw [joined cut, List.map_cons, List.map_cons, List.map_singleton, joinTexts_cons, joinTexts_cons,
      joinTexts_singleton]
    rfl
  unfold Page.ofPath? at found
  split at found
  case h_3 front next name part cut | h_6 front next name part cut =>
    obtain ⟨given, same⟩ := Option.ite_none_left_eq_some.mp found
    obtain rfl := Option.some.inj same
    obtain ⟨spelled, clear⟩ := parameter cut
    exact ⟨spelled, by simpa using given, clear⟩
  case h_12 => cases found
  all_goals
    rename_i cut
    obtain rfl := Option.some.inj found
    exact ⟨plain cut, trivial⟩

theorem ofPath?_eq_some_iff (path : String) (page : Page) :
    Page.ofPath? path = some page ↔ path = page.path ∧ page.IsWhole := by
  constructor
  · exact path_of_ofPath?
  · rintro ⟨rfl, whole⟩
    exact ofPath?_path whole

/-! ### Methods -/

theorem include_iff (page : Page) (method : String) :
    page.methods.include method = true ↔ page.Takes method := by
  cases page <;> simp [Page.methods, Methods.include, Page.Takes]

/-! ### What a page needs to know -/

theorem number?_plus (digits : List Char) : number? 10 ('+' :: digits) = none := rfl

theorem bounded?_eq_some_iff (bound : Nat) (text : List Char) (n : Nat) :
    bounded? bound text = some n ↔
      ∃ digits, (text = digits ∨ text = '+' :: digits) ∧ number? 10 digits = some n ∧ n < bound := by
  unfold bounded?
  rw [Option.filter_eq_some_iff, decide_eq_true_eq]
  split
  next digits =>
    constructor
    · rintro ⟨read, below⟩
      exact ⟨digits, Or.inr rfl, read, below⟩
    · rintro ⟨other, rfl | same, read, below⟩
      · rw [number?_plus] at read
        cases read
      · obtain rfl := List.tail_eq_of_cons_eq same
        exact ⟨read, below⟩
  next unsigned =>
    constructor
    · rintro ⟨read, below⟩
      exact ⟨text, Or.inl rfl, read, below⟩
    · rintro ⟨digits, rfl | rfl, read, below⟩
      · exact ⟨read, below⟩
      · exact absurd rfl (unsigned digits)

theorem parameter_eq_ok_iff (name : String) (bits : Nat) (part : List Char) (n : Nat) :
    parameter name bits part = .ok n ↔ Spells bits part n := by
  unfold parameter Spells
  cases decoded : Utf8.decode? (Percent.decode part) with
  | none => simp
  | some text =>
    have spelled := bounded?_eq_some_iff (2 ^ bits) text n
    simp only [Option.some.injEq]
    rw [← spelled]
    change _ ↔ bounded? (Nat.pow 2 bits) text = some n
    cases bounded? (Nat.pow 2 bits) text <;> simp

theorem flawFrom?_eq_none {index : Nat} {parts : List Utf8.Part}
    (sound : Utf8.flawFrom? index parts = none) : ∃ text, parts.mapM Utf8.Part.char? = some text := by
  fun_induction Utf8.flawFrom? index parts with
  | case1 => exact ⟨[], rfl⟩
  | case2 index c rest ih =>
    obtain ⟨text, read⟩ := ih sound
    exact ⟨c :: text, by simp [List.mapM_cons, Utf8.Part.char?, read]⟩
  | case3 => cases sound
  | case4 => cases sound

theorem textBody_eq_ok_iff (body : List UInt8) (text : String) :
    textBody body = .ok text ↔ body = Utf8.bytes text := by
  unfold textBody
  cases decoded : Utf8.decode? body with
  | some chars =>
    have back := Utf8.encode_of_decode? decoded
    simp only [Utf8.text?, decoded, Option.map_some, Except.ok.injEq]
    constructor
    · rintro rfl
      rw [Utf8.bytes, String.toList_ofList, back]
    · rintro rfl
      rw [Utf8.bytes, Utf8.decode?_encode, Option.some.injEq] at decoded
      rw [← decoded, String.ofList_toList]
  | none =>
    have flawed : ∃ flaw, Utf8.flaw? body = some flaw := by
      by_contra sound
      rw [← Option.isSome_iff_exists, Option.not_isSome_iff_eq_none] at sound
      obtain ⟨chars, read⟩ := flawFrom?_eq_none sound
      rw [Utf8.decode?, read] at decoded
      cases decoded
    obtain ⟨flaw, found⟩ := flawed
    simp only [Utf8.text?, decoded, Option.map_none, found, reduceCtorEq, false_iff]
    rintro rfl
    rw [Utf8.bytes, Utf8.decode?_encode] at decoded
    cases decoded

theorem wholeBody_eq_ok_iff (request : Incoming) (body : List UInt8) :
    wholeBody request = .ok body ↔
      request.body.length ≤ greatestBodyLength ∧ body = request.body := by
  unfold wholeBody
  split
  next short => simp [short, eq_comm]
  next long => simp [long]

theorem valuesOf_cons (name : String) (pair : Pair) (rest : List Pair) :
    valuesOf name (pair :: rest) =
      if pair.name = name then pair.value :: valuesOf name rest else valuesOf name rest := by
  by_cases named : pair.name = name <;> simp [valuesOf, named]

/-- With what was found before, the pairs hold one user name and one password. -/
theorem credentialsAfter_eq_ok_iff (username password : Option String) (pairs : List Pair)
    (name secret : String) :
    credentialsAfter username password pairs = .ok (name, secret) ↔
      username.toList ++ valuesOf "username" pairs = [name] ∧
        password.toList ++ valuesOf "password" pairs = [secret] := by
  induction pairs generalizing username password with
  | nil =>
    have none_left (name : String) : valuesOf name [] = [] := rfl
    cases username <;> cases password <;> simp [credentialsAfter, none_left]
  | cons pair rest ih =>
    rw [credentialsAfter, valuesOf_cons, valuesOf_cons]
    split
    next named =>
      cases username with
      | none => simp [named, ih]
      | some known => simp [named]
    next named =>
      cases password with
      | none => simp [named, ih]
      | some known => simp [named]
    next other another => rw [if_neg other, if_neg another, ih]

theorem call_login_eq_ok_iff (request : Incoming) (call : Call) :
    Page.login.call request = .ok call ↔
      ∃ username password, call = .login username password ∧ Submits request username password := by
  by_cases announced : announcesForm request.headers = true
  · have shape : Page.login.call request = (wholeBody request >>= fun body =>
        (credentialsAfter none none (Form.decode body)).map fun credentials =>
          .login credentials.1 credentials.2) := by
      rw [Page.call, if_pos announced]
      rfl
    simp only [shape, Outcome.bind_eq_ok_iff, wholeBody_eq_ok_iff, Outcome.map_eq_ok_iff]
    constructor
    · rintro ⟨body, ⟨short, rfl⟩, ⟨username, password⟩, read, rfl⟩
      obtain ⟨one, other⟩ := (credentialsAfter_eq_ok_iff none none _ username password).mp read
      exact ⟨username, password, rfl, announced, short, one, other⟩
    · rintro ⟨username, password, rfl, submits⟩
      have read : credentialsAfter none none (Form.decode request.body) = .ok (username, password) :=
        (credentialsAfter_eq_ok_iff none none _ username password).mpr
          ⟨submits.username, submits.password⟩
      exact ⟨request.body, ⟨submits.short, rfl⟩, (username, password), read, rfl⟩
  · rw [Page.call, if_neg announced]
    constructor
    · rintro ⟨⟩
    · rintro ⟨username, password, rfl, submits⟩
      exact absurd submits.announced announced

theorem call_echo_eq_ok_iff (request : Incoming) (call : Call) :
    Page.echo.call request = .ok call ↔ request.body.length ≤ greatestBodyLength ∧
      ∃ text, request.body = Utf8.bytes text ∧ .echo text = call := by
  have shape : Page.echo.call request =
      (wholeBody request >>= fun body => (textBody body).map .echo) := rfl
  simp only [shape, Outcome.bind_eq_ok_iff, wholeBody_eq_ok_iff, Outcome.map_eq_ok_iff,
    textBody_eq_ok_iff]
  constructor
  · rintro ⟨_, ⟨short, rfl⟩, read⟩
    exact ⟨short, read⟩
  · rintro ⟨short, read⟩
    exact ⟨_, ⟨short, rfl⟩, read⟩

/-- A page finds what it needs to know exactly when it has something to do. -/
theorem exists_call_iff (page : Page) (request : Incoming) :
    (∃ call, page.call request = .ok call) ↔ page.Finds request := by
  cases page with
  | echo =>
    simp only [call_echo_eq_ok_iff, Page.Finds]
    constructor
    · rintro ⟨_, short, text, read, _⟩
      exact ⟨short, text, read⟩
    · rintro ⟨short, text, read⟩
      exact ⟨_, short, text, read, rfl⟩
  | login =>
    simp only [call_login_eq_ok_iff, Page.Finds]
    constructor
    · rintro ⟨_, username, password, _, submits⟩
      exact ⟨username, password, submits⟩
    · rintro ⟨username, password, submits⟩
      exact ⟨_, username, password, rfl, submits⟩
  | status code | bytes length =>
    simp only [Page.call, Page.Finds, Outcome.map_eq_ok_iff, parameter_eq_ok_iff]
    constructor
    · rintro ⟨_, n, spelled, _⟩
      exact ⟨n, spelled⟩
    · rintro ⟨n, spelled⟩
      exact ⟨_, n, spelled, rfl⟩
  | _ => simp [Page.call, Page.Finds]

/-! ### Requests -/

theorem handling_of_reaches {request : Incoming} {page : Page} (reaches : Reaches request page) :
    ∃ call, page.call request = .ok call ∧ handling request = .handled call := by
  obtain ⟨call, called⟩ := (exists_call_iff page request).mpr reaches.finds
  have found := (ofPath?_eq_some_iff request.path page).mpr ⟨reaches.path, reaches.whole⟩
  have taken := (include_iff page request.method).mpr reaches.takes
  refine ⟨call, called, ?_⟩
  simp only [handling, found, taken, ↓reduceIte, called]

theorem reaches_of_handling {request : Incoming} {call : Call}
    (handled : handling request = .handled call) :
    ∃ page, Reaches request page ∧ page.call request = .ok call := by
  unfold handling at handled
  split at handled
  next => cases handled
  next page found =>
    obtain ⟨path, whole⟩ := (ofPath?_eq_some_iff request.path page).mp found
    split at handled
    next taken =>
      split at handled
      next made called =>
        obtain rfl := Handling.handled.inj handled
        have takes := (include_iff page request.method).mp taken
        have finds := (exists_call_iff page request).mp ⟨made, called⟩
        exact ⟨page, ⟨path, whole, takes, finds⟩, called⟩
      next => cases handled
    next => cases handled

theorem isHandled_iff (request : Incoming) :
    IsHandled request ↔ ∃ call, handling request = .handled call := by
  constructor
  · rintro ⟨page, reaches⟩
    obtain ⟨call, _, handled⟩ := handling_of_reaches reaches
    exact ⟨call, handled⟩
  · rintro ⟨call, handled⟩
    obtain ⟨page, reaches, _⟩ := reaches_of_handling handled
    exact ⟨page, reaches⟩

instance (request : Incoming) : Decidable (IsHandled request) :=
  match shown : handling request with
  | .handled call => isTrue ((isHandled_iff request).mpr ⟨call, shown⟩)
  | .unknownPath | .refusedMethod _ | .rejected _ => isFalse (by simp [isHandled_iff, shown])

/-! ### Counting -/

namespace Server

variable (names : Nat → String) (server : Server) (request : Incoming)

theorem serve_of_handled {call : Call} (handled : handling request = .handled call) :
    server.serve names request =
      ((call.answer names server.sessions request).1.sent request.method,
        { hits := server.hits + 1
          sessions := (call.answer names server.sessions request).2 }) := by
  rw [serve, handled]

/-- A request that is not handled leaves the server as it is. -/
theorem serve_of_unhandled (unhandled : ¬IsHandled request) :
    (server.serve names request).2 = server := by
  rw [isHandled_iff] at unhandled
  unfold serve
  split
  next => rfl
  next => rfl
  next => rfl
  next call handled => exact absurd ⟨call, handled⟩ unhandled

theorem serve_hits :
    (server.serve names request).2.hits = server.hits + if IsHandled request then 1 else 0 := by
  by_cases handled : IsHandled request
  · obtain ⟨call, shown⟩ := (isHandled_iff request).mp handled
    rw [serve_of_handled names server request shown, if_pos handled]
  · rw [serve_of_unhandled names server request handled, if_neg handled, UInt64.add_zero]

/-- After each request the count is the number of requests handled so far. -/
theorem map_hits_serveAll (requests : List Incoming) :
    (serveAll names server requests).map (·.2.hits) = requests.inits.tail.map fun done =>
      server.hits + .ofNat (done.countP fun request => IsHandled request) := by
  induction requests generalizing server with
  | nil => rfl
  | cons request rest ih =>
    have starts : rest.inits = [] :: rest.inits.tail := by cases rest <;> rfl
    have counted : ∀ done : List Incoming,
        (server.serve names request).2.hits + .ofNat (done.countP fun request => IsHandled request) =
          server.hits + .ofNat ((request :: done).countP fun request => IsHandled request) := by
      intro done
      rw [serve_hits, List.countP_cons, UInt64.add_assoc, Nat.add_comm, UInt64.ofNat_add]
      simp only [decide_eq_true_eq]
      split <;> rfl
    calc (serveAll names server (request :: rest)).map (·.2.hits)
      _ = (server.serve names request).2.hits ::
          (serveAll names (server.serve names request).2 rest).map (·.2.hits) := rfl
      _ = rest.inits.map fun done => (server.serve names request).2.hits +
          .ofNat (done.countP fun request => IsHandled request) := by
        rw [ih, starts, List.map_cons, List.countP_nil]
        exact congrArg (· :: _) (UInt64.add_zero _).symm
      _ = (request :: rest).inits.tail.map fun done => server.hits +
          .ofNat (done.countP fun request => IsHandled request) := by
        rw [List.inits_cons, List.tail_cons, List.map_map]
        exact List.map_congr_left fun done _ => counted done

/-- The count changes neither what is answered nor the sessions. -/
theorem serve_uncounted (hits other : UInt64) (sessions : List String) :
    (serve names ⟨hits, sessions⟩ request).1 = (serve names ⟨other, sessions⟩ request).1 ∧
      (serve names ⟨hits, sessions⟩ request).2.sessions =
        (serve names ⟨other, sessions⟩ request).2.sessions := by
  unfold serve
  split <;> exact ⟨rfl, rfl⟩

theorem map_answer_serveAll (hits other : UInt64) (sessions : List String) (requests : List Incoming) :
    (serveAll names ⟨hits, sessions⟩ requests).map Prod.fst =
      (serveAll names ⟨other, sessions⟩ requests).map Prod.fst := by
  induction requests generalizing hits other sessions with
  | nil => rfl
  | cons request rest ih =>
    obtain ⟨answer, kept⟩ := serve_uncounted names request hits other sessions
    have later := ih (serve names ⟨hits, sessions⟩ request).2.hits
      (serve names ⟨other, sessions⟩ request).2.hits
      (serve names ⟨hits, sessions⟩ request).2.sessions
    rw [serveAll, serveAll, List.map_cons, List.map_cons, answer]
    congr 1
    apply later.trans
    rw [kept]

/-- The count after each request is the number of requests handled up to it, as long as that can be
counted: a request that is handled adds one whatever it is answered, and one that is not leaves the
server as it is. No answer depends on the count. -/
theorem hits_count_handled_requests (requests : List Incoming) :
    (serveAll names {} requests).map (·.2.hits) =
      (requests.inits.tail.map fun done => .ofNat (done.countP fun request => IsHandled request)) ∧
    (requests.length < 2 ^ 64 → (serveAll names {} requests).map (·.2.hits.toNat) =
      requests.inits.tail.map fun done => done.countP fun request => IsHandled request) ∧
    (∀ server request,
      (IsHandled request → (serve names server request).2.hits = server.hits + 1) ∧
        (¬IsHandled request → (serve names server request).2 = server)) ∧
    ∀ hits other sessions, (serveAll names ⟨hits, sessions⟩ requests).map Prod.fst =
      (serveAll names ⟨other, sessions⟩ requests).map Prod.fst := by
  have counts : (serveAll names {} requests).map (·.2.hits) =
      requests.inits.tail.map fun done => .ofNat (done.countP fun request => IsHandled request) := by
    simpa only [UInt64.zero_add] using map_hits_serveAll names {} requests
  refine ⟨counts, fun few => ?_, fun server request =>
    ⟨fun handled => ?_, serve_of_unhandled names server request⟩,
    fun hits other sessions => map_answer_serveAll names hits other sessions requests⟩
  · have numbers := congrArg (List.map UInt64.toNat) counts
    rw [List.map_map, List.map_map] at numbers
    refine numbers.trans (List.map_congr_left fun done begun => ?_)
    -- Only what was sent can have been handled.
    have short : done.countP (fun request => IsHandled request) < 2 ^ 64 := by
      have part := (List.mem_inits _ _).mp (List.mem_of_mem_tail begun)
      have handled := List.countP_le_length (p := fun request => decide (IsHandled request)) (l := done)
      have sent := part.length_le
      omega
    exact UInt64.toNat_ofNat_of_lt short
  · rw [serve_hits, if_pos handled]

def tour : List Incoming :=
  [⟨"GET", "/status/99", none, [], []⟩, ⟨"GET", "/status/x", none, [], []⟩,
    ⟨"HEAD", "/protected", none, [], []⟩]

/-- What a page refuses counts, and a parameter that cannot be read does not. -/
theorem tour_counts_two :
    (serveAll toString {} tour).map (·.2.hits.toNat) = [1, 1, 2] ∧
      (serveAll toString {} tour).map (·.1.status) = [400, 400, 403] ∧
      IsHandled ⟨"GET", "/status/99", none, [], []⟩ ∧
      (serve toString {} ⟨"GET", "/status/99", none, [], []⟩).2.hits = 1 ∧
      ¬IsHandled ⟨"GET", "/status/x", none, [], []⟩ ∧
      (serve toString {} ⟨"GET", "/status/x", none, [], []⟩).2 = {} := by
  obtain ⟨_, counts, steps, _⟩ := hits_count_handled_requests toString tour
  have handled : IsHandled ⟨"GET", "/status/99", none, [], []⟩ := by decide +kernel
  have unhandled : ¬IsHandled ⟨"GET", "/status/x", none, [], []⟩ := by decide +kernel
  exact ⟨(counts (by decide)).trans (by decide +kernel), by decide +kernel, handled,
    (steps {} _).1 handled,
    unhandled, (steps {} _).2 unhandled⟩

end Server
end Courier.Mock
