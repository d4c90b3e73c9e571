import Courier.Proofs.Executor.Hindrance
import Courier.Proofs.Registry.Table
import Courier.Proofs.Text
/-! Which authentication a job runs with. A job whose key is not blank runs with the entry of exactly
that key or not at all; a job runs without authentication only if its key is blank or missing, and a
blank key is the key of no entry, whatever changes the registry has seen. -/

namespace Courier

def MissesKey {α : Type} (outcome : Except Error α) : Prop :=
  ∃ key, outcome = .error (.configuration (.unknownAuthentication key))

namespace Executor

open Registry (Starts Change Live)
open Session

/-! ### What the console is told -/

def isNotice (line : String) : Bool := "Using authentication".toList.isPrefixOf line.toList

theorem isNotice_key (key : String) : isNotice ("Using authentication: " ++ key) = true := by
  rw [isNotice, String.toList_append]
  rfl

/-- The name of a legal header has no blank, and a colon follows it. -/
theorem not_isNotice_header {name value : String} (legal : Header.fault? (name, value) = none) :
    isNotice (name ++ ": " ++ value) = false := by
  rw [isNotice, ← Bool.not_eq_true, List.isPrefixOf_iff_prefix]
  rintro ⟨rest, same⟩
  have named : Header.isName name = true := by
    cases shown : Header.isName name with
    | true => rfl
    | false => simp [Header.fault?, shown] at legal
  have token : ∀ c ∈ name.toList, Header.isTokenChar c = true := by
    simp only [Header.isName, Bool.and_eq_true, List.all_eq_true] at named
    exact named.1.2
  have left : ("Using authentication".toList ++ rest).dropWhile Header.isTokenChar =
      ' ' :: ("authentication".toList ++ rest) := rfl
  have right : (name ++ ": " ++ value).toList.dropWhile Header.isTokenChar =
      ':' :: ' ' :: value.toList := by
    rw [String.toList_append, String.toList_append, List.append_assoc]
    exact dropWhile_part token (by rintro _ ⟨⟩; decide)
  rw [same, right] at left
  exact absurd (List.cons.inj left).1 (by decide)

theorem not_isNotice_mediaLine {name : String} {media : MediaType}
    (other : ∀ value, isNotice (name ++ ": " ++ value) = false) :
    ∀ line ∈ mediaLine name media, isNotice line = false := by
  intro line member
  unfold mediaLine at member
  split at member
  · obtain rfl := List.mem_singleton.mp member
    exact other _
  · cases member

/-- Of all the lines of a run only the one that names its authentication says that one is used. -/
theorem notices_of_plan {job : Job} (plan : Plan) (made : Request.ofJob job = .ok plan.request) :
    (openingLines job ++ planLines job plan).filter isNotice =
      (plan.entry.map fun entry => "Using authentication: " ++ entry.key).toList := by
  have quiet : (openingLines job ++ (mediaLine "Content-type" job.contentType ++
      mediaLine "Accept" job.acceptType ++
      job.headers.map fun header => header.name ++ ": " ++ header.value)).filter isNotice = [] := by
    rw [List.filter_eq_nil_iff]
    simp only [Bool.not_eq_true, List.forall_mem_append, List.forall_mem_map]
    refine ⟨?_, ⟨not_isNotice_mediaLine ?_, not_isNotice_mediaLine ?_⟩, ?_⟩
    · simp only [openingLines, List.forall_mem_cons, List.not_mem_nil, false_implies, implies_true,
        and_true, isNotice, String.toList_append]
      exact ⟨rfl, rfl⟩
    · intro value
      rw [isNotice, String.toList_append, String.toList_append, List.append_assoc]
      rfl
    · intro value
      rw [isNotice, String.toList_append, String.toList_append, List.append_assoc]
      rfl
    · exact fun header member => not_isNotice_header (Request.legal_of_ofJob made header member)
  rw [planLines, ← List.append_assoc, List.filter_append, quiet, List.nil_append]
  cases plan.entry with
  | none => rfl
  | some entry => exact List.filter_cons_of_pos (isNotice_key entry.key)

/-! ### The choice -/

theorem authentication_eq_none_iff (registry : Registry) (job : Job) :
    authentication registry job = .ok none ↔
      ∀ key, job.authenticationKey = some key → isBlankText key = true := by
  have asked : authentication registry job = .ok none ↔ job.authentication? = none := by
    unfold authentication
    cases job.authentication? with
    | none => simp
    | some key => cases found : registry.lookup? key <;> simp [found]
  rw [asked, Option.eq_none_iff_forall_ne_some]
  simp only [ne_eq, authentication?_eq_some_iff, not_and, Bool.not_eq_false]

theorem authentication_of_named {job : Job} {key : String} (asks : job.authenticationKey = some key)
    (named : isBlankText key = false) {registry : Registry} {entry : Authentication}
    (found : registry.lookup? key = some entry) :
    authentication registry job = .ok (some entry) := by
  simp only [authentication, (authentication?_eq_some_iff key).mpr ⟨asks, named⟩, found]

/-- How a session is made ready for requests to a target by an authentication: the password of an entry
is installed for the host and port of the target and nothing is sent, the steps of a form are sent, and
without an entry the session stays as it is. -/
inductive MadeReady (around : Surroundings) (start : Session) (target : Url) :
    Option Authentication → Except Error Unit → Session → Prop where
  | bare : MadeReady around start target none (.ok ()) start
  | password (key username password : String) :
      MadeReady around start target (some (.password key username password)) (.ok ())
        { start with
          credentials := some {
            host := target.hostText?.getD ""
            port := target.effectivePort?
            username
            password } }
  | flawed {key : String} {steps : List LoginStep} {error : ConfigurationError}
      (unbuilt : steps.mapM Request.ofStep = .error error) :
      MadeReady around start target (some (.form key steps)) (.error (.configuration error)) start
  | form {key : String} {steps : List LoginStep} {requests : List Request}
      {sends : List (Request × Except Error Response)} {result : Except Error Unit} {ready : Session}
      (built : steps.mapM Request.ofStep = .ok requests) (sent : Sends around start sends ready)
      (ends : LoginEnds key 1 requests sends result) :
      MadeReady around start target (some (.form key steps)) result ready

section

variable [BodyReader]

inductive GoesOn (around : Surroundings) (job : Job) (request : Request) :
    Except Error Unit → Session → Except Error Capture → Session → Prop where
  | stopped (error : Error) (session : Session) :
      GoesOn around job request (.error error) session (.error error) session
  | sent {ready after : Session} {outcome : Except Error Response}
      (sent : ready.send around request = (outcome, after)) :
      GoesOn around job request (.ok ()) ready (captured job request outcome) after

/-- Whether a job runs with this authentication and no other: its session is made ready by it before
the request is sent, and the console is told so once, or never if there is none. -/
structure RunsWith (executor : Executor) (network : Network) (job : Job) (request : Request)
    (target : Url) (entry : Option Authentication) : Prop where
  carried : ∃ result ready after,
    MadeReady executor.around (Session.start (job.timeout * 1000) network) target entry result ready ∧
      GoesOn executor.around job request result ready (executor.execute network job).outcome after ∧
      (executor.execute network job).traces = after.wire.traces ∧
      (executor.execute network job).network = after.wire.network
  outcome : (executor.execute network job).outcome =
    (executor.runPlan network job ⟨entry, request, target⟩).1
  traces : (executor.execute network job).traces =
    (executor.runPlan network job ⟨entry, request, target⟩).2.wire.traces
  left : (executor.execute network job).network =
    (executor.runPlan network job ⟨entry, request, target⟩).2.wire.network
  notices : (executor.execute network job).lines.filter isNotice =
    (entry.map fun entry => "Using authentication: " ++ entry.key).toList

theorem not_missesKey_runPlan (executor : Executor) (network : Network) (job : Job) (plan : Plan) :
    ¬MissesKey (executor.runPlan network job plan).1 := by
  intro misses
  obtain ⟨key, missed⟩ := misses
  cases hindrance_of_runPlan missed

omit [BodyReader] in
theorem madeReady_prepare (around : Surroundings) (start : Session) (target : Url)
    (entry : Option Authentication) :
    MadeReady around start target entry (start.prepare around target entry).1
      (start.prepare around target entry).2 := by
  match entry with
  | none => exact .bare
  | some (.password key username password) => exact .password key username password
  | some (.form key steps) =>
    change MadeReady around start target _ (start.logIn around key steps).1
      (start.logIn around key steps).2
    cases built : steps.mapM Request.ofStep with
    | error error =>
      rw [logIn_of_flawed around start key built]
      exact .flawed built
    | ok requests =>
      rw [logIn_of_built around start key built]
      obtain ⟨sends, sent, ends⟩ := sendSteps_ends around key requests start 1
      exact .form built sent ends

theorem goesOn_runPlan (executor : Executor) (network : Network) (job : Job) (plan : Plan) :
    let start := Session.start (job.timeout * 1000) network
    let prepared := start.prepare executor.around plan.target plan.entry
    GoesOn executor.around job plan.request prepared.1 prepared.2
      (executor.runPlan network job plan).1 (executor.runPlan network job plan).2 := by
  intro start prepared
  rcases made : prepared with ⟨error | _, ready⟩
  · rw [runPlan_of_unprepared executor network job plan made]
    exact .stopped error ready
  · rcases sent : ready.send executor.around plan.request with ⟨outcome, after⟩
    rw [runPlan_of_prepared executor network job plan made sent]
    exact .sent sent

section

variable {executor : Executor} {network : Network} {job : Job} {request : Request} {target : Url}

theorem runsWith_of_authentication (made : Request.ofJob job = .ok request)
    (read : Request.parseUrl request.url = .ok target) {entry : Option Authentication}
    (asked : authentication executor.registry job = .ok entry) :
    RunsWith executor network job request target entry := by
  have planned : Executor.plan executor.registry job = .ok ⟨entry, request, target⟩ :=
    (plan_eq_ok_iff _ _ _).mpr ⟨asked, made, read⟩
  obtain ⟨outcome, traces, left⟩ := execute_of_plan executor network planned
  have goes := goesOn_runPlan executor network job ⟨entry, request, target⟩
  rw [← outcome] at goes
  have ready := madeReady_prepare executor.around (Session.start (job.timeout * 1000) network) target
    entry
  refine ⟨⟨_, _, _, ready, goes, traces, left⟩, outcome, traces, left, ?_⟩
  rw [← notices_of_plan ⟨entry, request, target⟩ made]
  simp only [execute, planned]

/-- A run without authentication is of a job that asks for none: with an entry the console would be
told, and without one the run would miss a key. -/
theorem authentication_of_bare (made : Request.ofJob job = .ok request)
    (read : Request.parseUrl request.url = .ok target)
    (bare : RunsWith executor network job request target none) :
    authentication executor.registry job = .ok none := by
  cases asked : authentication executor.registry job with
  | error error =>
    have unknown := (authentication_eq_error_iff error).mp asked
    have missed := (execute_of_firstProblem executor network (.key unknown)).1
    obtain ⟨key, _, _, _, rfl⟩ := unknown
    rw [bare.outcome] at missed
    exact absurd ⟨key, missed⟩ (not_missesKey_runPlan executor network job _)
  | ok entry =>
    cases entry with
    | none => rfl
    | some entry =>
      have used : RunsWith executor network job request target (some entry) :=
        runsWith_of_authentication made read asked
      have notices := bare.notices.symm.trans used.notices
      cases notices

theorem missesKey_execute (made : Request.ofJob job = .ok request)
    (read : Request.parseUrl request.url = .ok target)
    (missed : MissesKey (executor.execute network job).outcome) :
    ∃ error, authentication executor.registry job = .error error := by
  cases asked : authentication executor.registry job with
  | error error => exact ⟨error, rfl⟩
  | ok entry =>
    rw [(runsWith_of_authentication made read asked).outcome] at missed
    exact absurd missed (not_missesKey_runPlan executor network job _)

theorem missesKey_iff (made : Request.ofJob job = .ok request)
    (read : Request.parseUrl request.url = .ok target) {key : String}
    (asks : job.authenticationKey = some key) (named : isBlankText key = false) :
    (executor.execute network job).outcome = .error (.configuration (.unknownAuthentication key)) ↔
      ∀ entry ∈ executor.registry.entries, entry.key ≠ key := by
  constructor
  · intro missed
    obtain ⟨error, asked⟩ := missesKey_execute made read ⟨key, missed⟩
    obtain ⟨other, same, _, absent, _⟩ := (authentication_eq_error_iff error).mp asked
    obtain rfl := Option.some.inj (asks.symm.trans same)
    exact absent
  · intro absent
    have unknown : AsksForUnknown executor.registry job (.unknownAuthentication key) :=
      ⟨key, asks, named, absent, rfl⟩
    exact (execute_of_firstProblem executor network (.key unknown)).1

end

/-- Whatever changes a registry has seen, a job that could run otherwise runs without authentication
only if its key is blank or missing, and no entry has a blank key; with any other key it runs with
the entry of exactly that key, and fails for the key if there is none. -/
theorem authentication_never_skipped {registry : Registry} (starts : Starts registry)
    (changes : List Change) (around : Surroundings) (network : Network) {job : Job}
    {request : Request} {target : Url} (made : Request.ofJob job = .ok request)
    (read : Request.parseUrl request.url = .ok target) :
    let executor : Executor :=
      { registry := (Live.after { current := registry } changes).current, around }
    (RunsWith executor network job request target none ↔
      ∀ key, job.authenticationKey = some key → isBlankText key = true) ∧
    (∀ key, isBlankText key = true → ∀ entry ∈ executor.registry.entries, entry.key ≠ key) ∧
    ∀ key, job.authenticationKey = some key → isBlankText key = false →
      (∀ entry ∈ executor.registry.entries, entry.key = key →
        RunsWith executor network job request target (some entry) ∧
        ∀ other ∈ executor.registry.entries, other.key = key → other = entry) ∧
      ((executor.execute network job).outcome =
          .error (.configuration (.unknownAuthentication key)) ↔
        ∀ entry ∈ executor.registry.entries, entry.key ≠ key) := by
  intro executor
  have keyed := Live.keyed_after { current := registry } starts.keyed changes
  refine ⟨⟨fun bare => ?_, fun blank => ?_⟩, ?_, fun key asks named =>
    ⟨fun entry member own => ?_, ?_⟩⟩
  · exact (authentication_eq_none_iff _ _).mp (authentication_of_bare made read bare)
  · exact runsWith_of_authentication made read ((authentication_eq_none_iff _ _).mpr blank)
  · rintro key blank entry member rfl
    have named := keyed.named entry member
    rw [blank] at named
    cases named
  · have found := (Registry.lookup?_eq_some_iff keyed key entry).mpr ⟨member, own⟩
    refine ⟨runsWith_of_authentication made read (authentication_of_named asks named found), ?_⟩
    intro other listed same
    have again := (Registry.lookup?_eq_some_iff keyed key other).mpr ⟨listed, same⟩
    exact Option.some.inj (again.symm.trans found)
  · exact missesKey_iff made read asks named

end

attribute [local instance] BodyReader.strict

def opening : List Change := [.add (.password "desk" "bob" "shut"), .add (.form " \t" [])]

def knock (key : String) : Job where
  url := "http://[::1]/"
  authenticationKey := some key

theorem desk_found_by_its_key_only :
    let executor : Executor :=
      { registry := (Live.after { current := {} } opening).current, around := ⟨0, "c"⟩ }
    let network := Network.scripted []
    RunsWith executor network (knock "desk") ⟨.get, "http://[::1]/", [], none⟩ Session.loopback
        (some (.password "desk" "bob" "shut")) ∧
      RunsWith executor network (knock " \t") ⟨.get, "http://[::1]/", [], none⟩ Session.loopback none ∧
      (executor.execute network (knock "Desk")).outcome =
        .error (.configuration (.unknownAuthentication "Desk")) := by
  intro executor network
  have encoded : Request.encode .get "http://[::1]/" [] .notSet =
      .ok ⟨.get, "http://[::1]/", [], none⟩ :=
    Outcome.eq_ok_of_toOption (by decide +kernel)
  have made (key : String) : Request.ofJob (knock key) = .ok ⟨.get, "http://[::1]/", [], none⟩ :=
    (Outcome.bind_eq_ok_iff _ _ _).mpr ⟨_, encoded, rfl⟩
  have chosen (key : String) := authentication_never_skipped .new opening ⟨0, "c"⟩ network (made key)
    Session.parseUrl_loopback
  have entries : executor.registry.entries = [.password "desk" "bob" "shut"] := by decide +kernel
  refine ⟨?_, ?_, ?_⟩
  · exact ((chosen "desk").2.2 "desk" rfl (by decide +kernel)).1 _ (by rw [entries]; simp) rfl |>.1
  · refine (chosen " \t").1.mpr ?_
    rintro key ⟨⟩
    decide +kernel
  · refine ((chosen "Desk").2.2 "Desk" rfl (by decide +kernel)).2.mpr ?_
    rw [entries]
    decide

end Executor
end Courier
