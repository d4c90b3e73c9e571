import Courier.Proofs.Executor.Verdict
import Courier.Proofs.Session.Origins
import Courier.Proofs.Session.Scope
/-! Calls keep to themselves. Whatever calls were made before, and whatever came of them, a call finds
only the rest of the script and the files: it does what it would do alone, and every cookie and every
credential it sends is its own. -/

namespace Courier

/-! ### Plans -/

namespace Executor.Plan

def steps (plan : Plan) : List Session.Step := [.prepare plan.target plan.entry, .send plan.request]

def MaySend (plan : Plan) (request : Request) : Prop := ∃ step ∈ plan.steps, step.MaySend request

def credentials? (plan : Plan) : Option Credentials :=
  (Session.Step.prepare plan.target plan.entry).installs?

/-- Whether an arrival stems from a plan and from what was seen since it was begun. -/
def Explains (script : Network) (around : Surroundings) (plan : Plan) : List Trace → Arrival → Prop :=
  Session.Explains script around plan.credentials? plan.MaySend

end Executor.Plan

namespace Executor

section

variable [BodyReader] {Files : Type} [FileSystem Files]

omit [BodyReader] in
/-- A session that is ready for a plan has the credentials of the plan. -/
theorem prepare_follows (script : Network) (around : Surroundings) (timeout : Nat) (plan : Plan) :
    let ready := ((Session.start timeout script).prepare around plan.target plan.entry).2
    ready.wire.Follows script around.now (plan.Explains script around) ∧
      ready.credentials = plan.credentials? := by
  have fresh := Wire.follows_start script around.now (plan.Explains script around)
  obtain ⟨entry, request, target⟩ := plan
  cases entry with
  | none => exact ⟨fresh, rfl⟩
  | some given =>
    cases given with
    | password key username password => exact ⟨fresh, rfl⟩
    | form key steps =>
      have allowed : ∀ step ∈ steps, ∀ request', Request.ofStep step = .ok request' →
          Plan.MaySend ⟨some (.form key steps), request, target⟩ request' := fun step listed _ made =>
        ⟨_, List.mem_cons_self, step, listed, made⟩
      have bare : (Session.start timeout script).credentials = none := rfl
      exact ⟨Session.logIn_follows fresh bare key allowed, Session.logIn_credentials _ _ key steps⟩

theorem runPlan_follows (executor : Executor) (script : Network) (job : Job) (plan : Plan) :
    (executor.runPlan script job plan).2.wire.Follows script executor.around.now
      (plan.Explains script executor.around) := by
  obtain ⟨follows, own⟩ := prepare_follows script executor.around (job.timeout * 1000) plan
  rcases prepared : (Session.start (job.timeout * 1000) script).prepare executor.around plan.target
    plan.entry with ⟨_ | _, ready⟩
  · rw [prepared] at follows
    rw [runPlan_of_unprepared executor script job plan prepared]
    exact follows
  · rw [prepared] at follows own
    dsimp only at follows own
    have allowed : plan.MaySend plan.request := ⟨.send plan.request, by simp [Plan.steps], rfl⟩
    have done := (Session.send_advances follows own allowed).follows
    rcases sent : ready.send executor.around plan.request with ⟨outcome, after⟩
    rw [sent] at done
    rw [runPlan_of_prepared executor script job plan prepared sent]
    exact done

/-! ### Calls -/

def Call.job : Call → Job
  | .execute job | .perform job => job

def Call.savesTo? : Call → Option String
  | .execute _ => none
  | .perform job => job.outputFile

/-- Whether a call that found this script took of it what it noted, and all that arrived stems from
the plan of its own job and from what was seen since the call began. -/
structure Accounts (executor : Executor) (script : Network) (job : Job) (report : Report) : Prop where
  network : report.network = script.drop report.traces.length
  arrivals : ∀ seen arrival, seen ++ [.arrived arrival] <+: report.traces →
    ∃ plan, Executor.plan executor.registry job = .ok plan ∧
      plan.Explains script executor.around seen arrival

theorem execute_accounts (executor : Executor) (script : Network) (job : Job) :
    executor.Accounts script job (executor.execute script job) := by
  cases planned : Executor.plan executor.registry job with
  | error error =>
    rw [execute_of_unplanned job planned]
    exact ⟨script.drop_zero.symm, by simp⟩
  | ok plan =>
    have follows := runPlan_follows executor script job plan
    obtain ⟨_, traces, network⟩ := execute_of_plan executor script planned
    constructor
    · rw [network, traces]
      exact follows.network
    · intro seen arrival noted
      rw [traces] at noted
      exact ⟨plan, planned, follows.arrivals seen arrival noted⟩

theorem perform_accounts (executor : Executor) (script : Network) (files : Files) (job : Job) :
    executor.Accounts script job (executor.perform script files job).1 := by
  have fetched := execute_accounts executor script job
  cases ranged : RangeSet.parse (some job.acceptedCodes) with
  | error error =>
    rw [perform_of_unranged files job ranged]
    exact ⟨script.drop_zero.symm, by simp⟩
  | ok accepted =>
    cases outcome : (executor.execute script job).outcome with
    | error error =>
      rw [perform_of_failed files job ranged outcome]
      exact fetched
    | ok capture =>
      rw [perform_of_captured files job ranged outcome]
      exact ⟨fetched.network, fetched.arrivals⟩

theorem call_accounts (executor : Executor) (script : Network) (files : Files) (asked : Call) :
    executor.Accounts script asked.job (executor.call script files asked).1 := by
  cases asked with
  | execute job => exact execute_accounts executor script job
  | perform job => exact perform_accounts executor script files job

/-! ### Files -/

section

variable {job : Job} {files others : Files}
  (written : ∀ path bytes, job.outputFile = some path →
    (FileSystem.write files path bytes).1 = (FileSystem.write others path bytes).1)
include written

omit [BodyReader] in
theorem save_elsewhere (payload : Option Payload) :
    (save job payload files).1 = (save job payload others).1 := by
  cases named : job.outputFile with
  | none => simp only [save, named]
  | some path =>
    cases payload with
    | none => simp only [save, named]
    | some payload => simp only [save, named, written path payload.bytes named]

theorem conclude_elsewhere (accepted : RangeSet) (capture : Capture) :
    (conclude job accepted capture files).1 = (conclude job accepted capture others).1 ∧
      (conclude job accepted capture files).2.1 = (conclude job accepted capture others).2.1 := by
  unfold conclude
  split
  next => exact ⟨rfl, rfl⟩
  next body after read =>
    dsimp only
    generalize (if needsBody job then after.loadQuietly.1 else none) = payload
    have same := save_elsewhere written payload
    rcases here : save job payload files with ⟨outcome, left⟩
    rcases there : save job payload others with ⟨other, left'⟩
    rw [here, there] at same
    obtain rfl := same
    cases outcome with
    | error error => exact ⟨rfl, rfl⟩
    | ok _ =>
      dsimp only
      rcases verdict job accepted after.status payload with ⟨range, _ | _⟩
      · exact ⟨rfl, rfl⟩
      · exact ⟨rfl, rfl⟩

end

/-- Whether what is reported of a call is the same among other files: what was sent always, and all of
it if a body is saved there as well or as little. -/
structure Elsewhere (savesTo? : Option String) (files others : Files) (here there : Report) : Prop where
  traces : here.traces = there.traces
  network : here.network = there.network
  report : (∀ path bytes, savesTo? = some path →
    (FileSystem.write files path bytes).1 = (FileSystem.write others path bytes).1) → here = there

omit [BodyReader] in
theorem Elsewhere.refl (savesTo? : Option String) (files others : Files) (report : Report) :
    Elsewhere savesTo? files others report report := ⟨rfl, rfl, fun _ => rfl⟩

theorem call_elsewhere (executor : Executor) (script : Network) (files others : Files)
    (asked : Call) :
    Elsewhere asked.savesTo? files others (executor.call script files asked).1
      (executor.call script others asked).1 := by
  cases asked with
  | execute job => exact .refl _ _ _ _
  | perform job =>
    rw [call, call]
    cases ranged : RangeSet.parse (some job.acceptedCodes) with
    | error error =>
      rw [perform_of_unranged files job ranged, perform_of_unranged others job ranged]
      exact .refl _ _ _ _
    | ok accepted =>
      cases outcome : (executor.execute script job).outcome with
      | error error =>
        rw [perform_of_failed files job ranged outcome, perform_of_failed others job ranged outcome]
        exact .refl _ _ _ _
      | ok capture =>
        rw [perform_of_captured files job ranged outcome,
          perform_of_captured others job ranged outcome]
        refine ⟨rfl, rfl, fun written => ?_⟩
        obtain ⟨same, lines⟩ := conclude_elsewhere written accepted capture
        dsimp only
        rw [same, lines]

/-! ### Calls after calls -/

def taken (reports : List (Report × Files)) : Nat := (reports.flatMap (·.1.traces)).length

def kept (files : Files) (reports : List (Report × Files)) : Files :=
  (reports.map Prod.snd).getLastD files

section

variable (registry : Registry)

/-- Calls after others find the rest of the script and the files, and nothing else. -/
theorem callAll_append (script : Network) (files : Files)
    (earlier later : List (Surroundings × Call)) :
    callAll registry script files (earlier ++ later) =
      callAll registry script files earlier ++
        callAll registry (script.drop (taken (callAll registry script files earlier)))
          (kept files (callAll registry script files earlier)) later := by
  -- What the first call leaves is what the others start from, and their replies add up.
  induction earlier generalizing script files with
  | nil =>
    rw [List.nil_append, callAll, List.nil_append]
    exact congrArg (callAll registry · files later) script.drop_zero.symm
  | cons next rest ih =>
    let done := call ⟨registry, next.1⟩ script files next.2
    have left : done.1.network = script.drop done.1.traces.length :=
      (call_accounts ⟨registry, next.1⟩ script files next.2).network
    let reports := callAll registry done.1.network done.2 rest
    have taken_cons : taken (done :: reports) = done.1.traces.length + taken reports := by
      simp only [taken, List.flatMap_cons, List.length_append]
    have kept_cons : kept files (done :: reports) = kept done.2 reports := by
      simp only [kept, List.map_cons, List.getLastD_cons]
    have onward := ih done.1.network done.2
    rw [List.cons_append, callAll, callAll]
    change done :: _ = done :: reports ++ callAll registry (script.drop (taken (done :: reports)))
      (kept files (done :: reports)) later
    rw [onward, taken_cons, kept_cons, ← Network.drop_drop, ← left, List.cons_append]

theorem length_callAll (script : Network) (files : Files) (calls : List (Surroundings × Call)) :
    (callAll registry script files calls).length = calls.length := by
  induction calls generalizing script files with
  | nil => rfl
  | cons next rest ih => rw [callAll, List.length_cons, List.length_cons, ih]

/-- What holds of a call that found this script and these files. -/
structure Isolated (script : Network) (files : Files) (around : Surroundings) (asked : Call)
    (done : Report × Files) : Prop where
  /-- It comes to the same as alone. -/
  alone : callAll registry script files [(around, asked)] = [done]
  /-- The files make no difference but for whether the body can be saved. -/
  elsewhere : ∀ others, Elsewhere asked.savesTo? files others done.1
    (call ⟨registry, around⟩ script others asked).1
  /-- All that it sent stems from its own plan and from replies that it took itself. -/
  accounts : Accounts ⟨registry, around⟩ script asked.job done.1

/-- Every call in a row does what it would do alone with the rest of the script and the files, whatever
came of the calls before it; and the cookies and credentials that it sends are those of its own plan
and of responses to its own requests. -/
theorem calls_are_isolated (script : Network) (files : Files)
    (earlier later : List (Surroundings × Call)) (around : Surroundings) (asked : Call) :
    let before := callAll registry script files earlier
    ∃ done,
      callAll registry script files (earlier ++ (around, asked) :: later) =
        before ++ done :: callAll registry done.1.network done.2 later ∧
      before.length = earlier.length ∧
      Isolated registry (script.drop (taken before)) (kept files before) around asked done := by
  intro before
  let executor : Executor := ⟨registry, around⟩
  let done := executor.call (script.drop (taken before)) (kept files before) asked
  refine ⟨done, ?_, length_callAll registry script files earlier, rfl, ?_, ?_⟩
  · rw [callAll_append, callAll]
  · exact fun others => call_elsewhere executor _ _ others asked
  · exact call_accounts executor _ _ asked

end

end

attribute [local instance] BodyReader.strict

def passing : Job where
  url := "http://[::1]/"

def lobby : Network :=
  .scripted [.answer ⟨200, [("Set-Cookie", "sid=1; Path=/")], .whole []⟩,
    .answer ⟨200, [], .whole []⟩, .answer ⟨200, [], .whole []⟩, .answer ⟨200, [], .whole []⟩]

theorem cookie_ends_with_its_call :
    let root : Destination := ⟨false, none, "[::1]", 80, "/", none⟩
    let first : List (Surroundings × Call) := [(⟨0, "c"⟩, .perform errand)]
    let before := callAll clerks lobby ({} : Folder) first
    before.map (·.1.traces) = [[.arrived ⟨.get, root, [], ""⟩,
      .arrived ⟨.post, root, [("cookie", "sid=1")], ""⟩,
      .arrived ⟨.get, root, [("cookie", "sid=1")], ""⟩]] ∧
    ∃ done, callAll clerks lobby ({} : Folder) (first ++ [(⟨0, "c"⟩, .execute passing)]) = before ++ [done] ∧
      Isolated clerks (.scripted [.answer ⟨200, [], .whole []⟩]) ({} : Folder) ⟨0, "c"⟩
        (.execute passing) done ∧
      done.1.traces = [.arrived ⟨.get, root, [], ""⟩] := by
  intro root first before
  obtain ⟨done, row, _, isolated⟩ :=
    calls_are_isolated clerks lobby ({} : Folder) first [] ⟨0, "c"⟩ (.execute passing)
  have rest : lobby.drop (taken before) = .scripted [.answer ⟨200, [], .whole []⟩] := by
    decide +kernel
  have unchanged : kept ({} : Folder) before = {} := by decide +kernel
  change Isolated clerks (lobby.drop (taken before)) (kept ({} : Folder) before) _ _ done at isolated
  rw [rest, unchanged] at isolated
  have traces := congrArg (List.map (·.1.traces)) isolated.alone
  refine ⟨by decide +kernel, done, row, isolated, List.singleton_inj.mp (traces.symm.trans ?_)⟩
  decide +kernel

end Executor
end Courier
