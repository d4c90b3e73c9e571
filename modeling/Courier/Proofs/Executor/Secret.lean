import Courier.Proofs.Executor.Deferral
import Courier.Proofs.Session.Alike
/-! Passwords stay out of sight. Jobs that run with registries that differ only in passwords tell the
console the same, leave the same files and come to the same end; what arrives on the other side
differs at most in what authorizations say. -/

namespace Courier

open Outcome (Agree)

inductive Authentication.SameButPassword : Authentication → Authentication → Prop where
  | password (key username one other : String) :
      SameButPassword (.password key username one) (.password key username other)
  | form (key : String) (steps : List LoginStep) :
      SameButPassword (.form key steps) (.form key steps)

structure Report.Alike (left right : Report) : Prop where
  outcome : left.outcome = right.outcome
  lines : left.lines = right.lines
  traces : left.traces.map Trace.veiled = right.traces.map Trace.veiled
  network : left.network = right.network

namespace Authentication.SameButPassword

variable {left right : Authentication}

theorem key_eq (same : SameButPassword left right) : left.key = right.key := by
  cases same <;> rfl

theorem debugText_eq (same : SameButPassword left right) : left.debugText = right.debugText := by
  cases same <;> rfl

end Authentication.SameButPassword

open Authentication (SameButPassword)

theorem Report.Alike.refl (report : Report) : Report.Alike report report := ⟨rfl, rfl, rfl, rfl⟩

namespace Executor

structure Plan.Alike (left right : Plan) : Prop where
  entry : Option.Rel SameButPassword left.entry right.entry
  request : left.request = right.request
  target : left.target = right.target

section

variable {left right : Registry}
  (same : List.Forall₂ SameButPassword left.entries right.entries)
include same

theorem lookup?_alike (key : String) :
    Option.Rel SameButPassword (left.lookup? key) (right.lookup? key) := by
  unfold Registry.lookup?
  generalize left.entries = one, right.entries = other at same
  induction same with
  | nil => exact .none
  | @cons one other _ _ here _ ih =>
    rw [List.find?_cons, List.find?_cons, here.key_eq]
    split
    · exact .some here
    · exact ih

theorem authentication_alike (job : Job) :
    Outcome.Rel (Option.Rel SameButPassword) (authentication left job) (authentication right job) := by
  unfold authentication
  cases job.authentication? with
  | none => exact .ok .none
  | some key =>
    have found := lookup?_alike same key
    dsimp only
    generalize left.lookup? key = one, right.lookup? key = other at found
    cases found with
    | none => exact .error _
    | some here => exact .ok (.some here)

theorem plan_alike (job : Job) : Outcome.Rel Plan.Alike (plan left job) (plan right job) := by
  unfold plan
  apply (authentication_alike same job).bind
  intro one other entries
  apply (Outcome.Rel.refl (Request.ofJob job)).bind
  rintro request _ rfl
  apply (Outcome.Rel.refl (Request.parseUrl request.url)).bind
  rintro target _ rfl
  exact .ok ⟨entries, rfl, rfl⟩

end

section

variable {one other : Plan} (plans : Plan.Alike one other)
include plans

theorem planLines_alike (job : Job) : planLines job one = planLines job other := by
  have named : one.entry.map Authentication.key = other.entry.map Authentication.key := by
    have entries := plans.entry
    generalize one.entry = first, other.entry = second at entries
    cases entries with
    | none => rfl
    | some same => exact congrArg some same.key_eq
  have lines := congrArg (Option.map ("Using authentication: " ++ ·)) named
  simp only [Option.map_map, Function.comp_def] at lines
  rw [planLines, planLines, lines]

/-- Only a password makes a difference, and it is told by sending the request and not before. -/
theorem sendPlan_alike (around : Surroundings) (session : Session) :
    Agree Session.Alike (sendPlan around session one) (sendPlan around session other) := by
  obtain ⟨entry, request, target⟩ := one
  obtain ⟨entry', request', target'⟩ := other
  obtain ⟨entries, rfl, rfl⟩ := plans
  cases entries with
  | none => exact .refl .refl _
  | some same =>
    cases same with
    | form key steps => exact .refl .refl _
    | password key username secret secret' =>
      have installed : Session.Alike (session.install target username secret)
          (session.install target username secret') := ⟨rfl, .refl _, .some ⟨rfl, rfl, rfl⟩⟩
      exact Session.send_alike installed request around

end

section

variable [BodyReader] {Files : Type} [FileSystem Files]

theorem runPlan_alike {one other : Plan} (plans : Plan.Alike one other) (left right : Registry)
    (around : Surroundings) (network : Network) (job : Job) :
    Agree Session.Alike (runPlan ⟨left, around⟩ network job one)
      (runPlan ⟨right, around⟩ network job other) := by
  obtain ⟨outcome, before, after, first, second, sessions⟩ :=
    (sendPlan_alike plans around (Session.start (job.timeout * 1000) network)).exists
  unfold runPlan
  dsimp only
  rw [first, second, plans.request]
  cases outcome with
  | error error => exact ⟨rfl, sessions⟩
  | ok response => exact ⟨rfl, sessions⟩

section

variable {left right : Registry}
  (same : List.Forall₂ SameButPassword left.entries right.entries)
  (around : Surroundings) (network : Network) (files : Files)
include same

theorem execute_alike (job : Job) :
    Report.Alike (execute ⟨left, around⟩ network job) (execute ⟨right, around⟩ network job) := by
  unfold execute
  dsimp only
  rcases (plan_alike same job).elim with
    ⟨error, first, second⟩ | ⟨one, other, first, second, plans⟩
  · rw [first, second]
    exact .refl _
  · obtain ⟨outcome, before, after, ran, ran', sessions⟩ :=
      (runPlan_alike plans left right around network job).exists
    rw [first, second]
    dsimp only
    rw [ran, ran', planLines_alike plans job]
    exact ⟨rfl, rfl, sessions.wire.traces, sessions.wire.network⟩

theorem perform_alike (job : Job) :
    Report.Alike (perform ⟨left, around⟩ network files job).1
        (perform ⟨right, around⟩ network files job).1 ∧
      (perform ⟨left, around⟩ network files job).2 =
        (perform ⟨right, around⟩ network files job).2 := by
  cases ranged : RangeSet.parse (some job.acceptedCodes) with
  | error error =>
    rw [perform_of_unranged files job ranged, perform_of_unranged files job ranged]
    exact ⟨.refl _, rfl⟩
  | ok accepted =>
    have fetched := execute_alike same around network job
    cases outcome : (execute ⟨right, around⟩ network job).outcome with
    | error error =>
      rw [perform_of_failed files job ranged (fetched.outcome.trans outcome),
        perform_of_failed files job ranged outcome]
      exact ⟨fetched, rfl⟩
    | ok capture =>
      rw [perform_of_captured files job ranged (fetched.outcome.trans outcome),
        perform_of_captured files job ranged outcome, fetched.lines]
      exact ⟨⟨rfl, rfl, fetched.traces, fetched.network⟩, rfl⟩

theorem call_alike (asked : Call) :
    Report.Alike (call ⟨left, around⟩ network files asked).1
        (call ⟨right, around⟩ network files asked).1 ∧
      (call ⟨left, around⟩ network files asked).2 =
        (call ⟨right, around⟩ network files asked).2 := by
  cases asked with
  | execute job => exact ⟨execute_alike same around network job, rfl⟩
  | perform job => exact perform_alike same around network files job

end

/-- Registries that differ only in passwords cannot be told apart by what calls come to, but for what
the authorizations say that arrive. -/
theorem passwords_stay_secret (left right : Registry)
    (same : List.Forall₂ SameButPassword left.entries right.entries) :
    (∀ (network : Network) (files : Files) (calls : List (Surroundings × Call)),
      List.Forall₂ (fun one other => Report.Alike one.1 other.1 ∧ one.2 = other.2)
        (callAll left network files calls) (callAll right network files calls)) ∧
    List.Forall₂ (fun one other => one.debugText = other.debugText) left.entries right.entries := by
  constructor
  · intro network files calls
    induction calls generalizing network files with
    | nil => exact .nil
    | cons next rest ih =>
      obtain ⟨report, left_files⟩ := call_alike same next.1 network files next.2
      rw [callAll, callAll, report.network, left_files]
      exact .cons ⟨report, left_files⟩ (ih _ _)
  · exact same.imp fun _ _ => SameButPassword.debugText_eq

end

attribute [local instance] BodyReader.strict

def reception (password : String) : Registry where
  entries := [.password "desk" "ann" password]

def consultation : Job where
  url := "http://[::1]/"
  authenticationKey := some "desk"

theorem reception_keeps_its_password :
    List.Forall₂ SameButPassword (reception "open").entries (reception "shut").entries ∧
      let network := Network.scripted [.answer ⟨401, [("www-authenticate", "Basic")], .whole []⟩]
      let one := callAll (reception "open") network ({} : Folder) [(⟨0, "c"⟩, .perform consultation)]
      let other := callAll (reception "shut") network ({} : Folder) [(⟨0, "c"⟩, .perform consultation)]
      List.Forall₂ (fun one other => Report.Alike one.1 other.1 ∧ one.2 = other.2) one other ∧
        one.map (·.1.traces) ≠ other.map (·.1.traces) := by
  have same : List.Forall₂ SameButPassword (reception "open").entries (reception "shut").entries :=
    .cons (.password "desk" "ann" "open" "shut") .nil
  exact ⟨same, (passwords_stay_secret _ _ same).1 _ _ _, by decide +kernel⟩

end Executor
end Courier
