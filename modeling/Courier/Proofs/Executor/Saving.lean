import Courier.Proofs.Capture.Once
import Courier.Proofs.Executor.Deferral
/-! What jobs do to files. A job that is only fetched leaves them alone; one that is judged writes the
body of its response as it was received to the file that it names, before it is judged and whatever
the judgement is, and touches nothing else. Whether the write succeeds is up to the system. -/

namespace Courier.Executor

open Capture (Origin)

/-- Whether the job gets a response whose body is delivered with these bytes. -/
def Receives (executor : Executor) (network : Network) (job : Job) (raw : List UInt8) : Prop :=
  ∃ plan response session, Executor.plan executor.registry job = .ok plan ∧
    sendPlan executor.around (Session.start (job.timeout * 1000) network) plan =
      (.ok response, session) ∧
    response.delivery = .whole raw

/-- A job receives one body. -/
theorem Receives.unique {executor : Executor} {network : Network} {job : Job} {raw other : List UInt8}
    (first : Receives executor network job raw) (second : Receives executor network job other) :
    raw = other := by
  obtain ⟨plan, response, session, planned, sent, delivered⟩ := first
  obtain ⟨plan', response', session', planned', sent', delivered'⟩ := second
  obtain rfl := Except.ok.inj (planned.symm.trans planned')
  obtain ⟨answered, rfl⟩ := Prod.mk.inj (sent.symm.trans sent')
  obtain rfl := Except.ok.inj answered
  exact Delivery.whole.inj (delivered.symm.trans delivered')

section

variable [BodyReader] {Files : Type} [FileSystem Files]

/-- Whether a job has something to save and a place for it: it names a path, is captured when it is
fetched, and the body of the capture is there or can be read. -/
structure HasToSave (executor : Executor) (network : Network) (job : Job) (path : String)
    (capture : Capture) : Prop where
  ranged : ∃ accepted, RangeSet.parse (some job.acceptedCodes) = .ok accepted
  named : job.outputFile = some path
  captured : (executor.execute network job).outcome = .ok capture
  readable : ∀ error, ¬capture.Fails error

/-- What a judged job does when it has bytes to save: how it ends, what it tells the console and what
it leaves of the files. -/
structure Saves (files : Files) (path : String) (raw : List UInt8) (outcome : Except Error Capture)
    (lines : List String) (after : Files) : Prop where
  told : "Saving response to " ++ path ∈ lines
  tried : after = (FileSystem.write files path raw).2
  /-- Nothing but the write is blamed on the file. -/
  blamed : ∀ cause, outcome = .error (.output path cause) ↔
    (FileSystem.write files path raw).1 = .error cause
  held : (∀ cause, outcome ≠ .error (.output path cause)) → FileSystem.read? after path = some raw
  others : ∀ other, ¬FileSystem.Same files path other →
    FileSystem.read? after other = FileSystem.read? files other

/-! ### The body -/

theorem exists_received {executor : Executor} {network : Network} {job : Job} {capture : Capture}
    (captured : (executor.execute network job).outcome = .ok capture)
    (readable : ∀ error, ¬capture.Fails error) :
    ∃ raw payload, Receives executor network job raw ∧ capture.load.1 = .ok (some payload) ∧
      payload.bytes = raw ∧ payload.content = Utf8.lossyText raw := by
  obtain ⟨plan, response, session, planned, sent, made⟩ := exists_response_of_captured captured
  have kept : (Origin.response (onItsWay job plan.request response) job.captureBody).capture
      response.status response.headers = .ok capture := made
  have starts := (Capture.startsWith_of_made kept).1
  obtain ⟨payload, read⟩ := starts.exists_read readable
  obtain ⟨raw, taken, _⟩ := (PendingBody.read_eq_ok_iff _ _).mp read
  have delivered : response.delivery = .whole raw := BodyReader.all taken
  obtain ⟨loaded, load, bytes, content⟩ := starts.load ⟨delivered, payload, read⟩
  exact ⟨raw, loaded, ⟨plan, response, session, planned, sent, delivered⟩, load, bytes, content⟩

/-! ### The files -/

section

variable {job : Job} (accepted : RangeSet) (files : Files) {capture : Capture} {path : String}

theorem conclude_of_unnamed (unnamed : job.outputFile = none) :
    (conclude job accepted capture files).2.2 = files := by
  by_cases unread : ∃ error, Unread job capture error
  · obtain ⟨error, unread⟩ := unread
    rw [conclude_of_unread unread]
  · have unsaved : save job (looked job capture) files = (.ok (), files) := by
      simp only [save, unnamed]
    rw [conclude_of_saved (not_exists.mp unread) unsaved]

/-- A body that is there is written before anything is judged. -/
theorem saves_of_loaded {payload : Payload} (named : job.outputFile = some path)
    (loaded : capture.load.1 = .ok (some payload)) :
    let done := conclude job accepted capture files
    Saves files path payload.bytes done.1 done.2.1 done.2.2 := by
  have read : ∀ error, ¬Unread job capture error := by
    intro error unread
    rw [(capture.load_eq_error_iff error).mpr unread.2] at loaded
    cases loaded
  have needed : needsBody job = true := (needsBody_iff job).mpr (Or.inr (Or.inl ⟨path, named⟩))
  have shown : looked job capture = some payload := looked_of_load needed loaded
  have told : "Saving response to " ++ path ∈ bodyLines job (looked job capture) := by
    simp [bodyLines, named, shown]
  have saving : save job (looked job capture) files =
      ((FileSystem.write files path payload.bytes).1.mapError (Error.output path),
        (FileSystem.write files path payload.bytes).2) := by
    simp only [save, named, shown]
  cases written : (FileSystem.write files path payload.bytes).1 with
  | error cause =>
    rw [written] at saving
    rw [conclude_of_unsaved read saving]
    exact {
      told := told
      tried := rfl
      blamed := by simp [written]
      held := fun unblamed => absurd rfl (unblamed cause)
      others := fun other => FileSystem.elsewhere }
  | ok _ =>
    rw [written] at saving
    rw [conclude_of_saved read saving]
    exact {
      told := List.mem_append_left _ told
      tried := rfl
      blamed := by
        intro cause
        dsimp only
        split <;> simp [written]
      held := fun _ => FileSystem.written written
      others := fun other => FileSystem.elsewhere }

end

/-! ### Jobs -/

section

variable {executor : Executor} {network : Network} {job : Job} (files : Files)

theorem perform_saves {path : String} {capture : Capture}
    (due : HasToSave executor network job path capture) :
    ∃ raw, Receives executor network job raw ∧
      let judged := executor.perform network files job
      Saves files path raw judged.1.outcome judged.1.lines judged.2 := by
  obtain ⟨accepted, ranged⟩ := due.ranged
  obtain ⟨raw, payload, received, loaded, rfl, _⟩ := exists_received due.captured due.readable
  have saves := saves_of_loaded accepted files due.named loaded
  refine ⟨payload.bytes, received, ?_⟩
  rw [perform_of_captured files job ranged due.captured]
  exact { saves with told := List.mem_append_right _ saves.told }

theorem perform_keeps_files
    (idle : ∀ path capture, ¬HasToSave executor network job path capture) :
    (executor.perform network files job).2 = files := by
  cases ranged : RangeSet.parse (some job.acceptedCodes) with
  | error error => rw [perform_of_unranged files job ranged]
  | ok accepted =>
    cases captured : (executor.execute network job).outcome with
    | error error => rw [perform_of_failed files job ranged captured]
    | ok capture =>
      rw [perform_of_captured files job ranged captured]
      cases named : job.outputFile with
      | none => exact conclude_of_unnamed accepted files named
      | some path =>
        have failed : ∃ error, capture.Fails error := by
          by_contra readable
          exact idle path capture ⟨⟨accepted, ranged⟩, named, captured, not_exists.mp readable⟩
        obtain ⟨error, fails⟩ := failed
        have unread : Unread job capture error := ⟨Or.inr (Or.inl ⟨path, named⟩), fails⟩
        rw [conclude_of_unread unread]

end

/-- Fetching changes no file. Judging writes the body as it was received to the file of the job, when
the body can be had, and otherwise leaves the files as they are; no other file ever changes. -/
theorem perform_saves_received_body (executor : Executor) (network : Network) (files : Files)
    (job : Job) :
    (executor.call network files (.execute job)).2 = files ∧
      let judged := executor.perform network files job
      (∀ other, FileSystem.read? judged.2 other ≠ FileSystem.read? files other →
        ∃ path, job.outputFile = some path ∧ FileSystem.Same files path other) ∧
      (∀ path capture, HasToSave executor network job path capture →
        ∃ raw, Receives executor network job raw ∧
          Saves files path raw judged.1.outcome judged.1.lines judged.2) ∧
      ((∀ path capture, ¬HasToSave executor network job path capture) → judged.2 = files) := by
  refine ⟨rfl, ?_, fun path capture => perform_saves files, perform_keeps_files files⟩
  intro other changed
  by_cases due : ∃ path capture, HasToSave executor network job path capture
  · obtain ⟨path, capture, due⟩ := due
    obtain ⟨raw, _, saves⟩ := perform_saves files due
    refine ⟨path, due.named, ?_⟩
    by_contra apart
    exact changed (saves.others other apart)
  · have idle : ∀ path capture, ¬HasToSave executor network job path capture := by
      intro path capture saves
      exact due ⟨path, capture, saves⟩
    exact absurd (by rw [perform_keeps_files files idle]) changed

end

attribute [local instance] BodyReader.strict

def pickup : Job where
  url := "http://[::1]/"
  outputFile := some "parcel"

/-- The bytes are saved although they are no text and the status is not accepted. -/
theorem pickup_saved_when_refused :
    let network := Network.scripted [.answer ⟨500, [], .whole [0xFF, 0x00]⟩]
    let files : Folder := ⟨[("letter", [0x61]), ("parcel", [0x62])]⟩
    let judged := Executor.perform ⟨{}, ⟨0, "c"⟩⟩ network files pickup
    (∃ capture, HasToSave ⟨{}, ⟨0, "c"⟩⟩ network pickup "parcel" capture) ∧
      Receives ⟨{}, ⟨0, "c"⟩⟩ network pickup [0xFF, 0x00] ∧
      judged.2.read? "parcel" = some [0xFF, 0x00] ∧ judged.2.read? "letter" = some [0x61] ∧
      judged.1.outcome.toOption = none := by
  intro network files judged
  have ranged : RangeSet.parse (some pickup.acceptedCodes) = .ok ⟨[⟨100, 399, by decide⟩]⟩ :=
    Outcome.eq_ok_of_toOption (by decide +kernel)
  have captured : (Executor.execute ⟨{}, ⟨0, "c"⟩⟩ network pickup).outcome =
      .ok ⟨500, [], .present (.decode [0xFF, 0x00])⟩ :=
    Outcome.eq_ok_of_toOption (by decide +kernel)
  have due : HasToSave ⟨{}, ⟨0, "c"⟩⟩ network pickup "parcel"
      ⟨500, [], .present (.decode [0xFF, 0x00])⟩ := by
    refine ⟨⟨_, ranged⟩, rfl, captured, ?_⟩
    rintro error ⟨pending, deferred, _⟩
    cases deferred
  obtain ⟨raw, received, saves⟩ :=
    (perform_saves_received_body ⟨{}, ⟨0, "c"⟩⟩ network files pickup).2.2.1 _ _ due
  have written : judged.2.read? "parcel" = some [0xFF, 0x00] := by decide +kernel
  have unblamed : ∀ cause, judged.1.outcome ≠ .error (.output "parcel" cause) := by
    intro cause blamed
    cases (saves.blamed cause).mp blamed
  have parcel : judged.2.read? "parcel" = some raw := saves.held unblamed
  have letter : judged.2.read? "letter" = some [0x61] :=
    saves.others "letter" (by change ¬"parcel" = "letter"; decide)
  obtain rfl := Option.some.inj (parcel.symm.trans written)
  exact ⟨⟨_, due⟩, received, written, letter, by decide +kernel⟩

end Courier.Executor
