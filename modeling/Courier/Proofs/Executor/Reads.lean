import Courier.Proofs.Capture.Once
import Courier.Proofs.Executor.Deferral
/-! Reads of what jobs capture. Whatever is asked of a capture and in whatever order, its body is read
at most once and every read gives the same body; a body that cannot be read is blamed on what the job
would have been blamed for if it had read the body at once. -/

namespace Courier.Executor

open Capture (Origin ReadsOnce)

section

variable [BodyReader]

/-- A capture of a job is that of a response, and the job that reads the body at once fails as the
body does. -/
theorem exists_response_of_execute {executor : Executor} {network : Network} {job : Job}
    {eager : Bool} {capture : Capture}
    (captured : (executor.execute network (withCapture job eager)).outcome = .ok capture) :
    ∃ status headers pending, (Origin.response pending eager).capture status headers = .ok capture ∧
      ∀ error, (Origin.response pending true).capture status headers = .error error ↔
        (executor.execute network (withCapture job true)).outcome = .error (.transport error) := by
  obtain ⟨plan, response, session, planned, sent, made⟩ := exists_response_of_captured captured
  refine ⟨response.status, response.headers, onItsWay job plan.request response, made, ?_⟩
  intro error
  rw [execute_of_answered (withCapture job true) planned sent]
  change Executor.capture (withCapture job true) plan.request response = _ ↔ _
  cases Executor.capture (withCapture job true) plan.request response <;> simp [Except.mapError]

/-- The body of a capture is read at most once, all its reads agree, and the captures of jobs are
such captures. -/
theorem body_read_once :
    (∀ (origin : Origin) (status : Nat) (headers : List Header) (capture : Capture),
      origin.capture status headers = .ok capture → ∀ (shown : String) (reads : List Capture.Read),
        (capture.takings shown reads ≤ 1 ∧
          (capture.takings shown reads = 1 ↔
            origin.IsDeferred ∧ ∃ how ∈ reads, how ≠ .debug)) ∧
        ∀ earlier how later, reads = earlier ++ how :: later → ∃ before answer after,
          before = (capture.readAll shown earlier).2 ∧
            (capture.readAll shown reads).1[earlier.length]? = some answer ∧
            before.read shown how = (answer, after) ∧
            ReadsOnce origin status headers capture shown earlier how before answer after) ∧
    ∀ (executor : Executor) (network : Network) (job : Job) (eager : Bool) (capture : Capture),
      (executor.execute network (withCapture job eager)).outcome = .ok capture →
        ∃ status headers pending,
          (Origin.response pending eager).capture status headers = .ok capture ∧
            ∀ error, (Origin.response pending true).capture status headers = .error error ↔
              (executor.execute network (withCapture job true)).outcome =
                .error (.transport error) := by
  constructor
  · intro origin status headers capture made shown reads
    have deferred := (Capture.startsWith_of_made made).1.isDeferred_iff
    constructor
    · rw [Capture.takings_eq, ← deferred]
      split
      next taken => simp [taken]
      next untaken => simp [untaken]
    · rintro earlier how later rfl
      exact ⟨_, _, _, rfl, Capture.getElem?_readAll capture shown earlier how later, rfl,
        Capture.readsOnce_of_made made shown earlier how⟩
  · intro executor network job eager capture captured
    exact exists_response_of_execute captured

end

attribute [local instance] BodyReader.strict

def parcel : Origin := .response ⟨.whole [0x68, 0xFF], "http://[::1]/", 60000, 10⟩ false

def glance : Job where
  url := "http://[::1]/"

/-- Only the second of the reads takes the body from the wire, and the third gives the same; a body that
comes to a halt is blamed on the time. -/
theorem parcel_read_once :
    (∃ capture, parcel.capture 200 [] = .ok capture ∧
      capture.takings "[]" [.debug, .bytes, .tryContent] = 1 ∧
      (capture.readAll "[]" [.debug, .bytes, .tryContent]).1[2]? =
        some (.content (some (Utf8.lossyText [0x68, 0xFF])))) ∧
    let network := Network.scripted [.answer ⟨200, [], .stalled [0x68]⟩]
    ∃ capture, (Executor.execute ⟨{}, ⟨0, "c"⟩⟩ network (withCapture glance false)).outcome =
        .ok capture ∧
      ∃ status headers pending,
        (Origin.response pending false).capture status headers = .ok capture ∧
          (Origin.response pending true).capture status headers =
            .error (.timeout "http://[::1]/" 60000) := by
  constructor
  · obtain ⟨takings, each⟩ := body_read_once.1 parcel 200 [] _ rfl "[]" [.debug, .bytes, .tryContent]
    refine ⟨_, rfl, takings.2.mpr ⟨⟨_, rfl⟩, .bytes, by simp, by simp⟩, ?_⟩
    obtain ⟨before, answer, after, _, given, _, reads⟩ := each [.debug, .bytes] .tryContent [] rfl
    have holds : parcel.Holds [0x68, 0xFF] := ⟨rfl, _, rfl⟩
    rw [reads.text _ holds (Or.inr rfl)] at given
    exact given
  · intro network
    have captured : (Executor.execute ⟨{}, ⟨0, "c"⟩⟩ network (withCapture glance false)).outcome =
        .ok ⟨200, [], .deferred ⟨.stalled [0x68], "http://[::1]/", 60000, 268435456⟩⟩ :=
      Outcome.eq_ok_of_toOption (by decide +kernel)
    have failed : (Executor.execute ⟨{}, ⟨0, "c"⟩⟩ network (withCapture glance true)).outcome =
        .error (.transport (.timeout "http://[::1]/" 60000)) := by decide +kernel
    obtain ⟨status, headers, pending, made, blamed⟩ := body_read_once.2 _ _ _ _ _ captured
    exact ⟨_, captured, status, headers, pending, made, (blamed _).mpr failed⟩

end Courier.Executor
