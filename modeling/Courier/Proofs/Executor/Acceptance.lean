import Courier.Proofs.Executor.Hindrance
import Courier.Proofs.Executor.Verdict
import Courier.Proofs.Status.Printing
/-! The accepted codes of a job. They matter to a run only as the ranges that they are read as, and a
job that fails by its status tells these ranges in a text that can be given in their place. -/

namespace Courier.Executor

section

variable [BodyReader] {Files : Type} [FileSystem Files]
  {executor : Executor} {network : Network} {files : Files} {job : Job}

theorem perform_of_same_ranges (executor : Executor) (network : Network) (files : Files)
    {codes : String} (same : RangeSet.parse (some codes) = RangeSet.parse (some job.acceptedCodes)) :
    executor.perform network files { job with acceptedCodes := codes } =
      executor.perform network files job := by
  unfold perform
  simp only [same]
  rfl

/-- The ranges that a status is found outside of are those of the job: no error of the run before it
speaks of a response. -/
theorem ranged_of_refused {status : Nat} {accepted : RangeSet} {response : Capture}
    (refused : (executor.perform network files job).1.outcome =
      .error (.validation (.status status accepted) response)) :
    RangeSet.parse (some job.acceptedCodes) = .ok accepted := by
  cases ranged : RangeSet.parse (some job.acceptedCodes) with
  | error error =>
    rw [perform_of_unranged files job ranged] at refused
    cases refused
  | ok set =>
    cases outcome : (executor.execute network job).outcome with
    | error error =>
      have silent := response?_of_execute outcome
      rw [perform_of_failed files job ranged outcome, outcome] at refused
      rw [Except.error.inj refused] at silent
      cases silent
    | ok capture =>
      have verdict := verdict_of_conclude job set files (body_of_execute outcome)
      rw [perform_of_captured files job ranged outcome] at refused
      dsimp only at refused
      rw [refused] at verdict
      cases verdict with
      | refused read saved outside => rfl

/-- Ranges that were read are written so that they are read again as they are, and so is every list of
ranges of statuses; the ranges that a failed job tells can be given in place of its own, and then
everything goes as with its own. -/
theorem accepted_ranges_read_back :
    (∀ text set, RangeSet.ofText text = .ok set →
      RangeSet.ofText set.text = .ok set ∧
        (RangeSet.ofText set.text).map RangeSet.text = .ok set.text) ∧
    (∀ text set, RangeSet.parse text = .ok set →
      RangeSet.ofText set.text = .ok set ∧ RangeSet.parse (some set.text) = .ok set) ∧
    (∀ ranges : List StatusRange, ranges ≠ [] → (∀ range ∈ ranges, range.high ≤ 599) →
      RangeSet.ofText (RangeSet.mk ranges).text = .ok ⟨ranges⟩) ∧
    ∀ (executor : Executor) network (files : Files) job status accepted response,
      (executor.perform network files job).1.outcome =
          .error (.validation (.status status accepted) response) →
        (ValidationError.status status accepted).message =
            "Fail: the returned code " ++ toString status ++
              " is not in the accepted range: " ++ accepted.text ∧
          RangeSet.parse (some job.acceptedCodes) = .ok accepted ∧
          RangeSet.parse (some accepted.text) = .ok accepted ∧
          ∀ (other : Executor) network (files : Files),
            other.perform network files { job with acceptedCodes := accepted.text } =
              other.perform network files job := by
  refine ⟨?_, ?_, ?_, ?_⟩
  · intro text set taken
    have again := RangeSet.ofText_text (RangeSet.isGiven_of_ofText taken)
    exact ⟨again, by rw [again]; rfl⟩
  · intro text set taken
    have given := RangeSet.isGiven_of_parse taken
    exact ⟨RangeSet.ofText_text given, RangeSet.parse_text given⟩
  · intro ranges nonempty bounded
    exact RangeSet.ofText_text ⟨nonempty, bounded⟩
  · intro executor network files job status accepted response refused
    have ranged := ranged_of_refused refused
    have again := RangeSet.parse_text (RangeSet.isGiven_of_parse ranged)
    refine ⟨rfl, ranged, again, ?_⟩
    intro other network files
    exact perform_of_same_ranges other network files (again.trans ranged.symm)

end

attribute [local instance] BodyReader.strict

def strict : Job where
  url := "http://[::1]/"
  acceptedCodes := " 0204 ,300 : 300, 250:299"

theorem strict_ranges_read_back :
    let network := Network.scripted [.answer ⟨200, [], .whole []⟩]
    let accepted : RangeSet := ⟨[.single 204, .single 300, ⟨250, 299, by decide⟩]⟩
    (∃ response, (Executor.perform ⟨{}, ⟨0, "c"⟩⟩ network ({} : Folder) strict).1.outcome =
        .error (.validation (.status 200 accepted) response)) ∧
      RangeSet.ofText strict.acceptedCodes = .ok accepted ∧
      RangeSet.ofText "204,300,250:299" = .ok accepted ∧
      RangeSet.ofText "100:399" = .ok RangeSet.default ∧
      RangeSet.ofText "0:599,7" = .ok ⟨[⟨0, 599, by decide⟩, .single 7]⟩ ∧
      Executor.perform ⟨{}, ⟨0, "c"⟩⟩ network ({} : Folder)
          { strict with acceptedCodes := "204,300,250:299" } =
        Executor.perform ⟨{}, ⟨0, "c"⟩⟩ network {} strict := by
  intro network accepted
  have refused : (Executor.perform ⟨{}, ⟨0, "c"⟩⟩ network ({} : Folder) strict).1.outcome =
      .error (.validation (.status 200 accepted) ⟨200, [], .present (.text "")⟩) := by
    decide +kernel
  have taken : RangeSet.ofText strict.acceptedCodes = .ok accepted := by decide +kernel
  obtain ⟨back, parsed, listed, pasted⟩ := @accepted_ranges_read_back _ Folder _
  obtain ⟨_, _, _, alike⟩ := pasted _ _ _ _ _ _ _ refused
  have several := listed [⟨0, 599, by decide⟩, .single 7] (by decide) (by decide)
  exact ⟨⟨_, refused⟩, taken, (back _ _ taken).1, (parsed none _ rfl).1, several, alike _ _ _⟩

end Courier.Executor
