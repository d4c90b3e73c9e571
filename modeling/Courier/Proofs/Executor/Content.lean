import Courier.Proofs.Executor.Saving
import Courier.Proofs.Text.Search
/-! Required texts as bytes. A body is searched as it is shown, with replacement characters for what is
no text; yet a text without such characters is found exactly when its bytes stand in the body as it
was received. -/

namespace Courier

open Capture (Origin Read)

theorem Utf8.standsIn_lossyText_iff {sought : String} (nonempty : sought ≠ "")
    (plain : replacement ∉ sought.toList) (raw : List UInt8) :
    StandsIn sought (lossyText raw) ↔ bytes sought <:+: raw := by
  have given : sought.toList ≠ [] := by simpa using nonempty
  rw [standsIn_iff, occursIn_iff, lossyText, String.toList_ofList]
  exact infix_decodeLossy_iff given plain raw

/-- How a search for a required text in received bytes ends: it succeeds exactly when the bytes of the
text stand among them, and else tells how many characters the bytes are shown as. -/
structure Validation.Searches (sought : String) (raw : List UInt8)
    (outcome : Except ValidationError Unit) : Prop where
  found : outcome = .ok () ↔ Utf8.bytes sought <:+: raw
  missed : ∀ error, outcome = .error error ↔
    ¬Utf8.bytes sought <:+: raw ∧ error = .content (Utf8.decodeLossy raw).length sought

theorem Validation.searches_checkContent {sought : String} (nonempty : sought ≠ "")
    (plain : Utf8.replacement ∉ sought.toList) (raw : List UInt8) :
    Searches sought raw (checkContent (some sought) (Utf8.lossyText raw)) := by
  have stands := Utf8.standsIn_lossyText_iff nonempty plain raw
  by_cases occurs : Utf8.bytes sought <:+: raw
  · have full : ∀ text, ¬Lacks (some sought) (Utf8.lossyText raw) text := by
      rintro text ⟨same, _, missing⟩
      obtain rfl := Option.some.inj same
      exact missing (stands.mpr occurs)
    rw [checkContent_of_full full]
    exact ⟨by simp [occurs], by simp [occurs]⟩
  · have lacks : Lacks (some sought) (Utf8.lossyText raw) sought :=
      ⟨rfl, nonempty, mt stands.mp occurs⟩
    rw [checkContent_of_lacking lacks, Utf8.lossyText, String.length_ofList]
    exact ⟨by simp [occurs], by simp [occurs, eq_comm]⟩

namespace Executor

section

variable [BodyReader] {Files : Type} [FileSystem Files]

/-- Whether nothing but the text that it requires is left to judge a job by: its body can be had and,
where it has to be, saved, and its status is accepted. -/
structure LeavesContent (executor : Executor) (network : Network) (files : Files) (job : Job)
    (capture : Capture) : Prop where
  captured : (executor.execute network job).outcome = .ok capture
  readable : ∀ error, ¬capture.Fails error
  saved : ∀ path cause, ¬Unsaved job files capture path cause
  accepted : ∃ ranges, RangeSet.parse (some job.acceptedCodes) = .ok ranges ∧
    ¬ranges.Excludes capture.status

theorem searches_perform {executor : Executor} {network : Network} {files : Files} {job : Job}
    {capture : Capture} {sought : String} {raw : List UInt8} (nonempty : sought ≠ "")
    (plain : Utf8.replacement ∉ sought.toList) (required : job.requiredContent = some sought)
    (left : LeavesContent executor network files job capture)
    (received : Receives executor network job raw) :
    let outcome := (executor.perform network files job).1.outcome
    (Utf8.bytes sought <:+: raw → outcome = .ok (settled job capture)) ∧
      (¬Utf8.bytes sought <:+: raw → outcome = .error (.validation
        (.content (Utf8.decodeLossy raw).length sought) (settled job capture))) := by
  obtain ⟨ranges, ranged, inside⟩ := left.accepted
  obtain ⟨other, payload, delivered, loaded, _, content⟩ :=
    exists_received left.captured left.readable
  obtain rfl := delivered.unique received
  have stands := Utf8.standsIn_lossyText_iff nonempty plain other
  have verdict := verdict_of_conclude job ranges files (body_of_execute left.captured)
  have read : ∀ error, ¬Unread job capture error := by
    intro error unread
    exact left.readable error unread.2
  rw [perform_of_captured files job ranged left.captured]
  dsimp only
  constructor
  · intro occurs
    apply verdict.unique
    apply Verdict.passed read left.saved inside
    intro shown text lacks
    obtain ⟨⟨known, again, rfl⟩, asked, _, missing⟩ := lacks
    obtain rfl := Option.some.inj (asked.symm.trans required)
    obtain rfl := Option.some.inj (Except.ok.inj (again.symm.trans loaded))
    exact missing (content ▸ stands.mpr occurs)
  · intro missing
    have lacks : Incomplete job capture (Utf8.lossyText other) sought :=
      ⟨⟨payload, loaded, content⟩, required, nonempty, mt stands.mp missing⟩
    have told := verdict.unique (.incomplete read left.saved inside lacks)
    rwa [Utf8.lossyText, String.length_ofList] at told

/-- A required text is sought in the bytes of a body, whatever they are and however the body was read:
the capture passes exactly when the bytes of the text stand among them, and so does the job. -/
theorem required_text_is_sought_in_bytes (sought : String) (nonempty : sought ≠ "")
    (plain : Utf8.replacement ∉ sought.toList) :
    (∀ (origin : Origin) (status : Nat) (headers : List Header) (capture : Capture)
      (raw : List UInt8), origin.capture status headers = .ok capture → origin.Holds raw →
        ∀ (shown : String) (earlier : List Read),
          let payload := (capture.readAll shown earlier).2.loadQuietly.1
          Validation.Searches sought raw
            (Validation.checkContent (some sought) (payload.elim "" Payload.content))) ∧
    ∀ (executor : Executor) (network : Network) (files : Files) (job : Job) (capture : Capture)
      (raw : List UInt8), job.requiredContent = some sought →
        LeavesContent executor network files job capture → Receives executor network job raw →
          let outcome := (executor.perform network files job).1.outcome
          (Utf8.bytes sought <:+: raw → outcome = .ok (settled job capture)) ∧
          (¬Utf8.bytes sought <:+: raw → outcome = .error (.validation
            (.content (Utf8.decodeLossy raw).length sought) (settled job capture))) := by
  constructor
  · intro origin status headers capture raw made holds shown earlier payload
    obtain ⟨known, loaded, _, content⟩ := (Capture.startsWith_of_made made).1.load holds
    have later := Capture.load_readAll loaded shown earlier
    have same : payload = some known := by
      rcases read : (capture.readAll shown earlier).2.load with ⟨result, after⟩
      rw [read] at later
      dsimp only at later
      simp only [payload, Capture.loadQuietly, read, later]
    rw [same, Option.elim_some, content]
    exact Validation.searches_checkContent nonempty plain raw
  · intro executor network files job capture raw required left received
    exact searches_perform nonempty plain required left received

end

attribute [local instance] BodyReader.strict

def rollCall : Job where
  url := "http://[::1]/"
  requiredContent := some "ann"

/-- The word is found behind a character that is cut short, and missed when a byte splits it. -/
theorem rollCall_finds_the_word :
    let network := Network.scripted [.answer ⟨200, [], .whole [0xE4, 0xBD, 0x61, 0x6E, 0x6E]⟩]
    (∃ capture, (Executor.perform ⟨{}, ⟨0, "c"⟩⟩ network ({} : Folder) rollCall).1.outcome = .ok capture) ∧
      Validation.checkContent (some "ann") (Utf8.lossyText [0x61, 0x6E, 0xE4, 0x6E]) =
        .error (.content 4 "ann") := by
  intro network
  obtain ⟨any_origin, any_job⟩ := @required_text_is_sought_in_bytes _ Folder _ "ann" (by decide) (by decide)
  constructor
  · let capture : Capture := ⟨200, [], .present (.decode [0xE4, 0xBD, 0x61, 0x6E, 0x6E])⟩
    have captured : (Executor.execute ⟨{}, ⟨0, "c"⟩⟩ network rollCall).outcome = .ok capture :=
      Outcome.eq_ok_of_toOption (by decide +kernel)
    have left : LeavesContent ⟨{}, ⟨0, "c"⟩⟩ network ({} : Folder) rollCall capture := {
      captured := captured
      readable := by
        intro error fails
        obtain ⟨pending, deferred, _⟩ := fails
        cases deferred
      saved := by
        intro path cause unsaved
        cases unsaved.1
      accepted := ⟨⟨[⟨100, 399, by decide⟩]⟩, Outcome.eq_ok_of_toOption (by decide +kernel),
        by simp [RangeSet.Excludes, capture]⟩ }
    have received : Receives ⟨{}, ⟨0, "c"⟩⟩ network rollCall [0xE4, 0xBD, 0x61, 0x6E, 0x6E] := by
      obtain ⟨raw, payload, received, loaded, rfl, _⟩ := exists_received captured left.readable
      have known : capture.load.1 = .ok (some (.decode [0xE4, 0xBD, 0x61, 0x6E, 0x6E])) := rfl
      obtain rfl := Option.some.inj (Except.ok.inj (loaded.symm.trans known))
      exact received
    obtain ⟨found, _⟩ := any_job _ _ _ _ _ _ rfl left received
    have stands : Utf8.bytes "ann" <:+: [0xE4, 0xBD, 0x61, 0x6E, 0x6E] := by decide
    exact ⟨settled rollCall capture, found stands⟩
  · let pending : PendingBody := ⟨.whole [0x61, 0x6E, 0xE4, 0x6E], "http://[::1]/", 60000, 5⟩
    have holds : (Origin.response pending false).Holds [0x61, 0x6E, 0xE4, 0x6E] := ⟨rfl, _, rfl⟩
    have searches := any_origin (.response pending false) 200 [] _ _ rfl holds "[]" []
    exact (searches.missed _).mpr ⟨by decide, by decide +kernel⟩

end Executor
end Courier
