import Courier.Proofs.Capture.Payload
/-! Reading captures. The first read that looks at a body settles it: from then on the capture has
what was read, or nothing. A failure is told to whoever looks first and to no one after that. -/

namespace Courier.Capture

section

variable [BodyReader]

/-- Whether the body of a capture is still to be read and cannot be. -/
def Fails (capture : Capture) (error : TransportError) : Prop :=
  ∃ pending, capture.body = .deferred pending ∧ pending.read = .error error

theorem load_of_fails {capture : Capture} {error : TransportError} (fails : capture.Fails error) :
    capture.load = (.error error, { capture with body := .absent }) := by
  obtain ⟨pending, deferred, failed⟩ := fails
  simp only [load, deferred, failed]

theorem load_eq_error_iff (capture : Capture) (error : TransportError) :
    capture.load.1 = .error error ↔ capture.Fails error := by
  constructor
  · intro failed
    unfold load at failed
    split at failed
    · cases failed
    · cases failed
    next pending deferred =>
      split at failed
      · cases failed
      next reason unread =>
        cases failed
        exact ⟨pending, deferred, unread⟩
  · intro fails
    rw [load_of_fails fails]

theorem load_of_absent {capture : Capture} (absent : capture.body = .absent) :
    capture.load = (.ok none, capture) := by
  simp only [load, absent]

theorem absent_of_load_none {capture : Capture} (loaded : capture.load.1 = .ok none) :
    capture.body = .absent := by
  unfold load at loaded
  split at loaded
  · cases loaded
  next absent => exact absent
  · split at loaded
    · cases loaded
    · cases loaded

theorem load_status (capture : Capture) : capture.load.2.status = capture.status := by
  unfold load
  split
  · rfl
  · rfl
  · split <;> rfl

theorem load_headers (capture : Capture) : capture.load.2.headers = capture.headers := by
  unfold load
  split
  · rfl
  · rfl
  · split <;> rfl

/-- A body that was read once is the same whenever it is looked at again. -/
theorem load_of_load_ok {capture after : Capture} {payload : Option Payload}
    (loaded : capture.load = (.ok payload, after)) : after.load = (.ok payload, after) := by
  unfold load at loaded
  split at loaded
  next shown present =>
    cases loaded
    simp only [load, present]
  next absent =>
    cases loaded
    exact load_of_absent absent
  next pending _ =>
    split at loaded
    · cases loaded
      rfl
    · cases loaded

theorem load_load_snd (capture : Capture) : capture.load.2.load.2 = capture.load.2 := by
  rcases loaded : capture.load with ⟨error | payload, after⟩
  · have fails := (load_eq_error_iff capture error).mp (congrArg Prod.fst loaded)
    obtain rfl := (Prod.mk.inj (loaded.symm.trans (load_of_fails fails))).2
    rfl
  · exact congrArg Prod.snd (load_of_load_ok loaded)

theorem loadQuietly_snd (capture : Capture) : capture.loadQuietly.2 = capture.load.2 := by
  unfold loadQuietly
  split
  next loaded => rw [loaded]
  next loaded => rw [loaded]

/-! ### One read after another -/

/-- Showing a capture to a developer leaves it as it is; every other read looks at the body. -/
theorem read_snd (capture : Capture) (headers : String) (how : Read) :
    (capture.read headers how).2 = if how = .debug then capture else capture.load.2 := by
  cases how with
  | content => exact loadQuietly_snd capture
  | bytes => exact loadQuietly_snd capture
  | tryContent =>
    rw [if_neg (by decide), read]
    split
    next loaded => rw [loaded]
    next loaded => rw [loaded]
  | tryBytes =>
    rw [if_neg (by decide), read]
    split
    next loaded => rw [loaded]
    next loaded => rw [loaded]
  | display => exact loadQuietly_snd capture
  | debug => rfl

theorem readAll_cons_snd (capture : Capture) (headers : String) (how : Read) (rest : List Read) :
    (capture.readAll headers (how :: rest)).2 =
      ((capture.read headers how).2.readAll headers rest).2 := rfl

/-- Reads leave a capture as it is until one of them looks at the body, and only that one counts. -/
theorem readAll_snd (capture : Capture) (headers : String) (reads : List Read) :
    (capture.readAll headers reads).2 =
      if ∀ how ∈ reads, how = .debug then capture else capture.load.2 := by
  induction reads generalizing capture with
  | nil => simp [readAll]
  | cons how rest ih =>
    rw [readAll_cons_snd, read_snd]
    by_cases shown : how = .debug
    · simp only [shown, ↓reduceIte, ih, List.forall_mem_cons, true_and]
    · simp only [shown, ↓reduceIte, ih, load_load_snd, ite_self, List.forall_mem_cons, false_and]

theorem told_of_fails {capture : Capture} {error : TransportError} (fails : capture.Fails error)
    (headers : String) {earlier : List Read} (shown : ∀ how ∈ earlier, how = .debug) :
    let after := (capture.readAll headers earlier).2
    (after.read headers .tryContent).1 = .failed error ∧
      (after.read headers .tryBytes).1 = .failed error := by
  rw [readAll_snd, if_pos shown]
  simp only [read, load_of_fails fails, and_self]

theorem hidden_of_fails {capture : Capture} {error : TransportError} (fails : capture.Fails error)
    (headers : String) {earlier : List Read} (looked : ∃ how ∈ earlier, how ≠ .debug) :
    let after := (capture.readAll headers earlier).2
    (after.read headers .tryContent).1 = .content none ∧
      (after.read headers .tryBytes).1 = .bytes none := by
  obtain ⟨how, member, looks⟩ := looked
  rw [readAll_snd, if_neg fun shown => looks (shown how member), load_of_fails fails]
  exact ⟨rfl, rfl⟩

/-- A body that cannot be read, for a fault, for its size or because it does not come in time, is
reported by the readers that can report it exactly as long as nothing but showing the capture to a
developer came before. After any other read they, too, give an absent body. -/
theorem failure_told_once {capture : Capture} {pending : PendingBody} {interruption : Interruption}
    (deferred : capture.body = .deferred pending)
    (interrupted : BodyReader.read pending.delivery pending.limit = .error interruption)
    (headers : String) (earlier : List Read) :
    let after := (capture.readAll headers earlier).2
    let error := TransportError.ofInterruption pending.url pending.timeout interruption
    ((∀ how ∈ earlier, how = .debug) →
      (after.read headers .tryContent).1 = .failed error ∧
        (after.read headers .tryBytes).1 = .failed error) ∧
    ((∃ how ∈ earlier, how ≠ .debug) →
      (after.read headers .tryContent).1 = .content none ∧
        (after.read headers .tryBytes).1 = .bytes none) := by
  have fails : capture.Fails (.ofInterruption pending.url pending.timeout interruption) :=
    ⟨pending, deferred, (pending.read_eq_error_iff _).mpr ⟨interruption, interrupted, rfl⟩⟩
  exact ⟨told_of_fails fails headers, hidden_of_fails fails headers⟩

end

attribute [local instance] BodyReader.strict

def halted : Capture where
  status := 200
  headers := []
  body := .deferred ⟨.stalled [0x68, 0x65], "http://hall.example/", 60000, 10⟩

theorem halted_told_once :
    ((halted.readAll "" [.debug]).2.read "" .tryContent).1 =
        .failed (.timeout "http://hall.example/" 60000) ∧
      ((halted.readAll "" [.debug, .content]).2.read "" .tryContent).1 = .content none := by
  have deferred : halted.body =
      .deferred ⟨.stalled [0x68, 0x65], "http://hall.example/", 60000, 10⟩ := rfl
  have told := failure_told_once deferred rfl ""
  exact ⟨((told [.debug]).1 (by decide)).1, ((told [.debug, .content]).2 ⟨.content, by decide⟩).1⟩

def severed : Capture where
  status := 200
  headers := []
  body := .deferred ⟨.broken [0x68, 0x65], "http://hall.example/", 60000, 10⟩

/-- The body cannot be read, and yet the reader that could report it gives an absent one. -/
theorem severed_passes_for_absent :
    severed.Fails (.request "http://hall.example/" .disconnected) ∧
      (severed.readAll "" [.content, .tryContent]).1 = [.content none, .content none] ∧
      (severed.readAll "" [.content, .tryBytes]).1 = [.content none, .bytes none] :=
  ⟨⟨_, rfl, rfl⟩, rfl, rfl⟩

end Courier.Capture
