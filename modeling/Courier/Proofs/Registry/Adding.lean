import Courier.Proofs.Registry.Table
import Mathlib.Data.List.Induction
/-! Tables given as a whole. A table is accepted exactly when its entries are, one after another, and
it is then the table that they make. Otherwise it is refused with the error of the first entry that
is refused: the leftmost whose key is blank or that of an entry before it. -/

namespace Courier.Registry

/-- What is wrong with a table: the entries before its leftmost bad one are a table with nothing wrong,
and that one has a blank key or repeats the key of one of them. -/
inductive FirstClash (entries : List Authentication) : ConfigurationError → Prop where
  | unnamed {before after : List Authentication} {entry : Authentication}
      (split : entries = before ++ entry :: after) (fine : Keyed before)
      (blank : isBlankText entry.key = true) : FirstClash entries .emptyKey
  | taken {before after : List Authentication} {entry : Authentication}
      (split : entries = before ++ entry :: after) (fine : Keyed before)
      (named : isBlankText entry.key = false) (known : ∃ earlier ∈ before, earlier.key = entry.key) :
      FirstClash entries (.duplicateKey entry.key)

/-! ### All at once -/

theorem FirstClash.append {entries : List Authentication} {error : ConfigurationError}
    (clash : FirstClash entries error) (more : List Authentication) :
    FirstClash (entries ++ more) error := by
  cases clash with
  | unnamed split fine blank =>
    rw [split, List.append_assoc, List.cons_append]
    exact .unnamed rfl fine blank
  | taken split fine named known =>
    rw [split, List.append_assoc, List.cons_append]
    exact .taken rfl fine named known

/-- The induction goes from the left to the right, as entries are added: the last entry is to blame
only if those before it are a table. -/
theorem exists_firstClash {entries : List Authentication} (clash : ¬Keyed entries) :
    ∃ error, FirstClash entries error := by
  induction entries using List.reverseRecOn with
  | nil => exact absurd keyed_nil clash
  | append_singleton before entry ih =>
    by_cases fine : Keyed before
    · cases blank : isBlankText entry.key with
      | true => exact ⟨.emptyKey, .unnamed rfl fine blank⟩
      | false =>
        by_cases known : ∃ earlier ∈ before, earlier.key = entry.key
        · exact ⟨.duplicateKey entry.key, .taken rfl fine blank known⟩
        · have new : ∀ other ∈ before, other.key ≠ entry.key := by simpa using known
          exact absurd ((Does.added blank new).keyed fine) clash
    · obtain ⟨error, earlier⟩ := ih fine
      exact ⟨error, earlier.append [entry]⟩

theorem keyError?_of_firstClash {entries : List Authentication} {error : ConfigurationError}
    (clash : FirstClash entries error) : keyError? entries = some error := by
  cases clash with
  | unnamed split fine blank =>
    rw [split, keyError?, keyErrorAfter?_append ((keyError?_eq_none_iff _).mpr fine), keyErrorAfter?,
      if_pos blank]
  | @taken before after entry split fine named known =>
    have seen : ((before.map Authentication.key).reverse ++ []).contains entry.key = true := by
      simpa using known
    rw [split, keyError?, keyErrorAfter?_append ((keyError?_eq_none_iff _).mpr fine), keyErrorAfter?,
      if_neg (by simp [named]), if_pos seen]

theorem ofEntries_eq_error_iff (entries : List Authentication) (error : ConfigurationError) :
    ofEntries entries = .error error ↔ FirstClash entries error := by
  constructor
  · intro refused
    have clash : ¬Keyed entries := by
      intro keyed
      rw [ofEntries_of_keyed keyed] at refused
      cases refused
    obtain ⟨other, first⟩ := exists_firstClash clash
    rw [ofEntries, keyError?_of_firstClash first] at refused
    rwa [← Except.error.inj refused]
  · intro first
    rw [ofEntries, keyError?_of_firstClash first]

theorem exists_ofEntries_iff (entries : List Authentication) :
    (∃ registry, ofEntries entries = .ok registry) ↔ Keyed entries := by
  constructor
  · rintro ⟨registry, given⟩
    by_contra clash
    obtain ⟨error, first⟩ := exists_firstClash clash
    rw [(ofEntries_eq_error_iff entries error).mpr first] at given
    cases given
  · exact fun keyed => ⟨_, ofEntries_of_keyed keyed⟩

/-! ### One after another -/

namespace Live

def replies (live : Live) : List Change → List Reply
  | [] => []
  | change :: rest => (live.change change).1 :: (live.change change).2.replies rest

theorem replies_append (live : Live) (earlier later : List Change) :
    live.replies (earlier ++ later) =
      live.replies earlier ++ (live.after earlier).replies later := by
  induction earlier generalizing live with
  | nil => rfl
  | cons change rest ih => exact congrArg ((live.change change).1 :: ·) (ih (live.change change).2)

theorem adds_of_keyed (live : Live) {entries : List Authentication}
    (keyed : Keyed (live.current.entries ++ entries)) :
    (∀ reply ∈ live.replies (entries.map .add), reply = .accepted) ∧
      (live.after (entries.map .add)).current.entries = live.current.entries ++ entries := by
  induction entries generalizing live with
  | nil => exact ⟨by simp [replies], (List.append_nil _).symm⟩
  | cons entry rest ih =>
    have here : Keyed live.current.entries := keyed.sublist (List.sublist_append_left _ _)
    have named : isBlankText entry.key = false := keyed.named entry (by simp)
    have new : ∀ other ∈ live.current.entries, other.key ≠ entry.key :=
      fun other member => keyed.others other (List.mem_append_left rest member)
    obtain ⟨told, grown⟩ := change_of_does here (.added named new)
    rw [List.append_cons, ← grown] at keyed
    obtain ⟨later, made⟩ := ih _ keyed
    refine ⟨List.forall_mem_cons.mpr ⟨told, later⟩, ?_⟩
    rw [List.append_cons, ← grown]
    exact made

/-- The first of entries to be refused is the one that clashes with those before it. -/
theorem refused_of_firstClash {entries : List Authentication} {error : ConfigurationError}
    (clash : FirstClash entries error) :
    (replies { current := {} } (entries.map .add)).find? (· ≠ .accepted) =
      some (.refused error) := by
  have stops {before after : List Authentication} {entry : Authentication}
      (split : entries = before ++ entry :: after) (fine : Keyed before)
      (does : Does before (.add entry) (.refused error) before) :
      (replies { current := {} } (entries.map .add)).find? (· ≠ .accepted) =
        some (.refused error) := by
    obtain ⟨accepted, made⟩ := adds_of_keyed { current := {} } fine
    rw [List.nil_append] at made
    obtain ⟨told, _⟩ := change_of_does (made ▸ fine) (made ▸ does)
    have passed : (replies { current := {} } (before.map .add)).find? (· ≠ .accepted) = none := by
      simpa using accepted
    rw [split, List.map_append, replies_append, List.find?_append, passed, Option.none_or,
      List.map_cons, replies, told]
    rfl
  cases clash with
  | unnamed split fine blank => exact stops split fine (.unnamed blank)
  | taken split fine named known => exact stops split fine (.taken named known)

theorem accepted_iff (entries : List Authentication) :
    (∀ reply ∈ replies { current := {} } (entries.map .add), reply = .accepted) ↔ Keyed entries := by
  constructor
  · intro accepted
    by_contra clash
    obtain ⟨error, first⟩ := exists_firstClash clash
    have passed : (replies { current := {} } (entries.map .add)).find? (· ≠ .accepted) = none := by
      simpa using accepted
    rw [refused_of_firstClash first] at passed
    cases passed
  · exact fun keyed => (adds_of_keyed { current := {} } keyed).1

theorem refused_iff (entries : List Authentication) (error : ConfigurationError) :
    (replies { current := {} } (entries.map .add)).find? (· ≠ .accepted) = some (.refused error) ↔
      FirstClash entries error := by
  refine ⟨fun stopped => ?_, refused_of_firstClash⟩
  by_cases keyed : Keyed entries
  · have passed : (replies { current := {} } (entries.map .add)).find? (· ≠ .accepted) = none := by
      simpa using (accepted_iff entries).mpr keyed
    rw [passed] at stopped
    cases stopped
  · obtain ⟨other, first⟩ := exists_firstClash keyed
    rw [refused_of_firstClash first] at stopped
    obtain rfl := Reply.refused.inj (Option.some.inj stopped)
    exact first

theorem replaceAll_refused_iff (live : Live) (entries : List Authentication)
    (error : ConfigurationError) :
    (live.change (.replaceAll entries)).1 = .refused error ↔ ofEntries entries = .error error := by
  rw [change, apply]
  cases ofEntries entries <;> simp [accepting]

end Live

/-- A table given as a whole is accepted exactly when all its entries are, added to a new registry one
after another, and is then the table that they make. Otherwise it is refused, also in place of any
other table, as the first of the entries is that is refused: the leftmost one whose key is blank or
repeats an earlier key. -/
theorem ofEntries_adds_one_by_one (entries : List Authentication) :
    let told := Live.replies { current := {} } (entries.map .add)
    let made := (Live.after { current := {} } (entries.map .add)).current
    ((∃ registry, ofEntries entries = .ok registry) ↔ ∀ reply ∈ told, reply = .accepted) ∧
    (∀ registry, ofEntries entries = .ok registry → registry = made) ∧
    ∀ error, (ofEntries entries = .error error ↔ FirstClash entries error) ∧
      (ofEntries entries = .error error ↔ told.find? (· ≠ .accepted) = some (.refused error)) ∧
      ∀ live : Live, (live.change (.replaceAll entries)).1 = .refused error ↔
        ofEntries entries = .error error := by
  intro told made
  refine ⟨(exists_ofEntries_iff entries).trans (Live.accepted_iff entries).symm, ?_, fun error =>
    ⟨ofEntries_eq_error_iff entries error,
      (ofEntries_eq_error_iff entries error).trans (Live.refused_iff entries error).symm,
      fun live => live.replaceAll_refused_iff entries error⟩⟩
  intro registry given
  have keyed := (exists_ofEntries_iff entries).mp ⟨registry, given⟩
  rw [ofEntries_of_keyed keyed] at given
  obtain rfl := Except.ok.inj given
  exact congrArg Registry.mk (Live.adds_of_keyed { current := {} } keyed).2.symm

example : ofEntries [.form "desk" [], .form "\t" [], .password "desk" "bob" "shut", .form "hall" []] =
    .error .emptyKey := by decide

end Courier.Registry
