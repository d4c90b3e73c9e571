import Courier.Proofs.Outcome
import Courier.Proofs.Registry.Keys
import Courier.Registry.Live
/-! Registries as tables. Whatever changes a registry has seen, it is a list of entries with distinct
keys, in the order in which they came: a change does to it what it would do to such a list, or is
refused and does nothing. Snapshots are not touched by later changes. -/

namespace Courier.Registry

/-! ### Changes -/

/-- What a change does to a table of entries, and what whoever asks for it is told. -/
inductive Does (entries : List Authentication) :
    Change → Reply → List Authentication → Prop where
  | added {entry : Authentication} (named : isBlankText entry.key = false)
      (new : ∀ other ∈ entries, other.key ≠ entry.key) :
      Does entries (.add entry) .accepted (entries ++ [entry])
  | unnamed {entry : Authentication} (blank : isBlankText entry.key = true) :
      Does entries (.add entry) (.refused .emptyKey) entries
  | taken {entry : Authentication} (named : isBlankText entry.key = false)
      (known : ∃ other ∈ entries, other.key = entry.key) :
      Does entries (.add entry) (.refused (.duplicateKey entry.key)) entries
  | removed {before after : List Authentication} {entry : Authentication}
      (split : entries = before ++ entry :: after) :
      Does entries (.remove entry.key) (.removed (some entry)) (before ++ after)
  | missing {key : String} (absent : ∀ entry ∈ entries, entry.key ≠ key) :
      Does entries (.remove key) (.removed none) entries
  | replaced {table : List Authentication} (keyed : Keyed table) :
      Does entries (.replaceAll table) .accepted table
  | kept {table : List Authentication} {error : ConfigurationError} (clash : ¬Keyed table)
      (blamed : keyError? table = some error) :
      Does entries (.replaceAll table) (.refused error) entries

theorem Does.keyed {entries after : List Authentication} {change : Change} {reply : Reply}
    (does : Does entries change reply after) (keyed : Keyed entries) : Keyed after := by
  cases does with
  | @added entry named new =>
    refine ⟨?_, ?_⟩
    · intro other member
      rcases List.mem_append.mp member with old | last
      · exact keyed.named other old
      · rw [List.mem_singleton.mp last, named]
    · rw [List.map_append, List.map_singleton, ← List.concat_eq_append, List.nodup_concat]
      refine ⟨fun member => ?_, keyed.distinct⟩
      obtain ⟨other, old, same⟩ := List.mem_map.mp member
      exact new other old same
  | unnamed => exact keyed
  | taken => exact keyed
  | @removed before after entry split =>
    subst split
    exact keyed.sublist ((List.sublist_cons_self entry after).append_left before)
  | missing => exact keyed
  | replaced table_keyed => exact table_keyed
  | kept => exact keyed

theorem change_of_does {live : Live} (keyed : Keyed live.current.entries) {change : Change}
    {reply : Reply} {after : List Authentication}
    (does : Does live.current.entries change reply after) :
    (live.change change).1 = reply ∧ (live.change change).2.current.entries = after := by
  cases does with
  | @added entry named new =>
    have fresh := (not_mem_keys_iff live.current entry.key).mpr new
    simp only [Live.change, apply, add_of_keyed keyed, named, fresh, accepting, Live.publish,
      Bool.false_eq_true, ↓reduceIte, and_self]
  | @unnamed entry blank =>
    simp only [Live.change, apply, add_of_keyed keyed, blank, accepting, ↓reduceIte, and_self]
  | @taken entry named known =>
    have old : entry.key ∈ live.current.keys := List.mem_map.mpr known
    simp only [Live.change, apply, add_of_keyed keyed, named, old, accepting, Bool.false_eq_true,
      ↓reduceIte, and_self]
  | @removed before after entry split =>
    simp only [Live.change, apply, remove_of_split keyed split, Live.publish, and_self]
  | @missing key absent =>
    simp only [Live.change, apply, remove_of_absent absent, Live.publish, and_self]
  | replaced table_keyed =>
    simp only [Live.change, apply, ofEntries_of_keyed table_keyed, accepting, Live.publish, and_self]
  | kept clash blamed =>
    simp only [Live.change, apply, ofEntries, blamed, accepting, and_self]

theorem exists_does (entries : List Authentication) (change : Change) :
    ∃ reply after, Does entries change reply after := by
  cases change with
  | add entry =>
    cases blank : isBlankText entry.key with
    | true => exact ⟨_, _, .unnamed blank⟩
    | false =>
      by_cases known : ∃ other ∈ entries, other.key = entry.key
      · exact ⟨_, _, .taken blank known⟩
      · exact ⟨_, _, .added blank fun other member same => known ⟨other, member, same⟩⟩
  | remove key =>
    by_cases known : ∃ entry ∈ entries, entry.key = key
    · obtain ⟨entry, member, rfl⟩ := known
      obtain ⟨before, after, split⟩ := List.append_of_mem member
      exact ⟨_, _, .removed split⟩
    · exact ⟨_, _, .missing fun entry member same => known ⟨entry, member, same⟩⟩
  | replaceAll table =>
    by_cases keyed : Keyed table
    · exact ⟨_, _, .replaced keyed⟩
    · have clash := keyed
      rw [← keyError?_eq_none_iff, ← ne_eq, Option.ne_none_iff_exists'] at clash
      obtain ⟨error, blamed⟩ := clash
      exact ⟨_, _, .kept keyed blamed⟩

theorem does_iff {live : Live} (keyed : Keyed live.current.entries) (change : Change)
    (reply : Reply) (after : List Authentication) :
    Does live.current.entries change reply after ↔
      (live.change change).1 = reply ∧ (live.change change).2.current.entries = after := by
  refine ⟨change_of_does keyed, ?_⟩
  rintro ⟨rfl, rfl⟩
  obtain ⟨reply, after, does⟩ := exists_does live.current.entries change
  obtain ⟨told, left⟩ := change_of_does keyed does
  rw [told, left]
  exact does

/-! ### Runs of changes -/

inductive Starts : Registry → Prop where
  | new : Starts {}
  | entries {entries : List Authentication} {registry : Registry}
      (made : ofEntries entries = .ok registry) : Starts registry
  | text {text : String} {registry : Registry} (made : ofText text = .ok registry) : Starts registry

theorem Starts.keyed {registry : Registry} (starts : Starts registry) : Keyed registry.entries := by
  cases starts with
  | new => exact keyed_nil
  | entries made =>
    obtain ⟨same, keyed⟩ := keyed_of_ofEntries made
    exact same ▸ keyed
  | @text text registry made =>
    unfold ofText at made
    split at made
    · cases made
    next entries _ =>
      obtain ⟨same, keyed⟩ := keyed_of_ofEntries made
      exact same ▸ keyed

namespace Live

def after (live : Live) (changes : List Change) : Live :=
  changes.foldl (fun live change => (live.change change).2) live

theorem after_append (live : Live) (earlier later : List Change) :
    live.after (earlier ++ later) = (live.after earlier).after later := List.foldl_append

theorem keyed_after (live : Live) (keyed : Keyed live.current.entries) (changes : List Change) :
    Keyed (live.after changes).current.entries := by
  induction changes generalizing live with
  | nil => exact keyed
  | cons change rest ih =>
    obtain ⟨reply, after, does⟩ := exists_does live.current.entries change
    apply ih (live.change change).2
    rw [(change_of_does keyed does).2]
    exact does.keyed keyed

theorem table?_change (live : Live) (change : Change) {number : Nat} {table : Registry}
    (shown : live.table? number = some table) :
    (live.change change).2.table? number = some table := by
  unfold Live.change
  split
  next reply next _ =>
    rw [table?, publish, List.getElem?_append_left (List.getElem?_eq_some_iff.mp shown).1]
    exact shown
  next => exact shown

theorem table?_after (live : Live) (changes : List Change) {number : Nat} {table : Registry}
    (shown : live.table? number = some table) : (live.after changes).table? number = some table := by
  induction changes generalizing live with
  | nil => exact shown
  | cons change rest ih => exact ih _ (table?_change live change shown)

theorem table?_snapshot (live : Live) : live.table? live.snapshot = some live.current := by
  rw [table?, snapshot, List.getElem?_append_right (Nat.le_refl _), Nat.sub_self]
  rfl

end Live

structure IsTable (live : Live) : Prop where
  keyed : Keyed live.current.entries
  found : ∀ key entry, live.current.lookup? key = some entry ↔
    entry ∈ live.current.entries ∧ entry.key = key
  absent : ∀ key, live.current.lookup? key = none ↔ ∀ entry ∈ live.current.entries, entry.key ≠ key
  changes : ∀ change reply after, Does live.current.entries change reply after ↔
    (live.change change).1 = reply ∧ (live.change change).2.current.entries = after

/-- A registry is a table of entries with distinct keys at all times, and a snapshot shows the table
of its time forever. -/
theorem registry_is_table {registry : Registry} (starts : Starts registry) (changes : List Change) :
    IsTable (Live.after { current := registry } changes) ∧
      ∀ earlier later, changes = earlier ++ later →
        let old := Live.after { current := registry } earlier
        (Live.after { current := registry } changes).table? old.snapshot = some old.current := by
  have keyed := Live.keyed_after { current := registry } starts.keyed changes
  constructor
  · exact ⟨keyed, lookup?_eq_some_iff keyed, lookup?_eq_none_iff _, does_iff keyed⟩
  · rintro earlier later rfl
    rw [Live.after_append]
    exact Live.table?_after _ later (Live.table?_snapshot _)

def porter : Registry where
  entries := [.password "porter" "ann" "open"]

def turns : List Change :=
  [.add (.form "desk" []), .remove "porter", .add (.password "desk" "bob" "shut")]

theorem porter_shown_after_turns :
    Does (Live.after { current := porter } (turns.take 2)).current.entries
        (.add (.password "desk" "bob" "shut")) (.refused (.duplicateKey "desk"))
        [.form "desk" []] ∧
      (Live.after { current := porter } turns).current.entries = [.form "desk" []] ∧
      (Live.after { current := porter } turns).table? 0 = some porter := by
  have made : ofEntries porter.entries = .ok porter :=
    Outcome.eq_ok_of_toOption (by decide +kernel)
  have starts : Starts porter := .entries made
  refine ⟨?_, by decide +kernel, (registry_is_table starts turns).2 [] turns rfl⟩
  rw [(registry_is_table starts (turns.take 2)).1.changes]
  decide +kernel

end Courier.Registry
