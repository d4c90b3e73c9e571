import Courier.Registry
import Mathlib.Data.List.Nodup
/-! Keys of registries. A table of entries is accepted exactly when no key is blank and no two are
equal; looking up a key finds the one entry that has it. -/

namespace Courier.Registry

structure Keyed (entries : List Authentication) : Prop where
  named : ∀ entry ∈ entries, isBlankText entry.key = false
  distinct : (entries.map Authentication.key).Nodup

theorem keyed_nil : Keyed [] := ⟨by simp, List.nodup_nil⟩

theorem keyed_cons_iff (entry : Authentication) (rest : List Authentication) :
    Keyed (entry :: rest) ↔ isBlankText entry.key = false ∧ entry.key ∉ rest.map Authentication.key ∧
      Keyed rest := by
  constructor
  · rintro ⟨named, distinct⟩
    obtain ⟨here, later⟩ := List.forall_mem_cons.mp named
    rw [List.map_cons, List.nodup_cons] at distinct
    exact ⟨here, distinct.1, later, distinct.2⟩
  · rintro ⟨here, new, later⟩
    refine ⟨List.forall_mem_cons.mpr ⟨here, later.named⟩, ?_⟩
    rw [List.map_cons, List.nodup_cons]
    exact ⟨new, later.distinct⟩

theorem Keyed.sublist {entries others : List Authentication} (keyed : Keyed entries)
    (fewer : others.Sublist entries) : Keyed others :=
  ⟨fun entry member => keyed.named entry (fewer.subset member),
    keyed.distinct.sublist (fewer.map Authentication.key)⟩

/-! ### Tables -/

theorem keyErrorAfter?_eq_none_iff (seen : List String) (entries : List Authentication) :
    keyErrorAfter? seen entries = none ↔ Keyed entries ∧ ∀ entry ∈ entries, entry.key ∉ seen := by
  -- The keys that were seen grow along the table, so the statement is about all of them at once.
  induction entries generalizing seen with
  | nil => simp [keyErrorAfter?, keyed_nil]
  | cons entry rest ih =>
    rw [keyErrorAfter?, keyed_cons_iff, List.forall_mem_cons]
    by_cases blank : isBlankText entry.key = true
    · simp [blank]
    by_cases known : entry.key ∈ seen
    · simp [blank, known]
    simp only [blank, Bool.false_eq_true, ↓reduceIte, List.contains_eq_mem, known,
      decide_false, ih, List.mem_cons, not_or, List.mem_map, not_exists, not_and,
      not_false_eq_true, true_and]
    constructor
    · rintro ⟨keyed, fresh⟩
      exact ⟨⟨fun other member => (fresh other member).1, keyed⟩,
        fun other member => (fresh other member).2⟩
    · rintro ⟨⟨new, keyed⟩, fresh⟩
      exact ⟨keyed, fun other member => ⟨new other member, fresh other member⟩⟩

theorem keyErrorAfter?_append {seen : List String} {before : List Authentication}
    (fine : keyErrorAfter? seen before = none) (after : List Authentication) :
    keyErrorAfter? seen (before ++ after) =
      keyErrorAfter? ((before.map Authentication.key).reverse ++ seen) after := by
  induction before generalizing seen with
  | nil => rfl
  | cons entry rest ih =>
    rw [keyErrorAfter?] at fine
    rw [List.cons_append, keyErrorAfter?]
    by_cases blank : isBlankText entry.key = true
    · simp [blank] at fine
    by_cases known : seen.contains entry.key = true
    · rw [if_neg blank, if_pos known] at fine
      cases fine
    rw [if_neg blank, if_neg known] at fine ⊢
    rw [ih fine, List.map_cons, List.reverse_cons, List.append_assoc, List.singleton_append]

theorem keyError?_eq_none_iff (entries : List Authentication) :
    keyError? entries = none ↔ Keyed entries := by
  simp [keyError?, keyErrorAfter?_eq_none_iff]

theorem keyErrorAfter?_blames {seen : List String} {entries : List Authentication}
    {error : ConfigurationError} (found : keyErrorAfter? seen entries = some error) :
    ∃ before entry after, entries = before ++ entry :: after ∧
      (isBlankText entry.key = true ∧ error = .emptyKey ∨
        entry.key ∈ seen ++ before.map Authentication.key ∧ error = .duplicateKey entry.key) := by
  induction entries generalizing seen with
  | nil => cases found
  | cons first rest ih =>
    rw [keyErrorAfter?] at found
    split at found
    next blank => exact ⟨[], first, rest, rfl, .inl ⟨blank, (Option.some.inj found).symm⟩⟩
    next =>
      split at found
      next known =>
        exact ⟨[], first, rest, rfl, .inr ⟨by simpa using known, (Option.some.inj found).symm⟩⟩
      next =>
        obtain ⟨before, entry, after, rfl, blamed⟩ := ih found
        exact ⟨first :: before, entry, after, rfl, by simpa [or_left_comm, or_assoc] using blamed⟩

theorem ofEntries_of_keyed {entries : List Authentication} (keyed : Keyed entries) :
    ofEntries entries = .ok { entries } := by
  rw [ofEntries, (keyError?_eq_none_iff entries).mpr keyed]

theorem ofEntries_of_not_keyed {entries : List Authentication} (clash : ¬Keyed entries) :
    ∃ error, ofEntries entries = .error error := by
  rw [← keyError?_eq_none_iff, ← ne_eq, Option.ne_none_iff_exists'] at clash
  obtain ⟨error, found⟩ := clash
  exact ⟨error, by rw [ofEntries, found]⟩

theorem keyed_of_ofEntries {entries : List Authentication} {registry : Registry}
    (made : ofEntries entries = .ok registry) : registry.entries = entries ∧ Keyed entries := by
  by_cases keyed : Keyed entries
  · rw [ofEntries_of_keyed keyed] at made
    obtain rfl := Except.ok.inj made
    exact ⟨rfl, keyed⟩
  · obtain ⟨error, failed⟩ := ofEntries_of_not_keyed keyed
    rw [failed] at made
    cases made

/-- One more entry is the only one that can be blamed, as the others are accepted already. -/
theorem add_of_keyed {registry : Registry} (keyed : Keyed registry.entries)
    (entry : Authentication) :
    registry.add entry =
      if isBlankText entry.key then .error .emptyKey
      else if entry.key ∈ registry.keys then .error (.duplicateKey entry.key)
      else .ok { entries := registry.entries ++ [entry] } := by
  have blamed := keyErrorAfter?_append ((keyError?_eq_none_iff registry.entries).mpr keyed) [entry]
  rw [add, ofEntries, keyError?, blamed, keyErrorAfter?]
  by_cases blank : isBlankText entry.key = true
  · simp only [blank, ↓reduceIte]
  by_cases known : entry.key ∈ registry.keys
  · have seen : entry.key ∈ registry.entries.map Authentication.key := known
    simp [blank, known, seen]
  · have unseen : entry.key ∉ registry.entries.map Authentication.key := known
    simp only [List.append_nil, List.contains_eq_mem, List.mem_reverse, unseen, blank, known,
      decide_false, Bool.false_eq_true, ↓reduceIte, keyErrorAfter?]

/-! ### Entries by their keys -/

theorem lookup?_eq_none_iff (registry : Registry) (key : String) :
    registry.lookup? key = none ↔ ∀ entry ∈ registry.entries, entry.key ≠ key := by
  simp [Registry.lookup?, List.find?_eq_none]

theorem not_mem_keys_iff (registry : Registry) (key : String) :
    key ∉ registry.keys ↔ ∀ entry ∈ registry.entries, entry.key ≠ key := by
  simp [keys]

/-- In a table with distinct keys an entry divides the others into those before and after it, none of
which has its key. -/
theorem Keyed.others {before after : List Authentication} {entry : Authentication}
    (keyed : Keyed (before ++ entry :: after)) :
    ∀ other ∈ before ++ after, other.key ≠ entry.key := by
  have distinct := keyed.distinct
  rw [List.map_append, List.map_cons, List.nodup_middle, List.nodup_cons, ← List.map_append] at distinct
  intro other member same
  exact distinct.1 (same ▸ List.mem_map_of_mem member)

theorem lookup?_of_split {registry : Registry} (keyed : Keyed registry.entries)
    {before after : List Authentication} {entry : Authentication}
    (split : registry.entries = before ++ entry :: after) :
    registry.lookup? entry.key = some entry := by
  rw [split] at keyed
  have others := keyed.others
  rw [lookup?, split, List.find?_eq_some_iff_append]
  refine ⟨by simp, before, after, rfl, fun other member => ?_⟩
  simpa using others other (List.mem_append_left after member)

theorem lookup?_eq_some_iff {registry : Registry} (keyed : Keyed registry.entries) (key : String)
    (entry : Authentication) :
    registry.lookup? key = some entry ↔ entry ∈ registry.entries ∧ entry.key = key := by
  constructor
  · intro found
    exact ⟨List.mem_of_find?_eq_some found, by simpa using List.find?_some found⟩
  · rintro ⟨member, rfl⟩
    obtain ⟨before, after, split⟩ := List.append_of_mem member
    exact lookup?_of_split keyed split

/-- Taking out the entry of a key leaves the others in their order. -/
theorem remove_of_split {registry : Registry} (keyed : Keyed registry.entries)
    {before after : List Authentication} {entry : Authentication}
    (split : registry.entries = before ++ entry :: after) :
    registry.remove entry.key = (some entry, { entries := before ++ after }) := by
  rw [remove, lookup?_of_split keyed split, split]
  rw [split] at keyed
  have others := keyed.others
  rw [List.eraseP_append_right, List.eraseP_cons_of_pos (by simp)]
  intro other member
  simpa using others other (List.mem_append_left after member)

theorem remove_of_absent {registry : Registry} {key : String}
    (absent : ∀ entry ∈ registry.entries, entry.key ≠ key) :
    registry.remove key = (none, registry) := by
  rw [remove, (lookup?_eq_none_iff registry key).mpr absent,
    List.eraseP_of_forall_not (by simpa using absent)]

end Courier.Registry
