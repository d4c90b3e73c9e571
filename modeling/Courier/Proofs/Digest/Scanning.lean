import Courier.Digest.Params
import Courier.Proofs.Text
/-! Parameters as they are scanned. A scan goes round by round. Each round takes a parameter from the
front of the text and leaves less than there was, so a scan ends whatever the text is; and all that it
gives stands in the text, in the same order. -/

namespace Courier.Digest

/-! ### What is taken from a text -/

/-- Whether a value is taken from the front of a text: its characters stand there in their order, and
the rest is what follows. -/
def Takes (text value rest : List Char) : Prop :=
  ∃ front, text = front ++ rest ∧ value.Sublist front

theorem takes_front (front rest : List Char) : Takes (front ++ rest) front rest :=
  ⟨front, rfl, List.Sublist.refl front⟩

theorem takes_while (kind : Char → Bool) (text : List Char) :
    Takes text (text.takeWhile kind) (text.dropWhile kind) :=
  ⟨_, List.takeWhile_append_dropWhile.symm, List.Sublist.refl _⟩

namespace Takes

variable {text value rest : List Char}

theorem skip (taken : Takes text value rest) (skipped : List Char) :
    Takes (skipped ++ text) value rest := by
  obtain ⟨front, rfl, inside⟩ := taken
  exact ⟨skipped ++ front, (List.append_assoc _ _ _).symm, inside.trans (List.sublist_append_right _ _)⟩

theorem mono (taken : Takes text value rest) {less : List Char} (shorter : less.Sublist value) :
    Takes text less rest := by
  obtain ⟨front, shape, inside⟩ := taken
  exact ⟨front, shape, shorter.trans inside⟩

theorem append (taken : Takes text value rest) {other left : List Char}
    (later : Takes rest other left) : Takes text (value ++ other) left := by
  obtain ⟨front, rfl, inside⟩ := taken
  obtain ⟨middle, rfl, other_inside⟩ := later
  exact ⟨front ++ middle, (List.append_assoc _ _ _).symm, inside.append other_inside⟩

theorem sublist (taken : Takes text value rest) : value.Sublist text := by
  obtain ⟨front, rfl, inside⟩ := taken
  exact inside.trans (List.sublist_append_left front rest)

theorem suffix (taken : Takes text value rest) : rest <:+ text := by
  obtain ⟨front, rfl, _⟩ := taken
  exact List.suffix_append front rest

theorem length_le (taken : Takes text value rest) : value.length + rest.length ≤ text.length := by
  obtain ⟨front, rfl, inside⟩ := taken
  have shorter := inside.length_le
  rw [List.length_append]
  omega

end Takes

/-! ### One round -/

/-- A backslash is left out, and the character after it is taken whatever it is. -/
theorem takes_cutQuoted (text : List Char) : Takes text (cutQuoted text).1 (cutQuoted text).2 := by
  fun_induction cutQuoted text with
  | case1 => exact takes_front [] []
  | case2 => exact (takes_front [] []).skip ['\\']
  | case3 c rest value after shown ih =>
    rw [shown] at ih
    exact ((takes_front [c] rest).append ih).skip ['\\']
  | case4 rest => exact (takes_front [] rest).skip ['"']
  | case5 c rest _ _ _ value after shown ih =>
    rw [shown] at ih
    exact (takes_front [c] rest).append ih

theorem takes_cutValue (text : List Char) : Takes text (cutValue text).1 (cutValue text).2 := by
  have start : text.takeWhile isBlank ++ trimLeft text = text := List.takeWhile_append_dropWhile
  unfold cutValue
  split
  next rest shape =>
    have quoted := (takes_cutQuoted rest).skip (text.takeWhile isBlank ++ ['"'])
    rwa [List.append_assoc, List.singleton_append, ← shape, start] at quoted
  next =>
    have plain := ((takes_while (· ≠ ',') (trimLeft text)).mono (trim_sublist _)).skip
      (text.takeWhile isBlank)
    rwa [start] at plain

theorem takes_cutAssigned (text : List Char) :
    Takes text (cutAssigned text).1 (cutAssigned text).2 := by
  unfold cutAssigned
  split
  next rest => exact (takes_cutValue rest).skip ['=']
  next => exact takes_front [] text

def round? (text : List Char) : Option ((List Char × List Char) × List Char) :=
  let start := text.dropWhile isGap
  let name := trim (start.takeWhile isNameChar)
  if name.isEmpty then none
  else
    let assigned := cutAssigned (start.dropWhile isNameChar)
    some ((name, assigned.1), assigned.2)

structure IsLabel (name : List Char) : Prop where
  given : name ≠ []
  trimmed : trim name = name
  equals : '=' ∉ name
  comma : ',' ∉ name

theorem isLabel_trim {name : List Char} (given : (trim name).isEmpty = false)
    (chars : ∀ c ∈ name, isNameChar c = true) : IsLabel (trim name) where
  given := List.isEmpty_eq_false_iff.mp given
  trimmed := trim_idem name
  equals := fun member => by simpa [isNameChar] using chars '=' ((trim_sublist name).subset member)
  comma := fun member => by simpa [isNameChar] using chars ',' ((trim_sublist name).subset member)

/-- Whether a round gives a parameter that it takes from the front of a text. -/
structure IsRound (text : List Char) (param : List Char × List Char) (rest : List Char) : Prop where
  label : IsLabel param.1
  takes : Takes text (param.1 ++ param.2) rest

theorem isRound_of_round? {text : List Char} {param : List Char × List Char} {rest : List Char}
    (found : round? text = some (param, rest)) : IsRound text param rest := by
  unfold round? at found
  dsimp only at found
  split at found
  next => cases found
  next named =>
    obtain ⟨rfl, rfl⟩ := Prod.mk.inj (Option.some.inj found)
    have name := (takes_while isNameChar (text.dropWhile isGap)).mono (trim_sublist _)
    have whole := (name.append (takes_cutAssigned _)).skip (text.takeWhile isGap)
    rw [List.takeWhile_append_dropWhile] at whole
    exact ⟨isLabel_trim (by simpa using named) fun c member => List.mem_takeWhile_imp member, whole⟩

theorem IsRound.length_lt {text rest : List Char} {param : List Char × List Char}
    (round : IsRound text param rest) : rest.length < text.length := by
  have all := round.takes.length_le
  have named := List.length_pos_iff.mpr round.label.given
  rw [List.length_append] at all
  omega

/-! ### Whole scans -/

/-- The scans of texts, round by round up to the one that finds no name: what they give and what they
leave. -/
inductive Scans : List Char → List (List Char × List Char) → List Char → Prop where
  | done {text : List Char} (nameless : round? text = none) : Scans text [] text
  | more {text middle rest : List Char} {param : List Char × List Char}
      {given : List (List Char × List Char)} (found : round? text = some (param, middle))
      (later : Scans middle given rest) : Scans text (param :: given) rest

theorem params_of_round?_none {text : List Char} (nameless : round? text = none) :
    params text = [] := by
  rw [params]
  split
  next named => simp [round?, named] at nameless
  next => rfl

theorem params_of_round?_some {text rest : List Char} {param : List Char × List Char}
    (found : round? text = some (param, rest)) : params text = param :: params rest := by
  rw [params]
  split
  next named =>
    simp only [round?, named, Bool.false_eq_true, ↓reduceIte, Option.some.injEq] at found
    obtain ⟨rfl, rfl⟩ := Prod.mk.inj found
    rfl
  next nameless => simp [round?, nameless] at found

/-- Every scan ends, since each of its rounds leaves less to scan. -/
theorem exists_scans (text : List Char) : ∃ rest, Scans text (params text) rest := by
  induction length : text.length using Nat.strongRecOn generalizing text with
  | ind n ih =>
    cases found : round? text with
    | none =>
      rw [params_of_round?_none found]
      exact ⟨text, .done found⟩
    | some pair =>
      obtain ⟨param, middle⟩ := pair
      have shorter := (isRound_of_round? found).length_lt
      obtain ⟨rest, later⟩ := ih middle.length (by omega) middle rfl
      rw [params_of_round?_some found]
      exact ⟨rest, .more found later⟩

namespace Scans

variable {text rest : List Char} {given : List (List Char × List Char)}

theorem unique (scan : Scans text given rest) {other : List (List Char × List Char)}
    {left : List Char} (again : Scans text other left) : other = given ∧ left = rest := by
  induction scan generalizing other with
  | done nameless =>
    cases again with
    | done _ => exact ⟨rfl, rfl⟩
    | more found _ => rw [nameless] at found; cases found
  | more found _ ih =>
    cases again with
    | done nameless => rw [nameless] at found; cases found
    | more again later =>
      obtain ⟨rfl, rfl⟩ := Prod.mk.inj (Option.some.inj (again.symm.trans found))
      obtain ⟨rfl, rfl⟩ := ih later
      exact ⟨rfl, rfl⟩

theorem takes (scan : Scans text given rest) :
    Takes text (given.flatMap fun param => param.1 ++ param.2) rest := by
  induction scan with
  | @done text _ => exact takes_front [] text
  | more found _ ih => exact (isRound_of_round? found).takes.append ih

theorem isLabel (scan : Scans text given rest) : ∀ param ∈ given, IsLabel param.1 := by
  induction scan with
  | done _ => simp
  | more found _ ih => exact List.forall_mem_cons.mpr ⟨(isRound_of_round? found).label, ih⟩

theorem length_le (scan : Scans text given rest) : given.length + rest.length ≤ text.length := by
  induction scan with
  | done _ => simp
  | more found _ ih =>
    have shorter := (isRound_of_round? found).length_lt
    rw [List.length_cons]
    omega

end Scans

theorem params_sublist (text : List Char) :
    ((params text).flatMap fun param => param.1 ++ param.2).Sublist text := by
  obtain ⟨_, scan⟩ := exists_scans text
  exact scan.takes.sublist

theorem params_subset (text : List Char) :
    ∀ param ∈ params text, param.1 ⊆ text ∧ param.2 ⊆ text := by
  intro param member
  have inside : param.1 ++ param.2 ⊆ text := by
    intro c held
    exact (params_sublist text).subset (List.mem_flatMap.mpr ⟨param, member, held⟩)
  exact ⟨List.Subset.trans (List.subset_append_left _ _) inside,
    List.Subset.trans (List.subset_append_right _ _) inside⟩

/-- What a scan of a text yields: it ends with these parameters and this rest and in no other way,
each name can be one, and all of it is the text's own. -/
structure Yields (text : List Char) (given : List (List Char × List Char)) (rest : List Char) :
    Prop where
  scans : ∀ other left, Scans text other left ↔ other = given ∧ left = rest
  labels : ∀ param ∈ given, IsLabel param.1
  order : (given.flatMap fun param => param.1 ++ param.2).Sublist text
  few : given.length ≤ text.length
  own : ∀ param ∈ given, param.1 ⊆ text ∧ param.2 ⊆ text

/-- Whatever a text is, a round takes its parameter from the front and leaves less text, so the scan
ends; and the names and values that it gives stand in the text, in the same order. -/
theorem scan_ends_with_own_text (text : List Char) :
    (∀ param rest, round? text = some (param, rest) →
      IsRound text param rest ∧ rest.length < text.length) ∧
    ∃ rest, rest <:+ text ∧ Yields text (params text) rest := by
  constructor
  · intro param rest found
    have round := isRound_of_round? found
    exact ⟨round, round.length_lt⟩
  · obtain ⟨rest, scan⟩ := exists_scans text
    have shorter := scan.length_le
    refine ⟨rest, scan.takes.suffix, ?_, scan.isLabel, params_sublist text, by omega,
      params_subset text⟩
    intro other left
    constructor
    · intro again
      exact scan.unique again
    · rintro ⟨rfl, rfl⟩
      exact scan

def tangled : List Char := " ,a b=\"x\\\"y\",c,n=\"z\\".toList

theorem tangled_ends_with_own_text :
    params tangled =
        [("a b".toList, "x\"y".toList), ("c".toList, []), ("n".toList, "z".toList)] ∧
      "a bx\"ycnz".toList.Sublist tangled ∧
      ∃ param rest, round? tangled = some (param, rest) ∧ rest.length < tangled.length := by
  have read : params tangled =
      [("a b".toList, "x\"y".toList), ("c".toList, []), ("n".toList, "z".toList)] := by
    decide +kernel
  have first : round? tangled = some (("a b".toList, "x\"y".toList), ",c,n=\"z\\".toList) := by
    decide +kernel
  obtain ⟨shrinks, _, _, yields⟩ := scan_ends_with_own_text tangled
  refine ⟨read, ?_, _, _, first, (shrinks _ _ first).2⟩
  have order := yields.order
  rwa [read] at order

end Courier.Digest
