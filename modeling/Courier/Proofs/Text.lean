import Courier.Text.Ascii
import Courier.Text.Blank
import Courier.Text.Split
import Mathlib.Data.List.DropRight
/-! Characters of ASCII and cutting texts. What stands in front of the first character that ends a part
is that part, and trimming reaches no further than the first character from either end that is not
blank. -/

namespace Courier

/-! ### ASCII -/

/-- What holds of the first 128 characters holds of those of ASCII. -/
theorem forall_isAscii (kind : Char → Prop) (low : ∀ n < 128, kind (Char.ofNat n)) {c : Char}
    (ascii : isAscii c = true) : kind c := by
  have small : c.toNat < 128 := by simpa [isAscii] using ascii
  simpa using low c.toNat small

theorem isAscii_of_le {c d : Char} (below : c ≤ d) (ascii : isAscii d = true) : isAscii c = true := by
  have small : d.toNat < 0x80 := by simpa [isAscii] using ascii
  exact decide_eq_true (Nat.lt_of_le_of_lt below small)

theorem isAscii_of_isAsciiAlphanum {c : Char} (plain : isAsciiAlphanum c = true) :
    isAscii c = true := by
  simp only [isAsciiAlphanum, isAsciiAlpha, isAsciiUpper, isAsciiDigit, Bool.or_eq_true,
    Bool.and_eq_true, decide_eq_true_eq] at plain
  rcases plain with (⟨_, below⟩ | ⟨_, below⟩) | ⟨_, below⟩ <;>
    exact isAscii_of_le below (by decide)

theorem isAscii_of_isAsciiDigit {c : Char} (digit : isAsciiDigit c = true) : isAscii c = true :=
  isAscii_of_isAsciiAlphanum (by simp [isAsciiAlphanum, digit])

theorem isBlank_asciiLower (c : Char) : isBlank (asciiLower c) = isBlank c := by
  have table : ∀ n < 128, isBlank (asciiLower (Char.ofNat n)) = isBlank (Char.ofNat n) := by
    decide +kernel
  by_cases ascii : isAscii c = true
  · exact forall_isAscii (fun c => isBlank (asciiLower c) = isBlank c) table ascii
  · have small : isAsciiUpper c = false := by
      by_contra upper
      exact ascii (isAscii_of_isAsciiAlphanum (by simp_all [isAsciiAlphanum, isAsciiAlpha]))
    simp [asciiLower, small]

/-! ### Parts -/

theorem takeWhile_part {kind : Char → Bool} {part rest : List Char} (inside : ∀ c ∈ part, kind c)
    (ends : ∀ c ∈ rest.head?, kind c = false) : (part ++ rest).takeWhile kind = part := by
  rw [List.takeWhile_append_of_pos inside]
  cases rest with
  | nil => simp
  | cons c more => simp [ends c rfl]

theorem dropWhile_part {kind : Char → Bool} {part rest : List Char} (inside : ∀ c ∈ part, kind c)
    (ends : ∀ c ∈ rest.head?, kind c = false) : (part ++ rest).dropWhile kind = rest := by
  rw [List.dropWhile_append_of_pos inside]
  cases rest with
  | nil => rfl
  | cons c more => simp [ends c rfl]

theorem head?_dropWhile_eq_false {kind : Char → Bool} {text : List Char} :
    ∀ c ∈ (text.dropWhile kind).head?, kind c = false := by
  intro c member
  have stopped := List.head?_dropWhile_not kind text
  rw [Option.mem_def.mp member] at stopped
  simpa using stopped

theorem cutAt?_eq_none_iff (stops : Char → Bool) (text : List Char) :
    cutAt? stops text = none ↔ ∀ c ∈ text, stops c = false := by
  induction text with
  | nil => simp [cutAt?]
  | cons c rest ih =>
    rw [cutAt?, List.forall_mem_cons]
    by_cases stop : stops c = true
    · simp [stop]
    · simp [stop, ih]

theorem cutAt?_eq_some {stops : Char → Bool} {text left right : List Char}
    (cut : cutAt? stops text = some (left, right)) :
    ∃ c, text = left ++ c :: right ∧ stops c = true ∧ ∀ d ∈ left, stops d = false := by
  induction text generalizing left with
  | nil => cases cut
  | cons c rest ih =>
    rw [cutAt?] at cut
    by_cases stop : stops c = true
    · simp only [stop, ↓reduceIte, Option.some.injEq, Prod.mk.injEq] at cut
      obtain ⟨rfl, rfl⟩ := cut
      exact ⟨c, rfl, stop, by simp⟩
    · simp only [stop, Bool.false_eq_true, ↓reduceIte, Option.map_eq_some_iff] at cut
      obtain ⟨⟨before, after⟩, inner, same⟩ := cut
      obtain ⟨rfl, rfl⟩ := Prod.mk.inj same
      obtain ⟨mark, split, marks, clear⟩ := ih inner
      exact ⟨mark, by rw [split, List.cons_append], marks,
        List.forall_mem_cons.mpr ⟨by simpa using stop, clear⟩⟩

theorem cutAt?_append {stops : Char → Bool} {front : List Char} {mark : Char}
    (clear : ∀ c ∈ front, stops c = false) (stop : stops mark = true) (rest : List Char) :
    cutAt? stops (front ++ mark :: rest) = some (front, rest) := by
  induction front with
  | nil => simp [cutAt?, stop]
  | cons c more ih =>
    obtain ⟨here, later⟩ := List.forall_mem_cons.mp clear
    simp [cutAt?, here, ih later]

theorem all_joinWith {kind : Char → Bool} {separator : List Char} (fine : separator.all kind = true)
    (pieces : List (List Char)) : (joinWith separator pieces).all kind = pieces.all (·.all kind) := by
  fun_induction joinWith separator pieces with
  | case1 => rfl
  | case2 piece => simp
  | case3 piece pieces _ ih =>
    rw [List.all_append, List.all_append, ih, fine, List.all_cons, Bool.and_true]

theorem mem_of_mem_splitAt {separator : Char} {text piece : List Char}
    (given : piece ∈ splitAt separator text) : ∀ c ∈ piece, c ∈ text := by
  induction text generalizing piece with
  | nil =>
    rw [splitAt, List.mem_singleton] at given
    simp [given]
  | cons d rest ih =>
    intro c member
    unfold splitAt at given
    split at given
    · rcases List.mem_cons.mp given with rfl | later
      · cases member
      · exact List.mem_cons_of_mem d (ih later c member)
    · split at given
      next gone => exact absurd gone (splitAt_ne_nil separator rest)
      next first pieces shown =>
        rcases List.mem_cons.mp given with rfl | later
        · rcases List.mem_cons.mp member with rfl | inside
          · exact List.mem_cons_self
          · exact List.mem_cons_of_mem d (ih (by rw [shown]; simp) c inside)
        · exact List.mem_cons_of_mem d
            (ih (by rw [shown]; exact List.mem_cons_of_mem _ later) c member)

theorem not_mem_of_mem_splitAt {separator : Char} {text piece : List Char}
    (given : piece ∈ splitAt separator text) : separator ∉ piece := by
  induction text generalizing piece with
  | nil =>
    rw [splitAt, List.mem_singleton] at given
    simp [given]
  | cons d rest ih =>
    unfold splitAt at given
    split at given
    · rcases List.mem_cons.mp given with rfl | later
      · simp
      · exact ih later
    next other =>
      split at given
      next gone => exact absurd gone (splitAt_ne_nil separator rest)
      next first pieces shown =>
        rcases List.mem_cons.mp given with rfl | later
        · have clear : separator ∉ first := ih (by rw [shown]; simp)
          exact List.not_mem_cons_of_ne_of_not_mem (Ne.symm other) clear
        · exact ih (by rw [shown]; exact List.mem_cons_of_mem _ later)

/-- Cutting a text at a character is what the library's splitting of lists is. -/
theorem splitAt_eq_splitOn (separator : Char) (text : List Char) :
    splitAt separator text = text.splitOn separator := by
  induction text with
  | nil => rfl
  | cons c rest ih =>
    rw [splitAt, ih, List.splitOn_cons_eq_if_modifyHead]
    by_cases same : c = separator
    · simp [same]
    · cases shown : rest.splitOn separator with
      | nil => exact absurd shown (List.splitOn_ne_nil separator rest)
      | cons piece more => simp [same, List.modifyHead]

theorem splitAt_of_clear {separator : Char} {text : List Char} (clear : separator ∉ text) :
    splitAt separator text = [text] := by
  induction text with
  | nil => rfl
  | cons c rest ih =>
    have other : c ≠ separator := fun same => clear (by simp [same])
    simp [splitAt, other, ih fun member => clear (List.mem_cons_of_mem c member)]

theorem splitAt_joinWith {separator : Char} {pieces : List (List Char)} (nonempty : pieces ≠ [])
    (clear : ∀ piece ∈ pieces, separator ∉ piece) :
    splitAt separator (joinWith [separator] pieces) = pieces := by
  have front {piece : List Char} (clear : separator ∉ piece) (rest : List Char) :
      splitAt separator (piece ++ separator :: rest) = piece :: splitAt separator rest := by
    induction piece with
    | nil => simp [splitAt]
    | cons c more ih =>
      have other : c ≠ separator := fun same => clear (by simp [same])
      simp [splitAt, other, ih fun member => clear (List.mem_cons_of_mem c member)]
  fun_induction joinWith [separator] pieces with
  | case1 => exact absurd rfl nonempty
  | case2 piece => exact splitAt_of_clear (clear piece (by simp))
  | case3 piece pieces more ih =>
    obtain ⟨here, later⟩ := List.forall_mem_cons.mp clear
    rw [List.append_assoc, List.singleton_append, front here, ih (by simpa using more) later]

theorem joinWith_cons_cons (separator first second : List Char) (pieces : List (List Char)) :
    joinWith separator (first :: second :: pieces) =
      first ++ separator ++ joinWith separator (second :: pieces) := rfl

/-- What follows the separator in a longer one belongs to the pieces after it. -/
theorem joinWith_cons_padded (separator : Char) (padding first : List Char)
    (pieces : List (List Char)) :
    joinWith (separator :: padding) (first :: pieces) =
      joinWith [separator] (first :: pieces.map (padding ++ ·)) := by
  induction pieces generalizing first with
  | nil => rfl
  | cons piece more ih =>
    rw [joinWith_cons_cons, ih piece, List.map_cons, joinWith_cons_cons]
    cases more with
    | nil => simp [joinWith]
    | cons other others => simp [joinWith_cons_cons]

theorem joinTexts_cons (separator first second : String) (more : List String) :
    joinTexts separator (first :: second :: more) =
      first ++ (separator ++ joinTexts separator (second :: more)) := by
  rw [← String.toList_inj]
  simp only [joinTexts, List.map_cons, joinWith_cons_cons, String.toList_ofList,
    String.toList_append, List.append_assoc]

theorem joinWith_eq_intercalate (separator : List Char) (pieces : List (List Char)) :
    joinWith separator pieces = separator.intercalate pieces := by
  fun_induction joinWith separator pieces with
  | case1 => rfl
  | case2 piece => simp
  | case3 piece pieces more ih =>
    obtain ⟨second, others, rfl⟩ := List.exists_cons_of_ne_nil (by simpa using more)
    rw [List.intercalate_cons_cons, ih]

theorem joinTexts_eq_intercalate (separator : String) (pieces : List String) :
    joinTexts separator pieces = separator.intercalate pieces := by
  rw [← String.toList_inj, String.toList_intercalate, joinTexts, String.toList_ofList,
    joinWith_eq_intercalate]

theorem joinTexts_singleton (separator only : String) : joinTexts separator [only] = only :=
  String.ofList_toList

theorem length_splitAt_le (separator : Char) (text : List Char) :
    (splitAt separator text).length ≤ text.length + 1 := by
  induction text with
  | nil => rfl
  | cons c rest ih =>
    unfold splitAt
    split
    · simpa using ih
    · split
      next => simp
      next first pieces shown =>
        rw [shown, List.length_cons] at ih
        simp only [List.length_cons]
        omega

theorem dropWhile_append_of_solid {blank : Char → Bool} {front : List Char} (nonempty : front ≠ [])
    (solid : ∀ c ∈ front, blank c = false) (tail : List Char) :
    (front ++ tail).dropWhile blank = front ++ tail := by
  cases front with
  | nil => exact absurd rfl nonempty
  | cons c more => simp [solid c (by simp)]

theorem rdropWhile_append_of_trimmed {blank : Char → Bool} {front : List Char}
    (stays : front.rdropWhile blank = front) (tail : List Char) :
    (front ++ tail).rdropWhile blank = front ++ tail.rdropWhile blank := by
  have turned : front.reverse.dropWhile blank = front.reverse := by
    simpa [List.rdropWhile] using congrArg List.reverse stays
  simp only [List.rdropWhile, List.reverse_append, List.dropWhile_append, turned]
  split
  next gone => simp [List.isEmpty_iff.mp gone]
  next => simp

theorem rdropWhile_append_eq {blank : Char → Bool} (front : List Char) {back : List Char}
    (given : back ≠ []) (stays : back.rdropWhile blank = back) :
    (front ++ back).rdropWhile blank = front ++ back := by
  rw [List.rdropWhile_eq_self_iff] at stays ⊢
  intro whole
  rw [List.getLast_append_right given]
  exact stays given

theorem rdropWhile_append_of_solid {blank : Char → Bool} {front : List Char}
    (solid : ∀ c ∈ front, blank c = false) (tail : List Char) :
    (front ++ tail).rdropWhile blank = front ++ tail.rdropWhile blank := by
  apply rdropWhile_append_of_trimmed
  rw [List.rdropWhile_eq_self_iff]
  intro given
  simp [solid _ (List.getLast_mem given)]

theorem rdropWhile_append_of_blank {blank : Char → Bool} {back : List Char}
    (blanks : ∀ c ∈ back, blank c = true) (text : List Char) :
    (text ++ back).rdropWhile blank = text.rdropWhile blank := by
  have gone : back.reverse.dropWhile blank = [] := by simpa using blanks
  simp [List.rdropWhile, List.dropWhile_append, gone]

/-- Where fewer characters were dropped before, more are dropped just the same. -/
theorem dropWhile_dropWhile_of_imp {kind other : Char → Bool}
    (wider : ∀ c, kind c = true → other c = true) (text : List Char) :
    (text.dropWhile kind).dropWhile other = text.dropWhile other := by
  induction text with
  | nil => rfl
  | cons c rest ih =>
    by_cases held : kind c = true
    · rw [List.dropWhile_cons_of_pos held, ih, List.dropWhile_cons_of_pos (wider c held)]
    · rw [List.dropWhile_cons_of_neg held]

theorem trimRight_eq_rdropWhile (text : List Char) : trimRight text = text.rdropWhile isBlank := by
  induction text with
  | nil => rfl
  | cons c rest ih =>
    have split : (c :: rest).rdropWhile isBlank =
        if (rest.rdropWhile isBlank).isEmpty then [c].rdropWhile isBlank
        else c :: rest.rdropWhile isBlank := by
      simp only [List.rdropWhile, List.reverse_cons, List.dropWhile_append, List.isEmpty_reverse,
        List.reverse_nil, List.nil_append]
      split <;> simp
    rw [trimRight, ih, split]
    cases rest.rdropWhile isBlank with
    | nil => simp [List.rdropWhile_singleton]
    | cons d more => simp

theorem trim_eq (text : List Char) : trim text = (text.dropWhile isBlank).rdropWhile isBlank := by
  rw [trim, trimLeft, trimRight_eq_rdropWhile]

theorem trim_append_of_solid {front : List Char} (nonempty : front ≠ [])
    (solid : ∀ c ∈ front, isBlank c = false) (tail : List Char) :
    trim (front ++ tail) = front ++ tail.rdropWhile isBlank := by
  rw [trim_eq, dropWhile_append_of_solid nonempty solid, rdropWhile_append_of_solid solid]

theorem trim_of_solid {text : List Char} (solid : ∀ c ∈ text, isBlank c = false) :
    trim text = text := by
  by_cases given : text = []
  · rw [given]
    rfl
  · have ends := trim_append_of_solid given solid []
    simpa using ends

/-- A trimmed text loses nothing at either end. -/
theorem ends_of_trimmed {text : List Char} (trimmed : trim text = text) :
    text.dropWhile isBlank = text ∧ text.rdropWhile isBlank = text := by
  have left : text.dropWhile isBlank = text := by
    apply (List.dropWhile_sublist isBlank).eq_of_length_le
    have shorter := (trimRight_sublist (text.dropWhile isBlank)).length_le
    have whole := congrArg List.length trimmed
    rw [trim, trimLeft] at whole
    omega
  refine ⟨left, ?_⟩
  rw [trim_eq, left] at trimmed
  exact trimmed

theorem mem_trim_of_solid {text : List Char} {c : Char} (member : c ∈ text)
    (solid : isBlank c = false) : c ∈ trim text := by
  have kept {other : List Char} (inside : c ∈ other) : c ∈ other.dropWhile isBlank := by
    rw [← List.takeWhile_append_dropWhile (p := isBlank) (l := other)] at inside
    rcases List.mem_append.mp inside with dropped | later
    · rw [List.mem_takeWhile_imp dropped] at solid
      cases solid
    · exact later
  rw [trim_eq, List.rdropWhile, List.mem_reverse]
  exact kept (List.mem_reverse.mpr (kept member))

theorem trim_idem (text : List Char) : trim (trim text) = trim text := by
  have ends : ∀ c ∈ (text.dropWhile isBlank).head?, isBlank c = false := head?_dropWhile_eq_false
  rw [trim_eq text]
  cases shown : text.dropWhile isBlank with
  | nil => rfl
  | cons c rest =>
    -- The first character that is kept guards the front, so only the end is trimmed again.
    have solid : ∀ d ∈ [c], isBlank d = false := by
      intro d member
      exact ends d (by simp [shown, List.mem_singleton.mp member])
    rw [← List.singleton_append, rdropWhile_append_of_solid solid,
      trim_append_of_solid (by simp) solid, List.rdropWhile_idempotent]

end Courier
