import Courier.Text.Blank
/-!
Lists of named parameters in challenge and answer headers, such as `realm="r", nonce=n`. Values may
be quoted, with backslashes before characters that would end them, or stand up to the next comma.
A list ends where no name follows.
-/
namespace Courier.Digest

def cutQuoted : List Char → List Char × List Char
  | [] => ([], [])
  | ['\\'] => ([], [])
  | '\\' :: c :: rest =>
    let (value, after) := cutQuoted rest
    (c :: value, after)
  | '"' :: rest => ([], rest)
  | c :: rest =>
    let (value, after) := cutQuoted rest
    (c :: value, after)

def cutValue (text : List Char) : List Char × List Char :=
  match trimLeft text with
  | '"' :: rest => cutQuoted rest
  | plain => (trim (plain.takeWhile (· ≠ ',')), plain.dropWhile (· ≠ ','))

def cutAssigned (text : List Char) : List Char × List Char :=
  match text with
  | '=' :: rest => cutValue rest
  | _ => ([], text)

def isGap (c : Char) : Bool := isBlank c || c = ','

def isNameChar (c : Char) : Bool := c ≠ '=' && c ≠ ','

theorem length_dropWhile_le (stops : Char → Bool) (text : List Char) :
    (text.dropWhile stops).length ≤ text.length := (List.dropWhile_sublist stops).length_le

theorem length_cutQuoted_le (text : List Char) : (cutQuoted text).2.length ≤ text.length := by
  fun_induction cutQuoted text <;> simp_all <;> omega

theorem length_cutValue_le (text : List Char) : (cutValue text).2.length ≤ text.length := by
  have trimmed : (trimLeft text).length ≤ text.length := length_dropWhile_le _ _
  unfold cutValue
  split
  next rest shape =>
    have := length_cutQuoted_le rest
    rw [shape] at trimmed
    simp at trimmed
    omega
  next => exact Nat.le_trans (length_dropWhile_le _ _) trimmed

theorem length_cutAssigned_le (text : List Char) : (cutAssigned text).2.length ≤ text.length := by
  unfold cutAssigned
  split
  next rest =>
    have := length_cutValue_le rest
    simp
    omega
  next => simp

theorem length_after_name_lt (text : List Char)
    (named : (trim ((text.dropWhile isGap).takeWhile isNameChar)).isEmpty = false) :
    (cutAssigned ((text.dropWhile isGap).dropWhile isNameChar)).2.length < text.length := by
  have kept := length_cutAssigned_le ((text.dropWhile isGap).dropWhile isNameChar)
  have gap := length_dropWhile_le isGap text
  have total := congrArg List.length
    (List.takeWhile_append_dropWhile (p := isNameChar) (l := text.dropWhile isGap))
  have nonempty : 0 < ((text.dropWhile isGap).takeWhile isNameChar).length := by
    rcases h : (text.dropWhile isGap).takeWhile isNameChar with _ | ⟨c, more⟩
    · rw [h] at named
      simp [trim, trimLeft, trimRight] at named
    · simp
  simp only [List.length_append] at total
  omega

def params (text : List Char) : List (List Char × List Char) :=
  let start := text.dropWhile isGap
  let name := start.takeWhile isNameChar
  if _named : (trim name).isEmpty = false then
    let assigned := cutAssigned (start.dropWhile isNameChar)
    (trim name, assigned.1) :: params assigned.2
  else []
termination_by text.length
decreasing_by exact length_after_name_lt text _named

end Courier.Digest
