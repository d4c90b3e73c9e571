/-!
Cutting a text at a separator and joining the pieces again. Cutting keeps empty pieces, so joining
undoes it and a text without the separator is one piece.
-/
namespace Courier

def splitAt (separator : Char) : List Char → List (List Char)
  | [] => [[]]
  | c :: rest =>
    if c = separator then [] :: splitAt separator rest
    else
      match splitAt separator rest with
      | [] => [[c]]
      | piece :: pieces => (c :: piece) :: pieces

def joinWith (separator : List Char) : List (List Char) → List Char
  | [] => []
  | [piece] => piece
  | piece :: pieces => piece ++ separator ++ joinWith separator pieces

def cutAt? (stops : Char → Bool) : List Char → Option (List Char × List Char)
  | [] => none
  | c :: rest => if stops c then some ([], rest) else (cutAt? stops rest).map fun (left, right) => (c :: left, right)

def joinTexts (separator : String) (pieces : List String) : String :=
  String.ofList (joinWith separator.toList (pieces.map String.toList))

def occursIn [BEq α] (sought : List α) : List α → Bool
  | [] => sought.isEmpty
  | c :: rest => sought.isPrefixOf (c :: rest) || occursIn sought rest

theorem splitAt_ne_nil (separator : Char) (text : List Char) : splitAt separator text ≠ [] := by
  cases text with
  | nil => simp [splitAt]
  | cons c rest =>
    unfold splitAt
    split
    · simp
    · split <;> simp

theorem joinWith_splitAt (separator : Char) (text : List Char) :
    joinWith [separator] (splitAt separator text) = text := by
  induction text with
  | nil => simp [splitAt, joinWith]
  | cons c rest ih =>
    unfold splitAt
    split
    next h =>
      subst h
      cases hs : splitAt c rest with
      | nil => exact absurd hs (splitAt_ne_nil c rest)
      | cons piece pieces => rw [hs] at ih; simp [joinWith, ih]
    next h =>
      cases hs : splitAt separator rest with
      | nil => exact absurd hs (splitAt_ne_nil separator rest)
      | cons piece pieces =>
        rw [hs] at ih
        cases pieces <;> simp_all [joinWith]

end Courier
