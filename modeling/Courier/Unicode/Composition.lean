import Courier.Text.Ascii
import Courier.Unicode.CompositionTable
import Courier.Unicode.Mark
/-!
The composed form of a text. Characters are taken apart into letters and marks, the marks after
each letter are put into the order of their combining classes, and letters and marks are joined
again as far as there are characters for both together. Texts that look the same in this respect
have the same composed form. The tables hold the characters that folding leaves; Korean syllables
are put together by calculation.
-/
namespace Courier.Unicode

def combiningClass (c : Char) : Nat :=
  if isAscii c then 0
  else ((CompositionTable.classes.find? fun (_, ranges) => within ranges c).map (·.1)).getD 0

def composeKorean? (first second : Nat) : Option Nat :=
  if 0x1100 ≤ first && first < 0x1113 && 0x1161 ≤ second && second < 0x1176 then
    some (0xAC00 + ((first - 0x1100) * 21 + (second - 0x1161)) * 28)
  else if 0xAC00 ≤ first && first < 0xD7A4 && (first - 0xAC00) % 28 = 0 &&
      0x11A8 ≤ second && second < 0x11C3 then
    some (first + (second - 0x11A7))
  else none

def splitKorean? (n : Nat) : Option (Nat × Nat) :=
  if 0xAC00 ≤ n && n < 0xD7A4 then
    let trailing := (n - 0xAC00) % 28
    if trailing = 0 then some (0x1100 + (n - 0xAC00) / 588, 0x1161 + (n - 0xAC00) % 588 / 28)
    else some (n - trailing, 0x11A7 + trailing)
  else none

def CompositionTable.Joins.join? (row : CompositionTable.Joins) (letter : Nat) : Option Nat :=
  (row.letters.zip row.joined).lookup letter

def CompositionTable.Joins.split? (row : CompositionTable.Joins) (joined : Nat) : Option Nat :=
  (row.joined.zip row.letters).lookup joined

def compose? (letter mark : Char) : Option Char :=
  if isAscii mark then none
  else
    let row? := CompositionTable.joins.find? (·.mark == mark.toNat)
    ((row?.bind (·.join? letter.toNat)) <|> composeKorean? letter.toNat mark.toNat).map Char.ofNat

def split? (c : Char) : Option (Char × Char) :=
  if isAscii c then none
  else
    let pair? := CompositionTable.joins.findSome? fun row => (row.split? c.toNat).map (·, row.mark)
    (pair? <|> splitKorean? c.toNat).map fun (letter, mark) => (Char.ofNat letter, Char.ofNat mark)

def decomposeUpTo : Nat → Char → List Char
  | 0, c => [c]
  | count + 1, c =>
    match split? c with
    | some (letter, mark) => decomposeUpTo count letter ++ [mark]
    | none => [c]

/-- A character taken apart into a letter and marks. No character has more than three marks. -/
def decompose (c : Char) : List Char := decomposeUpTo 3 c

/-- Puts a character before a text, but after the marks of lower class at its start if the
character is a mark. -/
def placeMark (c : Char) : List Char → List Char
  | [] => [c]
  | d :: rest =>
    if 0 < combiningClass d && combiningClass d < combiningClass c then d :: placeMark c rest
    else c :: d :: rest

def orderMarks (text : List Char) : List Char := text.foldr placeMark []

/-- Joins a letter with what follows it, and so on to the end of the text. `apart` holds the marks
since the letter that did not join it, the last one first; a mark of the same class as the last of
them does not reach the letter. -/
def composeFrom (letter : Char) (apart : List Char) : List Char → List Char
  | [] => letter :: apart.reverse
  | c :: rest =>
    let reaches := apart.head?.all fun last => combiningClass last < combiningClass c
    match if reaches then compose? letter c else none with
    | some joined => composeFrom joined apart rest
    | none =>
      if combiningClass c = 0 then letter :: (apart.reverse ++ composeFrom c [] rest)
      else composeFrom letter (c :: apart) rest

def composeAll : List Char → List Char
  | [] => []
  | letter :: rest => composeFrom letter [] rest

def normalize (text : List Char) : List Char := composeAll (orderMarks (text.flatMap decompose))

/-! ### ASCII texts are composed already -/

theorem combiningClass_of_isAscii {c : Char} (h : isAscii c) : combiningClass c = 0 := by
  simp [combiningClass, h]

theorem decompose_of_isAscii {c : Char} (h : isAscii c) : decompose c = [c] := by
  simp [decompose, decomposeUpTo, split?, h]

theorem orderMarks_of_isAscii (text : List Char) (h : ∀ c ∈ text, isAscii c) :
    orderMarks text = text := by
  induction text with
  | nil => rfl
  | cons c rest ih =>
    have tail : rest.foldr placeMark [] = rest := ih fun d hd => h d (by simp [hd])
    simp only [orderMarks, List.foldr_cons, tail]
    cases rest with
    | nil => rfl
    | cons d more => simp [placeMark, combiningClass_of_isAscii (h d (by simp))]

theorem composeFrom_of_isAscii (letter : Char) (text : List Char) (h : ∀ c ∈ text, isAscii c) :
    composeFrom letter [] text = letter :: text := by
  induction text generalizing letter with
  | nil => rfl
  | cons c rest ih =>
    have head : isAscii c := h c (by simp)
    simp [composeFrom, compose?, head, combiningClass_of_isAscii head,
      ih c fun d hd => h d (by simp [hd])]

theorem normalize_of_isAscii (text : List Char) (h : ∀ c ∈ text, isAscii c) :
    normalize text = text := by
  have apart : text.flatMap decompose = text := by
    induction text with
    | nil => rfl
    | cons c rest ih =>
      simp [decompose_of_isAscii (h c (by simp)), ih fun d hd => h d (by simp [hd])]
  rw [normalize, apart, orderMarks_of_isAscii text h]
  cases text with
  | nil => rfl
  | cons letter rest => exact composeFrom_of_isAscii letter rest fun c hc => h c (by simp [hc])

end Courier.Unicode
