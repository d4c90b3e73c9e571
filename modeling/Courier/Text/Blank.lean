/-!
Blank characters and trimming. A character is blank when Unicode gives it the property
White_Space; trimming removes blanks from both ends of a text and from nowhere else.
-/
namespace Courier

def isBlank (c : Char) : Bool :=
  let n := c.toNat
  (9 ≤ n && n ≤ 13) || n == 0x20 || n == 0x85 || n == 0xA0 || n == 0x1680 ||
    (0x2000 ≤ n && n ≤ 0x200A) || n == 0x2028 || n == 0x2029 || n == 0x202F ||
    n == 0x205F || n == 0x3000

def trimLeft (text : List Char) : List Char := text.dropWhile isBlank

def trimRight : List Char → List Char
  | [] => []
  | c :: rest =>
    match trimRight rest with
    | [] => if isBlank c then [] else [c]
    | kept => c :: kept

def trim (text : List Char) : List Char := trimRight (trimLeft text)

def isBlankText (text : String) : Bool := text.toList.all isBlank

theorem trimRight_sublist (text : List Char) : (trimRight text).Sublist text := by
  induction text with
  | nil => simp [trimRight]
  | cons c rest ih =>
    unfold trimRight
    split
    next h => split <;> simp
    next kept h => exact ih.cons_cons c

theorem trim_sublist (text : List Char) : (trim text).Sublist text :=
  (trimRight_sublist _).trans (List.dropWhile_sublist isBlank)

end Courier
