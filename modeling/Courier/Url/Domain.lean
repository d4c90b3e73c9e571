import Courier.Text.Ascii
import Courier.Text.Split
import Courier.Text.Utf8
import Courier.Unicode.Composition
import Courier.Unicode.Direction
import Courier.Unicode.Folding
import Courier.Unicode.Joining
import Courier.Unicode.Mark
import Courier.Unicode.Mark
import Courier.Url.DomainExcluded
import Courier.Url.Punycode
/-!
Host names as ASCII. A name is folded and composed and cut into labels; each label that holds
characters beyond ASCII is written in Punycode after the marker `xn--`. A label that comes with
the marker must be such a written form, and every label must come back from its written form, so
that writing a name twice changes nothing, as long as what is written is not too long to be read.
Labels must look the same wherever the name is shown:
none begins with a mark, joiners stand only where they change the writing, and in a name with
characters written from right to left every label keeps to one direction.
-/
namespace Courier.Domain

def marker : List Char := ['x', 'n', '-', '-']

def isForbidden (c : Char) : Bool :=
  c.toNat ≤ 0x20 || c.toNat == 0x7F || ['#', '%', '/', ':', '<', '>', '?', '@', '[', '\\', ']', '^', '|'].contains c

def foldText (name : List Char) : List Char := Unicode.normalize (name.flatMap Unicode.fold)

theorem foldText_of_isAscii (name : List Char) (h : ∀ c ∈ name, isAscii c) :
    foldText name = name.map asciiLower := by
  have folded : name.flatMap Unicode.fold = name.map asciiLower := by
    induction name with
    | nil => rfl
    | cons c rest ih =>
      simp [Unicode.fold, h c (by simp), ih fun d hd => h d (by simp [hd])]
  rw [foldText, folded]
  refine Unicode.normalize_of_isAscii _ fun c hc => ?_
  obtain ⟨d, hd, rfl⟩ := List.mem_map.mp hc
  exact isAscii_asciiLower (h d hd)

def isAllowed (c : Char) : Bool :=
  if isAscii c then !isForbidden c && !isAsciiUpper c
  else !Unicode.within excludedRanges c

def plainBound : Nat := 1000

def writtenBound : Nat := 2000

def readsBack (label : List Char) : Bool :=
  foldText label == label && Punycode.decode? (Punycode.encode label) == some label

def isValid (label : List Char) : Bool :=
  label.all isAllowed && !label.head?.any Unicode.isMark && Unicode.joinersStand [] label &&
    (label.all isAscii || (label.length ≤ plainBound && readsBack label))

def read? (written : List Char) : Option (List Char) :=
  if written.length ≤ writtenBound then
    (Punycode.decode? written).filter fun label => !label.all isAscii
  else none

def plain? (label : List Char) : Option (List Char) :=
  if marker.isPrefixOf label then if label.all isAscii then read? (label.drop 4) else none
  else some label

def write (label : List Char) : List Char :=
  if label.all isAscii then label else marker ++ Punycode.encode label

def runsFromRight (labels : List (List Char)) : Bool :=
  labels.any (·.any fun c => (Unicode.direction c).isFromRight)

def toAscii? (name : List Char) : Option (List Char) := do
  let labels := splitAt '.' (foldText name)
  let plain ← labels.mapM plain?
  if plain.all isValid && (!runsFromRight plain || plain.all Unicode.keepsDirection) then
    some (joinWith ['.'] (labels.map write))
  else none

end Courier.Domain
