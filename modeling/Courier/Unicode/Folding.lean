import Courier.Text.Ascii
import Courier.Text.Split
import Courier.Unicode.FoldingTable
import Courier.Unicode.Mark
/-!
Folding: a character becomes the text that stands for it in names that are compared regardless of
case and form. ASCII characters are folded by ASCII rules alone, the others by the tables.
-/
namespace Courier.Unicode

def foldingRows : Array (Nat × Array (List Char)) :=
  (FoldingTable.letterRows.map fun (first, letters) => (first, (letters.toList.map ([·])).toArray)) ++
    FoldingTable.wordRows.map fun (first, words) => (first, (splitAt ' ' words.toList).toArray)

def cell? (row : Nat × Array (List Char)) (n : Nat) : Option (List Char) :=
  if row.1 ≤ n then row.2[n - row.1]? else none

def FoldingTable.Run.move? (run : FoldingTable.Run) (n : Nat) : Option Nat :=
  if run.first ≤ n && n < run.first + run.count * run.stride && (n - run.first) % run.stride = 0
  then some (run.target + (n - run.first)) else none

def fold (c : Char) : List Char :=
  if isAscii c then [asciiLower c]
  else if within FoldingTable.ignored c then []
  else
    match FoldingTable.runs.findSome? (·.move? c.toNat) with
    | some target => [Char.ofNat target]
    | none => (foldingRows.findSome? (cell? · c.toNat)).getD [c]

end Courier.Unicode
