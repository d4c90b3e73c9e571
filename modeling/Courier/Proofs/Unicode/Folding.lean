import Courier.Proofs.Text
import Courier.Unicode.Folding
/-! What folding gives. No capital of ASCII comes out of it, and the ideographs that stand together in
one long range come out as they are. -/

namespace Courier.Unicode

def IsIdeograph (c : Char) : Prop := 0x4E00 ≤ c.toNat ∧ c.toNat ≤ 0x9FFF

def misses (first last : Nat) : Bool := last < 0x4E00 || 0x9FFF < first

theorem IsIdeograph.outside {c : Char} (ideograph : IsIdeograph c) {first last : Nat}
    (missed : misses first last = true) : ¬(first ≤ c.toNat ∧ c.toNat ≤ last) := by
  obtain ⟨above, below⟩ := ideograph
  simp only [misses, Bool.or_eq_true, decide_eq_true_eq] at missed
  omega

theorem IsIdeograph.isAscii_eq_false {c : Char} (ideograph : IsIdeograph c) : isAscii c = false := by
  have above := ideograph.1
  simp only [isAscii, decide_eq_false_iff_not]
  omega

theorem within_eq_false {ranges : Array (Nat × Nat)} {c : Char}
    (outside : ∀ range ∈ ranges.toList, ¬(range.1 ≤ c.toNat ∧ c.toNat ≤ range.2)) :
    within ranges c = false := by
  rw [within, Array.any_eq_false']
  rintro ⟨first, last⟩ member
  simpa using outside (first, last) (Array.mem_def.mp member)

theorem IsIdeograph.within_eq_false {c : Char} (ideograph : IsIdeograph c)
    {ranges : Array (Nat × Nat)}
    (missed : (ranges.toList.all fun (first, last) => misses first last) = true) :
    within ranges c = false :=
  Unicode.within_eq_false fun range member =>
    ideograph.outside (List.all_eq_true.mp missed range member)

theorem within_of_isAscii {c : Char} (ascii : isAscii c = true) {ranges : Array (Nat × Nat)}
    (beyond : (ranges.toList.all fun range => 0x80 ≤ range.1) = true) : within ranges c = false := by
  refine within_eq_false fun range member => ?_
  have above : 0x80 ≤ range.1 := by simpa using List.all_eq_true.mp beyond range member
  have below : c.toNat < 0x80 := by simpa [isAscii] using ascii
  omega

/-! ### The rows -/

/-- Whether a row has no capital of ASCII and does not cover an ideograph. A row of words has at most
one word more than it has characters. -/
def isPlainRow (first : Nat) (text : List Char) : Bool :=
  text.all (!isAsciiUpper ·) && misses first (first + text.length)

theorem isPlainRow_ofList {first : Nat} {text : List Char} (plain : isPlainRow first text = true) :
    isPlainRow first (String.ofList text).toList = true := by
  rwa [String.toList_ofList]

set_option maxRecDepth 100000 in
theorem isPlainRow_letterRows :
    ∀ row ∈ FoldingTable.letterRows, isPlainRow row.1 row.2.toList = true := by
  simp only [FoldingTable.letterRows, List.mem_toArray, List.forall_mem_cons]
  and_intros
  all_goals first | exact isPlainRow_ofList (by decide +kernel) | simp

set_option maxRecDepth 100000 in
theorem isPlainRow_wordRows :
    ∀ row ∈ FoldingTable.wordRows, isPlainRow row.1 row.2.toList = true := by
  simp only [FoldingTable.wordRows, List.mem_toArray, List.forall_mem_cons]
  and_intros
  all_goals first | exact isPlainRow_ofList (by decide +kernel) | simp

theorem cell_of_row {first n : Nat} {text : List Char} {cells : List (List Char)} {cell : List Char}
    (plain : isPlainRow first text = true) (inside : ∀ part ∈ cells, ∀ c ∈ part, c ∈ text)
    (few : cells.length ≤ text.length + 1) (found : cell? (first, cells.toArray) n = some cell) :
    (∀ c ∈ cell, isAsciiUpper c = false) ∧ ¬(0x4E00 ≤ n ∧ n ≤ 0x9FFF) := by
  simp only [isPlainRow, misses, Bool.and_eq_true, List.all_eq_true, Bool.not_eq_true',
    Bool.or_eq_true, decide_eq_true_eq] at plain
  simp only [cell?, List.getElem?_toArray, Option.ite_none_right_eq_some] at found
  obtain ⟨reached, found⟩ := found
  obtain ⟨short, rfl⟩ := List.getElem?_eq_some_iff.mp found
  constructor
  · intro c member
    exact plain.1 c (inside _ (List.getElem_mem short) c member)
  · omega

theorem cell_of_foldingRows {row : Nat × Array (List Char)} (member : row ∈ foldingRows) {n : Nat}
    {cell : List Char} (found : cell? row n = some cell) :
    (∀ c ∈ cell, isAsciiUpper c = false) ∧ ¬(0x4E00 ≤ n ∧ n ≤ 0x9FFF) := by
  simp only [foldingRows, Array.mem_append, Array.mem_map] at member
  rcases member with ⟨⟨first, letters⟩, own, rfl⟩ | ⟨⟨first, words⟩, own, rfl⟩
  · refine cell_of_row (isPlainRow_letterRows _ own) ?_ (by simp) found
    intro part given c inside
    obtain ⟨d, letter, rfl⟩ := List.mem_map.mp given
    exact List.mem_singleton.mp inside ▸ letter
  · exact cell_of_row (isPlainRow_wordRows _ own) (fun _ => mem_of_mem_splitAt)
      (length_splitAt_le _ _) found

/-! ### One character -/

theorem isAsciiUpper_iff (c : Char) : isAsciiUpper c = true ↔ 0x41 ≤ c.toNat ∧ c.toNat ≤ 0x5A := by
  simp [isAsciiUpper, Char.le_def, UInt32.le_iff_toNat_le]

theorem toNat_ofNat (n : Nat) : (Char.ofNat n).toNat = n ∨ (Char.ofNat n).toNat = 0 := by
  by_cases valid : n.isValidChar
  · left
    rw [Char.ofNat, dif_pos valid]
    rfl
  · right
    rw [Char.ofNat, dif_neg valid]
    rfl

theorem isAsciiUpper_ofNat {n : Nat} (other : n < 0x41 ∨ 0x5A < n) :
    isAsciiUpper (Char.ofNat n) = false := by
  rw [Bool.eq_false_iff, ne_eq, isAsciiUpper_iff]
  rcases toNat_ofNat n with same | zero <;> omega

theorem move?_eq_some {run : FoldingTable.Run} (listed : run ∈ FoldingTable.runs) {n target : Nat}
    (moved : run.move? n = some target) :
    (target < 0x41 ∨ 0x5A < target) ∧ ¬(0x4E00 ≤ n ∧ n ≤ 0x9FFF) := by
  have table : (FoldingTable.runs.toList.all fun run =>
      (run.target + run.count * run.stride < 0x41 || 0x5A < run.target) &&
        misses run.first (run.first + run.count * run.stride)) = true := by decide +kernel
  have row := List.all_eq_true.mp table run (Array.mem_def.mp listed)
  simp only [misses, Bool.and_eq_true, Bool.or_eq_true, decide_eq_true_eq] at row
  simp only [FoldingTable.Run.move?, Option.ite_none_right_eq_some, Bool.and_eq_true,
    decide_eq_true_eq] at moved
  obtain ⟨⟨⟨above, below⟩, _⟩, same⟩ := moved
  have offset := Option.some.inj same
  omega

/-- No capital of ASCII comes out of folding. -/
theorem isAsciiUpper_of_mem_fold {c d : Char} (member : d ∈ fold c) : isAsciiUpper d = false := by
  unfold fold at member
  split at member
  · rw [List.mem_singleton.mp member, Bool.eq_false_iff, ne_eq, isAsciiUpper_iff]
    unfold asciiLower
    split
    next upper =>
      have range := (isAsciiUpper_iff c).mp upper
      rcases toNat_ofNat (c.toNat + 32) with same | zero <;> omega
    next other => exact mt (isAsciiUpper_iff c).mpr other
  next beyond =>
    split at member
    · cases member
    split at member
    next target moved =>
      rw [Array.findSome?_eq_some_iff] at moved
      obtain ⟨before, run, after, runs, moved, _⟩ := moved
      rw [List.mem_singleton.mp member]
      exact isAsciiUpper_ofNat (move?_eq_some (by simp [runs]) moved).1
    next =>
      cases found : foldingRows.findSome? (cell? · c.toNat) with
      | none =>
        rw [found, Option.getD_none, List.mem_singleton] at member
        rw [member, Bool.eq_false_iff, ne_eq, isAsciiUpper_iff]
        simp only [isAscii, decide_eq_true_eq] at beyond
        omega
      | some cell =>
        rw [found, Option.getD_some] at member
        rw [Array.findSome?_eq_some_iff] at found
        obtain ⟨before, row, after, rows, found, _⟩ := found
        exact (cell_of_foldingRows (by simp [rows]) found).1 d member

theorem fold_of_isIdeograph {c : Char} (ideograph : IsIdeograph c) : fold c = [c] := by
  have kept : within FoldingTable.ignored c = false :=
    ideograph.within_eq_false (by decide +kernel)
  have still : FoldingTable.runs.findSome? (·.move? c.toNat) = none := by
    rw [Array.findSome?_eq_none_iff]
    intro run listed
    cases moved : run.move? c.toNat with
    | none => rfl
    | some target => exact absurd ideograph (move?_eq_some listed moved).2
  have unlisted : foldingRows.findSome? (cell? · c.toNat) = none := by
    rw [Array.findSome?_eq_none_iff]
    intro row listed
    cases found : cell? row c.toNat with
    | none => rfl
    | some cell => exact absurd ideograph (cell_of_foldingRows listed found).2
  simp only [fold, ideograph.isAscii_eq_false, kept, still, unlisted, Bool.false_eq_true,
    ↓reduceIte, Option.getD_none]

end Courier.Unicode
