import Courier.Proofs.Outcome
import Courier.Proofs.Text
import Courier.Proofs.Text.Number
import Courier.Url.Ipv6
/-! IPv6 addresses there and back. An address has eight pieces of 16 bits; it is read again whether a run
of zeros was left out or not. -/

namespace Courier.Ipv6

def isPieceDigit (c : Char) : Bool := isAsciiDigit c || ('a' ≤ c && c ≤ 'f')

theorem isPieceDigit_of_mem_lowerHex {n : Nat} : ∀ c ∈ lowerHex n, isPieceDigit c = true := by
  have digits : ∀ value < 16, isPieceDigit value.digitChar = true := by decide
  unfold lowerHex
  induction n using Nat.strongRecOn with
  | _ n ih =>
    intro c member
    rcases Nat.lt_or_ge n 16 with single | more
    · rw [Nat.toDigits_of_lt_base single, List.mem_singleton] at member
      exact member ▸ digits n single
    · rw [Nat.toDigits_of_base_le (by omega) more, List.mem_append, List.mem_singleton] at member
      rcases member with front | rfl
      · exact ih _ (Nat.div_lt_self (by omega) (by omega)) c front
      · exact digits _ (Nat.mod_lt _ (by omega))

theorem lowerHex_ne_nil (n : Nat) : lowerHex n ≠ [] := Nat.toDigits_ne_nil

theorem colon_not_mem_lowerHex (n : Nat) : ':' ∉ lowerHex n := fun member =>
  absurd (isPieceDigit_of_mem_lowerHex ':' member) (by decide)

theorem piece?_lowerHex {n : Nat} (bounded : n < 65536) : piece? (lowerHex n) = some n := by
  have short : (lowerHex n).length ≤ 4 :=
    (Nat.length_toDigits_le_iff (by omega) (by omega)).mpr (by simpa using bounded)
  rw [piece?, if_neg (by omega)]
  exact number?_toDigits (by omega) (by omega) n

theorem pieces?_map_lowerHex {pieces : List Nat} (bounded : ∀ n ∈ pieces, n < 65536) :
    pieces? (pieces.map lowerHex) = some pieces := by
  induction pieces with
  | nil => rfl
  | cons first rest ih =>
    obtain ⟨here, later⟩ := List.forall_mem_cons.mp bounded
    cases rest with
    | nil =>
      have pointless : (lowerHex first).contains '.' = false := by
        rw [List.contains_eq_mem, decide_eq_false_iff_not]
        exact fun member => absurd (isPieceDigit_of_mem_lowerHex '.' member) (by decide)
      simp only [List.map_cons, List.map_nil, pieces?, pointless, Bool.false_eq_true, ↓reduceIte,
        piece?_lowerHex here, Option.map_some]
    | cons second more =>
      have others := ih later
      simp only [List.map_cons] at others
      simp only [List.map_cons, pieces?, piece?_lowerHex here, others, Option.bind_eq_bind,
        Option.bind_some, Option.pure_def]

theorem splitAt_writePieces {pieces : List Nat} (nonempty : pieces ≠ []) :
    splitAt ':' (writePieces pieces) = pieces.map lowerHex := by
  rw [writePieces, splitAt_joinWith (by simpa using nonempty)]
  intro piece member
  obtain ⟨n, _, rfl⟩ := List.mem_map.mp member
  exact colon_not_mem_lowerHex n

def isAddressChar (c : Char) : Bool := isPieceDigit c || c = ':'

theorem isAddressChar_of_mem_writePieces {pieces : List Nat} :
    ∀ c ∈ writePieces pieces, isAddressChar c = true := by
  have all : (writePieces pieces).all isAddressChar = true := by
    rw [writePieces, all_joinWith (by decide), List.all_map, List.all_eq_true]
    intro n _
    rw [Function.comp_apply, List.all_eq_true]
    exact fun c member => by simp [isAddressChar, isPieceDigit_of_mem_lowerHex c member]
  exact List.all_eq_true.mp all

theorem isAddressChar_of_mem_write {pieces : List Nat} :
    ∀ c ∈ write pieces, isAddressChar c = true := by
  intro c member
  unfold write at member
  dsimp only at member
  split at member
  · exact isAddressChar_of_mem_writePieces c member
  · simp only [List.mem_append] at member
    rcases member with (front | gap) | back
    · exact isAddressChar_of_mem_writePieces c front
    · exact List.all_eq_true.mp (by decide : [':', ':'].all isAddressChar = true) c gap
    · exact isAddressChar_of_mem_writePieces c back

theorem exists_writePieces_eq_cons (first : Nat) (rest : List Nat) :
    ∃ c more, writePieces (first :: rest) = c :: more ∧ c ≠ ':' := by
  obtain ⟨c, digits, shown⟩ := List.exists_cons_of_ne_nil (lowerHex_ne_nil first)
  have other : c ≠ ':' := fun same => colon_not_mem_lowerHex first (by simp [shown, same])
  cases rest with
  | nil => exact ⟨c, digits, by rw [writePieces, List.map_singleton, joinWith, shown], other⟩
  | cons second more =>
    exact ⟨c, _, by simp only [writePieces, List.map_cons, joinWith, shown, List.cons_append]; rfl,
      other⟩

theorem side?_writePieces {pieces : List Nat} (bounded : ∀ n ∈ pieces, n < 65536) :
    side? (writePieces pieces) = some pieces := by
  cases pieces with
  | nil => rfl
  | cons first rest =>
    obtain ⟨c, more, shown, _⟩ := exists_writePieces_eq_cons first rest
    have given : (writePieces (first :: rest)).isEmpty = false := by rw [shown]; rfl
    rw [side?, given, splitAt_writePieces (by simp)]
    exact pieces?_map_lowerHex bounded

/-! ### The gap -/

theorem cutGap?_cons {c : Char} {rest : List Char} (single : c ≠ ':' ∨ ∀ d ∈ rest.head?, d ≠ ':') :
    cutGap? (c :: rest) = (cutGap? rest).map fun (left, right) => (c :: left, right) := by
  rw [cutGap?]
  rintro more rfl rfl
  rcases single with other | apart
  · exact other rfl
  · exact apart ':' rfl rfl

theorem cutGap?_append {piece : List Char} (clear : ':' ∉ piece) (rest : List Char) :
    cutGap? (piece ++ rest) = (cutGap? rest).map fun (left, right) => (piece ++ left, right) := by
  induction piece with
  | nil => simp
  | cons c more ih =>
    rw [List.cons_append, cutGap?_cons (Or.inl fun same => clear (by simp [same])),
      ih fun member => clear (List.mem_cons_of_mem c member), Option.map_map]
    rfl

/-- Written pieces have no gap of their own. -/
theorem cutGap?_writePieces_append (pieces : List Nat) (rest : List Char) :
    cutGap? (writePieces pieces ++ rest) =
      (cutGap? rest).map fun (left, right) => (writePieces pieces ++ left, right) := by
  induction pieces with
  | nil => simp [writePieces, joinWith]
  | cons first others ih =>
    cases others with
    | nil => exact cutGap?_append (colon_not_mem_lowerHex first) rest
    | cons second more =>
      obtain ⟨c, digits, shown, other⟩ := exists_writePieces_eq_cons second more
      have whole : writePieces (first :: second :: more) =
          lowerHex first ++ ':' :: writePieces (second :: more) := by
        simp [writePieces, joinWith]
      have apart : ∀ d ∈ (writePieces (second :: more) ++ rest).head?, d ≠ ':' := by
        rw [shown]
        simpa using other
      rw [whole, List.append_assoc, List.cons_append,
        cutGap?_append (colon_not_mem_lowerHex first), cutGap?_cons (Or.inr apart), ih,
        Option.map_map, Option.map_map]
      refine congrArg (Option.map · (cutGap? rest)) (funext fun sides => ?_)
      simp

/-- The gap that is left out is a run of zeros. -/
theorem longestGap_spec (pieces : List Nat) (start : Nat) :
    ∃ before after, pieces = before ++ (List.replicate (longestGap pieces start).2 0 ++ after) ∧
      (longestGap pieces start).1 = start + before.length := by
  induction pieces generalizing start with
  | nil => exact ⟨[], [], rfl, rfl⟩
  | cons piece rest ih =>
    obtain ⟨before, after, split, found⟩ := ih (start + 1)
    rw [longestGap]
    dsimp only
    split
    · have run : (piece :: rest).takeWhile (· = 0) =
          List.replicate (zeros (piece :: rest)) 0 :=
        List.eq_replicate_iff.mpr ⟨rfl, fun n member => by
          simpa using List.mem_takeWhile_imp member⟩
      refine ⟨[], (piece :: rest).dropWhile (· = 0), ?_, rfl⟩
      rw [← run, List.nil_append, List.takeWhile_append_dropWhile]
    · refine ⟨piece :: before, after, ?_, ?_⟩
      · rw [List.cons_append, ← split]
      · rw [found, List.length_cons]
        omega

theorem parse?_write {pieces : List Nat} (eight : pieces.length = 8)
    (bounded : ∀ n ∈ pieces, n < 65536) : parse? (write pieces) = some pieces := by
  obtain ⟨before, after, split, found⟩ := longestGap_spec pieces 0
  rw [Nat.zero_add] at found
  rw [write]
  rcases gap : longestGap pieces 0 with ⟨start, length⟩
  rw [gap] at split found
  dsimp only at split found ⊢
  split
  · have gapless : cutGap? (writePieces pieces) = none := by
      simpa [cutGap?] using cutGap?_writePieces_append pieces []
    simp only [parse?, gapless, side?_writePieces bounded, Option.bind_eq_bind, Option.bind_some,
      eight, ↓reduceIte]
  next long =>
    have left : pieces.take start = before := by rw [split, found, List.take_left]
    have right : pieces.drop (start + length) = after := by
      rw [split, ← List.append_assoc, found]
      exact List.drop_left' (by simp)
    have cut : cutGap? (writePieces before ++ [':', ':'] ++ writePieces after) =
        some (writePieces before, writePieces after) := by
      rw [List.append_assoc, cutGap?_writePieces_append]
      simp [cutGap?]
    have pointless : (writePieces before).contains '.' = false := by
      rw [List.contains_eq_mem, decide_eq_false_iff_not]
      exact fun member => absurd (isAddressChar_of_mem_writePieces '.' member) (by decide)
    have lengths : before.length + (length + after.length) = 8 := by
      rw [← eight, split]
      simp
    have zeros : 8 - before.length - after.length = length := by omega
    have front : ∀ n ∈ before, n < 65536 := fun n member => bounded n (by rw [split]; simp [member])
    have back : ∀ n ∈ after, n < 65536 := fun n member => bounded n (by rw [split]; simp [member])
    rw [left, right]
    simp only [parse?, cut, pointless, Bool.false_eq_true, ↓reduceIte, side?_writePieces front,
      side?_writePieces back, Option.bind_eq_bind, Option.bind_some, zeros]
    rw [if_pos (by omega), split, List.append_assoc]

/-! ### What is read -/

theorem piece?_lt {text : List Char} {n : Nat} (read : piece? text = some n) : n < 65536 := by
  rw [piece?, Option.ite_none_left_eq_some, number?, Option.ite_none_left_eq_some] at read
  obtain ⟨short, _, digits⟩ := read
  calc n < (0 + 1) * 16 ^ text.length := readDigits_lt digits
    _ = 16 ^ text.length := by omega
    _ ≤ 16 ^ 4 := Nat.pow_le_pow_right (by omega) (by omega)

theorem byte?_lt {text : List Char} {n : Nat} (read : byte? text = some n) : n < 256 := by
  unfold byte? at read
  split at read
  · obtain rfl := Option.some.inj read
    omega
  · cases read
  · rw [Option.ite_none_left_eq_some] at read
    simp only [Option.bind_eq_bind, Option.bind_eq_some_iff, Option.ite_none_right_eq_some,
      Bool.and_eq_true, decide_eq_true_eq, Option.some.injEq] at read
    obtain ⟨_, value, _, ⟨_, small⟩, rfl⟩ := read
    exact small

theorem dotted?_lt {text : List Char} {pieces : List Nat} (read : dotted? text = some pieces) :
    ∀ n ∈ pieces, n < 65536 := by
  simp only [dotted?, Option.bind_eq_bind, Option.bind_eq_some_iff] at read
  obtain ⟨bytes, each, read⟩ := read
  rw [Outcome.mapM_eq_some_iff] at each
  split at read
  next a b c d =>
    obtain rfl := Option.some.inj read
    have small : ∀ n ∈ [a, b, c, d], n < 256 := by
      intro n member
      obtain ⟨part, _, byte⟩ := Outcome.exists_of_mem_forall₂ each.flip member
      exact byte?_lt byte
    simp only [List.forall_mem_cons, List.not_mem_nil, false_imp_iff, implies_true,
      and_true] at small ⊢
    omega
  next => cases read

theorem pieces?_lt {texts : List (List Char)} {pieces : List Nat} (read : pieces? texts = some pieces) :
    ∀ n ∈ pieces, n < 65536 := by
  fun_induction pieces? texts generalizing pieces with
  | case1 =>
    obtain rfl := Option.some.inj read
    simp
  | case2 last pointed => exact dotted?_lt read
  | case3 last pointless =>
    obtain ⟨n, piece, rfl⟩ := Option.map_eq_some_iff.mp read
    simpa using piece?_lt piece
  | case4 first rest more ih =>
    simp only [Option.bind_eq_bind, Option.bind_eq_some_iff, Option.pure_def,
      Option.some.injEq] at read
    obtain ⟨n, piece, others, shown, rfl⟩ := read
    exact List.forall_mem_cons.mpr ⟨piece?_lt piece, ih shown⟩

theorem side?_lt {text : List Char} {pieces : List Nat} (read : side? text = some pieces) :
    ∀ n ∈ pieces, n < 65536 := by
  unfold side? at read
  split at read
  · obtain rfl := Option.some.inj read
    simp
  · exact pieces?_lt read

theorem parse?_eq_some {text : List Char} {pieces : List Nat} (parsed : parse? text = some pieces) :
    pieces.length = 8 ∧ ∀ n ∈ pieces, n < 65536 := by
  unfold parse? at parsed
  split at parsed
  · simp only [Option.bind_eq_bind, Option.bind_eq_some_iff, Option.ite_none_right_eq_some,
      Option.some.injEq] at parsed
    obtain ⟨read, shown, eight, rfl⟩ := parsed
    exact ⟨eight, side?_lt shown⟩
  · simp only [Option.bind_eq_bind, Option.ite_none_left_eq_some, Option.bind_eq_some_iff,
      Option.ite_none_right_eq_some, Option.some.injEq] at parsed
    obtain ⟨_, before, front, after, back, few, rfl⟩ := parsed
    constructor
    · simp only [List.length_append, List.length_replicate]
      omega
    · intro n member
      simp only [List.mem_append, List.mem_replicate] at member
      rcases member with (first | ⟨_, rfl⟩) | last
      · exact side?_lt front n first
      · omega
      · exact side?_lt back n last

end Courier.Ipv6
