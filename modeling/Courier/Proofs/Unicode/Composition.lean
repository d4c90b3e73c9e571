import Courier.Proofs.Unicode.Folding
import Courier.Unicode.Composition
/-! What composing gives. A text of ideographs is composed already, and no capital of ASCII comes out of
a text without one. -/

namespace Courier.Unicode

theorem mem_of_lookup {letters joined : List Nat} {n result : Nat}
    (found : (letters.zip joined).lookup n = some result) : n ∈ letters ∧ result ∈ joined := by
  obtain ⟨before, after, split, _⟩ := List.lookup_eq_some_iff.mp found
  have pair : (n, result) ∈ letters.zip joined := by
    rw [split]
    simp
  exact List.of_mem_zip pair

def isPlainCode (n : Nat) : Bool := (n < 0x41 || 0x5A < n) && (n < 0x4E00 || 0x9FFF < n)

theorem isPlainCode_joins (row : CompositionTable.Joins) (listed : row ∈ CompositionTable.joins) :
    isPlainCode row.mark = true ∧ (∀ n ∈ row.letters, isPlainCode n = true) ∧
      ∀ n ∈ row.joined, isPlainCode n = true := by
  have table : (CompositionTable.joins.toList.all fun row => isPlainCode row.mark &&
      row.letters.all isPlainCode && row.joined.all isPlainCode) = true := by decide +kernel
  have fine := List.all_eq_true.mp table row (Array.mem_def.mp listed)
  simpa [and_assoc] using fine

theorem isAsciiUpper_of_isPlainCode {n : Nat} (plain : isPlainCode n = true) :
    isAsciiUpper (Char.ofNat n) = false := by
  simp only [isPlainCode, Bool.and_eq_true, Bool.or_eq_true, decide_eq_true_eq] at plain
  exact isAsciiUpper_ofNat plain.1

theorem not_isIdeograph_of_isPlainCode {c : Char} (plain : isPlainCode c.toNat = true) :
    ¬IsIdeograph c := by
  simp only [isPlainCode, Bool.and_eq_true, Bool.or_eq_true, decide_eq_true_eq] at plain
  unfold IsIdeograph
  omega

theorem composeKorean?_eq_some {first second joined : Nat}
    (composed : composeKorean? first second = some joined) :
    isPlainCode joined = true ∧ second < 0x4E00 := by
  simp only [isPlainCode, Bool.and_eq_true, Bool.or_eq_true, decide_eq_true_eq]
  unfold composeKorean? at composed
  split at composed
  next syllable =>
    simp only [Bool.and_eq_true, decide_eq_true_eq] at syllable
    have same := Option.some.inj composed
    omega
  · split at composed
    next syllable =>
      simp only [Bool.and_eq_true, decide_eq_true_eq] at syllable
      have same := Option.some.inj composed
      omega
    · cases composed

theorem splitKorean?_eq_some {n letter mark : Nat} (parts : splitKorean? n = some (letter, mark)) :
    isPlainCode letter = true ∧ isPlainCode mark = true ∧ 0x9FFF < n := by
  simp only [isPlainCode, Bool.and_eq_true, Bool.or_eq_true, decide_eq_true_eq]
  unfold splitKorean? at parts
  split at parts
  next syllable =>
    simp only [Bool.and_eq_true, decide_eq_true_eq] at syllable
    dsimp only at parts
    split at parts
    · obtain ⟨rfl, rfl⟩ := Prod.mk.inj (Option.some.inj parts)
      omega
    · obtain ⟨rfl, rfl⟩ := Prod.mk.inj (Option.some.inj parts)
      omega
  · cases parts

theorem compose?_eq_some {letter mark joined : Char} (composed : compose? letter mark = some joined) :
    isAsciiUpper joined = false ∧ ¬IsIdeograph mark := by
  unfold compose? at composed
  split at composed
  · cases composed
  · obtain ⟨n, code, rfl⟩ := Option.map_eq_some_iff.mp composed
    simp only [Option.orElse_eq_orElse, Option.orElse_eq_or, Option.or_eq_some_iff] at code
    rcases code with listed | ⟨_, korean⟩
    · obtain ⟨row, own, result⟩ := Option.bind_eq_some_iff.mp listed
      have same : row.mark = mark.toNat := by simpa using Array.find?_some own
      obtain ⟨marks, _, results⟩ := isPlainCode_joins _ (Array.mem_of_find?_eq_some own)
      refine ⟨isAsciiUpper_of_isPlainCode (results n (mem_of_lookup result).2), ?_⟩
      exact not_isIdeograph_of_isPlainCode (same ▸ marks)
    · obtain ⟨plain, low⟩ := composeKorean?_eq_some korean
      refine ⟨isAsciiUpper_of_isPlainCode plain, fun ideograph => ?_⟩
      have above := ideograph.1
      omega

theorem split?_eq_some {c letter mark : Char} (parts : split? c = some (letter, mark)) :
    isAsciiUpper letter = false ∧ isAsciiUpper mark = false ∧ ¬IsIdeograph c := by
  unfold split? at parts
  split at parts
  · cases parts
  · obtain ⟨⟨first, second⟩, codes, same⟩ := Option.map_eq_some_iff.mp parts
    obtain ⟨rfl, rfl⟩ := Prod.mk.inj same
    simp only [Option.orElse_eq_orElse, Option.orElse_eq_or, Option.or_eq_some_iff] at codes
    rcases codes with listed | ⟨_, korean⟩
    · obtain ⟨before, row, after, rows, found, _⟩ := Array.findSome?_eq_some_iff.mp listed
      obtain ⟨n, split, same⟩ := Option.map_eq_some_iff.mp found
      obtain ⟨rfl, rfl⟩ := Prod.mk.inj same
      obtain ⟨marks, letters, results⟩ := isPlainCode_joins row (by simp [rows])
      obtain ⟨result, letter⟩ := mem_of_lookup split
      exact ⟨isAsciiUpper_of_isPlainCode (letters _ letter), isAsciiUpper_of_isPlainCode marks,
        not_isIdeograph_of_isPlainCode (results _ result)⟩
    · obtain ⟨letters, marks, high⟩ := splitKorean?_eq_some korean
      refine ⟨isAsciiUpper_of_isPlainCode letters, isAsciiUpper_of_isPlainCode marks, ?_⟩
      intro ideograph
      have below := ideograph.2
      omega

/-! ### No capital comes out -/

theorem isAsciiUpper_of_mem_decomposeUpTo {count : Nat} {c d : Char}
    (small : isAsciiUpper c = false) (member : d ∈ decomposeUpTo count c) :
    isAsciiUpper d = false := by
  induction count generalizing c with
  | zero => exact List.mem_singleton.mp member ▸ small
  | succ count ih =>
    rw [decomposeUpTo] at member
    split at member
    next letter mark parts =>
      obtain ⟨letters, marks, _⟩ := split?_eq_some parts
      rcases List.mem_append.mp member with inside | last
      · exact ih letters inside
      · exact List.mem_singleton.mp last ▸ marks
    next => exact List.mem_singleton.mp member ▸ small

theorem mem_placeMark_iff (c d : Char) (text : List Char) :
    d ∈ placeMark c text ↔ d = c ∨ d ∈ text := by
  induction text with
  | nil => simp [placeMark]
  | cons first rest ih =>
    rw [placeMark]
    split
    · rw [List.mem_cons, ih, List.mem_cons]
      tauto
    · rw [List.mem_cons]

theorem mem_orderMarks_iff (d : Char) (text : List Char) : d ∈ orderMarks text ↔ d ∈ text := by
  induction text with
  | nil => rfl
  | cons c rest ih =>
    rw [orderMarks, List.foldr_cons, mem_placeMark_iff, ← orderMarks, ih, List.mem_cons]

theorem isAsciiUpper_of_mem_composeFrom {letter d : Char} {apart text : List Char}
    (first : isAsciiUpper letter = false) (marks : ∀ c ∈ apart, isAsciiUpper c = false)
    (others : ∀ c ∈ text, isAsciiUpper c = false) (member : d ∈ composeFrom letter apart text) :
    isAsciiUpper d = false := by
  induction text generalizing letter apart with
  | nil =>
    rcases List.mem_cons.mp member with rfl | inside
    · exact first
    · exact marks d (List.mem_reverse.mp inside)
  | cons c rest ih =>
    obtain ⟨here, later⟩ := List.forall_mem_cons.mp others
    rw [composeFrom] at member
    split at member
    next joined composed =>
      obtain ⟨_, composed⟩ := Option.ite_none_right_eq_some.mp composed
      exact ih (compose?_eq_some composed).1 marks later member
    · split at member
      · rcases List.mem_cons.mp member with rfl | inside
        · exact first
        rcases List.mem_append.mp inside with mark | more
        · exact marks d (List.mem_reverse.mp mark)
        · exact ih here (by simp) later more
      · exact ih first (List.forall_mem_cons.mpr ⟨here, marks⟩) later member

theorem isAsciiUpper_of_mem_normalize {text : List Char}
    (small : ∀ c ∈ text, isAsciiUpper c = false) :
    ∀ c ∈ normalize text, isAsciiUpper c = false := by
  have ordered : ∀ c ∈ orderMarks (text.flatMap decompose), isAsciiUpper c = false := by
    intro c member
    obtain ⟨whole, given, part⟩ := List.mem_flatMap.mp ((mem_orderMarks_iff _ _).mp member)
    exact isAsciiUpper_of_mem_decomposeUpTo (small whole given) part
  intro c member
  unfold normalize composeAll at member
  split at member
  · cases member
  next letter rest shown =>
    obtain ⟨first, others⟩ := List.forall_mem_cons.mp (shown ▸ ordered)
    exact isAsciiUpper_of_mem_composeFrom first (by simp) others member

/-! ### Ideographs are composed already -/

theorem combiningClass_of_isIdeograph {c : Char} (ideograph : IsIdeograph c) :
    combiningClass c = 0 := by
  have table : (CompositionTable.classes.toList.all fun row =>
      row.2.toList.all fun range => misses range.1 range.2) = true := by decide +kernel
  have unlisted : CompositionTable.classes.find? (within ·.2 c) = none := by
    rw [Array.find?_eq_none]
    intro row listed
    have missed := List.all_eq_true.mp table row (Array.mem_def.mp listed)
    simp [ideograph.within_eq_false missed]
  simp [combiningClass, unlisted]

theorem decompose_of_isIdeograph {c : Char} (ideograph : IsIdeograph c) : decompose c = [c] := by
  have whole : split? c = none := by
    cases parts : split? c with
    | none => rfl
    | some pair => exact absurd ideograph (split?_eq_some parts).2.2
  rw [decompose, decomposeUpTo, whole]

theorem orderMarks_of_isIdeograph (text : List Char) (ideographs : ∀ c ∈ text, IsIdeograph c) :
    orderMarks text = text := by
  induction text with
  | nil => rfl
  | cons c rest ih =>
    obtain ⟨_, later⟩ := List.forall_mem_cons.mp ideographs
    rw [orderMarks, List.foldr_cons, ← orderMarks, ih later]
    cases rest with
    | nil => rfl
    | cons d more => simp [placeMark, combiningClass_of_isIdeograph (later d (by simp))]

theorem composeFrom_of_isIdeograph (letter : Char) (text : List Char)
    (ideographs : ∀ c ∈ text, IsIdeograph c) : composeFrom letter [] text = letter :: text := by
  induction text generalizing letter with
  | nil => rfl
  | cons c rest ih =>
    obtain ⟨here, later⟩ := List.forall_mem_cons.mp ideographs
    have apart : compose? letter c = none := by
      cases composed : compose? letter c with
      | none => rfl
      | some joined => exact absurd here (compose?_eq_some composed).2
    simp [composeFrom, apart, combiningClass_of_isIdeograph here, ih c later]

theorem normalize_of_isIdeograph (text : List Char) (ideographs : ∀ c ∈ text, IsIdeograph c) :
    normalize text = text := by
  have whole : text.flatMap decompose = text := by
    induction text with
    | nil => rfl
    | cons c rest ih =>
      obtain ⟨here, later⟩ := List.forall_mem_cons.mp ideographs
      rw [List.flatMap_cons, decompose_of_isIdeograph here, ih later, List.singleton_append]
  rw [normalize, whole, orderMarks_of_isIdeograph text ideographs]
  cases text with
  | nil => rfl
  | cons letter rest =>
    exact composeFrom_of_isIdeograph letter rest (List.forall_mem_cons.mp ideographs).2

end Courier.Unicode
