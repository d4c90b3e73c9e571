import Courier.Proofs.Outcome
import Courier.Proofs.Unicode.Composition
import Courier.Proofs.Url.Punycode
import Courier.Url.Domain
/-! Host names written twice. A written name has only ASCII characters that a host may have. It is
written as it stands when it is read again, unless one of its labels became too long to be read: what
stands for a label beyond ASCII may be longer than what is read as one. -/

namespace Courier.Domain

def IsWritten (c : Char) : Prop :=
  isAscii c = true ∧ isForbidden c = false ∧ isAsciiUpper c = false

instance : DecidablePred IsWritten := fun _ => inferInstanceAs (Decidable (_ ∧ _ ∧ _))

/-- Whether a label has the marker and more characters after it than are read. -/
def IsOverlong (label : List Char) : Prop :=
  marker <+: label ∧ marker.length + writtenBound < label.length

/-! ### Characters -/

theorem isAsciiUpper_of_mem_foldText {name : List Char} :
    ∀ c ∈ foldText name, isAsciiUpper c = false := by
  refine Unicode.isAsciiUpper_of_mem_normalize fun c member => ?_
  obtain ⟨_, _, folded⟩ := List.mem_flatMap.mp member
  exact Unicode.isAsciiUpper_of_mem_fold folded

theorem isWritten_of_isDigit {c : Char} (digit : Punycode.isDigit c = true) : IsWritten c := by
  have ascii : isAscii c = true := by
    simp only [Punycode.isDigit, Bool.or_eq_true, Bool.and_eq_true, decide_eq_true_eq] at digit
    rcases digit with ⟨_, below⟩ | number
    · exact isAscii_of_le below (by decide)
    · exact isAscii_of_isAsciiDigit number
  have table : ∀ n < 128, Punycode.isDigit (Char.ofNat n) = true →
      isForbidden (Char.ofNat n) = false ∧ isAsciiUpper (Char.ofNat n) = false := by decide +kernel
  have fine := forall_isAscii (fun c => Punycode.isDigit c = true →
    isForbidden c = false ∧ isAsciiUpper c = false) table ascii digit
  exact ⟨ascii, fine⟩

theorem isForbidden_of_value? {c : Char} (ascii : isAscii c = true)
    (value : (Punycode.value? c).isSome = true) : isForbidden c = false := by
  have table : ∀ n < 128, (Punycode.value? (Char.ofNat n)).isSome = true →
      isForbidden (Char.ofNat n) = false := by decide +kernel
  exact forall_isAscii (fun c => (Punycode.value? c).isSome = true → isForbidden c = false)
    table ascii value

theorem isWritten_hyphen : IsWritten '-' := by decide +kernel

theorem isWritten_of_mem_marker : ∀ c ∈ marker, IsWritten c := by
  have table : marker.all (fun c => decide (IsWritten c)) = true := by decide +kernel
  simpa only [List.all_eq_true, decide_eq_true_eq] using table

theorem isWritten_of_isAllowed {c : Char} (allowed : isAllowed c = true) (ascii : isAscii c = true) :
    IsWritten c := by
  simp only [isAllowed, ascii, ↓reduceIte, Bool.and_eq_true, Bool.not_eq_true'] at allowed
  exact ⟨ascii, allowed⟩

theorem isWritten_of_mem_encode {label : List Char} (allowed : label.all isAllowed = true) {c : Char}
    (member : c ∈ Punycode.encode label) : IsWritten c := by
  rcases Punycode.mem_encode member with ⟨own, ascii⟩ | rfl | digit
  · exact isWritten_of_isAllowed (List.all_eq_true.mp allowed c own) ascii
  · exact isWritten_hyphen
  · exact isWritten_of_isDigit digit

/-! ### One label -/

section

variable {label plain : List Char}

theorem allowed_of_isValid (valid : isValid plain = true) : plain.all isAllowed = true := by
  simp only [isValid, Bool.and_eq_true] at valid
  exact valid.1.1.1

theorem readsBack_of_isValid (valid : isValid plain = true) (beyond : plain.all isAscii = false) :
    Punycode.decode? (Punycode.encode plain) = some plain := by
  simp only [isValid, beyond, Bool.false_or, readsBack, Bool.and_eq_true, beq_iff_eq] at valid
  exact valid.2.2.2

theorem plain?_eq_of_beyond (read : plain? label = some plain) (beyond : label.all isAscii = false) :
    plain = label := by
  simp only [plain?, beyond, Bool.false_eq_true, ↓reduceIte, Option.ite_none_left_eq_some] at read
  exact (Option.some.inj read.2).symm

theorem isWritten_of_mem_write (small : ∀ c ∈ label, isAsciiUpper c = false)
    (read : plain? label = some plain) (valid : isValid plain = true) :
    ∀ c ∈ write label, IsWritten c := by
  have allowed := allowed_of_isValid valid
  intro c member
  unfold write at member
  split at member
  next ascii =>
    have own : isAscii c = true := List.all_eq_true.mp ascii c member
    unfold plain? at read
    split at read
    next marked =>
      -- What stands after the marker is made of the characters of the plain label and digits.
      simp only [read?, Option.ite_none_right_eq_some, Option.filter_eq_some_iff] at read
      obtain ⟨_, decoded, _⟩ := read
      obtain ⟨rest, rfl⟩ := List.isPrefixOf_iff_prefix.mp marked
      rcases List.mem_append.mp member with front | back
      · exact isWritten_of_mem_marker c front
      · refine ⟨own, ?_, small c member⟩
        rcases Punycode.mem_of_decode? decoded (c := c) (by simpa [marker] using back)
          with inside | rfl | value
        · exact (isWritten_of_isAllowed (List.all_eq_true.mp allowed c inside) own).2.1
        · exact isWritten_hyphen.2.1
        · exact isForbidden_of_value? own value
    · obtain rfl := Option.some.inj read
      exact isWritten_of_isAllowed (List.all_eq_true.mp allowed c member) own
  next beyond =>
    obtain rfl := plain?_eq_of_beyond read (by simpa using beyond)
    rcases List.mem_append.mp member with front | back
    · exact isWritten_of_mem_marker c front
    · exact isWritten_of_mem_encode allowed back

theorem write_of_isAscii (ascii : label.all isAscii = true) : write label = label := by
  rw [write, if_pos ascii]

/-- A written label is read like the label, unless it is too long. -/
theorem plain?_write (read : plain? label = some plain) (valid : isValid plain = true)
    (written : ∀ c ∈ write label, IsWritten c) (short : ¬IsOverlong (write label)) :
    plain? (write label) = some plain := by
  cases ascii : label.all isAscii with
  | true => rw [write_of_isAscii ascii, read]
  | false =>
    obtain rfl := plain?_eq_of_beyond read ascii
    have all_ascii : (write plain).all isAscii = true :=
      List.all_eq_true.mpr fun c member => (written c member).1
    have shown : write plain = marker ++ Punycode.encode plain := by
      simp only [write, ascii, Bool.false_eq_true, ↓reduceIte]
    rw [shown] at all_ascii short ⊢
    have marked : marker.isPrefixOf (marker ++ Punycode.encode plain) = true :=
      List.isPrefixOf_iff_prefix.mpr (List.prefix_append _ _)
    have fits : (Punycode.encode plain).length ≤ writtenBound := by
      by_contra long
      refine short ⟨List.prefix_append _ _, ?_⟩
      rw [List.length_append]
      omega
    have rest : (marker ++ Punycode.encode plain).drop 4 = Punycode.encode plain := rfl
    simp only [plain?, marked, all_ascii, ↓reduceIte, rest, read?, if_pos fits,
      readsBack_of_isValid valid ascii]
    simp [ascii]

theorem plain?_of_isOverlong (overlong : IsOverlong label) : plain? label = none := by
  obtain ⟨⟨rest, rfl⟩, long⟩ := overlong
  have marked : marker.isPrefixOf (marker ++ rest) = true :=
    List.isPrefixOf_iff_prefix.mpr (List.prefix_append _ _)
  have after : (marker ++ rest).drop 4 = rest := rfl
  have unread : ¬rest.length ≤ writtenBound := by
    rw [List.length_append] at long
    omega
  simp only [plain?, marked, ↓reduceIte, after, read?, if_neg unread, ite_self]

end

/-! ### Whole names -/

/-- What a name becomes: the written forms of its labels, which are valid on their own and together. -/
structure Becomes (name : List Char) (labels plain : List (List Char)) (out : List Char) : Prop where
  cut : splitAt '.' (foldText name) = labels
  read : List.Forall₂ (fun label plain => plain? label = some plain) labels plain
  valid : ∀ label ∈ plain, isValid label = true
  directed : (!runsFromRight plain || plain.all Unicode.keepsDirection) = true
  written : out = joinWith ['.'] (labels.map write)

theorem toAscii?_eq_some_iff (name out : List Char) :
    toAscii? name = some out ↔ ∃ labels plain, Becomes name labels plain out := by
  simp only [toAscii?, Option.bind_eq_bind, Option.bind_eq_some_iff, Outcome.mapM_eq_some_iff,
    Option.ite_none_right_eq_some, Bool.and_eq_true, List.all_eq_true, Option.some.injEq]
  constructor
  · rintro ⟨plain, read, ⟨valid, directed⟩, rfl⟩
    exact ⟨_, plain, rfl, read, valid, by simpa using directed, rfl⟩
  · rintro ⟨labels, plain, rfl, read, valid, directed, rfl⟩
    exact ⟨plain, read, ⟨valid, by simpa using directed⟩, rfl⟩

section

variable {name out : List Char} {labels plain : List (List Char)}

theorem Becomes.label (becomes : Becomes name labels plain out) {label : List Char}
    (member : label ∈ labels) : (∀ c ∈ label, isAsciiUpper c = false) ∧ '.' ∉ label ∧
      ∃ shown, plain? label = some shown ∧ isValid shown = true := by
  obtain ⟨rfl, read, valid, _, _⟩ := becomes
  obtain ⟨shown, own, found⟩ := Outcome.exists_of_mem_forall₂ read member
  exact ⟨fun c inside => isAsciiUpper_of_mem_foldText c (mem_of_mem_splitAt member c inside),
    not_mem_of_mem_splitAt member, shown, found, valid shown own⟩

theorem Becomes.isWritten_of_mem_write (becomes : Becomes name labels plain out)
    {label : List Char} (member : label ∈ labels) : ∀ c ∈ write label, IsWritten c := by
  obtain ⟨small, _, shown, read, valid⟩ := becomes.label member
  exact Domain.isWritten_of_mem_write small read valid

theorem not_mem_write {label : List Char} (clear : '.' ∉ label) : '.' ∉ write label := by
  intro member
  unfold write at member
  split at member
  · exact clear member
  · rcases List.mem_append.mp member with front | back
    · exact absurd front (by decide)
    · rcases Punycode.mem_encode back with ⟨inside, _⟩ | mark | digit
      · exact clear inside
      · exact absurd mark (by decide)
      · exact absurd digit (by decide)

theorem Becomes.splitAt_out (becomes : Becomes name labels plain out) :
    splitAt '.' out = labels.map write := by
  have nonempty : labels ≠ [] := becomes.cut ▸ splitAt_ne_nil '.' _
  rw [becomes.written, splitAt_joinWith (by simpa using nonempty)]
  intro piece member
  obtain ⟨label, own, rfl⟩ := List.mem_map.mp member
  exact not_mem_write (becomes.label own).2.1

theorem Becomes.isWritten (becomes : Becomes name labels plain out) : ∀ c ∈ out, IsWritten c := by
  have point : ['.'].all (fun c => decide (IsWritten c)) = true := by decide +kernel
  have all : out.all (fun c => decide (IsWritten c)) = true := by
    rw [becomes.written, all_joinWith point, List.all_map, List.all_eq_true]
    intro label member
    rw [Function.comp_apply, List.all_eq_true]
    exact fun c inside => decide_eq_true (becomes.isWritten_of_mem_write member c inside)
  exact fun c member => of_decide_eq_true (List.all_eq_true.mp all c member)

theorem foldText_of_isWritten (written : ∀ c ∈ out, IsWritten c) : foldText out = out := by
  rw [foldText_of_isAscii out fun c member => (written c member).1]
  conv_rhs => rw [← List.map_id out]
  refine List.map_congr_left fun c member => ?_
  rw [asciiLower, if_neg (by simp [(written c member).2.2]), id]

/-- A written name is written as it stands when no label became too long. -/
theorem Becomes.again (becomes : Becomes name labels plain out)
    (short : ∀ label ∈ splitAt '.' out, ¬IsOverlong label) :
    Becomes out (labels.map write) plain out := by
  rw [becomes.splitAt_out, List.forall_mem_map] at short
  have twice : (labels.map write).map write = labels.map write := by
    rw [List.map_map]
    refine List.map_congr_left fun label member => ?_
    exact write_of_isAscii (List.all_eq_true.mpr fun c inside =>
      (becomes.isWritten_of_mem_write member c inside).1)
  refine ⟨?_, ?_, becomes.valid, becomes.directed, by rw [twice, becomes.written]⟩
  · rw [foldText_of_isWritten becomes.isWritten, becomes.splitAt_out]
  · rw [List.forall₂_map_left_iff]
    have valid := becomes.valid
    have written : ∀ label ∈ labels, ∀ c ∈ write label, IsWritten c :=
      fun _ member => becomes.isWritten_of_mem_write member
    have read := becomes.read
    clear becomes twice
    induction read with
    | nil => exact .nil
    | cons here _ ih =>
      rw [List.forall_mem_cons] at short valid written
      exact .cons (plain?_write here valid.1 written.1 short.1) (ih short.2 valid.2 written.2)

end

theorem isWritten_of_toAscii? {name out : List Char} (written : toAscii? name = some out) :
    ∀ c ∈ out, IsWritten c := by
  obtain ⟨labels, plain, becomes⟩ := (toAscii?_eq_some_iff _ _).mp written
  exact becomes.isWritten

theorem toAscii?_of_isOverlong {name label : List Char} (written : ∀ c ∈ name, IsWritten c)
    (member : label ∈ splitAt '.' name) (overlong : IsOverlong label) : toAscii? name = none := by
  cases again : toAscii? name with
  | none => rfl
  | some out =>
    obtain ⟨labels, plain, becomes⟩ := (toAscii?_eq_some_iff _ _).mp again
    have own : label ∈ labels := by rwa [← becomes.cut, foldText_of_isWritten written]
    obtain ⟨_, _, shown, read, _⟩ := becomes.label own
    rw [plain?_of_isOverlong overlong] at read
    cases read

/-- Writing a name twice changes nothing, or fails if a label became too long. -/
theorem toAscii?_of_toAscii? {name out : List Char} (written : toAscii? name = some out) :
    ((∀ label ∈ splitAt '.' out, ¬IsOverlong label) → toAscii? out = some out) ∧
      ((∃ label ∈ splitAt '.' out, IsOverlong label) → toAscii? out = none) := by
  obtain ⟨labels, plain, becomes⟩ := (toAscii?_eq_some_iff _ _).mp written
  constructor
  · exact fun short => (toAscii?_eq_some_iff _ _).mpr ⟨_, _, becomes.again short⟩
  · rintro ⟨label, member, overlong⟩
    exact toAscii?_of_isOverlong becomes.isWritten member overlong

/-! ### Plain names -/

theorem isMark_of_isAscii {c : Char} (ascii : isAscii c = true) : Unicode.isMark c = false := by
  have still : Unicode.within Unicode.nonspacingMarkRanges c = false :=
    Unicode.within_of_isAscii ascii (by decide +kernel)
  have spaced : Unicode.within Unicode.spacingMarkRanges c = false :=
    Unicode.within_of_isAscii ascii (by decide +kernel)
  simp only [Unicode.isMark, Unicode.isNonspacingMark, still, spaced, Bool.or_self]

theorem joinersStand_of_isAscii {before name : List Char} (ascii : ∀ c ∈ name, isAscii c = true) :
    Unicode.joinersStand before name = true := by
  induction name generalizing before with
  | nil => rfl
  | cons c rest ih =>
    obtain ⟨here, later⟩ := List.forall_mem_cons.mp ascii
    have table : ∀ n < 128, (Char.ofNat n == Unicode.nonJoiner || Char.ofNat n == Unicode.joiner) =
      false := by decide +kernel
    have other := forall_isAscii
      (fun c => (c == Unicode.nonJoiner || c == Unicode.joiner) = false) table here
    rw [Unicode.joinersStand, other, ih later]
    rfl

theorem isFromRight_of_isAscii {c : Char} (ascii : isAscii c = true) :
    (Unicode.direction c).isFromRight = false := by
  unfold Unicode.direction
  rw [if_pos ascii]
  split
  · rfl
  · split <;> rfl

/-- A name of written characters without markers is written as it stands. -/
theorem toAscii?_of_unmarked {name : List Char} (written : ∀ c ∈ name, IsWritten c)
    (unmarked : ∀ label ∈ splitAt '.' name, ¬marker <+: label) : toAscii? name = some name := by
  have inside {label : List Char} (member : label ∈ splitAt '.' name) : ∀ c ∈ label, IsWritten c :=
    fun c own => written c (mem_of_mem_splitAt member c own)
  have ascii {label : List Char} (member : label ∈ splitAt '.' name) : label.all isAscii = true :=
    List.all_eq_true.mpr fun c own => (inside member c own).1
  refine (toAscii?_eq_some_iff _ _).mpr ⟨splitAt '.' name, splitAt '.' name, ?_, ?_, ?_, ?_, ?_⟩
  · rw [foldText_of_isWritten written]
  · rw [List.forall₂_same]
    intro label member
    have plain : marker.isPrefixOf label = false := by
      rw [Bool.eq_false_iff, ne_eq, List.isPrefixOf_iff_prefix]
      exact unmarked label member
    simp only [plain?, plain, Bool.false_eq_true, ↓reduceIte]
  · intro label member
    have allowed : label.all isAllowed = true := by
      rw [List.all_eq_true]
      intro c own
      obtain ⟨low, free, small⟩ := inside member c own
      simp only [isAllowed, low, ↓reduceIte, free, small, Bool.not_false, Bool.and_self]
    have unmarked_head : label.head?.any Unicode.isMark = false := by
      cases label with
      | nil => rfl
      | cons c rest =>
        rw [List.head?_cons, Option.any_some]
        exact isMark_of_isAscii (inside member c List.mem_cons_self).1
    simp only [isValid, allowed, unmarked_head, ascii member,
      joinersStand_of_isAscii fun c own => (inside member c own).1, Bool.not_false, Bool.and_self,
      Bool.true_or]
  · have directed : runsFromRight (splitAt '.' name) = false := by
      rw [runsFromRight, List.any_eq_false]
      rintro label member right
      obtain ⟨c, own, turned⟩ := List.any_eq_true.mp right
      rw [isFromRight_of_isAscii (inside member c own).1] at turned
      cases turned
    rw [directed]
    rfl
  · have same : (splitAt '.' name).map write = splitAt '.' name := by
      conv_rhs => rw [← List.map_id (splitAt '.' name)]
      exact List.map_congr_left fun label member => write_of_isAscii (ascii member)
    rw [same, joinWith_splitAt]

/-! ### A name of ideographs -/

open Unicode (IsIdeograph)

theorem foldText_of_isIdeograph {name : List Char} (ideographs : ∀ c ∈ name, IsIdeograph c) :
    foldText name = name := by
  have folded : name.flatMap Unicode.fold = name := by
    induction name with
    | nil => rfl
    | cons c rest ih =>
      obtain ⟨here, later⟩ := List.forall_mem_cons.mp ideographs
      rw [List.flatMap_cons, Unicode.fold_of_isIdeograph here, ih later, List.singleton_append]
  rw [foldText, folded, Unicode.normalize_of_isIdeograph name ideographs]

theorem isAllowed_of_isIdeograph {c : Char} (ideograph : IsIdeograph c) : isAllowed c = true := by
  have kept : Unicode.within excludedRanges c = false :=
    ideograph.within_eq_false (by decide +kernel)
  simp only [isAllowed, ideograph.isAscii_eq_false, Bool.false_eq_true, ↓reduceIte, kept,
    Bool.not_false]

theorem isMark_of_isIdeograph {c : Char} (ideograph : IsIdeograph c) : Unicode.isMark c = false := by
  have still : Unicode.within Unicode.nonspacingMarkRanges c = false :=
    ideograph.within_eq_false (by decide +kernel)
  have spaced : Unicode.within Unicode.spacingMarkRanges c = false :=
    ideograph.within_eq_false (by decide +kernel)
  simp only [Unicode.isMark, Unicode.isNonspacingMark, still, spaced, Bool.or_self]

theorem joinersStand_of_isIdeograph {before name : List Char}
    (ideographs : ∀ c ∈ name, IsIdeograph c) : Unicode.joinersStand before name = true := by
  induction name generalizing before with
  | nil => rfl
  | cons c rest ih =>
    obtain ⟨here, later⟩ := List.forall_mem_cons.mp ideographs
    have other {d : Char} (low : d.toNat < 0x4E00) : (c == d) = false := by
      rw [beq_eq_false_iff_ne]
      rintro rfl
      exact absurd here.1 (Nat.not_le.mpr low)
    have nonJoiner : (c == Unicode.nonJoiner) = false := other (by decide)
    have joiner : (c == Unicode.joiner) = false := other (by decide)
    simp only [Unicode.joinersStand, nonJoiner, joiner, ih later, Bool.or_self, Bool.not_false,
      Bool.true_or, Bool.and_self]

theorem isFromRight_of_isIdeograph {c : Char} (ideograph : IsIdeograph c) :
    (Unicode.direction c).isFromRight = false := by
  have right : Unicode.within Unicode.rightRanges c = false :=
    ideograph.within_eq_false (by decide +kernel)
  have number : Unicode.within Unicode.arabicNumberRanges c = false :=
    ideograph.within_eq_false (by decide +kernel)
  unfold Unicode.direction
  simp only [ideograph.isAscii_eq_false, Bool.false_eq_true, ↓reduceIte, right, number]
  split
  · rfl
  · split
    · rfl
    · split
      · rfl
      · split <;> rfl

/-- A label of ideographs in rising order becomes its written form. -/
theorem toAscii?_of_ideographs {label : List Char} (nonempty : label ≠ [])
    (ideographs : ∀ c ∈ label, IsIdeograph c) (rising : Punycode.Rises label)
    (few : label.length ≤ plainBound) :
    toAscii? label = some (marker ++ Punycode.encode label) := by
  obtain ⟨first, rest, rfl⟩ := List.exists_cons_of_ne_nil nonempty
  have beyond : ∀ c ∈ first :: rest, isAscii c = false :=
    fun c member => (ideographs c member).isAscii_eq_false
  have mixed : (first :: rest).all isAscii = false := by simp [beyond first (by simp)]
  have pointless : '.' ∉ first :: rest := fun member =>
    absurd (beyond '.' member) (by decide)
  have folded := foldText_of_isIdeograph ideographs
  have cut : splitAt '.' (first :: rest) = [first :: rest] :=
    splitAt_of_clear pointless
  have unmarked : marker.isPrefixOf (first :: rest) = false := by
    have other : ('x' == first) = false := by
      rw [beq_eq_false_iff_ne]
      rintro rfl
      exact absurd (beyond 'x' (by simp)) (by decide)
    simp [marker, List.isPrefixOf, other]
  have read : plain? (first :: rest) = some (first :: rest) := by
    simp only [plain?, unmarked, Bool.false_eq_true, ↓reduceIte]
  have allowed : (first :: rest).all isAllowed = true :=
    List.all_eq_true.mpr fun c member => isAllowed_of_isIdeograph (ideographs c member)
  have back : readsBack (first :: rest) = true := by
    simp only [readsBack, folded, Punycode.decode?_encode_of_rising rising beyond few,
      BEq.rfl, Bool.and_self]
  have valid : isValid (first :: rest) = true := by
    simp only [isValid, allowed, List.head?_cons, Option.any_some,
      isMark_of_isIdeograph (ideographs first (by simp)), joinersStand_of_isIdeograph ideographs,
      mixed, decide_eq_true few, back, Bool.not_false, Bool.and_self, Bool.or_true]
  have directed : runsFromRight [first :: rest] = false := by
    rw [runsFromRight, List.any_eq_false, List.forall_mem_singleton, List.any_eq_true]
    rintro ⟨c, member, right⟩
    rw [isFromRight_of_isIdeograph (ideographs c member)] at right
    cases right
  refine (toAscii?_eq_some_iff _ _).mpr ⟨[first :: rest], [first :: rest], ?_, ?_, ?_, ?_, ?_⟩
  · rw [folded, cut]
  · exact .cons read .nil
  · simpa using valid
  · simp only [directed, Bool.not_false, Bool.true_or]
  · simp only [List.map_cons, List.map_nil, joinWith, write, mixed, Bool.false_eq_true, ↓reduceIte]

end Courier.Domain
