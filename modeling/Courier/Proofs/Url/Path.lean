import Courier.Proofs.Text
import Courier.Proofs.Url.Percent
import Courier.Url.Parser
/-! Paths read again. The segments of a path that was read have no slashes, are encoded, and are no dot
segments; so the path is resolved already. -/

namespace Courier.Url

open Percent (IsKept)

structure IsSegment (segment : List Char) : Prop where
  kept : ∀ c ∈ segment, IsKept Percent.inPath c
  slashless : ∀ c ∈ segment, isSlash c = false
  undouble : isDoubleDot segment = false
  unsingle : isSingleDot segment = false

/-! ### Dot segments -/

def escapesPoints : List Char → Bool
  | [] => true
  | '%' :: rest => ['2', 'e'].isPrefixOf rest && escapesPoints rest
  | _ :: rest => escapesPoints rest

theorem asciiLower_upperHexDigit : ∀ value < 16,
    (asciiLower (upperHexDigit value) = '2' → value = 2) ∧
      (asciiLower (upperHexDigit value) = 'e' → value = 14) := by decide

/-- The first byte of a character is that of a point only for the point. -/
theorem eq_point_of_encodeChar {c : Char} {b : UInt8} {rest : List UInt8}
    (bytes : Utf8.encodeChar c = b :: rest) (value : b.toNat = 0x2E) : c = '.' := by
  rw [Utf8.encodeChar_eq] at bytes
  have range := Utf8.range_toNat c
  split at bytes
  · obtain ⟨rfl, _⟩ := List.cons.inj bytes
    rw [Utf8.toNat_byte (by omega)] at value
    rw [← Char.ofNat_toNat c, value]
  split at bytes
  · obtain ⟨rfl, _⟩ := List.cons.inj bytes
    rw [Utf8.toNat_byte (by omega)] at value
    omega
  split at bytes
  · obtain ⟨rfl, _⟩ := List.cons.inj bytes
    rw [Utf8.toNat_byte (by omega)] at value
    omega
  · obtain ⟨rfl, _⟩ := List.cons.inj bytes
    rw [Utf8.toNat_byte (by omega)] at value
    omega

theorem encodeChar_ne_nil (c : Char) : Utf8.encodeChar c ≠ [] := by
  rw [Utf8.encodeChar_eq]
  split
  · simp
  · split
    · simp
    · split <;> simp

/-- Nothing was encoded in a segment that comes out with no percent signs but those for points. -/
theorem isKept_of_escapesPoints {segment : List Char}
    (points : escapesPoints ((Percent.encode Percent.inPath segment).map asciiLower) = true) :
    ∀ c ∈ segment, IsKept Percent.inPath c := by
  induction segment with
  | nil => simp
  | cons c rest ih =>
    rw [Percent.encode, List.flatMap_cons, ← Percent.encode, Percent.encodeChar] at points
    split at points
    · exfalso
      next encoded =>
      obtain ⟨b, more, bytes⟩ := List.exists_cons_of_ne_nil (encodeChar_ne_nil c)
      have bound : b.toNat < 256 := b.toNat_lt
      rw [bytes, List.flatMap_cons, Percent.encodeByte] at points
      have sign : asciiLower '%' = '%' := by decide
      simp only [List.cons_append, List.nil_append, List.map_cons, sign, escapesPoints,
        List.isPrefixOf, Bool.and_eq_true, beq_iff_eq] at points
      have high := (asciiLower_upperHexDigit _ (by omega)).1 points.1.1.symm
      have low := (asciiLower_upperHexDigit _ (by omega)).2 points.1.2.1.symm
      obtain rfl := eq_point_of_encodeChar bytes (by omega)
      exact absurd encoded (by decide)
    next plain =>
      have kept : IsKept Percent.inPath c := by simpa [IsKept, and_comm] using plain
      have later : escapesPoints
          ((Percent.encode Percent.inPath rest).map asciiLower) = true := by
        rw [List.singleton_append, List.map_cons] at points
        unfold escapesPoints at points
        split at points
        next same => cases same
        next same =>
          obtain ⟨_, rfl⟩ := List.cons.inj same
          exact (Bool.and_eq_true _ _ ▸ points).2
        next same =>
          obtain ⟨_, rfl⟩ := List.cons.inj same
          exact points
      exact List.forall_mem_cons.mpr ⟨kept, ih later⟩

theorem escapesPoints_of_isDoubleDot {segment : List Char} (dots : isDoubleDot segment = true) :
    escapesPoints (segment.map asciiLower) = true := by
  have table : [['.', '.'], ['.', '%', '2', 'e'], ['%', '2', 'e', '.'],
      ['%', '2', 'e', '%', '2', 'e']].all escapesPoints = true := by decide
  exact List.all_eq_true.mp table _ (List.contains_iff_mem.mp dots)

theorem escapesPoints_of_isSingleDot {segment : List Char} (dot : isSingleDot segment = true) :
    escapesPoints (segment.map asciiLower) = true := by
  have table : [['.'], ['%', '2', 'e']].all escapesPoints = true := by decide
  exact List.all_eq_true.mp table _ (List.contains_iff_mem.mp dot)

theorem isSlash_of_mem_encode {segment : List Char} (slashless : ∀ c ∈ segment, isSlash c = false) :
    ∀ c ∈ Percent.encode Percent.inPath segment, isSlash c = false := by
  have digits : ∀ value < 16, isSlash (upperHexDigit value) = false := by decide
  intro c member
  obtain ⟨d, own, inside⟩ := List.mem_flatMap.mp member
  unfold Percent.encodeChar at inside
  split at inside
  · obtain ⟨b, _, digit⟩ := List.mem_flatMap.mp inside
    have bound : b.toNat < 256 := b.toNat_lt
    simp only [Percent.encodeByte, List.mem_cons, List.not_mem_nil, or_false] at digit
    rcases digit with rfl | rfl | rfl
    · decide
    · exact digits _ (by omega)
    · exact digits _ (by omega)
  · exact List.mem_singleton.mp inside ▸ slashless d own

theorem isSegment_encode {segment : List Char} (slashless : ∀ c ∈ segment, isSlash c = false)
    (undouble : isDoubleDot segment = false) (unsingle : isSingleDot segment = false) :
    IsSegment (Percent.encode Percent.inPath segment) := by
  have stays (points : escapesPoints ((Percent.encode Percent.inPath segment).map asciiLower) = true) :
      Percent.encode Percent.inPath segment = segment :=
    Percent.encode_of_isKept (isKept_of_escapesPoints points)
  refine ⟨Percent.isKept_of_mem_encode Percent.spares_inPath, isSlash_of_mem_encode slashless, ?_, ?_⟩
  · cases dots : isDoubleDot (Percent.encode Percent.inPath segment) with
    | false => rfl
    | true =>
      rw [stays (escapesPoints_of_isDoubleDot dots), undouble] at dots
      cases dots
  · cases dot : isSingleDot (Percent.encode Percent.inPath segment) with
    | false => rfl
    | true =>
      rw [stays (escapesPoints_of_isSingleDot dot), unsingle] at dot
      cases dot

theorem isSegment_nil : IsSegment [] := ⟨by simp, by simp, by decide, by decide⟩

/-! ### Resolving -/

theorem isSegment_of_mem_resolve {segments done : List (List Char)}
    (slashless : ∀ segment ∈ segments, ∀ c ∈ segment, isSlash c = false)
    (resolved : ∀ segment ∈ done, IsSegment segment) :
    ∀ segment ∈ resolve segments done, IsSegment segment := by
  induction segments generalizing done with
  | nil => exact fun segment member => resolved segment (List.mem_reverse.mp member)
  | cons first rest ih =>
    obtain ⟨here, later⟩ := List.forall_mem_cons.mp slashless
    have kept : ∀ segment ∈
        (if isDoubleDot first then dropSegment done
          else if isSingleDot first then done
          else Percent.encode Percent.inPath first :: done), IsSegment segment := by
      intro segment member
      split at member
      · unfold dropSegment at member
        split at member
        · cases member
        · split at member
          · exact resolved segment member
          · exact resolved segment (List.mem_cons_of_mem _ member)
      next undouble =>
        split at member
        · exact resolved segment member
        next unsingle =>
          rcases List.mem_cons.mp member with rfl | old
          · exact isSegment_encode here (by simpa using undouble) (by simpa using unsingle)
          · exact resolved segment old
    intro segment member
    rw [resolve] at member
    split at member
    · rcases List.mem_cons.mp (List.mem_reverse.mp member) with rfl | old
      · exact isSegment_nil
      · exact kept segment old
    · exact ih later kept segment member

theorem resolve_ne_nil {segments done : List (List Char)} (given : segments ≠ [] ∨ done ≠ []) :
    resolve segments done ≠ [] := by
  induction segments generalizing done with
  | nil => simpa [resolve] using given
  | cons first rest ih =>
    rw [resolve]
    split
    · simp
    next goes_on =>
      cases rest with
      | cons second more => exact ih (Or.inl (by simp))
      | nil =>
        -- The last segment is no dot segment here, so it is kept.
        have ends : isDoubleDot first = false ∧ isSingleDot first = false := by
          simpa using goes_on
        refine ih (Or.inr ?_)
        simp [ends]

theorem resolve_of_isSegment {segments done : List (List Char)}
    (read : ∀ segment ∈ segments, IsSegment segment) :
    resolve segments done = done.reverse ++ segments := by
  induction segments generalizing done with
  | nil => simp [resolve]
  | cons first rest ih =>
    obtain ⟨here, later⟩ := List.forall_mem_cons.mp read
    rw [resolve, here.undouble, here.unsingle, Percent.encode_of_isKept here.kept]
    simp [ih later]

/-! ### Whole paths -/

def IsReadPath (path : UrlPath) : Prop :=
  ∃ segments, path = .rooted (segments.map String.ofList) ∧ segments ≠ [] ∧
    ∀ segment ∈ segments, IsSegment segment

theorem isReadPath_readPath (text : List Char) : IsReadPath (readPath .special text) := by
  have clear : ∀ c ∈ text.map (slashed .special), c ≠ '\\' := by
    intro c member
    obtain ⟨d, _, rfl⟩ := List.mem_map.mp member
    unfold slashed
    split
    · decide
    next other => simpa using other
  have path (rest : List Char) (clear : ∀ c ∈ rest, c ≠ '\\') :
      IsReadPath (.rooted ((resolve (splitAt '/' rest) []).map String.ofList)) := by
    refine ⟨_, rfl, resolve_ne_nil (Or.inl (splitAt_ne_nil '/' rest)), ?_⟩
    refine isSegment_of_mem_resolve (fun segment member c own => ?_) (by simp)
    have slash : c ≠ '/' := fun same => not_mem_of_mem_splitAt member (same ▸ own)
    have back : c ≠ '\\' := clear c (mem_of_mem_splitAt member c own)
    simp [isSlash, slash, back]
  unfold readPath
  dsimp only
  split
  next rest shown => exact path rest fun c member => clear c (by rw [shown]; simp [member])
  next impossible _ => cases impossible
  next => exact path _ clear

theorem toList_text_rooted (segments : List (List Char)) :
    (UrlPath.rooted (segments.map String.ofList)).text.toList = segments.flatMap ('/' :: ·) := by
  simp [UrlPath.text, List.flatMap_map]

theorem flatMap_slash {segments : List (List Char)} (nonempty : segments ≠ []) :
    segments.flatMap ('/' :: ·) = '/' :: joinWith ['/'] segments := by
  fun_induction joinWith ['/'] segments with
  | case1 => exact absurd rfl nonempty
  | case2 segment => simp
  | case3 segment rest more ih =>
    rw [List.flatMap_cons, ih (by simpa using more)]
    simp

theorem mem_text_of_isReadPath {path : UrlPath} (read : IsReadPath path) :
    ∀ c ∈ path.text.toList, IsKept Percent.inPath c ∧ c ≠ '\\' := by
  obtain ⟨segments, rfl, _, all⟩ := read
  intro c member
  rw [toList_text_rooted] at member
  obtain ⟨segment, own, inside⟩ := List.mem_flatMap.mp member
  rcases List.mem_cons.mp inside with rfl | inside
  · exact ⟨⟨by decide, by decide⟩, by decide⟩
  · refine ⟨(all segment own).kept c inside, ?_⟩
    rintro rfl
    exact absurd ((all segment own).slashless '\\' inside) (by decide)

theorem head?_text_of_isReadPath {path : UrlPath} (read : IsReadPath path) :
    path.text.toList.head? = some '/' := by
  obtain ⟨segments, rfl, nonempty, _⟩ := read
  rw [toList_text_rooted, flatMap_slash nonempty, List.head?_cons]

theorem readPath_text {path : UrlPath} (read : IsReadPath path) :
    readPath .special path.text.toList = path := by
  have plain : path.text.toList.map (slashed .special) = path.text.toList := by
    conv_rhs => rw [← List.map_id path.text.toList]
    refine List.map_congr_left fun c member => ?_
    simp [slashed, (mem_text_of_isReadPath read c member).2]
  obtain ⟨segments, rfl, nonempty, all⟩ := read
  have cut : splitAt '/' (joinWith ['/'] segments) = segments := by
    refine splitAt_joinWith nonempty fun segment member slash => ?_
    exact absurd ((all segment member).slashless '/' slash) (by decide)
  unfold readPath
  rw [plain, toList_text_rooted, flatMap_slash nonempty]
  simp only [cut, resolve_of_isSegment all, List.reverse_nil, List.nil_append]

end Courier.Url
