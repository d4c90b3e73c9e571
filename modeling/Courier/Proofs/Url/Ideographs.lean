import Courier.Proofs.Url.Again
import Mathlib.Data.List.Range
/-! URLs that can be read but not read again. A label of ideographs in rising order is written with
three digits for each of them when they are far apart, and then fewer of them than a label may have
make its written form too long. -/

namespace Courier

open Unicode (IsIdeograph)

namespace Url

theorem isInk_of_isIdeograph {c : Char} (ideograph : IsIdeograph c) : IsInk c := by
  obtain ⟨above, below⟩ := ideograph
  refine ⟨?_, ?_, ?_⟩
  · simp only [isBlank, Bool.or_eq_false_iff, Bool.and_eq_false_iff, decide_eq_false_iff_not,
      beq_eq_false_iff_ne]
    omega
  · simp only [isEdge, decide_eq_false_iff_not]
    omega
  · simp only [isBreak, Bool.or_eq_false_iff, decide_eq_false_iff_not]
    refine ⟨⟨?_, ?_⟩, ?_⟩ <;> rintro rfl <;> revert above <;> decide

section

variable {label : List Char} (ideographs : ∀ c ∈ label, IsIdeograph c)

include ideographs

theorem ne_of_mem_ideographs {c d : Char} (member : c ∈ label) (ascii : isAscii d = true) : c ≠ d := by
  rintro rfl
  exact absurd ((ideographs c member).isAscii_eq_false.symm.trans ascii) (by decide)

theorem splitAt_written :
    splitAt '.' (Domain.marker ++ Punycode.encode label) =
      [Domain.marker ++ Punycode.encode label] := by
  have pointless : '.' ∉ Punycode.encode label := fun member => by
    rcases Punycode.mem_encode member with ⟨own, _⟩ | mark | digit
    · exact ne_of_mem_ideographs ideographs own (by decide) rfl
    · exact absurd mark (by decide)
    · exact absurd digit (by decide)
  exact splitAt_of_clear (by simpa [Domain.marker] using pointless)

theorem endsInNumber_written :
    Ipv4.endsInNumber (Domain.marker ++ Punycode.encode label) = false := by
  have single : Ipv4.labels (Domain.marker ++ Punycode.encode label) =
      [Domain.marker ++ Punycode.encode label] := by
    simp [Ipv4.labels, splitAt_written ideographs]
  have letter : isAsciiDigit 'x' = false ∧ digitValue? 'x' = none := by decide
  rw [Ipv4.endsInNumber, single]
  simp [Domain.marker, Ipv4.number?, readDigits, letter]

theorem readHost_of_ideographs (nonempty : label ≠ []) (rising : Punycode.Rises label)
    (few : label.length ≤ Domain.plainBound) :
    readHost label =
      .ok (.domain (String.ofList (Domain.marker ++ Punycode.encode label))) := by
  have clear : '%' ∉ label := fun member =>
    ne_of_mem_ideographs ideographs member (by decide) rfl
  have named : (Utf8.decode? (Percent.decode label) >>= Domain.toAscii?) =
      some (Domain.marker ++ Punycode.encode label) := by
    rw [Percent.decode_of_clear clear, Utf8.decode?_encode]
    exact Domain.toAscii?_of_ideographs nonempty ideographs rising few
  have number := endsInNumber_written ideographs
  unfold readHost
  split
  · exact absurd rfl (ne_of_mem_ideographs ideographs (by simp : '[' ∈ _) (by decide))
  · rw [named]
    simp only [Domain.marker, List.cons_append] at number ⊢
    simp only [number, Bool.false_eq_true, ↓reduceIte]

end

def ofLabel (label : List Char) : Url where
  scheme := "http"
  host := some (.domain (String.ofList (Domain.marker ++ Punycode.encode label)))
  path := .rooted [""]

def shown (label : List Char) : List Char :=
  ['h', 't', 't', 'p', ':', '/', '/'] ++ (label ++ ['/'])

theorem parseUrl_shown {label : List Char} (nonempty : label ≠ [])
    (ideographs : ∀ c ∈ label, IsIdeograph c) (rising : Punycode.Rises label)
    (few : label.length ≤ Domain.plainBound) :
    Request.parseUrl (String.ofList (shown label)) = .ok (ofLabel label) := by
  have other {c d : Char} (member : c ∈ label) (ascii : isAscii d = true) : c ≠ d :=
    ne_of_mem_ideographs ideographs member ascii
  have ink : ∀ c ∈ shown label, IsInk c := by
    intro c member
    rcases List.mem_append.mp member with front | inside
    · have table : ['h', 't', 't', 'p', ':', '/', '/'].all (fun c => decide (IsInk c)) = true := by
        decide +kernel
      exact of_decide_eq_true (List.all_eq_true.mp table c front)
    · rcases List.mem_append.mp inside with own | slash
      · exact isInk_of_isIdeograph (ideographs c own)
      · rw [List.mem_singleton.mp slash]
        decide +kernel
  have parts : shown label =
      ['h', 't', 't', 'p'] ++ ':' :: '/' :: '/' :: (userPart none ++ (label ++ []) ++ ['/']) := by
    simp [shown, userPart]
  obtain ⟨trimmed, cleaned⟩ := clean_of_isInk ink
  have inside : ∀ c ∈ userPart none ++ (label ++ []), endsAuthority .special c = false := by
    intro c member
    have own : c ∈ label := by simpa [userPart] using member
    have free : c ≠ '/' ∧ c ≠ '?' ∧ c ≠ '#' ∧ c ≠ '\\' :=
      ⟨other own (by decide), other own (by decide), other own (by decide), other own (by decide)⟩
    simp [endsAuthority, free]
  have cut : cutHost false (label ++ []) = (label, []) :=
    cutHost_append (fun colon => other colon (by decide) rfl)
      (Strict.openAfter_of_plain fun c member => ⟨other member (by decide), other member (by decide)⟩)
      (by simp)
  have last : '@' ∉ label ++ [] := fun member => other (by simpa using member) (by decide) rfl
  rw [parts] at trimmed cleaned
  refine (Request.parseUrl_eq_ok_iff _ _).mpr ⟨?_, Or.inl rfl, _, rfl⟩
  rw [String.toList_ofList, parts, parse_of_parts (Or.inl rfl) (by rw [trimmed, cleaned]) inside
    (by simp [endsAuthority]) nonempty cut last, readHost_of_ideographs ideographs nonempty rising few]
  rfl

theorem rises_of_sparse {label : List Char}
    (sparse : List.IsChain (fun earlier later => earlier + 26 ≤ later) (label.map Char.toNat)) :
    Punycode.Rises label := by
  have chain : List.IsChain (· < ·) (label.map Char.toNat) := sparse.imp fun _ _ gap => by omega
  exact List.pairwise_map.mp (List.isChain_iff_pairwise.mp chain)

/-- Far enough apart, ideographs make a written form that is too long. -/
theorem isOverlong_of_sparse {label : List Char} (ideographs : ∀ c ∈ label, IsIdeograph c)
    (sparse : List.IsChain (fun earlier later => earlier + 26 ≤ later) (label.map Char.toNat))
    (many : 701 < label.length) : (ofLabel label).IsOverlong := by
  have beyond : ∀ c ∈ label, isAscii c = false := fun c member =>
    (ideographs c member).isAscii_eq_false
  have started : List.IsChain (fun earlier later => earlier + 26 ≤ later)
      (128 :: label.map Char.toNat) := by
    obtain ⟨first, rest, rfl⟩ : ∃ first rest, label = first :: rest :=
      List.exists_cons_of_length_pos (by omega)
    have above := (ideographs first (by simp)).1
    exact List.isChain_cons_cons.mpr ⟨by omega, sparse⟩
  have long := Punycode.length_distances_of_sparse 72 0 started
  rw [← Punycode.encode_of_rising (rises_of_sparse sparse) beyond] at long
  refine ⟨_, rfl, _, rfl, Domain.marker ++ Punycode.encode label, ?_, List.prefix_append _ _, ?_⟩
  · rw [String.toList_ofList, splitAt_written ideographs]
    exact List.mem_singleton_self _
  · rw [List.length_append, Domain.writtenBound]
    omega

def ladder (rungs : Nat) : List Char := (List.range rungs).map fun i => Char.ofNat (0x4E00 + 26 * i)

section

variable {rungs : Nat} (few : rungs ≤ 800)

include few

theorem codes_ladder : (ladder rungs).map Char.toNat = (List.range rungs).map (0x4E00 + 26 * ·) := by
  rw [ladder, List.map_map]
  refine List.map_congr_left fun i member => ?_
  have bounded : i < rungs := List.mem_range.mp member
  have valid : (0x4E00 + 26 * i).isValidChar := Or.inl (by omega)
  rw [Function.comp_apply, Char.ofNat, dif_pos valid]
  rfl

theorem isIdeograph_of_mem_ladder : ∀ c ∈ ladder rungs, IsIdeograph c := by
  intro c member
  have code : c.toNat ∈ (ladder rungs).map Char.toNat := List.mem_map_of_mem member
  rw [codes_ladder few] at code
  obtain ⟨i, own, same⟩ := List.mem_map.mp code
  have bounded : i < rungs := List.mem_range.mp own
  unfold IsIdeograph
  omega

/-- A long ladder names a host once, but its written form does not. -/
theorem isOverlong_ladder (many : 701 < rungs) :
    Request.parseUrl (String.ofList (shown (ladder rungs))) = .ok (ofLabel (ladder rungs)) ∧
      (ofLabel (ladder rungs)).IsOverlong := by
  have length : (ladder rungs).length = rungs := by simp [ladder]
  have sparse : List.IsChain (fun earlier later => earlier + 26 ≤ later)
      ((ladder rungs).map Char.toNat) := by
    rw [codes_ladder few, List.isChain_map, List.isChain_range]
    intro i _
    omega
  have ideographs := isIdeograph_of_mem_ladder few
  refine ⟨parseUrl_shown ?_ ideographs (rises_of_sparse sparse) ?_,
    isOverlong_of_sparse ideographs sparse (by omega)⟩
  · exact List.ne_nil_of_length_pos (by omega)
  · rw [length, Domain.plainBound]
    omega

end

end Url
end Courier
