import Courier.Proofs.Bytes
import Courier.Proofs.Header
import Courier.Proofs.Outcome
import Courier.Url.Parser
/-! What a URL asks its host for. Path and query are percent-encoded when a URL is read, so that the
target of every URL is printable. -/

namespace Courier.Url

open Header (isReadable isReadableChar)

theorem inPath_of_isControl (c : Char) (control : Percent.isControl c = true) :
    Percent.inPath c = true := by
  simp only [Percent.inPath, Percent.inFragment, control, Bool.true_or]

theorem queryTable_of_isControl (kind : SchemeKind) (c : Char)
    (control : Percent.isControl c = true) : queryTable kind c = true := by
  unfold queryTable
  split
  · simp only [Percent.inQuery, control, Bool.true_or]
  · simp only [Percent.inSpecialQuery, Percent.inQuery, control, Bool.true_or]

theorem dropSegment_subset (segments : List (List Char)) : dropSegment segments ⊆ segments := by
  unfold dropSegment
  split
  · exact List.Subset.refl _
  · split
    · exact List.Subset.refl _
    · exact List.subset_cons_self _ _

theorem readable_resolve (segments done : List (List Char))
    (readable : ∀ segment ∈ done, segment.all isReadableChar = true) :
    ∀ segment ∈ resolve segments done, segment.all isReadableChar = true := by
  induction segments generalizing done with
  | nil =>
    intro segment member
    exact readable segment (List.mem_reverse.mp member)
  | cons first rest ih =>
    have kept : ∀ segment ∈
        (if isDoubleDot first then dropSegment done
          else if isSingleDot first then done
          else Percent.encode Percent.inPath first :: done), segment.all isReadableChar = true := by
      intro segment member
      split at member
      · exact readable segment (dropSegment_subset done member)
      split at member
      · exact readable segment member
      · rcases List.mem_cons.mp member with rfl | old
        · exact Percent.readable_encode inPath_of_isControl first
        · exact readable segment old
    intro segment member
    rw [resolve] at member
    split at member
    · rcases List.mem_cons.mp (List.mem_reverse.mp member) with rfl | old
      · rfl
      · exact kept segment old
    · exact ih _ kept segment member

theorem readable_rooted {segments : List (List Char)}
    (readable : ∀ segment ∈ segments, segment.all isReadableChar = true) :
    isReadable (UrlPath.rooted (segments.map String.ofList)).text = true := by
  have slash : isReadableChar '/' = true := by decide
  rw [UrlPath.text, Header.isReadable_ofList, List.all_flatMap, List.all_map, List.all_eq_true]
  intro segment member
  simp only [Function.comp_apply, String.toList_ofList, List.all_cons, slash, Bool.true_and]
  exact readable segment member

theorem readable_readPath (kind : SchemeKind) (text : List Char) :
    isReadable (readPath kind text).text = true := by
  unfold readPath
  dsimp only
  split
  · exact readable_rooted (readable_resolve _ [] (by simp))
  · rw [UrlPath.text, Header.isReadable_ofList]
    exact Percent.readable_encode (fun _ control => control) _
  · exact readable_rooted (readable_resolve _ [] (by simp))

theorem readable_assemble (scheme : String) (kind : SchemeKind) (authority : Authority)
    (text : List Char) : isReadable (assemble scheme kind authority text).target = true := by
  have path := readable_readPath kind (cutTail text).1
  have mark : isReadable "?" = true := by decide
  unfold target
  split
  next query shown =>
    simp only [assemble, Option.map_eq_some_iff] at shown
    obtain ⟨plain, _, rfl⟩ := shown
    rw [Header.isReadable_append, Header.isReadable_append, mark, Header.isReadable_ofList,
      Percent.readable_encode (queryTable_of_isControl kind)]
    simpa [pathText, assemble] using path
  next => exact path

theorem exists_assemble {text : String} {url : Url} (read : parse text = .ok url) :
    ∃ scheme kind authority tail, url = assemble scheme kind authority tail := by
  have from_authority {scheme : String} {kind : SchemeKind} {place : List Char}
      (read : readFromAuthority scheme kind place = .ok url) :
      ∃ scheme kind authority tail, url = assemble scheme kind authority tail := by
    rw [readFromAuthority, Outcome.bind_eq_ok_iff] at read
    obtain ⟨⟨authority, path⟩, _, made⟩ := read
    exact ⟨scheme, kind, authority, path, (Except.ok.inj made).symm⟩
  unfold parse at read
  split at read
  · cases read
  next scheme rest _ =>
    split at read
    · exact from_authority read
    · unfold readFile at read
      split at read
      · split at read
        · dsimp only at read
          split at read
          · exact ⟨_, _, _, _, (Except.ok.inj read).symm⟩
          · obtain ⟨host, _, made⟩ := (Outcome.bind_eq_ok_iff _ _ _).mp read
            exact ⟨_, _, _, _, (Except.ok.inj made).symm⟩
        · exact ⟨_, _, _, _, (Except.ok.inj read).symm⟩
      · exact ⟨_, _, _, _, (Except.ok.inj read).symm⟩
    · split at read
      · exact from_authority read
      · exact ⟨_, _, _, _, (Except.ok.inj read).symm⟩

theorem readable_target {text : String} {url : Url} (read : parse text = .ok url) :
    isReadable url.target = true := by
  obtain ⟨scheme, kind, authority, tail, rfl⟩ := exists_assemble read
  exact readable_assemble scheme kind authority tail

end Courier.Url
