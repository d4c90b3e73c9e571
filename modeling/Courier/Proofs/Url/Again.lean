import Courier.Proofs.Text.Number
import Courier.Proofs.Url.Parts
import Courier.Proofs.Url.Read
/-! URLs read again. The text of a URL that was read is read as the same URL, unless its host has a
label that became too long: then the text is refused. -/

namespace Courier

namespace Url

open Percent (IsKept)

/-! ### The parts of a text -/

def user? (url : Url) : Option (List Char) :=
  match url.password with
  | some password => some (url.username.toList ++ ':' :: password.toList)
  | none => if url.username = "" then none else some url.username.toList

def portText (url : Url) : List Char := url.port.elim [] fun port => ':' :: decimal port

def afterPath (url : Url) : List Char :=
  url.query.elim [] (fun query => '?' :: query.toList) ++
    url.fragment.elim [] (fun fragment => '#' :: fragment.toList)

theorem toList_userinfo (url : Url) : url.userinfo.toList = userPart url.user? := by
  unfold userinfo user? userPart
  cases url.password with
  | some password => simp
  | none =>
    by_cases anonymous : url.username = ""
    · simp [anonymous]
    · simp [anonymous, String.isEmpty_iff]

theorem toList_authority {url : Url} {host : Host} (hosted : url.host = some host) :
    url.authority.toList =
      '/' :: '/' :: (userPart url.user? ++ (host.text.toList ++ url.portText)) := by
  unfold authority portText
  cases url.port <;> simp [hosted, toList_userinfo, decimal]

theorem toList_text {url : Url} {host : Host} (hosted : url.host = some host) :
    url.text.toList = url.scheme.toList ++ ':' :: '/' :: '/' ::
      (userPart url.user? ++ (host.text.toList ++ url.portText) ++
        (url.path.text.toList ++ url.afterPath)) := by
  unfold text target pathText afterPath
  cases url.query <;> cases url.fragment <;> simp [toList_authority hosted]

/-! ### Characters -/

def IsVisible (c : Char) : Prop := 0x20 < c.toNat ∧ c.toNat < 0x7F

instance : DecidablePred IsVisible := fun _ => inferInstanceAs (Decidable (_ ∧ _))

theorem isVisible_of_isKept {inSet : Char → Bool} {c : Char} (kept : IsKept inSet c)
    (blanks : ∀ d, Percent.isControl d = true ∨ d = ' ' → inSet d = true) : IsVisible c := by
  obtain ⟨ascii, outside⟩ := kept
  have ascii : c.toNat < 0x80 := by simpa [isAscii] using ascii
  have seen : ¬(Percent.isControl c = true ∨ c = ' ') := fun blank => by
    rw [blanks c blank] at outside
    cases outside
  have space : c.toNat ≠ 0x20 := fun same => seen (Or.inr (by rw [← Char.ofNat_toNat c, same]))
  simp only [Percent.isControl, Bool.or_eq_true, decide_eq_true_eq, beq_iff_eq, not_or] at seen
  unfold IsVisible
  omega

def IsInk (c : Char) : Prop := isBlank c = false ∧ isEdge c = false ∧ isBreak c = false

instance : DecidablePred IsInk := fun _ => inferInstanceAs (Decidable (_ ∧ _ ∧ _))

theorem IsVisible.isInk {c : Char} (visible : IsVisible c) : IsInk c := by
  have table : ∀ n < 128, IsVisible (Char.ofNat n) → IsInk (Char.ofNat n) := by decide +kernel
  have ascii : isAscii c = true := decide_eq_true (Nat.lt_succ_of_lt visible.2)
  exact forall_isAscii (fun c => IsVisible c → IsInk c) table ascii visible

theorem clean_of_isInk {text : List Char} (ink : ∀ c ∈ text, IsInk c) :
    trim text = text ∧ clean text = text := by
  have stays {kind : Char → Bool} (clear : ∀ c ∈ text, kind c = false) :
      text.dropWhile kind = text ∧ text.rdropWhile kind = text := by
    refine ⟨?_, by simpa using rdropWhile_append_of_solid clear []⟩
    cases text with
    | nil => rfl
    | cons c rest => simp [clear c]
  obtain ⟨left, right⟩ := stays fun c member => (ink c member).1
  obtain ⟨front, back⟩ := stays fun c member => (ink c member).2.1
  have unbroken : text.filter (!isBreak ·) = text :=
    List.filter_eq_self.mpr fun c member => by simp [(ink c member).2.2]
  have whole : clean text = ((text.dropWhile isEdge).rdropWhile isEdge).filter (!isBreak ·) := rfl
  rw [trim_eq, left, right, whole, front, back, unbroken]
  exact ⟨rfl, rfl⟩

theorem isVisible_of_isSolid {c : Char} (solid : isSolid c = true) : IsVisible c := by
  obtain ⟨low, high, _⟩ := isSolid_range solid
  exact ⟨low, high⟩

theorem isHostChar_of_isKept {c : Char} (kept : IsKept Percent.inUserinfo c) :
    IsHostChar c ∧ c ≠ ':' := by
  have table : ∀ n < 128, Percent.inUserinfo (Char.ofNat n) = false →
      IsHostChar (Char.ofNat n) ∧ Char.ofNat n ≠ ':' := by decide +kernel
  exact forall_isAscii (fun c => Percent.inUserinfo c = false →
    IsHostChar c ∧ c ≠ ':') table kept.1 kept.2

theorem isHostChar_of_mem_decimal {n : Nat} : ∀ c ∈ decimal n, IsHostChar c := by
  have table : ∀ n < 128, isAsciiDigit (Char.ofNat n) = true → IsHostChar (Char.ofNat n) := by
    decide +kernel
  intro c member
  have digit := isAsciiDigit_of_mem_decimal member
  exact forall_isAscii (fun c => isAsciiDigit c = true → IsHostChar c) table
    (isAscii_of_isAsciiDigit digit) digit

section

variable {url : Url}

theorem isHostChar_of_mem_portText : ∀ c ∈ url.portText, IsHostChar c := by
  unfold portText
  cases url.port with
  | none => simp
  | some port =>
    intro c member
    rcases List.mem_cons.mp member with rfl | digit
    · decide +kernel
    · exact isHostChar_of_mem_decimal c digit

theorem isHostChar_of_mem_user (read : url.IsRead) :
    ∀ c ∈ userPart url.user?, IsHostChar c ∨ c = '@' := by
  have name : ∀ c ∈ url.username.toList, IsHostChar c :=
    fun c member => (isHostChar_of_isKept (read.username c member)).1
  unfold userPart user?
  intro c member
  cases shown : url.password with
  | some password =>
    simp only [shown, Option.elim_some, List.mem_append, List.mem_cons, List.not_mem_nil,
      or_false] at member
    rcases member with (user | rfl | secret) | rfl
    · exact Or.inl (name c user)
    · exact Or.inl (by decide +kernel)
    · exact Or.inl (isHostChar_of_isKept ((read.password password shown).2 c secret)).1
    · exact Or.inr rfl
  | none =>
    simp only [shown] at member
    split at member
    · cases member
    · rcases List.mem_append.mp member with user | sign
      · exact Or.inl (name c user)
      · exact Or.inr (List.mem_singleton.mp sign)

theorem isVisible_of_mem_afterPath (read : url.IsRead) : ∀ c ∈ url.afterPath, IsVisible c := by
  have query {d : Char} (kept : IsKept Percent.inSpecialQuery d) : IsVisible d :=
    isVisible_of_isKept kept (by simp +contextual [Percent.inSpecialQuery, Percent.inQuery])
  have fragment {d : Char} (kept : IsKept Percent.inFragment d) : IsVisible d :=
    isVisible_of_isKept kept (by simp +contextual [Percent.inFragment])
  intro c member
  unfold afterPath at member
  rcases List.mem_append.mp member with asked | marked
  · cases shown : url.query with
    | none => simp [shown] at asked
    | some held =>
      simp only [shown, Option.elim_some, List.mem_cons] at asked
      rcases asked with rfl | inside
      · decide
      · exact query (read.query held shown c inside)
  · cases shown : url.fragment with
    | none => simp [shown] at marked
    | some held =>
      simp only [shown, Option.elim_some, List.mem_cons] at marked
      rcases marked with rfl | inside
      · decide
      · exact fragment (read.fragment held shown c inside)

/-! ### Each part again -/

theorem readUserinfo_user (read : url.IsRead) :
    readUserinfo (url.user?.getD []) = (url.username, url.password) := by
  have name : String.ofList (Percent.encode Percent.inUserinfo url.username.toList) =
      url.username := by
    rw [Percent.encode_of_isKept read.username, String.ofList_toList]
  have clear : ∀ c ∈ url.username.toList, decide (c = ':') = false :=
    fun c member => decide_eq_false (isHostChar_of_isKept (read.username c member)).2
  unfold user?
  cases shown : url.password with
  | some password =>
    obtain ⟨given, kept⟩ := read.password password shown
    have cut : cutAt? (· = ':') (url.username.toList ++ ':' :: password.toList) =
        some (url.username.toList, password.toList) := cutAt?_append clear (by decide) _
    simp only [Option.getD_some, readUserinfo, cut]
    split
    next impossible => cases impossible
    next same =>
      obtain ⟨-, empty⟩ := Prod.mk.inj (Option.some.inj same)
      exact absurd (String.toList_eq_nil_iff.mp empty) given
    next _ same =>
      obtain ⟨rfl, rfl⟩ := Prod.mk.inj (Option.some.inj same)
      rw [name, Percent.encode_of_isKept kept, String.ofList_toList]
  | none =>
    by_cases anonymous : url.username = ""
    · simp [anonymous, readUserinfo, cutAt?, Percent.encode]
    · have whole := (cutAt?_eq_none_iff (· = ':') url.username.toList).mpr clear
      simp only [anonymous, ↓reduceIte, Option.getD_some, readUserinfo, whole, name]

theorem readPort_portText (read : url.IsRead) :
    readPort url.scheme (url.portText.drop 1) = .ok url.port := by
  unfold portText
  cases shown : url.port with
  | none => rfl
  | some port =>
    obtain ⟨small, unusual⟩ := read.port port shown
    have given : (decimal port).isEmpty = false := by
      rw [List.isEmpty_eq_false_iff]
      exact Nat.toDigits_ne_nil
    have number : number? 10 (decimal port) = some port := number?_toDigits (by omega) (by omega) port
    have range : ¬port > 65535 := by omega
    simp only [Option.elim_some, List.drop_one, List.tail_cons, readPort, given, number, range,
      unusual, Bool.false_eq_true, ↓reduceIte]

theorem cutTail_of_parts {path : List Char} {query : Option (List Char)}
    (fragment : Option (List Char))
    (plain : ∀ c ∈ path, c ≠ '#' ∧ c ≠ '?') (asked : ∀ text ∈ query, '#' ∉ text) :
    cutTail (path ++ (query.elim [] ('?' :: ·) ++ fragment.elim [] ('#' :: ·))) =
      (path, query, fragment) := by
  have front : ∀ c ∈ path ++ query.elim [] ('?' :: ·), decide (c = '#') = false := by
    intro c member
    rcases List.mem_append.mp member with inside | inside
    · exact decide_eq_false (plain c inside).1
    · cases query with
      | none => cases inside
      | some text =>
        rcases List.mem_cons.mp inside with rfl | own
        · decide
        · exact decide_eq_false fun same => asked text rfl (same ▸ own)
  have unasked : ∀ c ∈ path, decide (c = '?') = false :=
    fun c member => decide_eq_false (plain c member).2
  have marks : cutAt? (· = '#')
      (path ++ (query.elim [] ('?' :: ·) ++ fragment.elim [] ('#' :: ·))) =
      fragment.map (path ++ query.elim [] ('?' :: ·), ·) := by
    rw [← List.append_assoc]
    cases fragment with
    | none => simpa using (cutAt?_eq_none_iff _ _).mpr front
    | some text => exact cutAt?_append front (by decide) text
  have asks : cutAt? (· = '?') (path ++ query.elim [] ('?' :: ·)) = query.map (path, ·) := by
    cases query with
    | none => simpa using (cutAt?_eq_none_iff _ _).mpr unasked
    | some text => exact cutAt?_append unasked (by decide) text
  rw [cutTail, marks]
  cases fragment with
  | none =>
    simp only [Option.map_none, Option.elim_none, List.append_nil, asks]
    cases query <;> simp
  | some text =>
    simp only [Option.map_some, asks]
    cases query <;> simp

theorem not_mark_of_mem_path (read : url.IsRead) :
    ∀ c ∈ url.path.text.toList, c ≠ '#' ∧ c ≠ '?' := by
  intro c member
  have outside := (mem_text_of_isReadPath read.path c member).1.2
  constructor <;> rintro rfl <;> exact absurd outside (by decide)

theorem not_mem_query (read : url.IsRead) : ∀ text ∈ url.query.map String.toList, '#' ∉ text := by
  intro text held member
  obtain ⟨query, shown, rfl⟩ := Option.map_eq_some_iff.mp held
  exact absurd (read.query query shown '#' member).2 (by decide)

/-- The query and the fragment of a URL that was read are cut off at their marks, whatever part of the
text stands before the path. -/
theorem cutTail_append_afterPath (read : url.IsRead) {front : List Char}
    (plain : ∀ c ∈ front, c ≠ '#' ∧ c ≠ '?') :
    cutTail (front ++ url.afterPath) =
      (front, url.query.map String.toList, url.fragment.map String.toList) := by
  have whole := cutTail_of_parts (url.fragment.map String.toList) plain (not_mem_query read)
  rw [Option.elim_map, Option.elim_map] at whole
  exact whole

/-- The parts of a URL that was read are put together to the same URL, on whatever host. -/
theorem assemble_afterPath (read : url.IsRead) (host : Option Host) :
    assemble url.scheme .special ⟨url.username, url.password, host, url.port⟩
      (url.path.text.toList ++ url.afterPath) = { url with host } := by
  have query : (url.query.map String.toList).map
      (fun text => String.ofList (Percent.encode (queryTable .special) text)) = url.query := by
    cases shown : url.query with
    | none => rfl
    | some held =>
      have table : queryTable .special = Percent.inSpecialQuery := rfl
      simp [table, Percent.encode_of_isKept (read.query held shown)]
  have fragment : (url.fragment.map String.toList).map
      (fun text => String.ofList (Percent.encode Percent.inFragment text)) = url.fragment := by
    cases shown : url.fragment with
    | none => rfl
    | some held => simp [Percent.encode_of_isKept (read.fragment held shown)]
  simp only [assemble, cutTail_append_afterPath read (not_mark_of_mem_path read),
    readPath_text read.path, query, fragment]

theorem lower_scheme (read : url.IsRead) :
    String.ofList (url.scheme.toList.map asciiLower) = url.scheme := by
  rcases read.web with plain | secure
  · rw [plain]
    rfl
  · rw [secure]
    rfl

theorem isWebScheme_scheme (read : url.IsRead) : IsWebScheme url.scheme.toList := by
  simpa [IsWebScheme, lower_scheme read] using read.web

theorem isAsciiAlpha_of_mem_scheme (read : url.IsRead) :
    ∀ c ∈ url.scheme.toList, isAsciiAlpha c = true :=
  (isWebScheme_scheme read).letters.2

theorem isVisible_of_mem_text (read : url.IsRead) : ∀ c ∈ url.text.toList, IsVisible c := by
  obtain ⟨host, hosted, known⟩ := read.host
  have shown {c : Char} (held : IsHostChar c) : IsVisible c := isVisible_of_isSolid held.1
  intro c member
  rw [toList_text hosted] at member
  simp only [List.mem_append, List.mem_cons] at member
  rcases member with letter | rfl | rfl | rfl | (user | name | port) | path | after
  · have alpha := isAsciiAlpha_of_mem_scheme read c letter
    exact isVisible_of_isSolid (isSolid_of_isAsciiAlphanum (by simp [isAsciiAlphanum, alpha]))
  · decide
  · decide
  · decide
  · rcases isHostChar_of_mem_user read c user with held | rfl
    · exact shown held
    · decide
  · exact shown (isHostChar_of_mem_text known c name)
  · exact shown (isHostChar_of_mem_portText c port)
  · exact isVisible_of_isKept (mem_text_of_isReadPath read.path c path).1
      (by simp +contextual [Percent.inPath, Percent.inFragment])
  · exact isVisible_of_mem_afterPath read c after

/-- The text of a URL that was read is read as that URL, if its host is read as that host. -/
theorem parse_text (read : url.IsRead) {host : Host} (hosted : url.host = some host)
    (known : host.IsRead) :
    parse (String.ofList (trim url.text.toList)) =
      (readHost host.text.toList).map fun found => { url with host := some found } := by
  have web := isWebScheme_scheme read
  have visible := isVisible_of_mem_text read
  obtain ⟨trimmed, cleaned⟩ := clean_of_isInk fun c member => (visible c member).isInk
  have starts : ∀ c ∈ url.portText.head?, c = ':' := by
    unfold portText
    cases url.port <;> simp
  have ends : ∀ c ∈ (url.path.text.toList ++ url.afterPath).head?,
      endsAuthority .special c = true := by
    rw [List.head?_append, head?_text_of_isReadPath read.path]
    simp [endsAuthority]
  have place : ∀ c ∈ host.text.toList ++ url.portText, IsHostChar c := by
    intro c member
    rcases List.mem_append.mp member with name | port
    · exact isHostChar_of_mem_text known c name
    · exact isHostChar_of_mem_portText c port
  have inside : ∀ c ∈ userPart url.user? ++ (host.text.toList ++ url.portText),
      endsAuthority .special c = false := by
    intro c member
    rcases List.mem_append.mp member with user | other
    · rcases isHostChar_of_mem_user read c user with held | rfl
      · exact held.2.1
      · decide
    · exact (place c other).2.1
  rw [toList_text hosted] at trimmed cleaned ⊢
  rw [parse_of_parts web (by rw [trimmed, cleaned]) inside ends (text_ne_nil known)
    (cutHost_text known starts) (fun sign => (place '@' sign).2.2 rfl), lower_scheme read,
    readPort_portText read, readUserinfo_user read]
  cases readHost host.text.toList with
  | error error => rfl
  | ok found => exact congrArg Except.ok (assemble_afterPath read (some found))

end

end Url

namespace Request

theorem isRead_of_parseUrl {raw : String} {url : Url} (read : parseUrl raw = .ok url) :
    url.IsRead := by
  obtain ⟨parsed, web, _⟩ := (parseUrl_eq_ok_iff raw url).mp read
  exact Url.isRead_of_parse parsed web

/-- Requests can go to the text of a URL that was read, and then they go to the same URL, unless its
host has a label that became too long. -/
theorem parseUrl_text {url : Url} (read : url.IsRead) :
    (¬url.IsOverlong → parseUrl url.text = .ok url) ∧
      (url.IsOverlong →
        parseUrl url.text = .error (.invalidUrl url.text (.unreadable .invalidDomain))) := by
  obtain ⟨host, hosted, known⟩ := read.host
  have parsed := Url.parse_text read hosted known
  obtain ⟨same, refused⟩ := Url.readHost_text known
  constructor
  · intro fine
    rw [same fun overlong => fine ⟨host, hosted, overlong⟩] at parsed
    refine (parseUrl_eq_ok_iff _ _).mpr ⟨?_, read.web, host, hosted⟩
    rw [parsed, Except.map, ← hosted]
  · rintro ⟨other, same, overlong⟩
    obtain rfl := Option.some.inj (hosted.symm.trans same)
    rw [refused overlong] at parsed
    simp only [parseUrl, parsed, Except.map]

theorem isRead_addressed {raw : String} {url : Url} (read : parseUrl raw = .ok url) (method : Method)
    (params : List Pair) : (addressed method url params).IsRead := by
  have known := isRead_of_parseUrl read
  unfold addressed
  split
  · exact known
  · exact known.withQuery params

theorem isOverlong_addressed (method : Method) (url : Url) (params : List Pair) :
    (addressed method url params).IsOverlong ↔ url.IsOverlong := by
  have host : (addressed method url params).host = url.host := by
    unfold addressed withQuery
    split
    · rfl
    · split <;> rfl
  simp only [Url.IsOverlong, host]

end Request
end Courier
