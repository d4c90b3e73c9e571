import Courier.Proofs.Request
import Courier.Proofs.Url.Host
/-! The place that a URL names. A text that may be sent as it stands and that names no user goes to
the host and the port that reading it as a URL gives, whichever of the two takes it apart. -/

namespace Courier

namespace Url

theorem clean_append_of_solid {front : List Char} (nonempty : front ≠ [])
    (solid : ∀ c ∈ front, isSolid c = true) (tail : List Char) :
    clean (trim (front ++ tail)) =
      front ++ ((tail.rdropWhile isBlank).rdropWhile isEdge).filter (!isBreak ·) := by
  have blankless : ∀ c ∈ front, isBlank c = false := fun c member => isBlank_of_isSolid (solid c member)
  have edgeless : ∀ c ∈ front, isEdge c = false := fun c member => isEdge_of_isSolid (solid c member)
  have unbroken : front.filter (!isBreak ·) = front :=
    List.filter_eq_self.mpr fun c member => by simp [isBreak_of_isSolid (solid c member)]
  have whole (text : List Char) : clean text =
      ((text.dropWhile isEdge).rdropWhile isEdge).filter (!isBreak ·) := rfl
  rw [whole, trim_append_of_solid nonempty blankless, dropWhile_append_of_solid nonempty edgeless,
    rdropWhile_append_of_solid edgeless, List.filter_append, unbroken]

theorem cutLastAt?_eq_none {text : List Char} (unnamed : '@' ∉ text) : cutLastAt? text = none := by
  induction text with
  | nil => rfl
  | cons c rest ih =>
    have other : c ≠ '@' := fun same => unnamed (by simp [same])
    simp [cutLastAt?, other, ih fun member => unnamed (List.mem_cons_of_mem _ member)]

theorem readAuthority_eq_ok {scheme : String} {text after host rest path : List Char}
    {authority : Authority} (unnamed : '@' ∉ text) (cut : cutHost false text = (host, rest))
    (nonempty : host ≠ []) (read : readAuthority scheme .special text after = .ok (authority, path)) :
    (∃ known, readHost host = .ok known ∧ authority.host = some known) ∧
      readPort scheme ((rest.drop 1).takeWhile (· ≠ '\\')) = .ok authority.port := by
  have given : text.isEmpty = false := by
    cases text with
    | nil =>
      cases cut
      exact absurd rfl nonempty
    | cons c more => rfl
  simp only [readAuthority, cutLastAt?_eq_none unnamed, Option.elim_none, List.isEmpty_nil, given,
    Bool.and_false, Bool.false_and, Bool.false_eq_true, ↓reduceIte, cut] at read
  obtain ⟨found, hosted, read⟩ := (Outcome.bind_eq_ok_iff _ _ _).mp read
  obtain ⟨port, ported, read⟩ := (Outcome.bind_eq_ok_iff _ _ _).mp read
  obtain ⟨rfl, _⟩ := Prod.mk.inj (Except.ok.inj read)
  refine ⟨?_, ported⟩
  cases known : readHost host with
  | error error =>
    rw [known] at hosted
    cases hosted
  | ok found =>
    rw [known] at hosted
    cases hosted
    exact ⟨found, rfl, rfl⟩

theorem readFromAuthority_eq_ok {scheme : String} {authority tail host rest : List Char} {url : Url}
    (inside : ∀ c ∈ authority, endsAuthority .special c = false)
    (ends : ∀ c ∈ tail.head?, endsAuthority .special c = true) (unnamed : '@' ∉ authority)
    (cut : cutHost false authority = (host, rest)) (nonempty : host ≠ [])
    (read : readFromAuthority scheme .special (authority ++ tail) = .ok url) :
    (∃ known, readHost host = .ok known ∧ url.host = some known) ∧ url.scheme = scheme ∧
      readPort scheme ((rest.drop 1).takeWhile (· ≠ '\\')) = .ok url.port := by
  have place : (authority ++ tail).takeWhile (!endsAuthority .special ·) = authority :=
    takeWhile_part (by simpa using inside) (by simpa using ends)
  rw [readFromAuthority, place] at read
  obtain ⟨⟨found, path⟩, reading, read⟩ := (Outcome.bind_eq_ok_iff _ _ _).mp read
  obtain ⟨hosted, ported⟩ := readAuthority_eq_ok unnamed cut nonempty reading
  obtain rfl := Except.ok.inj read
  exact ⟨hosted, rfl, ported⟩

end Url

theorem isAsciiAlpha_of_asciiLower {c : Char} (alpha : isAsciiAlpha (asciiLower c) = true) :
    isAsciiAlpha c = true := by
  unfold asciiLower at alpha
  split at alpha
  next upper => simp [isAsciiAlpha, upper]
  next => exact alpha

def IsWebScheme (scheme : List Char) : Prop :=
  String.ofList (scheme.map asciiLower) = "http" ∨ String.ofList (scheme.map asciiLower) = "https"

theorem IsWebScheme.letters {scheme : List Char} (web : IsWebScheme scheme) :
    scheme ≠ [] ∧ ∀ c ∈ scheme, isAsciiAlpha c = true := by
  have lowered : scheme.map asciiLower = ['h', 't', 't', 'p'] ∨
      scheme.map asciiLower = ['h', 't', 't', 'p', 's'] := by
    rcases web with plain | secure
    · exact Or.inl (by simpa using congrArg String.toList plain)
    · exact Or.inr (by simpa using congrArg String.toList secure)
  constructor
  · rintro rfl
    simp at lowered
  · intro c member
    have lower : asciiLower c ∈ scheme.map asciiLower := List.mem_map_of_mem member
    apply isAsciiAlpha_of_asciiLower
    rcases lowered with plain | secure
    · have alpha : ['h', 't', 't', 'p'].all isAsciiAlpha = true := by decide
      exact List.all_eq_true.mp alpha _ (plain ▸ lower)
    · have alpha : ['h', 't', 't', 'p', 's'].all isAsciiAlpha = true := by decide
      exact List.all_eq_true.mp alpha _ (secure ▸ lower)

/-- How a text that may be sent names a place on the web. -/
structure Spelled (raw : String) (scheme authority tail : List Char) : Prop where
  text : raw.toList = scheme ++ ':' :: '/' :: '/' :: (authority ++ tail)
  web : IsWebScheme scheme
  nonempty : authority ≠ []
  solid : ∀ c ∈ authority, isSolid c = true
  inside : ∀ c ∈ authority, Strict.endsAuthority c = false
  ends : ∀ c ∈ tail.head?, Strict.endsAuthority c = true
  balanced : Strict.openAfter false authority = false

theorem Destination.ofText?_eq_some {raw : String} {destination : Destination}
    (placed : ofText? raw = some destination) :
    ∃ scheme place, raw.toList = scheme ++ ':' :: '/' :: '/' :: place ∧ IsWebScheme scheme ∧
      ofPlace? (String.ofList (scheme.map asciiLower) = "https") place = some destination := by
  simp only [ofText?, Option.bind_eq_bind, Option.bind_eq_some_iff] at placed
  obtain ⟨⟨scheme, rest⟩, cut, placed⟩ := placed
  obtain ⟨mark, text, marks, _⟩ := cutAt?_eq_some cut
  obtain rfl : mark = ':' := by simpa using marks
  dsimp only at placed
  split at placed
  next place =>
    refine ⟨scheme, place, text, ?_⟩
    split at placed
    next plain => exact ⟨Or.inl plain, by simpa [plain] using placed⟩
    next secure => exact ⟨Or.inr secure, by simpa [secure] using placed⟩
    next => cases placed
  next => cases placed

theorem Strict.check_eq_ok {raw : String} {scheme place : List Char}
    (checked : check raw = .ok ()) (text : raw.toList = scheme ++ ':' :: '/' :: '/' :: place)
    (web : IsWebScheme scheme) :
    ∃ rest, checkAuthority place = .ok rest ∧ rest.length ≠ place.length := by
  obtain ⟨nonempty, letters⟩ := web.letters
  obtain ⟨first, more, rfl⟩ := List.exists_cons_of_ne_nil nonempty
  have first_letter : isAsciiAlpha first = true := letters first (by simp)
  have whole : (first :: more ++ ':' :: '/' :: '/' :: place).takeWhile isSchemeChar = first :: more :=
    takeWhile_part (fun c member => by simp [isSchemeChar, isAsciiAlphanum, letters c member])
      (by simp; decide)
  have cut : cutScheme? (first :: more ++ ':' :: '/' :: '/' :: place) =
      if (first :: more).length > greatestSchemeLength then .error .schemeTooLong
      else .ok (some place) := by
    simp only [cutScheme?, whole, List.drop_left]
  rw [check, text] at checked
  simp only [List.cons_append] at checked cut
  split at checked
  · cases checked
  split at checked
  next same => cases same
  next same => simp at same
  next same =>
    obtain ⟨rfl, _⟩ := List.cons.inj same
    exact absurd first_letter (by decide)
  next =>
    rw [cut] at checked
    split at checked
    · cases checked
    obtain ⟨found, same, checked⟩ := (Outcome.bind_eq_ok_iff _ _ _).mp checked
    obtain rfl := Except.ok.inj same
    obtain ⟨rest, checked_place, checked⟩ := (Outcome.bind_eq_ok_iff _ _ _).mp checked
    refine ⟨rest, checked_place, fun same => ?_⟩
    simp only [same, ↓reduceIte] at checked
    cases checked

/-- A text that may be sent and has a destination names a place on the web. -/
theorem exists_spelled {raw : String} {destination : Destination}
    (checked : Strict.check raw = .ok ()) (placed : Destination.ofText? raw = some destination) :
    ∃ scheme authority tail, Spelled raw scheme authority tail ∧
      Destination.ofPlace? (String.ofList (scheme.map asciiLower) = "https") (authority ++ tail) =
        some destination := by
  obtain ⟨scheme, place, text, web, placed⟩ := Destination.ofText?_eq_some placed
  obtain ⟨rest, checked, shorter⟩ := Strict.check_eq_ok checked text web
  obtain ⟨solid, balanced, rfl⟩ := Strict.checkAuthority_eq_ok checked
  have whole : place.takeWhile (!Strict.endsAuthority ·) ++ place.dropWhile (!Strict.endsAuthority ·) =
      place := List.takeWhile_append_dropWhile
  refine ⟨scheme, _, _, ⟨by rw [whole, text], web, ?_, solid, ?_, ?_, balanced⟩, by rwa [whole]⟩
  · intro gone
    rw [gone, List.nil_append] at whole
    exact shorter (by rw [whole])
  · intro c member
    simpa using List.mem_takeWhile_imp member
  · intro c member
    have stop : (!Strict.endsAuthority c) = false := head?_dropWhile_eq_false c member
    simpa using stop

/-- The front of a spelled text outlives the cleaning of it. -/
theorem Spelled.cleaned {raw : String} {scheme authority tail : List Char}
    (spelled : Spelled raw scheme authority tail) :
    ∃ kept, Url.clean (trim raw.toList) = scheme ++ ':' :: '/' :: '/' :: (authority ++ kept) ∧
      ∀ c ∈ kept.head?, Strict.endsAuthority c = true := by
  obtain ⟨nonempty, letters⟩ := spelled.web.letters
  have front_solid : ∀ c ∈ scheme ++ ':' :: '/' :: '/' :: authority, isSolid c = true := by
    intro c member
    simp only [List.mem_append, List.mem_cons] at member
    rcases member with letter | rfl | rfl | rfl | inside
    · exact isSolid_of_isAsciiAlphanum (by simp [isAsciiAlphanum, letters c letter])
    · decide
    · decide
    · decide
    · exact spelled.solid c inside
  have end_solid : ∀ c, Strict.endsAuthority c = true → isSolid c = true := by
    intro c ending
    simp only [Strict.endsAuthority, Bool.or_eq_true, decide_eq_true_eq] at ending
    rcases ending with (rfl | rfl) | rfl <;> decide
  have text := spelled.text
  cases tail with
  | nil =>
    have whole : raw.toList = (scheme ++ ':' :: '/' :: '/' :: authority) ++ [] := by simp [text]
    refine ⟨[], ?_, by simp⟩
    rw [whole, Url.clean_append_of_solid (by simp) front_solid]
    simp
  | cons c rest =>
    have ending : Strict.endsAuthority c = true := spelled.ends c rfl
    have whole : raw.toList = (scheme ++ ':' :: '/' :: '/' :: authority ++ [c]) ++ rest := by
      simp [text]
    have solid : ∀ d ∈ scheme ++ ':' :: '/' :: '/' :: authority ++ [c], isSolid d = true := by
      intro d member
      rcases List.mem_append.mp member with front | last
      · exact front_solid d front
      · exact end_solid d (List.mem_singleton.mp last ▸ ending)
    refine ⟨c :: ((rest.rdropWhile isBlank).rdropWhile Url.isEdge).filter (!Url.isBreak ·), ?_, ?_⟩
    · rw [whole, Url.clean_append_of_solid (by simp) solid]
      simp
    · intro d member
      cases member
      exact ending

/-- Reading the same port, whether it is held only when it is not the usual one or always. -/
theorem readPort_eq_ok {scheme : String} {rest : List Char} {port : Nat} {held : Option Nat}
    (web : scheme = "http" ∨ scheme = "https")
    (ported : Destination.portAfter? (scheme = "https") rest = some port)
    (bounded : port < Destination.portBound)
    (read : Url.readPort scheme ((rest.drop 1).takeWhile (· ≠ '\\')) = .ok held) :
    (held <|> Url.usualPort? scheme) = some port := by
  have usual : Url.usualPort? scheme = some (Destination.usualPort (scheme = "https")) := by
    rcases web with rfl | rfl <;> decide
  have plain := (Destination.portAfter?_plain ported).2
  have kept : (rest.drop 1).takeWhile (· ≠ '\\') = rest.drop 1 :=
    List.takeWhile_eq_self_iff.mpr fun c member =>
      decide_eq_true (plain c (List.mem_of_mem_drop member)).2.2
  rw [kept] at read
  fun_cases Destination.portAfter? (scheme = "https") rest with
  | case1 =>
    obtain rfl := Except.ok.inj read
    simpa [usual, Destination.portAfter?] using ported
  | case2 =>
    obtain rfl := Except.ok.inj read
    simpa [usual, Destination.portAfter?] using ported
  | case3 digits nonempty =>
    have number : number? 10 digits = some port := by
      simpa [Destination.portAfter?, nonempty] using ported
    have low : ¬port > 65535 := by
      have bound : Destination.portBound = 65536 := rfl
      omega
    have given : digits.isEmpty = false := by simpa [List.isEmpty_iff] using nonempty
    simp only [List.drop_one, List.tail_cons, Url.readPort, given, Bool.false_eq_true,
      ↓reduceIte, number, low, Except.ok.injEq] at read
    subst read
    split
    next same => simpa using same
    next => rfl
  | case4 => simp_all [Destination.portAfter?]

theorem endsAuthority_eq {c : Char} (solid : isSolid c = true) :
    Url.endsAuthority .special c = Strict.endsAuthority c := by
  have other : c ≠ '\\' := (isSolid_range solid).2.2
  simp [Url.endsAuthority, Strict.endsAuthority, other]

theorem parse_of_web {text scheme rest : List Char} (web : IsWebScheme scheme)
    (shown : Url.clean text = scheme ++ ':' :: rest) :
    Url.parse (String.ofList text) =
      Url.readFromAuthority (String.ofList (scheme.map asciiLower)) .special
        (rest.dropWhile Url.isSlash) := by
  obtain ⟨nonempty, letters⟩ := web.letters
  have inside : ∀ c ∈ scheme, Url.isSchemeChar c = true := fun c member => by
    simp [Url.isSchemeChar, isAsciiAlphanum, letters c member]
  have ends : ∀ c ∈ (':' :: rest).head?, Url.isSchemeChar c = false := by
    intro c member
    cases member
    decide
  have special : Url.schemeKind (String.ofList (scheme.map asciiLower)) = .special := by
    rcases web with plain | secure
    · rw [plain]
      decide
    · rw [secure]
      decide
  have cut : Url.cutScheme? (scheme ++ ':' :: rest) =
      some (String.ofList (scheme.map asciiLower), rest) := by
    obtain ⟨first, more, rfl⟩ := List.exists_cons_of_ne_nil nonempty
    have whole := takeWhile_part inside ends
    simp only [List.cons_append] at whole
    have remaining := dropWhile_part inside ends
    simp only [List.cons_append] at remaining
    simp only [Url.cutScheme?, List.cons_append, whole, remaining, letters first (by simp),
      ↓reduceIte]
  rw [Url.parse, String.toList_ofList, shown, cut]
  simp only [special]

/-- Reading a text as a URL gives the host and the port of its destination. -/
theorem parseUrl_eq_ok_of_placed {raw : String} {url : Url} {destination : Destination}
    (parsed : Request.parseUrl raw = .ok url) (checked : Strict.check raw = .ok ())
    (placed : Destination.ofText? raw = some destination) (userless : destination.userinfo = none) :
    (∃ host, Url.readHost destination.host.toList = .ok host ∧ url.host = some host) ∧
      url.effectivePort? = some destination.port := by
  obtain ⟨scheme, authority, tail, spelled, placed⟩ := exists_spelled checked placed
  obtain ⟨kept, cleaned, ends⟩ := spelled.cleaned
  obtain ⟨rest, cut, ported, nonempty, bounded, unnamed⟩ :=
    Destination.ofPlace?_eq_some spelled.inside spelled.ends placed userless
  -- Slashes after the scheme are skipped, and the authority starts with none.
  have slashless : ('/' :: '/' :: (authority ++ kept)).dropWhile Url.isSlash = authority ++ kept := by
    obtain ⟨first, more, rfl⟩ := List.exists_cons_of_ne_nil spelled.nonempty
    have stop : Url.isSlash first = false := by
      have inside := spelled.inside first (by simp)
      have other := (isSolid_range (spelled.solid first (by simp))).2.2
      simp only [Strict.endsAuthority, Bool.or_eq_false_iff] at inside
      simp only [Url.isSlash, inside.1.1, other, decide_false, Bool.or_self]
    simp [Url.isSlash] at stop ⊢
    simp [stop]
  have read : Url.readFromAuthority (String.ofList (scheme.map asciiLower)) .special
      (authority ++ kept) = .ok url := by
    rw [← slashless, ← parse_of_web spelled.web cleaned]
    exact ((Request.parseUrl_eq_ok_iff _ _).mp parsed).1
  have inside : ∀ c ∈ authority, Url.endsAuthority .special c = false := fun c member => by
    rw [endsAuthority_eq (spelled.solid c member), spelled.inside c member]
  have stops : ∀ c ∈ kept.head?, Url.endsAuthority .special c = true := by
    intro c member
    have ending := ends c member
    simp only [Strict.endsAuthority] at ending
    simp only [Url.endsAuthority, ending, Bool.true_or]
  obtain ⟨hosted, named, port⟩ := Url.readFromAuthority_eq_ok inside stops unnamed
    (Url.cutHost_eq cut ported spelled.balanced) nonempty read
  refine ⟨hosted, ?_⟩
  rw [Url.effectivePort?, named]
  exact readPort_eq_ok spelled.web ported bounded port

end Courier
