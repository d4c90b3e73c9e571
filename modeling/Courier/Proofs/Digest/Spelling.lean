import Courier.Proofs.Digest.Fields
import Mathlib.Data.List.Nodup
/-! Challenges however they are written. Letters of either case, blanks, extra commas, quotes and the
order of the parameters make no difference: a challenge is read from what its parameters say. -/

namespace Courier.Digest

/-! ### Spellings -/

-- The characters of a text are gone through, not all that there are.
local instance decidableForallMem {kind : Char → Prop} [DecidablePred kind] (text : List Char) :
    Decidable (∀ c ∈ text, kind c) := List.decidableBAll kind text

/-- A parameter as it may be written: blanks around the equals sign, and the value in quotes or as it
stands. -/
structure Spelling where
  name : List Char
  before : List Char
  after : List Char
  value : List Char
  isQuoted : Bool
  named : IsName name := by decide
  blank : ∀ c ∈ before ++ after, isBlank c = true := by decide
  bare : isQuoted = false → IsUnquoted value := by decide

namespace Spelling

variable (spelling : Spelling)

def valueText : List Char :=
  if spelling.isQuoted then '"' :: (spelling.value.flatMap escapeChar ++ ['"']) else spelling.value

def text : List Char :=
  spelling.name ++ spelling.before ++ '=' :: (spelling.after ++ spelling.valueText)

def param : List Char × List Char := (spelling.name.map asciiLower, spelling.value)

theorem valueText_ne_nil : spelling.valueText ≠ [] := by
  unfold valueText
  split
  · simp
  next plain => exact (spelling.bare (by simpa using plain)).given

theorem rdropWhile_valueText : spelling.valueText.rdropWhile isBlank = spelling.valueText := by
  unfold valueText
  split
  next =>
    rw [← List.cons_append]
    exact List.rdropWhile_concat_neg _ _ _ (by decide)
  next plain => exact (ends_of_trimmed (spelling.bare (by simpa using plain)).trimmed).2

theorem rdropWhile_text : spelling.text.rdropWhile isBlank = spelling.text := by
  have shape : spelling.text =
      spelling.name ++ spelling.before ++ '=' :: spelling.after ++ spelling.valueText := by
    simp [text]
  rw [shape, rdropWhile_append_eq _ spelling.valueText_ne_nil spelling.rdropWhile_valueText]

theorem text_ne_nil : spelling.text ≠ [] := by simp [text]

end Spelling

theorem isGap_of_isBlank (c : Char) (blank : isBlank c = true) : isGap c = true := by
  simp [isGap, blank]

theorem cutValue_blank {blanks : List Char} (blank : ∀ c ∈ blanks, isBlank c = true)
    (text : List Char) : cutValue (blanks ++ text) = cutValue text := by
  have start : trimLeft (blanks ++ text) = trimLeft text := List.dropWhile_append_of_pos blank
  rw [cutValue, cutValue, start]

theorem params_spelling (spelling : Spelling) {rest : List Char}
    (ends : ∀ c ∈ (trimLeft rest).head?, c = ',') :
    params (spelling.text ++ rest) = (spelling.name, spelling.value) :: params rest := by
  have before : ∀ c ∈ spelling.before, isBlank c = true :=
    fun c member => spelling.blank c (List.mem_append_left _ member)
  have after : ∀ c ∈ spelling.after, isBlank c = true :=
    fun c member => spelling.blank c (List.mem_append_right _ member)
  have shape : spelling.text ++ rest = spelling.name ++ (spelling.before ++
      '=' :: (spelling.after ++ (spelling.valueText ++ rest))) := by
    simp [Spelling.text]
  have value : (cutValue (spelling.valueText ++ rest)).1 = spelling.value ∧
      params (cutValue (spelling.valueText ++ rest)).2 = params rest := by
    unfold Spelling.valueText
    split
    next =>
      have cut : cutValue ('"' :: (spelling.value.flatMap escapeChar ++ '"' :: rest)) =
          (spelling.value, rest) := cutQuoted_escaped spelling.value rest
      rw [List.cons_append, List.append_assoc, List.singleton_append, cut]
      exact ⟨rfl, rfl⟩
    next plain =>
      rw [cutValue_unquoted (spelling.bare (by simpa using plain)) ends]
      exact ⟨rfl, params_of_same_start (dropWhile_dropWhile_of_imp isGap_of_isBlank rest)⟩
  have assigned : cutAssigned ('=' :: (spelling.after ++ (spelling.valueText ++ rest))) =
      cutValue (spelling.valueText ++ rest) := cutValue_blank after _
  rw [shape, params_spaced_name spelling.named before (by simp [isNameChar]), assigned, value.1,
    value.2]

/-! ### Whole challenges -/

/-- A challenge as it may be written: the scheme, a blank, and parameters with blanks and commas
before each of them and after the last, at least one comma between two parameters. -/
structure Written where
  scheme : List Char
  space : Char
  pieces : List (List Char × Spelling)
  rest : List Char
  digest : scheme.map asciiLower = ['d', 'i', 'g', 'e', 's', 't'] := by decide
  blank : isBlank space = true := by decide
  gaps : ∀ piece ∈ pieces, ∀ c ∈ piece.1, isGap c = true := by decide
  commas : ∀ piece ∈ pieces.tail, ',' ∈ piece.1 := by decide
  ends : ∀ c ∈ rest, isGap c = true := by decide

namespace Written

def piecesText (pieces : List (List Char × Spelling)) : List Char :=
  pieces.flatMap fun piece => piece.1 ++ piece.2.text

def text (written : Written) : String :=
  String.ofList (written.scheme ++ written.space :: (piecesText written.pieces ++ written.rest))

def params (written : Written) : List (List Char × List Char) :=
  written.pieces.map fun piece => piece.2.param

end Written

/-- Blanks end at a comma when commas and blanks are followed by nothing or hold a comma. -/
theorem ends_of_gap {gap : List Char} (only : ∀ c ∈ gap, isGap c = true) {rest : List Char}
    (comma : rest = [] ∨ ',' ∈ gap) : ∀ c ∈ (trimLeft (gap ++ rest)).head?, c = ',' := by
  induction gap with
  | nil =>
    rcases comma with rfl | none
    · simp [trimLeft]
    · cases none
  | cons d more ih =>
    obtain ⟨here, later⟩ := List.forall_mem_cons.mp only
    by_cases space : isBlank d = true
    · have skipped : trimLeft (d :: more ++ rest) = trimLeft (more ++ rest) :=
        List.dropWhile_cons_of_pos space
      rw [skipped]
      apply ih later
      rcases comma with gone | held
      · exact Or.inl gone
      · rcases List.mem_cons.mp held with same | inside
        · rw [← same] at space
          cases space
        · exact Or.inr inside
    · have stays : trimLeft (d :: more ++ rest) = d :: (more ++ rest) :=
        List.dropWhile_cons_of_neg space
      have mark : d = ',' := by simpa [isGap, space] using here
      intro c first
      rw [stays, List.head?_cons, Option.mem_some_iff] at first
      rw [← first, mark]

/-- Parameters with gaps between them are read one by one. -/
theorem params_pieces {pieces : List (List Char × Spelling)} {rest : List Char}
    (gaps : ∀ piece ∈ pieces, ∀ c ∈ piece.1, isGap c = true)
    (commas : ∀ piece ∈ pieces.tail, ',' ∈ piece.1) (ends : ∀ c ∈ rest, isGap c = true) :
    params (Written.piecesText pieces ++ rest) =
      pieces.map fun piece => (piece.2.name, piece.2.value) := by
  induction pieces with
  | nil =>
    have gone : rest.dropWhile isGap = [] := List.dropWhile_eq_nil_iff.mpr ends
    exact (params_of_same_start gone).trans params_nil
  | cons piece more ih =>
    obtain ⟨gap, spelling⟩ := piece
    obtain ⟨own, others⟩ := List.forall_mem_cons.mp gaps
    have commas_later : ∀ piece ∈ more.tail, ',' ∈ piece.1 :=
      fun piece member => commas piece (List.mem_of_mem_tail member)
    have follows : ∀ c ∈ (trimLeft (Written.piecesText more ++ rest)).head?, c = ',' := by
      cases more with
      | nil =>
        have start := ends_of_gap ends (Or.inl rfl)
        rwa [List.append_nil] at start
      | cons next later =>
        have comma : ',' ∈ next.1 := commas next (by simp)
        have shape : Written.piecesText (next :: later) ++ rest =
            next.1 ++ (next.2.text ++ (Written.piecesText later ++ rest)) := by
          simp [Written.piecesText]
        rw [shape]
        exact ends_of_gap (others next (by simp)) (Or.inr comma)
    have shape : Written.piecesText ((gap, spelling) :: more) ++ rest =
        gap ++ (spelling.text ++ (Written.piecesText more ++ rest)) := by
      simp [Written.piecesText]
    have skipped : params (gap ++ (spelling.text ++ (Written.piecesText more ++ rest))) =
        params (spelling.text ++ (Written.piecesText more ++ rest)) :=
      params_of_same_start (List.dropWhile_append_of_pos own)
    rw [shape, skipped, params_spelling spelling follows, ih others commas_later, List.map_cons]

theorem rdropWhile_pieces (pieces : List (List Char × Spelling)) (rest : List Char) :
    (Written.piecesText pieces ++ rest).rdropWhile isBlank =
      Written.piecesText pieces ++ rest.rdropWhile isBlank := by
  rcases List.eq_nil_or_concat pieces with rfl | ⟨front, ⟨gap, last⟩, rfl⟩
  · rfl
  · have shape : Written.piecesText (front ++ [(gap, last)]) =
        Written.piecesText front ++ gap ++ last.text := by
      simp [Written.piecesText]
    apply rdropWhile_append_of_trimmed
    rw [List.concat_eq_append, shape, rdropWhile_append_eq _ last.text_ne_nil last.rdropWhile_text]

namespace Written

variable (written : Written)

theorem isBlank_of_mem_scheme : ∀ c ∈ written.scheme, isBlank c = false := by
  have table : ∀ d ∈ ['d', 'i', 'g', 'e', 's', 't'], isBlank d = false := by decide
  intro c member
  rw [← isBlank_asciiLower]
  apply table
  rw [← written.digest]
  exact List.mem_map_of_mem member

theorem scheme_ne_nil : written.scheme ≠ [] := by
  intro empty
  have digest := written.digest
  rw [empty] at digest
  cases digest

theorem trim_text :
    trim written.text.toList = written.scheme ++
      trimRight (written.space :: (piecesText written.pieces ++ written.rest)) := by
  rw [text, String.toList_ofList,
    trim_append_of_solid written.scheme_ne_nil written.isBlank_of_mem_scheme,
    trimRight_eq_rdropWhile]

end Written

theorem parse?_text (written : Written) :
    Challenge.parse? written.text =
      ofParams? (written.pieces.map fun piece => (piece.2.name, piece.2.value)) := by
  let after := written.rest.rdropWhile isBlank
  have ends : ∀ c ∈ after, isGap c = true :=
    fun c member => written.ends c ((List.rdropWhile_prefix isBlank _).subset member)
  have body : trimRight (Written.piecesText written.pieces ++ written.rest) =
      Written.piecesText written.pieces ++ after := by
    rw [trimRight_eq_rdropWhile, rdropWhile_pieces]
  rw [Challenge.parse?, written.trim_text, trimRight, body]
  split
  next nothing =>
    -- Nothing but blanks follows the scheme: there are no parameters.
    have empty : written.pieces = [] := by
      cases shown : written.pieces with
      | nil => rfl
      | cons piece more =>
        have longer := piece.2.text_ne_nil
        rw [shown] at nothing
        simp [Written.piecesText, longer] at nothing
    have uncut : cutAt? isBlank written.scheme = none :=
      (cutAt?_eq_none_iff _ _).mpr written.isBlank_of_mem_scheme
    simp only [written.blank, ↓reduceIte, List.append_nil, uncut, empty, List.map_nil]
    rfl
  next kept _ =>
    have cut : cutAt? isBlank (written.scheme ++ written.space ::
        (Written.piecesText written.pieces ++ after)) =
          some (written.scheme, Written.piecesText written.pieces ++ after) :=
      cutAt?_append written.isBlank_of_mem_scheme written.blank _
    simp only [cut, Option.bind_eq_bind, Option.bind_some, written.digest, ↓reduceIte,
      params_pieces written.gaps written.commas ends]

/-! ### What parameters say -/

def lowered (given : List (List Char × List Char)) : List (List Char × List Char) :=
  given.map fun param => (param.1.map asciiLower, param.2)

theorem mem_allValues_iff (given : List (List Char × List Char)) (name : String)
    (value : List Char) :
    value ∈ allValues name given ↔ (name.toList, value) ∈ lowered given := by
  simp only [allValues, lowered, List.mem_map, List.mem_filter, beq_iff_eq, Prod.ext_iff]
  constructor
  · rintro ⟨param, ⟨member, same⟩, said⟩
    exact ⟨param, member, by rw [← same, String.toList_ofList], said⟩
  · rintro ⟨param, member, same, said⟩
    exact ⟨param, ⟨member, by rw [same, String.ofList_toList]⟩, said⟩

theorem lastValue?_eq_getLast? (given : List (List Char × List Char)) (name : String) :
    lastValue? name given = (allValues name given).getLast? := by
  rw [lastValue?, allValues, ← List.head?_filter, List.filter_reverse, List.head?_reverse,
    List.getLast?_map]

section

variable {given : List (List Char × List Char)} (distinct : ((lowered given).map Prod.fst).Nodup)

include distinct

theorem length_allValues_le (name : String) : (allValues name given).length ≤ 1 := by
  have named (letters : List Char) :
      (String.ofList letters == name) = (letters == name.toList) := by
    rw [Bool.eq_iff_iff, beq_iff_eq, beq_iff_eq, ← String.toList_inj, String.toList_ofList]
  calc (allValues name given).length
    _ = given.countP fun param => String.ofList (param.1.map asciiLower) == name := by
      rw [allValues, List.length_map, List.countP_eq_length_filter]
    _ = ((lowered given).map Prod.fst).count name.toList := by
      simp only [lowered, List.count_eq_countP, List.countP_map, named, Function.comp_def]
    _ ≤ 1 := List.nodup_iff_count_le_one.mp distinct _

theorem allValues_eq (name : String) : allValues name given = (lastValue? name given).toList := by
  have few := length_allValues_le distinct name
  rw [lastValue?_eq_getLast?]
  match shown : allValues name given with
  | [] => rfl
  | [value] => rfl
  | first :: second :: more =>
    rw [shown] at few
    simp at few

theorem lastValue?_eq_some_iff (name : String) (value : List Char) :
    lastValue? name given = some value ↔ (name.toList, value) ∈ lowered given := by
  rw [← mem_allValues_iff, allValues_eq distinct name, Option.mem_toList]

end

def ofValues? (realm nonce token algorithm quality : Option (List Char)) : Option Challenge := do
  let algorithm ← algorithm.elim (some .md5) algorithm?
  if quality.any (!offersAuth ·) then none
  else
    let realm ← realm
    let nonce ← nonce
    return {
      realm := String.ofList realm
      nonce := String.ofList nonce
      token := token.map String.ofList
      algorithm
      qopAuth := quality.isSome }

theorem ofParams?_eq_ofValues? {given : List (List Char × List Char)}
    (distinct : ((lowered given).map Prod.fst).Nodup) :
    ofParams? given =
      ofValues? (lastValue? "realm" given) (lastValue? "nonce" given) (lastValue? "opaque" given)
        (lastValue? "algorithm" given) (lastValue? "qop" given) := by
  rw [ofParams?, ofValues?, allValues_eq distinct]
  cases lastValue? "algorithm" given with
  | none => rfl
  | some name => cases shown : algorithm? name <;> simp [shown]

theorem algorithm?_eq_some_iff (name : List Char) (algorithm : Algorithm) :
    algorithm? name = some algorithm ↔
      name.map asciiLower = algorithm.name.toList.map asciiLower := by
  have plain : Algorithm.md5.name.toList.map asciiLower = "md5".toList := by decide
  have session : Algorithm.md5Session.name.toList.map asciiLower = "md5-sess".toList := by decide
  have same (text : String) : String.ofList (name.map asciiLower) = text ↔
      name.map asciiLower = text.toList := by
    rw [← String.toList_inj, String.toList_ofList]
  simp only [algorithm?, same]
  split
  next md5 =>
    rw [md5]
    cases algorithm with
    | md5 => exact iff_of_true rfl plain.symm
    | md5Session => exact iff_of_false (by decide) (by decide)
  next other =>
    split
    next sess =>
      rw [sess]
      cases algorithm with
      | md5 => exact iff_of_false (by decide) (by decide)
      | md5Session => exact iff_of_true rfl session.symm
    next another =>
      cases algorithm with
      | md5 => exact iff_of_false (by simp) (by rwa [plain])
      | md5Session => exact iff_of_false (by simp) (by rwa [session])

theorem exists_algorithm?_iff (name : List Char) :
    (∃ algorithm, algorithm? name = some algorithm) ↔
      name.map asciiLower = "md5".toList ∨ name.map asciiLower = "md5-sess".toList := by
  simp only [algorithm?_eq_some_iff]
  constructor
  · intro known
    obtain ⟨algorithm, named⟩ := known
    cases algorithm with
    | md5 => exact Or.inl named
    | md5Session => exact Or.inr named
  · intro known
    rcases known with plain | session
    · exact ⟨.md5, plain⟩
    · exact ⟨.md5Session, session⟩

theorem offersAuth_iff (list : List Char) :
    offersAuth list = true ↔
      ∃ quality ∈ list.splitOn ',', (trim quality).map asciiLower = "auth".toList := by
  simp [offersAuth, splitAt_eq_splitOn]

structure IsAnswerable (said : List (List Char × List Char)) : Prop where
  realm : ∃ realm, ("realm".toList, realm) ∈ said
  nonce : ∃ nonce, ("nonce".toList, nonce) ∈ said
  algorithm : ∀ name, ("algorithm".toList, name) ∈ said →
    name.map asciiLower = "md5".toList ∨ name.map asciiLower = "md5-sess".toList
  quality : ∀ list, ("qop".toList, list) ∈ said →
    ∃ quality ∈ list.splitOn ',', (trim quality).map asciiLower = "auth".toList

structure Challenge.Tells (challenge : Challenge) (said : List (List Char × List Char)) : Prop where
  realm : ("realm".toList, challenge.realm.toList) ∈ said
  nonce : ("nonce".toList, challenge.nonce.toList) ∈ said
  token : ∀ token, challenge.token = some token ↔ ("opaque".toList, token.toList) ∈ said
  algorithm : ∀ name, ("algorithm".toList, name) ∈ said →
    name.map asciiLower = challenge.algorithm.name.toList.map asciiLower
  usual : (∀ name, ("algorithm".toList, name) ∉ said) → challenge.algorithm = .md5
  quality : challenge.qopAuth = true ↔ ∃ list, ("qop".toList, list) ∈ said

theorem ofValues?_eq_some_iff (realm nonce token algorithm quality : Option (List Char))
    (challenge : Challenge) :
    ofValues? realm nonce token algorithm quality = some challenge ↔
      realm = some challenge.realm.toList ∧ nonce = some challenge.nonce.toList ∧
      token = challenge.token.map String.toList ∧
      algorithm.elim (some .md5) algorithm? = some challenge.algorithm ∧
      quality.isSome = challenge.qopAuth ∧ ∀ list ∈ quality, offersAuth list = true := by
  have offered : quality.any (!offersAuth ·) = true ↔
      ¬∀ list ∈ quality, offersAuth list = true := by
    cases quality <;> simp
  simp only [ofValues?, Option.bind_eq_bind, Option.bind_eq_some_iff]
  constructor
  · intro made
    obtain ⟨kind, named, unchecked⟩ := made
    obtain ⟨plain, checked⟩ := Option.ite_none_left_eq_some.mp unchecked
    obtain ⟨realm_text, of_realm, further⟩ := Option.bind_eq_some_iff.mp checked
    obtain ⟨nonce_text, of_nonce, last⟩ := Option.bind_eq_some_iff.mp further
    obtain rfl := Option.some.inj last
    have token_text : token = (token.map String.ofList).map String.toList := by
      cases token <;> simp
    exact ⟨by simp [of_realm], by simp [of_nonce], token_text, named, rfl,
      not_not.mp (mt offered.mpr plain)⟩
  · intro known
    obtain ⟨rfl, rfl, rfl, named, asked, plain⟩ := known
    refine ⟨challenge.algorithm, named, ?_⟩
    rw [if_neg (fun bad => offered.mp bad plain), asked]
    simp [Function.comp_def]

section

variable {given : List (List Char × List Char)} (distinct : ((lowered given).map Prod.fst).Nodup)

include distinct

theorem tells_of_ofParams? {challenge : Challenge} (made : ofParams? given = some challenge) :
    challenge.Tells (lowered given) := by
  rw [ofParams?_eq_ofValues? distinct, ofValues?_eq_some_iff] at made
  obtain ⟨realm, nonce, token, named, asked, _⟩ := made
  have stands := lastValue?_eq_some_iff distinct
  refine ⟨(stands _ _).mp realm, (stands _ _).mp nonce, ?_, ?_, ?_, ?_⟩
  · intro text
    rw [← stands, token]
    cases challenge.token <;> simp [String.toList_inj]
  · intro name member
    rw [(stands _ _).mpr member] at named
    exact (algorithm?_eq_some_iff _ _).mp named
  · intro absent
    have silent : lastValue? "algorithm" given = none := by
      rw [Option.eq_none_iff_forall_ne_some]
      intro name found
      exact absent name ((stands _ _).mp found)
    rw [silent] at named
    exact (Option.some.inj named).symm
  · rw [← asked, Option.isSome_iff_exists]
    exact exists_congr fun list => stands _ _

theorem isAnswerable_of_ofParams? {challenge : Challenge} (made : ofParams? given = some challenge) :
    IsAnswerable (lowered given) := by
  rw [ofParams?_eq_ofValues? distinct, ofValues?_eq_some_iff] at made
  obtain ⟨realm, nonce, _, named, _, offered⟩ := made
  have stands := lastValue?_eq_some_iff distinct
  refine ⟨⟨_, (stands _ _).mp realm⟩, ⟨_, (stands _ _).mp nonce⟩, ?_, ?_⟩
  · intro name member
    rw [(stands _ _).mpr member] at named
    exact (exists_algorithm?_iff name).mp ⟨_, named⟩
  · intro list member
    exact (offersAuth_iff list).mp (offered list ((stands _ _).mpr member))

theorem exists_ofParams?_of_isAnswerable (answerable : IsAnswerable (lowered given)) :
    ∃ challenge, ofParams? given = some challenge := by
  obtain ⟨⟨realm, of_realm⟩, ⟨nonce, of_nonce⟩, algorithm, quality⟩ := answerable
  have stands := lastValue?_eq_some_iff distinct
  have named : ∃ kind, (lastValue? "algorithm" given).elim (some .md5) algorithm? = some kind := by
    cases shown : lastValue? "algorithm" given with
    | none => exact ⟨_, rfl⟩
    | some name => exact (exists_algorithm?_iff name).mpr (algorithm name ((stands _ _).mp shown))
  obtain ⟨kind, named⟩ := named
  let challenge : Challenge := {
    realm := String.ofList realm
    nonce := String.ofList nonce
    token := (lastValue? "opaque" given).map String.ofList
    algorithm := kind
    qopAuth := (lastValue? "qop" given).isSome }
  have token : lastValue? "opaque" given = challenge.token.map String.toList := by
    simp [challenge, Function.comp_def]
  have offered : ∀ list ∈ lastValue? "qop" given, offersAuth list = true :=
    fun list found => (offersAuth_iff list).mpr (quality list ((stands _ _).mp found))
  refine ⟨challenge, ?_⟩
  rw [ofParams?_eq_ofValues? distinct, ofValues?_eq_some_iff]
  refine ⟨?_, ?_, token, named, rfl, offered⟩
  · simpa [challenge] using (stands _ _).mpr of_realm
  · simpa [challenge] using (stands _ _).mpr of_nonce

end

def knownNames : List (List Char) :=
  ["realm", "nonce", "opaque", "algorithm", "qop"].map String.toList

/-- A challenge can be answered when it names a realm and a nonce, no algorithm but those of the MD5
family, and plain authentication if it lists qualities at all. Then it is what its parameters say,
and neither their order nor other parameters among them change that. -/
theorem parse?_tells (written : Written) (distinct : (written.params.map Prod.fst).Nodup) :
    ((∃ challenge, Challenge.parse? written.text = some challenge) ↔
      IsAnswerable written.params) ∧
    (∀ challenge, Challenge.parse? written.text = some challenge →
      challenge.Tells written.params) ∧
    ∀ (other : Written) (unknown : List (List Char × List Char)),
      (other.params.map Prod.fst).Nodup → (∀ param ∈ unknown, param.1 ∉ knownNames) →
      other.params.Perm (written.params ++ unknown) →
      Challenge.parse? other.text = Challenge.parse? written.text := by
  have said (given : Written) :
      lowered (given.pieces.map fun piece => (piece.2.name, piece.2.value)) = given.params := by
    simp [lowered, Written.params, Spelling.param, Function.comp_def]
  simp only [parse?_text]
  refine ⟨?_, ?_, ?_⟩
  · rw [← said] at distinct ⊢
    constructor
    · intro read
      obtain ⟨challenge, made⟩ := read
      exact isAnswerable_of_ofParams? distinct made
    · exact exists_ofParams?_of_isAnswerable distinct
  · intro challenge made
    rw [← said] at distinct ⊢
    exact tells_of_ofParams? distinct made
  · intro other unknown other_distinct foreign perm
    rw [← said] at distinct other_distinct
    have same (name : String) (known : name.toList ∈ knownNames) :
        lastValue? name (other.pieces.map fun piece => (piece.2.name, piece.2.value)) =
          lastValue? name (written.pieces.map fun piece => (piece.2.name, piece.2.value)) := by
      apply Option.ext
      intro value
      rw [lastValue?_eq_some_iff other_distinct, lastValue?_eq_some_iff distinct, said, said,
        perm.mem_iff, List.mem_append]
      constructor
      · intro member
        rcases member with own | added
        · exact own
        · exact absurd known (foreign _ added)
      · exact Or.inl
    rw [ofParams?_eq_ofValues? other_distinct, ofParams?_eq_ofValues? distinct,
      same "realm" (by decide), same "nonce" (by decide), same "opaque" (by decide),
      same "algorithm" (by decide), same "qop" (by decide)]

def lobby : Written where
  scheme := "dIGEST".toList
  space := '\t'
  pieces := [
    (", ".toList, {
      name := "NONCE".toList, before := [' '], after := ['\t'], value := "n =1".toList
      isQuoted := false }),
    (" ,,".toList, {
      name := "Realm".toList, before := [], after := [' '], value := "hall, \"west\\".toList
      isQuoted := true }),
    ([','], {
      name := "qop".toList, before := [], after := [], value := "auth-int , AUTH".toList
      isQuoted := true })]
  rest := " ,".toList

def lobbyAgain : Written where
  scheme := "Digest".toList
  space := ' '
  pieces := [
    ([], {
      name := "QOP".toList, before := [], after := [], value := "auth-int , AUTH".toList
      isQuoted := true }),
    ([','], {
      name := "realm".toList, before := [], after := [], value := "hall, \"west\\".toList
      isQuoted := true }),
    ([','], {
      name := "stale".toList, before := [], after := [], value := "no".toList, isQuoted := false }),
    ([','], {
      name := "nonce".toList, before := [], after := [], value := "n =1".toList, isQuoted := true })]
  rest := []

theorem lobby_tells :
    lobby.text = "dIGEST\t, NONCE =\tn =1 ,,Realm= \"hall, \\\"west\\\\\",qop=\"auth-int , AUTH\" ," ∧
    (lobby.params.map Prod.fst).Nodup ∧ (lobbyAgain.params.map Prod.fst).Nodup ∧
    ∃ challenge, Challenge.parse? lobby.text = some challenge ∧
      Challenge.parse? lobbyAgain.text = some challenge ∧ challenge.Tells lobby.params := by
  have distinct : (lobby.params.map Prod.fst).Nodup := by decide
  have distinct_again : (lobbyAgain.params.map Prod.fst).Nodup := by decide
  obtain ⟨answerable, tells, again⟩ := parse?_tells lobby distinct
  have named : ∀ param ∈ lobby.params, param.1 ≠ "algorithm".toList := by decide
  have offered : ∀ param ∈ lobby.params, param.1 = "qop".toList →
      ∃ quality ∈ param.2.splitOn ',', (trim quality).map asciiLower = "auth".toList := by decide
  obtain ⟨challenge, parsed⟩ := answerable.mpr {
    realm := ⟨"hall, \"west\\".toList, by decide⟩
    nonce := ⟨"n =1".toList, by decide⟩
    algorithm := fun _ member => absurd rfl (named _ member)
    quality := fun _ member => offered _ member rfl }
  have same := again lobbyAgain [("stale".toList, "no".toList)] distinct_again (by decide) (by decide)
  exact ⟨by decide, distinct, distinct_again, challenge, parsed, same.trans parsed,
    tells challenge parsed⟩

end Courier.Digest
