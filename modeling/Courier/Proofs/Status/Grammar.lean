import Courier.Proofs.Outcome
import Courier.Proofs.Text
import Courier.Proofs.Text.Number
import Courier.Status.Range
import Mathlib.Data.Nat.Digits.Defs
/-! The grammar of range lists. A text is read exactly when each of its entries is a code or a range,
and what is read are these, in their order; otherwise the first entry that is neither decides what is
wrong with the text. -/

namespace Courier.RangeSet

/-! ### Codes -/

def numeral (digits : List Char) : Nat :=
  Nat.ofDigits 10 (digits.reverse.map fun c => c.toNat - '0'.toNat)

/-- Whether a part of an entry, blanks around it aside, is this number in digits. -/
structure IsCode (part : List Char) (code : Nat) : Prop where
  given : trim part ≠ []
  digits : ∀ c ∈ trim part, isAsciiDigit c = true
  value : numeral (trim part) = code

inductive Spoils (entry part : List Char) : RangeError → Prop where
  | wordy (other : trim part = [] ∨ ∃ c ∈ trim part, isAsciiDigit c = false) :
      Spoils entry part (.malformed (String.ofList entry))
  | huge {code : Nat} (read : IsCode part code) (most : 2 ^ 32 ≤ code) :
      Spoils entry part (.malformed (String.ofList entry))
  | beyond {code : Nat} (read : IsCode part code) (least : 599 < code) (most : code < 2 ^ 32) :
      Spoils entry part (.outOfBounds code)

theorem numeral_cons (c : Char) (rest : List Char) :
    numeral (c :: rest) = (c.toNat - '0'.toNat) * 10 ^ rest.length + numeral rest := by
  simp only [numeral, List.reverse_cons, List.map_append, List.map_singleton, Nat.ofDigits_append,
    Nat.ofDigits_singleton, List.length_map, List.length_reverse]
  rw [Nat.add_comm, Nat.mul_comm]

theorem readDigits_eq {digits : List Char} (all : ∀ c ∈ digits, isAsciiDigit c = true)
    (read : Nat) :
    readDigits 10 digits read = some (read * 10 ^ digits.length + numeral digits) := by
  induction digits generalizing read with
  | nil => simp [readDigits, numeral]
  | cons c rest ih =>
    obtain ⟨digit, others⟩ := List.forall_mem_cons.mp all
    have value : digitValue? c = some (c.toNat - '0'.toNat) := by simp [digitValue?, digit]
    have small : c.toNat - '0'.toNat < 10 := by
      simp only [isAsciiDigit, Bool.and_eq_true, decide_eq_true_eq] at digit
      have most : c.toNat ≤ '9'.toNat := digit.2
      simp only [Char.reduceToNat] at most ⊢
      omega
    rw [readDigits, value]
    simp only [small, ↓reduceIte]
    rw [ih others, numeral_cons, List.length_cons, Nat.pow_succ]
    congr 1
    ring

theorem readCode_eq {entry part : List Char} {code : Nat} (read : IsCode part code) :
    readCode entry part =
      if codeBound ≤ code then .error (.malformed (String.ofList entry))
      else if greatestStatus < code then .error (.outOfBounds code)
      else .ok code := by
  have given : (trim part).isEmpty = false := List.isEmpty_eq_false_iff.mpr read.given
  have all : (trim part).all isAsciiDigit = true := List.all_eq_true.mpr read.digits
  have number : readDigits 10 (trim part) 0 = some code := by
    rw [readDigits_eq read.digits, read.value, Nat.zero_mul, Nat.zero_add]
  simp only [readCode, given, all, number, Bool.not_true, Bool.or_self, Bool.false_eq_true,
    ↓reduceIte]

theorem readCode_of_small {part : List Char} {code : Nat} (read : IsCode part code)
    (most : code ≤ 599) (entry : List Char) : readCode entry part = .ok code := by
  have bounds : ¬codeBound ≤ code ∧ ¬greatestStatus < code := by
    unfold codeBound greatestStatus
    omega
  rw [readCode_eq read, if_neg bounds.1, if_neg bounds.2]

theorem readCode_of_spoils {entry part : List Char} {error : RangeError}
    (spoils : Spoils entry part error) : readCode entry part = .error error := by
  cases spoils with
  | wordy other =>
    have refused : ((trim part).isEmpty || !(trim part).all isAsciiDigit) = true := by
      rcases other with none | ⟨c, member, word⟩
      · simp [none]
      · simp only [Bool.or_eq_true, Bool.not_eq_true', List.all_eq_false]
        exact Or.inr ⟨c, member, by simp [word]⟩
    rw [readCode]
    simp only [refused, ↓reduceIte]
  | @huge code read most =>
    have bound : codeBound ≤ code := most
    rw [readCode_eq read, if_pos bound]
  | @beyond code read least most =>
    have bounds : ¬codeBound ≤ code ∧ greatestStatus < code := by
      unfold codeBound greatestStatus
      omega
    rw [readCode_eq read, if_neg bounds.1, if_pos bounds.2]

theorem isCode_or_spoils (entry part : List Char) :
    (∃ code ≤ 599, IsCode part code) ∨ ∃ error, Spoils entry part error := by
  by_cases other : trim part = [] ∨ ∃ c ∈ trim part, isAsciiDigit c = false
  · exact Or.inr ⟨_, .wordy other⟩
  · simp only [not_or, not_exists, not_and, Bool.not_eq_false] at other
    have read : IsCode part (numeral (trim part)) := ⟨other.1, other.2, rfl⟩
    by_cases small : numeral (trim part) ≤ 599
    · exact Or.inl ⟨_, small, read⟩
    by_cases huge : 2 ^ 32 ≤ numeral (trim part)
    · exact Or.inr ⟨_, .huge read huge⟩
    · exact Or.inr ⟨_, .beyond read (by omega) (by omega)⟩

theorem IsCode.colon {part : List Char} {code : Nat} (read : IsCode part code) : ':' ∉ part := by
  intro member
  have digit := read.digits ':' (mem_trim_of_solid member (by decide))
  cases digit

/-! ### Entries -/

inductive Means (entry : List Char) : StatusRange → Prop where
  | code {code : Nat} (read : IsCode entry code) (most : code ≤ 599) :
      Means entry (.single code)
  | range {low high : List Char} {first last : Nat} (split : entry = low ++ ':' :: high)
      (read_low : IsCode low first) (read_high : IsCode high last) (ordered : first ≤ last)
      (most : last ≤ 599) : Means entry ⟨first, last, ordered⟩

inductive Breaks (whole entry : List Char) : RangeError → Prop where
  | blank (nothing : entry = []) : Breaks whole entry (.empty (String.ofList whole))
  | crowded (many : 2 < (entry.splitOn ':').length) :
      Breaks whole entry (.malformed (String.ofList entry))
  | part {before after : List (List Char)} {part : List Char} {error : RangeError}
      (given : entry ≠ []) (parts : entry.splitOn ':' = before ++ part :: after)
      (few : (entry.splitOn ':').length ≤ 2)
      (fine : ∀ earlier ∈ before, ∃ code ≤ 599, IsCode earlier code)
      (spoils : Spoils entry part error) : Breaks whole entry error
  | inverted {low high : List Char} {first last : Nat} (split : entry = low ++ ':' :: high)
      (read_low : IsCode low first) (read_high : IsCode high last) (most : first ≤ 599)
      (ordered : last < first) : Breaks whole entry (.inverted (String.ofList entry))

theorem splitOn_pair {low high : List Char} {first last : Nat} (read_low : IsCode low first)
    (read_high : IsCode high last) : (low ++ ':' :: high).splitOn ':' = [low, high] := by
  have clear : ∀ part ∈ [low, high], ':' ∉ part := by
    simpa using ⟨read_low.colon, read_high.colon⟩
  have cut : splitAt ':' (joinWith [':'] [low, high]) = [low, high] :=
    splitAt_joinWith (by simp) clear
  rwa [splitAt_eq_splitOn, joinWith_cons_cons, List.append_assoc, List.singleton_append] at cut

theorem eq_of_splitOn_single {entry part : List Char} (parts : entry.splitOn ':' = [part]) :
    entry = part := by
  have joined := joinWith_splitAt ':' entry
  rw [splitAt_eq_splitOn, parts] at joined
  exact joined.symm

theorem eq_of_splitOn_pair {entry low high : List Char} (parts : entry.splitOn ':' = [low, high]) :
    entry = low ++ ':' :: high := by
  have joined := joinWith_splitAt ':' entry
  rw [splitAt_eq_splitOn, parts, joinWith_cons_cons, List.append_assoc] at joined
  exact joined.symm

theorem readEntry_single {entry : List Char} (given : entry ≠ [])
    (parts : entry.splitOn ':' = [entry]) (whole : List Char) :
    readEntry whole entry = (readCode entry entry).map StatusRange.single := by
  have shown : entry.isEmpty = false := List.isEmpty_eq_false_iff.mpr given
  simp only [readEntry, shown, splitAt_eq_splitOn, parts]
  cases readCode entry entry with
  | error error => rfl
  | ok code =>
    simp [Except.map, bind, Except.bind, pure, Except.pure, StatusRange.new?, StatusRange.single]

theorem readEntry_pair {entry low high : List Char} (parts : entry.splitOn ':' = [low, high])
    (whole : List Char) :
    readEntry whole entry = (do
      let first ← readCode entry low
      let last ← readCode entry high
      match StatusRange.new? first last with
      | some range => .ok range
      | none => .error (.inverted (String.ofList entry))) := by
  have shown : entry.isEmpty = false := by
    cases entry with
    | nil => cases parts
    | cons c rest => rfl
  simp only [readEntry, shown, splitAt_eq_splitOn, parts]
  cases readCode entry low with
  | error error => rfl
  | ok first =>
    cases readCode entry high with
    | error error => rfl
    | ok last => rfl

theorem readEntry_of_means {entry : List Char} {range : StatusRange} (means : Means entry range)
    (whole : List Char) : readEntry whole entry = .ok range := by
  cases means with
  | @code code read most =>
    have given : entry ≠ [] := by
      intro nothing
      rw [nothing] at read
      exact read.given rfl
    have parts : entry.splitOn ':' = [entry] := by
      rw [← splitAt_eq_splitOn, splitAt_of_clear read.colon]
    rw [readEntry_single given parts, readCode_of_small read most]
    rfl
  | @range low high first last split read_low read_high ordered most =>
    have parts : entry.splitOn ':' = [low, high] := by rw [split, splitOn_pair read_low read_high]
    rw [readEntry_pair parts, readCode_of_small read_low (Nat.le_trans ordered most),
      readCode_of_small read_high most]
    simp only [bind, Except.bind, StatusRange.new?, ordered, ↓reduceDIte]

theorem readEntry_of_crowded {entry : List Char} (many : 2 < (entry.splitOn ':').length)
    (whole : List Char) : readEntry whole entry = .error (.malformed (String.ofList entry)) := by
  match parts : entry.splitOn ':' with
  | [] => simp [parts] at many
  | [only] => simp [parts] at many
  | [low, high] => simp [parts] at many
  | low :: high :: third :: more =>
    have given : entry.isEmpty = false := by
      cases entry with
      | nil => cases parts
      | cons c rest => rfl
    simp only [readEntry, given, splitAt_eq_splitOn, parts]
    rfl

/-- The first part that is no code decides what is wrong with an entry. -/
theorem readEntry_of_part {entry part : List Char} {before after : List (List Char)}
    {error : RangeError} (given : entry ≠ []) (parts : entry.splitOn ':' = before ++ part :: after)
    (few : (entry.splitOn ':').length ≤ 2)
    (fine : ∀ earlier ∈ before, ∃ code ≤ 599, IsCode earlier code)
    (spoils : Spoils entry part error) (whole : List Char) : readEntry whole entry = .error error := by
  rw [parts, List.length_append, List.length_cons] at few
  cases before with
  | nil =>
    cases after with
    | nil =>
      have same : entry = part := eq_of_splitOn_single parts
      rw [← same] at parts spoils
      rw [readEntry_single given parts, readCode_of_spoils spoils]
      rfl
    | cons high more =>
      rw [List.length_nil, List.length_cons] at few
      have last : more = [] := List.eq_nil_of_length_eq_zero (by omega)
      rw [last] at parts
      rw [readEntry_pair parts, readCode_of_spoils spoils]
      rfl
  | cons low more =>
    obtain ⟨code, most, read⟩ := fine low (by simp)
    rw [List.length_cons] at few
    have middle : more = [] := List.eq_nil_of_length_eq_zero (by omega)
    have last : after = [] := List.eq_nil_of_length_eq_zero (by omega)
    rw [middle, last] at parts
    rw [readEntry_pair parts, readCode_of_small read most, readCode_of_spoils spoils]
    rfl

theorem readEntry_of_breaks {whole entry : List Char} {error : RangeError}
    (breaks : Breaks whole entry error) : readEntry whole entry = .error error := by
  cases breaks with
  | blank nothing =>
    rw [nothing]
    rfl
  | crowded many => exact readEntry_of_crowded many whole
  | part given parts few fine spoils => exact readEntry_of_part given parts few fine spoils whole
  | @inverted low high first last split read_low read_high most ordered =>
    have parts : entry.splitOn ':' = [low, high] := by rw [split, splitOn_pair read_low read_high]
    have other : ¬first ≤ last := by omega
    rw [readEntry_pair parts, readCode_of_small read_low most,
      readCode_of_small read_high (by omega)]
    simp only [bind, Except.bind, StatusRange.new?, other, ↓reduceDIte]

/-- An entry says something or something is wrong with it. -/
theorem means_or_breaks (whole entry : List Char) :
    (∃ range, Means entry range) ∨ ∃ error, Breaks whole entry error := by
  by_cases nothing : entry = []
  · exact Or.inr ⟨_, .blank nothing⟩
  match parts : entry.splitOn ':' with
  | [] => exact absurd parts (List.splitOn_ne_nil ':' entry)
  | [only] =>
    obtain rfl := eq_of_splitOn_single parts
    rcases isCode_or_spoils entry entry with ⟨code, most, read⟩ | ⟨error, spoils⟩
    · exact Or.inl ⟨_, .code read most⟩
    · have first : entry.splitOn ':' = [] ++ entry :: [] := parts
      exact Or.inr ⟨error, .part nothing first (by simp [parts]) (by simp) spoils⟩
  | [low, high] =>
    rcases isCode_or_spoils entry low with ⟨first, most_low, read_low⟩ | ⟨error, spoils⟩
    · rcases isCode_or_spoils entry high with ⟨last, most_high, read_high⟩ | ⟨error, spoils⟩
      · have split := eq_of_splitOn_pair parts
        by_cases ordered : first ≤ last
        · exact Or.inl ⟨_, .range split read_low read_high ordered most_high⟩
        · exact Or.inr ⟨_, .inverted split read_low read_high most_low (by omega)⟩
      · have second : entry.splitOn ':' = [low] ++ high :: [] := parts
        have fine : ∀ earlier ∈ [low], ∃ code ≤ 599, IsCode earlier code := by
          simpa using ⟨first, most_low, read_low⟩
        exact Or.inr ⟨error, .part nothing second (by simp [parts]) fine spoils⟩
    · have leading : entry.splitOn ':' = [] ++ low :: [high] := parts
      exact Or.inr ⟨error, .part nothing leading (by simp [parts]) (by simp) spoils⟩
  | low :: high :: third :: more =>
    exact Or.inr ⟨_, .crowded (by simp [parts])⟩

theorem readEntry_eq_ok_iff (whole entry : List Char) (range : StatusRange) :
    readEntry whole entry = .ok range ↔ Means entry range := by
  constructor
  · intro read
    rcases means_or_breaks whole entry with ⟨other, means⟩ | ⟨error, breaks⟩
    · rw [readEntry_of_means means] at read
      exact Except.ok.inj read ▸ means
    · rw [readEntry_of_breaks breaks] at read
      cases read
  · intro means
    exact readEntry_of_means means whole

theorem readEntry_eq_error_iff (whole entry : List Char) (error : RangeError) :
    readEntry whole entry = .error error ↔ Breaks whole entry error := by
  constructor
  · intro failed
    rcases means_or_breaks whole entry with ⟨range, means⟩ | ⟨other, breaks⟩
    · rw [readEntry_of_means means] at failed
      cases failed
    · rw [readEntry_of_breaks breaks] at failed
      exact Except.error.inj failed ▸ breaks
  · exact readEntry_of_breaks

/-! ### Texts -/

def entries (text : String) : List (List Char) := (text.toList.splitOn ',').map trim

theorem ofText_eq_mapM (text : String) :
    ofText text =
      ((entries text).mapM fun entry => readEntry text.toList entry).map RangeSet.mk := by
  rw [ofText, read, splitAt_eq_splitOn, entries, List.mapM_map]
  rfl

theorem ofText_eq_ok_iff (text : String) (set : RangeSet) :
    ofText text = .ok set ↔ List.Forall₂ Means (entries text) set.ranges := by
  rw [ofText_eq_mapM, Outcome.map_eq_ok_iff]
  simp only [Outcome.mapM_eq_ok_iff, readEntry_eq_ok_iff]
  constructor
  · intro known
    obtain ⟨ranges, each, made⟩ := known
    rw [← made]
    exact each
  · intro each
    exact ⟨set.ranges, each, rfl⟩

/-- The first entry that is wrong decides what is wrong with a text. -/
theorem ofText_eq_error_iff (text : String) (error : RangeError) :
    ofText text = .error error ↔
      ∃ before entry after, entries text = before ++ entry :: after ∧
        (∀ earlier ∈ before, ∃ range, Means earlier range) ∧ Breaks text.toList entry error := by
  have reads (entry : List Char) : (∃ range, readEntry text.toList entry = .ok range) ↔
      ∃ range, Means entry range := exists_congr fun range => readEntry_eq_ok_iff _ _ range
  rw [ofText_eq_mapM]
  constructor
  · intro failed
    cases outcome : (entries text).mapM fun entry => readEntry text.toList entry with
    | ok ranges =>
      rw [outcome] at failed
      cases failed
    | error other =>
      rw [outcome] at failed
      obtain rfl := Except.error.inj failed
      obtain ⟨before, entry, after, split, fine, fails⟩ := Outcome.exists_first_error outcome
      have earlier_mean : ∀ earlier ∈ before, ∃ range, Means earlier range :=
        fun earlier member => (reads earlier).mp (fine earlier member)
      exact ⟨before, entry, after, split, earlier_mean, (readEntry_eq_error_iff _ _ _).mp fails⟩
  · intro blamed
    obtain ⟨before, entry, after, split, fine, breaks⟩ := blamed
    have earlier_read : ∀ earlier ∈ before, ∃ range, readEntry text.toList earlier = .ok range :=
      fun earlier member => (reads earlier).mpr (fine earlier member)
    rw [split, Outcome.mapM_first_error earlier_read (readEntry_of_breaks breaks)]
    rfl

theorem exists_ofText_iff (text : String) :
    (∃ set, ofText text = .ok set) ↔ ∀ entry ∈ entries text, ∃ range, Means entry range := by
  constructor
  · intro known entry member
    obtain ⟨set, taken⟩ := known
    obtain ⟨range, _, means⟩ :=
      Outcome.exists_of_mem_forall₂ ((ofText_eq_ok_iff text set).mp taken) member
    exact ⟨range, means⟩
  · intro each
    cases outcome : ofText text with
    | ok set => exact ⟨set, rfl⟩
    | error error =>
      obtain ⟨before, entry, after, split, _, breaks⟩ := (ofText_eq_error_iff text error).mp outcome
      obtain ⟨range, means⟩ := each entry (by simp [split])
      have read := readEntry_of_means means text.toList
      rw [readEntry_of_breaks breaks] at read
      cases read

/-! ### Statuses -/

theorem Means.bounded {entry : List Char} {range : StatusRange} (means : Means entry range) :
    range.low ≤ range.high ∧ range.high ≤ 599 := by
  refine ⟨range.ordered, ?_⟩
  cases means with
  | code read most => exact most
  | range split read_low read_high ordered most => exact most

theorem contains_range_iff (range : StatusRange) (status : Nat) :
    range.contains status = true ↔ range.low ≤ status ∧ status ≤ range.high := by
  simp [StatusRange.contains]

theorem contains_iff (set : RangeSet) (status : Nat) :
    set.contains status = true ↔
      ∃ range ∈ set.ranges, range.low ≤ status ∧ status ≤ range.high := by
  simp only [contains, matching?, List.find?_isSome, contains_range_iff]

theorem matching?_eq_some_iff (set : RangeSet) (status : Nat) (range : StatusRange) :
    set.matching? status = some range ↔
      ∃ before after, set.ranges = before ++ range :: after ∧
        (range.low ≤ status ∧ status ≤ range.high) ∧
        ∀ earlier ∈ before, ¬(earlier.low ≤ status ∧ status ≤ earlier.high) := by
  simp only [matching?, List.find?_eq_some_iff_append, contains_range_iff, Bool.not_eq_true',
    Bool.eq_false_iff, ne_eq]
  constructor
  · intro found
    obtain ⟨holds, before, after, split, others⟩ := found
    exact ⟨before, after, split, holds, others⟩
  · intro found
    obtain ⟨before, after, split, holds, others⟩ := found
    exact ⟨holds, before, after, split, others⟩

theorem parse_some (text : String) :
    parse (some text) =
      if trim text.toList = [] then .ok default else ofText (String.ofList (trim text.toList)) := by
  rw [ofText, String.toList_ofList]
  cases kept : trim text.toList with
  | nil => simp [parse, kept]
  | cons c rest => simp [parse, kept]

/-- A text is read by the grammar: it is taken when every entry is a code or a range, and then as
these in their order, of which the first that holds a status matches it; otherwise the first entry
that is neither is blamed. An optional text is read without the blanks around it, and stands for the
default ranges when nothing is left. -/
theorem ofText_follows_grammar (text : String) :
    ((∃ set, ofText text = .ok set) ↔ ∀ entry ∈ entries text, ∃ range, Means entry range) ∧
    (∀ set, ofText text = .ok set ↔ List.Forall₂ Means (entries text) set.ranges) ∧
    (∀ set, ofText text = .ok set →
      (∀ range ∈ set.ranges, range.low ≤ range.high ∧ range.high ≤ 599) ∧
      ∀ status,
        (set.contains status = true ↔
          ∃ range ∈ set.ranges, range.low ≤ status ∧ status ≤ range.high) ∧
        ∀ range, set.matching? status = some range ↔
          ∃ before after, set.ranges = before ++ range :: after ∧
            (range.low ≤ status ∧ status ≤ range.high) ∧
            ∀ earlier ∈ before, ¬(earlier.low ≤ status ∧ status ≤ earlier.high)) ∧
    (∀ error, ofText text = .error error ↔
      ∃ before entry after, entries text = before ++ entry :: after ∧
        (∀ earlier ∈ before, ∃ range, Means earlier range) ∧ Breaks text.toList entry error) ∧
    parse none = .ok default ∧
    parse (some text) =
      if trim text.toList = [] then .ok default else ofText (String.ofList (trim text.toList)) := by
  refine ⟨exists_ofText_iff text, ofText_eq_ok_iff text, ?_, ofText_eq_error_iff text, rfl,
    parse_some text⟩
  intro set taken
  refine ⟨?_, fun status => ⟨contains_iff set status, matching?_eq_some_iff set status⟩⟩
  intro range member
  have each := (ofText_eq_ok_iff text set).mp taken
  obtain ⟨entry, _, means⟩ := Outcome.exists_of_mem_forall₂ each.flip member
  exact means.bounded

theorem padded_follows_grammar :
    ofText " 007 :\t99 ,404" = .ok ⟨[⟨7, 99, by decide⟩, .single 404]⟩ ∧
      (RangeSet.mk [⟨7, 99, by decide⟩, .single 404]).contains 50 = true ∧
      ofText "200, 7 :600 ,9:8" = .error (.outOfBounds 600) := by
  obtain ⟨_, taken, holds, _⟩ := ofText_follows_grammar " 007 :\t99 ,404"
  have known : ofText " 007 :\t99 ,404" = .ok ⟨[⟨7, 99, by decide⟩, .single 404]⟩ := by
    have shown : entries " 007 :\t99 ,404" =
        ["007 ".toList ++ ':' :: "\t99".toList, "404".toList] := by decide
    rw [taken, shown]
    have low : IsCode "007 ".toList 7 := ⟨by decide, List.all_eq_true.mp (by decide), by decide⟩
    have high : IsCode "\t99".toList 99 := ⟨by decide, List.all_eq_true.mp (by decide), by decide⟩
    have only : IsCode "404".toList 404 := ⟨by decide, List.all_eq_true.mp (by decide), by decide⟩
    exact .cons (.range rfl low high (by decide) (by decide)) (.cons (.code only (by decide)) .nil)
  have inside := ((holds _ known).2 50).1.mpr ⟨⟨7, 99, by decide⟩, by simp, by decide⟩
  obtain ⟨_, _, _, blamed, _⟩ := ofText_follows_grammar "200, 7 :600 ,9:8"
  refine ⟨known, inside, (blamed _).mpr ?_⟩
  have first : IsCode "200".toList 200 := ⟨by decide, List.all_eq_true.mp (by decide), by decide⟩
  have low : IsCode "7 ".toList 7 := ⟨by decide, List.all_eq_true.mp (by decide), by decide⟩
  have high : IsCode "600".toList 600 := ⟨by decide, List.all_eq_true.mp (by decide), by decide⟩
  have parts : "7 :600".toList.splitOn ':' = ["7 ".toList] ++ "600".toList :: [] := by decide
  have fine : ∀ earlier ∈ ["7 ".toList], ∃ code ≤ 599, IsCode earlier code := by
    simpa using ⟨7, by decide, low⟩
  have means : ∀ earlier ∈ ["200".toList], ∃ range, Means earlier range := by
    simpa using ⟨_, Means.code first (by decide)⟩
  exact ⟨["200".toList], "7 :600".toList, ["9:8".toList], by decide, means,
    .part (by decide) parts (by decide) fine (.beyond high (by decide) (by decide))⟩

end Courier.RangeSet
