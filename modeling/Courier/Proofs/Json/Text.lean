import Courier.Json.Reading
import Courier.Json.Writer
import Courier.Proofs.Text
import Courier.Proofs.Text.Number
/-! JSON text that was written is read again: strings and nested values as they were, and a whole
number as the number that the reader makes of its digits, whatever their count. -/

namespace Courier.Json

open Reading (pieces assemble readString takeExact numberOf readNumber readValue readItems readFields
  skipSpace isSpace greatestNatural greatestNegation)

/-! ### Numbers -/

theorem toNat_of_digitValue? {c : Char} {value : Nat} (small : value < 10)
    (given : digitValue? c = some value) : c.toNat - '0'.toNat = value := by
  unfold digitValue? at given
  split at given
  · exact Option.some.inj given
  · split at given
    · have := Option.some.inj given
      omega
    · split at given
      · have := Option.some.inj given
        omega
      · cases given

/-- Digits are taken as long as their number is exact. -/
theorem takeExact_of_readDigits {text : List Char} {read n : Nat}
    (given : readDigits 10 text read = some n) (small : n ≤ greatestNatural) :
    takeExact text read = (n, []) := by
  induction text generalizing read with
  | nil =>
    obtain rfl := Option.some.inj given
    rfl
  | cons c rest ih =>
    rw [readDigits] at given
    split at given
    next value shown =>
      obtain ⟨digit, given⟩ := Option.ite_none_right_eq_some.mp given
      have least := readDigits_ge (by omega) given
      rw [takeExact, toNat_of_digitValue? digit shown]
      rw [if_neg (by omega)]
      exact ih given
    next => cases given

theorem numberOf_decimal {n : Nat} (small : n ≤ greatestNatural) :
    numberOf false (decimal n) [] none = .ok (.natural n) := by
  have taken := takeExact_of_readDigits (readDigits_toDigits (by omega) (by omega) n) small
  rw [numberOf, decimal, taken]
  rfl

def Ends (rest : List Char) : Prop := ∀ c ∈ rest.head?, c = ',' ∨ c = ']' ∨ c = '\x7d'

theorem readNumber_decimal (minus : Bool) (n : Nat) {rest : List Char} (ends : Ends rest) :
    readNumber minus (decimal n ++ rest) =
      (.number (numberOf minus (decimal n) [] none), some rest) := by
  have after : ∀ c ∈ rest.head?, isAsciiDigit c = false := by
    intro c member
    rcases ends c member with rfl | rfl | rfl <;> decide
  have digits : ∀ c ∈ decimal n, isAsciiDigit c = true := fun c => isAsciiDigit_of_mem_decimal
  have zero : ∀ c more, decimal n ≠ '0' :: c :: more := by
    intro c more shown
    rcases Nat.eq_zero_or_pos n with rfl | positive
    · cases shown
    · obtain ⟨first, others, start, other⟩ := exists_decimal_eq_cons positive
      rw [start] at shown
      exact other (List.cons.inj shown).1
  rw [readNumber, takeWhile_part digits after, dropWhile_part digits after]
  dsimp only
  split
  next none_left => exact absurd none_left Nat.toDigits_ne_nil
  next shown => exact absurd shown (zero _ _)
  next =>
    -- Neither a point nor an exponent can follow.
    cases rest with
    | nil => rfl
    | cons c more => rcases ends c rfl with rfl | rfl | rfl <;> rfl

/-! ### Strings -/

def piece (c : Char) : Reading.Piece :=
  if c.toNat < 0x20 ∧ c ∉ ['\n', '\r', '\t', '\x08', '\x0c'] then .unit c.toNat else .char c

theorem hex4?_of_control {n : Nat} (small : n < 0x20) :
    Reading.hex4? '0' '0' (lowerHexDigit (n / 16)) (lowerHexDigit (n % 16)) = some n := by
  have table : ∀ n < 0x20, Reading.hex4? '0' '0' (lowerHexDigit (n / 16))
      (lowerHexDigit (n % 16)) = some n := by decide
  exact table n small

theorem pieces_plain {c : Char} (quote : c ≠ '"') (slash : c ≠ '\\') (visible : ¬c.toNat < 0x20)
    (more : List Char) : pieces (c :: more) = (.char c :: (pieces more).1, (pieces more).2) := by
  rw [pieces]
  · rw [if_neg visible]
  all_goals simp_all

theorem pieces_escape (c : Char) (more : List Char) :
    pieces (escape c ++ more) = (piece c :: (pieces more).1, (pieces more).2) := by
  unfold escape
  split
  case h_8 quote slash newline feed tab back page =>
    split
    next control =>
      have unit : piece c = .unit c.toNat := by
        have unnamed : c ∉ ['\n', '\r', '\t', '\x08', '\x0c'] := by
          simpa using ⟨newline, feed, tab, back, page⟩
        rw [piece, if_pos ⟨control, unnamed⟩]
      simp only [List.cons_append, List.nil_append, pieces, hex4?_of_control control, unit]
    next visible =>
      have plain : piece c = .char c := by rw [piece, if_neg fun both => visible both.1]
      rw [List.singleton_append, pieces_plain quote slash visible, plain]
  all_goals rfl

theorem pieces_quote (text rest : List Char) :
    pieces (text.flatMap escape ++ '"' :: rest) = (text.map piece, .ok rest) := by
  induction text with
  | nil => rfl
  | cons c more ih =>
    rw [List.flatMap_cons, List.append_assoc, pieces_escape, ih, List.map_cons]

theorem assemble_piece (c : Char) (more : List Reading.Piece) :
    assemble false (piece c :: more) = (assemble false more).map (c :: ·) := by
  unfold piece
  split
  next control =>
    -- A control character is no half of a pair, whatever follows it.
    have high : Reading.isHighSurrogate c.toNat = false := by
      simp only [Reading.isHighSurrogate, Bool.and_eq_false_iff, decide_eq_false_iff_not]
      omega
    have low : Reading.isLowSurrogate c.toNat = false := by
      simp only [Reading.isLowSurrogate, Bool.and_eq_false_iff, decide_eq_false_iff_not]
      omega
    rcases more with _ | ⟨_ | _, others⟩ <;>
      simp [assemble, high, low, Char.ofNat_toNat, Function.comp_def]
  next => rfl

theorem assemble_pieces (text : List Char) : assemble false (text.map piece) = some text := by
  induction text with
  | nil => rfl
  | cons c more ih => rw [List.map_cons, assemble_piece, ih, Option.map_some]

theorem readString_quote (text : String) (rest : List Char) :
    readString (text.toList.flatMap escape ++ '"' :: rest) = .ok (.ok text, rest) := by
  rw [readString, pieces_quote]
  simp only [assemble_pieces, String.ofList_toList]

/-! ### Values -/

/-- What is read from the text of a number. The text of a real number is not looked at here. -/
def Number.reread : Number → Except Flaw Number
  | .natural n => numberOf false (decimal n) [] none
  | .negative n => numberOf true (decimal n) [] none
  | .real minus digits exponent => .ok (.real minus digits exponent)

mutual

def reading : Json → Reading
  | .null => .null
  | .bool value => .bool value
  | .number value => .number value.reread
  | .string value => .string (.ok value)
  | .array items => .array (readingItems items) .closed
  | .object fields => .object (readingFields fields) .closed

def readingItems : List Json → List Reading
  | [] => []
  | item :: items => reading item :: readingItems items

def readingFields : List (String × Json) → List (Except Flaw String × Reading)
  | [] => []
  | (key, value) :: fields => (.ok key, reading value) :: readingFields fields

end

theorem readingItems_eq_map (items : List Json) : readingItems items = items.map reading := by
  induction items with
  | nil => rfl
  | cons item rest ih => rw [readingItems, ih, List.map_cons]

theorem readingFields_eq_map (fields : List (String × Json)) :
    readingFields fields = fields.map fun field => (.ok field.1, reading field.2) := by
  induction fields with
  | nil => rfl
  | cons field rest ih => rw [readingFields, ih, List.map_cons]

inductive IsWhole : Json → Prop where
  | null : IsWhole .null
  | bool (value : Bool) : IsWhole (.bool value)
  | natural (n : Nat) : IsWhole (.number (.natural n))
  | negative (n : Nat) : IsWhole (.number (.negative n))
  | string (value : String) : IsWhole (.string value)
  | array {items : List Json} (each : ∀ item ∈ items, IsWhole item) : IsWhole (.array items)
  | object {fields : List (String × Json)} (each : ∀ field ∈ fields, IsWhole field.2) :
      IsWhole (.object fields)

/-- Whether the text of a value is read up to its end, wherever it stands. Each of its characters
takes two steps at most. -/
def ReadsBack (json : Json) : Prop :=
  ∀ rest fuel, Ends rest → 2 * json.write.length ≤ fuel →
    readValue fuel (json.write ++ rest) = (json.reading, some rest)

theorem isSpace_of_isAsciiDigit {c : Char} (digit : isAsciiDigit c = true) : isSpace c = false := by
  simp only [isSpace, Bool.or_eq_false_iff, decide_eq_false_iff_not]
  refine ⟨⟨⟨?_, ?_⟩, ?_⟩, ?_⟩ <;> rintro rfl <;> cases digit

theorem skipSpace_cons {c : Char} (solid : isSpace c = false) (more : List Char) :
    skipSpace (c :: more) = c :: more := by
  rw [skipSpace, List.dropWhile_cons_of_neg (by simp [solid])]

theorem readValue_digit {c : Char} (digit : isAsciiDigit c = true) (more : List Char) (fuel : Nat) :
    readValue (fuel + 1) (c :: more) = readNumber false (c :: more) := by
  rw [readValue, skipSpace_cons (isSpace_of_isAsciiDigit digit)]
  split
  case h_9 d rest _ _ _ _ _ _ _ same =>
    obtain ⟨rfl, rfl⟩ := List.cons.inj same
    rw [if_pos digit]
  all_goals
    rename_i same
    cases same
    try cases digit

/-- The text of a value starts with no blank, and not with the end of something else. -/
theorem exists_write_eq_cons {json : Json} (whole : json.IsWhole) :
    ∃ c more, json.write = c :: more ∧ isSpace c = false ∧ c ≠ ']' := by
  cases whole with
  | null => exact ⟨_, _, rfl, rfl, by decide⟩
  | bool value => cases value <;> exact ⟨_, _, rfl, rfl, by decide⟩
  | natural n =>
    obtain ⟨c, more, shown⟩ := List.exists_cons_of_ne_nil (Nat.toDigits_ne_nil (b := 10) (n := n))
    have digit : isAsciiDigit c = true :=
      isAsciiDigit_of_mem_decimal (n := n) (by rw [decimal, shown]; simp)
    exact ⟨c, more, shown, isSpace_of_isAsciiDigit digit, by rintro rfl; cases digit⟩
  | negative n => exact ⟨'-', _, rfl, rfl, by decide⟩
  | string value => exact ⟨'"', _, rfl, rfl, by decide⟩
  | array each => exact ⟨'[', _, rfl, rfl, by decide⟩
  | object each => exact ⟨'\x7b', _, rfl, rfl, by decide⟩

theorem writeItems_cons_cons (first second : Json) (items : List Json) :
    writeItems (first :: second :: items) = first.write ++ ',' :: writeItems (second :: items) := rfl

theorem exists_writeItems_eq_cons {item : Json} (whole : item.IsWhole) (items : List Json) :
    ∃ c more, writeItems (item :: items) = c :: more ∧ isSpace c = false ∧ c ≠ ']' := by
  obtain ⟨c, more, shown, solid, other⟩ := exists_write_eq_cons whole
  cases items with
  | nil => exact ⟨c, _, by rw [writeItems, shown, List.cons_append], solid, other⟩
  | cons next items =>
    exact ⟨c, _, by rw [writeItems_cons_cons, shown, List.cons_append], solid, other⟩

theorem readItems_write {items : List Json} (given : items ≠ [])
    (each : ∀ item ∈ items, item.IsWhole ∧ ReadsBack item) (rest : List Char) (fuel : Nat)
    (enough : 2 * (writeItems items).length ≤ fuel) :
    readItems fuel (writeItems items ++ rest) = (items.map reading, .closed, some rest) := by
  induction items generalizing fuel with
  | nil => exact absurd rfl given
  | cons item more ih =>
    obtain ⟨⟨_, back⟩, later⟩ := List.forall_mem_cons.mp each
    obtain ⟨left, rfl⟩ : ∃ left, fuel = left + 1 := by
      refine ⟨fuel - 1, ?_⟩
      cases more <;> simp [writeItems] at enough <;> omega
    cases more with
    | nil =>
      have long : (writeItems [item]).length = item.write.length + 1 := by simp [writeItems]
      have read := back (']' :: rest) left (by simp [Ends]) (by omega)
      rw [writeItems, List.append_assoc, List.singleton_append, readItems, read]
      rfl
    | cons other others =>
      have long : (writeItems (item :: other :: others)).length =
          item.write.length + (writeItems (other :: others)).length + 1 := by
        simp [writeItems_cons_cons, Nat.add_assoc]
      have read := back (',' :: (writeItems (other :: others) ++ rest)) left (by simp [Ends])
        (by omega)
      have further := ih (by simp) later left (by omega)
      obtain ⟨c, tail, shown, solid, inner⟩ :=
        exists_writeItems_eq_cons (later other (by simp)).1 others
      rw [writeItems_cons_cons, List.append_assoc, List.cons_append, readItems, read]
      rw [shown, List.cons_append] at further
      simp only [shown, List.cons_append, skipSpace_cons (show isSpace ',' = false by decide),
        skipSpace_cons solid]
      split
      next gone => cases gone
      next early => exact absurd (List.cons.inj early).1 inner
      next =>
        rw [further]
        rfl

theorem write_field (key : String) (value : Json) (rest : List Char) :
    quote key ++ ':' :: value.write ++ rest =
      '"' :: (key.toList.flatMap escape ++ '"' :: ':' :: (value.write ++ rest)) := by
  simp [quote]

theorem writeFields_cons_cons (first second : String × Json) (fields : List (String × Json)) :
    writeFields (first :: second :: fields) =
      quote first.1 ++ ':' :: first.2.write ++ ',' :: writeFields (second :: fields) := rfl

theorem exists_writeFields_eq_cons (field : String × Json) (fields : List (String × Json)) :
    ∃ more, writeFields (field :: fields) = '"' :: more := by
  cases fields <;> exact ⟨_, rfl⟩

theorem readFields_write {fields : List (String × Json)} (given : fields ≠ [])
    (each : ∀ field ∈ fields, ReadsBack field.2) (rest : List Char) (fuel : Nat)
    (enough : 2 * (writeFields fields).length ≤ fuel) :
    readFields fuel (writeFields fields ++ rest) =
      (fields.map fun field => (.ok field.1, field.2.reading), .closed, some rest) := by
  induction fields generalizing fuel with
  | nil => exact absurd rfl given
  | cons field more ih =>
    obtain ⟨back, later⟩ := List.forall_mem_cons.mp each
    obtain ⟨left, rfl⟩ : ∃ left, fuel = left + 1 := by
      obtain ⟨tail, shown⟩ := exists_writeFields_eq_cons field more
      rw [shown, List.length_cons] at enough
      exact ⟨fuel - 1, by omega⟩
    cases more with
    | nil =>
      have long : field.2.write.length < (writeFields [field]).length := by
        simp [writeFields]
        omega
      have read := back ('\x7d' :: rest) left (by simp [Ends]) (by omega)
      rw [writeFields, List.append_assoc, List.singleton_append, write_field, readFields,
        readString_quote]
      simp only [skipSpace_cons (show isSpace ':' = false by decide), read]
      rfl
    | cons other others =>
      have long : field.2.write.length + (writeFields (other :: others)).length + 1 ≤
          (writeFields (field :: other :: others)).length := by
        simp [writeFields_cons_cons]
        omega
      have read := back (',' :: (writeFields (other :: others) ++ rest)) left (by simp [Ends])
        (by omega)
      have further := ih (by simp) later left (by omega)
      obtain ⟨tail, shown⟩ := exists_writeFields_eq_cons other others
      rw [writeFields_cons_cons, List.append_assoc, List.cons_append, write_field, readFields,
        readString_quote]
      rw [shown, List.cons_append] at further
      simp only [skipSpace_cons (show isSpace ':' = false by decide), read]
      simp only [shown, List.cons_append, skipSpace_cons (show isSpace ',' = false by decide),
        skipSpace_cons (show isSpace '"' = false by decide)]
      split
      next gone => cases gone
      next early => exact absurd (List.cons.inj early).1 (by decide)
      next =>
        rw [further]
        rfl

theorem readsBack_of_isWhole {json : Json} (whole : json.IsWhole) : ReadsBack json := by
  induction whole with
  | null =>
    rintro rest (_ | fuel) - enough
    · exact absurd enough (by decide)
    · rfl
  | bool value =>
    rintro rest (_ | fuel) - enough
    · cases value <;> exact absurd enough (by decide)
    · cases value <;> rfl
  | natural n =>
    obtain ⟨c, more, shown⟩ := List.exists_cons_of_ne_nil (Nat.toDigits_ne_nil (b := 10) (n := n))
    have digit : isAsciiDigit c = true :=
      isAsciiDigit_of_mem_decimal (n := n) (by rw [decimal, shown]; simp)
    rintro rest (_ | fuel) ends enough
    · rw [write, Number.text, decimal, shown, List.length_cons] at enough
      omega
    have read := readNumber_decimal false n ends
    rw [write, Number.text, decimal, shown, List.cons_append, readValue_digit digit]
    rw [decimal, shown, List.cons_append] at read
    rw [read, reading, Number.reread, decimal, shown]
  | negative n =>
    rintro rest (_ | fuel) ends enough
    · cases enough
    change readNumber true (decimal n ++ rest) = _
    rw [readNumber_decimal true n ends]
    rfl
  | string value =>
    rintro rest (_ | fuel) - enough
    · cases enough
    rw [write, quote, List.append_assoc, List.singleton_append, List.cons_append, readValue,
      skipSpace_cons (by decide)]
    simp only [readString_quote]
    rfl
  | @array items each ih =>
    rintro rest (_ | fuel) - enough
    · cases enough
    rw [write, List.length_cons] at enough
    rw [write, reading, readingItems_eq_map, List.cons_append, readValue,
      skipSpace_cons (by decide)]
    cases items with
    | nil => rfl
    | cons item items =>
      have read := readItems_write (List.cons_ne_nil item items)
        (fun item member => ⟨each item member, ih item member⟩) rest fuel (by omega)
      obtain ⟨c, more, shown, solid, inner⟩ :=
        exists_writeItems_eq_cons (each item List.mem_cons_self) items
      rw [shown, List.cons_append] at read
      simp only [shown, List.cons_append, skipSpace_cons solid]
      split
      next gone => cases gone
      next early => exact absurd (List.cons.inj early).1 inner
      next =>
        rw [read]
  | @object fields each ih =>
    rintro rest (_ | fuel) - enough
    · cases enough
    rw [write, List.length_cons] at enough
    rw [write, reading, readingFields_eq_map, List.cons_append, readValue,
      skipSpace_cons (by decide)]
    cases fields with
    | nil => rfl
    | cons field fields =>
      have read := readFields_write (List.cons_ne_nil field fields) ih rest fuel (by omega)
      obtain ⟨more, shown⟩ := exists_writeFields_eq_cons field fields
      rw [shown, List.cons_append] at read
      simp only [shown, List.cons_append, skipSpace_cons (show isSpace '"' = false by decide)]
      split
      next gone => cases gone
      next early => exact absurd (List.cons.inj early).1 (by decide)
      next =>
        rw [read]

/-- The text of a value without real numbers is read to its end. -/
theorem ofText_write {json : Json} (whole : json.IsWhole) :
    Reading.ofText json.write = (json.reading, none) := by
  have back := readsBack_of_isWhole whole [] (2 * json.write.length + 2) (by simp [Ends]) (by omega)
  rw [List.append_nil] at back
  rw [Reading.ofText, back]
  rfl

end Courier.Json
