import Courier.Proofs.Text.Search
import Mathlib.Data.List.Forall2
/-! What is no text. Where no character stands among bytes, the longest piece that a character could
begin with is taken for malformed, or one byte if no character begins so. That is one way to cut bytes
and the only one, and lossy decoding shows each malformed piece of it as one replacement character. -/

namespace Courier.Utf8

/-! ### Malformed pieces -/

def IsStart (taken : List UInt8) : Prop := ∃ c, taken <+: encodeChar c

/-- The malformed piece that bytes begin with: no character stands there, and the piece is the longest
that is the start of a character or a single byte. -/
structure IsMalformed (taken input : List UInt8) : Prop where
  given : taken ≠ []
  stands : taken <+: input
  unconvertible : ∀ c, ¬encodeChar c <+: input
  piece : IsStart taken ∨ taken.length = 1
  longest : ∀ other, other <+: input → IsStart other ∨ other.length = 1 →
    other.length ≤ taken.length

theorem IsMalformed.unique {one other input : List UInt8} (first : IsMalformed one input)
    (second : IsMalformed other input) : one = other := by
  have shorter := second.longest one first.stands first.piece
  have longer := first.longest other second.stands second.piece
  have inside := List.prefix_of_prefix_length_le first.stands second.stands shorter
  exact inside.eq_of_length (Nat.le_antisymm shorter longer)

def IsRefused (taken input : List UInt8) : Prop :=
  ∀ other, other.head? = input.head? → ∃ later, parts (taken ++ other) = .invalid taken :: later

theorem IsRefused.not_isStart {taken input : List UInt8} (refused : IsRefused taken input)
    {more : List UInt8} (nonempty : more ≠ []) (follows : more <+: input) :
    ¬IsStart (taken ++ more) := by
  rintro ⟨c, tail, same⟩
  have head : (more ++ tail).head? = input.head? := by
    obtain ⟨b, others, rfl⟩ := List.exists_cons_of_ne_nil nonempty
    obtain ⟨back, rfl⟩ := follows
    rfl
  obtain ⟨later, invalid⟩ := refused _ head
  have whole := parts_encodeChar c []
  rw [← same, List.append_nil, List.append_assoc, invalid] at whole
  cases whole

theorem IsRefused.isMalformed {taken input : List UInt8} (refused : IsRefused taken input)
    (given : taken ≠ []) (piece : IsStart taken ∨ taken.length = 1) :
    IsMalformed taken (taken ++ input) where
  given := given
  stands := List.prefix_append taken input
  unconvertible := by
    rintro c ⟨rest, same⟩
    obtain ⟨later, invalid⟩ := refused input rfl
    rw [← same, parts_encodeChar] at invalid
    cases invalid
  piece := piece
  longest := by
    intro other stands kind
    by_contra longer
    have inside := List.prefix_of_prefix_length_le (List.prefix_append taken input) stands (by omega)
    obtain ⟨more, rfl⟩ := inside
    have nonempty : more ≠ [] := by
      rintro rfl
      simp at longer
    have follows : more <+: input := (List.prefix_append_right_inj taken).mp stands
    rcases kind with start | single
    · exact refused.not_isStart nonempty follows start
    · have one := List.length_pos_iff.mpr given
      omega

/-! ### Open sequences -/

structure Pending.Reached (pending : Pending) : Prop where
  leads : ∀ rest, parts (pending.taken ++ rest) = partsAfter (some pending) rest
  given : pending.taken ≠ []
  sound : pending.Sound
  goes_on : pending.low ≤ pending.high

/-- A sequence is open only if a character begins with it: it is completed by the least byte that it
goes on with and the least ones after that. -/
theorem Pending.Reached.isStart {pending : Pending} (reached : pending.Reached) :
    IsStart pending.taken := by
  have positive := reached.sound.missing
  have completed := reached.sound.completes pending.low (List.replicate (pending.missing - 1) 0x80)
    (by rw [List.length_replicate]; omega) (UInt8.le_refl _) reached.goes_on
    (fun c member => by rw [List.eq_of_mem_replicate member]; decide)
  exact ⟨_, _, completed.symm⟩

theorem Pending.Reached.longer {pending next : Pending} (reached : pending.Reached) {b : UInt8}
    (said : step (some pending) b = ([], some next)) (taken : next.taken = pending.taken ++ [b])
    (sound : next.Sound) (goes_on : next.low ≤ next.high) : next.Reached where
  leads := by
    intro rest
    rw [taken, ← List.append_cons, reached.leads, partsAfter_some_cons said, List.nil_append]
  given := by simp [taken]
  sound := sound
  goes_on := goes_on

inductive Settles (b : UInt8) : List Part × Option Pending → Prop where
  | char {c : Char} (bytes : encodeChar c = [b]) : Settles b ([.char c], none)
  | invalid : Settles b ([.invalid [b]], none)
  | opens {pending : Pending} (taken : pending.taken = [b]) (sound : pending.Sound)
      (goes_on : pending.low ≤ pending.high) : Settles b ([], some pending)

def isShape : List Part × Option Pending → Bool
  | (given, none) => given.length = 1
  | (given, some pending) => given.isEmpty && decide (pending.low ≤ pending.high)

theorem isShape_first (b : UInt8) : isShape (first b) = true := by
  have table : ∀ n < 256, isShape (first (UInt8.ofNat n)) = true := by decide +kernel
  have here := table b.toNat b.toNat_lt
  rwa [UInt8.ofNat_toNat] at here

theorem settles_first (b : UInt8) : Settles b (first b) := by
  have shape := isShape_first b
  obtain ⟨bytes, sound⟩ := accounts_first b
  generalize first b = told at shape bytes sound ⊢
  rcases told with ⟨given, _ | pending⟩
  · obtain ⟨part, rfl⟩ := List.length_eq_one_iff.mp (by simpa [isShape] using shape)
    simp only [List.flatMap_singleton, openBytes, Option.elim_none, List.append_nil] at bytes
    cases part with
    | char c => exact .char bytes
    | invalid taken =>
      obtain rfl : taken = [b] := bytes
      exact .invalid
  · simp only [isShape, Bool.and_eq_true, List.isEmpty_iff, decide_eq_true_eq] at shape
    obtain ⟨rfl, goes_on⟩ := shape
    exact .opens bytes (sound pending rfl) goes_on

inductive GoesOn (pending : Pending) (b : UInt8) : List Part × Option Pending → Prop where
  | longer {next : Pending} (taken : next.taken = pending.taken ++ [b]) (sound : next.Sound)
      (goes_on : next.low ≤ next.high) : GoesOn pending b ([], some next)
  | char {c : Char} (bytes : encodeChar c = pending.taken ++ [b]) : GoesOn pending b ([.char c], none)

theorem goesOn_step {pending : Pending} (sound : pending.Sound) {b : UInt8}
    (fits : pending.low ≤ b ∧ b ≤ pending.high) : GoesOn pending b (step (some pending) b) := by
  have known : ∀ other ∈ some pending, other.Sound := fun _ same => Option.some.inj same ▸ sound
  obtain ⟨bytes, later⟩ := accounts_step known b
  have shape : (∃ c, step (some pending) b = ([.char c], none)) ∨
      ∃ next, step (some pending) b = ([], some next) ∧ next.low ≤ next.high := by
    have within : (pending.low ≤ b && b ≤ pending.high) = true := by simpa using fits
    simp only [step, within, ↓reduceIte]
    split
    next => exact .inr ⟨_, rfl, of_decide_eq_true rfl⟩
    next => exact .inl ⟨_, rfl⟩
  rcases shape with ⟨c, said⟩ | ⟨next, said, goes_on⟩
  · rw [said] at bytes ⊢
    simp only [List.flatMap_singleton, openBytes, Option.elim_none, List.append_nil] at bytes
    exact .char bytes
  · rw [said] at bytes later ⊢
    exact .longer bytes (later next rfl) goes_on

/-! ### One part after another -/

inductive Begins (input : List UInt8) : List Part → Prop where
  | char {c : Char} {rest : List UInt8} (shape : input = encodeChar c ++ rest) :
      Begins input (.char c :: parts rest)
  | invalid {taken rest : List UInt8} (shape : input = taken ++ rest)
      (malformed : IsMalformed taken input) : Begins input (.invalid taken :: parts rest)

theorem begins_of_reached {pending : Pending} (reached : pending.Reached) (input : List UInt8) :
    Begins (pending.taken ++ input) (partsAfter (some pending) input) := by
  induction input generalizing pending with
  | nil =>
    refine .invalid rfl (IsRefused.isMalformed ?_ reached.given (.inl reached.isStart))
    intro other last
    rw [List.head?_nil, List.head?_eq_none_iff] at last
    rw [reached.leads, last]
    exact ⟨[], rfl⟩
  | cons b rest ih =>
    by_cases fits : pending.low ≤ b ∧ b ≤ pending.high
    · have goes := goesOn_step reached.sound fits
      generalize said : step (some pending) b = given at goes
      rw [List.append_cons]
      cases goes with
      | longer taken sound goes_on =>
        rw [partsAfter_some_cons said, ← taken]
        exact ih (reached.longer said taken sound goes_on)
      | char bytes =>
        rw [partsAfter_some_cons said, ← bytes]
        exact .char rfl
    · have starts_anew (rest : List UInt8) : partsAfter (some pending) (b :: rest) =
          .invalid pending.taken :: parts (b :: rest) :=
        partsAfter_some_cons (step_of_not_fits fits) rest
      rw [starts_anew]
      refine .invalid rfl (IsRefused.isMalformed ?_ reached.given (.inl reached.isStart))
      intro other first
      obtain ⟨more, rfl⟩ := List.head?_eq_some_iff.mp first
      rw [reached.leads, starts_anew]
      exact ⟨_, rfl⟩

theorem begins_parts {input : List UInt8} (given : input ≠ []) : Begins input (parts input) := by
  obtain ⟨b, rest, rfl⟩ := List.exists_cons_of_ne_nil given
  have settles := settles_first b
  generalize said : first b = told at settles
  have leads (rest : List UInt8) : parts (b :: rest) = told.1 ++ partsAfter told.2 rest :=
    partsAfter_none_cons said rest
  rw [leads]
  cases settles with
  | char bytes => exact .char (by rw [bytes]; rfl)
  | invalid =>
    have refused : IsRefused [b] rest := fun other _ => ⟨_, leads other⟩
    exact .invalid rfl (refused.isMalformed (List.cons_ne_nil b []) (.inr rfl))
  | @opens pending taken sound goes_on =>
    have reached : pending.Reached :=
      ⟨fun rest => by rw [taken]; exact leads rest, by simp [taken], sound, goes_on⟩
    have begins := begins_of_reached reached rest
    rwa [taken] at begins

/-! ### The cut -/

/-- Bytes cut from left to right into characters and malformed pieces. -/
inductive Cut : List UInt8 → List Part → Prop where
  | done : Cut [] []
  | char (c : Char) {rest : List UInt8} {found : List Part} (later : Cut rest found) :
      Cut (encodeChar c ++ rest) (.char c :: found)
  | invalid {taken rest : List UInt8} {found : List Part}
      (malformed : IsMalformed taken (taken ++ rest)) (later : Cut rest found) :
      Cut (taken ++ rest) (.invalid taken :: found)

theorem cut_parts (input : List UInt8) : Cut input (parts input) := by
  induction length : input.length using Nat.strongRecOn generalizing input with
  | ind n ih =>
    by_cases given : input = []
    · rw [given]
      exact .done
    · have begins := begins_parts given
      generalize parts input = found at begins
      cases begins with
      | @char c rest shape =>
        obtain ⟨b, more, bytes, _⟩ := exists_encodeChar_eq_cons c
        rw [shape]
        refine .char c (ih rest.length ?_ rest rfl)
        rw [← length, shape, bytes]
        simp only [List.cons_append, List.length_cons, List.length_append]
        omega
      | @invalid taken rest shape malformed =>
        have nonempty := List.length_pos_iff.mpr malformed.given
        subst shape
        refine .invalid malformed (ih rest.length ?_ rest rfl)
        rw [← length, List.length_append]
        omega

/-- There is no other way to cut bytes. -/
theorem Cut.eq_parts {input : List UInt8} {found : List Part} (cut : Cut input found) :
    found = parts input := by
  induction cut with
  | done => rfl
  | char c _ ih => rw [parts_encodeChar, ih]
  | @invalid taken rest found malformed _ ih =>
    have given : taken ++ rest ≠ [] := fun empty => malformed.given (List.append_eq_nil_iff.mp empty).1
    have begins := begins_parts given
    generalize parts (taken ++ rest) = other at begins
    cases begins with
    | char shape => exact absurd ⟨_, shape.symm⟩ (malformed.unconvertible _)
    | invalid shape second =>
      obtain rfl := malformed.unique second
      rw [ih, List.append_cancel_left shape]

theorem cut_iff (input : List UInt8) (found : List Part) : Cut input found ↔ found = parts input := by
  constructor
  · exact Cut.eq_parts
  · rintro rfl
    exact cut_parts input

-- A character that breaks off is one piece; of surrogates and of forms that are too long, each byte is.
example : parts [0x41, 0xE2, 0x82, 0xED, 0xA0, 0xC0] =
    [.char 'A', .invalid [0xE2, 0x82], .invalid [0xED], .invalid [0xA0], .invalid [0xC0]] := by
  decide

/-! ### Texts and what is shown for them -/

def IsText (raw : List UInt8) : Prop := raw.toByteArray.IsValidUTF8

theorem isText_iff (raw : List UInt8) : IsText raw ↔ ∃ text, encode text = raw := by
  constructor
  · rintro ⟨text, same⟩
    exact ⟨text, (List.toByteArray_inj.mp same).symm⟩
  · rintro ⟨text, rfl⟩
    exact ⟨text, rfl⟩

def Part.malformed? : Part → Option (List UInt8)
  | .char _ => none
  | .invalid taken => some taken

def characters (found : List Part) : List Char := found.filterMap Part.char?

def malformed (found : List Part) : List (List UInt8) := found.filterMap Part.malformed?

theorem isText_iff_malformed (raw : List UInt8) : IsText raw ↔ malformed (parts raw) = [] := by
  rw [isText_iff]
  constructor
  · rintro ⟨text, rfl⟩
    rw [parts_encode, malformed, List.filterMap_map, List.filterMap_eq_nil_iff]
    exact fun _ _ => rfl
  · intro none_malformed
    have all_characters : parts raw = (characters (parts raw)).map .char := by
      generalize parts raw = found at none_malformed
      induction found with
      | nil => rfl
      | cons part more ih =>
        cases part with
        | char c => exact congrArg (Part.char c :: ·) (ih none_malformed)
        | invalid taken => cases none_malformed
    exact ⟨_, encode_of_decode? ((decode?_eq_some_iff _ _).mpr all_characters)⟩

inductive Part.IsShownAs : Part → Char → Prop where
  | char (c : Char) : IsShownAs (.char c) c
  | invalid (taken : List UInt8) : IsShownAs (.invalid taken) replacement

def unreplaced (found : List Part) (text : List Char) : List Char :=
  ((found.zip text).filter fun pair => pair.1.char?.isSome).map Prod.snd

/-- Whether a text shows bytes, of which these are the characters and the malformed pieces: it has one
replacement character for each such piece, and without these it is the characters, in their order. -/
structure Shows (raw : List UInt8) (text : List Char) (found : List Part) : Prop where
  cut : ∀ other, Cut raw other ↔ other = found
  aligned : List.Forall₂ Part.IsShownAs found text
  replaced : text.count replacement =
    (malformed found).length + (characters found).count replacement
  kept : unreplaced found text = characters found

theorem count_shown (found : List Part) : (found.map Part.shown).count replacement =
    (malformed found).length + (characters found).count replacement := by
  induction found with
  | nil => rfl
  | cons part more ih =>
    cases part with
    | char c =>
      have shown : (Part.char c :: more).map Part.shown = c :: more.map Part.shown := rfl
      have plain : characters (.char c :: more) = c :: characters more := rfl
      have same : malformed (.char c :: more) = malformed more := rfl
      rw [shown, plain, same, List.count_cons, List.count_cons, ih, Nat.add_assoc]
    | invalid taken =>
      have shown : (Part.invalid taken :: more).map Part.shown = replacement :: more.map Part.shown := rfl
      have plain : characters (.invalid taken :: more) = characters more := rfl
      have longer : malformed (.invalid taken :: more) = taken :: malformed more := rfl
      rw [shown, plain, longer, List.count_cons_self, List.length_cons, ih]
      omega

theorem unreplaced_shown (found : List Part) :
    unreplaced found (found.map Part.shown) = characters found := by
  induction found with
  | nil => rfl
  | cons part more ih =>
    cases part with
    | char c => exact congrArg (c :: ·) ih
    | invalid taken => exact ih

theorem isShownAs_shown (part : Part) : part.IsShownAs part.shown := by
  cases part with
  | char c => exact .char c
  | invalid taken => exact .invalid taken

theorem shows_decodeLossy (raw : List UInt8) : Shows raw (decodeLossy raw) (parts raw) where
  cut := cut_iff raw
  aligned := by
    rw [decodeLossy, List.forall₂_map_right_iff]
    exact List.forall₂_same.mpr fun part _ => isShownAs_shown part
  replaced := count_shown (parts raw)
  kept := unreplaced_shown (parts raw)

end Courier.Utf8
