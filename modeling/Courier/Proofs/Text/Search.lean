import Courier.Proofs.Text.Parts
/-! Searching in bytes. The first byte of a character never goes on with a sequence that is open, so the
bytes of a text are taken apart into that text wherever they stand. A text without replacement
characters is found in what bytes are shown as exactly when its own bytes stand among them. -/

namespace Courier.Utf8

/-! ### Where a character begins -/

def IsLead (b : UInt8) : Prop := b < 0x80 ∨ 0xBF < b

def Pending.Trails (pending : Pending) : Prop := 0x80 ≤ pending.low ∧ pending.high ≤ 0xBF

instance (pending : Pending) : Decidable pending.Trails := inferInstanceAs (Decidable (_ ∧ _))

theorem trails_first (b : UInt8) : ∀ pending ∈ (first b).2, pending.Trails := by
  have table : ∀ n < 256, (first (UInt8.ofNat n)).2.all (decide <| ·.Trails) = true := by
    decide +kernel
  have here := table b.toNat b.toNat_lt
  rw [UInt8.ofNat_toNat] at here
  intro pending opened
  rw [Option.mem_def.mp opened] at here
  exact of_decide_eq_true here

theorem trails_step {open? : Option Pending} (trails : ∀ pending ∈ open?, pending.Trails) (b : UInt8) :
    ∀ pending ∈ (step open? b).2, pending.Trails := by
  cases open? with
  | none => exact trails_first b
  | some known =>
    rw [step]
    split
    · dsimp only
      split
      · intro pending opened
        obtain rfl := Option.some.inj opened
        exact ⟨UInt8.le_refl _, UInt8.le_refl _⟩
      · simp
    · exact trails_first b

/-- A byte that no open sequence goes on with starts anew: what was open before it is no character. -/
theorem step_of_not_fits {pending : Pending} {b : UInt8}
    (unfit : ¬(pending.low ≤ b ∧ b ≤ pending.high)) :
    step (some pending) b = (.invalid pending.taken :: (first b).1, (first b).2) := by
  rw [step, if_neg (by simpa using unfit)]

theorem step_of_isLead {pending : Pending} (trails : pending.Trails) {b : UInt8} (lead : IsLead b) :
    step (some pending) b = (.invalid pending.taken :: (first b).1, (first b).2) := by
  apply step_of_not_fits
  obtain ⟨low, high⟩ := trails
  simp only [IsLead, UInt8.lt_iff_toNat_lt, UInt8.le_iff_toNat_le, UInt8.reduceToNat] at lead low high
  simp only [UInt8.le_iff_toNat_le]
  omega

theorem exists_encodeChar_eq_cons (c : Char) :
    ∃ b rest, encodeChar c = b :: rest ∧ IsLead b := by
  have range := range_toNat c
  have byte {n : Nat} (small : n < 256) (outside : n < 0x80 ∨ 0xBF < n) : IsLead (UInt8.ofNat n) := by
    simpa only [IsLead, UInt8.lt_iff_toNat_lt, toNat_byte small, UInt8.reduceToNat] using outside
  rw [encodeChar_eq]
  split
  · exact ⟨_, _, rfl, byte (by omega) (by omega)⟩
  split
  · exact ⟨_, _, rfl, byte (by omega) (by omega)⟩
  split
  · exact ⟨_, _, rfl, byte (by omega) (by omega)⟩
  · exact ⟨_, _, rfl, byte (by omega) (by omega)⟩

/-! ### Texts among bytes -/

/-- A character is found whatever is open before it. -/
theorem exists_partsAfter_encodeChar {open? : Option Pending}
    (trails : ∀ pending ∈ open?, pending.Trails) (c : Char) (rest : List UInt8) :
    ∃ cut, partsAfter open? (encodeChar c ++ rest) = cut ++ .char c :: parts rest := by
  have whole := parts_encodeChar c rest
  cases open? with
  | none => exact ⟨[], whole⟩
  | some pending =>
    obtain ⟨b, more, shape, lead⟩ := exists_encodeChar_eq_cons c
    rw [shape, List.cons_append] at whole ⊢
    refine ⟨[.invalid pending.taken], ?_⟩
    rw [partsAfter_some_cons (step_of_isLead (trails pending rfl) lead), List.cons_append, ← whole]
    rfl

/-- A character is found whatever stands before it. -/
theorem exists_parts_append (front : List UInt8) (c : Char) (rest : List UInt8) :
    ∃ before, parts (front ++ (encodeChar c ++ rest)) = before ++ .char c :: parts rest := by
  have found (open? : Option Pending) (trails : ∀ pending ∈ open?, pending.Trails) :
      ∃ before, partsAfter open? (front ++ (encodeChar c ++ rest)) =
        before ++ .char c :: parts rest := by
    induction front generalizing open? with
    | nil => exact exists_partsAfter_encodeChar trails c rest
    | cons b more ih =>
      obtain ⟨before, later⟩ := ih (step open? b).2 (trails_step trails b)
      have goes : partsAfter open? (b :: (more ++ (encodeChar c ++ rest))) =
          (step open? b).1 ++ partsAfter (step open? b).2 (more ++ (encodeChar c ++ rest)) := rfl
      refine ⟨(step open? b).1 ++ before, ?_⟩
      rw [List.cons_append, goes, later, List.append_assoc]
  exact found none (by simp)

/-- The bytes of a text stand among bytes exactly when the text stands among their parts. -/
theorem encode_infix_iff {text : List Char} (nonempty : text ≠ []) (raw : List UInt8) :
    encode text <:+: raw ↔ text.map .char <:+: parts raw := by
  constructor
  · rintro ⟨front, rest, rfl⟩
    obtain ⟨c, more, rfl⟩ := List.exists_cons_of_ne_nil nonempty
    obtain ⟨before, found⟩ := exists_parts_append front c (encode more ++ rest)
    refine ⟨before, parts rest, ?_⟩
    have shape : encode (c :: more) = encodeChar c ++ encode more := rfl
    rw [shape, List.append_assoc front, List.append_assoc (encodeChar c), found, parts_encode_append]
    simp only [List.map_cons, List.cons_append, List.append_assoc]
  · rintro ⟨before, after, whole⟩
    refine ⟨before.flatMap Part.bytes, after.flatMap Part.bytes, ?_⟩
    have text_bytes : (text.map Part.char).flatMap Part.bytes = encode text := by
      rw [List.flatMap_map]
      rfl
    rw [← text_bytes, ← List.flatMap_append, ← List.flatMap_append, whole, flatMap_bytes_parts]

def replacement : Char := Char.ofNat 0xFFFD

theorem map_shown_eq_iff {text : List Char} (plain : replacement ∉ text) (found : List Part) :
    found.map Part.shown = text ↔ found = text.map .char := by
  constructor
  · rintro rfl
    induction found with
    | nil => rfl
    | cons part more ih =>
      rw [List.map_cons, List.mem_cons, not_or] at plain
      cases part with
      | char c => rw [List.map_cons, List.map_cons, ← ih plain.2]; rfl
      | invalid taken => exact absurd rfl plain.1
  · rintro rfl
    rw [List.map_map]
    exact List.map_id text

/-- A text without replacement characters is shown exactly where its bytes are. -/
theorem infix_decodeLossy_iff {text : List Char} (nonempty : text ≠ []) (plain : replacement ∉ text)
    (raw : List UInt8) : text <:+: decodeLossy raw ↔ encode text <:+: raw := by
  rw [encode_infix_iff nonempty, decodeLossy, List.infix_map_iff]
  constructor
  · rintro ⟨found, stands, shown⟩
    exact (map_shown_eq_iff plain found).mp shown.symm ▸ stands
  · intro stands
    exact ⟨_, stands, ((map_shown_eq_iff plain _).mpr rfl).symm⟩

end Courier.Utf8
