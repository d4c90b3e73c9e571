import Courier.Proofs.Outcome
import Courier.Proofs.Text.Utf8
/-! What bytes are made of. The parts of bytes, put together again, are the bytes, so nothing is lost
when bytes are decoded: those that are text are the bytes of that text. -/

namespace Courier.Utf8

def Part.bytes : Part → List UInt8
  | .char c => encodeChar c
  | .invalid taken => taken

def openBytes (pending : Option Pending) : List UInt8 := pending.elim [] Pending.taken

theorem toNat_ofNat_of_valid {n : Nat} (valid : n.isValidChar) : (Char.ofNat n).toNat = n := by
  rw [Char.ofNat, dif_pos valid]
  rfl

theorem ofNat_eq {n : Nat} {b : UInt8} (same : n = b.toNat) : UInt8.ofNat n = b := by
  rw [same, UInt8.ofNat_toNat]

/-! ### Sequences -/

def valueAfter (value : Nat) (tail : List UInt8) : Nat :=
  tail.foldl (fun value b => value * 64 + (b.toNat - 0x80)) value

theorem valueAfter_cons (value : Nat) (b : UInt8) (tail : List UInt8) :
    valueAfter value (b :: tail) = valueAfter (value * 64 + (b.toNat - 0x80)) tail := by
  simp only [valueAfter, List.foldl_cons]

/-- Whether the bytes that an open sequence allows complete it to the bytes of a character. -/
structure Pending.Sound (pending : Pending) : Prop where
  missing : 0 < pending.missing
  completes : ∀ b rest, rest.length + 1 = pending.missing → pending.low ≤ b → b ≤ pending.high →
    (∀ c ∈ rest, 0x80 ≤ c.toNat ∧ c.toNat ≤ 0xBF) →
    encodeChar (Char.ofNat (valueAfter pending.value (b :: rest))) = pending.taken ++ b :: rest

theorem sound_of_two {b : UInt8} (least : 0xC2 ≤ b.toNat) (most : b.toNat < 0xE0) :
    Pending.Sound { taken := [b], value := b.toNat - 0xC0, missing := 1 } where
  missing := Nat.one_pos
  completes := by
    intro c rest length low high _
    obtain rfl := List.eq_nil_of_length_eq_zero (Nat.succ.inj length)
    simp only [UInt8.le_iff_toNat_le, UInt8.reduceToNat] at low high
    simp only [valueAfter, List.foldl_cons, List.foldl_nil]
    rw [encodeChar_eq, toNat_ofNat_of_valid (by unfold Nat.isValidChar; omega),
      if_neg (by omega), if_pos (by omega), ofNat_eq (b := b) (by omega),
      ofNat_eq (b := c) (by omega)]
    rfl

theorem sound_of_three {b low high : UInt8} {value : Nat} (given : value + 0xE0 = b.toNat)
    (most : value < 0x10) (above : 0x80 ≤ low.toNat) (below : high.toNat ≤ 0xBF)
    (shortest : value = 0 → 0xA0 ≤ low.toNat) (lone : value = 0xD → high.toNat ≤ 0x9F) :
    Pending.Sound { taken := [b], value, missing := 2, low, high } where
  missing := Nat.two_pos
  completes := by
    intro c rest length least greatest more
    obtain ⟨d, rfl⟩ := List.length_eq_one_iff.mp (Nat.succ.inj length)
    have last := more d (by simp)
    simp only [UInt8.le_iff_toNat_le] at least greatest
    simp only [valueAfter, List.foldl_cons, List.foldl_nil]
    rw [encodeChar_eq, toNat_ofNat_of_valid (by unfold Nat.isValidChar; omega),
      if_neg (by omega), if_neg (by omega), if_pos (by omega), ofNat_eq (b := b) (by omega),
      ofNat_eq (b := c) (by omega), ofNat_eq (b := d) (by omega)]
    rfl

theorem sound_of_four {b low high : UInt8} {value : Nat} (given : value + 0xF0 = b.toNat)
    (most : value ≤ 4) (above : 0x80 ≤ low.toNat) (below : high.toNat ≤ 0xBF)
    (shortest : value = 0 → 0x90 ≤ low.toNat) (last : value = 4 → high.toNat ≤ 0x8F) :
    Pending.Sound { taken := [b], value, missing := 3, low, high } where
  missing := Nat.succ_pos 2
  completes := by
    intro c rest length least greatest more
    obtain ⟨d, e, rfl⟩ := List.length_eq_two.mp (Nat.succ.inj length)
    have third := more d (by simp)
    have fourth := more e (by simp)
    simp only [UInt8.le_iff_toNat_le] at least greatest
    simp only [valueAfter, List.foldl_cons, List.foldl_nil]
    rw [encodeChar_eq, toNat_ofNat_of_valid (by unfold Nat.isValidChar; omega),
      if_neg (by omega), if_neg (by omega), if_neg (by omega), ofNat_eq (b := b) (by omega),
      ofNat_eq (b := c) (by omega), ofNat_eq (b := d) (by omega), ofNat_eq (b := e) (by omega)]
    rfl

theorem Pending.Sound.more {pending : Pending} (sound : pending.Sound) {missing : Nat}
    (shown : pending.missing = missing + 2) {b : UInt8} (low : pending.low ≤ b)
    (high : b ≤ pending.high) :
    Pending.Sound {
      taken := pending.taken ++ [b]
      value := pending.value * 64 + (b.toNat - 0x80)
      missing := missing + 1 } where
  missing := Nat.succ_pos missing
  completes := by
    intro c rest length least greatest more
    simp only [UInt8.le_iff_toNat_le, UInt8.reduceToNat] at least greatest
    have longer : (c :: rest).length + 1 = pending.missing := by
      rw [shown, List.length_cons, Nat.succ.inj length]
    have all := sound.completes b (c :: rest) longer low high
      (List.forall_mem_cons.mpr ⟨⟨least, greatest⟩, more⟩)
    rw [valueAfter_cons] at all
    rw [List.append_assoc, List.singleton_append]
    exact all

/-! ### One byte after another -/

structure Accounts (before : List UInt8) (given : List Part × Option Pending) : Prop where
  bytes : given.1.flatMap Part.bytes ++ openBytes given.2 = before
  sound : ∀ pending ∈ given.2, pending.Sound

theorem accounts_opens {pending : Pending} (sound : pending.Sound) :
    Accounts pending.taken ([], some pending) :=
  ⟨rfl, fun _ same => Option.some.inj same ▸ sound⟩

theorem accounts_invalid (b : UInt8) : Accounts [b] ([.invalid [b]], none) := ⟨rfl, by simp⟩

theorem accounts_first (b : UInt8) : Accounts [b] (first b) := by
  have lead := first_byte b.toNat_lt
  rw [UInt8.ofNat_toNat] at lead
  rw [lead]
  dsimp only
  split
  next one =>
    refine ⟨?_, by simp⟩
    simp only [List.flatMap_singleton, Part.bytes, openBytes, Option.elim_none, List.append_nil]
    rw [encodeChar_eq, toNat_ofNat_of_valid (by unfold Nat.isValidChar; omega), if_pos (by omega),
      UInt8.ofNat_toNat]
  split
  next => exact accounts_invalid b
  split
  next => exact accounts_opens (sound_of_two (by omega) (by omega))
  split
  next => exact accounts_opens (sound_of_three (by omega) (by omega) (by decide) (by decide)
    (by decide) (by decide))
  split
  next => exact accounts_opens (sound_of_three (by omega) (by omega) (by decide) (by decide)
    (by decide) (by decide))
  split
  next => exact accounts_opens (sound_of_three (by omega) (by omega) (by decide) (by decide)
    (by omega) (by omega))
  split
  next => exact accounts_opens (sound_of_four (by omega) (by omega) (by decide) (by decide)
    (by decide) (by decide))
  split
  next => exact accounts_opens (sound_of_four (by omega) (by omega) (by decide) (by decide)
    (by omega) (by omega))
  split
  next => exact accounts_opens (sound_of_four (by omega) (by omega) (by decide) (by decide)
    (by decide) (by decide))
  next => exact accounts_invalid b

theorem accounts_step {pending : Option Pending} (sound : ∀ known ∈ pending, known.Sound)
    (b : UInt8) : Accounts (openBytes pending ++ [b]) (step pending b) := by
  cases pending with
  | none => exact accounts_first b
  | some known =>
    have known_sound := sound known rfl
    rw [step]
    split
    next fits =>
      simp only [Bool.and_eq_true, decide_eq_true_eq] at fits
      dsimp only
      split
      next missing shown => exact accounts_opens (known_sound.more shown fits.1 fits.2)
      next other =>
        have positive := known_sound.missing
        have one : known.missing = 1 := by
          rcases shown : known.missing with _ | _ | missing
          · omega
          · rfl
          · exact absurd shown (other missing)
        have completed := known_sound.completes b [] one.symm fits.1 fits.2 (by simp)
        rw [valueAfter_cons] at completed
        refine ⟨?_, by simp⟩
        rw [List.flatMap_singleton]
        exact (List.append_nil _).trans completed
    next =>
      -- The open sequence ends here, and the byte starts anew.
      obtain ⟨bytes, later⟩ := accounts_first b
      refine ⟨?_, later⟩
      rw [List.flatMap_cons, List.append_assoc, bytes]
      rfl

theorem flatMap_bytes_partsAfter {pending : Option Pending} (sound : ∀ known ∈ pending, known.Sound)
    (input : List UInt8) :
    (partsAfter pending input).flatMap Part.bytes = openBytes pending ++ input := by
  induction input generalizing pending with
  | nil =>
    cases pending with
    | none => rfl
    | some known => simp [partsAfter, Part.bytes, openBytes]
  | cons b rest ih =>
    obtain ⟨bytes, later⟩ := accounts_step sound b
    rw [partsAfter, List.flatMap_append, ih later, ← List.append_assoc, bytes, List.append_assoc,
      List.singleton_append]

/-- The parts of bytes, put together again, are the bytes. -/
theorem flatMap_bytes_parts (input : List UInt8) : (parts input).flatMap Part.bytes = input :=
  flatMap_bytes_partsAfter (by simp) input

/-! ### Texts -/

theorem decode?_eq_some_iff (input : List UInt8) (text : List Char) :
    decode? input = some text ↔ parts input = text.map .char := by
  rw [decode?, Outcome.mapM_eq_some_iff, ← List.forall₂_eq_eq_eq, List.forall₂_map_right_iff]
  constructor
  · intro each
    refine each.imp fun part c shown => ?_
    cases part with
    | char known => exact congrArg Part.char (Option.some.inj shown)
    | invalid taken => cases shown
  · intro each
    exact each.imp fun part c same => by rw [same]; rfl

/-- Bytes that are text are the bytes of that text. -/
theorem encode_of_decode? {input : List UInt8} {text : List Char}
    (decoded : decode? input = some text) : encode text = input := by
  rw [decode?_eq_some_iff] at decoded
  calc encode text = (text.map Part.char).flatMap Part.bytes := by rw [List.flatMap_map]; rfl
    _ = (parts input).flatMap Part.bytes := by rw [decoded]
    _ = input := flatMap_bytes_parts input

theorem decodeLossy_of_decode? {input : List UInt8} {text : List Char}
    (decoded : decode? input = some text) : decodeLossy input = text := by
  rw [decode?_eq_some_iff] at decoded
  rw [decodeLossy, decoded, List.map_map]
  exact List.map_id text

theorem lossyText_bytes (text : String) : lossyText (bytes text) = text := by
  rw [lossyText, bytes, decodeLossy_of_decode? (decode?_encode text.toList), String.ofList_toList]

end Courier.Utf8
