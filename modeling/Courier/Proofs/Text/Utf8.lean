import Courier.Text.Utf8
/-! UTF-8 there and back. The bytes of a text are taken apart into its characters again, whatever
follows them. -/

namespace Courier.Utf8

theorem toNat_byte {n : Nat} (small : n < 256) : (UInt8.ofNat n).toNat = n := by
  rw [UInt8.toNat_ofNat']
  omega

theorem byte_within {n : Nat} (small : n < 256) {low high : UInt8} (above : low.toNat ≤ n)
    (below : n ≤ high.toNat) : (low ≤ UInt8.ofNat n && UInt8.ofNat n ≤ high) = true := by
  simp only [UInt8.le_iff_toNat_le, toNat_byte small, Bool.and_eq_true, decide_eq_true_eq]
  exact ⟨above, below⟩

theorem step_last {pending : Pending} {n : Nat} (small : n < 256) (one : pending.missing = 1)
    (above : pending.low.toNat ≤ n) (below : n ≤ pending.high.toNat) :
    step (some pending) (UInt8.ofNat n) =
      ([.char (Char.ofNat (pending.value * 64 + (n - 0x80)))], none) := by
  have fits := byte_within small above below
  simp only [step, fits, ↓reduceIte, toNat_byte small, one]

theorem step_more {pending : Pending} {n missing : Nat} (small : n < 256)
    (more : pending.missing = missing + 2) (above : pending.low.toNat ≤ n)
    (below : n ≤ pending.high.toNat) :
    step (some pending) (UInt8.ofNat n) =
      ([], some {
        taken := pending.taken ++ [UInt8.ofNat n]
        value := pending.value * 64 + (n - 0x80)
        missing := missing + 1 }) := by
  have fits := byte_within small above below
  simp only [step, fits, ↓reduceIte, toNat_byte small, more]

theorem first_byte {n : Nat} (small : n < 256) :
    first (UInt8.ofNat n) =
      let b := UInt8.ofNat n
      if n < 0x80 then ([.char (Char.ofNat n)], none)
      else if n < 0xC2 then ([.invalid [b]], none)
      else if n < 0xE0 then ([], some { taken := [b], value := n - 0xC0, missing := 1 })
      else if n = 0xE0 then ([], some { taken := [b], value := 0, missing := 2, low := 0xA0 })
      else if n = 0xED then ([], some { taken := [b], value := 0xD, missing := 2, high := 0x9F })
      else if n < 0xF0 then ([], some { taken := [b], value := n - 0xE0, missing := 2 })
      else if n = 0xF0 then ([], some { taken := [b], value := 0, missing := 3, low := 0x90 })
      else if n < 0xF4 then ([], some { taken := [b], value := n - 0xF0, missing := 3 })
      else if n = 0xF4 then ([], some { taken := [b], value := 4, missing := 3, high := 0x8F })
      else ([.invalid [b]], none) := by
  have same {k : Nat} (bound : k < 256) : (UInt8.ofNat n == UInt8.ofNat k) = decide (n = k) := by
    rw [Bool.eq_iff_iff, beq_iff_eq, decide_eq_true_eq, ← UInt8.toNat_inj, toNat_byte small,
      toNat_byte bound]
  have e0 := same (k := 0xE0) (by decide)
  have ed := same (k := 0xED) (by decide)
  have f0 := same (k := 0xF0) (by decide)
  have f4 := same (k := 0xF4) (by decide)
  simp only [UInt8.reduceOfNat] at e0 ed f0 f4
  simp only [first, UInt8.lt_iff_toNat_lt, toNat_byte small, e0, ed, f0, f4, decide_eq_true_eq]
  simp

theorem partsAfter_none_cons {b : UInt8} {after : Option Pending} {given : List Part}
    (opens : first b = (given, after)) (rest : List UInt8) :
    partsAfter none (b :: rest) = given ++ partsAfter after rest := by
  rw [partsAfter, step, opens]

theorem partsAfter_some_cons {pending : Pending} {b : UInt8} {after : Option Pending}
    {given : List Part} (goes : step (some pending) b = (given, after)) (rest : List UInt8) :
    partsAfter (some pending) (b :: rest) = given ++ partsAfter after rest := by
  rw [partsAfter, goes]

theorem range_toNat (c : Char) :
    c.toNat < 0xD800 ∨ 0xDFFF < c.toNat ∧ c.toNat < 0x110000 := c.valid

def Opens (after : Option Pending) (value missing next : Nat) : Prop :=
  ∃ pending, after = some pending ∧ pending.value = value ∧ pending.missing = missing ∧
    pending.low.toNat ≤ next ∧ next ≤ pending.high.toNat

theorem first_of_two {n : Nat} (least : 0x80 ≤ n) (most : n ≤ 0x7FF) :
    (first (UInt8.ofNat (n / 64 % 0x20 + 0xC0))).1 = [] ∧
      Opens (first (UInt8.ofNat (n / 64 % 0x20 + 0xC0))).2 (n / 64) 1 (n % 0x40 + 0x80) := by
  rw [first_byte (by omega)]
  dsimp only
  rw [if_neg (by omega), if_neg (by omega), if_pos (by omega)]
  refine ⟨rfl, _, rfl, ?_, rfl, ?_, ?_⟩ <;> simp only [UInt8.reduceToNat] <;> omega

theorem first_of_three {n : Nat} (least : 0x800 ≤ n) (most : n ≤ 0xFFFF)
    (lone : n < 0xD800 ∨ 0xDFFF < n) :
    (first (UInt8.ofNat (n / 4096 % 0x10 + 0xE0))).1 = [] ∧
      Opens (first (UInt8.ofNat (n / 4096 % 0x10 + 0xE0))).2 (n / 4096) 2
        (n / 64 % 0x40 + 0x80) := by
  rw [first_byte (by omega)]
  dsimp only
  rw [if_neg (by omega), if_neg (by omega), if_neg (by omega)]
  -- The least and the greatest first byte leave the second byte less room than the others.
  split
  · refine ⟨rfl, _, rfl, ?_, rfl, ?_, ?_⟩ <;> simp only [UInt8.reduceToNat] <;> omega
  split
  · refine ⟨rfl, _, rfl, ?_, rfl, ?_, ?_⟩ <;> simp only [UInt8.reduceToNat] <;> omega
  rw [if_pos (by omega)]
  refine ⟨rfl, _, rfl, ?_, rfl, ?_, ?_⟩ <;> simp only [UInt8.reduceToNat] <;> omega

theorem first_of_four {n : Nat} (least : 0x10000 ≤ n) (most : n < 0x110000) :
    (first (UInt8.ofNat (n / 262144 % 0x08 + 0xF0))).1 = [] ∧
      Opens (first (UInt8.ofNat (n / 262144 % 0x08 + 0xF0))).2 (n / 262144) 3
        (n / 4096 % 0x40 + 0x80) := by
  rw [first_byte (by omega)]
  dsimp only
  rw [if_neg (by omega), if_neg (by omega), if_neg (by omega), if_neg (by omega),
    if_neg (by omega), if_neg (by omega)]
  split
  · refine ⟨rfl, _, rfl, ?_, rfl, ?_, ?_⟩ <;> simp only [UInt8.reduceToNat] <;> omega
  split
  · refine ⟨rfl, _, rfl, ?_, rfl, ?_, ?_⟩ <;> simp only [UInt8.reduceToNat] <;> omega
  rw [if_pos (by omega)]
  refine ⟨rfl, _, rfl, ?_, rfl, ?_, ?_⟩ <;> simp only [UInt8.reduceToNat] <;> omega

theorem partsAfter_last {after : Option Pending} {value n : Nat}
    (opens : Opens after value 1 (n % 0x40 + 0x80)) (rest : List UInt8) :
    partsAfter after (UInt8.ofNat (n % 0x40 + 0x80) :: rest) =
      .char (Char.ofNat (value * 64 + n % 0x40)) :: parts rest := by
  obtain ⟨pending, rfl, rfl, one, above, below⟩ := opens
  rw [partsAfter_some_cons (step_last (by omega) one above below), Nat.add_sub_cancel]
  rfl

theorem partsAfter_more {after : Option Pending} {value n missing : Nat}
    (opens : Opens after value (missing + 2) (n % 0x40 + 0x80)) (rest : List UInt8) :
    ∃ next, partsAfter after (UInt8.ofNat (n % 0x40 + 0x80) :: rest) = partsAfter next rest ∧
      ∀ m, Opens next (value * 64 + n % 0x40) (missing + 1) (m % 0x40 + 0x80) := by
  obtain ⟨pending, rfl, rfl, more, above, below⟩ := opens
  refine ⟨_, partsAfter_some_cons (step_more (by omega) more above below) rest, ?_⟩
  intro m
  refine ⟨_, rfl, ?_, rfl, ?_, ?_⟩ <;> simp only [UInt8.reduceToNat] <;> omega

theorem encodeChar_eq (c : Char) :
    encodeChar c =
      if c.toNat ≤ 0x7F then [UInt8.ofNat c.toNat]
      else if c.toNat ≤ 0x7FF then
        [UInt8.ofNat (c.toNat / 64 % 0x20 + 0xC0), UInt8.ofNat (c.toNat % 0x40 + 0x80)]
      else if c.toNat ≤ 0xFFFF then
        [UInt8.ofNat (c.toNat / 4096 % 0x10 + 0xE0), UInt8.ofNat (c.toNat / 64 % 0x40 + 0x80),
          UInt8.ofNat (c.toNat % 0x40 + 0x80)]
      else
        [UInt8.ofNat (c.toNat / 262144 % 0x08 + 0xF0), UInt8.ofNat (c.toNat / 4096 % 0x40 + 0x80),
          UInt8.ofNat (c.toNat / 64 % 0x40 + 0x80), UInt8.ofNat (c.toNat % 0x40 + 0x80)] := rfl

theorem parts_encodeChar (c : Char) (rest : List UInt8) :
    parts (encodeChar c ++ rest) = .char c :: parts rest := by
  have range := range_toNat c
  have char {n : Nat} (same : n = c.toNat) : Char.ofNat n = c := by rw [same, Char.ofNat_toNat]
  have starts {b : UInt8} (nothing : (first b).1 = []) (more : List UInt8) :
      parts (b :: more) = partsAfter (first b).2 more :=
    (partsAfter_none_cons (Prod.ext nothing rfl) more).trans (List.nil_append _)
  rw [encodeChar_eq]
  split
  next one =>
    have completes := first_byte (n := c.toNat) (by omega)
    rw [if_pos (by omega), Char.ofNat_toNat] at completes
    exact partsAfter_none_cons completes rest
  split
  next many two =>
    obtain ⟨nothing, opens⟩ := first_of_two (n := c.toNat) (by omega) two
    simp only [List.cons_append, List.nil_append]
    rw [starts nothing, partsAfter_last opens, char (by omega)]
  split
  next many two three =>
    obtain ⟨nothing, opens⟩ := first_of_three (n := c.toNat) (by omega) three (by omega)
    simp only [List.cons_append, List.nil_append]
    obtain ⟨next, goes, opens⟩ := partsAfter_more opens
      (UInt8.ofNat (c.toNat % 0x40 + 0x80) :: rest)
    rw [starts nothing, goes, partsAfter_last (opens c.toNat), char (by omega)]
  next many two three =>
    obtain ⟨nothing, opens⟩ := first_of_four (n := c.toNat) (by omega) (by omega)
    simp only [List.cons_append, List.nil_append]
    obtain ⟨second, goes, opens⟩ := partsAfter_more opens
      (UInt8.ofNat (c.toNat / 64 % 0x40 + 0x80) :: UInt8.ofNat (c.toNat % 0x40 + 0x80) :: rest)
    obtain ⟨third, goes_on, opens⟩ := partsAfter_more (opens (c.toNat / 64))
      (UInt8.ofNat (c.toNat % 0x40 + 0x80) :: rest)
    rw [starts nothing, goes, goes_on, partsAfter_last (opens c.toNat), char (by omega)]

theorem parts_encode_append (text : List Char) (rest : List UInt8) :
    parts (encode text ++ rest) = text.map .char ++ parts rest := by
  induction text with
  | nil => rfl
  | cons c more ih =>
    have shape : encode (c :: more) = encodeChar c ++ encode more := rfl
    rw [shape, List.append_assoc, parts_encodeChar, ih, List.map_cons, List.cons_append]

theorem parts_encode (text : List Char) : parts (encode text) = text.map .char := by
  have whole := parts_encode_append text []
  rwa [List.append_nil, show parts [] = [] from rfl, List.append_nil] at whole

theorem decode?_encode (text : List Char) : decode? (encode text) = some text := by
  rw [decode?, parts_encode]
  induction text with
  | nil => rfl
  | cons c rest ih =>
    rw [List.map_cons, List.mapM_cons, ih]
    rfl

end Courier.Utf8
