import Courier.Form
import Courier.Proofs.Text
import Courier.Proofs.Text.Parts
/-! Form encoding undone. Decoding gives the very names and values that were encoded, whatever
characters are in them, and after those of the text that they were appended to. -/

namespace Courier

theorem Utf8.encode_append (front back : List Char) :
    encode (front ++ back) = encode front ++ encode back := List.flatMap_append

theorem Utf8.encodeChar_of_isAscii {c : Char} (ascii : isAscii c = true) :
    encodeChar c = [UInt8.ofNat c.toNat] := by
  have small : c.toNat ≤ 0x7F := by
    simp only [isAscii, decide_eq_true_eq] at ascii
    omega
  rw [encodeChar_eq, if_pos small]

namespace Form

/-! ### Names and values -/

theorem unescape_cons {b : UInt8} (other : b ≠ 0x25) (rest : List UInt8) :
    unescape (b :: rest) = b :: unescape rest := by
  rw [unescape]
  intro high low more same
  exact absurd same other

theorem spaced_append (front back : List UInt8) :
    spaced (front ++ back) = spaced front ++ spaced back := List.map_append

theorem unescape_encodeByte (b : UInt8) (rest : List UInt8) :
    unescape (spaced (Utf8.encode (Percent.encodeByte b)) ++ rest) = b :: unescape rest := by
  have digits : ∀ value < 16,
      Utf8.encodeChar (upperHexDigit value) = [UInt8.ofNat (upperHexDigit value).toNat] ∧
      UInt8.ofNat (upperHexDigit value).toNat ≠ 0x2B ∧
      byteDigit? (UInt8.ofNat (upperHexDigit value).toNat) = some value := by decide
  have bound : b.toNat < 256 := b.toNat_lt
  obtain ⟨high, high_other, high_read⟩ := digits (b.toNat / 16) (by omega)
  obtain ⟨low, low_other, low_read⟩ := digits (b.toNat % 16) (by omega)
  have sign : Utf8.encodeChar '%' = [0x25] := by decide
  have whole : UInt8.ofNat (b.toNat / 16 * 16 + b.toNat % 16) = b := by
    rw [Nat.div_add_mod', UInt8.ofNat_toNat]
  simp only [Percent.encodeByte, Utf8.encode, List.flatMap_cons, List.flatMap_nil, sign, high, low,
    List.cons_append, List.nil_append, spaced, List.map_cons, List.map_nil]
  have percent : (0x25 : UInt8) ≠ 0x2B := by decide
  simp only [beq_iff_eq, percent, high_other, low_other, ↓reduceIte]
  rw [unescape, high_read, low_read]
  dsimp only
  rw [whole]

theorem unescape_encodeBytes (bytes rest : List UInt8) :
    unescape (spaced (Utf8.encode (bytes.flatMap Percent.encodeByte)) ++ rest) =
      bytes ++ unescape rest := by
  induction bytes with
  | nil => rfl
  | cons b more ih =>
    rw [List.flatMap_cons, Utf8.encode_append, spaced_append, List.append_assoc,
      unescape_encodeByte, ih, List.cons_append]

def isWritten (c : Char) : Bool := isPlain c || c = '+' || c = '%'

theorem isAscii_of_isWritten {c : Char} (written : isWritten c = true) : isAscii c = true := by
  simp only [isWritten, isPlain, Bool.or_eq_true, decide_eq_true_eq] at written
  rcases written with (((((letter | rfl) | rfl) | rfl) | rfl) | rfl) | rfl
  · exact isAscii_of_isAsciiAlphanum letter
  all_goals decide

theorem unescape_encodeChar (c : Char) (rest : List UInt8) :
    unescape (spaced (Utf8.encode (encodeChar c)) ++ rest) = Utf8.encodeChar c ++ unescape rest := by
  have table : ∀ n < 128, isPlain (Char.ofNat n) = true →
      UInt8.ofNat (Char.ofNat n).toNat ≠ 0x2B ∧ UInt8.ofNat (Char.ofNat n).toNat ≠ 0x25 := by
    decide +kernel
  unfold encodeChar
  split
  next plain =>
    have ascii : isAscii c = true := isAscii_of_isWritten (by simp [isWritten, plain])
    obtain ⟨plus, percent⟩ := forall_isAscii (fun c => isPlain c = true →
      UInt8.ofNat c.toNat ≠ 0x2B ∧ UInt8.ofNat c.toNat ≠ 0x25) table ascii plain
    rw [Utf8.encode, List.flatMap_singleton, Utf8.encodeChar_of_isAscii ascii]
    simp only [spaced, List.map_cons, List.map_nil, beq_iff_eq, plus, ↓reduceIte, List.cons_append,
      List.nil_append, unescape_cons percent]
  next =>
    split
    next same =>
      have space : spaced (Utf8.encode ['+']) = [0x20] := by decide
      rw [same, space, List.cons_append, List.nil_append, unescape_cons (by decide)]
      rfl
    next => exact unescape_encodeBytes (Utf8.encodeChar c) rest

theorem decodeText_encodeText (text : String) : decodeText (Utf8.encode (encodeText text)) = text := by
  have undone (text : List Char) :
      unescape (spaced (Utf8.encode (text.flatMap encodeChar))) = Utf8.encode text := by
    induction text with
    | nil => rfl
    | cons c rest ih =>
      rw [List.flatMap_cons, Utf8.encode_append, spaced_append, unescape_encodeChar, ih, Utf8.encode,
        Utf8.encode, List.flatMap_cons]
  rw [decodeText, encodeText, undone]
  exact Utf8.lossyText_bytes text

theorem isWritten_of_mem_encodeText {text : String} {c : Char} (member : c ∈ encodeText text) :
    isWritten c = true := by
  have digits : ∀ value < 16, isWritten (upperHexDigit value) = true := by decide
  obtain ⟨d, _, inside⟩ := List.mem_flatMap.mp member
  unfold encodeChar at inside
  split at inside
  next plain =>
    rw [List.mem_singleton.mp inside]
    simp [isWritten, plain]
  next =>
    split at inside
    · rw [List.mem_singleton.mp inside]
      decide
    · obtain ⟨b, _, part⟩ := List.mem_flatMap.mp inside
      have bound : b.toNat < 256 := b.toNat_lt
      simp only [Percent.encodeByte, List.mem_cons, List.not_mem_nil, or_false] at part
      rcases part with rfl | rfl | rfl
      · decide
      · exact digits _ (by omega)
      · exact digits _ (by omega)

/-- The signs between names, values and pairs are written in none of them. -/
theorem separates_encodeText {text : String} {b : UInt8}
    (member : b ∈ Utf8.encode (encodeText text)) : b ≠ 0x26 ∧ b ≠ 0x3D := by
  have table : ∀ n < 128, isWritten (Char.ofNat n) = true →
      UInt8.ofNat (Char.ofNat n).toNat ≠ 0x26 ∧ UInt8.ofNat (Char.ofNat n).toNat ≠ 0x3D := by
    decide +kernel
  obtain ⟨c, inside, byte⟩ := List.mem_flatMap.mp member
  have written := isWritten_of_mem_encodeText inside
  have ascii := isAscii_of_isWritten written
  rw [Utf8.encodeChar_of_isAscii ascii, List.mem_singleton] at byte
  rw [byte]
  exact forall_isAscii (fun c => isWritten c = true →
    UInt8.ofNat c.toNat ≠ 0x26 ∧ UInt8.ofNat c.toNat ≠ 0x3D) table ascii written

/-! ### Pairs -/

theorem encode_encodePair (pair : Pair) :
    Utf8.encode (encodePair pair) =
      Utf8.encode (encodeText pair.name) ++ 0x3D :: Utf8.encode (encodeText pair.value) :=
  Utf8.encode_append _ _

theorem decodePair_encodePair (pair : Pair) :
    decodePair (Utf8.encode (encodePair pair)) = pair := by
  have name : ∀ b ∈ Utf8.encode (encodeText pair.name), decide (b ≠ 0x3D) = true :=
    fun b member => decide_eq_true (separates_encodeText member).2
  rw [decodePair, encode_encodePair, List.takeWhile_append_of_pos name,
    List.dropWhile_append_of_pos name]
  simp [decodeText_encodeText]

theorem pieces_of_clear {separator : UInt8} {input : List UInt8}
    (clear : ∀ b ∈ input, b ≠ separator) : pieces separator input = [input] := by
  induction input with
  | nil => rfl
  | cons b rest ih =>
    obtain ⟨here, later⟩ := List.forall_mem_cons.mp clear
    rw [pieces, if_neg here, ih later]

theorem pieces_ne_nil (separator : UInt8) (input : List UInt8) : pieces separator input ≠ [] := by
  cases input with
  | nil => simp [pieces]
  | cons b rest =>
    rw [pieces]
    split
    · simp
    · split <;> simp

/-- Bytes around a separator are cut on their own. -/
theorem pieces_append (separator : UInt8) (front back : List UInt8) :
    pieces separator (front ++ separator :: back) =
      pieces separator front ++ pieces separator back := by
  induction front with
  | nil => simp [pieces]
  | cons b rest ih =>
    rw [List.cons_append, pieces, pieces, ih]
    split
    · rfl
    · cases shown : pieces separator rest with
      | nil => exact absurd shown (pieces_ne_nil separator rest)
      | cons piece more => rfl

theorem decode_joined (front back : List UInt8) :
    decode (front ++ 0x26 :: back) = decode front ++ decode back := by
  rw [decode, pieces_append, List.filter_append, List.map_append]
  rfl

theorem decode_encodePair (pair : Pair) : decode (Utf8.encode (encodePair pair)) = [pair] := by
  have clear : ∀ b ∈ Utf8.encode (encodePair pair), b ≠ 0x26 := by
    rw [encode_encodePair]
    intro b member
    rcases List.mem_append.mp member with name | rest
    · exact (separates_encodeText name).1
    · rcases List.mem_cons.mp rest with rfl | value
      · decide
      · exact (separates_encodeText value).1
  have given : (Utf8.encode (encodePair pair)).isEmpty = false := by simp [encode_encodePair]
  rw [decode, pieces_of_clear clear]
  simp [given, decodePair_encodePair]

/-- Every piece of a joined text is decoded on its own. -/
theorem decode_joinWith (parts : List (List Char)) :
    decode (Utf8.encode (joinWith ['&'] parts)) =
      parts.flatMap fun part => decode (Utf8.encode part) := by
  fun_induction joinWith ['&'] parts with
  | case1 => rfl
  | case2 part => simp
  | case3 part parts _ ih =>
    have sign (back : List Char) : Utf8.encode (['&'] ++ back) = 0x26 :: Utf8.encode back := rfl
    rw [List.append_assoc, Utf8.encode_append, sign, decode_joined, ih, List.flatMap_cons]

theorem decode_encodePairs (pairs : List Pair) :
    (pairs.map encodePair).flatMap (fun part => decode (Utf8.encode part)) = pairs := by
  simp only [List.flatMap_map, decode_encodePair, List.flatMap_singleton']

theorem decode_text (pairs : List Pair) : decode (Utf8.bytes (text pairs)) = pairs := by
  rw [Utf8.bytes, text, String.toList_ofList, encode, decode_joinWith, decode_encodePairs]

theorem decode_append (text : List Char) (pairs : List Pair) :
    decode (Utf8.encode (append text pairs)) = decode (Utf8.encode text) ++ pairs := by
  have old : (if text.isEmpty then [] else [text]).flatMap (fun part => decode (Utf8.encode part)) =
      decode (Utf8.encode text) := by
    cases text with
    | nil => rfl
    | cons c rest => simp
  rw [append, decode_joinWith, List.flatMap_append, old, decode_encodePairs]

end Form
end Courier
