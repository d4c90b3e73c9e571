import Courier.Capture
import Courier.Proofs.Text.Malformed
/-! Bodies as payloads. A payload has the bytes it was made of, whether these are text or not, and the
text that they are shown as. A body is read as a whole or not at all. -/

namespace Courier

namespace Payload

theorem bytes_decode (raw : List UInt8) : (decode raw).bytes = raw := by
  unfold decode
  split
  next content read =>
    obtain ⟨text, decoded, rfl⟩ := Option.map_eq_some_iff.mp read
    rw [bytes, Utf8.bytes, String.toList_ofList, Utf8.encode_of_decode? decoded]
  next => rfl

theorem content_decode (raw : List UInt8) : (decode raw).content = Utf8.lossyText raw := by
  unfold decode
  split
  next content read =>
    obtain ⟨text, decoded, rfl⟩ := Option.map_eq_some_iff.mp read
    rw [Payload.content, Utf8.lossyText, Utf8.decodeLossy_of_decode? decoded]
  next => rfl

theorem exists_text_iff (raw : List UInt8) : (∃ text, decode raw = .text text) ↔ Utf8.IsText raw := by
  rw [Utf8.isText_iff]
  constructor
  · rintro ⟨text, made⟩
    refine ⟨text.toList, ?_⟩
    have kept := bytes_decode raw
    rwa [made] at kept
  · rintro ⟨text, rfl⟩
    refine ⟨String.ofList text, ?_⟩
    rw [decode, Utf8.text?, Utf8.decode?_encode]
    rfl

theorem bytes_content_eq_iff (raw : List UInt8) :
    Utf8.bytes (decode raw).content = raw ↔ Utf8.IsText raw := by
  constructor
  · intro same
    exact (Utf8.isText_iff raw).mpr ⟨_, same⟩
  · intro valid
    obtain ⟨text, made⟩ := (exists_text_iff raw).mpr valid
    have kept := bytes_decode raw
    rw [made] at kept ⊢
    exact kept

/-- A payload has the bytes of the body as they were received, and as its content what lossy decoding
shows for them: the body itself where that is text, and else its characters with one replacement
character for each malformed piece between them. -/
theorem body_is_kept_and_shown (raw : List UInt8) :
    (decode raw).bytes = raw ∧ (decode raw).content = Utf8.lossyText raw ∧
      ((∃ text, decode raw = .text text) ↔ Utf8.IsText raw) ∧
      (Utf8.bytes (decode raw).content = raw ↔ Utf8.IsText raw) ∧
      ∃ found, Utf8.Shows raw (decode raw).content.toList found ∧
        (Utf8.malformed found = [] ↔ Utf8.IsText raw) := by
  refine ⟨bytes_decode raw, content_decode raw, exists_text_iff raw, bytes_content_eq_iff raw,
    Utf8.parts raw, ?_, (Utf8.isText_iff_malformed raw).symm⟩
  rw [content_decode raw, Utf8.lossyText, String.toList_ofList]
  exact Utf8.shows_decodeLossy raw

def ruin : List UInt8 :=
  [0x41, 0xE2, 0x82, 0xC0, 0xAF, 0xED, 0xA0, 0x80, 0xC3, 0xA9, 0xEF, 0xBF, 0xBD]

theorem ruin_is_kept_and_shown :
    (decode ruin).bytes = ruin ∧ ¬Utf8.IsText ruin ∧
      (decode ruin).content.toList.count Utf8.replacement = 7 ∧
      Utf8.unreplaced (Utf8.parts ruin) (decode ruin).content.toList =
        ['A', 'é', Utf8.replacement] := by
  obtain ⟨kept, _, _, _, found, shows, whole⟩ := body_is_kept_and_shown ruin
  have cut : found = Utf8.parts ruin := ((shows.cut _).mp (Utf8.cut_parts ruin)).symm
  subst cut
  exact ⟨kept, mt whole.mpr (by decide), shows.replaced.trans (by decide), shows.kept.trans (by decide)⟩

end Payload

namespace PendingBody

variable [BodyReader] (pending : PendingBody)

theorem read_eq_ok_iff (payload : Payload) :
    pending.read = .ok payload ↔
      ∃ raw, BodyReader.read pending.delivery pending.limit = .ok raw ∧ payload = .decode raw := by
  unfold read
  cases BodyReader.read pending.delivery pending.limit <;> simp [eq_comm]

theorem read_eq_error_iff (error : TransportError) :
    pending.read = .error error ↔
      ∃ interruption, BodyReader.read pending.delivery pending.limit = .error interruption ∧
        error = .ofInterruption pending.url pending.timeout interruption := by
  unfold read
  cases BodyReader.read pending.delivery pending.limit <;> simp [eq_comm]

theorem delivers {pending : PendingBody} {payload : Payload} (read : pending.read = .ok payload)
    {raw : List UInt8} (delivered : pending.delivery = .whole raw) :
    payload.bytes = raw ∧ payload.content = Utf8.lossyText raw := by
  obtain ⟨other, taken, rfl⟩ := (pending.read_eq_ok_iff payload).mp read
  obtain rfl := Delivery.whole.inj ((BodyReader.all taken).symm.trans delivered)
  exact ⟨Payload.bytes_decode other, Payload.content_decode other⟩

end PendingBody

end Courier
