import Courier.Proofs.Url.Domain
import Courier.Proofs.Url.Host
import Courier.Proofs.Url.Ipv4
import Courier.Proofs.Url.Ipv6
import Courier.Proofs.Url.Percent
import Courier.Proofs.Text.Utf8
/-! Hosts read again. The text of a host that was read is read as the same host, except for a name
with a label that became too long: that is refused. -/

namespace Courier

inductive Host.IsRead : Host → Prop where
  | domain {raw name : List Char} (written : Domain.toAscii? raw = some name) (nonempty : name ≠ [])
      (named : Ipv4.endsInNumber name = false) : IsRead (.domain (String.ofList name))
  | ipv4 {address : Nat} (bounded : address < 4294967296) : IsRead (.ipv4 address)
  | ipv6 {pieces : List Nat} (eight : pieces.length = 8) (bounded : ∀ n ∈ pieces, n < 65536) :
      IsRead (.ipv6 pieces)

def Host.IsOverlong (host : Host) : Prop :=
  ∃ name, host = .domain name ∧ ∃ label ∈ splitAt '.' name.toList, Domain.IsOverlong label

namespace Url

def IsHostChar (c : Char) : Prop :=
  isSolid c = true ∧ endsAuthority .special c = false ∧ c ≠ '@'

instance : DecidablePred IsHostChar := fun _ => inferInstanceAs (Decidable (_ ∧ _ ∧ _))

theorem bracketHost_eq_ok {inner : List Char} {host : Host} (read : bracketHost inner = .ok host) :
    host.IsRead := by
  unfold bracketHost at read
  split at read
  · split at read
    next pieces parsed =>
      obtain rfl := Except.ok.inj read
      obtain ⟨eight, bounded⟩ := Ipv6.parse?_eq_some parsed
      exact .ipv6 eight bounded
    next => cases read
  · cases read

theorem isRead_of_readHost {text : List Char} {host : Host} (read : readHost text = .ok host) :
    host.IsRead := by
  unfold readHost at read
  split at read
  · exact bracketHost_eq_ok read
  · split at read
    · cases read
    · cases read
    next name nonempty written =>
      obtain ⟨raw, _, written⟩ := Option.bind_eq_some_iff.mp written
      split at read
      · split at read
        next address parsed =>
          obtain rfl := Except.ok.inj read
          exact .ipv4 (Ipv4.parse?_lt parsed)
        next => cases read
      next named =>
        obtain rfl := Except.ok.inj read
        exact .domain written (fun gone => nonempty gone) (by simpa using named)

/-! ### Characters -/

theorem isHostChar_of_isWritten {c : Char} (written : Domain.IsWritten c) : IsHostChar c := by
  have table : ∀ n < 128, Domain.isForbidden (Char.ofNat n) = false → IsHostChar (Char.ofNat n) := by
    decide +kernel
  exact forall_isAscii (fun c => Domain.isForbidden c = false → IsHostChar c) table
    written.1 written.2.1

theorem isWritten_of_mem_ipv4 {address : Nat} : ∀ c ∈ Ipv4.write address, Domain.IsWritten c := by
  have point : ['.'].all (fun c => decide (Domain.IsWritten c)) = true := by decide +kernel
  have all : (Ipv4.write address).all (fun c => decide (Domain.IsWritten c)) = true := by
    rw [Ipv4.write_eq, all_joinWith point, List.all_map, List.all_eq_true]
    intro n member
    rw [Function.comp_apply, List.all_eq_true]
    intro c digit
    have digits := (Ipv4.decimal_of_byte (Ipv4.lt_of_mem_bytes member)).2.1
    have decimal := List.all_eq_true.mp digits c digit
    exact decide_eq_true (Domain.isWritten_of_isDigit (by simp [Punycode.isDigit, decimal]))
  exact fun c member => of_decide_eq_true (List.all_eq_true.mp all c member)

theorem isHostChar_of_isAddressChar {c : Char} (digit : Ipv6.isAddressChar c = true) :
    IsHostChar c ∧ c ≠ ']' := by
  have ascii : isAscii c = true := by
    simp only [Ipv6.isAddressChar, Ipv6.isPieceDigit, Bool.or_eq_true, Bool.and_eq_true,
      decide_eq_true_eq] at digit
    rcases digit with (number | ⟨_, below⟩) | rfl
    · exact isAscii_of_isAsciiDigit number
    · exact isAscii_of_le below (by decide)
    · decide
  have table : ∀ n < 128, Ipv6.isAddressChar (Char.ofNat n) = true →
      IsHostChar (Char.ofNat n) ∧ Char.ofNat n ≠ ']' := by decide +kernel
  exact forall_isAscii (fun c => Ipv6.isAddressChar c = true →
    IsHostChar c ∧ c ≠ ']') table ascii digit

variable {host : Host}

theorem isHostChar_of_mem_text (read : host.IsRead) : ∀ c ∈ host.text.toList, IsHostChar c := by
  cases read with
  | domain written nonempty named =>
    rw [Host.text, String.toList_ofList]
    exact fun c member => isHostChar_of_isWritten (Domain.isWritten_of_toAscii? written c member)
  | ipv4 bounded =>
    rw [Host.text, String.toList_ofList]
    exact fun c member => isHostChar_of_isWritten (isWritten_of_mem_ipv4 c member)
  | ipv6 eight bounded =>
    rw [Host.text, String.toList_ofList]
    intro c member
    simp only [List.mem_append, List.mem_cons, List.not_mem_nil, or_false] at member
    rcases member with (rfl | inside) | rfl
    · decide +kernel
    · exact (isHostChar_of_isAddressChar (Ipv6.isAddressChar_of_mem_write c inside)).1
    · decide +kernel

theorem text_ne_nil (read : host.IsRead) : host.text.toList ≠ [] := by
  cases read with
  | domain written nonempty named => simpa [Host.text] using nonempty
  | ipv4 bounded =>
    intro gone
    have split := Ipv4.splitAt_write ‹Nat›
    rw [Host.text, String.toList_ofList] at gone
    rw [gone] at split
    simp [splitAt, Ipv4.bytes] at split
  | ipv6 eight bounded => simp [Host.text]

theorem cutHost_text (read : host.IsRead) {port : List Char}
    (starts : ∀ c ∈ port.head?, c = ':') :
    cutHost false (host.text.toList ++ port) = (host.text.toList, port) := by
  have of_written {name : List Char} (written : ∀ c ∈ name, Domain.IsWritten c) :
      cutHost false (name ++ port) = (name, port) := by
    have other {c d : Char} (free : Domain.IsWritten c) (bad : Domain.isForbidden d = true) :
        c ≠ d := by
      rintro rfl
      exact absurd (free.2.1.symm.trans bad) (by decide)
    refine cutHost_append ?_ ?_ starts
    · exact fun member => other (written ':' member) (by decide) rfl
    · exact Strict.openAfter_of_plain fun c member =>
        ⟨other (written c member) (by decide), other (written c member) (by decide)⟩
  cases read with
  | domain written nonempty named =>
    rw [Host.text, String.toList_ofList]
    exact of_written (Domain.isWritten_of_toAscii? written)
  | ipv4 bounded =>
    rw [Host.text, String.toList_ofList]
    exact of_written isWritten_of_mem_ipv4
  | @ipv6 pieces eight bounded =>
    have unclosed : ']' ∉ Ipv6.write pieces := fun member =>
      (isHostChar_of_isAddressChar (Ipv6.isAddressChar_of_mem_write ']' member)).2 rfl
    have ends : cutHost false port = ([], port) := by
      simpa using cutHost_append List.not_mem_nil (rfl : Strict.openAfter false [] = false) starts
    have inner := cutHost_of_unclosed unclosed port
    rw [ends] at inner
    simp [Host.text, cutHost, inner]

/-! ### Reading again -/

theorem readHost_of_isWritten {name : List Char} (written : ∀ c ∈ name, Domain.IsWritten c) :
    readHost name =
      match Domain.toAscii? name with
      | none => .error .invalidDomain
      | some [] => .error .emptyHost
      | some name =>
        if Ipv4.endsInNumber name then
          match Ipv4.parse? name with
          | some address => .ok (.ipv4 address)
          | none => .error .invalidIpv4
        else .ok (.domain (String.ofList name)) := by
  have clear : '%' ∉ name := fun member =>
    absurd (written '%' member).2.1 (by decide)
  have bytes : Utf8.decode? (Percent.decode name) = some name := by
    rw [Percent.decode_of_clear clear, Utf8.decode?_encode]
  unfold readHost
  split
  · exact absurd (written '[' (by simp)).2.1 (by decide)
  · rw [bytes]
    rfl

theorem readHost_ipv4 {address : Nat} (bounded : address < 4294967296) :
    readHost (Ipv4.write address) = .ok (.ipv4 address) := by
  have unmarked : ∀ label ∈ splitAt '.' (Ipv4.write address), ¬Domain.marker <+: label := by
    rintro label member ⟨rest, rfl⟩
    have letter := mem_of_mem_splitAt member 'x' (by simp [Domain.marker])
    rw [Ipv4.splitAt_write] at member
    obtain ⟨n, own, shown⟩ := List.mem_map.mp member
    have digits := (Ipv4.decimal_of_byte (Ipv4.lt_of_mem_bytes own)).2.1
    rw [shown] at digits
    exact absurd (List.all_eq_true.mp digits 'x' (by simp [Domain.marker])) (by decide)
  rw [readHost_of_isWritten isWritten_of_mem_ipv4,
    Domain.toAscii?_of_unmarked isWritten_of_mem_ipv4 unmarked]
  have given := text_ne_nil (.ipv4 bounded)
  rw [Host.text, String.toList_ofList] at given
  obtain ⟨first, rest, shown⟩ := List.exists_cons_of_ne_nil given
  have number := Ipv4.endsInNumber_write address
  have parsed := Ipv4.parse?_write bounded
  rw [shown] at number parsed ⊢
  simp only [number, ↓reduceIte, parsed]

theorem readHost_ipv6 {pieces : List Nat} (eight : pieces.length = 8)
    (bounded : ∀ n ∈ pieces, n < 65536) :
    readHost ('[' :: Ipv6.write pieces ++ [']']) = .ok (.ipv6 pieces) := by
  simp only [List.cons_append, readHost, bracketHost, List.getLast?_append, List.getLast?_singleton,
    Option.some_or, BEq.rfl, ↓reduceIte, List.dropLast_concat, Ipv6.parse?_write eight bounded]

/-- The text of a host is read as the host, unless one of its labels became too long. -/
theorem readHost_text (read : host.IsRead) :
    (¬host.IsOverlong → readHost host.text.toList = .ok host) ∧
      (host.IsOverlong → readHost host.text.toList = .error .invalidDomain) := by
  cases read with
  | @domain raw name written nonempty named =>
    have chars := Domain.isWritten_of_toAscii? written
    obtain ⟨short, long⟩ := Domain.toAscii?_of_toAscii? written
    rw [Host.text, String.toList_ofList, readHost_of_isWritten chars]
    constructor
    · intro fine
      rw [short fun label member overlong => fine ⟨_, rfl, label, by simpa using member, overlong⟩]
      obtain ⟨first, rest, rfl⟩ := List.exists_cons_of_ne_nil nonempty
      simp only [named, Bool.false_eq_true, ↓reduceIte]
    · rintro ⟨_, same, label, member, overlong⟩
      obtain rfl := Host.domain.inj same
      rw [long ⟨label, by simpa using member, overlong⟩]
  | ipv4 bounded =>
    rw [Host.text, String.toList_ofList]
    refine ⟨fun _ => readHost_ipv4 bounded, ?_⟩
    rintro ⟨_, same, _⟩
    cases same
  | ipv6 eight bounded =>
    rw [Host.text, String.toList_ofList]
    refine ⟨fun _ => readHost_ipv6 eight bounded, ?_⟩
    rintro ⟨_, same, _⟩
    cases same

end Url
end Courier
