import Courier.Proofs.Text
import Courier.Proofs.Url.Strict
import Courier.Url.Parser
import Courier.Transport.Destination
/-! Where the host of a URL ends. One reader stops at the first colon outside brackets, the other
closes the bracket that a host starts with and else stops at the first colon. They agree on what may
be sent, because a port has no brackets and none is left open before it. -/

namespace Courier

theorem readDigits_mem {base : Nat} {text : List Char} {read number : Nat}
    (given : readDigits base text read = some number) : ∀ c ∈ text, digitValue? c ≠ none := by
  induction text generalizing read with
  | nil => simp
  | cons c rest ih =>
    rw [readDigits] at given
    cases digit : digitValue? c with
    | none =>
      rw [digit] at given
      cases given
    | some value =>
      simp only [digit, Option.ite_none_right_eq_some] at given
      exact List.forall_mem_cons.mpr ⟨by simp [digit], ih given.2⟩

namespace Destination

def portAfter? (secure : Bool) (rest : List Char) : Option Nat :=
  match rest with
  | [] | [':'] => some (usualPort secure)
  | ':' :: digits => number? 10 digits
  | _ => none

theorem ofPlace?_eq (secure : Bool) (text : List Char) :
    ofPlace? secure text =
      let (userinfo, place) := cutUserinfo (text.takeWhile (!Strict.endsAuthority ·))
      let (path, query) := cutTarget (text.dropWhile (!Strict.endsAuthority ·))
      (portAfter? secure (cutHost place).2).bind fun port =>
        if (cutHost place).1.isEmpty || port ≥ portBound then none
        else some {
          secure
          userinfo := userinfo.map String.ofList
          host := String.ofList (cutHost place).1
          port
          path := String.ofList path
          query := query.map String.ofList } := by
  rw [ofPlace?]
  rcases cutUserinfo (text.takeWhile (!Strict.endsAuthority ·)) with ⟨userinfo, place⟩
  rcases shown : cutHost place with ⟨host, rest⟩
  simp only [shown]
  fun_cases portAfter? secure rest <;> simp_all

theorem userinfo_eq_none {authority : List Char} (userless : (cutUserinfo authority).1 = none) :
    '@' ∉ authority ∧ (cutUserinfo authority).2 = authority := by
  unfold cutUserinfo at *
  cases cut : cutAt? (· = '@') authority.reverse with
  | some parts => simp [cut] at userless
  | none =>
    refine ⟨fun member => ?_, by simp⟩
    have clear := (cutAt?_eq_none_iff _ _).mp cut '@' (List.mem_reverse.mpr member)
    simp at clear

theorem ofPlace?_eq_some {secure : Bool} {authority tail : List Char} {destination : Destination}
    (inside : ∀ c ∈ authority, Strict.endsAuthority c = false)
    (ends : ∀ c ∈ tail.head?, Strict.endsAuthority c = true)
    (placed : ofPlace? secure (authority ++ tail) = some destination)
    (userless : destination.userinfo = none) :
    ∃ rest, cutHost authority = (destination.host.toList, rest) ∧
      portAfter? secure rest = some destination.port ∧ destination.host.toList ≠ [] ∧
      destination.port < portBound ∧ '@' ∉ authority := by
  have front : (authority ++ tail).takeWhile (!Strict.endsAuthority ·) = authority :=
    takeWhile_part (by simpa using inside) (by simpa using ends)
  rw [ofPlace?_eq, front] at placed
  simp only [Option.bind_eq_some_iff, Option.ite_none_left_eq_some] at placed
  obtain ⟨port, ported, fits, same⟩ := placed
  obtain rfl := Option.some.inj same
  obtain ⟨unnamed, whole⟩ := userinfo_eq_none (Option.map_eq_none_iff.mp userless)
  simp only [whole, Bool.or_eq_true, List.isEmpty_iff, decide_eq_true_eq, not_or] at ported fits ⊢
  refine ⟨(cutHost authority).2, ?_, ported, ?_, by omega, unnamed⟩
  · rw [String.toList_ofList]
  · rw [String.toList_ofList]
    exact fits.1

theorem portAfter?_plain {secure : Bool} {rest : List Char} {port : Nat}
    (ported : portAfter? secure rest = some port) :
    (∀ c ∈ rest.head?, c = ':') ∧ ∀ c ∈ rest, c ≠ '[' ∧ c ≠ ']' ∧ c ≠ '\\' := by
  have digits_plain : ∀ c, digitValue? c ≠ none → c ≠ '[' ∧ c ≠ ']' ∧ c ≠ '\\' := by
    intro c digit
    refine ⟨?_, ?_, ?_⟩ <;> rintro rfl <;> exact digit (by decide)
  fun_cases portAfter? secure rest with
  | case1 => simp
  | case2 => simp
  | case3 digits nonempty =>
    have read : ¬digits = [] ∧ readDigits 10 digits 0 = some port := by
      simpa [portAfter?, number?, List.isEmpty_iff, nonempty] using ported
    have plain : ∀ c ∈ digits, c ≠ '[' ∧ c ≠ ']' ∧ c ≠ '\\' := fun c member =>
      digits_plain c (readDigits_mem read.2 c member)
    exact ⟨by simp, List.forall_mem_cons.mpr ⟨by decide, plain⟩⟩
  | case4 => simp_all [portAfter?]

theorem cutHost_of_unclosed {front : List Char} (unclosed : ']' ∉ front) (later : List Char) :
    cutHost ('[' :: (front ++ ']' :: later)) = ('[' :: (front ++ [']']), later) := by
  have inside : ('[' :: (front ++ ']' :: later)).takeWhile (· ≠ ']') = '[' :: front := by
    rw [← List.cons_append]
    refine takeWhile_part ?_ (by simp)
    intro c member
    rcases List.mem_cons.mp member with rfl | member
    · decide
    · exact decide_eq_true fun same => unclosed (same ▸ member)
  simp only [cutHost, inside]
  simp

theorem cutHost_of_unbracketed {place : List Char} (plain : ¬∃ more, place = '[' :: more) :
    cutHost place = (place.takeWhile (· ≠ ':'), place.dropWhile (· ≠ ':')) := by
  unfold cutHost
  split
  next more => exact absurd ⟨more, rfl⟩ plain
  next => rfl

end Destination

namespace Url

open Strict (openAfter openAfter_cons)

/-- A host ends before a colon that stands outside brackets. -/
theorem cutHost_append {inside : Bool} {host rest : List Char} (clear : ':' ∉ host)
    (closed : openAfter inside host = false) (starts : ∀ c ∈ rest.head?, c = ':') :
    cutHost inside (host ++ rest) = (host, rest) := by
  induction host generalizing inside with
  | nil =>
    obtain rfl : inside = false := closed
    cases rest with
    | nil => rfl
    | cons c more =>
      obtain rfl : c = ':' := starts c rfl
      rfl
  | cons c more ih =>
    have other : c ≠ ':' := fun same => clear (by simp [same])
    have inner := ih (fun member => clear (List.mem_cons_of_mem _ member))
      (openAfter_cons inside c more ▸ closed)
    simp only [List.cons_append, cutHost, other, decide_false, Bool.false_and, Bool.false_eq_true,
      ↓reduceIte, inner]

theorem cutHost_of_unclosed {host : List Char} (unclosed : ']' ∉ host) (rest : List Char) :
    cutHost true (host ++ ']' :: rest) =
      (host ++ ']' :: (cutHost false rest).1, (cutHost false rest).2) := by
  induction host with
  | nil => simp [cutHost]
  | cons c more ih =>
    have other : c ≠ ']' := fun same => unclosed (by simp [same])
    have inner := ih (fun member => unclosed (List.mem_cons_of_mem _ member))
    simp [cutHost, other, inner]

/-- Both readers end the host at the same place. -/
theorem cutHost_eq {secure : Bool} {authority host rest : List Char} {port : Nat}
    (cut : Destination.cutHost authority = (host, rest))
    (ported : Destination.portAfter? secure rest = some port)
    (balanced : openAfter false authority = false) : cutHost false authority = (host, rest) := by
  obtain ⟨starts, plain⟩ := Destination.portAfter?_plain ported
  by_cases bracketed : ∃ more, authority = '[' :: more
  · -- A host in brackets closes them, as none is left open.
    obtain ⟨more, rfl⟩ := bracketed
    have closed : ']' ∈ more := by
      by_contra unclosed
      have stays : openAfter true more = true := Strict.openAfter_of_unclosed unclosed
      exact absurd (stays.symm.trans balanced) (by decide)
    obtain ⟨front, later, rfl, unclosed⟩ := List.eq_append_cons_of_mem closed
    rw [Destination.cutHost_of_unclosed unclosed] at cut
    obtain ⟨rfl, rfl⟩ := Prod.mk.inj cut
    have ends : cutHost false ([] ++ later) = ([], later) := cutHost_append (by simp) rfl starts
    have inner := cutHost_of_unclosed unclosed later
    rw [List.nil_append] at ends
    rw [ends] at inner
    simp only [cutHost, decide_true, Char.reduceEq, Bool.true_or, decide_false, Bool.false_and,
      Bool.false_eq_true, ↓reduceIte, inner]
  · -- Any other host has no colon, and no bracket in the port takes one from it.
    rw [Destination.cutHost_of_unbracketed bracketed] at cut
    obtain ⟨rfl, rfl⟩ := Prod.mk.inj cut
    have whole : authority.takeWhile (· ≠ ':') ++ authority.dropWhile (· ≠ ':') = authority :=
      List.takeWhile_append_dropWhile
    have clear : ':' ∉ authority.takeWhile (· ≠ ':') := fun member => by
      simpa using List.mem_takeWhile_imp member
    have outside : openAfter false (authority.takeWhile (· ≠ ':')) = false := by
      rw [← whole, Strict.openAfter_append] at balanced
      rwa [Strict.openAfter_of_plain fun c member => ⟨(plain c member).1, (plain c member).2.1⟩]
        at balanced
    have split := cutHost_append clear outside starts
    rwa [whole] at split

end Url
end Courier
