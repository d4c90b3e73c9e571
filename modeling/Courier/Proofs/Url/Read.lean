import Courier.Proofs.Form
import Courier.Proofs.Request
import Courier.Proofs.Url.Path
import Courier.Proofs.Url.Rehost
/-! URLs as they are read. The components of a URL of the web that was read are encoded, its host is one
that reading gives, and its port is not the usual one. Parameters that are added to its query leave
it so. -/

namespace Courier

open Percent (IsKept)

structure Url.IsRead (url : Url) : Prop where
  web : url.scheme = "http" ∨ url.scheme = "https"
  username : ∀ c ∈ url.username.toList, IsKept Percent.inUserinfo c
  password : ∀ password, url.password = some password →
    password ≠ "" ∧ ∀ c ∈ password.toList, IsKept Percent.inUserinfo c
  host : ∃ host, url.host = some host ∧ host.IsRead
  port : ∀ port, url.port = some port → port ≤ 65535 ∧ usualPort? url.scheme ≠ some port
  path : IsReadPath url.path
  query : ∀ query, url.query = some query → ∀ c ∈ query.toList, IsKept Percent.inSpecialQuery c
  fragment : ∀ fragment, url.fragment = some fragment →
    ∀ c ∈ fragment.toList, IsKept Percent.inFragment c

def Url.IsOverlong (url : Url) : Prop := ∃ host, url.host = some host ∧ host.IsOverlong

namespace Url

theorem encode_ne_nil {inSet : Char → Bool} {text : List Char} (nonempty : text ≠ []) :
    Percent.encode inSet text ≠ [] := by
  obtain ⟨c, rest, rfl⟩ := List.exists_cons_of_ne_nil nonempty
  have given : Percent.encodeChar inSet c ≠ [] := by
    unfold Percent.encodeChar
    split
    · obtain ⟨b, more, bytes⟩ := List.exists_cons_of_ne_nil (encodeChar_ne_nil c)
      simp [bytes, Percent.encodeByte]
    · simp
  simp [Percent.encode, given]

theorem isKept_readUserinfo (text : List Char) :
    (∀ c ∈ (readUserinfo text).1.toList, IsKept Percent.inUserinfo c) ∧
      ∀ password, (readUserinfo text).2 = some password →
        password ≠ "" ∧ ∀ c ∈ password.toList, IsKept Percent.inUserinfo c := by
  have kept (part : List Char) :
      ∀ c ∈ (String.ofList (Percent.encode Percent.inUserinfo part)).toList, IsKept Percent.inUserinfo c := by
    rw [String.toList_ofList]
    exact Percent.isKept_of_mem_encode Percent.spares_inUserinfo
  unfold readUserinfo
  dsimp only
  split
  · exact ⟨kept _, by simp⟩
  · exact ⟨kept _, by simp⟩
  next user password nonempty _ =>
    refine ⟨kept _, fun shown same => ?_⟩
    obtain rfl := Option.some.inj same
    refine ⟨?_, kept _⟩
    intro gone
    have empty := congrArg String.toList gone
    rw [String.toList_ofList] at empty
    exact encode_ne_nil (fun none_given => nonempty none_given) empty

theorem port_of_readPort {scheme : String} {text : List Char} {held : Option Nat}
    (read : readPort scheme text = .ok held) :
    ∀ port, held = some port → port ≤ 65535 ∧ usualPort? scheme ≠ some port := by
  rintro port rfl
  unfold readPort at read
  split at read
  · cases read
  · split at read
    next number _ =>
      split at read
      · cases read
      next low =>
        have held := Except.ok.inj read
        split at held
        · cases held
        next unusual =>
          obtain rfl := Option.some.inj held
          exact ⟨by omega, unusual⟩
    next => cases read

theorem readAuthority_special {scheme : String} {text after path : List Char} {authority : Authority}
    (read : readAuthority scheme .special text after = .ok (authority, path)) :
    (∃ user, authority.username = (readUserinfo user).1 ∧
        authority.password = (readUserinfo user).2) ∧
      (∃ host, authority.host = some host ∧ host.IsRead) ∧
      ∃ digits, readPort scheme digits = .ok authority.port := by
  unfold readAuthority at read
  dsimp only at read
  split at read
  · cases read
  · split at read
    next impossible => cases impossible
    next => cases read
    next impossible _ => cases impossible
    next =>
      obtain ⟨host, hosted, read⟩ := (Outcome.bind_eq_ok_iff _ _ _).mp read
      obtain ⟨port, ported, read⟩ := (Outcome.bind_eq_ok_iff _ _ _).mp read
      obtain ⟨rfl, _⟩ := Prod.mk.inj (Except.ok.inj read)
      refine ⟨⟨_, rfl, rfl⟩, ?_, _, ported⟩
      generalize known : readHost _ = outcome at hosted
      cases outcome with
      | error error => cases hosted
      | ok found => exact ⟨found, (Except.ok.inj hosted).symm, isRead_of_readHost known⟩

theorem isRead_of_readFromAuthority {scheme : String} {text : List Char} {url : Url}
    (web : scheme = "http" ∨ scheme = "https")
    (read : readFromAuthority scheme .special text = .ok url) : url.IsRead := by
  rw [readFromAuthority, Outcome.bind_eq_ok_iff] at read
  obtain ⟨⟨authority, tail⟩, reading, made⟩ := read
  obtain rfl := Except.ok.inj made
  obtain ⟨⟨user, named, secret⟩, hosted, digits, ported⟩ := readAuthority_special reading
  have userinfo := isKept_readUserinfo user
  refine ⟨web, ?_, ?_, hosted, port_of_readPort ported, isReadPath_readPath _, ?_, ?_⟩
  · exact fun c member => userinfo.1 c (named ▸ member)
  · exact fun password shown => userinfo.2 password (secret ▸ shown)
  · intro query shown
    obtain ⟨plain, _, rfl⟩ := Option.map_eq_some_iff.mp shown
    rw [String.toList_ofList]
    exact Percent.isKept_of_mem_encode Percent.spares_inSpecialQuery
  · intro fragment shown
    obtain ⟨plain, _, rfl⟩ := Option.map_eq_some_iff.mp shown
    rw [String.toList_ofList]
    exact Percent.isKept_of_mem_encode Percent.spares_inFragment

theorem scheme_of_readFromAuthority {scheme : String} {kind : SchemeKind} {text : List Char}
    {url : Url} (read : readFromAuthority scheme kind text = .ok url) : url.scheme = scheme := by
  rw [readFromAuthority, Outcome.bind_eq_ok_iff] at read
  obtain ⟨⟨authority, tail⟩, _, made⟩ := read
  obtain rfl := Except.ok.inj made
  rfl

theorem scheme_of_readFile {text : List Char} {url : Url} (read : readFile text = .ok url) :
    url.scheme = "file" := by
  unfold readFile at read
  split at read
  · split at read
    · dsimp only at read
      split at read
      · rw [← Except.ok.inj read]
        rfl
      · obtain ⟨host, _, made⟩ := (Outcome.bind_eq_ok_iff _ _ _).mp read
        rw [← Except.ok.inj made]
        rfl
    · rw [← Except.ok.inj read]
      rfl
  · rw [← Except.ok.inj read]
    rfl

theorem isRead_of_parse {text : String} {url : Url} (read : parse text = .ok url)
    (web : url.scheme = "http" ∨ url.scheme = "https") : url.IsRead := by
  unfold parse at read
  split at read
  · cases read
  next scheme rest _ =>
    split at read
    · exact isRead_of_readFromAuthority (scheme_of_readFromAuthority read ▸ web) read
    · rw [scheme_of_readFile read] at web
      exact absurd web (by decide)
    next other =>
      have foreign : schemeKind url.scheme ≠ .other := by
        rcases web with plain | secure
        · rw [plain]
          decide
        · rw [secure]
          decide
      split at read
      · rw [scheme_of_readFromAuthority read] at foreign
        exact absurd other foreign
      · rw [← Except.ok.inj read] at foreign
        exact absurd other foreign

/-! ### Parameters -/

theorem isKept_of_mem_encodeText {text : String} :
    ∀ c ∈ Form.encodeText text, IsKept Percent.inSpecialQuery c := by
  have table : ∀ n < 128, Form.isWritten (Char.ofNat n) = true →
      Percent.inSpecialQuery (Char.ofNat n) = false := by decide +kernel
  intro c member
  have written := Form.isWritten_of_mem_encodeText member
  have ascii := Form.isAscii_of_isWritten written
  exact ⟨ascii, forall_isAscii (fun c => Form.isWritten c = true →
    Percent.inSpecialQuery c = false) table ascii written⟩

theorem isKept_of_mem_encodePair {pair : Pair} :
    ∀ c ∈ Form.encodePair pair, IsKept Percent.inSpecialQuery c := by
  intro c member
  rcases List.mem_append.mp member with name | other
  · exact isKept_of_mem_encodeText c name
  · rcases List.mem_cons.mp other with rfl | value
    · exact ⟨by decide, by decide⟩
    · exact isKept_of_mem_encodeText c value

theorem isKept_of_mem_append {text : List Char} {pairs : List Pair}
    (kept : ∀ c ∈ text, IsKept Percent.inSpecialQuery c) :
    ∀ c ∈ Form.append text pairs, IsKept Percent.inSpecialQuery c := by
  have pieces : ∀ piece ∈ (if text.isEmpty then [] else [text]) ++ pairs.map Form.encodePair,
      ∀ c ∈ piece, IsKept Percent.inSpecialQuery c := by
    intro piece member
    rcases List.mem_append.mp member with old | added
    · split at old
      · cases old
      · exact List.mem_singleton.mp old ▸ kept
    · obtain ⟨pair, _, rfl⟩ := List.mem_map.mp added
      exact isKept_of_mem_encodePair
  have joined : (Form.append text pairs).all (decide <| IsKept Percent.inSpecialQuery ·) = true := by
    rw [Form.append, all_joinWith (by decide)]
    simpa only [List.all_eq_true, decide_eq_true_eq] using pieces
  simpa only [List.all_eq_true, decide_eq_true_eq] using joined

theorem IsRead.withQuery {url : Url} (read : url.IsRead) (params : List Pair) :
    (Request.withQuery url params).IsRead := by
  unfold Request.withQuery
  split
  · exact read
  · refine { read with query := ?_ }
    intro query shown
    obtain rfl := Option.some.inj shown
    rw [String.toList_ofList]
    refine isKept_of_mem_append ?_
    cases held : url.query with
    | none => simp
    | some known => exact read.query known held

end Url
end Courier
