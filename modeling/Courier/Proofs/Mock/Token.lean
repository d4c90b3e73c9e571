import Courier.Proofs.Bytes
import Courier.Proofs.Form
import Courier.Proofs.Mock.Handling
import Courier.Proofs.Text.Search
import Courier.Session
import Mathlib.Data.List.Basic
/-! Tokens of credentials. The token holds the user name and the password with a colon between them, so
it tells both as long as no colon stands in the user name. The basic page of the mock server takes
one token, and that is the token of no other pair, colons or not. -/

namespace Courier

namespace Utf8

theorem bytes_injective : Function.Injective bytes := by
  intro one other same
  have decoded := congrArg decode? same
  rw [bytes, bytes, decode?_encode, decode?_encode, Option.some.injEq] at decoded
  exact String.toList_inj.mp decoded

def colon : UInt8 := 0x3A

theorem colon_mem_bytes_iff (text : String) : colon ∈ bytes text ↔ ':' ∈ text.toList := by
  have sign : encode [':'] = [colon] := by decide
  have found : encode [':'] <:+: bytes text ↔ [Part.char ':'] <:+: parts (encode text.toList) :=
    encode_infix_iff (by simp) (bytes text)
  rw [sign, parts_encode, List.singleton_infix_iff, List.singleton_infix_iff] at found
  simpa using found

end Utf8

open Utf8 (bytes colon)

namespace Credentials

def pair (credentials : Credentials) : String :=
  credentials.username ++ ":" ++ credentials.password

theorem basic_eq_iff (one other : Credentials) : one.basic = other.basic ↔ one.pair = other.pair := by
  constructor
  · intro same
    have tokens := (String.append_right_inj _).mp same
    have decoded := congrArg Base64.decode? (String.ofList_injective tokens)
    rw [Base64.decode?_encode, Base64.decode?_encode, Option.some.injEq] at decoded
    exact Utf8.bytes_injective decoded
  · intro same
    unfold basic
    rw [show one.username ++ ":" ++ one.password = other.username ++ ":" ++ other.password from same]

theorem toList_pair (credentials : Credentials) :
    credentials.pair.toList = credentials.username.toList ++ ':' :: credentials.password.toList := by
  simp [pair]

theorem cutAt?_pair {credentials : Credentials} (clear : ':' ∉ credentials.username.toList) :
    cutAt? (· = ':') credentials.pair.toList =
      some (credentials.username.toList, credentials.password.toList) := by
  have front : ∀ c ∈ credentials.username.toList, decide (c = ':') = false := by
    intro c member
    exact decide_eq_false fun same => clear (same ▸ member)
  rw [toList_pair, cutAt?_append front (by decide)]

theorem bytes_pair (credentials : Credentials) :
    bytes credentials.pair = bytes credentials.username ++ colon :: bytes credentials.password := by
  rw [bytes, toList_pair, Utf8.encode_append]
  rfl

/-- Credentials can be told from a header value: its token holds the pair, and the first colon of the
pair, as a byte and as a character, is the one between the user name and the password. -/
structure ToldBy (credentials : Credentials) (value : String) : Prop where
  token : ∃ token, value = "Basic " ++ String.ofList token ∧
    Base64.decode? token = some (bytes credentials.pair)
  front : (bytes credentials.pair).takeWhile (· ≠ colon) = bytes credentials.username
  back : (bytes credentials.pair).dropWhile (· ≠ colon) = colon :: bytes credentials.password
  cut : cutAt? (· = ':') credentials.pair.toList =
    some (credentials.username.toList, credentials.password.toList)

theorem toldBy_basic {credentials : Credentials} (clear : ':' ∉ credentials.username.toList) :
    credentials.ToldBy credentials.basic := by
  have name : ∀ b ∈ bytes credentials.username, decide (b ≠ colon) = true := by
    intro b member
    exact decide_eq_true fun same => clear ((Utf8.colon_mem_bytes_iff _).mp (same ▸ member))
  refine ⟨⟨_, rfl, Base64.decode?_encode _⟩, ?_, ?_, cutAt?_pair clear⟩
  · rw [bytes_pair, List.takeWhile_append_of_pos name,
      List.takeWhile_cons_of_neg (by decide), List.append_nil]
  · rw [bytes_pair, List.dropWhile_append_of_pos name, List.dropWhile_cons_of_neg (by decide)]

theorem eq_of_basic {one other : Credentials} (clear : ':' ∉ one.username.toList)
    (other_clear : ':' ∉ other.username.toList) (same : one.basic = other.basic) :
    one.username = other.username ∧ one.password = other.password := by
  have cut := cutAt?_pair clear
  rw [(basic_eq_iff one other).mp same, cutAt?_pair other_clear, Option.some.injEq,
    Prod.mk.injEq] at cut
  exact ⟨String.toList_inj.mp cut.1.symm, String.toList_inj.mp cut.2.symm⟩

end Credentials

namespace Mock

/-- A colon in the user name or the password would shift the first one, or leave one too many. -/
theorem basic_eq_token_iff (credentials : Credentials) :
    credentials.basic = Account.token ↔
      credentials.username = Account.username ∧ credentials.password = Account.password := by
  let account : Credentials := ⟨"", none, Account.username, Account.password⟩
  have own : account.basic = Account.token := by decide +kernel
  have name_clear : ':' ∉ Account.username.toList := by decide
  have secret_clear : ':' ∉ Account.password.toList := by decide
  rw [← own, Credentials.basic_eq_iff]
  constructor
  · intro same
    have joined := congrArg String.toList same.symm
    rw [Credentials.toList_pair, Credentials.toList_pair] at joined
    obtain ⟨name, -, secret⟩ :=
      (List.append_cons_inj_of_notMem name_clear secret_clear).mp joined
    exact ⟨(String.toList_inj.mp name).symm, (String.toList_inj.mp secret).symm⟩
  · rintro ⟨name, secret⟩
    rw [Credentials.pair, name, secret]
    rfl

theorem acceptsToken_iff {headers : List Header} {credentials : Credentials}
    (shown : Header.value? "authorization" headers = some credentials.basic) :
    Account.acceptsToken headers = true ↔
      credentials.username = Account.username ∧ credentials.password = Account.password := by
  have readable : Header.isReadable credentials.basic = true := Base64.isReadable_basic _
  have read : Account.readable? "authorization" headers = some credentials.basic := by
    rw [Account.readable?, shown, Option.filter_some, if_pos readable]
  rw [Account.acceptsToken, read, beq_iff_eq, Option.some.injEq, basic_eq_token_iff]

theorem Server.status_of_basic (names : Nat → String) (server : Server) {request : Incoming}
    {credentials : Credentials} (reaches : Reaches request .basic)
    (shown : Header.value? "authorization" request.headers = some credentials.basic) :
    (server.serve names request).1.status =
      if credentials.username = Account.username ∧ credentials.password = Account.password
      then 200 else 401 := by
  obtain ⟨call, called, handled⟩ := handling_of_reaches reaches
  obtain rfl := Except.ok.inj called
  have accepted := acceptsToken_iff shown
  rw [serve_of_handled names server request handled, Call.answer]
  split
  next taken => rw [if_pos (accepted.mp taken)]; rfl
  next refused => rw [if_neg fun own => refused (accepted.mpr own)]; rfl

end Mock

/-- The token of a user name without a colon and any password tells both, so no two such pairs have
one header value. The basic page takes the header value of credentials, wherever their colons are,
exactly when they are those of the account. -/
theorem Credentials.basic_tells_pair :
    (∀ credentials : Credentials, ':' ∉ credentials.username.toList →
      credentials.ToldBy credentials.basic) ∧
    (∀ one other : Credentials, ':' ∉ one.username.toList → ':' ∉ other.username.toList →
      one.basic = other.basic → one.username = other.username ∧ one.password = other.password) ∧
    ∀ (names : Nat → String) (server : Mock.Server) (request : Mock.Incoming)
      (credentials : Credentials), Mock.Reaches request .basic →
      Header.value? "authorization" request.headers = some credentials.basic →
      (server.serve names request).1.status =
        if credentials.username = "admin" ∧ credentials.password = "secret" then 200 else 401 :=
  ⟨fun _ clear => toldBy_basic clear, fun _ _ clear other_clear same =>
      eq_of_basic clear other_clear same,
    fun names server _ _ reaches shown => server.status_of_basic names reaches shown⟩

def Credentials.locally (username password : String) : Credentials :=
  ⟨"localhost", some 80, username, password⟩

def Credentials.shown (credentials : Credentials) : Mock.Incoming :=
  ⟨"GET", "/basic", none, [("Authorization", credentials.basic)], []⟩

theorem Credentials.ann_told_and_admin_taken :
    let ann := locally "ann" "a::b"
    let admin := locally "admin" "secret"
    ':' ∉ ann.username.toList ∧ ':' ∉ admin.username.toList ∧ ann.ToldBy ann.basic ∧
      ann.basic ≠ admin.basic ∧
      (Mock.Server.serve toString {} ann.shown).1.status = 401 ∧
      (Mock.Server.serve toString {} admin.shown).1.status = 200 ∧
      (Mock.Server.serve toString {} (locally "admin:secret" "").shown).1.status = 401 := by
  intro ann admin
  obtain ⟨told, apart, taken⟩ := basic_tells_pair
  have ann_clear : ':' ∉ ann.username.toList := by decide
  have admin_clear : ':' ∉ admin.username.toList := by decide
  have reaches (credentials : Credentials) : Mock.Reaches credentials.shown .basic :=
    ⟨rfl, trivial, .inl rfl, trivial⟩
  have first (credentials : Credentials) :
      Header.value? "authorization" credentials.shown.headers = some credentials.basic := by
    have named : sameIgnoringCase "Authorization" "authorization" = true := by decide
    simp only [shown, Header.value?, List.find?_cons, named, Option.map_some]
  refine ⟨ann_clear, admin_clear, told ann ann_clear, fun same => ?_, ?_, ?_, ?_⟩
  · exact absurd (apart ann admin ann_clear admin_clear same).1 (by decide)
  · rw [taken toString {} _ ann (reaches ann) (first ann), if_neg (by decide)]
  · rw [taken toString {} _ admin (reaches admin) (first admin), if_pos (by decide)]
  · rw [taken toString {} _ _ (reaches _) (first _), if_neg (by decide)]

end Courier
