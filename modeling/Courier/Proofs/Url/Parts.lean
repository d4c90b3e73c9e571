import Courier.Proofs.Url.Place
/-! URLs read from their parts. A text that is put together from a scheme of the web, a user, a host, a
port and what follows them is read as far as the host and the port are. -/

namespace Courier.Url

def userPart (user : Option (List Char)) : List Char := user.elim [] (· ++ ['@'])

theorem cutLastAt?_append (front : List Char) {back : List Char} (last : '@' ∉ back) :
    cutLastAt? (front ++ '@' :: back) = some (front, back) := by
  induction front with
  | nil => simp [cutLastAt?, cutLastAt?_eq_none last]
  | cons c rest ih => rw [List.cons_append, cutLastAt?, ih]

theorem cutLastAt?_userPart {user : Option (List Char)} {place : List Char} (last : '@' ∉ place) :
    (cutLastAt? (userPart user ++ place)).elim ([], userPart user ++ place) id =
      (user.getD [], place) := by
  cases user with
  | none => simp [userPart, cutLastAt?_eq_none last]
  | some name =>
    have cut := cutLastAt?_append name last
    simp only [userPart, Option.elim_some, List.append_assoc, List.singleton_append, cut,
      Option.getD_some, id]

theorem readAuthority_of_parts {scheme : String} {user : Option (List Char)}
    {host port after : List Char} (nonempty : host ≠ [])
    (cut : cutHost false (host ++ port) = (host, port)) (last : '@' ∉ host ++ port) (plain : '\\' ∉ port) :
    readAuthority scheme .special (userPart user ++ (host ++ port)) after = do
      let known ← readHost host
      let number ← readPort scheme (port.drop 1)
      return (⟨(readUserinfo (user.getD [])).1, (readUserinfo (user.getD [])).2, some known, number⟩,
        after) := by
  have given : (host ++ port).isEmpty = false := by simp [nonempty]
  have ported : port.dropWhile (· ≠ '\\') = [] :=
    List.dropWhile_eq_nil_iff.mpr fun c member =>
      decide_eq_true fun same => plain (same ▸ member)
  have digits : (port.drop 1).takeWhile (· ≠ '\\') = port.drop 1 :=
    List.takeWhile_eq_self_iff.mpr fun c member =>
      decide_eq_true fun same => plain (same ▸ List.mem_of_mem_drop member)
  obtain ⟨first, rest, rfl⟩ := List.exists_cons_of_ne_nil nonempty
  simp only [readAuthority, cutLastAt?_userPart last, given, Bool.and_false, Bool.false_and,
    Bool.false_eq_true, ↓reduceIte, cut, digits, ported, List.isEmpty_nil]
  cases readHost (first :: rest) with
  | error error => rfl
  | ok known => rfl

theorem parse_of_parts {scheme host port after : List Char} {user : Option (List Char)}
    (web : IsWebScheme scheme)
    (shown : clean (trim (scheme ++ ':' :: '/' :: '/' :: (userPart user ++ (host ++ port) ++ after))) =
      scheme ++ ':' :: '/' :: '/' :: (userPart user ++ (host ++ port) ++ after))
    (inside : ∀ c ∈ userPart user ++ (host ++ port), endsAuthority .special c = false)
    (ends : ∀ c ∈ after.head?, endsAuthority .special c = true)
    (nonempty : host ≠ []) (cut : cutHost false (host ++ port) = (host, port))
    (last : '@' ∉ host ++ port) :
    parse (String.ofList (trim (scheme ++ ':' :: '/' :: '/' ::
        (userPart user ++ (host ++ port) ++ after)))) = do
      let known ← readHost host
      let number ← readPort (String.ofList (scheme.map asciiLower)) (port.drop 1)
      return assemble (String.ofList (scheme.map asciiLower)) .special
        ⟨(readUserinfo (user.getD [])).1, (readUserinfo (user.getD [])).2, some known, number⟩
        after := by
  have slashless : ('/' :: '/' :: (userPart user ++ (host ++ port) ++ after)).dropWhile isSlash =
      userPart user ++ (host ++ port) ++ after := by
    obtain ⟨first, rest, whole⟩ : ∃ first rest, userPart user ++ (host ++ port) = first :: rest :=
      List.exists_cons_of_ne_nil (by simp [nonempty])
    have stop : isSlash first = false := by
      have outside := inside first (by simp [whole])
      simp only [endsAuthority, Bool.or_eq_false_iff] at outside
      have back : ¬first = '\\' := by simpa using outside.2
      have slash : ¬first = '/' := by simpa using outside.1.1.1
      simp [isSlash, slash, back]
    rw [whole]
    simp [isSlash] at stop ⊢
    simp [stop]
  have before : ∀ c ∈ userPart user ++ (host ++ port), (!endsAuthority .special c) = true :=
    fun c member => by simp [inside c member]
  have stops : ∀ c ∈ after.head?, (!endsAuthority .special c) = false :=
    fun c member => by simp [ends c member]
  have plain : '\\' ∉ port := fun member =>
    absurd (inside '\\' (by simp [member])) (by decide)
  rw [parse_of_web web shown, slashless, readFromAuthority, takeWhile_part before stops,
    dropWhile_part before stops, readAuthority_of_parts nonempty cut last plain]
  cases readHost host with
  | error error => rfl
  | ok known =>
    cases readPort (String.ofList (scheme.map asciiLower)) (port.drop 1) with
    | error error => rfl
    | ok number => rfl

end Courier.Url
