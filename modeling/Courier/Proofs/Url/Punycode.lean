import Courier.Proofs.Unicode.Folding
import Courier.Url.Punycode
import Mathlib.Tactic.Ring
/-! Punycode there and back. A distance that was written is read again, whatever follows it. A label
whose characters are beyond ASCII and increase comes back whole: each character is inserted after the
ones before it. -/

namespace Courier.Punycode

def isDigit (c : Char) : Bool := ('a' ≤ c && c ≤ 'z') || isAsciiDigit c

theorem digits_of_lt : ∀ value < 36, isDigit (digit value) = true ∧ digit value ≠ '-' ∧
    value? (digit value) = some value := by decide

/-! ### Distances -/

theorem isDigit_of_mem_writeDistance {bias place distance : Nat} :
    ∀ c ∈ writeDistance bias place distance, isDigit c = true ∧ c ≠ '-' := by
  fun_induction writeDistance bias place distance with
  | case1 place distance least small =>
    have low := bound_le place bias
    intro c member
    rw [List.mem_singleton.mp member]
    exact ⟨(digits_of_lt distance (by omega)).1, (digits_of_lt distance (by omega)).2.1⟩
  | case2 place distance least large ih =>
    have low := bound_le place bias
    have rest : (distance - least) % (36 - least) < 36 - least := Nat.mod_lt _ (by omega)
    have here := digits_of_lt (least + (distance - least) % (36 - least)) (by omega)
    exact List.forall_mem_cons.mpr ⟨⟨here.1, here.2.1⟩, ih⟩

theorem writeDistance_ne_nil (bias place distance : Nat) : writeDistance bias place distance ≠ [] := by
  unfold writeDistance
  dsimp only
  split <;> simp

/-- Two digits are too few from some distance on, whatever the bias. -/
theorem three_le_length_writeDistance (bias place : Nat) {distance : Nat} (far : 936 ≤ distance) :
    3 ≤ (writeDistance bias place distance).length := by
  have low := bound_le place bias
  have pos := bound_pos place bias
  have next_low := bound_le (place + 36) bias
  have more : 26 ≤ (distance - bound place bias) / (36 - bound place bias) := by
    rw [Nat.le_div_iff_mul_le (by omega)]
    omega
  rw [writeDistance, if_neg (by omega), writeDistance, if_neg (by omega), List.length_cons,
    List.length_cons]
  have last := List.length_pos_iff.mpr (writeDistance_ne_nil bias (place + 36 + 36)
    (((distance - bound place bias) / (36 - bound place bias) - bound (place + 36) bias) /
      (36 - bound (place + 36) bias)))
  omega

theorem readDistance_writeDistance (bias place distance : Nat) (rest : List Char) :
    ∀ weight total, total + distance * weight < distanceBound →
      readDistance bias (writeDistance bias place distance ++ rest) place weight total =
        some (total + distance * weight, rest) := by
  fun_induction writeDistance bias place distance with
  | case1 place distance least small =>
    intro weight total bounded
    have low : least ≤ 26 := bound_le place bias
    have value := (digits_of_lt distance (by omega)).2.2
    have ends : distance < bound place bias := small
    simp only [List.singleton_append, readDistance, value, Option.bind_eq_bind, Option.bind_some,
      if_pos ends, if_neg (Nat.not_le.mpr bounded)]
  | case2 place distance least large ih =>
    intro weight total bounded
    have low : least ≤ 26 := bound_le place bias
    have named : bound place bias = least := rfl
    rw [List.cons_append, readDistance, named]
    clear_value least
    have split := Nat.mod_add_div (distance - least) (36 - least)
    have here : (distance - least) % (36 - least) < 36 - least := Nat.mod_lt _ (by omega)
    generalize (distance - least) % (36 - least) = first at *
    generalize (distance - least) / (36 - least) = quotient at *
    have value := (digits_of_lt (least + first) (by omega)).2.2
    -- What the first digit leaves is the quotient at a greater weight.
    have whole : total + (least + first) * weight + quotient * (weight * (36 - least)) =
        total + distance * weight := by
      have parts : distance = least + first + (36 - least) * quotient := by omega
      calc total + (least + first) * weight + quotient * (weight * (36 - least))
          = total + (least + first + (36 - least) * quotient) * weight := by ring
        _ = total + distance * weight := by rw [← parts]
    have unbounded : ¬total + (least + first) * weight ≥ distanceBound := by omega
    have goes_on : ¬least + first < least := by omega
    simp only [value, Option.bind_eq_bind, Option.bind_some, if_neg goes_on, if_neg unbounded]
    rw [ih _ _ (by omega), whole]

/-! ### Characters of written forms -/

theorem mem_written_foldl_pass {basic code : Nat} {text : List Char} {p : Progress} {c : Char}
    (member : c ∈ (text.foldl (pass basic code) p).written) : c ∈ p.written ∨ isDigit c = true := by
  induction text generalizing p with
  | nil => exact Or.inl member
  | cons first rest ih =>
    rcases ih member with here | digit
    · unfold pass at here
      split at here
      · exact Or.inl here
      · split at here
        · rcases List.mem_append.mp here with before | now
          · exact Or.inl before
          · exact Or.inr (isDigit_of_mem_writeDistance c now).1
        · exact Or.inl here
    · exact Or.inr digit

theorem mem_written_rounds {label : List Char} {basic next : Nat} {codes : List Nat} {p : Progress}
    {c : Char} (member : c ∈ (rounds label basic codes next p).written) :
    c ∈ p.written ∨ isDigit c = true := by
  induction codes generalizing next p with
  | nil => exact Or.inl member
  | cons code rest ih =>
    rcases ih member with here | digit
    · dsimp only at here
      have passed := mem_written_foldl_pass here
      exact passed
    · exact Or.inr digit

/-- A written form has the ASCII characters of its label, a hyphen and digits. -/
theorem mem_encode {label : List Char} {c : Char} (member : c ∈ encode label) :
    (c ∈ label ∧ isAscii c = true) ∨ c = '-' ∨ isDigit c = true := by
  simp only [encode, List.mem_append] at member
  rcases member with (basic | mark) | written
  · exact Or.inl (List.mem_filter.mp basic)
  · split at mark
    · exact Or.inr (Or.inl (List.mem_singleton.mp mark))
    · cases mark
  · exact Or.inr (Or.inr ((mem_written_rounds written).resolve_left (by simp)))

theorem readDistance_eq_some {bias place weight total distance : Nat} {digits rest : List Char}
    (read : readDistance bias digits place weight total = some (distance, rest)) :
    ∃ front, digits = front ++ rest ∧ ∀ c ∈ front, (value? c).isSome = true := by
  induction digits generalizing place weight total with
  | nil => cases read
  | cons c more ih =>
    simp only [readDistance, Option.bind_eq_bind, Option.bind_eq_some_iff] at read
    obtain ⟨value, shown, read⟩ := read
    split at read
    · cases read
    · split at read
      · obtain ⟨_, rfl⟩ := Prod.mk.inj (Option.some.inj read)
        exact ⟨[c], rfl, by simp [shown]⟩
      · obtain ⟨front, rfl, all⟩ := ih read
        exact ⟨c :: front, rfl, List.forall_mem_cons.mpr ⟨by simp [shown], all⟩⟩

/-- Inserting reads all digits and loses none of the characters in place. -/
theorem insertAll_eq_some {fuel code position bias : Nat} {digits placed result : List Char}
    {first : Bool}
    (inserted : insertAll fuel digits code position bias placed first = some result) :
    (∀ c ∈ digits, (value? c).isSome = true) ∧ ∀ c ∈ placed, c ∈ result := by
  induction fuel generalizing digits code position bias placed first with
  | zero => cases inserted
  | succ fuel ih =>
    rw [insertAll] at inserted
    split at inserted
    next gone =>
      obtain rfl := Option.some.inj inserted
      simp [List.isEmpty_iff.mp gone]
    next =>
      simp only [Option.bind_eq_bind, Option.bind_eq_some_iff] at inserted
      obtain ⟨⟨distance, rest⟩, read, inserted⟩ := inserted
      dsimp only at inserted
      split at inserted
      · cases inserted
      · obtain ⟨front, rfl, values⟩ := readDistance_eq_some read
        obtain ⟨others, kept⟩ := ih inserted
        refine ⟨List.forall_mem_append.mpr ⟨values, others⟩, fun c member => kept c ?_⟩
        have reached : (position + distance) % (placed.length + 1) ≤ placed.length :=
          Nat.le_of_lt_succ (Nat.mod_lt _ (by omega))
        exact (List.mem_insertIdx reached).mpr (Or.inr member)

theorem mem_of_cutLastHyphen {text : List Char} {c : Char} (member : c ∈ text) :
    c ∈ (cutLastHyphen text).1 ∨ c = '-' ∨ c ∈ (cutLastHyphen text).2 := by
  have parts : text = (text.reverse.dropWhile (· ≠ '-')).reverse ++
      (text.reverse.takeWhile (· ≠ '-')).reverse := by
    rw [← List.reverse_append, List.takeWhile_append_dropWhile, List.reverse_reverse]
  have stops : ∀ c ∈ (text.reverse.dropWhile (· ≠ '-')).head?, c = '-' := fun c first => by
    simpa using head?_dropWhile_eq_false c first
  unfold cutLastHyphen
  generalize (text.reverse.takeWhile (· ≠ '-')).reverse = tail at *
  generalize text.reverse.dropWhile (· ≠ '-') = back at *
  have front : text.take (text.length - tail.length - 1) = back.reverse.dropLast := by
    rw [parts, List.length_append, Nat.add_sub_cancel, List.take_append_of_le_length (by omega),
      List.dropLast_eq_take]
  dsimp only
  rw [front]
  split
  · exact Or.inr (Or.inr member)
  · rw [parts, List.mem_append, List.mem_reverse] at member
    rcases member with before | digit
    · cases back with
      | nil => cases before
      | cons mark rest =>
        rcases List.mem_cons.mp before with rfl | inside
        · exact Or.inr (Or.inl (stops c rfl))
        · exact Or.inl (by simpa using inside)
    · exact Or.inr (Or.inr digit)

/-- What comes back has every character of the written form that is no hyphen and no digit. -/
theorem mem_of_decode? {text label : List Char} (decoded : decode? text = some label) {c : Char}
    (member : c ∈ text) : c ∈ label ∨ c = '-' ∨ (value? c).isSome = true := by
  unfold decode? at decoded
  dsimp only at decoded
  split at decoded
  · obtain ⟨values, kept⟩ := insertAll_eq_some decoded
    rcases mem_of_cutLastHyphen member with basic | mark | digit
    · exact Or.inl (kept c basic)
    · exact Or.inr (Or.inl mark)
    · exact Or.inr (Or.inr (values c digit))
  · cases decoded

/-! ### Labels that rise -/

def Rises (label : List Char) : Prop := label.Pairwise fun c d => c.toNat < d.toNat

/-- The distances of characters that follow one after another, `placed` of them being in place and
the last of these having the code point `previous`. -/
def distances (bias placed previous : Nat) : List Char → List Char
  | [] => []
  | c :: rest =>
    let distance := (c.toNat - previous) * (placed + 1)
    writeDistance bias 36 distance ++
      distances (adapt distance (placed + 1) (placed == 0)) (placed + 1) c.toNat rest

theorem isDigit_of_mem_distances {bias placed previous : Nat} {label : List Char} :
    ∀ c ∈ distances bias placed previous label, isDigit c = true ∧ c ≠ '-' := by
  induction label generalizing bias placed previous with
  | nil => intro c member; cases member
  | cons first rest ih =>
    intro c member
    rcases List.mem_append.mp member with here | later
    · exact isDigit_of_mem_writeDistance c here
    · exact ih c later

theorem length_le_length_distances (bias placed previous : Nat) (label : List Char) :
    label.length ≤ (distances bias placed previous label).length := by
  induction label generalizing bias placed previous with
  | nil => simp
  | cons c rest ih =>
    have others := ih (adapt ((c.toNat - previous) * (placed + 1)) (placed + 1) (placed == 0))
      (placed + 1) c.toNat
    have here := List.length_pos_iff.mpr
      (writeDistance_ne_nil bias 36 ((c.toNat - previous) * (placed + 1)))
    rw [distances, List.length_append, List.length_cons]
    omega

/-- With 26 code points or more from each character to the next, all but the first 35 take three
digits. -/
theorem length_distances_of_sparse (bias placed : Nat) {previous : Nat} {label : List Char}
    (sparse : List.IsChain (fun earlier later => earlier + 26 ≤ later)
      (previous :: label.map Char.toNat)) :
    3 * label.length ≤ (distances bias placed previous label).length + 3 * (35 - placed) := by
  induction label generalizing bias placed previous with
  | nil => simp
  | cons c rest ih =>
    rw [List.map_cons, List.isChain_cons_cons] at sparse
    obtain ⟨gap, later⟩ := sparse
    have others := ih (adapt ((c.toNat - previous) * (placed + 1)) (placed + 1) (placed == 0))
      (placed + 1) later
    rw [distances, List.length_append, List.length_cons]
    by_cases near : placed < 35
    · omega
    · have far : 26 * 36 ≤ (c.toNat - previous) * (placed + 1) :=
        Nat.mul_le_mul (by omega) (by omega)
      have three := three_le_length_writeDistance bias 36 far
      omega

theorem foldl_pass_of_below {basic code : Nat} {text : List Char}
    (below : ∀ c ∈ text, c.toNat < code) (p : Progress) :
    text.foldl (pass basic code) p = { p with distance := p.distance + text.length } := by
  induction text generalizing p with
  | nil => rfl
  | cons c rest ih =>
    obtain ⟨here, later⟩ := List.forall_mem_cons.mp below
    rw [List.foldl_cons, ih later, pass, if_pos here]
    simp only [List.length_cons, Nat.add_assoc, Nat.add_comm 1]

theorem foldl_pass_of_above {basic code : Nat} {text : List Char}
    (above : ∀ c ∈ text, code < c.toNat) (p : Progress) : text.foldl (pass basic code) p = p := by
  induction text generalizing p with
  | nil => rfl
  | cons c rest ih =>
    obtain ⟨here, later⟩ := List.forall_mem_cons.mp above
    rw [List.foldl_cons, pass, if_neg (Nat.lt_asymm here), if_neg (Nat.ne_of_gt here), ih later]

/-- The round of a character writes its distance from the ones before it. -/
theorem foldl_pass_of_rising {done rest : List Char} {c : Char}
    (below : ∀ d ∈ done, d.toNat < c.toNat) (above : ∀ d ∈ rest, c.toNat < d.toNat) (p : Progress) :
    (done ++ c :: rest).foldl (pass 0 c.toNat) p =
      { written := p.written ++ writeDistance p.bias 36 (p.distance + done.length)
        distance := 0
        bias := adapt (p.distance + done.length) (p.placed + 1) (p.placed == 0)
        placed := p.placed + 1 } := by
  rw [List.foldl_append, List.foldl_cons, foldl_pass_of_below below, foldl_pass_of_above above, pass,
    if_neg (by omega), if_pos rfl]

theorem written_rounds_of_rising (done written : List Char) (bias next previous distance : Nat)
    {todo : List Char} (rising : Rises todo) (reached : ∀ c ∈ todo, next ≤ c.toNat)
    (below : ∀ d ∈ done, ∀ c ∈ todo, d.toNat < c.toNat)
    (step : ∀ code, next ≤ code → distance + (code - next) * (done.length + 1) + done.length =
      (code - previous) * (done.length + 1)) :
    (rounds (done ++ todo) 0 (todo.map Char.toNat) next
        ⟨written, distance, bias, done.length⟩).written =
      written ++ distances bias done.length previous todo := by
  -- After each round the distance is one, and the next code point is the one after this.
  induction todo generalizing done written bias next previous distance with
  | nil => simp [rounds, distances]
  | cons c rest ih =>
    obtain ⟨above, later⟩ := List.pairwise_cons.mp rising
    have inside : done ++ c :: rest = (done ++ [c]) ++ rest := by simp
    have placed : done.length + 1 = (done ++ [c]).length := by simp
    rw [List.map_cons, rounds]
    dsimp only
    rw [foldl_pass_of_rising (fun d member => below d member c (by simp)) above]
    dsimp only
    rw [step c.toNat (reached c (by simp)), inside, placed, ih _ _ _ _ c.toNat _ later]
    · simp [distances]
    · exact fun d member => above d member
    · intro d member e own
      rcases List.mem_append.mp member with before | last
      · exact below d before e (List.mem_cons_of_mem c own)
      · exact List.mem_singleton.mp last ▸ above e own
    · intro code passed
      obtain ⟨more, rfl⟩ := Nat.exists_eq_add_of_le passed
      have here : c.toNat + 1 + more - (c.toNat + 1) = more := by omega
      have whole : c.toNat + 1 + more - c.toNat = more + 1 := by omega
      rw [here, whole, ← placed]
      ring

theorem insertCode_of_below {code : Nat} {codes : List Nat} (below : ∀ other ∈ codes, code < other) :
    insertCode code codes = code :: codes := by
  cases codes with
  | nil => rfl
  | cons least rest => rw [insertCode, if_pos (below least (by simp))]

theorem codesBeyondAscii_of_rising {label : List Char} (rising : Rises label)
    (beyond : ∀ c ∈ label, isAscii c = false) : codesBeyondAscii label = label.map Char.toNat := by
  have whole : label.filter (!isAscii ·) = label :=
    List.filter_eq_self.mpr fun c member => by simp [beyond c member]
  rw [codesBeyondAscii, whole]
  clear whole beyond
  induction label with
  | nil => rfl
  | cons c rest ih =>
    obtain ⟨above, later⟩ := List.pairwise_cons.mp rising
    rw [List.foldr_cons, ih later, List.map_cons, insertCode_of_below]
    intro code member
    obtain ⟨d, own, rfl⟩ := List.mem_map.mp member
    exact above d own

theorem encode_of_rising {label : List Char} (rising : Rises label)
    (beyond : ∀ c ∈ label, isAscii c = false) : encode label = distances 72 0 128 label := by
  have none_basic : label.filter isAscii = [] :=
    List.filter_eq_nil_iff.mpr fun c member => by simp [beyond c member]
  have rounded := written_rounds_of_rising [] [] 72 128 128 0 rising
    (fun c member => by simpa [isAscii] using beyond c member) (by simp) (by simp)
  simp only [encode, none_basic, List.length_nil, codesBeyondAscii_of_rising rising beyond]
  simpa using rounded

/-! ### Back -/

/-- Each distance that is read inserts its character after the ones before it. -/
theorem insertAll_distances (done : List Char) (bias previous fuel : Nat) {todo : List Char}
    (rising : Rises todo) (reached : ∀ c ∈ todo, previous ≤ c.toNat) (few : done.length + todo.length ≤ 1000)
    (fueled : todo.length < fuel) :
    insertAll fuel (distances bias done.length previous todo) previous done.length bias done
      (done.length == 0) = some (done ++ todo) := by
  induction todo generalizing done bias previous fuel with
  | nil =>
    obtain ⟨fuel, rfl⟩ := Nat.exists_eq_add_of_lt fueled
    simp [insertAll, distances]
  | cons c rest ih =>
    obtain ⟨above, later⟩ := List.pairwise_cons.mp rising
    obtain ⟨fuel, rfl⟩ : ∃ less, fuel = less + 1 := ⟨fuel - 1, by omega⟩
    rw [List.length_cons] at few fueled
    have range : c.toNat < 0xD800 ∨ 0xDFFF < c.toNat ∧ c.toNat < 0x110000 := c.valid
    have own : previous ≤ c.toNat := reached c (by simp)
    have bounded : 0 + (c.toNat - previous) * (done.length + 1) * 1 < distanceBound := by
      have most : (c.toNat - previous) * (done.length + 1) ≤ 0x110000 * 1000 :=
        Nat.mul_le_mul (by omega) (by omega)
      have bound : distanceBound = 4294967296 := rfl
      omega
    have code : previous + (done.length + (c.toNat - previous) * (done.length + 1)) /
        (done.length + 1) = c.toNat := by
      rw [Nat.add_mul_div_right _ _ (by omega),
        Nat.div_eq_of_lt (by omega)]
      omega
    have index : (done.length + (c.toNat - previous) * (done.length + 1)) %
        (done.length + 1) = done.length := by
      rw [Nat.add_mul_mod_self_right, Nat.mod_eq_of_lt (by omega)]
    have valid : ¬((c.toNat ≥ 0x110000 || (0xD800 ≤ c.toNat && c.toNat < 0xE000)) = true) := by
      simp only [Bool.or_eq_true, Bool.and_eq_true, decide_eq_true_eq]
      omega
    have given : (distances bias done.length previous (c :: rest)).isEmpty = false := by
      simp [distances, writeDistance_ne_nil]
    have placed : done.length + 1 = (done ++ [c]).length := by simp
    rw [insertAll, given, distances]
    simp only [Bool.false_eq_true, ↓reduceIte, readDistance_writeDistance _ _ _ _ _ _ bounded,
      Option.bind_eq_bind, Option.bind_some, Nat.zero_add, Nat.mul_one, code, index, if_neg valid,
      List.insertIdx_length_self, Char.ofNat_toNat]
    have others := ih (done ++ [c])
      (adapt ((c.toNat - previous) * (done.length + 1)) (done.length + 1) (done.length == 0))
      c.toNat fuel later
      (fun d member => Nat.le_of_lt (above d member)) (by simp; omega) (by omega)
    rw [← placed] at others
    simpa using others

theorem cutLastHyphen_of_clear {text : List Char} (clear : '-' ∉ text) :
    cutLastHyphen text = ([], text) := by
  have whole : text.reverse.takeWhile (· ≠ '-') = text.reverse :=
    List.takeWhile_eq_self_iff.mpr fun c member => by
      simpa using fun same : c = '-' => clear (same ▸ List.mem_reverse.mp member)
  simp only [cutLastHyphen, whole, List.reverse_reverse]
  simp

/-- A rising label beyond ASCII comes back from its written form. -/
theorem decode?_encode_of_rising {label : List Char} (rising : Rises label)
    (beyond : ∀ c ∈ label, isAscii c = false) (few : label.length ≤ 1000) :
    decode? (encode label) = some label := by
  have clear : '-' ∉ distances 72 0 128 label :=
    fun member => (isDigit_of_mem_distances _ member).2 rfl
  have enough := length_le_length_distances 72 0 128 label
  have inserted := insertAll_distances [] 72 128 ((distances 72 0 128 label).length + 1) rising
    (fun c member => by simpa [isAscii] using beyond c member) (by simpa using few) (by omega)
  rw [encode_of_rising rising beyond, decode?, cutLastHyphen_of_clear clear]
  simpa using inserted

end Courier.Punycode
