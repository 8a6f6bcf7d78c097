import MediaFilter.Json.Printer
import MediaFilter.Json.Reader
import MediaFilter.Proofs.Text.Numerals

/-!
Compact text is scanned back into the tokens that it was spelled from.  A numeral ends where it was
meant to only if the text behind it does not go on with it, as a comma or a bracket never does.
-/

namespace MediaFilter.Json

def EndsNumeral (rest : List Char) : Prop :=
  ∀ c ∈ rest.head?, c.isDigit = false ∧ c ≠ '.' ∧ c ≠ 'e' ∧ c ≠ 'E'

theorem endsNumeral_nil : EndsNumeral [] := by
  intro c member
  cases member

theorem endsNumeral_cons {c : Char} {rest : List Char}
    (notDigit : c.isDigit = false) (notPoint : c ≠ '.') (notLower : c ≠ 'e')
    (notUpper : c ≠ 'E') : EndsNumeral (c :: rest) := by
  intro other member
  cases Option.some.inj member
  exact ⟨notDigit, notPoint, notLower, notUpper⟩

namespace Numeral

theorem takeDigits?_append {digits rest : List Char} (nonempty : digits ≠ [])
    (areDigits : ∀ c ∈ digits, c.isDigit = true) (ends : EndsNumeral rest) :
    takeDigits? (digits ++ rest) = some (digits, rest) := by
  have stops : rest.takeWhile Char.isDigit = [] ∧ rest.dropWhile Char.isDigit = rest := by
    cases rest with
    | nil => exact ⟨rfl, rfl⟩
    | cons c rest =>
        have notDigit := (ends c rfl).1
        simp [notDigit]
  unfold takeDigits?
  rw [List.takeWhile_append_of_pos areDigits, List.dropWhile_append_of_pos areDigits,
    stops.1, stops.2, List.append_nil]
  cases digits with
  | nil => exact absurd rfl nonempty
  | cons digit digits => rfl

theorem scanWhole?_natDigits (n : Nat) {rest : List Char} (ends : EndsNumeral rest) :
    scanWhole? (Text.natDigits n ++ rest) = some (Text.natDigits n, rest) := by
  have taken : takeDigits? (Text.natDigits n ++ rest) = some (Text.natDigits n, rest) :=
    takeDigits?_append (Text.natDigits_ne_nil n)
      (fun _ member => Text.isDigit_of_mem_natDigits member) ends
  cases Nat.eq_zero_or_pos n with
  | inl zero =>
      subst zero
      rfl
  | inr positive =>
      have noZero := Text.head?_natDigits_ne_zero positive
      unfold scanWhole?
      split
      · rename_i rest' spelled
        cases equation : Text.natDigits n with
        | nil => exact absurd equation (Text.natDigits_ne_nil n)
        | cons digit digits =>
            rw [equation] at spelled noZero
            cases spelled
            exact absurd rfl noZero
      · exact taken

theorem scanFraction?_none {rest : List Char} (ends : EndsNumeral rest) :
    scanFraction? rest = some (none, rest) := by
  unfold scanFraction?
  split
  · exact absurd rfl (ends '.' rfl).2.1
  · rfl

theorem scanExponent?_none {rest : List Char} (ends : EndsNumeral rest) :
    scanExponent? rest = some (none, rest) := by
  cases rest with
  | nil => rfl
  | cons c rest =>
      obtain ⟨_, _, notLower, notUpper⟩ := ends c rfl
      simp [scanExponent?, notLower, notUpper]

def ofNat (negative : Bool) (n : Nat) : Numeral :=
  { negative, whole := Text.natDigits n, fraction := none, exponent := none }

theorem scanMagnitude?_natDigits (negative : Bool) (n : Nat) {rest : List Char}
    (ends : EndsNumeral rest) :
    scanMagnitude? negative (Text.natDigits n ++ rest) = some (ofNat negative n, rest) := by
  simp only [scanMagnitude?, scanWhole?_natDigits n ends, scanFraction?_none ends,
    scanExponent?_none ends, Option.bind_eq_bind, Option.bind_some, ofNat]

theorem scan?_intDigits (i : Int) {rest : List Char} (ends : EndsNumeral rest) :
    scan? (Text.intDigits i ++ rest) = some (ofNat (decide (i < 0)) i.natAbs, rest) := by
  unfold Text.intDigits
  by_cases negative : i < 0
  · rw [if_pos negative, decide_eq_true negative]
    exact scanMagnitude?_natDigits true i.natAbs ends
  · rw [if_neg negative, decide_eq_false negative]
    unfold scan?
    split
    · rename_i rest' spelled
      cases equation : Text.natDigits i.natAbs with
      | nil => exact absurd equation (Text.natDigits_ne_nil i.natAbs)
      | cons digit digits =>
          have isDigit : digit.isDigit = true :=
            Text.isDigit_of_mem_natDigits (n := i.natAbs) (equation ▸ List.mem_cons_self)
          rw [equation] at spelled
          cases spelled
          exact absurd isDigit (by decide)
    · exact scanMagnitude?_natDigits false i.natAbs ends

theorem value_ofNat {i : Int} (least : Text.leastInt64 ≤ i)
    (greatest : i ≤ Text.greatestUInt64) :
    (ofNat (decide (i < 0)) i.natAbs).value = .integer i := by
  have magnitude (negative : Bool) :
      Nat.ofDigitChars 10 (ofNat negative i.natAbs).whole 0 = i.natAbs :=
    Nat.ofDigitChars_ten_toDigits
  unfold value
  dsimp only
  by_cases negative : i < 0
  · have nonzero : i.natAbs ≠ 0 := by omega
    have restored : -(i.natAbs : Int) = i := by omega
    rw [decide_eq_true negative, magnitude, restored, if_neg,
      if_pos ⟨rfl, rfl, nonzero, least⟩]
    rintro ⟨_, positive, _⟩
    exact positive rfl
  · have inRange : i.natAbs ≤ Text.greatestUInt64 := by omega
    have restored : (i.natAbs : Int) = i := by omega
    rw [decide_eq_false negative, magnitude, restored, if_pos ⟨rfl, Bool.false_ne_true, inRange⟩]

end Numeral

theorem hexCode?_digitChar :
    ∀ n < 0x20, hexCode? '0' '0' (Nat.digitChar (n / 16)) (Nat.digitChar (n % 16)) = some n := by
  decide

theorem ofCode_toNat {c : Char} (low : c.toNat < 0x20) : TextUnit.ofCode c.toNat = .char c := by
  unfold TextUnit.ofCode
  rw [if_neg (by omega), Char.ofNat_toNat]

theorem eq_ofNat_of_toNat_eq {c : Char} {n : Nat} (equal : c.toNat = n) : c = Char.ofNat n := by
  rw [← equal, Char.ofNat_toNat]

theorem scanText?_escapedChar (found : List TextUnit) (c : Char) (rest : List Char) :
    scanText? found (escapedChar c ++ rest) = scanText? (.char c :: found) rest := by
  unfold escapedChar
  split
  · subst c
    simp [scanText?, letterEscape?]
  split
  · subst c
    simp [scanText?, letterEscape?]
  split
  · rename_i notQuote notBackslash high
    have notLow : ¬(c.toNat < 0x20 ∨ c = '\\') := by
      rintro (low | backslash)
      · omega
      · exact notBackslash backslash
    simp only [List.cons_append, List.nil_append]
    rw [scanText?, if_neg notLow]
    · exact notQuote
    · rintro _ _ _ _ _ backslash
      exact absurd backslash notBackslash
    · rintro _ _ backslash
      exact absurd backslash notBackslash
  rename_i low
  iterate 5
    split
    · rename_i code
      rw [eq_ofNat_of_toNat_eq code]
      simp [scanText?, letterEscape?]
  simp only [List.cons_append, List.nil_append, scanText?]
  rw [hexCode?_digitChar c.toNat (by omega)]
  simp only [ofCode_toNat (c := c) (by omega)]

theorem scanText?_escaped (found : List TextUnit) (cs rest : List Char) :
    scanText? found (cs.flatMap escapedChar ++ '"' :: rest) =
      some (found.reverse ++ cs.map .char, rest) := by
  induction cs generalizing found with
  | nil => simp [scanText?]
  | cons c cs induction =>
      rw [List.flatMap_cons, List.append_assoc, scanText?_escapedChar, induction]
      simp

theorem joinUnits?_chars (found cs : List Char) :
    joinUnits? found (cs.map .char) = some (found.reverse ++ cs) := by
  induction cs generalizing found with
  | nil => simp [joinUnits?]
  | cons c cs induction =>
      rw [List.map_cons, joinUnits?, induction]
      simp

/-- The text is scanned as the tokens wherever it stands in front of the rest. -/
structure Scans (text : List Char) (tokens : List Token) (rest : List Char) : Prop where
  length_le : tokens.length ≤ text.length
  steps : ∀ found fuel,
    scanTokens? found (tokens.length + fuel) (text ++ rest) =
      scanTokens? (tokens.reverse ++ found) fuel rest

theorem Scans.append {first second rest : List Char} {before behind : List Token}
    (firstScans : Scans first before (second ++ rest)) (secondScans : Scans second behind rest) :
    Scans (first ++ second) (before ++ behind) rest := by
  constructor
  · have firstLength := firstScans.length_le
    have secondLength := secondScans.length_le
    simp only [List.length_append]
    omega
  · intro found fuel
    rw [List.length_append, Nat.add_assoc, List.append_assoc, firstScans.steps,
      secondScans.steps, List.reverse_append, List.append_assoc]

theorem scans_token {c : Char} {text rest : List Char} {token : Token}
    (notSpace : isSpace c = false)
    (scanned : scanToken? c (text ++ rest) = some (token, rest)) :
    Scans (c :: text) [token] rest := by
  constructor
  · simp
  · intro found fuel
    rw [List.length_singleton, Nat.add_comm, List.cons_append, scanTokens?, scanned]
    simp [notSpace]

theorem scans_text (content : String) (rest : List Char) :
    Scans (Token.text (some content)).spelling [.text (some content)] rest := by
  have scanned : scanToken? '"' ((content.toList.flatMap escapedChar ++ ['"']) ++ rest) =
      some (.text (some content), rest) := by
    simp only [scanToken?, mark?, List.append_assoc, List.cons_append, List.nil_append,
      scanText?_escaped, List.reverse_nil, if_true, Option.map_some]
    rw [joinUnits?_chars]
    simp
  exact scans_token rfl scanned

/-- A numeral begins with a character that begins nothing else. -/
theorem mark?_numeral {c : Char} (initial : c = '-' ∨ c.isDigit = true) :
    mark? c = none ∧ c ≠ '"' ∧ isSpace c = false := by
  rcases initial with rfl | digit
  · decide
  · have differs : ∀ other : Char, other.isDigit = false → c ≠ other := by
      rintro other notDigit rfl
      rw [digit] at notDigit
      cases notDigit
    refine ⟨?_, differs '"' rfl, ?_⟩
    · unfold mark?
      split <;> first | rfl | exact absurd rfl (differs _ rfl)
    · simp [isSpace, differs ' ' rfl, differs '\t' rfl, differs '\n' rfl, differs '\r' rfl]

theorem initial_intDigits {i : Int} {c : Char} {cs : List Char}
    (equation : Text.intDigits i = c :: cs) : c = '-' ∨ c.isDigit = true := by
  unfold Text.intDigits at equation
  split at equation
  · exact .inl (List.cons.inj equation).1.symm
  · exact .inr (Text.isDigit_of_mem_natDigits (n := i.natAbs) (equation ▸ List.mem_cons_self))

theorem intDigits_ne_nil (i : Int) : Text.intDigits i ≠ [] := by
  unfold Text.intDigits
  split
  · exact List.cons_ne_nil _ _
  · exact Text.natDigits_ne_nil i.natAbs

theorem scans_integer {i : Int} (least : Text.leastInt64 ≤ i)
    (greatest : i ≤ Text.greatestUInt64) {rest : List Char} (ends : EndsNumeral rest) :
    Scans (Token.leaf (.integer i)).spelling [.leaf (.integer i)] rest := by
  have scanned := Numeral.scan?_intDigits i ends
  show Scans (Text.intDigits i) _ rest
  cases equation : Text.intDigits i with
  | nil => exact absurd equation (intDigits_ne_nil i)
  | cons c cs =>
      have initial := initial_intDigits equation
      obtain ⟨noMark, noQuote, noSpace⟩ := mark?_numeral initial
      have token : scanToken? c (cs ++ rest) = some (.leaf (.integer i), rest) := by
        rw [equation, List.cons_append] at scanned
        simp only [scanToken?, noMark, noQuote, initial, if_false, if_true, scanned,
          Option.map_some, Numeral.value_ofNat least greatest]
      exact scans_token noSpace token

/-! Rows of tokens.  Only a numeral cares for what stands behind it. -/

/-- The tokens are scanned back from their compact text. -/
def Legible (tokens : List Token) : Prop :=
  ∀ rest, EndsNumeral rest → Scans (tokens.flatMap Token.spelling) tokens rest

/-- The token is scanned back whatever stands behind it. -/
def Token.Closed (token : Token) : Prop := ∀ rest, Scans token.spelling [token] rest

theorem Token.Closed.legible {token : Token} (closed : token.Closed) : Legible [token] := by
  intro rest ends
  rw [List.flatMap_singleton]
  exact closed rest

theorem Legible.cons {token : Token} {tokens : List Token} (closed : token.Closed)
    (legible : Legible tokens) : Legible (token :: tokens) := by
  intro rest ends
  exact (closed _).append (legible rest ends)

def Token.IsDelimiter : Token → Prop
  | .comma => True
  | .listClose => True
  | .recordClose => True
  | _ => False

theorem Token.IsDelimiter.endsNumeral {token : Token} (delimiter : token.IsDelimiter)
    (rest : List Char) : EndsNumeral (token.spelling ++ rest) := by
  cases token with
  | comma => exact endsNumeral_cons rfl (by decide) (by decide) (by decide)
  | listClose => exact endsNumeral_cons rfl (by decide) (by decide) (by decide)
  | recordClose => exact endsNumeral_cons rfl (by decide) (by decide) (by decide)
  | _ => exact delimiter.elim

/-- Tokens that a value may stand in front of. -/
def Delimited (tokens : List Token) : Prop :=
  ∃ delimiter more, tokens = delimiter :: more ∧ delimiter.IsDelimiter

theorem Legible.append {first second : List Token} (firstLegible : Legible first)
    (secondLegible : Legible second) (delimited : Delimited second) :
    Legible (first ++ second) := by
  obtain ⟨delimiter, more, rfl, isDelimiter⟩ := delimited
  intro rest ends
  rw [List.flatMap_append]
  refine Scans.append (firstLegible _ ?_) (secondLegible rest ends)
  rw [List.flatMap_cons, List.append_assoc]
  exact isDelimiter.endsNumeral _

theorem closed_listOpen : Token.listOpen.Closed := fun _ => scans_token rfl rfl

theorem closed_listClose : Token.listClose.Closed := fun _ => scans_token rfl rfl

theorem closed_recordOpen : Token.recordOpen.Closed := fun _ => scans_token rfl rfl

theorem closed_recordClose : Token.recordClose.Closed := fun _ => scans_token rfl rfl

theorem closed_text (content : String) : (Token.text (some content)).Closed :=
  scans_text content

theorem closed_comma : Token.comma.Closed := fun _ => scans_token rfl rfl

theorem closed_colon : Token.colon.Closed := fun _ => scans_token rfl rfl

theorem closed_null : (Token.leaf .null).Closed := fun _ => scans_token rfl rfl

theorem closed_truth (value : Bool) : (Token.leaf (.truth value)).Closed := by
  cases value <;> exact fun _ => scans_token rfl rfl

theorem legible_integer {i : Int} (least : Text.leastInt64 ≤ i)
    (greatest : i ≤ Text.greatestUInt64) : Legible [.leaf (.integer i)] := by
  intro rest ends
  rw [List.flatMap_singleton]
  exact scans_integer least greatest ends

theorem scanTokens?_flatMap {tokens : List Token} (legible : Legible tokens) :
    scanTokens? [] (tokens.flatMap Token.spelling).length (tokens.flatMap Token.spelling) =
      some tokens := by
  have scans := legible [] endsNumeral_nil
  obtain ⟨spare, enough⟩ := Nat.exists_eq_add_of_le scans.length_le
  have steps := scans.steps [] spare
  rw [← enough, List.append_nil, List.append_nil] at steps
  rw [steps, scanTokens?, List.reverse_reverse]

end MediaFilter.Json
