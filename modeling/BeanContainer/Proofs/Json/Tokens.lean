/-
This file says which tokens a written JSON value is cut into. What is written for a value is followed
by nothing or by a mark, so that no number runs on into the next token.
-/

import BeanContainer.Json.Token
import BeanContainer.Json.Writer
import Mathlib.Data.List.TakeDrop

namespace BeanContainer.Json

/-- What may follow a value in a text that was written. -/
inductive Closes : List Char → Prop
  | nothing : Closes []
  | comma (after : List Char) : Closes (',' :: after)
  | array (after : List Char) : Closes (']' :: after)
  | object (after : List Char) : Closes ('\x7d' :: after)

/-- A text without blanks between its tokens is cut into these. -/
inductive Cuts : List Char → List Token → Prop
  | nothing : Cuts [] []
  | token {character : Char} {rest after : List Char} {token : Token} {found : List Token}
      (solid : isSpace character = false)
      (next : nextToken (character :: rest) = some (token, after))
      (shorter : after.length ≤ rest.length) (later : Cuts after found) :
      Cuts (character :: rest) (token :: found)

/-- With fuel for every character the cutter finds the tokens that the characters are cut into. -/
theorem Cuts.tokensWithin {characters : List Char} {found : List Token}
    (cuts : Cuts characters found) :
    ∀ (fuel : Nat) (before : List Token), characters.length ≤ fuel →
      tokensWithin fuel characters before = some (before.reverse ++ found) := by
  induction cuts with
  | nothing =>
      intro fuel before _
      rw [Json.tokensWithin, List.append_nil]
  | @token character rest after token found solid next shorter later inductionHypothesis =>
      intro fuel before enough
      cases fuel with
      | zero => simp at enough
      | succ fuel =>
          have fewer : after.length ≤ fuel := by
            rw [List.length_cons] at enough
            omega
          rw [Json.tokensWithin, if_neg (by simp [solid]), next]
          change Json.tokensWithin fuel after (token :: before) = _
          rw [inductionHypothesis fuel (token :: before) fewer]
          simp

/-- A text is cut into one list of tokens only. -/
theorem Cuts.tokens {text : String} {found : List Token} (cuts : Cuts text.toList found) :
    Json.tokens text = some found :=
  cuts.tokensWithin text.toList.length [] (Nat.le_refl _)

/-! Marks. -/

section Marks

variable {after : List Char} {later : List Token} (cuts : Cuts after later)

include cuts

/-- Each mark is a token of its own, whatever comes after it. -/
theorem Cuts.openArray : Cuts ('[' :: after) (.openArray :: later) :=
  .token rfl rfl (Nat.le_refl _) cuts

theorem Cuts.closeArray : Cuts (']' :: after) (.closeArray :: later) :=
  .token rfl rfl (Nat.le_refl _) cuts

theorem Cuts.openObject : Cuts ('\x7b' :: after) (.openObject :: later) :=
  .token rfl rfl (Nat.le_refl _) cuts

theorem Cuts.closeObject : Cuts ('\x7d' :: after) (.closeObject :: later) :=
  .token rfl rfl (Nat.le_refl _) cuts

theorem Cuts.comma : Cuts (',' :: after) (.comma :: later) :=
  .token rfl rfl (Nat.le_refl _) cuts

theorem Cuts.colon : Cuts (':' :: after) (.colon :: later) :=
  .token rfl rfl (Nat.le_refl _) cuts

end Marks

/-! Numbers. -/

/-- The digits end where something closes them. -/
theorem digits_append {decimals after : List Char}
    (allDigits : ∀ character ∈ decimals, character.isDigit = true) (closes : Closes after) :
    digits (decimals ++ after) = (decimals, after) := by
  have stops : after.takeWhile Char.isDigit = [] ∧ after.dropWhile Char.isDigit = after := by
    cases closes <;> exact ⟨rfl, rfl⟩
  rw [digits, List.span_eq_takeWhile_dropWhile, List.takeWhile_append_of_pos allDigits,
    List.dropWhile_append_of_pos allDigits, stops.1, stops.2, List.append_nil]

/-- No number but zero begins with a zero. -/
theorem head?_toDigits {value : Nat} (positive : 0 < value) :
    (Nat.toDigits 10 value).head? ≠ some '0' := by
  induction value using Nat.strongRecOn with
  | ind value inductionHypothesis =>
      by_cases single : value < 10
      · rw [Nat.toDigits_of_lt_base single, List.head?_cons]
        simp
        omega
      · have split := Nat.toDigits_of_base_le (b := 10) (n := value) (by decide) (by omega)
        have start := inductionHypothesis (value / 10) (by omega) (by omega)
        rw [split, List.head?_append]
        cases first : (Nat.toDigits 10 (value / 10)).head? with
        | none => exact absurd (List.head?_eq_none_iff.mp first) Nat.toDigits_ne_nil
        | some digit => rwa [first] at start

/-- The digits of a number are read as its whole part, without a zero too many. -/
theorem wholePart_toDigits (value : Nat) {after : List Char} (closes : Closes after) :
    wholePart (Nat.toDigits 10 value ++ after) = some (Nat.toDigits 10 value, after) := by
  obtain rfl | positive := Nat.eq_zero_or_pos value
  · rw [Nat.toDigits_zero]
    rfl
  · have start := head?_toDigits positive
    have found := digits_append
      (fun character member =>
        Nat.isDigit_of_mem_toDigits (b := 10) (n := value) (by decide) (by decide) member) closes
    unfold wholePart
    cases decimals : Nat.toDigits 10 value with
    | nil => exact absurd decimals Nat.toDigits_ne_nil
    | cons first others =>
        rw [decimals] at start found
        split
        · rename_i same
          cases same
          exact absurd rfl start
        · rw [found]

/-- Where the number is closed there is no fraction. -/
theorem fractionPart_of_closes {after : List Char} (closes : Closes after) :
    fractionPart after = some ([], after) := by
  cases closes <;> rfl

/-- Where the number is closed there is no exponent. -/
theorem exponentPart_of_closes {after : List Char} (closes : Closes after) :
    exponentPart after = some ([], after) := by
  cases closes <;> rfl

/-- The digits of a number give its value back. -/
theorem naturalOf_toDigits (value : Nat) : naturalOf (Nat.toDigits 10 value) = value := by
  have digitsOf := Nat.ofDigitChars_toDigits (b := 10) (n := value) (by decide) (by decide)
  rw [Nat.ofDigitChars_eq_foldl] at digitsOf
  unfold naturalOf
  simpa [Nat.mul_comm] using digitsOf

/-- Every number has a first digit. -/
theorem toDigits_eq_cons (value : Nat) :
    ∃ first others, Nat.toDigits 10 value = first :: others ∧ first.isDigit = true := by
  cases decimals : Nat.toDigits 10 value with
  | nil => exact absurd decimals Nat.toDigits_ne_nil
  | cons first others =>
      have member : first ∈ Nat.toDigits 10 value := by simp [decimals]
      exact ⟨first, others, rfl, Nat.isDigit_of_mem_toDigits (by decide) (by decide) member⟩

/-- A number that is not negative is written with its digits. -/
theorem toList_ofNat (value : Nat) : (toString (Int.ofNat value)).toList = Nat.toDigits 10 value :=
  Nat.toList_repr

/-- A negative number is written with a minus sign and the digits of its amount. -/
theorem toList_negSucc (value : Nat) :
    (toString (Int.negSucc value)).toList = '-' :: Nat.toDigits 10 (value + 1) := by
  change ("-" ++ Nat.repr (value + 1)).toList = _
  rw [String.toList_append, Nat.toList_repr]
  rfl

/-- A written integer begins with a digit or with a minus sign. -/
theorem numeral_toString (value : Int) :
    ∃ first others, (toString value).toList = first :: others ∧
      (first.isDigit = true ∨ first = '-') := by
  cases value with
  | ofNat value =>
      obtain ⟨first, others, decimals, isDigit⟩ := toDigits_eq_cons value
      exact ⟨first, others, (toList_ofNat value).trans decimals, Or.inl isDigit⟩
  | negSucc value => exact ⟨_, _, toList_negSucc value, Or.inr rfl⟩

/-- A written number is read as that number. -/
theorem number_toString (value : Int) {after : List Char} (closes : Closes after) :
    number ((toString value).toList ++ after) = some (.integer value, after) := by
  cases value with
  | ofNat value =>
      obtain ⟨first, others, decimals, isDigit⟩ := toDigits_eq_cons value
      have whole := wholePart_toDigits value closes
      have natural := naturalOf_toDigits value
      rw [toList_ofNat]
      unfold number
      split
      rename_i found
      split at found
      · rename_i same
        rw [decimals] at same
        cases same
        cases isDigit
      · cases found
        simp [whole, natural, fractionPart_of_closes closes, exponentPart_of_closes closes]
  | negSucc value =>
      have whole := wholePart_toDigits (value + 1) closes
      have natural := naturalOf_toDigits (value + 1)
      rw [toList_negSucc]
      simp [number, whole, natural, fractionPart_of_closes closes, exponentPart_of_closes closes,
        Int.negSucc_eq]

/-- A digit or a minus sign starts a number. -/
theorem nextToken_of_numeral {first : Char} (numeral : first.isDigit = true ∨ first = '-')
    (rest : List Char) :
    nextToken (first :: rest) =
      (number (first :: rest)).map fun found => (.scalar found.1, found.2) := by
  rw [nextToken.eq_def]
  split
  case h_11 => cases number (first :: rest) <;> rfl
  all_goals
    rename_i same
    cases same
    simp at numeral

/-- Neither a digit nor a minus sign is white space. -/
theorem isSpace_of_numeral {first : Char} (numeral : first.isDigit = true ∨ first = '-') :
    isSpace first = false := by
  refine Bool.eq_false_iff.mpr fun spaced => ?_
  simp only [isSpace, Bool.or_eq_true, beq_iff_eq] at spaced
  obtain ((rfl | rfl) | rfl) | rfl := spaced <;> simp at numeral

/-- A written number is one token. -/
theorem Cuts.integer (value : Int) {after : List Char} {later : List Token}
    (closes : Closes after) (cuts : Cuts after later) :
    Cuts ((toString value).toList ++ after) (.scalar (.integer value) :: later) := by
  obtain ⟨first, others, written, numeral⟩ := numeral_toString value
  have found := number_toString value closes
  rw [written, List.cons_append] at found ⊢
  refine .token (isSpace_of_numeral numeral) ?_ ?_ cuts
  · rw [nextToken_of_numeral numeral, found]
    rfl
  · simp

/-! Texts. -/

/-- A control character is written with four hexadecimal digits. -/
theorem writtenCharacter_of_control :
    ∀ code : Fin 32, writtenCharacter (Char.ofNat code) =
      ['\\', 'u', '0', '0', Nat.digitChar (code / 16), Nat.digitChar (code % 16)] := by
  decide

/-- A hexadecimal digit is read as its value. -/
theorem hexDigit?_digitChar : ∀ digit : Fin 16, hexDigit? (Nat.digitChar digit) = some digit.val := by
  decide

/-- A written character is read as that character, be it escaped or not. -/
theorem stringUnits_written (character : Char) (rest : List Char) (units : List Nat) :
    stringUnits (writtenCharacter character ++ rest) units =
      stringUnits rest (character.toNat :: units) := by
  by_cases quote : character = '"'
  · subst quote
    rfl
  by_cases backslash : character = '\\'
  · subst backslash
    rfl
  by_cases control : character.toNat < 0x20
  · have written := writtenCharacter_of_control ⟨character.toNat, control⟩
    have high := hexDigit?_digitChar ⟨character.toNat / 16, by omega⟩
    have low := hexDigit?_digitChar ⟨character.toNat % 16, by omega⟩
    have zero : hexDigit? '0' = some 0 := rfl
    simp only [Char.ofNat_toNat] at written high low
    rw [written]
    simp only [List.cons_append, List.nil_append, stringUnits, high, low, zero]
    congr 2
    omega
  · have written : writtenCharacter character = [character] := by
      simp [writtenCharacter, quote, backslash, control]
    rw [written, List.singleton_append, stringUnits.eq_def]
    split
    case h_5 =>
      rename_i same
      cases same
      rw [if_neg (by simp [backslash, control])]
    all_goals simp_all

/-- The characters of a written text are read up to the closing quote. -/
theorem stringUnits_writtenText (characters : List Char) (after : List Char) (units : List Nat) :
    stringUnits (characters.flatMap writtenCharacter ++ '"' :: after) units =
      some ((characters.map Char.toNat).reverse ++ units, after) := by
  induction characters generalizing units with
  | nil => rfl
  | cons character rest inductionHypothesis =>
      rw [List.flatMap_cons, List.append_assoc, stringUnits_written, inductionHypothesis]
      simp

/-- No character is half of another one. -/
theorem joinUnits_characters (characters after : List Char) :
    joinUnits (characters.map Char.toNat) after = some (characters.reverse ++ after) := by
  induction characters generalizing after with
  | nil => rfl
  | cons character rest inductionHypothesis =>
      have whole : character.toNat < 0xD800 ∨ 0xDFFF < character.toNat := by
        obtain low | high := character.valid
        · exact Or.inl low
        · exact Or.inr high.1
      cases rest with
      | nil =>
          rw [List.map_cons, List.map_nil, joinUnits, if_neg (by omega), Char.ofNat_toNat]
          rfl
      | cons earlier others =>
          have later := inductionHypothesis (character :: after)
          rw [List.map_cons] at later
          rw [List.map_cons, List.map_cons, joinUnits, if_neg (by omega), if_neg (by omega),
            Char.ofNat_toNat, later]
          simp

/-- A written text is one token. -/
theorem Cuts.text (text : String) {after : List Char} {later : List Token} (cuts : Cuts after later) :
    Cuts ((writtenText text).toList ++ after) (.text (some text) :: later) := by
  have written : (writtenText text).toList ++ after =
      '"' :: (text.toList.flatMap writtenCharacter ++ '"' :: after) := by
    simp [writtenText]
  have units := stringUnits_writtenText text.toList after []
  have joined := joinUnits_characters text.toList.reverse []
  rw [written]
  refine .token rfl ?_ ?_ cuts
  · rw [List.map_reverse, List.reverse_reverse, List.append_nil] at joined
    simp [nextToken, units, joined]
  · rw [List.length_append, List.length_cons]
    omega

end BeanContainer.Json
