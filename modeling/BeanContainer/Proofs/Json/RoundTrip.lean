/-
This file shows that a written JSON value is read back as it was, however deep it is, as long as it
holds no number in another spelling than that of an integer and no part without a text.
-/

import BeanContainer.Json.Reader
import BeanContainer.Proofs.Collection.Traversal
import BeanContainer.Proofs.Json.Tokens

namespace BeanContainer.Json

mutual

/-- Neither a number in another spelling than that of an integer nor a part without a text stands in
the value. -/
def IsPlain : Json → Prop
  | .decimal _ => False
  | .illFormed => False
  | .array items => ItemsPlain items
  | .object members => MembersPlain members
  | _ => True

def ItemsPlain : List Json → Prop
  | [] => True
  | item :: rest => IsPlain item ∧ ItemsPlain rest

def MembersPlain : List (String × Json) → Prop
  | [] => True
  | (_, value) :: rest => IsPlain value ∧ MembersPlain rest

end

mutual

/-- The tokens of the value's text. -/
def tokensOf : Json → List Token
  | .array items => .openArray :: itemTokens items ++ [.closeArray]
  | .object members => .openObject :: memberTokens members ++ [.closeObject]
  | .string text => [.text (some text)]
  | value => [.scalar value]

/-- There is a comma between two items. -/
def itemTokens : List Json → List Token
  | [] => []
  | item :: rest => tokensOf item ++ laterItemTokens rest

def laterItemTokens : List Json → List Token
  | [] => []
  | item :: rest => .comma :: tokensOf item ++ laterItemTokens rest

def memberTokens : List (String × Json) → List Token
  | [] => []
  | (key, value) :: rest =>
      .text (some key) :: .colon :: tokensOf value ++ laterMemberTokens rest

def laterMemberTokens : List (String × Json) → List Token
  | [] => []
  | (key, value) :: rest =>
      .comma :: .text (some key) :: .colon :: tokensOf value ++ laterMemberTokens rest

end

/-! The text is cut into the tokens. -/

/-- Texts that follow another one, each after a comma. -/
def laterTexts (texts : List String) : List Char := texts.flatMap fun text => ',' :: text.toList

/-- The first text stands alone, and each later one behind a comma. -/
theorem toList_intercalate_cons (text : String) (rest : List String) :
    (",".intercalate (text :: rest)).toList = text.toList ++ laterTexts rest := by
  induction rest generalizing text with
  | nil => simp [laterTexts]
  | cons next others inductionHypothesis =>
      rw [String.intercalate_cons_cons, String.toList_append, inductionHypothesis,
        String.toList_append]
      simp [laterTexts]

/-- Later texts start with a comma, which ends every number in front of them. -/
theorem Closes.laterTexts {after : List Char} (closes : Closes after) :
    ∀ texts : List String, Closes (laterTexts texts ++ after)
  | [] => closes
  | _ :: _ => .comma _

mutual

/-- What is written for a value is cut into the tokens of the value, whatever closes it. -/
theorem cuts_write : ∀ {value : Json}, IsPlain value → ∀ {after : List Char} {later : List Token},
    Closes after → Cuts after later → Cuts (value.write.toList ++ after) (tokensOf value ++ later)
  | .null, _, _, _, _, cuts => .token rfl rfl (Nat.le_add_right _ 3) cuts
  | .bool true, _, _, _, _, cuts => .token rfl rfl (Nat.le_add_right _ 3) cuts
  | .bool false, _, _, _, _, cuts => .token rfl rfl (Nat.le_add_right _ 4) cuts
  | .integer value, _, _, _, closes, cuts => cuts.integer value closes
  | .string text, _, _, _, _, cuts => cuts.text text
  | .array [], _, _, _, _, cuts => cuts.closeArray.openArray
  | .array (item :: rest), plain, after, later, _, cuts => by
      have tail := cuts_laterItems plain.2 (.array after) cuts.closeArray
      have head := cuts_write plain.1 (.laterTexts (.array after) (writeItems rest)) tail
      have text : (write (.array (item :: rest))).toList ++ after =
          '[' :: (item.write.toList ++ (laterTexts (writeItems rest) ++ ']' :: after)) := by
        simp [write, writeItems, toList_intercalate_cons, -String.toList_intercalate]
      rw [text, tokensOf, itemTokens]
      simpa using head.openArray
  | .object [], _, _, _, _, cuts => cuts.closeObject.openObject
  | .object ((key, value) :: rest), plain, after, later, _, cuts => by
      have tail := cuts_laterMembers plain.2 (.object after) cuts.closeObject
      have head := cuts_write plain.1 (.laterTexts (.object after) (writeMembers rest)) tail
      have text : (write (.object ((key, value) :: rest))).toList ++ after =
          '\x7b' :: ((writtenText key).toList ++ ':' :: (value.write.toList ++
            (laterTexts (writeMembers rest) ++ '\x7d' :: after))) := by
        simp [write, writeMembers, toList_intercalate_cons, -String.toList_intercalate]
      rw [text, tokensOf, memberTokens]
      simpa using (head.colon.text key).openObject

theorem cuts_laterItems : ∀ {items : List Json}, ItemsPlain items →
    ∀ {after : List Char} {later : List Token}, Closes after → Cuts after later →
      Cuts (laterTexts (writeItems items) ++ after) (laterItemTokens items ++ later)
  | [], _, _, _, _, cuts => cuts
  | item :: rest, plain, after, later, closes, cuts => by
      have tail := cuts_laterItems plain.2 closes cuts
      have head := cuts_write plain.1 (closes.laterTexts (writeItems rest)) tail
      rw [laterItemTokens]
      simpa [writeItems, laterTexts] using head.comma

theorem cuts_laterMembers : ∀ {members : List (String × Json)}, MembersPlain members →
    ∀ {after : List Char} {later : List Token}, Closes after → Cuts after later →
      Cuts (laterTexts (writeMembers members) ++ after) (laterMemberTokens members ++ later)
  | [], _, _, _, _, cuts => cuts
  | (key, value) :: rest, plain, after, later, closes, cuts => by
      have tail := cuts_laterMembers plain.2 closes cuts
      have head := cuts_write plain.1 (closes.laterTexts (writeMembers rest)) tail
      rw [laterMemberTokens]
      simpa [writeMembers, laterTexts] using (head.colon.text key).comma

end

/-- A written value is cut into its tokens. -/
theorem tokens_write {value : Json} (plain : IsPlain value) :
    tokens value.write = some (tokensOf value) := by
  refine Cuts.tokens ?_
  simpa using cuts_write plain .nothing .nothing

/-! The tokens are put together again. -/

/-- Goes on reading in the state that was reached, if one was. -/
def feed (state : Option ReadState) (found : List Token) : Option ReadState :=
  state.bind fun state => found.foldlM advance state

/-- The members of an object as they wait for its end. -/
def waiting (members : List (String × Json)) : List (Option String × Json) :=
  members.map fun member => (some member.1, member.2)

/-- The members that wait in reverse come out as they stood. -/
theorem objectOf_waiting (members : List (String × Json)) :
    objectOf (waiting members) = .object members := by
  have texts {pairOf : Option String × Json → Option (String × Json)}
      (shown : ∀ key value, pairOf (some key, value) = some (key, value)) :
      (waiting members).mapM pairOf = some members := by
    rw [waiting, List.mapM_map, mapM_eq_some fun member _ => shown member.1 member.2, List.map_id']
  unfold objectOf
  rw [texts]
  exact fun _ _ => rfl

/-- A place where a value may begin. -/
def Phase.takesValue : Phase → Bool
  | .value => true
  | .valueOrEnd => true
  | _ => false

/-- An opened array waits for its first item or its end. -/
theorem feed_openArray {phase : Phase} (takes : phase.takesValue = true) (frames : List Frame)
    (later : List Token) :
    feed (some ⟨phase, frames⟩) (.openArray :: later) =
      feed (some ⟨.valueOrEnd, .items [] :: frames⟩) later := by
  cases phase <;> first | rfl | cases takes

/-- An opened object waits for its first key or its end. -/
theorem feed_openObject {phase : Phase} (takes : phase.takesValue = true) (frames : List Frame)
    (later : List Token) :
    feed (some ⟨phase, frames⟩) (.openObject :: later) =
      feed (some ⟨.keyOrEnd, .members [] :: frames⟩) later := by
  cases phase <;> first | rfl | cases takes

mutual

/-- The tokens of a value put that value where a value is due. -/
theorem feed_tokensOf : ∀ {value : Json}, IsPlain value → ∀ {phase : Phase},
    phase.takesValue = true → ∀ (frames : List Frame) (later : List Token),
      feed (some ⟨phase, frames⟩) (tokensOf value ++ later) = feed (finish value frames) later
  | .null, _, phase, takes, _, _ => by cases phase <;> first | rfl | cases takes
  | .bool _, _, phase, takes, _, _ => by cases phase <;> first | rfl | cases takes
  | .integer _, _, phase, takes, _, _ => by cases phase <;> first | rfl | cases takes
  | .string _, _, phase, takes, _, _ => by cases phase <;> first | rfl | cases takes
  | .array [], _, _, takes, frames, later => feed_openArray takes frames (.closeArray :: later)
  | .array (item :: rest), plain, _, takes, frames, later => by
      have tokens : tokensOf (.array (item :: rest)) ++ later =
          .openArray :: (tokensOf item ++ (laterItemTokens rest ++ .closeArray :: later)) := by
        simp [tokensOf, itemTokens]
      rw [tokens, feed_openArray takes, feed_tokensOf plain.1 rfl]
      exact feed_laterItems plain.2 [item] frames later
  | .object [], _, _, takes, frames, later => feed_openObject takes frames (.closeObject :: later)
  | .object ((key, value) :: rest), plain, _, takes, frames, later => by
      have tokens : tokensOf (.object ((key, value) :: rest)) ++ later =
          .openObject :: .text (some key) :: .colon ::
            (tokensOf value ++ (laterMemberTokens rest ++ .closeObject :: later)) := by
        simp [tokensOf, memberTokens]
      rw [tokens, feed_openObject takes]
      change feed (some ⟨.value, .member [] (some key) :: frames⟩) _ = _
      rw [feed_tokensOf plain.1 rfl]
      exact feed_laterMembers plain.2 [(key, value)] frames later

theorem feed_laterItems : ∀ {items : List Json}, ItemsPlain items →
    ∀ (before : List Json) (outer : List Frame) (later : List Token),
      feed (some ⟨.commaOrEnd, .items before :: outer⟩)
          (laterItemTokens items ++ .closeArray :: later) =
        feed (finish (.array (before.reverse ++ items)) outer) later
  | [], _, before, outer, later => by
      rw [List.append_nil]
      rfl
  | item :: rest, plain, before, outer, later => by
      have tokens : laterItemTokens (item :: rest) ++ .closeArray :: later =
          .comma :: (tokensOf item ++ (laterItemTokens rest ++ .closeArray :: later)) := by
        simp [laterItemTokens]
      rw [tokens]
      change feed (some ⟨.value, .items before :: outer⟩) _ = _
      rw [feed_tokensOf plain.1 rfl]
      change feed (some ⟨.commaOrEnd, .items (item :: before) :: outer⟩) _ = _
      rw [feed_laterItems plain.2, List.reverse_cons, List.append_assoc]
      rfl

theorem feed_laterMembers : ∀ {members : List (String × Json)}, MembersPlain members →
    ∀ (before : List (String × Json)) (outer : List Frame) (later : List Token),
      feed (some ⟨.commaOrEnd, .members (waiting before).reverse :: outer⟩)
          (laterMemberTokens members ++ .closeObject :: later) =
        feed (finish (.object (before ++ members)) outer) later
  | [], _, before, outer, later => by
      change feed (finish (objectOf (waiting before).reverse.reverse) outer) later = _
      rw [List.reverse_reverse, objectOf_waiting, List.append_nil]
  | (key, value) :: rest, plain, before, outer, later => by
      have tokens : laterMemberTokens ((key, value) :: rest) ++ .closeObject :: later =
          .comma :: .text (some key) :: .colon ::
            (tokensOf value ++ (laterMemberTokens rest ++ .closeObject :: later)) := by
        simp [laterMemberTokens]
      have next : (some key, value) :: (waiting before).reverse =
          (waiting (before ++ [(key, value)])).reverse := by
        simp [waiting]
      rw [tokens]
      change feed (some ⟨.value, .member (waiting before).reverse (some key) :: outer⟩) _ = _
      rw [feed_tokensOf plain.1 rfl]
      change feed (some ⟨.commaOrEnd, .members ((some key, value) :: _) :: outer⟩) _ = _
      rw [next, feed_laterMembers plain.2, List.append_assoc]
      rfl

end

/-- A plain value is read back as it was. -/
theorem read_write {value : Json} (plain : IsPlain value) : read value.write = some value := by
  have fed := feed_tokensOf plain (rfl : Phase.value.takesValue = true) [] []
  rw [List.append_nil] at fed
  change (tokensOf value).foldlM advance _ = some ⟨.done value, []⟩ at fed
  unfold read
  rw [tokens_write plain]
  simp [fed]

end BeanContainer.Json
