/-
This file builds a JSON value from tokens. Open arrays and objects wait on a stack, so the depth
of a text is not limited.
-/

import BeanContainer.Json.Token

namespace BeanContainer.Json

/-- An array or object whose end has not been read; what it holds so far is in reverse order. -/
inductive Frame where
  | items (before : List Json)
  | members (before : List (Option String × Json))
  /-- The value of this key comes next. -/
  | member (before : List (Option String × Json)) (key : Option String)

/-- What the next token may be. -/
inductive Phase where
  | value
  | valueOrEnd
  | key
  | keyOrEnd
  | colon (key : Option String)
  | commaOrEnd
  | done (value : Json)

structure ReadState where
  phase : Phase
  frames : List Frame

/-- A key that is no text spoils its object. -/
def objectOf (members : List (Option String × Json)) : Json :=
  match members.mapM fun (key, value) => key.map fun text => (text, value) with
  | some pairs => .object pairs
  | none => .illFormed

/-- Puts a finished value where it belongs. -/
def finish (value : Json) : List Frame → Option ReadState
  | [] => some ⟨.done value, []⟩
  | .items before :: outer => some ⟨.commaOrEnd, .items (value :: before) :: outer⟩
  | .member before key :: outer => some ⟨.commaOrEnd, .members ((key, value) :: before) :: outer⟩
  | .members _ :: _ => none

def closeArray : List Frame → Option ReadState
  | .items before :: outer => finish (.array before.reverse) outer
  | _ => none

def closeObject : List Frame → Option ReadState
  | .members before :: outer => finish (objectOf before.reverse) outer
  | _ => none

/-- A token that begins a value. -/
def begin (frames : List Frame) : Token → Option ReadState
  | .openArray => some ⟨.valueOrEnd, .items [] :: frames⟩
  | .openObject => some ⟨.keyOrEnd, .members [] :: frames⟩
  | .text (some content) => finish (.string content) frames
  | .text none => finish .illFormed frames
  | .scalar value => finish value frames
  | _ => none

def advance (state : ReadState) (token : Token) : Option ReadState :=
  match state.phase, token with
  | .value, token => begin state.frames token
  | .valueOrEnd, .closeArray => closeArray state.frames
  | .valueOrEnd, token => begin state.frames token
  | .keyOrEnd, .closeObject => closeObject state.frames
  | .keyOrEnd, .text key => some ⟨.colon key, state.frames⟩
  | .key, .text key => some ⟨.colon key, state.frames⟩
  | .colon key, .colon =>
      match state.frames with
      | .members before :: outer => some ⟨.value, .member before key :: outer⟩
      | _ => none
  | .commaOrEnd, .comma =>
      match state.frames with
      | .items _ :: _ => some ⟨.value, state.frames⟩
      | .members _ :: _ => some ⟨.key, state.frames⟩
      | _ => none
  | .commaOrEnd, .closeArray => closeArray state.frames
  | .commaOrEnd, .closeObject => closeObject state.frames
  | _, _ => none

/-- The text holds exactly one value. -/
def read (text : String) : Option Json := do
  let found ← tokens text
  let last ← found.foldlM advance ⟨.value, []⟩
  match last.phase with
  | .done value => some value
  | _ => none

end BeanContainer.Json
