/-
This file writes a table as a settings document.
-/

import BeanContainer.Number.Shortest
import BeanContainer.Toml.Value

namespace BeanContainer.Toml.Writer

/-- The longest run of the mark. -/
def longestRun (mark : Char) (characters : List Char) : Nat :=
  (characters.foldl (fun (run, longest) character =>
    if character = mark then (run + 1, max longest (run + 1)) else (0, longest)) (0, 0)).2

/-- A control character other than the tab and the line feed can be written by its code only. -/
def needsCode (character : Char) : Bool :=
  (character.toNat < 0x20 && character != '\t' && character != '\n') || character.toNat == 0x7F

def codeEscape (character : Char) : List Char :=
  let digits := (Nat.toDigits 16 character.toNat).map Char.toUpper
  '\\' :: 'u' :: List.replicate (4 - digits.length) '0' ++ digits

/-- A text on several lines keeps its line feeds. -/
def escaped (multiline : Bool) (character : Char) : List Char :=
  if character = '\\' then ['\\', '\\']
  else if character = '\t' then ['\\', 't']
  else if character = '\n' then (if multiline then ['\n'] else ['\\', 'n'])
  else if character = '\r' then ['\\', 'r']
  else if character.toNat = 8 then ['\\', 'b']
  else if character.toNat = 12 then ['\\', 'f']
  else if needsCode character then codeEscape character
  else [character]

/-- So many quotes in a row stand as they are; the next one is escaped, and after any escape the
count starts again. -/
def escapeAll (multiline : Bool) (allowed : Nat) : Nat → List Char → List Char
  | _, [] => []
  | run, character :: rest =>
      if character = '"' then
        if run < allowed then '"' :: escapeAll multiline allowed (run + 1) rest
        else '\\' :: '"' :: escapeAll multiline allowed 0 rest
      else escaped multiline character ++ escapeAll multiline allowed 0 rest

def between (mark : List Char) (content : List Char) : String :=
  String.ofList (mark ++ content ++ mark)

def basic (characters : List Char) : String := between ['"'] (escapeAll false 0 0 characters)

def literal (characters : List Char) : String := between ['\''] characters

/-- A text with a line feed starts on the line below its opening marks, where the reader drops the
first line feed. -/
def openingBreak (characters : List Char) : List Char :=
  if characters.contains '\n' then ['\n'] else []

def multilineBasic (characters : List Char) : String :=
  between ['"', '"', '"'] (openingBreak characters ++ escapeAll true 2 0 characters)

def multilineLiteral (characters : List Char) : String :=
  between ['\'', '\'', '\''] (openingBreak characters ++ characters)

/-- The first form that needs no escape is taken, and a basic text where every form needs one. -/
def stringText (text : String) : String :=
  let characters := text.toList
  let coded := characters.any needsCode
  let backslash := characters.contains '\\'
  let lines := characters.contains '\n'
  let single := longestRun '\'' characters
  let double := longestRun '"' characters
  if !coded && !backslash && double == 0 && !lines then basic characters
  else if !coded && single == 0 && !lines then literal characters
  else if !coded && !backslash && double ≤ 2 then multilineBasic characters
  else if !coded && single ≤ 2 then multilineLiteral characters
  else if lines then multilineBasic characters
  else basic characters

def isBareCharacter (character : Char) : Bool :=
  character.isAlphanum || character == '-' || character == '_'

def keyText (key : String) : String :=
  let characters := key.toList
  let coded := characters.any fun character => needsCode character || character == '\n'
  if !characters.isEmpty && characters.all isBareCharacter then key
  else if !coded && !characters.contains '\\' && !characters.contains '"' then basic characters
  else if !coded && !characters.contains '\'' then literal characters
  else basic characters

/-- A float never looks like an integer. -/
def floatText : Binary64 → String
  | .nan => "nan"
  | .infinite negative => Binary64.signed negative "inf"
  | .finite negative mantissa exponent =>
      let text := Binary64.magnitudeText mantissa exponent
      Binary64.signed negative (if text.toList.contains '.' then text else text ++ ".0")

mutual

/-- A value on one line. -/
def inlineText : Value → String
  | .string text => stringText text
  | .integer value => toString value.toInt
  | .float value => floatText value
  | .boolean value => if value then "true" else "false"
  | .datetime value => value.text
  | .array items => "[" ++ ", ".intercalate (inlineItems items) ++ "]"
  | .table [] => "\x7b\x7d"
  | .table entries => "\x7b " ++ ", ".intercalate (inlineEntries entries) ++ " \x7d"

def inlineItems : List Value → List String
  | [] => []
  | item :: rest => inlineText item :: inlineItems rest

def inlineEntries : List (String × Value) → List String
  | [] => []
  | (key, value) :: rest => (keyText key ++ " = " ++ inlineText value) :: inlineEntries rest

end

/-- A header, if the table shows one, and the lines below it. -/
structure Block where
  header : Option String
  lines : List String

/-- The entries that stand on a line of their own. -/
def bodyLines (entries : List (String × Value)) : List String :=
  (entries.filter fun entry => !entry.2.isTable && !entry.2.isTableArray).map fun entry =>
    keyText entry.1 ++ " = " ++ inlineText entry.2

def pathText (path : List String) : String := ".".intercalate (path.map keyText)

/-- The header of a table that holds further tables only is left out. -/
def tableBlock (path : List String) (entries : List (String × Value)) : Block :=
  let lines := bodyLines entries
  let header :=
    if lines.isEmpty && !entries.isEmpty then none else some ("[" ++ pathText path ++ "]")
  { header, lines }

def elementBlock (path : List String) (entries : List (String × Value)) : Block :=
  { header := some ("[[" ++ pathText path ++ "]]"), lines := bodyLines entries }

mutual

/-- The blocks of all tables below the entries. -/
def entryBlocks (path : List String) : List (String × Value) → List Block
  | [] => []
  | (key, value) :: rest => valueBlocks (path ++ [key]) value ++ entryBlocks path rest

def valueBlocks (path : List String) : Value → List Block
  | .table entries => tableBlock path entries :: entryBlocks path entries
  | .array items =>
      if (Value.array items).isTableArray then elementBlocks path items else []
  | _ => []

def elementBlocks (path : List String) : List Value → List Block
  | [] => []
  | .table entries :: rest =>
      elementBlock path entries :: entryBlocks path entries ++ elementBlocks path rest
  | _ :: rest => elementBlocks path rest

end

def lineText (text : String) : String := text ++ "\n"

/-- An empty line stands before every header but one that opens the document. -/
def blocksText : Bool → List Block → String
  | _, [] => ""
  | opening, block :: rest =>
      match block.header with
      | some header =>
          (if opening then "" else "\n") ++ lineText header ++
            String.join (block.lines.map lineText) ++ blocksText false rest
      | none => String.join (block.lines.map lineText) ++ blocksText opening rest

def document (entries : Table) : String :=
  let lines := bodyLines entries
  String.join (lines.map lineText) ++ blocksText lines.isEmpty (entryBlocks [] entries)

end BeanContainer.Toml.Writer
