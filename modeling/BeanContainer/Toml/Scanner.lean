/-
This file holds the small readers from which the reader of settings documents is built, and the
readers of white space, comments and texts.
-/

namespace BeanContainer.Toml

/-- A reader takes characters from the front and gives what they mean, or refuses them. -/
abbrev Scanner (Result : Type) := StateT (List Char) Option Result

namespace Scanner

variable {Result : Type}

def satisfying (test : Char → Bool) : Scanner Char := fun characters =>
  match characters with
  | [] => none
  | character :: rest => if test character then some (character, rest) else none

def exactly (expected : Char) : Scanner Unit := do
  discard (satisfying (· == expected))

def literal (text : String) : Scanner Unit := text.toList.forM exactly

def optional (reader : Scanner Result) : Scanner (Option Result) :=
  (some <$> reader) <|> pure none

/-- Succeeds where the reader would succeed, and takes nothing. -/
def ahead (reader : Scanner Result) : Scanner Unit := fun characters =>
  (reader characters).map fun _ => ((), characters)

/-- Repeats a reader at most once for each character of the first text. -/
def repeatWithin (reader : Scanner Result) : List Char → List Result → Scanner (List Result)
  | [], found => pure found.reverse
  | _ :: more, found => fun characters =>
      match reader characters with
      | some (result, rest) => repeatWithin reader more (result :: found) rest
      | none => some (found.reverse, characters)

/-- Repeats a reader that takes at least one character as long as it does not refuse. -/
def many (reader : Scanner Result) : Scanner (List Result) := fun characters =>
  repeatWithin reader characters [] characters

def some (reader : Scanner Result) : Scanner (List Result) := do
  let first ← reader
  return first :: (← many reader)

/-- One or more results with a separator between two of them. -/
def separated (reader : Scanner Result) (separator : Scanner Unit) : Scanner (List Result) := do
  let first ← reader
  return first :: (← many (separator *> reader))

def atEnd : Scanner Unit := fun characters => if characters.isEmpty then .some ((), []) else none

end Scanner

open Scanner

def isBlank (character : Char) : Bool := character == ' ' || character == '\t'

def isNonAscii (character : Char) : Bool := character.toNat ≥ 0x80

/-- A comment holds no control characters but the tab. -/
def isCommentCharacter (character : Char) : Bool :=
  character == '\t' || (' ' ≤ character && character ≤ '~') || isNonAscii character

def blanks : Scanner Unit := discard (many (satisfying isBlank))

/-- A line ends with a line feed, which a carriage return may precede. -/
def newline : Scanner Unit := exactly '\n' <|> (exactly '\r' *> exactly '\n')

def comment : Scanner Unit := do
  exactly '#'
  discard (many (satisfying isCommentCharacter))

/-- The rest of a line after a statement. -/
def lineRest : Scanner Unit := do
  blanks
  discard (Scanner.optional comment)
  newline <|> atEnd

/-- Between the items of an array, lines may end and comments may stand. -/
def arraySpace : Scanner Unit :=
  discard (many (discard (satisfying isBlank) <|>
    (discard (Scanner.optional comment) *> newline)))

def hexValue? (character : Char) : Option Nat :=
  if character.isDigit then some (character.toNat - 48)
  else if 'a' ≤ character ∧ character ≤ 'f' then some (character.toNat - 87)
  else if 'A' ≤ character ∧ character ≤ 'F' then some (character.toNat - 55)
  else none

def hexDigit : Scanner Nat := fun characters =>
  match characters with
  | [] => none
  | character :: rest => (hexValue? character).map fun value => (value, rest)

def hexNumber : Nat → Nat → Scanner Nat
  | 0, total => pure total
  | count + 1, total => do
      let digit ← hexDigit
      hexNumber count (total * 16 + digit)

/-- A code point that is half of a character is refused. -/
def codePoint (digits : Nat) : Scanner Char := do
  let code ← hexNumber digits 0
  if code < 0xD800 ∨ (0xDFFF < code ∧ code < 0x110000) then return Char.ofNat code else failure

def escape : Scanner Char := do
  exactly '\\'
  let mark ← satisfying fun _ => true
  match mark with
  | 'b' => return Char.ofNat 8
  | 't' => return '\t'
  | 'n' => return '\n'
  | 'f' => return Char.ofNat 12
  | 'r' => return '\r'
  | '"' => return '"'
  | '\\' => return '\\'
  | 'u' => codePoint 4
  | 'U' => codePoint 8
  | _ => failure

def isBasicCharacter (character : Char) : Bool :=
  isCommentCharacter character && character != '"' && character != '\\'

def isLiteralCharacter (character : Char) : Bool :=
  isCommentCharacter character && character != '\''

def basicText : Scanner (List Char) := do
  exactly '"'
  let content ← many (satisfying isBasicCharacter <|> escape)
  exactly '"'
  return content

def literalText : Scanner (List Char) := do
  exactly '\''
  let content ← many (satisfying isLiteralCharacter)
  exactly '\''
  return content

def lineBreak : Scanner (List Char) := newline *> pure ['\n']

/-- A backslash at the end of a line hides all white space up to the next character. -/
def hiddenBreak : Scanner (List Char) := do
  exactly '\\'
  blanks
  newline
  discard (many (discard (satisfying isBlank) <|> newline))
  return []

def threeTimes (mark : Char) : Scanner Unit := do
  exactly mark
  exactly mark
  exactly mark

/-- One or two quotes in a row, where the given reader would succeed after them. -/
def quotesBefore (mark : Char) (following : Scanner Unit) : Scanner (List Char) :=
  (exactly mark *> exactly mark *> ahead following *> pure [mark, mark]) <|>
    (exactly mark *> ahead following *> pure [mark])

/-- These quotes stand inside the text. -/
def innerQuotes (mark : Char) : Scanner (List Char) :=
  quotesBefore mark (discard (satisfying (· != mark)))

/-- Up to two more quotes may stand right before the closing ones. -/
def closingQuotes (mark : Char) : Scanner (List Char) := do
  let last ← quotesBefore mark (threeTimes mark) <|> pure []
  threeTimes mark
  return last

def multilineBasicText : Scanner (List Char) := do
  threeTimes '"'
  discard (Scanner.optional newline)
  let parts ← many (List.singleton <$> satisfying isBasicCharacter <|> hiddenBreak <|>
    List.singleton <$> escape <|> lineBreak <|> innerQuotes '"')
  return parts.flatten ++ (← closingQuotes '"')

def multilineLiteralText : Scanner (List Char) := do
  threeTimes '\''
  discard (Scanner.optional newline)
  let parts ← many (List.singleton <$> satisfying isLiteralCharacter <|> lineBreak <|>
    innerQuotes '\'')
  return parts.flatten ++ (← closingQuotes '\'')

def textValue : Scanner String :=
  String.ofList <$>
    (multilineBasicText <|> basicText <|> multilineLiteralText <|> literalText)

end BeanContainer.Toml
