/-
This file holds the place where the settings file is looked for, and says which file a path leads
to.
-/

import BeanContainer.Text.Bytes

namespace BeanContainer

/-- A location need not be a text. -/
structure Location where
  bytes : ByteArray

namespace Location

def ofText (text : String) : Location := ⟨text.toUTF8⟩

def text (location : Location) : String := Text.shown location.bytes

/-- A location that is no text is the path of no settings file. -/
def path? (location : Location) : Option String := String.fromUTF8? location.bytes

/-- A part that stands for the directory it is in. -/
def staysInPlace (part : String) : Bool := part.isEmpty || part == "."

def fileParts (path : String) : List String :=
  (path.splitOn "/").filter fun part => !staysInPlace part

/-- Follows the parts of a path from a directory below the working directory. There is one file, and
there are the directories above it. A path that ends with a directory leads to no file. -/
def follow (file : List String) : List String → List String → Bool
  | _, [] => false
  | directory, part :: rest =>
      if staysInPlace part then follow file directory rest
      else if part == ".." then !directory.isEmpty && follow file directory.dropLast rest
      else
        let entered := directory ++ [part]
        if rest.isEmpty then entered == file
        else entered.isPrefixOf file && entered != file && follow file entered rest

/-- Whether the path leads from the working directory to the file. A path from the root directory
does not. -/
def leadsTo (path file : String) : Bool :=
  !path.startsWith "/" && follow (fileParts file) [] (path.splitOn "/")

end Location

end BeanContainer
