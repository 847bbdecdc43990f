import DocumentQuery.Text.Bytes

/-!
# Files as text

What is found where a file is looked for. The text of a file is the one whose UTF-8 form its bytes
are.

* `readBytes`, `readFile` : the text of bytes, and of what is found.
-/

namespace DocumentQuery.Text

/-- What is found at a path. -/
inductive File where
  | absent
  | directory
  | regular (bytes : Bytes)
  deriving DecidableEq, Repr

/-- Why there is no text. -/
inductive ReadError where
  | notFound
  | isDirectory
  | notText
  deriving DecidableEq, Repr

def ReadError.message : ReadError → String
  | notFound => "No such file or directory (os error 2)"
  | isDirectory => "Is a directory (os error 21)"
  | notText => "stream did not contain valid UTF-8"

/-- The text of some bytes. -/
def readBytes (bytes : Bytes) : Except ReadError String :=
  match ofBytes? bytes with
  | some text => .ok text
  | none => .error .notText

/-- The text of a file. -/
def readFile : File → Except ReadError String
  | .absent => .error .notFound
  | .directory => .error .isDirectory
  | .regular bytes => readBytes bytes

end DocumentQuery.Text
