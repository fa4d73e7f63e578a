import ThemeSwitch.Environment.Line

/-! # Environment files

The lines of a file are carried out in order, each in the environment that those before it left.
A variable that is set already, to a value that is text, stays as it is. The first line that is bad
or is not UTF-8 ends the reading. -/
namespace ThemeSwitch.Environment

/-- The environment after a line. -/
def obey (env : Environment) : Line → Environment
  | .skipped => env
  | .binding key value =>
    if (env.text? key).isSome then env else env.set key (expand env value)

/-- What a line of bytes does, if it is text and good. -/
def decodeLine? (line : List UInt8) : Option Line :=
  (String.fromUTF8? ⟨line.toArray⟩).bind fun text => Line.parse? text.toList

/-- The environment after the lines up to the first bad one. -/
def obeyLines (env : Environment) : List (List UInt8) → Environment
  | [] => env
  | line :: lines =>
    match decodeLine? line with
    | some line => obeyLines (env.obey line) lines
    | none => env

/-- The lines of a file, between the newlines. -/
def fileLines (content : ByteArray) : List (List UInt8) := content.data.toList.splitOn 0x0A

/-- The environment after a file, if there is one. -/
def load (env : Environment) : Option ByteArray → Environment
  | some content => env.obeyLines (fileLines content)
  | none => env

/-- The variables that a file can set or use. -/
def fileNames (content : ByteArray) : List String :=
  ((fileLines content).filterMap decodeLine?).flatMap Line.names

end ThemeSwitch.Environment
