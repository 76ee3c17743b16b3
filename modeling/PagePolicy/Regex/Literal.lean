import PagePolicy.Regex.Flags
import PagePolicy.Regex.Parser
import PagePolicy.Regex.Search
import PagePolicy.Text.Quoted

/-! Regular expressions between slashes, with flags. -/

namespace PagePolicy.Regex

/-- The text between the slashes and the flags after them. -/
structure Literal where
  body : String
  flags : String
  deriving DecidableEq, Repr

/-- What is left to the engine that matches regular expressions: which texts, read in which mode, it
can compile within its limit on sizes, and how it reports on a text that it refuses. -/
class Engine where
  fits : Mode → List Char → Bool
  report : Mode → List Char → String

/-- An engine without a limit on sizes. -/
instance Engine.withoutLimit : Engine where
  fits _ _ := true
  report _ _ := "regex parse error:"

inductive Error where
  | flags (e : Flags.Error)
  | malformed {report : String}
  deriving DecidableEq, Repr

def Error.message : Error → String
  | flags (.invalid c) => s!"invalid regex flag {Text.quotedChar c}"
  | flags (.duplicate c) => s!"duplicate regex flag {Text.quotedChar c}"
  | flags .conflicting => "regex flags 'u' and 'v' cannot be combined"
  | @malformed report => report

namespace Literal

/-- A text that starts with a slash and has another one. The last slash ends the body. -/
def parse (text : String) : Option Literal :=
  match text.toList with
  | '/' :: rest =>
    (Text.splitAtLast '/' rest).map fun (body, flags) =>
      ⟨String.ofList body, String.ofList flags⟩
  | _ => none

/-- The text that is read as a regular expression: a sticky one begins where the text begins. -/
def source (body : List Char) (flags : Flags) : List Char :=
  if flags.contains .sticky then "\\A(?:".toList ++ body ++ [')'] else body

def mode (flags : Flags) : Mode :=
  { ignoreCase := flags.contains .ignoreCase
    multiLine := flags.contains .multiLine
    dotAll := flags.contains .dotAll }

def compile [Engine] (l : Literal) : Except Error Regex :=
  match Flags.parse l.flags with
  | .error e => .error (.flags e)
  | .ok flags =>
    let text := source l.body.toList flags
    match Regex.parse (mode flags) text, Engine.fits (mode flags) text with
    | some a, true => .ok a
    | _, _ => .error (@Error.malformed (Engine.report (mode flags) text))

end Literal

end PagePolicy.Regex
