import PagePolicy.Regex.Parser
import PagePolicy.Regex.Search
import PagePolicy.Text.Search
import PagePolicy.Url.Parser

/-! Patterns in which a star stands for any text and all else for itself. -/

namespace PagePolicy

/-- A text as it was given and the URL that it writes, if it does. -/
structure Target where
  raw : String
  url : Option Url

def Target.ofText (raw : String) : Target :=
  ⟨raw, Url.parse raw⟩

/-- The characters that mean something in the text of a regular expression. -/
def Regex.signs : List Char :=
  ['\\', '.', '+', '*', '?', '(', ')', '|', '[', ']', '{', '}', '^', '$', '#', '&', '-', '~']

/-- A character as it stands for itself in the text of a regular expression. -/
def Regex.escapeChar (c : Char) : List Char :=
  if c ∈ signs then ['\\', c] else [c]

def Regex.escapeText (s : List Char) : List Char :=
  s.flatMap escapeChar

structure Glob where
  /-- The scheme that the URL must have. A star stands for any. -/
  scheme : Option String
  /-- What must match the host, the path and the query together. -/
  subject : Option Regex
  /-- What must occur in a text that is no URL. -/
  fallback : Option Regex

namespace Glob

/-- What stands between the scheme of a pattern and the rest. -/
def schemeMark : List Char := "://".toList

/-- The scheme of a pattern, if it has one, and the rest. -/
def splitScheme (s : List Char) : Option (List Char) × List Char :=
  match Text.splitAtFirst schemeMark s with
  | some (scheme, rest) => (some scheme, rest)
  | none => (none, s)

/-- What stands for a star in a host name. -/
def wildcardLetters : List Char := "sgwildcard".toList

/-- The form that a host has in a URL, with the stars it had. -/
def asciiHost (host : List Char) : Option (List Char) :=
  (Url.parse (String.ofList
    ("https://".toList ++ Text.replaceAll ['*'] wildcardLetters host ++ ['/']))).map fun u =>
    Text.replaceAll wildcardLetters ['*'] u.host.toList

/-- A pattern with its host in the form that hosts have in URLs. A pattern in ASCII, and one whose host
has no such form, stays as it is. -/
def normalize (s : List Char) : List Char :=
  if s.all (·.toNat < 0x80) then s
  else
    let (scheme, rest) := splitScheme s
    let host := rest.takeWhile (· ≠ '/')
    let path := rest.dropWhile (· ≠ '/')
    match asciiHost host with
    | none => s
    | some ascii =>
      match scheme with
      | some scheme => scheme ++ schemeMark ++ ascii ++ path
      | none => ascii ++ path

/-- The text of the regular expression for a glob: a star stands for any text without a line feed. -/
def regexText (s : List Char) : List Char :=
  ['.', '*'].intercalate ((List.splitOn '*' s).map Regex.escapeText)

/-- The text of the regular expression that a glob has to match from end to end. -/
def anchoredText (s : List Char) : List Char :=
  '^' :: regexText s ++ ['$']

def ofPattern (s : List Char) : Glob :=
  let (scheme, rest) := splitScheme (normalize s)
  { scheme := scheme.map String.ofList
    subject := Regex.parse {} (anchoredText rest)
    fallback := Regex.parse {} (regexText s) }

def allowsScheme (g : Glob) (scheme : String) : Bool :=
  g.scheme.all fun wanted => wanted = "*" || wanted = scheme

def accepts (g : Glob) (t : Target) : Bool :=
  match t.url with
  | some u => g.allowsScheme u.scheme && g.subject.any (·.occursIn u.subject.toList)
  | none => g.fallback.any (·.occursIn t.raw.toList)

end Glob

end PagePolicy
