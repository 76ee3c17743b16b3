import PagePolicy.Host.Address
import PagePolicy.Host.Domain
import PagePolicy.Url.Basic
import PagePolicy.Url.Path

/-! Absolute URLs written as text. -/

namespace PagePolicy.Url

/-! ### Hosts -/

def bracketHost (s : List Char) : Option (List Char) :=
  if s.getLast? = some ']' then
    (Host.readV6 s.dropLast).map fun pieces => ['['] ++ Host.showV6 pieces ++ [']']
  else none

/-- The host of a URL of a special scheme: an address or a domain name. -/
def specialHost (s : List Char) : Option (List Char) :=
  match s with
  | '[' :: rest => bracketHost rest
  | _ => do
    let domain ← Host.domainToAscii (← decode s)
    if domain = [] then none
    else if Host.endsInNumber domain then (Host.readV4 domain).map Host.showV4
    else some domain

def outsideHost : List Char :=
  ['\x00', '\t', '\n', '\r', ' ', '#', '/', ':', '<', '>', '?', '@', '[', '\\', ']', '^', '|']

/-- The host of a URL of any other scheme, which means nothing in particular. -/
def opaqueHost (s : List Char) : Option (List Char) :=
  match s with
  | '[' :: rest => bracketHost rest
  | _ => if s.any (outsideHost.contains ·) then none else some (encode [] s)

/-! ### Authorities -/

def endsAuthority (kind : SchemeKind) (c : Char) : Bool :=
  isSlash kind c || endsPath c

/-- The text of the host, up to a colon outside of brackets, and what follows it. -/
def splitHost (inBrackets : Bool) : List Char → List Char × List Char
  | [] => ([], [])
  | c :: s =>
    if c = ':' ∧ !inBrackets then ([], c :: s)
    else
      let (host, rest) := splitHost (c = '[' || (inBrackets && c != ']')) s
      (c :: host, rest)

def maxPortNumber : Nat := 65535

/-- Whether a text is a port number, or none. -/
def isPortNumber (s : List Char) : Bool :=
  s.all Char.isDigit && (Host.number? 10 s).all (· ≤ maxPortNumber)

/-- The host of an authority with a user and a port number, and what follows the authority. A user needs
a host, and so does a port number. -/
def readAuthority (kind : SchemeKind) (s : List Char) : Option (List Char × List Char) := do
  let authority := s.takeWhile (!endsAuthority kind ·)
  let rest := s.drop authority.length
  let (user, hostAndNumber) := match Text.splitAtLast '@' authority with
    | some (user, hostAndNumber) => (some user, hostAndNumber)
    | none => (none, authority)
  let (hostText, afterHost) := splitHost false hostAndNumber
  let (number, rest) := splitPortNumber kind afterHost rest
  if user = some [] ∧ hostAndNumber = [] ∧ rest ≠ [] then none
  else
    let host ← if kind.isSpecial then specialHost hostText else opaqueHost hostText
    if !isPortNumber number then none
    else if host = [] ∧ (afterHost ≠ [] ∨ user.any fun u => u ≠ [] ∧ u ≠ [':']) then none
    else some (host, rest)
where
  /-- The port number after the colon, and what follows it. A backslash ends it in any scheme. -/
  splitPortNumber (kind : SchemeKind) (afterHost rest : List Char) : List Char × List Char :=
    match afterHost with
    | ':' :: s =>
      if kind.isSpecial then (s, rest)
      else (s.takeWhile (· ≠ '\\'), s.dropWhile (· ≠ '\\') ++ rest)
    | _ => ([], rest)

/-! ### URLs -/

def queryIn (kind : SchemeKind) (s : List Char) : Option String :=
  match s.dropWhile (!endsPath ·) with
  | '?' :: rest =>
    let set := if kind.isSpecial then specialQuerySet else querySet
    some (String.ofList (encode set (significant (rest.takeWhile (· ≠ '#')))))
  | _ => none

/-- The URL with a host and a path, whose query follows the path at the start of `s`. -/
def withQuery (kind : SchemeKind) (scheme : String) (host path s : List Char) : Url :=
  ⟨scheme, String.ofList host, String.ofList path, queryIn kind s⟩

/-- The text after a slash, if one is next. -/
def afterSlash? (kind : SchemeKind) (s : List Char) : Option (List Char) :=
  match s.dropWhile isIgnored with
  | [] => none
  | c :: rest => if isSlash kind c then some rest else none

/-- A URL with an authority, the two slashes having been read. A URL of a special scheme has a path
in any case. -/
def readWithAuthority (kind : SchemeKind) (scheme : String) (s : List Char) : Option Url := do
  let (host, rest) ← readAuthority kind s
  let path :=
    if !kind.isSpecial && rest.head?.all endsPath then []
    else (Place.ofText kind host ((afterSlash? kind rest).getD rest)).path
  some (withQuery kind scheme host path rest)

/-- A URL of a scheme without rules of its own. Without a slash, its path has no segments. -/
def readOther (scheme : String) (s : List Char) : Option Url :=
  match s with
  | '/' :: '/' :: rest => readWithAuthority .other scheme rest
  | '/' :: rest => some (withQuery .other scheme [] (Place.ofText .other [] rest).path rest)
  | _ => some (withQuery .other scheme [] (encode [] (s.takeWhile (!endsPath ·))) s)

/-- The file on a host to which the path at the start of `s` leads. Slashes at the start count once. -/
def fileAt (host s : List Char) : Url :=
  let place := Place.ofText .file host s
  withQuery .file "file" place.host ('/' :: place.path.dropWhile (· = '/')) s

/-- A file on a host. A drive is no host, and this computer is the empty one. -/
def readFileHost (s : List Char) : Option Url :=
  let host := s.takeWhile (!endsAuthority .file ·)
  let rest := s.drop host.length
  if isDrive (significant host) then some (fileAt [] s)
  else if significant host = [] then some (fileAt [] rest)
  else do
    let host ← specialHost (significant host)
    if host = "localhost".toList then some (fileAt [] rest)
    else some (fileAt host ((afterSlash? .file rest).getD rest))

def readFile (s : List Char) : Option Url :=
  match afterSlash? .file s with
  | none => some (fileAt [] s)
  | some rest =>
    match afterSlash? .file rest with
    | none => some (fileAt [] rest)
    | some rest => readFileHost rest

/-- Whether a character can stand in a scheme after the first one. -/
def isSchemeChar (c : Char) : Bool :=
  c.isAlphanum || c = '+' || c = '-' || c = '.'

/-- The scheme of a URL, and what follows its colon. -/
def splitScheme (s : List Char) : Option (String × List Char) :=
  let start := s.takeWhile fun c => isSchemeChar c || isIgnored c
  let scheme := significant start
  match s.drop start.length with
  | ':' :: rest =>
    if scheme.head?.any Char.isAlpha then some (String.ofList (scheme.map Char.toLower), rest)
    else none
  | _ => none

/-- Whether a character is a control or a space, and means nothing around a URL. -/
def isControlOrSpace (c : Char) : Bool :=
  c.toNat ≤ 0x20

def trim (s : List Char) : List Char :=
  ((s.dropWhile isControlOrSpace).reverse.dropWhile isControlOrSpace).reverse

/-- The URL that a text writes. Characters that mean nothing leave a gap only in paths of files. -/
def parse (text : String) : Option Url := do
  let (scheme, rest) ← splitScheme (trim text.toList)
  let kind := SchemeKind.ofScheme scheme
  match kind with
  | .file => readFile rest
  | .web => readWithAuthority kind scheme ((significant rest).dropWhile (isSlash kind))
  | .other => readOther scheme (significant rest)

end PagePolicy.Url
