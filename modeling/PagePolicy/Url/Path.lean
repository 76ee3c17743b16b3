import PagePolicy.Url.Percent

/-! Paths of URLs: segments between slashes, with the dot segments resolved. -/

namespace PagePolicy.Url

/-- How URLs of a scheme are read: files and the protocols of the web have rules of their own. -/
inductive SchemeKind where
  | file
  | web
  | other
  deriving DecidableEq, Repr

def SchemeKind.ofScheme (scheme : String) : SchemeKind :=
  if scheme = "file" then .file
  else if ["http", "https", "ws", "wss", "ftp"].contains scheme then .web
  else .other

/-- Special schemes take a backslash for a slash. -/
def SchemeKind.isSpecial : SchemeKind → Bool
  | .other => false
  | _ => true

def isSlash (kind : SchemeKind) (c : Char) : Bool :=
  c = '/' || (c = '\\' && kind.isSpecial)

def endsPath (c : Char) : Bool :=
  c = '?' || c = '#'

/-- The pieces of a text between slashes, at least one. -/
def splitAtSlashes (kind : SchemeKind) : List Char → List (List Char)
  | [] => [[]]
  | c :: s =>
    if isSlash kind c then [] :: splitAtSlashes kind s
    else match splitAtSlashes kind s with
      | [] => [[c]]
      | piece :: pieces => (c :: piece) :: pieces

/-- Whether a character means nothing anywhere in a URL, but for the gap that it leaves. -/
def isIgnored (c : Char) : Bool :=
  c = '\t' || c = '\n' || c = '\r'

def significant (s : List Char) : List Char :=
  s.filter (!isIgnored ·)

/-- A letter and a colon or a bar name a drive. -/
def isDrive : List Char → Bool
  | [letter, sign] => letter.isAlpha && (sign = ':' || sign = '|')
  | _ => false

def startsWithDrive (segment : List Char) : Bool :=
  isDrive (segment.take 2) && (segment.drop 2).head?.all (· = '\\')

/-- A letter and a colon, and then, after a gap, the rest of a piece. -/
def driveBeforeGap? (piece : List Char) : Option (List Char × List Char) :=
  match piece.dropWhile isIgnored with
  | letter :: rest =>
    match rest.dropWhile isIgnored with
    | ':' :: gap :: rest =>
      if letter.isAlpha ∧ isIgnored gap ∧ significant rest ≠ [] then
        some ([letter, ':'], significant rest)
      else none
    | _ => none
  | [] => none

/-- A dot, plain or encoded, at the start of a segment; the rest of the segment. -/
def afterDot? : List Char → Option (List Char)
  | '.' :: s => some s
  | '%' :: '2' :: 'e' :: s | '%' :: '2' :: 'E' :: s => some s
  | _ => none

def isSingleDot (segment : List Char) : Bool :=
  afterDot? segment = some []

def isDoubleDot (segment : List Char) : Bool :=
  (afterDot? segment).bind afterDot? = some []

/-- A place on a host: the directories and the file on the way to it, the last one first. -/
structure Place where
  host : List Char
  segments : List (List Char)

namespace Place

/-- The place above. A drive is never left. -/
def above (p : Place) : Place :=
  match p.segments with
  | [] => p
  | last :: before => if startsWithDrive last then p else { p with segments := before }

/-- Enters the segment that a piece between slashes writes. A drive at the top of a file's path has
a colon and needs no host. With a gap after it, it stands apart from the rest of its piece. -/
def enter (kind : SchemeKind) (p : Place) (piece : List Char) : Place :=
  let segment := encode pathSet (significant piece)
  if isDoubleDot segment then p.above
  else if isSingleDot segment then p
  else if kind = .file ∧ p.segments = [] then
    if isDrive segment then ⟨[], [segment.take 1 ++ [':']]⟩
    else match driveBeforeGap? piece with
      | some (drive, rest) => { p with segments := [encode pathSet rest, drive] }
      | none => { p with segments := [segment] }
  else { p with segments := segment :: p.segments }

/-- Follows pieces between slashes, with the dot segments resolved. A path that ends in a dot
segment ends in a slash. -/
def follow (kind : SchemeKind) (p : Place) : List (List Char) → Place
  | [] => p
  | [last] =>
    let entered := p.enter kind last
    let segment := encode pathSet (significant last)
    if isDoubleDot segment || isSingleDot segment then
      { entered with segments := [] :: entered.segments }
    else entered
  | piece :: pieces => (p.enter kind piece).follow kind pieces

/-- The place on a host to which the path leads that a text after the first slash writes. -/
def ofText (kind : SchemeKind) (host s : List Char) : Place :=
  follow kind ⟨host, []⟩ (splitAtSlashes kind (s.takeWhile (!endsPath ·)))

/-- The path to a place, with a slash before each segment. -/
def path (p : Place) : List Char :=
  p.segments.reverse.flatMap ('/' :: ·)

end Place

end PagePolicy.Url
