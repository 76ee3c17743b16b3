import PagePolicy.Host.Label
import PagePolicy.Text.Search

/-! Domain names and their form in ASCII. -/

namespace PagePolicy.Host

/-- What a character of a domain name is replaced by. Some characters no domain name holds. -/
def replaceChar (c : Char) : Option (List Char) :=
  if c.toNat < 0x80 then some [c.toLower]
  else if Unicode.keptInHost.contains c then some [c]
  else if Unicode.droppedInHost.contains c then some []
  else (Unicode.replacedInHost.image? c.toNat).map (·.map Char.ofNat)

/-- The labels of a domain name, between its dots. -/
def labels (s : List Char) : Option (List Label) := do
  let replaced ← s.mapM replaceChar
  (List.splitOn '.' (Unicode.normalize replaced.flatten)).mapM Label.ofText?

/-- The form of a domain name in ASCII. Where one label runs leftward, all must be well directed. -/
def domainToAscii (s : List Char) : Option (List Char) := do
  let labels ← labels s
  if labels.any (runsLeftward ·.text) && !labels.all (wellDirected ·.text) then none
  else some (['.'].intercalate (labels.map Label.ascii))

end PagePolicy.Host
