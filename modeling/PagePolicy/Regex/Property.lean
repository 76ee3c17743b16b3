import PagePolicy.Regex.CharClass
import PagePolicy.Unicode.Age
import PagePolicy.Unicode.Boundary
import PagePolicy.Unicode.Script

/-! Classes of characters named by the properties of their code points. -/

namespace PagePolicy.CharClass

/-- A name without blanks, separators, capitals and a leading `is`. The name `isc` keeps its `is`. -/
def looseName (name : List Char) : String :=
  let lower := name.map Char.toLower
  let plain (s : List Char) :=
    String.ofList (s.filter fun c => c.toNat < 0x80 && c != ' ' && c != '_' && c != '-')
  match lower with
  | 'i' :: 's' :: rest => if plain rest = "c" then "isc" else plain rest
  | _ => plain lower

def ofCategories (ks : List Unicode.Category) : CharClass :=
  ks.foldl (fun a k => union a (table k.table)) none

/-- The names of each general category and each group of general categories. -/
def categoryNames : List (List String × List Unicode.Category) :=
  let cased := [.uppercaseLetter, .lowercaseLetter, .titlecaseLetter]
  let letters := cased ++ [.modifierLetter, .otherLetter]
  let marks := [.nonspacingMark, .spacingMark, .enclosingMark]
  let numbers := [.decimalNumber, .letterNumber, .otherNumber]
  let punctuation := [.connectorPunctuation, .dashPunctuation, .openPunctuation, .closePunctuation,
    .initialPunctuation, .finalPunctuation, .otherPunctuation]
  let symbols := [.mathSymbol, .currencySymbol, .modifierSymbol, .otherSymbol]
  let separators := [.spaceSeparator, .lineSeparator, .paragraphSeparator]
  [(["l", "letter"], letters),
   (["lc", "casedletter"], cased),
   (["lu", "uppercaseletter"], [.uppercaseLetter]),
   (["ll", "lowercaseletter"], [.lowercaseLetter]),
   (["lt", "titlecaseletter"], [.titlecaseLetter]),
   (["lm", "modifierletter"], [.modifierLetter]),
   (["lo", "otherletter"], [.otherLetter]),
   (["m", "mark", "combiningmark"], marks),
   (["mn", "nonspacingmark"], [.nonspacingMark]),
   (["mc", "spacingmark"], [.spacingMark]),
   (["me", "enclosingmark"], [.enclosingMark]),
   (["n", "number"], numbers),
   (["nd", "decimalnumber", "digit"], [.decimalNumber]),
   (["nl", "letternumber"], [.letterNumber]),
   (["no", "othernumber"], [.otherNumber]),
   (["p", "punctuation", "punct"], punctuation),
   (["pc", "connectorpunctuation"], [.connectorPunctuation]),
   (["pd", "dashpunctuation"], [.dashPunctuation]),
   (["ps", "openpunctuation"], [.openPunctuation]),
   (["pe", "closepunctuation"], [.closePunctuation]),
   (["pi", "initialpunctuation"], [.initialPunctuation]),
   (["pf", "finalpunctuation"], [.finalPunctuation]),
   (["po", "otherpunctuation"], [.otherPunctuation]),
   (["s", "symbol"], symbols),
   (["sm", "mathsymbol"], [.mathSymbol]),
   (["sc", "currencysymbol"], [.currencySymbol]),
   (["sk", "modifiersymbol"], [.modifierSymbol]),
   (["so", "othersymbol"], [.otherSymbol]),
   (["z", "separator"], separators),
   (["zs", "spaceseparator"], [.spaceSeparator]),
   (["zl", "lineseparator"], [.lineSeparator]),
   (["zp", "paragraphseparator"], [.paragraphSeparator]),
   (["cc", "control", "cntrl"], [.control]),
   (["cf", "format"], [.format]),
   (["co", "privateuse"], [.privateUse])]

def assigned : CharClass := ofCategories Unicode.Category.all

def ofCategory? (name : String) : Option CharClass :=
  match name with
  | "any" => some all
  | "assigned" => some assigned
  | "ascii" => some (ranges [('\x00', '\x7F')])
  | "cn" | "unassigned" => some (complement assigned)
  | "c" | "other" =>
    some (union (complement assigned) (ofCategories [.control, .format, .privateUse]))
  | _ => (categoryNames.find? (·.1.contains name)).map fun (_, ks) => ofCategories ks

def ofScript? (name : String) : Option CharClass :=
  (Unicode.scripts.find? (·.names.contains name)).map fun s => table s.members

def ofScriptUse? (name : String) : Option CharClass :=
  (Unicode.scripts.find? (·.names.contains name)).map fun s => table s.used

def ofTables? (tables : List Unicode.NamedTable) (name : String) : Option CharClass :=
  (tables.find? (·.names.contains name)).map fun t => table t.table

/-- The class of the characters that were assigned in a version of Unicode or before it. -/
def ofAge? (name : String) : Option CharClass :=
  let before := Unicode.ages.takeWhile (!·.names.contains name)
  (Unicode.ages[before.length]?).map fun version =>
    before.foldl (fun a t => union a (table t.table)) (table version.table)

/-- The class that a single name stands for: a binary property, a category or a script. -/
def ofName? (name : List Char) : Option CharClass :=
  let name := looseName name
  ofTables? Unicode.binaryProperties name <|> ofCategory? name <|> ofScript? name

def ofValue? (property value : List Char) : Option CharClass :=
  let value := looseName value
  match looseName property with
  | "gc" | "generalcategory" => ofCategory? value
  | "sc" | "script" => ofScript? value
  | "scx" | "scriptextensions" => ofScriptUse? value
  | "age" => ofAge? value
  | "gcb" | "graphemeclusterbreak" => ofTables? Unicode.graphemeBreaks value
  | "wb" | "wordbreak" => ofTables? Unicode.wordBreaks value
  | "sb" | "sentencebreak" => ofTables? Unicode.sentenceBreaks value
  | _ => Option.none

end PagePolicy.CharClass
