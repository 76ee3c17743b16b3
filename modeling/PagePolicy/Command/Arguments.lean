import PagePolicy.Command.Basic
import PagePolicy.Text.Search

/-! The arguments of the program. -/

namespace PagePolicy.Command

/-- Why arguments ask for no command: they ask for help, or they are wrong. -/
inductive Usage where
  | help
  | wrong
  deriving DecidableEq, Repr

inductive Kind where
  | check
  | lint
  | dump
  deriving DecidableEq, Repr

def Kind.ofName? : String → Option Kind
  | "check" => some .check
  | "lint" => some .lint
  | "dump" => some .dump
  | _ => none

inductive Setting where
  | rules
  | title
  | property
  | json
  | verbose
  | help
  deriving DecidableEq, Repr

def Setting.hasValue : Setting → Bool
  | rules | title | property => true
  | json | verbose | help => false

def Kind.settings : Kind → List Setting
  | check => [.rules, .title, .property, .json, .verbose, .help]
  | lint | dump => [.rules, .help]

def Setting.name : Setting → String
  | rules => "rules"
  | title => "title"
  | property => "prop"
  | json => "json"
  | verbose => "verbose"
  | help => "help"

def Setting.letter : Setting → Option Char
  | rules => some 'r'
  | title => some 't'
  | property => some 'p'
  | json => none
  | verbose => some 'v'
  | help => some 'h'

/-- What has been read of the arguments of a command. -/
structure Arguments where
  rules : Option String
  title : Option String
  properties : List (String × String)
  json : Bool
  verbose : Bool
  urls : List String

namespace Arguments

def none : Arguments :=
  ⟨Option.none, Option.none, [], false, false, []⟩

/-- The name and the value of a property. The name is not empty. -/
def splitProperty (text : String) : Option (String × String) :=
  match Text.splitAtFirst ['='] text.toList with
  | some (c :: name, value) => some (String.ofList (c :: name), String.ofList value)
  | _ => Option.none

/-- Sets an option with a value. All but properties are set once at most. -/
def setValue (a : Arguments) (value : String) : Setting → Except Usage Arguments
  | .rules => if a.rules.isSome then .error .wrong else .ok { a with rules := some value }
  | .title => if a.title.isSome then .error .wrong else .ok { a with title := some value }
  | .property =>
    match splitProperty value with
    | some property => .ok { a with properties := a.properties ++ [property] }
    | Option.none => .error .wrong
  | _ => .error .wrong

def setFlag (a : Arguments) : Setting → Except Usage Arguments
  | .json => if a.json then .error .wrong else .ok { a with json := true }
  | .verbose => if a.verbose then .error .wrong else .ok { a with verbose := true }
  | .help => .error .help
  | _ => .error .wrong

/-- Adds a URL. Only checks have any. -/
def addUrl (a : Arguments) (url : String) : Kind → Except Usage Arguments
  | .check => .ok { a with urls := a.urls ++ [url] }
  | _ => .error .wrong

/-- Reads the letters of an argument after its hyphen. An option that has a value takes what follows its
letter, and waits for the next argument if nothing does. -/
def readLetters (kind : Kind) (a : Arguments) :
    List Char → Except Usage (Arguments × Option Setting)
  | [] => .ok (a, Option.none)
  | c :: s =>
    match kind.settings.find? (·.letter = some c) with
    | Option.none => .error .wrong
    | some setting =>
      if setting.hasValue then
        match s with
        | [] => .ok (a, some setting)
        | '=' :: value => (a.setValue (String.ofList value) setting).map (·, Option.none)
        | value => (a.setValue (String.ofList value) setting).map (·, Option.none)
      else
        match a.setFlag setting with
        | .error e => .error e
        | .ok a => readLetters kind a s

def readName (kind : Kind) (a : Arguments) (s : List Char) :
    Except Usage (Arguments × Option Setting) :=
  let name := s.takeWhile (· ≠ '=')
  match kind.settings.find? (·.name.toList = name), s.drop name.length with
  | Option.none, _ => .error .wrong
  | some setting, [] =>
    if setting.hasValue then .ok (a, some setting)
    else (a.setFlag setting).map (·, Option.none)
  | some setting, _ :: value =>
    if setting.hasValue then (a.setValue (String.ofList value) setting).map (·, Option.none)
    else .error .wrong

/-- Reads the arguments of a command. An option may wait for its value, which does not start with a
hyphen unless it is nothing else. After two hyphens alone there are only URLs. -/
def read (kind : Kind) (a : Arguments) (waiting : Option Setting) :
    List String → Except Usage Arguments
  | [] => if waiting.isSome then .error .wrong else .ok a
  | arg :: rest =>
    match waiting, arg.toList with
    | some _, '-' :: _ :: _ => .error .wrong
    | some setting, _ => do
      let a ← a.setValue arg setting
      read kind a Option.none rest
    | Option.none, ['-', '-'] => rest.foldlM (fun a url => a.addUrl url kind) a
    | Option.none, '-' :: '-' :: name => do
      let (a, waiting) ← readName kind a name
      read kind a waiting rest
    | Option.none, '-' :: c :: letters => do
      let (a, waiting) ← readLetters kind a (c :: letters)
      read kind a waiting rest
    | Option.none, _ => do
      let a ← a.addUrl arg kind
      read kind a Option.none rest

/-- The command that the arguments ask for, if they say all that is needed. -/
def command (a : Arguments) (kind : Kind) : Except Usage Command :=
  match kind, a.rules, a.urls with
  | .check, some rules, url :: urls =>
    .ok (.check ⟨rules, a.title, a.properties, a.json, a.verbose, url :: urls⟩)
  | .lint, some rules, _ => .ok (.lint rules)
  | .dump, some rules, _ => .ok (.dump rules)
  | _, _, _ => .error .wrong

end Arguments

/-- Whether there is help on what arguments name: nothing, a command, or help itself. -/
def isHelpTopic : List String → Bool
  | [] => true
  | [name] => (Kind.ofName? name).isSome || name = "help"
  | _ => false

def ofArguments : List String → Except Usage Command
  | [] => .error .wrong
  | name :: args =>
    match Kind.ofName? name with
    | some kind => do
      let a ← Arguments.none.read kind Option.none args
      a.command kind
    | none =>
      let asksForHelp := name = "--help" || "-h".isPrefixOf name || name = "help" && isHelpTopic args
      .error (if asksForHelp then .help else .wrong)

def usage : List String :=
  ["Usage:",
    "  check --rules FILE [--title TITLE] [--prop KEY=VALUE]... [--json] [--verbose] URL...",
    "  lint --rules FILE",
    "  dump --rules FILE"]

end PagePolicy.Command
