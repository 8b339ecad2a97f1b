import TicketKeeper.Number.Integer

/-! Options of the command line. An option is given by its name or by any beginning of it that no
other option shares; its value is the next argument or stands behind an equals sign. -/
namespace TicketKeeper.CommandLine

open TicketKeeper.Text

inductive OptionName
  | job
  | buildNumber
  | buildUrl
  | rootUrl
  | result
  | previousResult
  | projectKey
  | testDescription
  | assignee
  | components
  | store
  | storeDir
deriving DecidableEq, Repr

namespace OptionName

def flag : OptionName → String
  | job => "--job"
  | buildNumber => "--build-number"
  | buildUrl => "--build-url"
  | rootUrl => "--root-url"
  | result => "--result"
  | previousResult => "--previous-result"
  | projectKey => "--project-key"
  | testDescription => "--test-description"
  | assignee => "--assignee"
  | components => "--components"
  | store => "--store"
  | storeDir => "--store-dir"

def all : List OptionName := [
  job, buildNumber, buildUrl, rootUrl, result, previousResult, projectKey, testDescription,
  assignee, components, store, storeDir]

end OptionName

inductive Wish
  | help
  | value (o : OptionName)
deriving DecidableEq, Repr

def flags : List (List Char × Wish) :=
  [("-h".toList, .help), ("--help".toList, .help)] ++
    OptionName.all.map fun o => (o.flag.toList, .value o)

inductive Refusal
  | help
  | usage
deriving DecidableEq, Repr

inductive Attached
  | value (text : List Char)
  | letters (text : List Char)
deriving DecidableEq, Repr

namespace Attached

def text : Attached → List Char
  | value cs | letters cs => cs

/-- What stands behind the equals sign of a flag. One dash makes it letters all the same. -/
def behind (name text : List Char) : Attached :=
  if ['-', '-'].isPrefixOf name then .value text else .letters text

end Attached

inductive Argument
  | operand (text : List Char)
  | flag (wish : Wish) (attached : Option Attached)
  | unknownFlag
  /-- Two dashes alone: all that follows are operands. -/
  | separator
deriving DecidableEq, Repr

private def isDigits (s : List Char) : Bool := s.all fun c => (digitValue? c).isSome

def isNegativeNumber (s : List Char) : Bool :=
  let s := if s.getLast? = some '\n' then s.dropLast else s
  match s with
  | '-' :: r => match cutAt '.' r with
    | (whole, none) => !whole.isEmpty && isDigits whole
    | (whole, some fraction) => isDigits whole && !fraction.isEmpty && isDigits fraction
  | _ => false

/-- The flags that the argument may mean: those that begin with it, and for one dash also the flag
of its first letter with the rest attached. -/
def candidates (s : List Char) : List Argument :=
  match s with
  | '-' :: '-' :: _ =>
    let (name, attached) := cutAt '=' s
    (flags.filter fun f => name.isPrefixOf f.1).map fun f => .flag f.2 (attached.map .value)
  | _ => flags.filterMap fun f =>
    if f.1 = s.take 2 then some (.flag f.2 (some (.letters (s.drop 2))))
    else if s.isPrefixOf f.1 then some (.flag f.2 none)
    else none

def classify (s : List Char) : Except Refusal Argument :=
  if s.head? != some '-' then .ok (.operand s)
  else match flags.lookup s with
    | some wish => .ok (.flag wish none)
    | none =>
      if s.length = 1 then .ok (.operand s)
      else match flags.lookup (cutAt '=' s).1, (cutAt '=' s).2 with
        | some wish, some text => .ok (.flag wish (some (.behind (cutAt '=' s).1 text)))
        | _, _ => match candidates s with
          | [a] => .ok a
          | _ :: _ :: _ => .error .usage
          | [] =>
            .ok (if isNegativeNumber s || s.contains ' ' then .operand s else .unknownFlag)

def classifyAll : List String → Except Refusal (List Argument)
  | [] => .ok []
  | s :: r =>
    if s = "--" then .ok (.separator :: r.map fun s => .operand s.toList)
    else do return (← classify s.toList) :: (← classifyAll r)

abbrev Values := List (OptionName × Option String)

/-- Takes a value, if it is one that the option can have. Where two dashes are dropped no option
looks at them. -/
def accept (dropsDashes : Bool) (o : OptionName) (value : List Char) (values : Values) :
    Except Refusal Values :=
  let taken : Values := (o, some (String.ofList value)) :: values
  if dropsDashes && value == "--".toList then .ok ((o, none) :: values)
  else match o with
  | .buildNumber => if (Number.numeral? value).isSome then .ok taken else .error .usage
  | .store =>
    if value = "database".toList ∨ value = "file".toList then .ok taken else .error .usage
  | _ => .ok taken

/-- One dash and a row of letters asks for each of them in turn; a name that takes no value has
nothing attached. -/
def helpRefusal : Option Attached → Refusal
  | none => .help
  | some (.letters cs) => if !cs.isEmpty && cs.all (· == 'h') then .help else .usage
  | some (.value _) => .usage

def take (dropsDashes leftOver : Bool) (values : Values) : List Argument → Except Refusal Values
  | [] => if leftOver then .error .usage else .ok values
  | .flag .help attached :: _ => .error (helpRefusal attached)
  | .flag (.value o) (some v) :: r => do
    take dropsDashes leftOver (← accept dropsDashes o v.text values) r
  | .flag (.value o) none :: .operand v :: r => do
    take dropsDashes leftOver (← accept dropsDashes o v values) r
  | .flag (.value _) none :: _ => .error .usage
  | _ :: r => take dropsDashes true values r

def parse (args : List String) (dropsDashes : Bool := true) : Except Refusal Values := do
  let values ← take dropsDashes false [] (← classifyAll args)
  if (values.lookup .result).isNone then .error .usage else .ok values

end TicketKeeper.CommandLine
