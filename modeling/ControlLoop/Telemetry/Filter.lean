import ControlLoop.Text.Blank
import ControlLoop.Text.Digits
import ControlLoop.Text.Letter
import ControlLoop.Text.Scan

/-!
# Filters of log entries

A filter is a list of directives between commas. A directive names a level, a target, a span in
brackets, or a target and span together with the level that they are logged at: `info`, `store`,
`[pass]`, `store[pass{kind}]=trace`. Only whether a filter is well formed is decided here.
-/

namespace ControlLoop.Telemetry

open Text Scan

inductive FilterError where
  | level
  | form
deriving DecidableEq

namespace FilterError

def message : FilterError → String
  | .level =>
    "error parsing level filter: expected one of \"off\", \"error\", \"warn\", \"info\", " ++
      "\"debug\", \"trace\", or a number 0-5"
  | .form => "invalid filter directive"

end FilterError

def levelNames : List String := ["off", "error", "warn", "info", "debug", "trace"]

/-- A level by its name in any case, or by its number, perhaps with a plus sign and zeros before. -/
def isLevel (text : List Char) : Bool :=
  let digits := if text.head? = some '+' then text.tail else text
  levelNames.contains (String.ofList (text.map Char.toLower)) ||
    (!digits.isEmpty && digits.all Char.isDigit && ofDigits 10 digits < levelNames.length)

/-- A name that stands for itself or, if it is the name of a level, for that level. -/
def name : Scan Unit := do
  let _ ← satisfy fun c ↦ c == '-' || c == ':' || c == '_' || isLetterOrDigit c
  skipWhile fun c ↦ c != '=' && c != '['

def fields : Scan Unit := do
  char '\x7b'
  let _ ← takeWhile1 (· != '\x7d')
  char '\x7d'

def span : Scan Unit := do
  char '['
  skipWhile fun c ↦ c != ']' && c != '\x7b'
  let _ ← maybe fields
  char ']'

/-- What a directive is about: a name, a span, or a name and then a span. -/
def subject : Scan Unit := name *> (maybe span *> pure ()) <|> span

/-- Blanks around a directive are dropped, except around one that ends in a level, which they make
invalid. No level after the equals sign means the most detailed one. -/
def checkDirective (text : List Char) : Except FilterError Unit :=
  let directive := trimBlanks text
  match subject directive with
  | some ((), []) => .ok ()
  | some ((), '=' :: level) =>
    if text = directive ∧ (level.isEmpty ∨ isLevel level) then .ok () else .error .level
  | _ => .error .form

/-- The first directive that is not well formed decides the error; empty ones are skipped. -/
def checkFilter (filter : String) : Except FilterError Unit :=
  ((filter.toList.splitOn ',').filter fun text ↦ !text.isEmpty).forM checkDirective

end ControlLoop.Telemetry
