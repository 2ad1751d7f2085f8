import PageBuilder.CommandLine.PathName
import PageBuilder.Config
import PageBuilder.Text.DecimalDigit

/-! # Arguments

Reading a command line: options of the program, the name of a task, and the operand and the options
of that task in any order. An option is a name after two dashes, which may be cut short as long as
no other option begins the same way, with its value after an equals sign or in the next word. After
a word of two dashes every word is plain.

## Implementation notes

A request for help is read as an option and refused like a word that is not understood, since in
both cases nothing is carried out. -/

namespace PageBuilder

/-- What a word is among the options of a command. -/
inductive Word where
  | plain
  | option (name : String) (value : Option String)
  | refused
  deriving DecidableEq, Repr

namespace Word

/-- The option with a name that may be cut short. -/
def option? (names : List String) (name : String) : Option String :=
  if names.contains name then some name
  else
    match names.filter fun n => name.toList.isPrefixOf n.toList with
    | [one] => some one
    | _ => none

/-- Some option begins with a name. -/
def beginsOption (names : List String) (name : String) : Bool :=
  names.any fun n => name.toList.isPrefixOf n.toList

/-- A number after a minus sign, which is no option. -/
def isNumber (cs : List Char) : Bool :=
  let digits := fun (ds : List Char) => !ds.isEmpty && ds.all Text.isDecimalDigit
  let body := if cs.getLast? = some '\n' then cs.dropLast else cs
  match body.dropWhile Text.isDecimalDigit with
  | '.' :: fraction => digits fraction
  | _ => digits body

/-- The parts of a text before and after its first equals sign. -/
def splitEquals (cs : List Char) : String × Option String :=
  match cs.dropWhile (· != '=') with
  | '=' :: value => (String.ofList (cs.takeWhile (· != '=')), some (String.ofList value))
  | _ => (String.ofList cs, none)

/-- What a word is. An unknown option that has a space in it is plain. -/
def classify (options : List String) (word : String) : Word :=
  let names := "help" :: options
  match word.toList with
  | '-' :: '-' :: rest =>
    let (name, value) := splitEquals rest
    if beginsOption names name then
      match option? names name with
      | some found => if found = "help" then .refused else .option found value
      | none => .refused
    else if word.toList.contains ' ' then .plain
    else .refused
  | '-' :: c :: rest =>
    if c = 'h' then .refused
    else if isNumber (c :: rest) || (c :: rest).contains ' ' then .plain
    else .refused
  | _ => .plain

end Word

/-- Options with their values in the order given. -/
abbrev GivenOptions := List (String × String)

namespace GivenOptions

/-- The last value of an option. -/
def last? (given : GivenOptions) (name : String) : Option String :=
  given.reverse.lookup name

/-- All values of an option. -/
def all (given : GivenOptions) (name : String) : List String :=
  (given.filter fun e => e.1 == name).map Prod.snd

/-- Read options up to the first plain word: that word and the words after it. -/
def readFront (options : List String) : List String → Option (GivenOptions × String × List String)
  | [] => none
  | word :: rest =>
    if word = "--" then none
    else
      match Word.classify options word with
      | .refused => none
      | .plain => some ([], word, rest)
      | .option name (some value) =>
        (readFront options rest).map fun r => ((name, value) :: r.1, r.2)
      | .option name none =>
        match rest with
        | [] => none
        | value :: rest =>
          if value != "--" && Word.classify options value == .plain then
            (readFront options rest).map fun r => ((name, value) :: r.1, r.2)
          else none

/-- Read the words of a task: its options and its operand, which may have been read. Two dashes
stand next to the operand. -/
def readTask (options : List String) :
    Option String → Bool → List String → Option (GivenOptions × String)
  | operand, _, [] => operand.map fun o => ([], o)
  | operand, nextToOperand, word :: rest =>
    if word = "--" then
      match operand, rest with
      | none, [o] => some ([], o)
      | some o, [] => if nextToOperand then some ([], o) else none
      | _, _ => none
    else
      match Word.classify options word with
      | .refused => none
      | .plain => if operand.isNone then readTask options (some word) true rest else none
      | .option name (some value) =>
        (readTask options operand false rest).map fun r => ((name, value) :: r.1, r.2)
      | .option name none =>
        match rest with
        | [] => none
        | value :: rest =>
          if value != "--" && Word.classify options value == .plain then
            (readTask options operand false rest).map fun r => ((name, value) :: r.1, r.2)
          else none

end GivenOptions

/-- What is done with a document. -/
inductive Task where
  /-- Write it in the flattened format. -/
  | normalize (out : Option PathName)
  /-- Fill in fields, click buttons and show the page. -/
  | preview (page : Option String) (picture : Option PathName) (fills clicks : List String)
  /-- List its pages. -/
  | pages
  deriving DecidableEq, Repr

/-- A command line that is understood. -/
structure Invocation where
  config : Option PathName
  logLevel : Option LogLevel
  document : PathName
  task : Task
  deriving DecidableEq, Repr

namespace Invocation

/-- The names of the options of a task. -/
def taskOptions? : String → Option (List String)
  | "normalize" => some ["out"]
  | "preview" => some ["page", "png", "fill", "click"]
  | "pages" => some []
  | _ => none

/-- The task with some options. -/
def taskOf (name : String) (given : GivenOptions) : Task :=
  match name with
  | "normalize" => .normalize ((given.last? "out").map PathName.ofText)
  | "preview" =>
    .preview (given.last? "page") ((given.last? "png").map PathName.ofText) (given.all "fill")
      (given.all "click")
  | _ => .pages

/-- Read a command line. -/
def parse (words : List String) : Option Invocation := do
  let (front, name, rest) ← GivenOptions.readFront ["config", "log-level"] words
  let levels ← (front.all "log-level").mapM LogLevel.ofName?
  let (given, document) ← GivenOptions.readTask (← taskOptions? name) none false rest
  return {
    config := (front.last? "config").map PathName.ofText
    logLevel := levels.getLast?
    document := .ofText document
    task := taskOf name given }

end Invocation

end PageBuilder
