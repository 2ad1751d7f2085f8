import PageBuilder.Advice.Preview
import PageBuilder.Advice.Reading
import PageBuilder.CommandLine.Arguments
import PageBuilder.CommandLine.Folder
import PageBuilder.ConfigFile
import PageBuilder.Drawing.Plain
import PageBuilder.Outline

/-! # Running a command line

What a command line does is worked out from the files that it finds, and given as a report: nothing
is printed or written by it. `Folder.carryOut` writes what a report asks for. Settings are loaded
before the document is; a document that cannot be imported ends the run with a status of its own. -/

namespace PageBuilder

/-- How a run ends. -/
inductive Exit where
  | status (code : Nat)
  /-- The command line is not understood. -/
  | refused
  /-- The run stops with a message. -/
  | stopped (message : String)
  deriving DecidableEq, Repr

/-- What a run does. -/
structure Report where
  exit : Exit
  output : String := ""
  complaint : String := ""
  written : List (PathName × String) := []
  /-- Where a picture goes, and the calls that draw it. It is painted once it has a directory. -/
  picture : Option (PathName × Except PaintError (List DrawCall)) := none
  advice : List Advice := []
  logLevel : LogLevel := .warning

/-- Why a run breaks off. -/
inductive RunError where
  | config (error : ConfigFileError)
  | file (fault : FileFault)
  | number (error : NumberError)
  | paint (error : PaintError)
  /-- A text goes beyond a limit of the reader. -/
  | overrun (limit : Json.Overrun)
  deriving DecidableEq, Repr

/-- The status of a run whose document is not imported. -/
def importFailed : Nat := 2

/-- The settings of a run. A settings file that is not there is left out. -/
def Invocation.loadConfig (look : Look) (i : Invocation) : Except RunError Config :=
  match i.config with
  | none => .ok {}
  | some path =>
    match look.read path with
    | .error fault => if fault.isAbsence then .ok {} else .error (.file fault)
    | .ok bytes => (Config.ofFileBytes bytes).mapError .config

/-- A text filled up with spaces to a width. -/
def padTo (width : Nat) (s : String) : String :=
  s ++ String.ofList (List.replicate (width - s.length) ' ')

/-- The line of a page in the list of pages. -/
def pageLine (initial : String) (p : Page) : String :=
  (if p.id = initial then "*" else " ") ++ " " ++ padTo 20 p.id ++
    " order=" ++ padTo 3 (Numeral.text p.order) ++
    " components=" ++ padTo 3 (Numeral.text p.components.length) ++ " " ++ p.title ++ "\n"

/-- The list of the pages of an imported document, by their order. -/
def Imported.pageList (d : Imported) : String :=
  let pages := d.document.pages.mergeSort fun p q => p.order ≤ q.order
  String.join (pages.map (pageLine d.initialPageId))

/-- A preview that is carried out, with what was said so far. -/
structure Replay where
  session : Session
  advice : List Advice := []

/-- Why a preview is not carried out. -/
inductive ReplayStop where
  | notAFill (entry : String) (advice : List Advice)
  | number (error : NumberError)
  | overrun (limit : Json.Overrun)

namespace Replay

variable [Json.Limits]

/-- Go on with a session after some advice. -/
def goOn (r : Replay) (session : Session) (advice : List Advice) : Replay :=
  ⟨session, r.advice ++ advice⟩

/-- Type a value, given as the id of an input and the value with an equals sign between them. -/
def fill (r : Replay) (entry : String) : Except ReplayStop Replay :=
  match Word.splitEquals entry.toList with
  | (_, none) => .error (.notAFill entry r.advice)
  | (id, some value) =>
    match r.session.change id value with
    | .error e => .error (.number e)
    | .ok (done, next) =>
      let missed := if done then [] else [.noInput id next.history.current]
      .ok (r.goOn next (r.session.advice (.change id value) ++ missed))

/-- Click a button. -/
def click (r : Replay) (id : String) : Except ReplayStop Replay :=
  match r.session.click id with
  | .error (.fault e) => .error (.number e)
  | .error (.overrun limit) => .error (.overrun limit)
  | .ok (outcome, next) =>
    let missed := if outcome.isSome then [] else [.noEffect id next.history.current]
    .ok (r.goOn next (r.session.advice (.click id) ++ missed))

/-- Show the page. -/
def page (r : Replay) : Except ReplayStop (Node × Replay) :=
  match r.session.refresh.view.render with
  | .error e => .error (.number e)
  | .ok root => .ok (root, r.goOn r.session.refresh (r.session.advice .render))

/-- Fill in fields, then click buttons, then show the page. -/
def play (r : Replay) (fills clicks : List String) : Except ReplayStop (Node × Replay) := do
  (← clicks.foldlM click (← fills.foldlM fill r)).page

/-- The text about a preview: where it went, what it was told, and the page on show. -/
def text (r : Replay) (root : Node) : String :=
  let notes := r.session.notifications.map fun n =>
    "[" ++ n.level.name ++ "] " ++ n.message ++ "\n"
  "history: " ++ " > ".intercalate r.session.history.toList ++ "\n" ++ String.join notes ++
    Outline.text {} root

end Replay

/-- The message about a fill without an equals sign. -/
def notAFillMessage (entry : String) : String :=
  "--fill expects ID=VALUE, got " ++ String.ofList (Text.literal entry)

variable [Json.Limits]

/-- The report on a preview of a document. -/
def runPreview (config : Config) (d : Document) (page : Option String) (picture : Option PathName)
    (fills clicks : List String) : Except RunError Report :=
  match Replay.play ⟨Session.start d page config, []⟩ fills clicks with
  | .error (.number e) => .error (.number e)
  | .error (.overrun limit) => .error (.overrun limit)
  | .error (.notAFill entry advice) =>
    .ok { exit := .stopped (notAFillMessage entry), advice }
  | .ok (root, r) =>
    let wrote := picture.elim "" fun path => "wrote " ++ path.text ++ "\n"
    .ok {
      exit := .status 0
      output := r.text root ++ wrote
      picture := picture.map fun path => (path, Painter.picture config root)
      advice := r.advice }

/-- The report on a task with an imported document. -/
def Task.run (config : Config) (d : Imported) : Task → Except RunError Report
  | .normalize none => .ok { exit := .status 0, output := d.document.exportText ++ "\n" }
  | .normalize (some out) => .ok {
      exit := .status 0
      output := "wrote " ++ out.text ++ " (" ++ d.format.name ++ " -> flattened)\n"
      written := [(out, d.document.exportText ++ "\n")] }
  | .preview page picture fills clicks => runPreview config d.document page picture fills clicks
  | .pages => .ok { exit := .status 0, output := d.pageList }

namespace Invocation

/-- The report on a document that is not imported. -/
def refuseDocument (reason : String) (advice : List Advice) : Report :=
  { exit := .status importFailed, complaint := "import failed: " ++ reason ++ "\n", advice }

/-- Import the document and go on with the task. -/
def runTask (look : Look) (config : Config) (i : Invocation) : Except RunError Report :=
  match look.read i.document with
  | .error fault =>
    match fault.message? i.document with
    | some message => .ok (refuseDocument message [])
    | none => .error (.file fault)
  | .ok bytes =>
    let source := Incoming.bytes bytes
    match source.read with
    | .error (.fault e) => .ok (refuseDocument e.reason source.advice)
    | .error (.overrun limit) => .error (.overrun limit)
    | .ok d =>
      (i.task.run config d).map fun report =>
        { report with advice := source.advice ++ report.advice }

/-- The report on a command line that is understood. -/
def run (look : Look) (i : Invocation) : Except RunError Report :=
  match i.loadConfig look with
  | .error e => .error e
  | .ok config =>
    (i.runTask look config).map fun report =>
      { report with logLevel := i.logLevel.getD config.logLevel }

end Invocation

/-- The report on a command line. -/
def runCommandLine (look : Look) (words : List String) : Except RunError Report :=
  match Invocation.parse words with
  | none => .ok { exit := .refused }
  | some i => i.run look

namespace Folder

/-- Write the files of a report. -/
def writeFiles (f : Folder) : List (PathName × String) → Except RunError Folder
  | [] => .ok f
  | (path, text) :: rest =>
    match f.write path text.toUTF8.toList with
    | .error fault => .error (.file fault)
    | .ok g => g.writeFiles rest

/-- Make room for a picture and see that it can be painted. -/
def prepare (f : Folder) (path : PathName) (painted : Except PaintError (List DrawCall)) :
    Except RunError Folder :=
  match f.makeParent path, painted with
  | .error fault, _ => .error (.file fault)
  | .ok _, .error e => .error (.paint e)
  | .ok g, .ok _ => .ok g

/-- Write what a report asks for. -/
def carryOut (f : Folder) (report : Report) : Except RunError Folder :=
  match f.writeFiles report.written, report.picture with
  | .ok g, some (path, painted) => g.prepare path painted
  | result, _ => result

/-- Run a command line on a folder. -/
def run (f : Folder) (words : List String) : Except RunError (Report × Folder) :=
  match runCommandLine f.look words with
  | .error e => .error e
  | .ok report => (f.carryOut report).map fun g => (report, g)

end Folder

end PageBuilder
