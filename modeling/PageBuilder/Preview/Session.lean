import PageBuilder.Navigation.Initial
import PageBuilder.Preview.Execution
import PageBuilder.View.Page

/-! # Preview sessions

An interactive preview of a document: a history over a page on show. Clicks and changes are
addressed by node id and act on the page that is current at the time. A click on a token that goes
beyond the limits of the reader does nothing but show the page. -/

namespace PageBuilder

/-- A preview of a document. -/
structure Session where
  view : PageView
  history : History
  notifications : List Notification := []

namespace Session

/-- What is asked of a session. -/
inductive Request where
  | click (id : String)
  | change (id value : String)
  | back
  | execute (token : String)
  | render
  deriving DecidableEq, Repr

/-- What a session answers. -/
inductive Reply where
  /-- What a click or a token did, if anything. -/
  | outcome (o : Option ActionOutcome)
  /-- Whether a value was typed. -/
  | changed (done : Bool)
  /-- The page gone back to. -/
  | page (id : String)
  /-- The nodes on show. -/
  | shown (root : Node)

/-- Open a preview of a document. -/
def start (d : Document) (stored : Option String) (config : Config) : Session :=
  let history := History.opening d stored
  { view := PageView.start d history.current config, history }

/-- Show the current page. -/
def refresh (s : Session) : Session :=
  { s with view := s.view.turnTo s.history.current }

section

variable [Json.Limits]

/-- Execute a token. The page on show stays. -/
def execute (s : Session) (token : String) : Except Json.Overrun (ActionOutcome × Session) :=
  (s.history.execute token).map fun (outcome, history) =>
    (outcome, { s with history, notifications := s.notifications ++ outcome.notification?.toList })

/-- Execute a token and show the page that it leads to. -/
def dispatch (s : Session) (token : String) : Except Json.Overrun (ActionOutcome × Session) :=
  (s.execute token).map fun (outcome, next) => (outcome, next.refresh)

end

/-- The node with the given id on the current page. -/
def node? (s : Session) (id : String) : Except NumberError (Option Node) :=
  s.refresh.view.render.map fun root => root.find? id

/-- Click the node with the given id on the current page. -/
def click [Json.Limits] (s : Session) (id : String) :
    Except (Json.Halt NumberError) (Option ActionOutcome × Session) :=
  match s.node? id with
  | .error e => .error (.fault e)
  | .ok found =>
    match found.bind Node.clickToken? with
    | none => .ok (none, s.refresh)
    | some token =>
      match s.refresh.dispatch token with
      | .error limit => .error (.overrun limit)
      | .ok (outcome, next) => .ok (some outcome, next)

/-- Type a value into the node with the given id on the current page. -/
def change (s : Session) (id value : String) : Except NumberError (Bool × Session) :=
  match s.node? id with
  | .error e => .error e
  | .ok found =>
    match found.bind Node.changeField? with
    | none => .ok (false, s.refresh)
    | some field => .ok (true, { s.refresh with view := s.refresh.view.setValue field value })

/-- Go back one page. -/
def back (s : Session) : String × Session :=
  let next := { s with history := s.history.pop }.refresh
  (next.history.current, next)

/-- Answer a request. A rendering that fails still shows the current page afterwards, and so does a
click that fails. -/
def perform [Json.Limits] (s : Session) : Request → Except (Json.Halt NumberError) Reply × Session
  | .click id =>
    match s.click id with
    | .error halt => (.error halt, s.refresh)
    | .ok (outcome, next) => (.ok (.outcome outcome), next)
  | .change id value =>
    match s.change id value with
    | .error e => (.error (.fault e), s.refresh)
    | .ok (done, next) => (.ok (.changed done), next)
  | .back => (.ok (.page s.back.1), s.back.2)
  | .execute token =>
    match s.execute token with
    | .error limit => (.error (.overrun limit), s)
    | .ok (outcome, next) => (.ok (.outcome (some outcome)), next)
  | .render => ((s.refresh.view.render.mapError .fault).map .shown, s.refresh)

end Session

end PageBuilder
