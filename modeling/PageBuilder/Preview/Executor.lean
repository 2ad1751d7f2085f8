import PageBuilder.Preview.Execution

/-! # Executors

An executor moves through a history token after token and passes on what it notifies of, if there is
anyone to tell. A token that is not executed leaves it as it is. -/

namespace PageBuilder

/-- Something that executes tokens on a history. -/
structure Executor where
  history : History
  /-- Whether notifications are passed on. -/
  listening : Bool := true
  /-- The notifications passed on so far. -/
  passed : List Notification := []
  deriving DecidableEq, Repr

namespace Executor

/-- Pass on a notification. -/
def emit (x : Executor) (n : Notification) : Executor :=
  { x with passed := x.passed ++ if x.listening then [n] else [] }

@[simp] theorem emit_history (x : Executor) (n : Notification) :
    (x.emit n).history = x.history := rfl

variable [Json.Limits]

/-- Execute a token. -/
def perform (x : Executor) (token : String) : Except Json.Overrun ActionOutcome × Executor :=
  match x.history.execute token with
  | .error limit => (.error limit, x)
  | .ok (outcome, history) =>
    let next := { x with history }
    (.ok outcome, outcome.notification?.elim next next.emit)

/-- The executor after a run of tokens. -/
def run (x : Executor) (tokens : List String) : Executor :=
  tokens.foldl (fun x token => (x.perform token).2) x

@[simp] theorem run_nil (x : Executor) : x.run [] = x := rfl

theorem run_cons (x : Executor) (token : String) (tokens : List String) :
    x.run (token :: tokens) = (x.perform token).2.run tokens := rfl

end Executor

end PageBuilder
