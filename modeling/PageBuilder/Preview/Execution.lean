import PageBuilder.Navigation.History

/-! # Executing tokens

A token that reaches the preview moves between pages, shows a notification, or does nothing. A
token that cannot be taken apart shows the general notification, but a token that goes beyond the
limits of the reader is not executed. -/

namespace PageBuilder

inductive NotificationLevel where
  | success
  | info
  | error
  deriving DecidableEq, Repr

def NotificationLevel.name : NotificationLevel → String
  | .success => "success"
  | .info => "info"
  | .error => "error"

/-- A message shown to the author. -/
structure Notification where
  level : NotificationLevel
  message : String
  deriving DecidableEq, Repr

/-- What a token did. -/
inductive Effect where
  | navigated (page : String)
  | notified (notification : Notification)
  | ignored
  deriving DecidableEq, Repr

/-- A token with what it did. -/
structure ActionOutcome where
  token : String
  effect : Effect
  deriving DecidableEq, Repr

namespace ActionOutcome

/-- The notification that an outcome shows. -/
def notification? (o : ActionOutcome) : Option Notification :=
  match o.effect with
  | .notified n => some n
  | _ => none

end ActionOutcome

/-- The text of a toast that brings none. -/
def defaultToast : String := "Toast message displayed!"

namespace Command

/-- The page that a push command leads to. -/
def pushTarget? (c : Command) : Option String :=
  ([Fields.value c.params "pageId", Fields.value c.params "page_id"].find? Json.truthy).map
    Json.display

/-- The notification of a command that neither moves nor is unknown. -/
def notification? (c : Command) : Option Notification :=
  match ActionKind.ofName? c.type with
  | some .submitForm => some ⟨.success, "Form submitted successfully!"⟩
  | some .toast =>
    let message := Fields.value c.params "message"
    some ⟨.info, if message.truthy then message.display else defaultToast⟩
  | some .biometricAuth => some ⟨.info, "Biometric authentication requested"⟩
  | some .register => some ⟨.info, "Registration initiated!"⟩
  | _ => none

/-- Carry out a command. -/
def run (c : Command) (h : History) : Effect × History :=
  match ActionKind.ofName? c.type with
  | some .pushPage =>
    let next := c.pushTarget?.elim h h.push
    (.navigated next.current, next)
  | some .popPage => (.navigated h.pop.current, h.pop)
  | _ =>
    match c.notification? with
    | some n => (.notified n, h)
    | none => (.ignored, h)

end Command

namespace History

variable [Json.Limits]

/-- The effect of a token, and the history after it. -/
def effect (h : History) (token : String) : Except Json.Overrun (Effect × History) :=
  match h.follow? token with
  | some next => .ok (.navigated next.current, next)
  | none =>
    match Command.ofToken token with
    | .error (.fault _) => .ok (.notified ⟨.info, "Action executed!"⟩, h)
    | .error (.overrun limit) => .error limit
    | .ok c => .ok (c.run h)

/-- Execute a token. -/
def execute (h : History) (token : String) : Except Json.Overrun (ActionOutcome × History) :=
  (h.effect token).map fun (effect, next) => (⟨token, effect⟩, next)

end History

end PageBuilder
