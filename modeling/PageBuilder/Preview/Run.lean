import PageBuilder.Preview.Session
import PageBuilder.View.Address

/-! # Runs of a preview session

A run answers one request after the other. Its transcript keeps every reply with the pages that
were current before and after, and tells what was typed since the current page last changed and
which notifications were shown. -/

namespace PageBuilder

namespace Session

/-- The session shows pages of the document, and its buttons answer to clicks. -/
structure On (d : Document) (s : Session) : Prop where
  document : s.view.document = d
  actionable : s.view.actionable = true

/-- The request comes from someone at the screen. A token that is executed behind it moves the
history without the page on show. -/
def Request.AtScreen : Request → Prop
  | .execute _ => False
  | _ => True

/-- A request with its reply and the pages that were current before and after it. -/
structure Exchange where
  request : Request
  reply : Except (Json.Halt NumberError) Reply
  before : String
  after : String

namespace Exchange

/-- The control that was changed, with the value that was typed. -/
def typed? (e : Exchange) : Option (String × String) :=
  match e.request, e.reply with
  | .change id value, .ok (.changed true) => some (id, value)
  | _, _ => none

/-- The notification of the outcome of a click. -/
def notification? (e : Exchange) : Option Notification :=
  match e.request, e.reply with
  | .click _, .ok (.outcome (some o)) => o.notification?
  | _, _ => none

/-- The current page is the page before. -/
def stays (e : Exchange) : Bool :=
  e.before == e.after

/-- The value that was typed into a control. -/
def valueOf? (id : String) (e : Exchange) : Option String :=
  (e.typed?.filter (·.1 == id)).map Prod.snd

theorem valueOf?_of_untyped {e : Exchange} (h : e.typed? = none) (id : String) :
    e.valueOf? id = none := by
  rw [valueOf?, h]
  rfl

theorem valueOf?_of_typed {e : Exchange} {key value : String} (h : e.typed? = some (key, value))
    (id : String) : e.valueOf? id = if id = key then some value else none := by
  rw [valueOf?, h]
  by_cases hid : id = key
  · simp [hid]
  · simp [hid, Ne.symm hid]

end Exchange

/-- The value that was last typed into a control since the current page last changed. -/
def lastTyped? (es : List Exchange) (id : String) : Option String :=
  (es.reverse.takeWhile Exchange.stays).findSome? (Exchange.valueOf? id)

section

variable [Json.Limits]

/-- Answer a request. -/
def exchange (s : Session) (r : Request) : Exchange :=
  ⟨r, (s.perform r).1, s.history.current, (s.perform r).2.history.current⟩

/-- The session after a run. -/
def run (s : Session) (rs : List Request) : Session :=
  rs.foldl (fun s r => (s.perform r).2) s

/-- The exchanges of a run. -/
def transcript : Session → List Request → List Exchange
  | _, [] => []
  | s, r :: rs => s.exchange r :: transcript (s.perform r).2 rs

@[simp] theorem run_nil (s : Session) : s.run [] = s := rfl

theorem run_cons (s : Session) (r : Request) (rs : List Request) :
    s.run (r :: rs) = (s.perform r).2.run rs := rfl

end

theorem lastTyped?_concat (es : List Exchange) (e : Exchange) (id : String) :
    lastTyped? (es ++ [e]) id =
      if e.stays then (e.valueOf? id).or (lastTyped? es id) else none := by
  unfold lastTyped?
  rw [List.reverse_concat, List.takeWhile_cons]
  split
  · rw [List.findSome?_cons]
    cases e.valueOf? id <;> rfl
  · rfl

end Session

end PageBuilder
