import PageBuilder.Action.Token

/-! # Histories of visited pages

A history is a stack of page ids that is never empty. `History.toList` is its view: the pages in the
order in which they were opened, the current page last. -/

namespace PageBuilder

/-- The page at the bottom of the stack, and the pages opened after it, the latest first. -/
structure History where
  root : String
  opened : List String := []
  deriving DecidableEq, Repr

namespace History

/-- The pages from the first opened to the current one. -/
def toList (h : History) : List String :=
  h.root :: h.opened.reverse

/-- The history with the given view, unless that is empty. -/
def ofList? : List String → Option History
  | [] => none
  | root :: opened => some ⟨root, opened.reverse⟩

def current (h : History) : String :=
  h.opened.head?.getD h.root

def depth (h : History) : Nat :=
  h.opened.length + 1

/-- Open a page on top. -/
def push (h : History) (page : String) : History :=
  { h with opened := page :: h.opened }

/-- Go back one page; the page at the bottom stays. -/
def pop (h : History) : History :=
  { h with opened := h.opened.tail }

/-- The history of a walk forward through `pages` up to `page`, or of that page alone if it is not
among them. -/
def walkTo (page : String) (pages : List String) : History :=
  if pages.contains page then
    match pages.takeWhile (· != page) with
    | [] => ⟨page, []⟩
    | root :: rest => ⟨root, page :: rest.reverse⟩
  else ⟨page, []⟩

/-- Follow a token that only moves between pages; other tokens are not followed. -/
def follow? (h : History) (token : String) : Option History :=
  if token = ActionKind.popPage.name then some h.pop
  else
    match Text.after? Command.pushStart token with
    | some page => some (if page = "" then h else h.push page)
    | none => if token = ActionKind.pushPage.name then some h else none

@[simp] theorem toList_ofList? (pages : List String) :
    (ofList? pages).map toList = if pages = [] then none else some pages := by
  cases pages <;> simp [ofList?, toList]

@[simp] theorem toList_push (h : History) (page : String) :
    (h.push page).toList = h.toList ++ [page] := by
  simp [toList, push]

theorem toList_pop (h : History) :
    h.pop.toList = if h.opened = [] then h.toList else h.toList.dropLast := by
  obtain ⟨root, opened⟩ := h
  cases opened with
  | nil => rfl
  | cons page rest =>
    simp only [toList, pop, List.tail_cons, List.reverse_cons, reduceCtorEq, if_false]
    exact List.dropLast_concat.symm

theorem toList_getLast? (h : History) : h.toList.getLast? = some h.current := by
  obtain ⟨root, opened⟩ := h
  cases opened <;> simp [toList, current, List.getLast?_cons]

theorem length_toList (h : History) : h.toList.length = h.depth := by
  simp [toList, depth]

end History

/-- What a history without pages is refused with. -/
def History.emptyMessage : String :=
  "navigation history must start with a page id"

end PageBuilder
