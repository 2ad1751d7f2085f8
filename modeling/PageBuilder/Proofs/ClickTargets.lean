import PageBuilder.Proofs.PreviewRuns

/-! # Which clicks reach a button

A click on the id of a button executes the token of the button unless a node in front of it has the
same id: the page itself, or a node of a component before it. That node answers instead, and it
answers to nothing. A token beyond the limits of the reader is not executed, and the click fails. -/

namespace PageBuilder

namespace Session

/-- A click on the id executes the token once: its outcome is the answer, the history moves as the
token moves it, its notification is added once, and the page that it leads to is on show. -/
def Executes [Json.Limits] (s : Session) (id token : String) : Prop :=
  ∃ outcome history next, s.history.execute token = .ok (outcome, history) ∧
    s.click id = .ok (some outcome, next) ∧ next.history = history ∧
    next.notifications = s.notifications ++ outcome.notification?.toList ∧
    next.view.pageId = next.history.current

variable {d : Document} {s : Session} {id token : String} {root : Node}

theorem node?_of_render (h : s.refresh.view.render = .ok root) (id : String) :
    s.node? id = .ok (root.find? id) := by
  rw [node?, h]
  rfl

/-- What a session renders is its current page. -/
theorem On.pageShown (h : s.On d) {p : Page} (hpage : d.page? s.history.current = some p)
    (hrender : s.refresh.view.render = .ok root) :
    View.PageShown s.refresh.view.context p root := by
  rw [PageView.render, refresh_document, refresh_pageId, h.document, View.pageOf, hpage] at hrender
  exact View.page_shown hrender

section

variable [Json.Limits]

theorem Executes.of_clickToken? {found : Option Node} (hnode : s.node? id = .ok found)
    (htoken : found.bind Node.clickToken? = some token) {outcome : ActionOutcome}
    {history : History} (hexecute : s.history.execute token = .ok (outcome, history)) :
    s.Executes id token := by
  refine ⟨outcome, history, s.refresh.arrive history outcome.notification?, hexecute, ?_, rfl, rfl,
    arrive_pageId ..⟩
  simp only [click, hnode, htoken, dispatch, execute, refresh_history, hexecute]
  rfl

theorem click_of_overrun {found : Option Node} (hnode : s.node? id = .ok found)
    (htoken : found.bind Node.clickToken? = some token) {limit : Json.Overrun}
    (hexecute : s.history.execute token = .error limit) : s.click id = .error (.overrun limit) := by
  simp only [click, hnode, htoken, dispatch, execute, refresh_history, hexecute]
  rfl

theorem click_of_no_clickToken? {found : Option Node} (hnode : s.node? id = .ok found)
    (htoken : found.bind Node.clickToken? = none) : s.click id = .ok (none, s.refresh) := by
  simp only [click, hnode, htoken]

theorem Executes.ne_none (h : s.Executes id token) (next : Session) :
    s.click id ≠ .ok (none, next) := by
  obtain ⟨outcome, history, after, -, hclick, -⟩ := h
  rw [hclick]
  nofun

/-- After every run of a session, a click on the id of a button executes the token of the button
exactly if no node in front of it has its id and the token is within the limits of the reader.
Behind a node with its id the click does nothing, and a token beyond a limit makes it fail. -/
theorem click_executes_iff (d : Document) (stored : Option String) (config : Config)
    (rs : List Request) {s : Session} (hs : (start d stored config).run rs = s) {p : Page}
    (hpage : d.page? s.history.current = some p) (hids : p.componentIds.Nodup)
    (hrender : ∃ root, s.refresh.view.render = .ok root) {c : Component} (hc : c ∈ p.components)
    (hbutton : c.kind? = some .button) (htoken : c.action.bind Action.token? = some token) :
    (s.Executes c.id token ↔
        c.id ∉ p.idsBefore c.id ∧ ∃ moved, s.history.execute token = .ok moved) ∧
      (c.id ∈ p.idsBefore c.id → s.click c.id = .ok (none, s.refresh)) ∧
      ∀ limit, c.id ∉ p.idsBefore c.id → s.history.execute token = .error limit →
        s.click c.id = .error (.overrun limit) := by
  obtain ⟨root, hrender⟩ := hrender
  have hon : s.On d := hs ▸ (start_on d stored config).run rs
  have hshown := hon.pageShown hpage hrender
  have hnode := node?_of_render hrender c.id
  have hcovered : c.id ∈ p.idsBefore c.id → s.click c.id = .ok (none, s.refresh) := by
    intro hbefore
    obtain ⟨n, hfound, hinert⟩ := hshown.find?_before hbefore
    apply click_of_no_clickToken? hnode
    rw [hfound, Option.bind_some, View.clickToken?_of_inert hinert]
  have hreached : c.id ∉ p.idsBefore c.id →
      (root.find? c.id).bind Node.clickToken? = some token := by
    intro hbefore
    obtain ⟨n, hfound, hown⟩ := hshown.find?_own hids hc hbefore
    have hactionable : s.refresh.view.context.actionable = true := hon.refresh.actionable
    rw [hfound, Option.bind_some, View.clickToken?_of_behaviour hown hbutton hactionable, htoken]
  refine ⟨⟨?_, ?_⟩, hcovered, ?_⟩
  · intro hexecutes
    refine ⟨fun hbefore => hexecutes.ne_none _ (hcovered hbefore), ?_⟩
    obtain ⟨outcome, history, -, hexecute, -⟩ := hexecutes
    exact ⟨_, hexecute⟩
  · rintro ⟨hbefore, ⟨outcome, history⟩, hexecute⟩
    exact .of_clickToken? hnode (hreached hbefore) hexecute
  · intro limit hbefore hexecute
    exact click_of_overrun hnode (hreached hbefore) hexecute

end

/-- A button that registers. -/
def registerButton (id : String) : Component where
  id := id
  type := "button"
  action := some (.named "@register")

/-- A page whose second button has the id of the label that is shown with the control before it. -/
def labelledPage : Page where
  id := "form"
  components := [
    registerButton "join",
    { id := "name", type := "text-input", props := [("label", .str "Name")] },
    registerButton "name__label"]

/-- The document opens on another page, and its first button leads to the page with the label. -/
def labelledDocument : Document where
  id := "app"
  pages := [
    { id := "home"
      components := [{ id := "go", type := "button", action := some (.named "@pushPage:form") }] },
    labelledPage]

/-- The session that has gone on to the page with the label. -/
def labelledSession : Session :=
  (start labelledDocument none {}).run [.click "go"]

theorem label_covers_button :
    labelledDocument.page? labelledSession.history.current = some labelledPage ∧
      labelledPage.componentIds.Nodup ∧
      (∃ root, labelledSession.refresh.view.render = .ok root) ∧
      labelledSession.Executes "join" "@register" ∧
      labelledSession.click "name__label" = .ok (none, labelledSession.refresh) := by
  have hpage : labelledDocument.page? labelledSession.history.current = some labelledPage := rfl
  have hids : labelledPage.componentIds.Nodup := by decide
  have hrender : ∃ root, labelledSession.refresh.view.render = .ok root := ⟨_, rfl⟩
  have htoken (id : String) :
      (registerButton id).action.bind Action.token? = some "@register" := rfl
  have hjoin := click_executes_iff labelledDocument none {} [.click "go"] rfl hpage hids hrender
    (c := registerButton "join") (by simp [labelledPage]) rfl (htoken _)
  have hlabel := click_executes_iff labelledDocument none {} [.click "go"] rfl hpage hids hrender
    (c := registerButton "name__label") (by simp [labelledPage]) rfl (htoken _)
  exact ⟨hpage, hids, hrender, hjoin.1.mpr ⟨by decide, _, rfl⟩,
    hlabel.2.1 (by decide)⟩

/-- A page with a button that has the id of the page. -/
def eponymousPage : Page where
  id := "next"
  components := [registerButton "next"]

/-- Different ids of pages and different ids of components do not make every button answer. -/
theorem not_every_button_answers :
    ¬ ∀ (d : Document) (stored : Option String) (config : Config) (rs : List Request)
        (p : Page) (c : Component) (token : String),
        d.pageIds.Nodup → d.componentIds.Nodup →
        d.page? ((start d stored config).run rs).history.current = some p →
        (∃ root, ((start d stored config).run rs).refresh.view.render = .ok root) →
        c ∈ p.components → c.kind? = some .button →
        c.action.bind Action.token? = some token →
        (∃ moved, ((start d stored config).run rs).history.execute token = .ok moved) →
        ((start d stored config).run rs).Executes c.id token := by
  intro h
  have hexecutes := h { id := "app", pages := [eponymousPage] } none {} [] eponymousPage
    (registerButton "next") "@register" (by decide) (by decide) rfl ⟨_, rfl⟩
    List.mem_cons_self rfl rfl ⟨_, rfl⟩
  exact hexecutes.ne_none _ rfl

end Session

end PageBuilder
