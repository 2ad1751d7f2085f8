import PageBuilder.Preview.Run
import PageBuilder.Proofs.NodeIds
import Mathlib.Data.List.Nodup

/-! # What a preview session holds after a run

The page on show is the current one, the form holds what was last typed into the controls of that
page since it became the current one, and the notifications are those of the clicks, in order. -/

namespace PageBuilder

/-! ### Forms -/

namespace Form

theorem lookup_cons (f : String × String) (fs : Form) (id : String) :
    List.lookup id (f :: fs) = if id = f.1 then some f.2 else fs.lookup id := by
  obtain ⟨key, v⟩ := f
  by_cases h : id = key
  · simp [h]
  · simp only [List.lookup_cons, beq_eq_false_iff_ne.2 h, if_neg h]

theorem lookup_set (form : Form) (id value other : String) :
    (form.set id value).lookup other = if other = id then some value else form.lookup other := by
  induction form with
  | nil => rw [set, lookup_cons]
  | cons f fs ih =>
      unfold set
      split
      · next hkey =>
        rw [lookup_cons, lookup_cons, hkey]
        split <;> rfl
      · next hkey =>
        rw [lookup_cons, lookup_cons, ih]
        by_cases h : other = f.1
        · rw [if_pos h, if_pos h, if_neg (h ▸ hkey)]
        · rw [if_neg h, if_neg h]

theorem mem_keys_set {form : Form} {id value key : String} :
    key ∈ (form.set id value).map Prod.fst ↔ key = id ∨ key ∈ form.map Prod.fst := by
  induction form with
  | nil => simp [set]
  | cons f fs ih =>
      unfold set
      split
      · next hkey => simp [hkey]
      · rw [List.map_cons, List.mem_cons, ih, List.map_cons, List.mem_cons]
        exact or_left_comm

theorem nodup_keys_set {form : Form} (h : (form.map Prod.fst).Nodup) (id value : String) :
    ((form.set id value).map Prod.fst).Nodup := by
  induction form with
  | nil => simp [set]
  | cons f fs ih =>
      rw [List.map_cons, List.nodup_cons] at h
      unfold set
      split
      · next hkey => simpa [← hkey] using h
      · next hkey =>
        rw [List.map_cons, List.nodup_cons, mem_keys_set, not_or]
        exact ⟨⟨hkey, h.1⟩, ih h.2⟩

end Form

namespace Session

variable {d : Document} {s : Session}

/-! ### Showing the current page -/

@[simp] theorem refresh_history (s : Session) : s.refresh.history = s.history := rfl

@[simp] theorem refresh_pageId (s : Session) : s.refresh.view.pageId = s.history.current := by
  simp only [refresh, PageView.turnTo]
  split
  · next h => exact h
  · rfl

@[simp] theorem refresh_document (s : Session) :
    s.refresh.view.document = s.view.document := by
  simp only [refresh, PageView.turnTo]
  split <;> rfl

@[simp] theorem refresh_actionable (s : Session) :
    s.refresh.view.actionable = s.view.actionable := by
  simp only [refresh, PageView.turnTo]
  split <;> rfl

theorem refresh_form (s : Session) :
    s.refresh.view.form = if s.view.pageId = s.history.current then s.view.form else [] := by
  simp only [refresh, PageView.turnTo]
  split <;> rfl

theorem refresh_eq_self (h : s.view.pageId = s.history.current) : s.refresh = s := by
  simp only [refresh, PageView.turnTo, if_pos h]

/-! ### Sessions on a document -/

theorem start_on (d : Document) (stored : Option String) (config : Config) :
    (start d stored config).On d :=
  ⟨rfl, rfl⟩

theorem On.refresh (h : s.On d) : s.refresh.On d :=
  ⟨s.refresh_document.trans h.document, s.refresh_actionable.trans h.actionable⟩

/-! ### What a request does -/

/-- The field that answers to a change is a control of the current page, named by its own id. -/
theorem control_of_node? {id field : String} {found : Option Node} (hnode : s.node? id = .ok found)
    (hfield : found.bind Node.changeField? = some field) :
    field = id ∧ s.view.document.HasControl s.history.current id := by
  obtain ⟨root, hrender, rfl⟩ := Json.map_ok hnode
  obtain ⟨n, hfound, hchange⟩ := Option.bind_eq_some_iff.mp hfield
  rw [PageView.render, refresh_document, refresh_pageId] at hrender
  obtain ⟨hid, hcontrol⟩ := View.control_of_pageOf hrender (List.mem_of_find?_eq_some hfound)
    (Node.changeField?_eq_some_iff.mp hchange)
  have hasked : n.id = id := by simpa using List.find?_some hfound
  rw [← hasked, ← hid] at *
  exact ⟨rfl, hcontrol⟩

/-- The session that shows the last page of a history, with the notification of the move to it. -/
def arrive (s : Session) (history : History) (shown : Option Notification) : Session :=
  ({ s with history, notifications := s.notifications ++ shown.toList } : Session).refresh

theorem arrive_form (s : Session) (history : History) (shown : Option Notification) :
    (s.arrive history shown).view.form =
      if s.view.pageId = history.current then s.view.form else [] :=
  refresh_form _

theorem arrive_pageId (s : Session) (history : History) (shown : Option Notification) :
    (s.arrive history shown).view.pageId = history.current :=
  refresh_pageId _

section

variable [Json.Limits]

theorem perform_click (s : Session) (id : String) :
    s.perform (.click id) =
      match s.node? id with
      | .error e => (.error (.fault e), s.refresh)
      | .ok found =>
        match found.bind Node.clickToken? with
        | none => (.ok (.outcome none), s.refresh)
        | some token =>
          match s.history.execute token with
          | .error limit => (.error (.overrun limit), s.refresh)
          | .ok (outcome, history) =>
            (.ok (.outcome (some outcome)), s.refresh.arrive history outcome.notification?) := by
  cases hnode : s.node? id with
  | error e => simp only [perform, click, hnode]
  | ok found =>
      cases htoken : found.bind Node.clickToken? with
      | none => simp only [perform, click, hnode, htoken]
      | some token =>
          cases hexecute : s.history.execute token <;>
            simp only [perform, click, hnode, htoken, dispatch, execute, refresh_history, hexecute]
          · rfl
          · rfl

theorem perform_change (s : Session) (id value : String) :
    s.perform (.change id value) =
      match s.node? id with
      | .error e => (.error (.fault e), s.refresh)
      | .ok found =>
        match found.bind Node.changeField? with
        | none => (.ok (.changed false), s.refresh)
        | some field =>
          (.ok (.changed true),
            { s.refresh with view := s.refresh.view.setValue field value }) := by
  cases hnode : s.node? id with
  | error e => simp only [perform, change, hnode]
  | ok found =>
      cases hfield : found.bind Node.changeField? with
      | none => simp only [perform, change, hnode, hfield]
      | some field => simp only [perform, change, hnode, hfield]

theorem On.perform (h : s.On d) (r : Request) : (s.perform r).2.On d := by
  have hshown := h.refresh
  cases r with
  | click id =>
      rw [perform_click]
      split
      · exact hshown
      · split
        · exact hshown
        · split
          · exact hshown
          · exact On.refresh ⟨hshown.document, hshown.actionable⟩
  | change id value =>
      rw [perform_change]
      split
      · exact hshown
      · split
        · exact hshown
        · exact ⟨hshown.document, hshown.actionable⟩
  | back => exact On.refresh ⟨h.document, h.actionable⟩
  | execute token =>
      rw [Session.perform, execute]
      cases s.history.execute token <;> exact ⟨h.document, h.actionable⟩
  | render => exact hshown

theorem On.run (h : s.On d) (rs : List Request) : (s.run rs).On d := by
  induction rs generalizing s with
  | nil => exact h
  | cons r rs ih =>
      rw [run_cons]
      exact ih (h.perform r)

end

/-- What a request from the screen does to a session that shows its current page: nothing, a value
that is typed into a control of the page, or a move that shows the page it leads to. -/
inductive Step (s : Session) (e : Exchange) : Session → Prop
  | rest (htyped : e.typed? = none) (hquiet : e.notification? = none) : Step s e s
  | type {id value : String} (htyped : e.typed? = some (id, value))
      (hquiet : e.notification? = none)
      (hcontrol : s.view.document.HasControl s.view.pageId id) :
      Step s e { s with view := s.view.setValue id value }
  | move (history : History) (htyped : e.typed? = none) :
      Step s e (s.arrive history e.notification?)

section

variable [Json.Limits]

theorem Step.of_perform {r : Request} {reply : Except (Json.Halt NumberError) Reply}
    {next : Session}
    (h : s.perform r = (reply, next))
    (hstep : Step s ⟨r, reply, s.history.current, next.history.current⟩ next) :
    Step s (s.exchange r) (s.perform r).2 := by
  rw [exchange, h]
  exact hstep

theorem step_perform (h : s.view.pageId = s.history.current) {r : Request} (hr : r.AtScreen) :
    Step s (s.exchange r) (s.perform r).2 := by
  have hself := refresh_eq_self h
  cases r with
  | click id =>
      have hclick := s.perform_click id
      cases hnode : s.node? id with
      | error e =>
          simp only [hnode, hself] at hclick
          exact .of_perform hclick (.rest rfl rfl)
      | ok found =>
          cases htoken : found.bind Node.clickToken? with
          | none =>
              simp only [hnode, htoken, hself] at hclick
              exact .of_perform hclick (.rest rfl rfl)
          | some token =>
              cases hexecute : s.history.execute token with
              | error limit =>
                  simp only [hnode, htoken, hexecute, hself] at hclick
                  exact .of_perform hclick (.rest rfl rfl)
              | ok moved =>
                  simp only [hnode, htoken, hexecute, hself] at hclick
                  exact .of_perform hclick (.move moved.2 rfl)
  | change id value =>
      have hchange := s.perform_change id value
      cases hnode : s.node? id with
      | error e =>
          simp only [hnode, hself] at hchange
          exact .of_perform hchange (.rest rfl rfl)
      | ok found =>
          cases hfield : found.bind Node.changeField? with
          | none =>
              simp only [hnode, hfield, hself] at hchange
              exact .of_perform hchange (.rest rfl rfl)
          | some field =>
              obtain ⟨rfl, hcontrol⟩ := control_of_node? hnode hfield
              rw [← h] at hcontrol
              simp only [hnode, hfield, hself] at hchange
              exact .of_perform hchange (.type rfl rfl hcontrol)
  | back =>
      have hback : s.perform .back = (.ok (.page s.back.1), s.arrive s.history.pop none) := by
        rw [arrive, Option.toList_none, List.append_nil]
        rfl
      exact .of_perform hback (.move s.history.pop rfl)
  | execute token => exact hr.elim
  | render =>
      have hrender : s.perform .render = ((s.view.render.mapError .fault).map .shown, s) := by
        rw [perform, hself]
      refine .of_perform hrender (.rest ?_ ?_) <;> cases s.view.render <;> rfl

end

/-! ### What a run leaves -/

/-- A session after the exchanges `es` holds what they left, and nothing else: it shows the current
page, every field of the form is a control of that page and holds what was last typed into it since
the page became the current one, and the notifications are those of the clicks, in order. -/
structure Holds (d : Document) (es : List Exchange) (s : Session) : Prop where
  on : s.On d
  page : s.history.toList.getLast? = some s.view.pageId
  controls : ∀ id ∈ s.view.form.map Prod.fst, d.HasControl s.view.pageId id
  distinct : (s.view.form.map Prod.fst).Nodup
  values : ∀ id, s.view.form.lookup id = lastTyped? es id
  notifications : s.notifications = es.filterMap Exchange.notification?

variable {es : List Exchange}

theorem Holds.current (h : Holds d es s) : s.view.pageId = s.history.current := by
  have hpage := h.page
  rw [History.toList_getLast?] at hpage
  exact (Option.some.inj hpage).symm

theorem start_holds (d : Document) (stored : Option String) (config : Config) :
    Holds d [] (start d stored config) where
  on := start_on d stored config
  page := History.toList_getLast? _
  controls := by simp [start, PageView.start]
  distinct := by simp [start, PageView.start]
  values := fun _ => rfl
  notifications := rfl

theorem lastTyped?_of_stays {e : Exchange} (h : e.stays = true) (id : String) :
    lastTyped? (es ++ [e]) id = (e.valueOf? id).or (lastTyped? es id) := by
  rw [lastTyped?_concat, if_pos h]

theorem filterMap_notification?_concat (es : List Exchange) (e : Exchange) :
    (es ++ [e]).filterMap Exchange.notification? =
      es.filterMap Exchange.notification? ++ e.notification?.toList := by
  rw [List.filterMap_append]
  cases h : e.notification? <;> simp [h]

theorem Holds.rest (h : Holds d es s) {e : Exchange} (hstays : e.stays = true)
    (htyped : e.typed? = none) (hquiet : e.notification? = none) : Holds d (es ++ [e]) s where
  on := h.on
  page := h.page
  controls := h.controls
  distinct := h.distinct
  values := by
    intro id
    rw [lastTyped?_of_stays hstays, Exchange.valueOf?_of_untyped htyped, Option.none_or, h.values]
  notifications := by
    rw [filterMap_notification?_concat, hquiet, h.notifications]
    exact (List.append_nil _).symm

theorem Holds.type (h : Holds d es s) {e : Exchange} (hstays : e.stays = true)
    {id value : String} (htyped : e.typed? = some (id, value)) (hquiet : e.notification? = none)
    (hcontrol : s.view.document.HasControl s.view.pageId id) :
    Holds d (es ++ [e]) { s with view := s.view.setValue id value } where
  on := ⟨h.on.document, h.on.actionable⟩
  page := h.page
  controls := by
    intro key hkey
    rcases Form.mem_keys_set.mp hkey with rfl | hkey
    · exact h.on.document ▸ hcontrol
    · exact h.controls key hkey
  distinct := Form.nodup_keys_set h.distinct id value
  values := by
    intro key
    rw [lastTyped?_of_stays hstays, Exchange.valueOf?_of_typed htyped, ← h.values]
    have hset := Form.lookup_set s.view.form id value key
    rw [PageView.setValue, hset]
    split <;> rfl
  notifications := by
    rw [filterMap_notification?_concat, hquiet, ← h.notifications]
    exact (List.append_nil _).symm

/-- A move to another page drops the form with what was typed before it, and a move to the same
page keeps both. -/
theorem Holds.move (h : Holds d es s) {e : Exchange} (history : History)
    (hbefore : e.before = s.history.current) (hafter : e.after = history.current)
    (htyped : e.typed? = none) : Holds d (es ++ [e]) (s.arrive history e.notification?) := by
  have hstays : e.stays = true ↔ s.view.pageId = history.current := by
    rw [Exchange.stays, hbefore, hafter, ← h.current, beq_iff_eq]
  constructor
  case on => exact On.refresh ⟨h.on.document, h.on.actionable⟩
  case page => rw [arrive_pageId, arrive, refresh_history, History.toList_getLast?]
  case controls =>
    intro id hid
    rw [arrive_form] at hid
    split at hid
    · next hpage =>
      rw [arrive_pageId, ← hpage]
      exact h.controls id hid
    · cases hid
  case distinct =>
    rw [arrive_form]
    split
    · exact h.distinct
    · exact List.nodup_nil
  case values =>
    intro id
    rw [arrive_form]
    split
    · next hpage =>
      rw [lastTyped?_of_stays (hstays.mpr hpage), Exchange.valueOf?_of_untyped htyped,
        Option.none_or, h.values]
    · next hpage =>
      rw [lastTyped?_concat, if_neg (mt hstays.mp hpage)]
      rfl
  case notifications =>
    rw [filterMap_notification?_concat, ← h.notifications]
    rfl

section

variable [Json.Limits]

theorem Holds.step (h : Holds d es s) {r : Request} (hr : r.AtScreen) :
    Holds d (es ++ [s.exchange r]) (s.perform r).2 := by
  have hstep := step_perform h.current hr
  have hbefore : (s.exchange r).before = s.history.current := rfl
  have hafter : (s.exchange r).after = (s.perform r).2.history.current := rfl
  generalize s.exchange r = e at *
  generalize (s.perform r).2 = next at *
  cases hstep with
  | rest htyped hquiet =>
      exact h.rest (by rw [Exchange.stays, hbefore, hafter, beq_self_eq_true]) htyped hquiet
  | type htyped hquiet hcontrol =>
      exact h.type (by rw [Exchange.stays, hbefore, hafter, beq_self_eq_true]) htyped hquiet
        hcontrol
  | move history htyped => exact h.move history hbefore hafter htyped

theorem Holds.run (h : Holds d es s) {rs : List Request} (hrs : ∀ r ∈ rs, r.AtScreen) :
    Holds d (es ++ s.transcript rs) (s.run rs) := by
  induction rs generalizing es s with
  | nil => simpa [transcript] using h
  | cons r rs ih =>
      rw [List.forall_mem_cons] at hrs
      rw [transcript, run_cons, List.append_cons]
      exact ih (h.step hrs.1) hrs.2

/-- After every run of requests from the screen a session shows its current page, its form is what
was typed into the controls of that page since it became the current one, and its notifications are
those that the clicks answered with. -/
theorem run_holds (d : Document) (stored : Option String) (config : Config) {rs : List Request}
    (hrs : ∀ r ∈ rs, r.AtScreen) :
    Holds d ((start d stored config).transcript rs) ((start d stored config).run rs) :=
  (start_holds d stored config).run hrs

end

/-- A page with a control, a button that opens the page once more and a button to a page that the
document does not have. -/
def signUp : Document where
  id := "app"
  pages := [{
    id := "home"
    components := [
      { id := "name", type := "text-input" },
      { id := "again", type := "button", action := some (.named "@pushPage:home") },
      { id := "lost", type := "button", action := some (.named "@pushPage:nowhere") }] }]

/-- A name is typed and kept while the page is opened again, and is gone after the way to the
missing page and back. -/
def visit : List Request :=
  [.change "name" "Ada", .click "again", .render, .click "lost", .change "name" "Bob", .back]

theorem name_kept_until_left :
    (∀ r ∈ visit.take 3, r.AtScreen) ∧ (∀ r ∈ visit, r.AtScreen) ∧
      ((start signUp none {}).run (visit.take 3)).view.form.lookup "name" = some "Ada" ∧
      ((start signUp none {}).run visit).view.form.lookup "name" = none := by
  have hkept : ∀ r ∈ visit.take 3, r.AtScreen := by simp [visit, Request.AtScreen]
  have hleft : ∀ r ∈ visit, r.AtScreen := by simp [visit, Request.AtScreen]
  refine ⟨hkept, hleft, ?_, ?_⟩
  · rw [(run_holds signUp none {} hkept).values]
    decide +kernel
  · rw [(run_holds signUp none {} hleft).values]
    decide +kernel

end Session

end PageBuilder
