import PageBuilder.Outline
import PageBuilder.Proofs.PreviewRuns
import PageBuilder.Proofs.UnnamedProps

/-! # What the controls of a page show

A control shows what was typed into it, unless its component has a property `value`: the property is
shown in its place, whatever is typed. -/

namespace PageBuilder

namespace Node

/-- The nodes that take input, in the order of the walk. -/
def controls (n : Node) : List Node :=
  n.walk.filter Outline.isControl

/-- The value that a control shows. -/
def value? (n : Node) : Option Json :=
  Fields.get? n.attrs "value"

theorem controls_eq {n : Node} (h : Outline.isControl n = false) :
    n.controls = n.children.flatMap controls := by
  rw [controls, walk_eq, List.filter_cons_of_neg (by simp [h]), List.filter_flatMap]
  rfl

end Node

namespace Component

/-- What the control of a component shows: its property `value`, or else what was typed. -/
def shownValue (c : Component) (form : Form) : Json :=
  (Fields.get? c.props "value").getD (.str (form.value c.id))

theorem shownValue_eq_iff {c : Component} {form : Form} {v : String}
    (htyped : form.value c.id = v) :
    c.shownValue form = .str v ↔ ∀ w, Fields.get? c.props "value" = some w → w = .str v := by
  unfold shownValue
  cases Fields.get? c.props "value" <;> simp [htyped]

end Component

namespace Form

theorem value_set_self (form : Form) (id v : String) : (form.set id v).value id = v := by
  simp [value, lookup_set]

theorem value_set_of_ne (form : Form) {id other : String} (h : other ≠ id) (v : String) :
    (form.set id v).value other = form.value other := by
  simp [value, lookup_set, h]

end Form

namespace View

variable {ctx : RenderContext} {config : Config} {isLast : Bool} {c : Component}

/-- The node is the control of the component and shows its value. -/
structure ShowsValue (form : Form) (c : Component) (n : Node) : Prop where
  id : n.id = c.id
  value : n.value? = some (c.shownValue form)

theorem get?_controlAttrs (ctx : RenderContext) (c : Component) (placeholder : Option String)
    (own : Fields) {extra : Fields} (hextra : extra.DistinctKeys) :
    Fields.get? (controlAttrs ctx c placeholder own extra) "value" =
      some ((Fields.get? extra "value").getD (.str (ctx.form.value c.id))) := by
  have hmerged (rest : Fields) : Fields.get?
      (Fields.merge (("value", .str (ctx.form.value c.id)) :: rest) extra) "value" =
        some ((Fields.get? extra "value").getD (.str (ctx.form.value c.id))) := by
    rw [Fields.get?_merge hextra, Fields.get?_cons, if_pos rfl]
    cases Fields.get? extra "value" <;> rfl
  unfold controlAttrs
  cases c.validation with
  | none => exact hmerged _
  | some rules =>
      have hne : "value" ≠ "validation" := by decide
      exact (Fields.get?_set_of_ne hne _).trans (hmerged _)

theorem controls_field (kind : ControlKind) (label : Option String) (style attrs : Fields) :
    ∃ n, (field ctx c kind label style attrs).controls = [n] ∧ n.id = c.id ∧ n.attrs = attrs := by
  rw [Node.controls_eq rfl]
  refine ⟨{
    kind := .control kind
    id := c.id
    style, attrs
    behaviour := if ctx.editable then .edit c.id else .inert }, ?_, rfl, rfl⟩
  cases hlabel : label.filter (· != "") <;>
    simp [field, hlabel, Node.controls, Node.walk, Node.walkAll, Outline.isControl]

/-- A component that takes input has one control. -/
theorem component_controls (hcontrol : c.isControl = true) (hkeys : c.props.DistinctKeys) {n : Node}
    (h : component ctx c = .ok n) : ∃ m, n.controls = [m] ∧ ShowsValue ctx.form c m := by
  obtain ⟨props, hprops, rfl⟩ := Json.map_ok h
  have hkind : c.kind? = props.kind? := (TypedProps.kind?_of_ofType hprops).symm
  rw [Component.isControl, hkind] at hcontrol
  have hshown (kind : ComponentKind) (hprops' : props.kind? = some kind)
      (hinput : kind.isControl = true) (control : ControlKind) (label placeholder : Option String)
      (style own : Fields) : ∃ m,
      (field ctx c control label style (controlAttrs ctx c placeholder own props.extra)).controls =
        [m] ∧ ShowsValue ctx.form c m := by
    have hspacer : kind ≠ .spacer := by
      rintro rfl
      cases hinput
    have hvalue : "value" ∉ TypedProps.named kind := by cases kind <;> decide
    obtain ⟨m, hm, hid, hattrs⟩ := controls_field control label style _
    refine ⟨m, hm, hid, ?_⟩
    rw [Node.value?, hattrs, get?_controlAttrs _ _ _ _
      (TypedProps.distinctKeys_extra hprops hprops' hspacer hkeys),
      TypedProps.get?_extra hprops hprops' hspacer hvalue]
    rfl
  cases props with
  | textInput => exact hshown .textInput rfl rfl _ _ _ _ _
  | textarea => exact hshown .textarea rfl rfl _ _ _ _ _
  | datePicker => exact hshown .datePicker rfl rfl _ _ _ _ _
  | _ => cases hcontrol

theorem component_no_controls (hcontrol : c.isControl = false) {n : Node}
    (h : component ctx c = .ok n) : n.controls = [] := by
  obtain ⟨props, hprops, rfl⟩ := Json.map_ok h
  have hkind : c.kind? = props.kind? := (TypedProps.kind?_of_ofType hprops).symm
  rw [Component.isControl, hkind] at hcontrol
  cases props with
  | textInput | textarea | datePicker => cases hcontrol
  | _ => rfl

theorem controls_slot (n : Node) : (slot config isLast c n).controls = n.controls := by
  rw [Node.controls_eq rfl]
  exact List.flatMap_singleton ..

/-- A node holds the control of a component that takes input, and no other. -/
structure HoldsControl (form : Form) (c : Component) (n : Node) : Prop where
  control : c.isControl = true → ∃ m, n.controls = [m] ∧ ShowsValue form c m
  other : c.isControl = false → n.controls = []

theorem slot_holdsControl (hkeys : c.props.DistinctKeys) {n : Node} (h : component ctx c = .ok n) :
    HoldsControl ctx.form c (slot config isLast c n) where
  control := by
    intro hcontrol
    rw [controls_slot]
    exact component_controls hcontrol hkeys h
  other := by
    intro hcontrol
    rw [controls_slot]
    exact component_no_controls hcontrol h

theorem flatMap_controls {form : Form} {cs : List Component} {ns : List Node}
    (h : List.Forall₂ (HoldsControl form) cs ns) :
    List.Forall₂ (ShowsValue form) (cs.filter Component.isControl) (ns.flatMap Node.controls) := by
  induction h with
  | nil => exact .nil
  | @cons c n cs ns hfirst _ ih =>
      rw [List.flatMap_cons]
      cases hcontrol : c.isControl with
      | true =>
          obtain ⟨m, hm, hshown⟩ := hfirst.control hcontrol
          rw [List.filter_cons_of_pos hcontrol, hm]
          exact .cons hshown ih
      | false =>
          rw [List.filter_cons_of_neg (by simp [hcontrol]), hfirst.other hcontrol]
          exact ih

/-- The controls of a page are those of the components that take input, in order. -/
theorem page_controls {p : Page} (hkeys : ∀ c ∈ p.components, c.props.DistinctKeys) {root : Node}
    (h : page ctx p = .ok root) :
    List.Forall₂ (ShowsValue ctx.form) (p.components.filter Component.isControl) root.controls := by
  obtain ⟨ns, hslots, rfl⟩ := Json.map_ok h
  rw [Node.controls_eq rfl]
  exact flatMap_controls
    (slots_forall₂ (fun c hc _ _ hn => slot_holdsControl (hkeys c hc) hn) hslots)

/-! ### After a value was typed -/

section Typed

variable {form : Form} {id v : String} {cs : List Component} {ns ns' : List Node}

theorem ShowsValue.of_ne {n n' : Node} (h : ShowsValue form c n)
    (h' : ShowsValue (form.set id v) c n') :
    n'.id = n.id ∧ (n.id ≠ id → n'.value? = n.value?) := by
  refine ⟨h'.id.trans h.id.symm, fun hne => ?_⟩
  rw [h'.value, h.value, Component.shownValue, Form.value_set_of_ne form (h.id ▸ hne)]
  rfl

theorem ShowsValue.typed_iff {n : Node} (h : ShowsValue (form.set id v) c n) (hid : c.id = id) :
    n.value? = some (.str v) ↔ ∀ w, Fields.get? c.props "value" = some w → w = .str v := by
  rw [h.value, Option.some.injEq, Component.shownValue_eq_iff]
  rw [hid, Form.value_set_self]

theorem shown_before_after (h : List.Forall₂ (ShowsValue form) cs ns)
    (h' : List.Forall₂ (ShowsValue (form.set id v)) cs ns') :
    List.Forall₂ (fun n n' => n'.id = n.id ∧ (n.id ≠ id → n'.value? = n.value?)) ns ns' := by
  induction h generalizing ns' with
  | nil =>
      cases h'
      exact .nil
  | cons hfirst _ ih =>
      cases h' with
      | cons hfirst' hrest' => exact .cons (hfirst.of_ne hfirst') (ih hrest')

end Typed

end View

namespace Session

variable {s next : Session} {id v : String}

/-- A value that was taken is typed into the form of the current page. -/
theorem change_eq_ok_true (h : s.change id v = .ok (true, next)) :
    (∃ root, s.refresh.view.render = .ok root) ∧
      next = { s.refresh with view := s.refresh.view.setValue id v } := by
  unfold change at h
  split at h
  · cases h
  · next found hnode =>
    obtain ⟨root, hrender, -⟩ := Json.map_ok hnode
    split at h
    · cases h
    · next field hfield =>
      obtain ⟨rfl, -⟩ := control_of_node? hnode hfield
      cases h
      exact ⟨⟨root, hrender⟩, rfl⟩

/-- What the controls of a page show after a value was typed into the controls with an id: the
others show what they showed before, and those with the id show the value exactly if their
components have no other value among their properties. -/
theorem change_shown_iff {p : Page} (hpage : s.view.document.page? s.history.current = some p)
    (hkeys : ∀ c ∈ p.components, c.props.DistinctKeys) (h : s.change id v = .ok (true, next)) :
    ∃ root root', s.refresh.view.render = .ok root ∧ next.refresh.view.render = .ok root' ∧
      next.history = s.history ∧ next.view.document = s.view.document ∧
      List.Forall₂ (fun n n' => n'.id = n.id ∧ (n.id ≠ id → n'.value? = n.value?))
        root.controls root'.controls ∧
      List.Forall₂ (fun c n' => n'.id = c.id ∧
          (c.id = id → (n'.value? = some (.str v) ↔
            ∀ w, Fields.get? c.props "value" = some w → w = .str v)))
        (p.components.filter Component.isControl) root'.controls := by
  obtain ⟨⟨root, hrender⟩, rfl⟩ := change_eq_ok_true h
  have hpageOf (v : PageView) (hdocument : v.document = s.view.document)
      (hid : v.pageId = s.history.current) : v.render = View.page v.context p := by
    rw [PageView.render, hdocument, hid, View.pageOf, hpage]
  have hbefore := hrender
  rw [hpageOf _ s.refresh_document s.refresh_pageId] at hbefore
  let typed := s.refresh.view.setValue id v
  obtain ⟨root', hafter⟩ : ∃ root', View.page typed.context p = .ok root' :=
    View.page_isOk_iff.mpr (View.page_isOk_iff.mp ⟨root, hbefore⟩)
  have hrefresh : ({ s.refresh with view := typed } : Session).refresh =
      { s.refresh with view := typed } := refresh_eq_self s.refresh_pageId
  have hrender' : typed.render = .ok root' :=
    (hpageOf typed s.refresh_document s.refresh_pageId).trans hafter
  have hshown := View.page_controls hkeys hbefore
  have hshown' := View.page_controls hkeys hafter
  refine ⟨root, root', hrender, ?_, rfl, s.refresh_document, View.shown_before_after hshown hshown',
    hshown'.imp fun c n hn => ⟨hn.id, hn.typed_iff⟩⟩
  rw [hrefresh]
  exact hrender'

/-- A note whose properties have a value of their own. -/
def draftNote : Component where
  id := "note"
  type := "textarea"
  props := [("value", .str "draft")]

/-- A control without properties. -/
def plainName : Component where
  id := "name"
  type := "text-input"

/-- A page with the plain control and the note. -/
def notePage : Page where
  id := "home"
  components := [plainName, draftNote]

/-- The session that has opened the page. -/
def noteSession : Session :=
  start { id := "app", pages := [notePage] } none {}

theorem notePage_distinctKeys : ∀ c ∈ notePage.components, c.props.DistinctKeys := by
  simp [notePage, plainName, draftNote, Fields.DistinctKeys]

theorem notePage_controls {related : Component → Node → Prop} {ns : List Node}
    (h : List.Forall₂ related (notePage.components.filter Component.isControl) ns) :
    ∃ name note, ns = [name, note] ∧ related plainName name ∧ related draftNote note := by
  have hcontrols : notePage.components.filter Component.isControl = [plainName, draftNote] := rfl
  rw [hcontrols] at h
  cases h with
  | cons hname hrest =>
      cases hrest with
      | cons hnote hnil =>
          cases hnil
          exact ⟨_, _, rfl, hname, hnote⟩

theorem draft_ne_typed : ¬ ∀ w, Fields.get? draftNote.props "value" = some w → w = .str "Ada" := by
  intro h
  have hdraft : Json.str "draft" = .str "Ada" := h _ rfl
  exact absurd (Json.str.inj hdraft) (by decide)

/-- A name that is typed is shown; a text that is typed into the note is taken and not shown. -/
theorem name_shown_draft_kept :
    (∃ next root name note, noteSession.change "name" "Ada" = .ok (true, next) ∧
      next.refresh.view.render = .ok root ∧ root.controls = [name, note] ∧
      name.value? = some (.str "Ada")) ∧
    ∃ next root name note, noteSession.change "note" "Ada" = .ok (true, next) ∧
      next.refresh.view.render = .ok root ∧ root.controls = [name, note] ∧
      note.value? ≠ some (.str "Ada") := by
  constructor
  · obtain ⟨next, hchange⟩ : ∃ next, noteSession.change "name" "Ada" = .ok (true, next) := ⟨_, rfl⟩
    obtain ⟨-, root, -, hrender, -, -, -, hshown⟩ :=
      change_shown_iff (p := notePage) rfl notePage_distinctKeys hchange
    obtain ⟨name, note, hroot, hname, -⟩ := notePage_controls hshown
    exact ⟨next, root, name, note, hchange, hrender, hroot,
      (hname.2 rfl).mpr (by simp [plainName])⟩
  · obtain ⟨next, hchange⟩ : ∃ next, noteSession.change "note" "Ada" = .ok (true, next) := ⟨_, rfl⟩
    obtain ⟨-, root, -, hrender, -, -, -, hshown⟩ :=
      change_shown_iff (p := notePage) rfl notePage_distinctKeys hchange
    obtain ⟨name, note, hroot, -, hnote⟩ := notePage_controls hshown
    exact ⟨next, root, name, note, hchange, hrender, hroot, mt (hnote.2 rfl).mp draft_ne_typed⟩

/-- Not every value that a control takes is shown by it. -/
theorem not_every_change_shown :
    ¬ ∀ (d : Document) (stored : Option String) (config : Config) (rs : List Request)
        (s next : Session) (p : Page) (c : Component) (v : String) (root n : Node),
        (start d stored config).run rs = s → d.page? s.history.current = some p →
        c ∈ p.components → c.isControl = true → c.props.DistinctKeys →
        s.change c.id v = .ok (true, next) → next.refresh.view.render = .ok root →
        n ∈ root.controls → n.id = c.id → n.value? = some (.str v) := by
  intro h
  obtain ⟨next, hnext⟩ : ∃ next, noteSession.change "note" "Ada" = .ok (true, next) := ⟨_, rfl⟩
  obtain ⟨root, hroot⟩ : ∃ root, next.refresh.view.render = .ok root := by
    cases hnext
    exact ⟨_, rfl⟩
  have hshown := fun n => h { id := "app", pages := [notePage] } none {} [] noteSession next
    notePage draftNote "Ada" root n rfl rfl (by simp [notePage]) rfl
    (by simp [draftNote, Fields.DistinctKeys]) hnext hroot
  cases hnext
  cases hroot
  have hvalue := hshown _ (List.mem_cons_of_mem _ List.mem_cons_self) rfl
  exact absurd (Json.str.inj (Option.some.inj hvalue)) (by decide)

end Session

end PageBuilder
