import PageBuilder.Proofs.JsonReading
import PageBuilder.Proofs.PageRendering
import PageBuilder.View.Address

/-! # The nodes of a page by their ids

What the nodes of a rendered component have as ids, and which of them answer to a click or a change.
Hence which node of a page answers to an id. -/

namespace PageBuilder

/-! ### Walks -/

namespace Node

theorem walkAll_eq_flatMap (ns : List Node) : walkAll ns = ns.flatMap walk := by
  induction ns with
  | nil => rfl
  | cons n ns ih => rw [walkAll, ih, List.flatMap_cons]

theorem walk_eq (n : Node) : n.walk = n :: n.children.flatMap walk := by
  cases n
  rw [walk, walkAll_eq_flatMap]

theorem changeField?_eq_some_iff {n : Node} {id : String} :
    n.changeField? = some id ↔ n.behaviour = .edit id := by
  unfold changeField?
  cases n.behaviour <;> simp

theorem walk_of_no_children {n : Node} (h : n.children = []) : n.walk = [n] := by
  rw [walk_eq, h]
  rfl

end Node

/-! ### The nodes of a component -/

theorem Component.id_mem_nodeIds (c : Component) : c.id ∈ c.nodeIds := by
  unfold nodeIds
  split
  · simp
  · split <;> simp

namespace TypedProps

/-- The label of a control. -/
def label? : TypedProps → Option String
  | .textInput label .. | .textarea label .. | .datePicker label .. => label
  | _ => none

theorem label?_of_ofKind {kind : ComponentKind} (hkind : kind.isControl = true) {props : Fields}
    {p : TypedProps} (h : ofKind kind props = .ok p) :
    p.label? = (Fields.value props "label").displayUnlessNull? := by
  cases kind with
  | textInput | datePicker =>
      cases h
      rfl
  | textarea =>
      simp only [ofKind, Except.bind_eq_ok_iff] at h
      obtain ⟨rows, -, hp⟩ := h
      cases hp
      rfl
  | _ => cases hkind

theorem label?_of_ofType {type : String} {props : Fields} {p : TypedProps}
    (h : ofType type props = .ok p) (hcontrol : p.kind?.any ComponentKind.isControl = true) :
    p.label? = (Fields.value props "label").displayUnlessNull? := by
  unfold ofType at h
  split at h
  · rw [kind?_of_ofKind h] at hcontrol
    exact label?_of_ofKind hcontrol h
  · cases h
    cases hcontrol

end TypedProps

namespace View

@[simp] theorem slotId_ne (id : String) : slotId id ≠ id := by
  intro h
  simpa [slotId] using congrArg String.length h

@[simp] theorem labelId_ne (id : String) : labelId id ≠ id := by
  intro h
  simpa [labelId] using congrArg String.length h

@[simp] theorem fieldId_ne (id : String) : fieldId id ≠ id := by
  intro h
  simpa [fieldId] using congrArg String.length h

variable {ctx : RenderContext} {config : Config} {isLast : Bool} {c : Component}

/-- The nodes that a component is shown as. -/
structure Shown (ctx : RenderContext) (c : Component) (ns : List Node) : Prop where
  ids : ns.map Node.id = c.nodeIds
  behaviour : ∀ n ∈ ns, n.behaviour = if n.id = c.id then behaviour ctx c else .inert

theorem walk_slot (n : Node) :
    (slot config isLast c n).walk = slot config isLast c n :: n.walk := by
  rw [Node.walk_eq, slot, List.flatMap_singleton]

/-- Components that are neither buttons nor controls have one node that answers to nothing. -/
theorem shown_plain {n : Node} (hbutton : c.kind? ≠ some .button) (hcontrol : c.isControl = false)
    (hid : n.id = c.id) (hchildren : n.children = []) (hinert : n.behaviour = .inert) :
    Shown ctx c (slot config isLast c n).walk := by
  rw [walk_slot, Node.walk_of_no_children hchildren]
  constructor
  · simp [Component.nodeIds, hbutton, hcontrol, hid, slot]
  · simp [behaviour, hbutton, hcontrol, hinert, slot]

theorem shown_button (hkind : c.kind? = some .button) (title variant : String)
    (style : Option Fields) (extra : Fields) :
    Shown ctx c (slot config isLast c (button ctx c title variant style extra)).walk := by
  rw [walk_slot]
  constructor
  · simp [Component.nodeIds, hkind, slot, button, Node.walk, Node.walkAll]
  · simp [behaviour, hkind, slot, button, Node.walk, Node.walkAll]

theorem shown_field (hbutton : c.kind? ≠ some .button) (hcontrol : c.isControl = true)
    {label : Option String} (hlabel : label.filter (· != "") = c.label?) (kind : ControlKind)
    (style attrs : Fields) :
    Shown ctx c (slot config isLast c (field ctx c kind label style attrs)).walk := by
  rw [walk_slot]
  cases hshown : c.label? with
  | none =>
      constructor
      · simp [Component.nodeIds, hbutton, hcontrol, hlabel, hshown, slot, field, Node.walk,
          Node.walkAll]
      · simp [behaviour, hbutton, hcontrol, hlabel, hshown, slot, field, Node.walk, Node.walkAll]
  | some text =>
      constructor
      · simp [Component.nodeIds, hbutton, hcontrol, hlabel, hshown, slot, field, Node.walk,
          Node.walkAll]
      · simp [behaviour, hbutton, hcontrol, hlabel, hshown, slot, field, Node.walk, Node.walkAll]

theorem component_shown {n : Node} (h : component ctx c = .ok n) :
    Shown ctx c (slot config isLast c n).walk := by
  obtain ⟨props, hprops, rfl⟩ := Json.map_ok h
  have hkind : c.kind? = props.kind? := (TypedProps.kind?_of_ofType hprops).symm
  have hcontrol : c.isControl = props.kind?.any ComponentKind.isControl := by
    rw [Component.isControl, hkind]
  cases props with
  | text | heading | image | spacer | unknown =>
      refine shown_plain ?_ hcontrol rfl rfl rfl
      rw [hkind]
      nofun
  | button => exact shown_button hkind _ _ _ _
  | textInput | textarea | datePicker =>
      have hlabel := TypedProps.label?_of_ofType hprops rfl
      refine shown_field ?_ hcontrol (congrArg (Option.filter (· != "")) hlabel) _ _ _
      rw [hkind]
      nofun

theorem of_behaviour_eq_edit {id : String} (h : behaviour ctx c = .edit id) :
    c.id = id ∧ c.isControl = true := by
  unfold behaviour at h
  split at h
  · unfold press at h
    split at h
    · split at h <;> cases h
    · cases h
  · split at h
    · next hcontrol =>
      rw [Bool.and_eq_true] at hcontrol
      cases h
      exact ⟨rfl, hcontrol.1⟩
    · cases h

theorem clickToken?_of_behaviour {n : Node} (hn : n.behaviour = behaviour ctx c)
    (hbutton : c.kind? = some .button) (hactionable : ctx.actionable = true) :
    n.clickToken? = c.action.bind Action.token? := by
  simp only [Node.clickToken?, hn, behaviour, if_pos hbutton, press, hactionable]
  cases c.action <;> rfl

theorem clickToken?_of_inert {n : Node} (h : n.behaviour = .inert) : n.clickToken? = none := by
  simp [Node.clickToken?, h]

/-! ### The nodes of a page -/

/-- The nodes `ns` are what the components are shown as, in order. -/
abbrev AllShown (ctx : RenderContext) : List Component → List Node → Prop :=
  List.Forall₂ fun c n => Shown ctx c n.walk

theorem AllShown.control {cs : List Component} {ns : List Node} (h : AllShown ctx cs ns)
    {n : Node} (hn : n ∈ ns.flatMap Node.walk) {id : String} (hedit : n.behaviour = .edit id) :
    n.id = id ∧ ∃ c ∈ cs, c.id = id ∧ c.isControl = true := by
  induction h with
  | nil => cases hn
  | @cons c m cs ns hshown _ ih =>
      rw [List.flatMap_cons, List.mem_append] at hn
      rcases hn with hn | hn
      · have hown := hshown.behaviour n hn
        rw [hedit] at hown
        split at hown
        · next hid =>
          obtain ⟨hc, hcontrol⟩ := of_behaviour_eq_edit hown.symm
          exact ⟨hid.trans hc, c, List.mem_cons_self, hc, hcontrol⟩
        · cases hown
      · obtain ⟨hid, d, hd, hcontrol⟩ := ih hn
        exact ⟨hid, d, List.mem_cons_of_mem c hd, hcontrol⟩

/-- The first node with an id, among nodes that have these ids. -/
theorem exists_find?_of_mem_ids {ns : List Node} {id : String} (h : id ∈ ns.map Node.id) :
    ∃ n ∈ ns, ns.find? (fun m => m.id == id) = some n ∧ n.id = id := by
  obtain ⟨m, hm, hmid⟩ := List.mem_map.mp h
  have hfound : (ns.find? fun m => m.id == id).isSome := by
    rw [List.find?_isSome]
    exact ⟨m, hm, beq_iff_eq.mpr hmid⟩
  obtain ⟨n, hn⟩ := Option.isSome_iff_exists.mp hfound
  have hid := List.find?_some hn
  exact ⟨n, List.mem_of_find?_eq_some hn, hn, by simpa using hid⟩

theorem find?_eq_none_of_not_mem_ids {ns : List Node} {id : String} (h : id ∉ ns.map Node.id) :
    ns.find? (fun m => m.id == id) = none := by
  rw [List.find?_eq_none]
  intro m hm hmid
  exact h (List.mem_map.mpr ⟨m, hm, beq_iff_eq.mp hmid⟩)

/-- A component whose id no node in front of it has is found by its id. -/
theorem AllShown.find?_own {cs : List Component} {ns : List Node} (h : AllShown ctx cs ns)
    (hids : (cs.map Component.id).Nodup) {c : Component} (hc : c ∈ cs)
    (hbefore : c.id ∉ (cs.takeWhile (·.id != c.id)).flatMap Component.nodeIds) :
    ∃ n, (ns.flatMap Node.walk).find? (fun m => m.id == c.id) = some n ∧
      n.behaviour = behaviour ctx c := by
  induction h with
  | nil => cases hc
  | @cons e m cs ns hshown _ ih =>
      rw [List.map_cons, List.nodup_cons] at hids
      rw [List.flatMap_cons, List.find?_append]
      by_cases heq : e.id = c.id
      · have hsame : c = e := by
          rcases List.mem_cons.mp hc with rfl | hrest
          · rfl
          · exact absurd (List.mem_map.mpr ⟨c, hrest, heq.symm⟩) hids.1
        subst hsame
        have hmem : c.id ∈ m.walk.map Node.id := by
          rw [hshown.ids]
          exact c.id_mem_nodeIds
        obtain ⟨n, hn, hfound, hid⟩ := exists_find?_of_mem_ids hmem
        refine ⟨n, by rw [hfound, Option.some_or], ?_⟩
        rw [hshown.behaviour n hn, if_pos hid]
      · have hrest : c ∈ cs := (List.mem_cons.mp hc).resolve_left fun h => heq (congrArg _ h.symm)
        rw [List.takeWhile_cons_of_pos (by simpa using heq), List.flatMap_cons,
          List.mem_append, not_or, ← hshown.ids] at hbefore
        rw [find?_eq_none_of_not_mem_ids hbefore.1, Option.none_or]
        exact ih hids.2 hrest hbefore.2

/-- An id that is met in front of the component that has it leads to a node that answers to
nothing. -/
theorem AllShown.find?_before {cs : List Component} {ns : List Node} (h : AllShown ctx cs ns)
    {id : String} (hbefore : id ∈ (cs.takeWhile (·.id != id)).flatMap Component.nodeIds) :
    ∃ n, (ns.flatMap Node.walk).find? (fun m => m.id == id) = some n ∧ n.behaviour = .inert := by
  induction h with
  | nil => cases hbefore
  | @cons e m cs ns hshown _ ih =>
      by_cases heq : e.id = id
      · rw [List.takeWhile_cons_of_neg (by simpa using heq)] at hbefore
        cases hbefore
      · rw [List.takeWhile_cons_of_pos (by simpa using heq), List.flatMap_cons,
          List.mem_append, ← hshown.ids] at hbefore
        rw [List.flatMap_cons, List.find?_append]
        by_cases hmem : id ∈ m.walk.map Node.id
        · obtain ⟨n, hn, hfound, hid⟩ := exists_find?_of_mem_ids hmem
          refine ⟨n, by rw [hfound, Option.some_or], ?_⟩
          rw [hshown.behaviour n hn, if_neg (hid ▸ Ne.symm heq)]
        · rw [find?_eq_none_of_not_mem_ids hmem, Option.none_or]
          exact ih (hbefore.resolve_left hmem)

/-- A rendered page: its own node answers to nothing, and its components are shown below it. -/
structure PageShown (ctx : RenderContext) (p : Page) (root : Node) : Prop where
  id : root.id = p.id
  behaviour : root.behaviour = .inert
  components : AllShown ctx p.components root.children

theorem page_shown {p : Page} {root : Node} (h : page ctx p = .ok root) : PageShown ctx p root := by
  obtain ⟨ns, hslots, rfl⟩ := Json.map_ok h
  exact ⟨rfl, rfl, slots_forall₂ (fun _ _ _ _ hn => component_shown hn) hslots⟩

namespace PageShown

variable {p : Page} {root : Node}

/-- Only controls answer to a change, each for its own id. -/
theorem control (h : PageShown ctx p root) {n : Node} (hn : n ∈ root.walk) {id : String}
    (hedit : n.behaviour = .edit id) :
    n.id = id ∧ ∃ c ∈ p.components, c.id = id ∧ c.isControl = true := by
  rw [Node.walk_eq, List.mem_cons] at hn
  rcases hn with rfl | hn
  · rw [h.behaviour] at hedit
    cases hedit
  · exact h.components.control hn hedit

theorem find?_own (h : PageShown ctx p root) (hids : p.componentIds.Nodup) {c : Component}
    (hc : c ∈ p.components) (hbefore : c.id ∉ p.idsBefore c.id) :
    ∃ n, root.find? c.id = some n ∧ n.behaviour = View.behaviour ctx c := by
  rw [Page.idsBefore, List.mem_cons, not_or, ← h.id] at hbefore
  rw [Node.find?, Node.walk_eq, List.find?_cons_of_neg (by simpa using Ne.symm hbefore.1)]
  exact h.components.find?_own hids hc hbefore.2

theorem find?_before (h : PageShown ctx p root) {id : String} (hbefore : id ∈ p.idsBefore id) :
    ∃ n, root.find? id = some n ∧ n.behaviour = .inert := by
  rw [Page.idsBefore, List.mem_cons, ← h.id] at hbefore
  rw [Node.find?, Node.walk_eq]
  by_cases hroot : id = root.id
  · exact ⟨root, List.find?_cons_of_pos (by simpa using hroot.symm), h.behaviour⟩
  · rw [List.find?_cons_of_neg (by simpa using Ne.symm hroot)]
    exact h.components.find?_before (hbefore.resolve_left hroot)

end PageShown

/-- What answers to a change is a control of the page on show. -/
theorem control_of_pageOf {d : Document} {page id : String} {root n : Node}
    (h : pageOf ctx d page = .ok root) (hn : n ∈ root.walk) (hedit : n.behaviour = .edit id) :
    n.id = id ∧ d.HasControl page id := by
  unfold pageOf at h
  split at h
  · next p hp =>
    obtain ⟨hid, hcontrol⟩ := (page_shown h).control hn hedit
    exact ⟨hid, p, hp, hcontrol⟩
  · cases h
    rw [Node.walk_of_no_children rfl, List.mem_singleton] at hn
    rw [hn] at hedit
    cases hedit

end View

end PageBuilder
