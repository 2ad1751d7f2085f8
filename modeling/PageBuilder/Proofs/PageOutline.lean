import PageBuilder.Outline
import PageBuilder.Proofs.JsonReading
import PageBuilder.Proofs.PageRendering
import PageBuilder.View.Address

/-! # The components of a page in its slots and in its outline

A rendered page has one slot for each of its components, in order, and its outline has one entry for
each of them behind the header, in the same order. Nothing else is in either. -/

namespace PageBuilder

theorem ComponentKind.ofName?_eq_some_iff {s : String} {k : ComponentKind} :
    ofName? s = some k ↔ s = k.name := by
  constructor
  · intro h
    have hname := List.find?_some h
    exact (beq_iff_eq.mp hname).symm
  · rintro rfl
    exact ofName?_name k

theorem Component.kind?_eq_image_iff {c : Component} : c.kind? = some .image ↔ c.type = "image" :=
  ComponentKind.ofName?_eq_some_iff

/-! ### Slots -/

namespace View

variable {ctx : RenderContext}

/-- The slot of a component names it, holds its node and nothing else, keeps the gap to the next
component, and reaches over the inset of the page for an image. -/
structure SlotOf (ctx : RenderContext) (isLast : Bool) (c : Component) (n : Node) : Prop where
  kind : n.kind = .slot
  id : n.id = slotId c.id
  componentId : Fields.get? n.attrs "componentId" = some (.str c.id)
  child : ∃ node, component ctx c = .ok node ∧ n.children = [node]
  placeholder : c.kind? = none → n.children = [unsupported ctx c]
  bottom : Fields.get? n.style "marginBottom" =
    some (if isLast then .int 0 else .float ctx.config.componentGap)
  sides : ∀ key ∈ ["marginLeft", "marginRight"], Fields.get? n.style key =
    if c.type = "image" then some (.float (-ctx.config.pageInset)) else none

theorem slotOf_slot (isLast : Bool) {c : Component} {n : Node} (h : component ctx c = .ok n) :
    SlotOf ctx isLast c (slot ctx.config isLast c n) where
  kind := rfl
  id := rfl
  componentId := rfl
  child := ⟨n, h, rfl⟩
  placeholder := by
    intro hunknown
    rw [component_of_unknown hunknown] at h
    cases h
    rfl
  bottom := rfl
  sides := by
    intro key hkey
    simp only [List.mem_cons, List.not_mem_nil, or_false] at hkey
    by_cases himage : c.kind? = some .image
    · rw [if_pos (Component.kind?_eq_image_iff.mp himage)]
      rcases hkey with rfl | rfl <;> simp [slot, slotStyle, himage, Fields.get?_cons]
    · rw [if_neg (mt Component.kind?_eq_image_iff.mpr himage)]
      rcases hkey with rfl | rfl <;> simp [slot, slotStyle, himage, Fields.get?_cons]

/-- The slot at a position is that of the component there, and the last slot is that of the last
component. -/
theorem slots_slotOf {cs : List Component} {ns : List Node} (h : slots ctx cs = .ok ns) :
    ns.length = cs.length ∧ ∀ i c, cs[i]? = some c →
      ∃ n, ns[i]? = some n ∧ SlotOf ctx (i + 1 == cs.length) c n := by
  induction cs generalizing ns with
  | nil =>
      cases h
      exact ⟨rfl, nofun⟩
  | cons c cs ih =>
      simp only [slots] at h
      split at h
      · cases h
      · next n hn =>
        split at h
        · cases h
        · next others hothers =>
          cases h
          obtain ⟨hlength, hrest⟩ := ih hothers
          refine ⟨congrArg (· + 1) hlength, fun i d hd => ?_⟩
          cases i with
          | zero =>
              cases hd
              refine ⟨_, rfl, ?_⟩
              have hlast : (0 + 1 == (c :: cs).length) = cs.isEmpty := by cases cs <;> rfl
              rw [hlast]
              exact slotOf_slot cs.isEmpty hn
          | succ i =>
              obtain ⟨m, hm, hslot⟩ := hrest i d hd
              refine ⟨m, hm, ?_⟩
              have hlast : (i + 1 + 1 == (c :: cs).length) = (i + 1 == cs.length) := by
                simp [List.length_cons]
              rw [hlast]
              exact hslot

end View

/-! ### Lines -/

namespace Component

/-- How the line of a component begins: with its kind, followed by the id of a control. A component
of unknown kind tells its type. -/
def lineHead (c : Component) : String :=
  match c.kind? with
  | some kind => if kind.isControl then kind.name ++ " " ++ c.id else kind.name ++ " "
  | none => "?? Unsupported component: " ++ c.type

end Component

namespace Outline

variable {ctx : RenderContext} {c : Component} {n : Node}

/-- The node has one line, whatever the indent and the depth, which begins with `start`. -/
def OneLine (start : String) (n : Node) : Prop :=
  ∃ rest, ∀ indent depth,
    lines ⟨indent, false⟩ depth n = [pad ⟨indent, false⟩ depth ++ (start ++ rest)]

/-- What has nothing below it that is shown has the line that describes it. -/
theorem oneLine_of_leaf {start : String} (hkind : n.kind ∉ [.slot, .field])
    (hleaf : n.kind = .button ∨ n.children = []) (hstart : ∃ rest, describe n = start ++ rest) :
    OneLine start n := by
  obtain ⟨rest, hline⟩ := hstart
  refine ⟨rest, fun indent depth => ?_⟩
  obtain ⟨kind, id, text, style, attrs, children, behaviour⟩ := n
  rw [← hline]
  rcases hleaf with rfl | rfl
  · rfl
  · cases kind with
    | slot | field => simp at hkind
    | _ => rfl

/-- The lines of these kinds begin with the name of the kind. -/
theorem describe_start (h : n.kind ∈ [.text, .heading, .button, .image, .spacer]) :
    ∃ rest, describe n = n.kind.name ++ " " ++ rest := by
  obtain ⟨kind, id, text, style, attrs, children, behaviour⟩ := n
  simp only [List.mem_cons, List.not_mem_nil, or_false] at h
  rcases h with rfl | rfl | rfl | rfl | rfl
  · exact ⟨_, rfl⟩
  · exact ⟨_, rfl⟩
  · simp only [describe, describeButton, String.append_assoc]
    exact ⟨_, rfl⟩
  · simp only [describe, String.append_assoc]
    exact ⟨_, rfl⟩
  · exact ⟨_, rfl⟩

theorem describeControl_start (n : Node) (label : Option String) :
    ∃ rest, describeControl n label = n.kind.name ++ " " ++ n.id ++ rest := by
  simp only [describeControl, String.append_assoc]
  exact ⟨_, rfl⟩

/-- A field has the line of its control, with its label. -/
theorem oneLine_field (ctx : RenderContext) (c : Component) (kind : ControlKind)
    (label : Option String) (style attrs : Fields) :
    OneLine (kind.name ++ " " ++ c.id) (View.field ctx c kind label style attrs) := by
  let field := View.field ctx c kind label style attrs
  obtain ⟨control, hcontrol, hkind, hid⟩ : ∃ control, field.children.filter isControl = [control] ∧
      control.kind = .control kind ∧ control.id = c.id := by
    cases hlabel : label.filter (· != "") <;>
      simp [field, View.field, hlabel, isControl, List.filter_cons]
  obtain ⟨rest, hrest⟩ := describeControl_start control (fieldLabel field.children)
  rw [hkind, hid] at hrest
  refine ⟨rest, fun indent depth => ?_⟩
  have hlines : lines ⟨indent, false⟩ depth field = (field.children.filter isControl).map fun n =>
      pad ⟨indent, false⟩ depth ++ describeControl n (fieldLabel field.children) := rfl
  rw [hlines, hcontrol, List.map_singleton, hrest]
  rfl

/-- A component has one line in an outline. -/
theorem oneLine_component (h : View.component ctx c = .ok n) : OneLine c.lineHead n := by
  obtain ⟨props, hprops, rfl⟩ := Json.map_ok h
  have hkind : c.kind? = props.kind? := (TypedProps.kind?_of_ofType hprops).symm
  unfold Component.lineHead
  rw [hkind]
  cases props with
  | text | heading | image | spacer =>
      refine oneLine_of_leaf ?_ (.inr rfl) (describe_start ?_) <;>
        simp [View.ofProps, View.text, View.heading, View.image, View.spacer]
  | button =>
      refine oneLine_of_leaf ?_ (.inl rfl) (describe_start ?_) <;>
        simp [View.ofProps, View.button]
  | unknown =>
      refine oneLine_of_leaf (by simp [View.ofProps, View.unsupported]) (.inr rfl) ⟨"", ?_⟩
      rw [String.append_empty]
      exact String.append_assoc.symm
  | textInput | textarea | datePicker => exact oneLine_field ctx c _ _ _ _

/-! ### Outlines of pages -/

/-- Lines that are joined by new lines, with one more at the end, each end with a new line. -/
theorem intercalate_lines (first : String) (rest : List String) :
    "\n".intercalate (first :: rest) ++ "\n" =
      first ++ "\n" ++ String.join (rest.map (· ++ "\n")) := by
  induction rest generalizing first with
  | nil => simp
  | cons second rest ih =>
      rw [String.intercalate_cons_cons, String.append_assoc, ih, List.map_cons, String.join_cons]

theorem lines_page {root : Node} (h : root.kind = .page) (indent : Nat) :
    lines ⟨indent, false⟩ 0 root = describe root :: linesAll ⟨indent, false⟩ 1 root.children := by
  obtain ⟨kind, id, text, style, attrs, children, behaviour⟩ := root
  cases h
  have hpad : pad ⟨indent, false⟩ 0 = "" := rfl
  simp [lines, styleLines, hpad]

/-- The lines of a slot are those of the node in it. -/
theorem lines_slot (style : OutlineStyle) (depth : Nat) (config : Config) (isLast : Bool) :
    lines style depth (View.slot config isLast c n) = lines style depth n := by
  simp [View.slot, lines, linesAll]

/-- The entry of a component in the outline of its page: after the indent the line that the
component has on its own, and a new line at its end. -/
def EntryOf (ctx : RenderContext) (indent : Nat) (c : Component) (entry : String) : Prop :=
  ∃ n rest, View.component ctx c = .ok n ∧
    lines ⟨indent, false⟩ 0 n = [c.lineHead ++ rest] ∧
    entry = String.ofList (List.replicate indent ' ') ++ (c.lineHead ++ rest) ++ "\n"

/-- The node of a component has one entry, one step deeper than the page. -/
def HasEntry (ctx : RenderContext) (indent : Nat) (c : Component) (n : Node) : Prop :=
  ∃ entry, EntryOf ctx indent c entry ∧
    (lines ⟨indent, false⟩ 1 n).map (· ++ "\n") = [entry]

theorem hasEntry_slot (indent : Nat) (config : Config) (isLast : Bool)
    (h : View.component ctx c = .ok n) :
    HasEntry ctx indent c (View.slot config isLast c n) := by
  obtain ⟨rest, hlines⟩ := oneLine_component h
  have hpad : pad ⟨indent, false⟩ 0 = "" := rfl
  have hindent : pad ⟨indent, false⟩ 1 = String.ofList (List.replicate indent ' ') := by
    simp [pad]
  refine ⟨_, ⟨n, rest, h, ?_, rfl⟩, ?_⟩
  · rw [hlines, hpad, String.empty_append]
  · rw [lines_slot, hlines, hindent, List.map_singleton]

theorem entries_of_slots {indent : Nat} {cs : List Component} {ns : List Node}
    (h : List.Forall₂ (HasEntry ctx indent) cs ns) :
    List.Forall₂ (EntryOf ctx indent) cs
      ((linesAll ⟨indent, false⟩ 1 ns).map (· ++ "\n")) := by
  induction h with
  | nil => exact .nil
  | cons hfirst _ ih =>
      obtain ⟨entry, hentry, hlines⟩ := hfirst
      rw [linesAll, List.map_append, hlines]
      exact .cons hentry ih

end Outline

/-- The header of the outline of a page: its id, its title if it has one, and its background. -/
def Page.headerLine (ctx : RenderContext) (p : Page) : String :=
  let wanted := Fields.value p.extras "backgroundColor"
  let background := if wanted.truthy then wanted else .str ctx.theme.background
  let title := if p.title = "" then "" else " " ++ Outline.quoted p.title
  "page " ++ p.id ++ title ++ " (bg " ++ background.display ++ ")"

theorem Outline.describe_page {ctx : RenderContext} {p : Page} {root : Node}
    (h : View.page ctx p = .ok root) : describe root = p.headerLine ctx := by
  obtain ⟨ns, -, rfl⟩ := Json.map_ok h
  unfold Page.headerLine
  by_cases htitle : p.title = ""
  · simp only [describe, if_pos htitle]
    rfl
  · have hshown : (some p.title).filter (· != "") = some p.title := by simp [htitle]
    simp only [describe, if_neg htitle, hshown]
    rfl

namespace PageView

/-- A rendered page has one slot for each of its components, in order, and its outline is its header
and one entry for each component, in the same order. -/
theorem slots_and_entries_in_order {v : PageView} {p : Page} {root : Node}
    (hpage : v.document.page? v.pageId = some p) (hroot : v.render = .ok root) :
    root.kind = .page ∧ root.id = p.id ∧
      (root.children.length = p.components.length ∧
        ∀ i c, p.components[i]? = some c → ∃ n, root.children[i]? = some n ∧
          View.SlotOf v.context (i + 1 == p.components.length) c n) ∧
      ∀ indent : Nat, ∃ entries,
        Outline.text ⟨indent, false⟩ root =
          p.headerLine v.context ++ "\n" ++ String.join entries ∧
        List.Forall₂ (Outline.EntryOf v.context indent) p.components entries := by
  rw [render, View.pageOf, hpage] at hroot
  have hheader := Outline.describe_page hroot
  obtain ⟨ns, hslots, rfl⟩ := Json.map_ok hroot
  refine ⟨rfl, rfl, View.slots_slotOf hslots, fun indent => ?_⟩
  have hentries : List.Forall₂ (Outline.HasEntry v.context indent) p.components ns :=
    View.slots_forall₂ (fun _ _ _ _ hn => Outline.hasEntry_slot indent _ _ hn) hslots
  refine ⟨_, ?_, Outline.entries_of_slots hentries⟩
  rw [Outline.text, Outline.lines_page rfl, Outline.intercalate_lines, hheader]

/-- A picture, a name with a label, and a component of unknown kind. -/
def galleryPage : Page where
  id := "home"
  title := "Gallery"
  components := [
    { id := "pic", type := "image", props := [("source", .str "sky.png")] },
    { id := "name", type := "text-input", props := [("label", .str "Name")] },
    { id := "place", type := "map" }]

/-- The page on show, with a name typed in. -/
def galleryView : PageView :=
  (start { id := "app", pages := [galleryPage] } "home" {}).setValue "name" "Ada"

/-- The picture reaches over the inset and the last slot keeps no gap. Each component has its line,
the unknown one too. -/
theorem gallery_in_order : ∃ root pic name place, galleryView.render = .ok root ∧
    root.children = [pic, name, place] ∧
    Fields.get? pic.style "marginLeft" = some (.float (-galleryView.config.pageInset)) ∧
    Fields.get? name.style "marginLeft" = none ∧
    Fields.get? name.style "marginBottom" = some (.float galleryView.config.componentGap) ∧
    Fields.get? place.style "marginBottom" = some (.int 0) ∧
    ∃ r s t, Outline.text ⟨3, false⟩ root = "page home \"Gallery\" (bg #FFFFFF)\n" ++ String.join
      ["   image " ++ r ++ "\n", "   text-input name" ++ s ++ "\n",
        "   ?? Unsupported component: map" ++ t ++ "\n"] := by
  obtain ⟨root, hroot⟩ : ∃ root, galleryView.render = .ok root := ⟨_, rfl⟩
  obtain ⟨-, -, ⟨hlength, hslots⟩, houtline⟩ :=
    slots_and_entries_in_order (p := galleryPage) rfl hroot
  obtain ⟨pic, name, place, hchildren⟩ := List.length_eq_three.mp hlength
  rw [hchildren] at hslots
  obtain ⟨_, hfirst, hpic⟩ := hslots 0 _ rfl
  obtain ⟨_, hsecond, hname⟩ := hslots 1 _ rfl
  obtain ⟨_, hthird, hplace⟩ := hslots 2 _ rfl
  cases hfirst
  cases hsecond
  cases hthird
  obtain ⟨entries, htext, hentries⟩ := houtline 3
  cases hentries with
  | cons hentry hentries =>
    cases hentries with
    | cons hentry' hentries =>
      cases hentries with
      | cons hentry'' hentries =>
        cases hentries
        obtain ⟨_, r, -, -, rfl⟩ := hentry
        obtain ⟨_, s, -, -, rfl⟩ := hentry'
        obtain ⟨_, t, -, -, rfl⟩ := hentry''
        refine ⟨root, pic, name, place, hroot, hchildren, ?_, ?_, hname.bottom, hplace.bottom,
          r, s, t, htext⟩
        · exact hpic.sides "marginLeft" (by simp)
        · exact hname.sides "marginLeft" (by simp)

end PageView

end PageBuilder
