import PageBuilder.Proofs.NodeIds

/-! # Properties that a kind does not name

A property that the kind of a component does not name is kept as it is, and the attributes of a node
are merged with it: where both have the key, the property is the one that is shown. -/

namespace PageBuilder

namespace TypedProps

/-- The properties that a kind names. -/
def named : ComponentKind → List String
  | .text | .heading => ["style", "text"]
  | .button => ["style", "title", "variant"]
  | .textInput => ["style", "label", "placeholder", "keyboardType", "autoCapitalize"]
  | .textarea => ["style", "label", "placeholder", "rows", "autoCapitalize"]
  | .datePicker => ["style", "label", "placeholder"]
  | .image => ["style", "source"]
  | .spacer => ["style", "size"]

/-- The properties that the kind does not name. -/
def extra : TypedProps → Fields
  | .text _ _ extra | .heading _ _ extra | .button _ _ _ extra | .textInput _ _ _ _ _ extra
  | .textarea _ _ _ _ _ extra | .datePicker _ _ _ extra | .image _ _ extra
  | .spacer _ extra => extra
  | .unknown values => values

/-- All kinds but the spacer, which keeps its style, leave out exactly what they name. -/
theorem extra_of_ofKind {kind : ComponentKind} (hkind : kind ≠ .spacer) {props : Fields}
    {p : TypedProps} (h : ofKind kind props = .ok p) :
    p.extra = Fields.without props (named kind) := by
  cases kind with
  | spacer => exact absurd rfl hkind
  | textarea =>
      simp only [ofKind, Except.bind_eq_ok_iff] at h
      obtain ⟨rows, -, hp⟩ := h
      cases hp
      rfl
  | _ =>
      cases h
      rfl

theorem extra_of_ofType {type : String} {props : Fields} {p : TypedProps}
    (h : ofType type props = .ok p) {kind : ComponentKind} (hkind : p.kind? = some kind)
    (hspacer : kind ≠ .spacer) : p.extra = Fields.without props (named kind) := by
  have hname : ComponentKind.ofName? type = some kind := (kind?_of_ofType h).symm.trans hkind
  unfold ofType at h
  rw [hname] at h
  exact extra_of_ofKind hspacer h

/-- A property that no kind names is found among the others. -/
theorem get?_extra {type : String} {props : Fields} {p : TypedProps}
    (h : ofType type props = .ok p) {kind : ComponentKind} (hkind : p.kind? = some kind)
    (hspacer : kind ≠ .spacer) {key : String} (hkey : key ∉ named kind) :
    Fields.get? p.extra key = Fields.get? props key := by
  rw [extra_of_ofType h hkind hspacer, Fields.get?_without hkey]

theorem distinctKeys_extra {type : String} {props : Fields} {p : TypedProps}
    (h : ofType type props = .ok p) {kind : ComponentKind} (hkind : p.kind? = some kind)
    (hspacer : kind ≠ .spacer) (hprops : props.DistinctKeys) : p.extra.DistinctKeys := by
  rw [extra_of_ofType h hkind hspacer]
  exact hprops.without _

end TypedProps

end PageBuilder
