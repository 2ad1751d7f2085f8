import Mathlib.Data.List.InsertIdx
import PageBuilder.Proofs.ComponentIds

/-! # Moves of components

A move takes a component out of its page and puts it back at another position. Positions count the
components that the page has before the move, and equally after it: a target that lies outside
stands for the nearest end. To move the component back from where it landed restores the document.

## Implementation notes

That a list is another one with one item moved is said by leaving out the item on both sides. Said
that way it holds in both directions at once, and it determines the list. -/

namespace PageBuilder

namespace Page

/-- The position that a target stands for among `n` components. -/
def landing (n : Nat) (target : Int) : Int :=
  max 0 (min target (n - 1))

theorem landing_nonneg (n : Nat) (target : Int) : 0 ≤ landing n target := by
  unfold landing
  omega

theorem landing_lt {n : Nat} (h : 0 < n) (target : Int) : (landing n target).toNat < n := by
  unfold landing
  omega

/-- A target inside stands for itself. -/
theorem landing_of_inside {n : Nat} {target : Int} (h : 0 ≤ target) (hlt : target < n) :
    landing n target = target := by
  unfold landing
  omega

/-- The list `cs'` is `cs` with its item number `i` moved to `k`: without the item, both are the
same list. -/
structure Relocates (cs : List Component) (i k : Nat) (cs' : List Component) : Prop where
  inside : i < cs.length
  item : cs'[k]? = cs[i]?
  others : cs'.eraseIdx k = cs.eraseIdx i

namespace Relocates

variable {cs cs' : List Component} {i k : Nat}

theorem landed_inside (h : Relocates cs i k cs') : k < cs'.length := by
  have hsome := h.item.trans (List.getElem?_eq_getElem h.inside)
  exact (List.getElem?_eq_some_iff.mp hsome).1

/-- The item is moved back the same way. -/
theorem symm (h : Relocates cs i k cs') : Relocates cs' k i cs where
  inside := h.landed_inside
  item := h.item.symm
  others := h.others.symm

theorem length_eq (h : Relocates cs i k cs') : cs'.length = cs.length := by
  have hlength := congrArg List.length h.others
  rw [List.length_eraseIdx_of_lt h.inside, List.length_eraseIdx_of_lt h.landed_inside] at hlength
  have := h.inside
  have := h.landed_inside
  omega

theorem eq_insertIdx (h : Relocates cs i k cs') {c : Component} (hc : cs[i]? = some c) :
    cs' = (cs.eraseIdx i).insertIdx k c := by
  obtain ⟨hlt, rfl⟩ := List.getElem?_eq_some_iff.mp (h.item.trans hc)
  rw [← h.others, List.insertIdx_eraseIdx_getElem hlt]

/-- Where the item came from and where it went determines the list. -/
theorem unique {cs'' : List Component} (h : Relocates cs i k cs') (h' : Relocates cs i k cs'') :
    cs' = cs'' := by
  have hitem := List.getElem?_eq_getElem h.inside
  rw [h.eq_insertIdx hitem, h'.eq_insertIdx hitem]

end Relocates

/-- A move relocates the component to where the target lands. -/
theorem moved_relocates {cs : List Component} {source : Int} (h : 0 ≤ source)
    (hlt : source < cs.length) (target : Int) :
    Relocates cs source.toNat (landing cs.length target).toNat (moved cs source target) := by
  have hinside : source.toNat < cs.length := by omega
  have hlength : (cs.eraseIdx source.toNat).length = cs.length - 1 :=
    List.length_eraseIdx_of_lt hinside
  have hlanding : max 0 (min target ((cs.eraseIdx source.toNat).length : Int)) =
      landing cs.length target := by
    rw [hlength, landing]
    omega
  have hle : (landing cs.length target).toNat ≤ (cs.eraseIdx source.toNat).length := by
    have := landing_lt (Nat.zero_lt_of_lt hinside) target
    omega
  have hmoved : moved cs source target =
      (cs.eraseIdx source.toNat).insertIdx (landing cs.length target).toNat
        cs[source.toNat] := by
    simp only [moved, List.getElem?_eq_getElem hinside, hlanding]
  rw [hmoved]
  refine ⟨hinside, ?_, List.eraseIdx_insertIdx_self _⟩
  rw [List.getElem?_insertIdx_self, if_pos hle, List.getElem?_eq_getElem hinside]

/-- A component that is moved back to where it came from leaves the list as it was. -/
theorem moved_moved {cs : List Component} {source : Int} (h : 0 ≤ source)
    (hlt : source < cs.length) (target : Int) :
    moved (moved cs source target) (landing cs.length target) source = cs := by
  have hthere := moved_relocates h hlt target
  have hback : Relocates (moved cs source target) (landing cs.length target).toNat source.toNat
      (moved (moved cs source target) (landing cs.length target) source) := by
    have hinside : landing cs.length target < (moved cs source target).length := by
      have := hthere.landed_inside
      omega
    have hmoved := moved_relocates (landing_nonneg cs.length target) hinside source
    rwa [hthere.length_eq, landing_of_inside h hlt] at hmoved
  exact hback.unique hthere.symm

end Page

namespace Document

variable {d : Document}

theorem hasPosition_iff {page : String} {position : Int} :
    d.hasPosition page position = true ↔
      ∃ p, d.page? page = some p ∧ 0 ≤ position ∧ position < p.components.length := by
  simp [hasPosition, Option.any_eq_true]

/-- A move of a component that is there. -/
theorem moveComponent_eq {page : String} {p : Page} (hp : d.page? page = some p) {source : Int}
    (h : 0 ≤ source) (hlt : source < p.components.length) (target : Int) :
    d.moveComponent page source target =
      d.mapPage p.id fun _ => p.withComponents (Page.moved p.components source target) := by
  have hposition : d.hasPosition page source = true := hasPosition_iff.mpr ⟨p, hp, h, hlt⟩
  simp only [moveComponent, hposition, if_true, hp, reorderComponents, reorderTarget?]

/-- The page of the move keeps its place between the others. -/
theorem Splits.moveComponent_eq {before after : List Page} {p : Page}
    (hsplits : d.Splits before p after) {source : Int} (h : 0 ≤ source)
    (hlt : source < p.components.length) (target : Int) :
    d.moveComponent p.id source target =
      { d with
        pages := before ++ p.withComponents (Page.moved p.components source target) :: after } :=
  (Document.moveComponent_eq hsplits.page?_eq h hlt target).trans (hsplits.mapPage_eq _)

/-- A component that is moved back to where it came from leaves the document as it was. -/
theorem moveComponent_moveComponent {before after : List Page} {p : Page}
    (hsplits : d.Splits before p after) {source : Int} (h : 0 ≤ source)
    (hlt : source < p.components.length) (target : Int) :
    (d.moveComponent p.id source target).moveComponent p.id
      (Page.landing p.components.length target) source = d := by
  let k := Page.landing p.components.length target
  let cs := Page.moved p.components source target
  -- after the move the page stands where it stood, so the second move is one of the same page
  have hthere : Splits { d with pages := before ++ p.withComponents cs :: after } before
      (p.withComponents cs) after := hsplits.replace rfl
  have hinside : k < cs.length := by
    have hlanded : k.toNat < cs.length := (Page.moved_relocates h hlt target).landed_inside
    omega
  have hback : Page.moved cs k source = p.components := Page.moved_moved h hlt target
  calc
    (d.moveComponent p.id source target).moveComponent p.id k source
        = { d with
            pages := before ++ p.withComponents (Page.moved cs k source) :: after } := by
      rw [hsplits.moveComponent_eq h hlt]
      exact hthere.moveComponent_eq (Page.landing_nonneg _ target) hinside source
    _ = { d with pages := before ++ p :: after } := by rw [hback]; rfl
    _ = d := by rw [← hsplits.pages]

theorem moveComponent_of_missing {page : String} {source : Int}
    (h : ∀ p, d.page? page = some p → ¬ (0 ≤ source ∧ source < p.components.length))
    (target : Int) : d.moveComponent page source target = d := by
  have hposition : d.hasPosition page source = false := by
    rw [Bool.eq_false_iff]
    intro hpresent
    obtain ⟨p, hp, hinside⟩ := hasPosition_iff.mp hpresent
    exact h p hp hinside
  simp [moveComponent, hposition]

/-- A move puts the component where its target lands, the other components of the page keep their
order, and nothing else changes; to move the component back restores the document. Without a
component at the position nothing is moved. -/
theorem component_moves_back {d : Document} (hpages : d.pageIds.Nodup) (page : String)
    (source target : Int) :
    let moved := d.moveComponent page source target
    (∀ p, d.page? page = some p → 0 ≤ source → source < p.components.length →
      let k := Page.landing p.components.length target
      (∃ before after cs, d.pages = before ++ p :: after ∧
        moved = { d with pages := before ++ p.withComponents cs :: after } ∧
        Page.Relocates p.components source.toNat k.toNat cs) ∧
      moved.moveComponent page k source = d) ∧
    ((∀ p, d.page? page = some p → ¬ (0 ≤ source ∧ source < p.components.length)) →
      moved = d) := by
  intro moved
  refine ⟨?_, fun hmissing => moveComponent_of_missing hmissing target⟩
  intro p hp h hlt k
  obtain ⟨rfl, before, after, hsplits⟩ := exists_splits_of_page? hpages hp
  exact ⟨⟨before, after, _, hsplits.pages, hsplits.moveComponent_eq h hlt target,
    Page.moved_relocates h hlt target⟩, moveComponent_moveComponent hsplits h hlt target⟩

/-- A page of three notes above another page. -/
def threeNotes : Document where
  id := "app"
  pages := [
    { id := "home", title := "Home", components := [newComponent "first" "text" 0,
        newComponent "second" "text" 1, newComponent "third" "image" 2] },
    { id := "news", components := [newComponent "fourth" "text" 0] }]

/-- The first note is moved far past the end, which is the last place, and from there back; the
last one is moved far before the start. There is no fourth note on the page, and none before the
first. -/
theorem notes_moved_and_back :
    let last := threeNotes.moveComponent "home" 0 99
    let first := threeNotes.moveComponent "home" 2 (-7)
    threeNotes.pageIds.Nodup ∧
      last.componentIds = ["second", "third", "first", "fourth"] ∧
      last.moveComponent "home" 2 0 = threeNotes ∧
      first.componentIds = ["third", "first", "second", "fourth"] ∧
      first.moveComponent "home" 0 2 = threeNotes ∧
      threeNotes.moveComponent "home" 3 0 = threeNotes ∧
      threeNotes.moveComponent "home" (-1) 0 = threeNotes := by
  intro last first
  have hpages : threeNotes.pageIds.Nodup := by decide
  have hlast := (component_moves_back hpages "home" 0 99).1 _ rfl (by decide) (by decide)
  have hfirst := (component_moves_back hpages "home" 2 (-7)).1 _ rfl (by decide) (by decide)
  have hfourth := (component_moves_back hpages "home" 3 0).2
  have hbefore := (component_moves_back hpages "home" (-1) 0).2
  refine ⟨hpages, by decide, hlast.2, by decide, hfirst.2, hfourth ?_, hbefore ?_⟩
  · rintro p ⟨⟩
    decide
  · rintro p ⟨⟩
    decide

end Document

end PageBuilder
