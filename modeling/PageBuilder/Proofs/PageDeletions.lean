import PageBuilder.Document.Codec
import PageBuilder.Proofs.EditValidity

/-! # Deletions of pages

A run of deletions leaves the pages that no deletion names, or the welcome page if there is none.
The welcome page that stands in on the way is no page of the document: it may be deleted again, and
then it stands in once more. -/

namespace PageBuilder.Document

variable {d : Document}

/-- A welcome page that stands in for no pages leaves nothing behind when it is deleted. -/
theorem withWelcome_filter (ps : List Page) (keep : Page → Bool) :
    withWelcome ((withWelcome ps).filter keep) = withWelcome (ps.filter keep) := by
  cases ps with
  | cons p ps => rfl
  | nil => cases hkeep : keep .welcome <;> simp [withWelcome, hkeep]

theorem withWelcome_of_ne_nil {ps : List Page} (h : ps ≠ []) : withWelcome ps = ps := by
  simp [withWelcome, h]

/-- To delete a page that the document does not have is to keep all pages. -/
theorem deletePage_eq (h : d.pages ≠ []) (id : String) :
    d.deletePage id = { d with pages := withWelcome (d.pages.filter fun p => p.id != id) } := by
  unfold deletePage
  split
  · rfl
  · next hmissing =>
    have hall : ∀ p ∈ d.pages, (p.id != id) = true := by
      intro p hp
      rw [bne_iff_ne]
      rintro rfl
      exact hmissing (hasPage_iff.mpr (List.mem_map_of_mem hp))
    rw [List.filter_eq_self.mpr hall, withWelcome_of_ne_nil h]

theorem foldl_deletePage_eq (h : d.pages ≠ []) (ids : List String) :
    ids.foldl deletePage d =
      { d with pages := withWelcome (d.pages.filter fun p => p.id ∉ ids) } := by
  induction ids generalizing d with
  | nil => simp [withWelcome_of_ne_nil h]
  | cons id ids ih =>
      have hnext : (d.deletePage id).pages ≠ [] := deletePage_ne_nil h id
      have hnamed : (d.pages.filter fun p => p.id != id).filter (fun p => p.id ∉ ids) =
          d.pages.filter fun p => p.id ∉ id :: ids := by
        rw [List.filter_filter]
        apply List.filter_congr
        intro p _
        rw [Bool.eq_iff_iff]
        simp [and_comm]
      rw [List.foldl_cons, ih hnext, deletePage_eq h]
      simp only [withWelcome_filter, hnamed]

/-- A run of deletions leaves the pages that it does not name, as they are and in their order, and
the welcome page if it names all of them. Nothing but the pages changes, a page is always left, and
only which ids are named matters: not their order, and not how often they are named. -/
theorem deletions_leave_unnamed {d : Document} (h : d.pages ≠ []) (ids : List String) :
    let unnamed := d.pages.filter fun p => p.id ∉ ids
    ids.foldl deletePage d =
        { d with pages := if unnamed.isEmpty then [.welcome] else unnamed } ∧
      (ids.foldl deletePage d).pages ≠ [] ∧
      ∀ ids' : List String, (∀ id, id ∈ ids' ↔ id ∈ ids) →
        ids'.foldl deletePage d = ids.foldl deletePage d := by
  have hclosed := foldl_deletePage_eq h ids
  refine ⟨hclosed, ?_, ?_⟩
  · rw [hclosed]
    exact withWelcome_ne_nil _
  · intro ids' hsame
    rw [hclosed, foldl_deletePage_eq h ids']
    simp only [hsame]

/-- A document with a page of its own under the id of the welcome page. -/
def threePages : Document where
  id := "app"
  name := "App"
  pages := [
    { id := "home", order := 7 },
    { id := "welcome", title := "Hello", components := [newComponent "greeting" "text" 0] },
    { id := "news" }]

/-- The own page `welcome` is kept until it is named. Once all pages are named the welcome page
stands in, whatever is named after that. -/
theorem welcome_deleted_again :
    threePages.pages ≠ [] ∧
      ["news", "gone", "home", "news"].foldl deletePage threePages =
        { threePages with pages := [
          { id := "welcome", title := "Hello",
            components := [newComponent "greeting" "text" 0] }] } ∧
      ["news", "welcome", "home", "welcome", "home"].foldl deletePage threePages =
        { threePages with pages := [.welcome] } ∧
      ["home", "welcome", "news"].foldl deletePage threePages =
        ["news", "welcome", "home", "welcome", "home"].foldl deletePage threePages := by
  have h : threePages.pages ≠ [] := by simp [threePages]
  obtain ⟨hsome, -⟩ := deletions_leave_unnamed h ["news", "gone", "home", "news"]
  obtain ⟨hall, -, hreordered⟩ :=
    deletions_leave_unnamed h ["news", "welcome", "home", "welcome", "home"]
  refine ⟨h, hsome, hall, hreordered _ ?_⟩
  intro id
  simp only [List.mem_cons, List.not_mem_nil, or_false]
  grind

end PageBuilder.Document
