import BookmarkSync.Proofs.Text.InContext
import BookmarkSync.Sync.Editor
import BookmarkSync.Text.Split

/-!
# `BookmarkSync.Proofs.Sync.Searching` — what a search finds

A search compares texts in lower case. It finds every bookmark that has the query in one of its texts exactly
if the query is settled (`isSettled`): a capital sigma at its end can have another form in the query than in
the text.
-/

namespace BookmarkSync

open Text

namespace Bookmark

variable {b : Bookmark} {query : String}

/-- The query stands in one of the texts that are searched, letter for letter. -/
def Contains (b : Bookmark) (query : String) : Prop := ∃ s ∈ b.searchedTexts, query.toList <:+: s.toList

theorem matchesQuery_iff : b.matchesQuery query = true ↔
    ∃ s ∈ b.searchedTexts, (lowercase query).toList <:+: (lowercase s).toList := by
  simp only [matchesQuery, List.any_eq_true, occursIn_iff]

theorem matchesQuery_of_contains (hsettled : isSettled query = true) (h : b.Contains query) :
    b.matchesQuery query = true := by
  obtain ⟨s, hs, hstands⟩ := h
  exact matchesQuery_iff.mpr ⟨s, hs, infix_lowercase hsettled hstands⟩

/-- A bookmark that has a query in its name that is not settled, and is not found. -/
theorem exists_contains_not_matchesQuery (hsettled : isSettled query = false) :
    ∃ b : Bookmark, b.Contains query ∧ b.matchesQuery query = false := by
  obtain ⟨name, hstands, hnot⟩ := exists_not_infix_lowercase hsettled
  refine ⟨create "" name "" false 0, ⟨name, .head _, hstands⟩, Bool.eq_false_iff.mpr fun hmatches => hnot ?_⟩
  obtain ⟨s, hs, hfound⟩ := matchesQuery_iff.mp hmatches
  rcases List.mem_cons.mp hs with rfl | hs
  · exact hfound
  · obtain rfl : s = "" := List.mem_singleton.mp hs
    have hempty : (lowercase query).toList = [] := List.eq_nil_of_infix_nil hfound
    rw [hempty]
    exact List.nil_infix

end Bookmark

namespace Editor

variable {ρ : Type}

/-- **What a search finds for certain.** A query finds every bookmark that contains it exactly if the form of
each capital sigma in it does not depend on what stands around the query; a query without capital sigmas does.
-/
theorem search_finds_contained (query : String) :
    (isSettled query = true ↔ ∀ b : Bookmark, b.Contains query → b.matchesQuery query = true) ∧
    (isSettled query = true → ∀ (ed : Editor ρ) (b : Bookmark), b ∈ ed.store.bookmarks → b.isActive = true →
      b.Contains query → b ∈ ed.search query) ∧
    ('Σ' ∉ query.toList → isSettled query = true) := by
  refine ⟨⟨fun hsettled b => Bookmark.matchesQuery_of_contains hsettled, fun hfound => ?_⟩, ?_,
    isSettledFrom_of_not_sigma⟩
  · cases hsettled : isSettled query with
    | true => rfl
    | false =>
      obtain ⟨b, hcontains, hmatches⟩ := Bookmark.exists_contains_not_matchesQuery hsettled
      exact hmatches.symm.trans (hfound b hcontains)
  · intro hsettled ed b hb hactive hcontains
    rw [search, List.mem_filter, hactive, Bookmark.matchesQuery_of_contains hsettled hcontains]
    exact ⟨hb, rfl⟩

/-- A sigma with letters on both sides is found again, in the middle of a word as well. -/
theorem search_finds_contained_word :
    (Bookmark.create "" "ΜΙΚΡΟΚΟΣΜΟΣ" "/" false 0).matchesQuery "ΚΟΣΜΟ" = true :=
  (@search_finds_contained Unit "ΚΟΣΜΟ").1.mp (by decide +kernel) _
    ⟨"ΜΙΚΡΟΚΟΣΜΟΣ", .head _, "ΜΙΚΡΟ".toList, ['Σ'], by decide⟩

/-- A sigma at the end of the query is lower-cased as at the end of a word, and is inside of a word in the
name. -/
theorem not_search_always_finds_contained :
    ¬ ∀ (b : Bookmark) (query : String), b.Contains query → b.matchesQuery query = true := by
  intro hfound
  have hmatches := hfound (.create "" "ΑΣΑ" "/" false 0) "ΑΣ" ⟨"ΑΣΑ", .head _, [], ['Α'], by decide⟩
  revert hmatches
  decide +kernel

end Editor

end BookmarkSync
