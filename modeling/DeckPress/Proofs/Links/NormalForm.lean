import DeckPress.Links
import DeckPress.Proofs.Text.Replacement

/-!
# Normal form of relinked pages

A page is normal for a list of rules if none of the rules finds anything in it; relinking leaves
such a page alone.

* `relink_of_isNormal` — a normal page comes back unchanged.
* `not_infix_assets_relink`, `not_infix_sources_relink` — the searched texts of the first two rules
  are gone after relinking, for every readme document.
* `relink_normal_form` — so is that of the third rule if the name of the readme page is detached
  from that of the index, and relinking again changes nothing.  If the readme document starts with
  an `l`, its page can be formed anew by the index put in before it, and a second pass changes the
  result of the first.
-/

namespace DeckPress.Links

open Text Rule

variable {readme page : Text}

/-- No rule finds anything in the page. -/
def IsNormal (rules : List Rule) (page : Text) : Prop := ∀ r ∈ rules, ¬ r.search <:+: page

theorem index_search_ne_nil (readme : Text) : (index readme).search ≠ [] := by
  simp [index]

theorem search_ne_nil {r : Rule} (h : r ∈ forReadme readme) : r.search ≠ [] := by
  simp only [forReadme, List.mem_cons, List.not_mem_nil, or_false] at h
  rcases h with rfl | rfl | rfl
  · decide
  · decide
  · exact index_search_ne_nil readme

/-! ## The three rules against each other -/

theorem assets_detached_assets : Detached assets.search assets.replacement := by decide

theorem assets_detached_sources : Detached assets.search sources.replacement := by decide

theorem sources_detached_sources : Detached sources.search sources.replacement := by decide

theorem assets_detached_index : Detached assets.search "index.html".toList := by decide

theorem sources_detached_index : Detached sources.search "index.html".toList := by decide

/-- The three passes of the rules of a site. -/
theorem relink_forReadme (readme page : Text) :
    relink (forReadme readme) page =
      scan (index readme).search (index readme).replacement 0
        (scan sources.search sources.replacement 0
          (scan assets.search assets.replacement 0 page)) := by
  simp only [forReadme, relink_cons, relink_nil]
  rw [replace_eq_scan (index_search_ne_nil readme),
    replace_eq_scan sources_detached_sources.search_ne_nil,
    replace_eq_scan assets_detached_assets.search_ne_nil]

/-! ## Normal pages -/

theorem relink_of_isNormal {rules : List Rule} (h0 : ∀ r ∈ rules, r.search ≠ [])
    (h : IsNormal rules page) : relink rules page = page := by
  induction rules with
  | nil => rfl
  | cons r rules ih =>
    have hr := h0 r List.mem_cons_self
    rw [relink_cons, replace_eq_scan hr, scan_of_not_infix hr (h r List.mem_cons_self)]
    exact ih (fun x hx => h0 x (List.mem_cons_of_mem r hx))
      (fun x hx => h x (List.mem_cons_of_mem r hx))

theorem not_infix_assets_relink (readme page : Text) :
    ¬ assets.search <:+: relink (forReadme readme) page := by
  have h1 := not_infix_scan_self assets_detached_assets page
  have h2 := not_infix_scan sources_detached_sources.search_ne_nil assets_detached_sources h1
  rw [relink_forReadme]
  exact not_infix_scan (index_search_ne_nil readme) assets_detached_index h2

theorem not_infix_sources_relink (readme page : Text) :
    ¬ sources.search <:+: relink (forReadme readme) page := by
  rw [relink_forReadme]
  exact not_infix_scan (index_search_ne_nil readme) sources_detached_index
    (not_infix_scan_self sources_detached_sources _)

theorem isNormal_relink (h : Detached (index readme).search (index readme).replacement)
    (page : Text) : IsNormal (forReadme readme) (relink (forReadme readme) page) := by
  intro r hr
  simp only [forReadme, List.mem_cons, List.not_mem_nil, or_false] at hr
  rcases hr with rfl | rfl | rfl
  · exact not_infix_assets_relink readme page
  · exact not_infix_sources_relink readme page
  · rw [relink_forReadme]
    exact not_infix_scan_self h _

/-- A page in which the first two rules find nothing meets the third rule alone. -/
theorem relink_eq_scan_index (ha : ¬ assets.search <:+: page) (hs : ¬ sources.search <:+: page) :
    relink (forReadme readme) page =
      scan (index readme).search (index readme).replacement 0 page := by
  rw [relink_forReadme, scan_of_not_infix assets_detached_assets.search_ne_nil ha,
    scan_of_not_infix sources_detached_sources.search_ne_nil hs]

/-! ## Readme pages that the index can form anew -/

/-- A page on which one pass is not enough: the readme page, and behind it the readme page without
its first letter. -/
def overrun (rest : Text) : Text := (index ('l' :: rest)).search ++ (rest ++ ".html".toList)

/-- The result of one pass on it. -/
def overrunOnce (rest : Text) : Text :=
  (index ('l' :: rest)).replacement ++ (rest ++ ".html".toList)

theorem not_infix_pageName {q name : Text} (hq : Detached q ".html".toList) (h : ¬ q <:+: name) :
    ¬ q <:+: name ++ ".html".toList := by
  have := not_infix_around hq h (b := []) (by rw [List.infix_nil]; exact hq.search_ne_nil)
  rwa [List.append_nil] at this

theorem not_infix_overrun {q rest : Text} (hq : Detached q ".html".toList)
    (h : ¬ q <:+: 'l' :: rest) : ¬ q <:+: overrun rest :=
  not_infix_around hq h
    (not_infix_pageName hq fun h1 => h (h1.trans (List.suffix_cons 'l' rest).isInfix))

theorem not_infix_overrunOnce {q rest : Text} (hq : Detached q ".html".toList)
    (hi : Detached q "index.html".toList) (h : ¬ q <:+: 'l' :: rest) :
    ¬ q <:+: overrunOnce rest :=
  not_infix_around (a := []) hi (by rw [List.infix_nil]; exact hq.search_ne_nil)
    (not_infix_pageName hq fun h1 => h (h1.trans (List.suffix_cons 'l' rest).isInfix))

theorem index_eq_append : "index.html".toList = "index.htm".toList ++ ['l'] := by decide

/-- The end of the index completes the shortened readme page behind it. -/
theorem index_infix_overrunOnce (rest : Text) :
    (index ('l' :: rest)).search <:+: overrunOnce rest := by
  refine ⟨"index.htm".toList, [], ?_⟩
  rw [List.append_nil, overrunOnce]
  simp only [index]
  rw [index_eq_append, List.append_assoc, List.singleton_append, List.cons_append]

theorem relink_overrun {rest : Text} (ha : ¬ assets.search <:+: 'l' :: rest)
    (hs : ¬ sources.search <:+: 'l' :: rest) :
    relink (forReadme ('l' :: rest)) (overrun rest) = overrunOnce rest := by
  have hshort : ¬ (index ('l' :: rest)).search <:+: rest ++ ".html".toList := by
    intro h
    have := h.length_le
    simp [index] at this
  rw [relink_eq_scan_index (not_infix_overrun assets_detached_sources ha)
    (not_infix_overrun sources_detached_sources hs), overrun,
    scan_found (index_search_ne_nil _), scan_of_not_infix (index_search_ne_nil _) hshort]
  rfl

theorem relink_overrunOnce_ne {rest : Text} (ha : ¬ assets.search <:+: 'l' :: rest)
    (hs : ¬ sources.search <:+: 'l' :: rest) :
    relink (forReadme ('l' :: rest)) (overrunOnce rest) ≠ overrunOnce rest := by
  rw [relink_eq_scan_index
    (not_infix_overrunOnce assets_detached_sources assets_detached_index ha)
    (not_infix_overrunOnce sources_detached_sources sources_detached_index hs)]
  exact scan_ne_self (index_search_ne_nil _) (by simp [index]) (by simp [index])
    (index_infix_overrunOnce rest)

/-! ## The limit of idempotence -/

/-- **Normal form and idempotence.**  If the readme page is detached from the index, as that of the
default readme document is, relinking leaves none of the three texts that its rules look for, and a
second pass changes nothing.  The condition is needed: for a readme document that starts with an `l`
and holds nothing that the other rules look for, some page is not finished after one pass. -/
theorem relink_normal_form :
    Detached (defaultReadme ++ ".html".toList) "index.html".toList ∧
    (∀ readme : Text, Detached (readme ++ ".html".toList) "index.html".toList →
      ∀ page result : Text, relink (forReadme readme) page = result →
        ¬ "href=\"/_assets".toList <:+: result ∧ ¬ ".md".toList <:+: result ∧
        ¬ (readme ++ ".html".toList) <:+: result ∧ relink (forReadme readme) result = result) ∧
    (∀ readme : Text, readme.head? = some 'l' → ¬ ".md".toList <:+: readme →
      ¬ "href=\"/_assets".toList <:+: readme →
      ∃ page, relink (forReadme readme) (relink (forReadme readme) page) ≠
        relink (forReadme readme) page) := by
  refine ⟨by decide, ?_, fun readme hl hs ha => ?_⟩
  · rintro readme hdetached page result rfl
    have hn : IsNormal (forReadme readme) (relink (forReadme readme) page) :=
      isNormal_relink hdetached page
    exact ⟨hn assets (by simp [forReadme]), hn sources (by simp [forReadme]),
      hn (index readme) (by simp [forReadme]), relink_of_isNormal (fun _ => search_ne_nil) hn⟩
  · obtain ⟨rest, rfl⟩ := List.head?_eq_some_iff.mp hl
    refine ⟨overrun rest, ?_⟩
    rw [relink_overrun ha hs]
    exact relink_overrunOnce_ne ha hs

/-- The default readme document is linked for good by one pass, and for the document `lesson` some
page is not. -/
theorem relink_normal_form_lesson :
    Detached (defaultReadme ++ ".html".toList) "index.html".toList ∧
    ¬ ".md".toList <:+: relink (forReadme defaultReadme) "<a href=\"README.md\">".toList ∧
    relink (forReadme defaultReadme)
      (relink (forReadme defaultReadme) "<a href=\"README.md\">".toList) =
        relink (forReadme defaultReadme) "<a href=\"README.md\">".toList ∧
    "lesson".toList.head? = some 'l' ∧ ¬ ".md".toList <:+: "lesson".toList ∧
    ¬ "href=\"/_assets".toList <:+: "lesson".toList ∧
    ∃ page, relink (forReadme "lesson".toList) (relink (forReadme "lesson".toList) page) ≠
      relink (forReadme "lesson".toList) page := by
  obtain ⟨-, hsources, -, hagain⟩ := relink_normal_form.2.1 defaultReadme (by decide) _ _ rfl
  exact ⟨relink_normal_form.1, hsources, hagain, by decide, by decide, by decide,
    relink_normal_form.2.2 "lesson".toList (by decide) (by decide) (by decide)⟩

example : relink (forReadme "lesson".toList) "lesson.htmlesson.html".toList =
    "index.htmlesson.html".toList := by decide

end DeckPress.Links
