import DeckPress.Proofs.Links.NormalForm

/-!
# What becomes of a link to a page

A page is linked by its source or by its own name, in quotes.  `relink_reference` follows such a
link through the three rules, whatever stands around it.

* `clear_reference` — no occurrence of a search text without quotes runs over an end of a link.
* `apart_search` — an occurrence that begins before the link text proper would have to repeat
  itself.
-/

namespace DeckPress.Links

open Text Rule

variable {readme p a b s file x y : Text} {c : Char}

/-- What a link begins with. -/
def opening : Text := "href=\"".toList

/-- A link to a file. -/
def reference (file : Text) : Text := opening ++ file ++ ['"']

/-! ## Occurrences at the ends of a link -/

theorem opening_eq : opening = "href=".toList ++ ['"'] := by decide

theorem reference_eq (file : Text) :
    reference file = "href=".toList ++ '"' :: (file ++ ['"']) := by
  rw [reference, opening_eq, List.append_assoc, List.append_assoc, List.singleton_append]

theorem quote_mem_reference (file : Text) : '"' ∈ reference file := by simp [reference]

/-- What has no quotes and begins a link is within its first characters. -/
theorem prefix_of_prefix_reference (hq : '"' ∉ x) (hx : x <+: reference file) :
    x <+: "href=".toList := by
  rw [reference_eq] at hx
  rcases List.prefix_or_prefix_of_prefix hx (List.prefix_append _ _) with h1 | ⟨y, rfl⟩
  · exact h1
  · rw [List.prefix_append_right_inj] at hx
    cases y with
    | nil => rw [List.append_nil]
    | cons d y =>
      obtain ⟨rfl, -⟩ := List.cons_prefix_cons.mp hx
      exact absurd (by simp) hq

/-- No occurrence of a search text without quotes runs over an end of a link. -/
theorem clear_reference (hq : '"' ∉ p) (hlast : p.getLast? = some c) (hc : c ∉ "href=".toList)
    (file : Text) : Clear p (reference file) := by
  refine ⟨fun x hx hxp hxl => ?_, fun x hx hxp hxl => ?_, fun h => ?_⟩
  · have hqx : '"' ∉ x := fun h => hq (hxp.subset h)
    have hcx : x.getLast? = some c := by
      obtain ⟨w, rfl⟩ := hxp
      rwa [List.getLast?_append_of_ne_nil _ hx] at hlast
    exact hc ((prefix_of_prefix_reference hqx hxl).subset (List.mem_of_getLast? hcx))
  · obtain ⟨z, hz⟩ := hxl
    have hlast' : (z ++ x).getLast? = some '"' := by
      rw [hz, reference, List.getLast?_append]
      rfl
    rw [List.getLast?_append_of_ne_nil _ hx] at hlast'
    exact hq (hxp.subset (List.mem_of_getLast? hlast'))
  · exact hq (h.subset (quote_mem_reference file))

theorem clear_sources_reference (file : Text) : Clear sources.search (reference file) :=
  clear_reference (c := 'd') (by decide) (by decide) (by decide) file

theorem clear_index_reference (hq : '"' ∉ readme) (file : Text) :
    Clear (index readme).search (reference file) := by
  have hl : ".html".toList.getLast? = some 'l' := by decide
  refine clear_reference (c := 'l') ?_ ?_ (by decide) file
  · rw [index, List.mem_append, not_or]
    exact ⟨hq, by decide⟩
  · rw [index, List.getLast?_append, hl]
    rfl

/-- A link to a page without a directory has nothing to do with the assets. -/
theorem detached_assets_reference {e : Text} (he : e = ".md\"".toList ∨ e = ".html\"".toList)
    (hs : '/' ∉ s) : Detached assets.search (opening ++ s ++ e) := by
  have hslash : '/' ∉ opening ++ s ++ e := by
    rw [List.mem_append, List.mem_append, not_or, not_or]
    refine ⟨⟨by decide, hs⟩, ?_⟩
    rcases he with rfl | rfl
    · decide
    · decide
  have htails : ∀ x ∈ assets.search.tails, x ≠ [] → '/' ∈ x ∨ x.head? ≠ some 'h' := by decide
  have hinits : ∀ x ∈ assets.search.inits, x ≠ [] →
      (¬ x <:+ ".md\"".toList ∧ ¬ ".md\"".toList <:+ x) ∧
        ¬ x <:+ ".html\"".toList ∧ ¬ ".html\"".toList <:+ x := by decide
  have hends : ¬ ".md\"".toList <:+: assets.search ∧ ¬ ".html\"".toList <:+: assets.search := by
    decide
  refine ⟨⟨fun x hx hxp hxl => ?_, fun x hx hxp hxl => ?_, fun h => ?_⟩, fun h => ?_⟩
  · rcases htails x ((List.mem_tails _ _).mpr hxp) hx with h1 | h1
    · exact hslash (hxl.subset h1)
    · obtain ⟨d, x, rfl⟩ := List.exists_cons_of_ne_nil hx
      rw [List.append_assoc] at hxl
      obtain ⟨rfl, -⟩ := List.cons_prefix_cons.mp hxl
      exact h1 rfl
  · have hx' := hinits x ((List.mem_inits _ _).mpr hxp) hx
    have hor := List.suffix_or_suffix_of_suffix hxl (List.suffix_append (opening ++ s) e)
    rcases he with rfl | rfl
    · exact hor.elim hx'.1.1 hx'.1.2
    · exact hor.elim hx'.2.1 hx'.2.2
  · have he' : e <:+: assets.search := (List.suffix_append (opening ++ s) e).isInfix.trans h
    rcases he with rfl | rfl
    · exact hends.1 he'
    · exact hends.2 he'
  · exact hslash (h.subset (by decide))

/-! ## Occurrences that overlap themselves -/

/-- What goes on with itself after `x` is made of the characters of `x`. -/
theorem mem_of_prefix_append (hx : x ≠ []) (hy : y <+: x ++ y) (hc : c ∈ y) : c ∈ x := by
  have hpos : 0 < x.length := List.length_pos_iff.mpr hx
  induction hn : y.length using Nat.strongRecOn generalizing y with
  | ind n ih =>
    rcases List.prefix_or_prefix_of_prefix hy (List.prefix_append x y) with h1 | ⟨z, rfl⟩
    · exact h1.subset hc
    · rcases List.mem_append.mp hc with h2 | h2
      · exact h2
      · rw [List.prefix_append_right_inj] at hy
        refine ih z.length ?_ hy h2 rfl
        rw [← hn, List.length_append]
        omega

/-- What lacks a character of the search text keeps apart from an occurrence behind it. -/
theorem apart_search (hp : c ∈ p) (ha : c ∉ a) (t : Text) : Apart p a (p ++ t) := by
  intro x y hx hy hxy hxa hyt
  have hyp : y <+: x ++ y := by
    rw [hxy] at hyt
    exact List.prefix_of_prefix_length_le hyt (List.prefix_append _ t) (by simp)
  rw [hxy] at hp
  refine ha (hxa.subset ?_)
  rcases List.mem_append.mp hp with h1 | h1
  · exact h1
  · exact mem_of_prefix_append hx hyp h1

/-- A source is no end of another one. -/
theorem apart_sources (a t : Text) : Apart sources.search a (sources.search ++ t) := by
  intro x y hx hy hxy _ hyt
  have hyp : y <+: sources.search :=
    List.prefix_of_prefix_length_le hyt (List.prefix_append _ t) (by rw [hxy]; simp)
  have htails : ∀ y ∈ sources.search.tails, y ≠ [] → y <+: sources.search →
      y = sources.search := by decide
  have hfull := htails y ((List.mem_tails _ _).mpr ⟨x, hxy.symm⟩) hy hyp
  rw [hfull] at hxy
  exact hx (List.self_eq_append_left.mp hxy)

/-! ## The three passes over a link -/

theorem scan_sources_reference {e : Text} (he : e = ".md".toList ∨ e = ".html".toList)
    (hs : ¬ sources.search <:+: s) :
    scan sources.search sources.replacement 0 (reference (s ++ e)) =
      reference (s ++ ".html".toList) := by
  have h0 : sources.search ≠ [] := by decide
  have hopen : Detached sources.search opening := by decide
  have hend : Detached sources.search ".html\"".toList := by decide
  have hquote : ".html".toList ++ ['"'] = ".html\"".toList := by decide
  have hstem : ¬ sources.search <:+: opening ++ s := by
    have := not_infix_around (a := []) hopen (by decide) hs
    rwa [List.nil_append] at this
  rcases he with rfl | rfl
  · have hone : reference (s ++ ".md".toList) = opening ++ s ++ (sources.search ++ ['"']) := by
      simp [reference, sources]
    have hrest : scan sources.search sources.replacement 0 ['"'] = ['"'] := by decide
    rw [hone, scan_append h0 (apart_sources _ _), scan_of_not_infix h0 hstem, scan_found h0, hrest]
    simp [reference, sources]
  · refine scan_of_not_infix h0 ?_
    have := not_infix_around (b := []) hend hstem (by decide)
    rw [List.append_nil, ← hquote] at this
    simpa [reference] using this

/-- The page that a link leads to: the index for the readme page. -/
def target (readme s : Text) : Text :=
  if s = readme then "index.html".toList else s ++ ".html".toList

theorem scan_index_reference
    (hother : s ≠ readme → ¬ (index readme).search <:+: reference (s ++ ".html".toList)) :
    scan (index readme).search (index readme).replacement 0 (reference (s ++ ".html".toList)) =
      reference (target readme s) := by
  have h0 := index_search_ne_nil readme
  rw [target]
  split
  · rename_i he
    subst he
    have hdot : '.' ∈ (index s).search := by simp [index]
    have hopen : ¬ (index s).search <:+: opening := fun h => absurd (h.subset hdot) (by decide)
    have hquote : ¬ (index s).search <:+: ['"'] := fun h => absurd (h.subset hdot) (by decide)
    have hone : reference (s ++ ".html".toList) = opening ++ ((index s).search ++ ['"']) := by
      simp [reference, index]
    rw [hone, scan_append h0 (apart_search hdot (by decide) _), scan_found h0,
      scan_of_not_infix h0 hopen, scan_of_not_infix h0 hquote]
    simp [reference, index]
  · exact scan_of_not_infix h0 (hother ‹_›)

/-- **A link to a page is turned into a link to where the page is, whatever stands around it.** -/
theorem relink_reference {e : Text} (he : e = ".md".toList ∨ e = ".html".toList) (hs : '/' ∉ s)
    (hsources : ¬ sources.search <:+: s)
    (hclear : Clear (index readme).search (reference (s ++ ".html".toList)))
    (hother : s ≠ readme → ¬ (index readme).search <:+: reference (s ++ ".html".toList))
    (a b : Text) :
    relink (forReadme readme) (a ++ reference (s ++ e) ++ b) =
      relink (forReadme readme) a ++ reference (target readme s) ++
        relink (forReadme readme) b := by
  have hassets : Detached assets.search (reference (s ++ e)) := by
    have hdet := fun e' he' => detached_assets_reference (e := e') he' hs
    rcases he with rfl | rfl
    · simpa [reference] using hdet _ (.inl rfl)
    · simpa [reference] using hdet _ (.inr rfl)
  have ha0 := assets_detached_assets.search_ne_nil
  have hs0 := sources_detached_sources.search_ne_nil
  simp only [relink_forReadme]
  rw [scan_append_clear ha0 hassets.toClear, scan_of_not_infix ha0 hassets.within,
    scan_append_clear hs0 (clear_sources_reference _), scan_sources_reference he hsources,
    scan_append_clear (index_search_ne_nil readme) hclear, scan_index_reference hother]

end DeckPress.Links
