import Citation.Output.Bibliography
import Citation.Proofs.Bibliography

/-! The order of the database. Sorting keeps it between entries of one key only, so that entries
of different keys have the same bibliography in whatever order they come. -/
namespace Citation

/-- Lists that have the entries of each key in the same order are sorted alike. -/
theorem sort_eq_of_ties {es es' : List Entry}
    (h : ∀ k, es'.filter (·.orderKey = k) = es.filter (·.orderKey = k)) :
    Sorting.authorYearTitle.sort es' = Sorting.authorYearTitle.sort es := by
  apply eq_of_sorted (sort_ordered es') (sort_ordered es)
  intro k
  rw [sort_stable, sort_stable, h]

/-- Of entries with different keys at most one has a given key. -/
theorem filter_orderKey_of_nodup {es : List Entry} (hkeys : (es.map Entry.orderKey).Nodup)
    (k : List (List Char)) :
    es.filter (·.orderKey = k) = [] ∨ ∃ e, es.filter (·.orderKey = k) = [e] := by
  have hdistinct : (es.filter (·.orderKey = k)).Pairwise fun a b => a.orderKey ≠ b.orderKey :=
    (List.pairwise_map.1 hkeys).filter _
  have hkey : ∀ e ∈ es.filter (·.orderKey = k), e.orderKey = k := fun e he =>
    of_decide_eq_true (List.mem_filter.1 he).2
  cases hfilter : es.filter (·.orderKey = k) with
  | nil => exact .inl rfl
  | cons a as =>
    refine .inr ⟨a, ?_⟩
    cases as with
    | nil => rfl
    | cons b bs =>
      rw [hfilter] at hdistinct hkey
      have hab : a.orderKey = b.orderKey := by rw [hkey a (by simp), hkey b (by simp)]
      exact absurd hab (List.rel_of_pairwise_cons hdistinct (by simp))

theorem filter_orderKey_perm {es es' : List Entry} (hkeys : (es.map Entry.orderKey).Nodup)
    (hperm : es'.Perm es) (k : List (List Char)) :
    es'.filter (·.orderKey = k) = es.filter (·.orderKey = k) := by
  have hfilter := hperm.filter (·.orderKey = k)
  rcases filter_orderKey_of_nodup hkeys k with hnone | ⟨e, hone⟩
  · rw [hnone] at hfilter ⊢
    exact hfilter.eq_nil
  · rw [hone] at hfilter ⊢
    exact hfilter.eq_singleton

namespace Style

/-- Sorted entries of different keys have the same results, the same bibliography or error, and the
same citable bibliography in any order, and these are written in the same way. -/
theorem bibliography_of_perm {style : Style} {es es' : List Entry}
    (hsorting : style.sorting = .authorYearTitle) (hkeys : (es.map Entry.orderKey).Nodup)
    (hperm : es'.Perm es) :
    style.citeAll es' = style.citeAll es ∧
      style.bibliography es' = style.bibliography es ∧
      style.citableBibliography es' = style.citableBibliography es ∧
      ∀ l : Layout, (style.bibliography es').map l.print = (style.bibliography es).map l.print ∧
        l.print (style.citableBibliography es') = l.print (style.citableBibliography es) := by
  have hsort : style.sorting.sort es' = style.sorting.sort es := by
    rw [hsorting]
    exact sort_eq_of_ties (filter_orderKey_perm hkeys hperm)
  have hall : style.citeAll es' = style.citeAll es := by rw [citeAll, citeAll, hsort]
  have hstrict : style.bibliography es' = style.bibliography es := by
    rw [bibliography, bibliography, hall]
  have hcitable : style.citableBibliography es' = style.citableBibliography es := by
    rw [citableBibliography, citableBibliography, hall]
  exact ⟨hall, hstrict, hcitable, fun l => by rw [hstrict, hcitable]; exact ⟨rfl, rfl⟩⟩

/-- Two works by one author and one without a year, which cannot be cited. -/
def mixed : List Entry :=
  [⟨.misc, ['a'], [⟨"author".toList, .literal "B".toList⟩, ⟨"year".toList, .number 2001⟩]⟩,
    ⟨.misc, ['b'], [⟨"author".toList, .literal "B".toList⟩, ⟨"year".toList, .number 1999⟩]⟩,
    ⟨.misc, ['c'], [⟨"author".toList, .literal "A".toList⟩]⟩]

theorem bibliography_of_perm_mixed :
    ((mixed.map Entry.orderKey).Nodup ∧ mixed.reverse.Perm mixed) ∧
      ({} : Style).citeAll mixed.reverse = ({} : Style).citeAll mixed ∧
      ({} : Style).bibliography mixed.reverse = ({} : Style).bibliography mixed ∧
      ({} : Style).citableBibliography mixed.reverse = ({} : Style).citableBibliography mixed ∧
      ∀ l : Layout,
        (({} : Style).bibliography mixed.reverse).map l.print =
          (({} : Style).bibliography mixed).map l.print ∧
        l.print (({} : Style).citableBibliography mixed.reverse) =
          l.print (({} : Style).citableBibliography mixed) := by
  have hkeys : (mixed.map Entry.orderKey).Nodup := by decide +kernel
  have hperm : mixed.reverse.Perm mixed := mixed.reverse_perm
  exact ⟨⟨hkeys, hperm⟩, bibliography_of_perm rfl hkeys hperm⟩

end Style
end Citation
