import Citation.Proofs.Ordering
import Citation.Proofs.Results
import Citation.Style

/-! Bibliographies of a list of entries: one result to an entry, all of them or the first error,
and those that can be cited. Labels are the places in the bibliography, without gaps. -/
namespace Citation

/-- The citation without its label. -/
def CitedEntry.unlabelled (c : CitedEntry) : CitedEntry := { c with label := [] }

@[simp] theorem unlabelled_atPlace (c : CitedEntry) (n : Nat) :
    (c.atPlace n).unlabelled = c.unlabelled := rfl

@[simp] theorem label_atPlace (c : CitedEntry) (n : Nat) :
    (c.atPlace n).label = Nat.toDigits 10 n := rfl

namespace Style

/-- An entry is cited without a label. -/
theorem cite_unlabelled {style : Style} {e : Entry} {c : CitedEntry}
    (h : style.cite e = .ok c) : c.unlabelled = c := by
  unfold cite at h
  split at h
  · simp at h
  · split at h
    · simp at h
    · obtain ⟨blocks, -, rfl⟩ := map_eq_ok_iff.1 h
      rfl

theorem allOrError_eq_ok_iff {α : Type} (rs : List (Except Error α)) (as : List α) :
    allOrError rs = .ok as ↔ rs = as.map .ok := by
  induction rs generalizing as with
  | nil => cases as <;> simp [allOrError]
  | cons r rs ih =>
    cases r with
    | error err => cases as <;> simp [allOrError]
    | ok a =>
      simp only [allOrError, map_eq_ok_iff, ih]
      cases as with
      | nil => simp
      | cons b bs =>
        simp only [List.map_cons, List.cons.injEq, Except.ok.injEq]
        constructor
        · rintro ⟨as, rfl, rfl, rfl⟩
          exact ⟨rfl, rfl⟩
        · rintro ⟨rfl, rfl⟩
          exact ⟨bs, rfl, rfl, rfl⟩

/-- The error is the first one, behind successes only. -/
theorem allOrError_eq_error_iff {α : Type} (rs : List (Except Error α)) (err : Error) :
    allOrError rs = .error err ↔
      ∃ before after, rs = before ++ .error err :: after ∧ ∀ r ∈ before, ∃ a, r = .ok a := by
  induction rs with
  | nil => simp [allOrError]
  | cons r rs ih =>
    cases r with
    | error err' =>
      simp only [allOrError, Except.error.injEq]
      constructor
      · rintro rfl
        exact ⟨[], rs, rfl, by simp⟩
      · rintro ⟨before, after, hrs, hok⟩
        cases before with
        | nil => simp_all
        | cons b before =>
          obtain ⟨rfl, -⟩ := List.cons.inj hrs
          obtain ⟨a, ha⟩ := hok (.error err') List.mem_cons_self
          simp at ha
    | ok a =>
      simp only [allOrError, map_eq_error_iff, ih]
      constructor
      · rintro ⟨before, after, rfl, hok⟩
        exact ⟨.ok a :: before, after, rfl, by simpa using hok⟩
      · rintro ⟨before, after, hrs, hok⟩
        cases before with
        | nil => simp at hrs
        | cons b before =>
          obtain ⟨-, rfl⟩ := List.cons.inj hrs
          exact ⟨before, after, rfl, fun r hr => hok r (by simp [hr])⟩

theorem citeAll_length (style : Style) (es : List Entry) :
    (style.citeAll es).length = es.length := by
  simp [citeAll, (Sorting.sort_perm style.sorting es).length_eq]

theorem citeAll_getElem? (style : Style) (es : List Entry) (i : Nat) :
    (style.citeAll es)[i]? = ((style.sorting.sort es)[i]?).map fun e =>
      (style.cite e).map (·.atPlace (i + 1)) := by
  simp [citeAll]

/-- The error of a bibliography is that of the first entry in its order that cannot be cited. -/
theorem bibliography_eq_error_iff (style : Style) (es : List Entry) (err : Error) :
    style.bibliography es = .error err ↔
      ∃ before e after, style.sorting.sort es = before ++ e :: after ∧
        (∀ d ∈ before, ∃ c, style.cite d = .ok c) ∧ style.cite e = .error err := by
  rw [bibliography, allOrError_eq_error_iff]
  simp only [citeAll, List.mapIdx_eq_append_iff, List.mapIdx_eq_cons_iff]
  constructor
  · rintro ⟨_, _, ⟨before, _, hs, rfl, e, after, rfl, he, rfl⟩, hok⟩
    refine ⟨before, e, after, hs, ?_, map_eq_error_iff.1 he⟩
    intro d hd
    obtain ⟨i, hi, rfl⟩ := List.getElem_of_mem hd
    obtain ⟨c, hc⟩ := hok _ (List.mem_mapIdx.2 ⟨i, hi, rfl⟩)
    obtain ⟨c', hc', -⟩ := map_eq_ok_iff.1 hc
    exact ⟨c', hc'⟩
  · rintro ⟨before, e, after, hs, hok, he⟩
    refine ⟨_, _, ⟨before, e :: after, hs, rfl, e, after, rfl, map_eq_error_iff.2 he, rfl⟩, ?_⟩
    intro r hr
    obtain ⟨i, hi, rfl⟩ := List.mem_mapIdx.1 hr
    obtain ⟨c, hc⟩ := hok _ (List.getElem_mem hi)
    exact ⟨_, map_eq_ok_iff.2 ⟨c, hc, rfl⟩⟩

/-- A bibliography has the citation of each entry at the entry's place. -/
theorem exists_cite_of_bibliography {style : Style} {es : List Entry} {b : Bibliography}
    (hb : style.bibliography es = .ok b) {i : Nat} {e : Entry}
    (hi : (style.sorting.sort es)[i]? = some e) :
    ∃ c, style.cite e = .ok c ∧ b[i]? = some (c.atPlace (i + 1)) := by
  have hr := style.citeAll_getElem? es i
  rw [(allOrError_eq_ok_iff _ _).1 hb, hi, List.getElem?_map] at hr
  obtain ⟨c', hc', hlabelled⟩ := Option.map_eq_some_iff.1 hr
  obtain ⟨c, hc, rfl⟩ := map_eq_ok_iff.1 hlabelled.symm
  exact ⟨c, hc, hc'⟩

/-- Each place of a bibliography has the citation of the entry with that place. -/
theorem exists_entry_of_bibliography {style : Style} {es : List Entry} {b : Bibliography}
    (hb : style.bibliography es = .ok b) {i : Nat} {d : CitedEntry} (hi : b[i]? = some d) :
    ∃ e c, (style.sorting.sort es)[i]? = some e ∧ style.cite e = .ok c ∧ d = c.atPlace (i + 1) := by
  have hr := style.citeAll_getElem? es i
  rw [(allOrError_eq_ok_iff _ _).1 hb, List.getElem?_map, hi] at hr
  obtain ⟨e, he, hlabelled⟩ := Option.map_eq_some_iff.1 hr.symm
  obtain ⟨c, hc, rfl⟩ := map_eq_ok_iff.1 hlabelled
  exact ⟨e, c, he, hc, rfl⟩

theorem bibliography_isOk_iff (style : Style) (es : List Entry) :
    (∃ b, style.bibliography es = .ok b) ↔ ∀ e ∈ es, ∃ c, style.cite e = .ok c := by
  have hmem (e : Entry) : e ∈ style.sorting.sort es ↔ e ∈ es :=
    (Sorting.sort_perm style.sorting es).mem_iff
  constructor
  · rintro ⟨b, hb⟩ e he
    obtain ⟨i, hi⟩ := List.getElem?_of_mem ((hmem e).2 he)
    obtain ⟨c, hc, -⟩ := exists_cite_of_bibliography hb hi
    exact ⟨c, hc⟩
  · intro hok
    cases hb : style.bibliography es with
    | ok b => exact ⟨b, rfl⟩
    | error err =>
      obtain ⟨before, e, after, hs, -, he⟩ := (bibliography_eq_error_iff style es err).1 hb
      obtain ⟨c, hc⟩ := hok e ((hmem e).1 (by simp [hs]))
      simp [hc] at he

end Style

namespace Bibliography

theorem labels_labelled (b : Bibliography) :
    (labelled b).map (·.label) = (List.range b.length).map fun i => Nat.toDigits 10 (i + 1) := by
  apply List.ext_getElem
  · simp [labelled]
  · intro i _ _
    simp [labelled]

theorem unlabelled_labelled (b : Bibliography) :
    (labelled b).map CitedEntry.unlabelled = b.map CitedEntry.unlabelled := by
  apply List.ext_getElem?
  intro i
  simp [labelled, Function.comp_def]

theorem toDigits_length_le_succ (n : Nat) :
    (Nat.toDigits 10 n).length ≤ (Nat.toDigits 10 (n + 1)).length := by
  rw [Nat.length_toDigits_le_iff (by decide) Nat.length_toDigits_pos]
  have h := (Nat.length_toDigits_le_iff (by decide : 1 < 10)
    (Nat.length_toDigits_pos (b := 10) (n := n + 1))).1 (Nat.le_refl _)
  omega

/-- The widest label is the last one. -/
theorem widestLabel_labelled (b : Bibliography) (hb : b ≠ []) :
    widestLabel (labelled b) = Nat.toDigits 10 b.length := by
  induction b using List.reverseRecOn with
  | nil => exact absurd rfl hb
  | append_singleton b c ih =>
    simp only [widestLabel, labelled, List.mapIdx_concat, List.foldl_append, List.foldl_cons,
      List.foldl_nil, label_atPlace, List.length_append, List.length_singleton] at ih ⊢
    apply if_pos
    by_cases h : b = []
    · simp [h]
    · rw [ih h]
      exact toDigits_length_le_succ b.length

end Bibliography

namespace Style

theorem filterMap_cited (style : Style) (place : Nat → Nat) (s : List Entry) :
    ((s.mapIdx fun i e => (style.cite e).map (·.atPlace (place i))).filterMap
      Except.toOption).map CitedEntry.unlabelled =
        s.filterMap fun e => (style.cite e).toOption := by
  induction s generalizing place with
  | nil => rfl
  | cons e s ih =>
    have htail := ih fun i => place (i + 1)
    rw [List.mapIdx_cons, List.filterMap_cons, List.filterMap_cons]
    cases he : style.cite e with
    | error err => simpa [Except.map, Except.toOption] using htail
    | ok c => simpa [Except.map, Except.toOption, cite_unlabelled he] using htail

/-- The entries that can be cited, in bibliography order. -/
theorem citable_unlabelled (style : Style) (es : List Entry) :
    (style.citableBibliography es).map CitedEntry.unlabelled =
      (style.sorting.sort es).filterMap fun e => (style.cite e).toOption := by
  rw [citableBibliography, Bibliography.unlabelled_labelled]
  exact filterMap_cited style (· + 1) _

theorem eq_citable_of_bibliography {style : Style} {es : List Entry} {b : Bibliography}
    (h : style.bibliography es = .ok b) : b = style.citableBibliography es := by
  have hall := (allOrError_eq_ok_iff _ _).1 h
  have hb : (style.citeAll es).filterMap Except.toOption = b := by
    rw [hall, List.filterMap_map]
    exact List.filterMap_some
  rw [citableBibliography, hb]
  apply List.ext_getElem?
  intro i
  rw [Bibliography.labelled, List.getElem?_mapIdx]
  cases hbi : b[i]? with
  | none => rfl
  | some d =>
    obtain ⟨e, c, -, -, rfl⟩ := exists_entry_of_bibliography h hbi
    rfl

/-- Each entry in bibliography order has one result with its place as its label. The strict
bibliography has all of them or stops at the first entry that cannot be cited; the other one has
those that can be cited, and is the strict one where that exists. -/
theorem bibliography_order (style : Style) (es : List Entry) :
    let s := style.sorting.sort es
    let citable := style.citableBibliography es
    (∀ t, style.sorting.Orders es t ↔ t = s) ∧
    (style.citeAll es).length = es.length ∧
    (∀ i : Nat, (style.citeAll es)[i]? = s[i]?.map fun e =>
      match style.cite e with
      | .ok c => .ok { c with label := Nat.toDigits 10 (i + 1) }
      | .error err => .error err) ∧
    (∀ b, style.bibliography es = .ok b ↔
      (∀ e ∈ es, ∃ c, style.cite e = .ok c) ∧ b = citable) ∧
    (∀ err, style.bibliography es = .error err ↔
      ∃ before e after, s = before ++ e :: after ∧
        (∀ d ∈ before, ∃ c, style.cite d = .ok c) ∧ style.cite e = .error err) ∧
    citable.map CitedEntry.unlabelled = s.filterMap (fun e => (style.cite e).toOption) ∧
    citable.map (·.label) = (List.range citable.length).map (fun i => Nat.toDigits 10 (i + 1)) ∧
    (citable ≠ [] → citable.widestLabel = Nat.toDigits 10 citable.length) := by
  refine ⟨orders_iff style.sorting es, style.citeAll_length es, ?_, ?_,
    style.bibliography_eq_error_iff es, style.citable_unlabelled es, ?_, ?_⟩
  · intro i
    rw [citeAll_getElem?]
    congr 1
    funext e
    cases style.cite e <;> rfl
  · intro b
    constructor
    · intro h
      exact ⟨(style.bibliography_isOk_iff es).1 ⟨b, h⟩, eq_citable_of_bibliography h⟩
    · rintro ⟨hok, rfl⟩
      obtain ⟨b, hb⟩ := (style.bibliography_isOk_iff es).2 hok
      rw [hb, eq_citable_of_bibliography hb]
  · simpa [citableBibliography, Bibliography.labelled] using
      Bibliography.labels_labelled ((style.citeAll es).filterMap Except.toOption)
  · intro hne
    have hlen : (style.citableBibliography es).length =
        ((style.citeAll es).filterMap Except.toOption).length := by
      simp [citableBibliography, Bibliography.labelled]
    rw [hlen]
    apply Bibliography.widestLabel_labelled
    rintro h
    exact hne (by simp [citableBibliography, h, Bibliography.labelled])

end Style
end Citation
