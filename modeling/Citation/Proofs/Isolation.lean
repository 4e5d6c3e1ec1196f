import Citation.Database
import Citation.Proofs.Bibliography

/-! One more entry among the items of a source. It changes nothing else in the database, and if it
cannot be cited, it leaves the other results and the citable bibliography as they are. -/
namespace Citation

/-! Databases that differ in one entry. -/

namespace Database

/-- Two databases of which the second has `e` behind the entries `before`, and else the same. -/
structure OneMore (before : List Entry) (e : Entry) (db db' : Database) : Prop where
  macros : db'.macros = db.macros
  preambles : db'.preambles = db.preambles
  comments : db'.comments = db.comments
  entries : ∃ after, db.entries = before ++ after ∧ db'.entries = before ++ e :: after

theorem oneMore_addItem (db : Database) (e : Entry) :
    OneMore db.entries (expandEntry db.macros e) db (db.addItem (.entry e)) :=
  ⟨rfl, rfl, rfl, [], by simp, rfl⟩

theorem OneMore.addItem {before : List Entry} {e : Entry} {db db' : Database}
    (h : OneMore before e db db') (i : Item) :
    OneMore before e (db.addItem i) (db'.addItem i) := by
  obtain ⟨after, hdb, hdb'⟩ := h.entries
  cases i with
  | entry d =>
    refine ⟨h.macros, h.preambles, h.comments, after ++ [expandEntry db.macros d], ?_, ?_⟩
    · simp [Database.addItem, hdb]
    · simp [Database.addItem, hdb', h.macros]
  | definition name v =>
    refine ⟨?_, h.preambles, h.comments, after, hdb, hdb'⟩
    simp [Database.addItem, h.macros]
  | preamble v =>
    refine ⟨h.macros, ?_, h.comments, after, hdb, hdb'⟩
    simp [Database.addItem, h.macros, h.preambles]
  | comment s =>
    refine ⟨h.macros, h.preambles, ?_, after, hdb, hdb'⟩
    simp [Database.addItem, h.comments]

theorem OneMore.foldl {before : List Entry} {e : Entry} {db db' : Database}
    (h : OneMore before e db db') (js : List Item) :
    OneMore before e (js.foldl Database.addItem db) (js.foldl Database.addItem db') := by
  induction js generalizing db db' with
  | nil => exact h
  | cons i js ih => exact ih (h.addItem i)

theorem oneMore_ofItems (is js : List Item) (e : Entry) :
    OneMore (ofItems is).entries (expandEntry (ofItems is).macros e) (ofItems (is ++ js))
      (ofItems (is ++ .entry e :: js)) := by
  rw [ofItems_append, ofItems_append, List.foldl_cons]
  exact (oneMore_addItem (ofItems is) e).foldl js

end Database

/-! Sorting and citing one more entry. -/

/-- The entries are sorted as they are without the new one, which goes between two of them. -/
theorem sort_insert (sorting : Sorting) (es fs : List Entry) (e : Entry) :
    ∃ before after, sorting.sort (es ++ fs) = before ++ after ∧
      sorting.sort (es ++ e :: fs) = before ++ e :: after := by
  cases sorting with
  | asGiven => exact ⟨es, fs, rfl, rfl⟩
  | authorYearTitle =>
    -- Other entries can be equal to `e`, so its place is told by those of its key before it.
    have hkey := sort_stable (es ++ e :: fs) e.orderKey
    rw [List.filter_append, List.filter_cons_of_pos (by simp)] at hkey
    obtain ⟨u, v, hsort, hu, hv⟩ := List.filter_eq_append_iff.1 hkey
    obtain ⟨w, x, rfl, hw, -, hx⟩ := List.filter_eq_cons_iff.1 hv
    rw [← List.append_assoc] at hsort
    refine ⟨u ++ w, x, ?_, hsort⟩
    have hordered := sort_ordered (es ++ e :: fs)
    rw [hsort] at hordered
    refine eq_of_sorted (sort_ordered _)
      (hordered.sublist ((List.sublist_cons_self e x).append_left (u ++ w))) ?_
    intro k
    rw [sort_stable]
    by_cases hk : e.orderKey = k
    · subst hk
      have hnone : w.filter (·.orderKey = e.orderKey) = [] := List.filter_eq_nil_iff.2 hw
      simp only [List.filter_append, hu, hnone, hx, List.append_nil]
    · have hstable := sort_stable (es ++ e :: fs) k
      rw [hsort] at hstable
      simpa [List.filter_append, List.filter_cons, hk] using hstable.symm

theorem Bibliography.labelled_unlabelled (b : Bibliography) :
    labelled (b.map CitedEntry.unlabelled) = labelled b := by
  apply List.ext_getElem?
  intro i
  simp only [labelled, List.getElem?_mapIdx, List.getElem?_map, Option.map_map]
  rfl

namespace Style

/-- A citable bibliography depends on the citations of its entries only. -/
theorem citable_eq_labelled (style : Style) (es : List Entry) :
    style.citableBibliography es = Bibliography.labelled
      ((style.sorting.sort es).filterMap fun e => (style.cite e).toOption) := by
  rw [citableBibliography, ← Bibliography.labelled_unlabelled, citeAll, filterMap_cited style (· + 1)]

theorem citable_insert {style : Style} {e : Entry} {err : Error} (h : style.cite e = .error err)
    (es fs : List Entry) :
    style.citableBibliography (es ++ e :: fs) = style.citableBibliography (es ++ fs) := by
  obtain ⟨before, after, hsort, hsort'⟩ := sort_insert style.sorting es fs e
  have hnone : (style.cite e).toOption = none := by rw [h]; rfl
  rw [citable_eq_labelled, citable_eq_labelled, hsort, hsort', List.filterMap_append,
    List.filterMap_append, List.filterMap_cons_none (f := fun e => (style.cite e).toOption) hnone]

theorem map_atPlace_map_atPlace (r : Except Error CitedEntry) (m n : Nat) :
    (r.map (·.atPlace m)).map (·.atPlace n) = r.map (·.atPlace n) := by
  cases r <;> rfl

theorem citeAll_insert {style : Style} {e : Entry} {err : Error} (h : style.cite e = .error err)
    (es fs : List Entry) :
    ∃ before after, style.citeAll (es ++ fs) = before ++ after ∧
      style.citeAll (es ++ e :: fs) = before ++ .error err ::
        after.mapIdx fun i r => r.map (·.atPlace (before.length + i + 2)) := by
  obtain ⟨before, after, hsort, hsort'⟩ := sort_insert style.sorting es fs e
  refine ⟨_, _, by rw [citeAll, hsort, List.mapIdx_append], ?_⟩
  rw [citeAll, hsort', List.mapIdx_append, List.mapIdx_cons, h, List.mapIdx_mapIdx]
  congr 2
  apply List.ext_getElem?
  intro i
  simp only [List.getElem?_mapIdx, List.length_mapIdx]
  congr 1
  funext d
  have hplace : i + 1 + before.length + 1 = before.length + i + 2 := by omega
  rw [Function.comp_apply, map_atPlace_map_atPlace, hplace]

end Style

/-- One more entry among the items changes no macro, preamble, comment or other entry. If it cannot
be cited, the citable bibliography is the same, and the other results are the same but for the
labels behind it. -/
theorem Database.ofItems_insert_entry (is js : List Item) (e : Entry) :
    let db := ofItems (is ++ js)
    let db' := ofItems (is ++ .entry e :: js)
    let e' := expandEntry (ofItems is).macros e
    db'.macros = db.macros ∧ db'.preambles = db.preambles ∧ db'.comments = db.comments ∧
      (∃ after, db.entries = (ofItems is).entries ++ after ∧
        db'.entries = (ofItems is).entries ++ e' :: after) ∧
      ∀ (style : Style) (err : Error), style.cite e' = .error err →
        style.citableBibliography db'.entries = style.citableBibliography db.entries ∧
        ∃ before after, style.citeAll db.entries = before ++ after ∧
          style.citeAll db'.entries = before ++ .error err ::
            after.mapIdx fun i r => r.map (·.atPlace (before.length + i + 2)) := by
  intro db db' e'
  obtain ⟨hmacros, hpreambles, hcomments, after, hdb, hdb'⟩ := oneMore_ofItems is js e
  refine ⟨hmacros, hpreambles, hcomments, ⟨after, hdb, hdb'⟩, ?_⟩
  intro style err herr
  rw [hdb, hdb']
  exact ⟨Style.citable_insert herr _ _, Style.citeAll_insert herr _ _⟩

/-- An entry whose year is a macro. -/
def Entry.dated : Entry := ⟨.misc, "a".toList, [⟨"year".toList, .reference ['m']⟩]⟩

def datedItems : List Item := [.definition ['m'] (.number 2000), .entry Entry.dated]

theorem expandEntry_dated : Database.expandEntry [] Entry.dated = Entry.dated := by
  have hmeaning : Macros.expand [] (.reference ['m']) = .reference ['m'] := by
    rw [Macros.expand, Value.substitute, Macros.meaning]
    rfl
  simp [Database.expandEntry, Database.expandField, Entry.dated, hmeaning]

/-- The entry in front of the definition of its macro, and once more behind it. -/
theorem Database.ofItems_insert_entry_dated :
    let db := ofItems datedItems
    let db' := ofItems (.entry Entry.dated :: datedItems)
    let e' := expandEntry [] Entry.dated
    let err := Error.undefinedMacro "a".toList "year".toList ['m']
    Style.cite {} e' = .error err ∧
      db'.macros = db.macros ∧ db'.preambles = db.preambles ∧ db'.comments = db.comments ∧
      (∃ after, db.entries = after ∧ db'.entries = e' :: after) ∧
      Style.citableBibliography {} db'.entries = Style.citableBibliography {} db.entries ∧
      ∃ before after, Style.citeAll {} db.entries = before ++ after ∧
        Style.citeAll {} db'.entries = before ++ .error err ::
          after.mapIdx fun i r => r.map (·.atPlace (before.length + i + 2)) := by
  have herror : Style.cite {} (expandEntry [] Entry.dated) =
      .error (.undefinedMacro "a".toList "year".toList ['m']) := by
    rw [expandEntry_dated]
    rfl
  obtain ⟨hmacros, hpreambles, hcomments, hentries, hcite⟩ :=
    ofItems_insert_entry [] datedItems Entry.dated
  exact ⟨herror, hmacros, hpreambles, hcomments, hentries, hcite {} _ herror⟩

end Citation
