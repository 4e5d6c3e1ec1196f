import Citation.Proofs.Fields
import Citation.Proofs.Heedless
import Citation.Proofs.Substitution
import Citation.Style

/-! References that nothing has been put in place of. A value with one left in it has no text, and
nothing but the texts of its fields is read of an entry, so that such a field is as good as
absent. -/
namespace Citation

/-! What an entry's citation, order and lacking fields depend on. -/

namespace Entry

/-- Two entries of one type and key whose fields have the same texts. -/
structure SameTexts (e e' : Entry) : Prop where
  type : e'.type = e.type
  key : e'.key = e.key
  text : ∀ name, e'.text name = e.text name

variable {e e' : Entry}

theorem SameTexts.persons (h : SameTexts e e') (role : List Char) :
    e'.persons role = e.persons role := by
  rw [Entry.persons, Entry.persons, h.text]

theorem SameTexts.lacking (h : SameTexts e e') : e'.lacking = e.lacking := by
  simp only [Entry.lacking, h.type, h.text]

theorem SameTexts.orderKey (h : SameTexts e e') : e'.orderKey = e.orderKey := by
  have hprincipals : e'.principals = e.principals := by
    simp only [principals, h.type, h.persons]
  have hfield : ∀ name, e'.fieldKey name = e.fieldKey name := by
    intro name
    rw [fieldKey, fieldKey, h.text]
  simp only [Entry.orderKey, authorKey, hprincipals, hfield]

/-- No field is blank in one of them and absent in the other. -/
theorem SameTexts.blanked (h : SameTexts e e') : Blanked (fun _ => false) e e' where
  need_blank _ hname := nomatch hname
  gone _ hname := nomatch hname
  kept name _ := h.text name
  persons := h.persons

/-- A field without a text can be taken out. -/
theorem sameTexts_without {name : List Char} (h : e.text name = none) :
    SameTexts e (e.without name) where
  type := rfl
  key := rfl
  text other := by
    cases hname : sameName other name with
    | true =>
      rw [Entry.text, find_without_of_same hname, Entry.text, find_congr hname]
      exact h.symm
    | false => rw [Entry.text, find_without_of_other hname, Entry.text]

end Entry

namespace Part

mutual

theorem heedless_none (e : Entry) : ∀ p : Part, p.heedless (fun _ => false) e = true
  | .words _ => rfl
  | .field _ => rfl
  | .range _ => rfl
  | .names _ => rfl
  | .byCount .. => rfl
  | .link .. => rfl
  | .modified _ p => heedless_none e p
  | .joined _ ps => allHeedless_none e ps
  | .optional p => by simp [heedless_none e p]
  | .firstPresent ps => heedlessFirst_none e ps

theorem allHeedless_none (e : Entry) : ∀ ps : List Part, allHeedless (fun _ => false) e ps = true
  | [] => rfl
  | p :: ps => by simp [heedless_none e p, allHeedless_none e ps]

theorem heedlessFirst_none (e : Entry) :
    ∀ ps : List Part, heedlessFirst (fun _ => false) e ps = true
  | [] => rfl
  | p :: ps => by simp [heedless_none e p, heedlessFirst_none e ps]

end

end Part

namespace Style

/-- Entries with the same texts have the same citation, or none. -/
theorem cite_of_sameTexts (style : Style) {e e' : Entry} (h : Entry.SameTexts e e') :
    (style.cite e').toOption = (style.cite e).toOption := by
  cases hps : Template.ofType e.type with
  | none => simp only [cite, h.type, hps]; rfl
  | some ps =>
    cases hlacking : e.lacking with
    | cons f fs => simp only [cite, h.type, hps, h.lacking, hlacking]; rfl
    | nil =>
      have htexts : (Part.texts style.personText e' ps).toOption =
          (Part.texts style.personText e ps).toOption :=
        Part.toOption_texts h.blanked ps (Part.allHeedless_none e ps)
      simp only [cite, h.type, h.key, hps, h.lacking, hlacking, toOption_map, blocks, htexts]

/-- A field with a reference left in it, however deep, is as good as absent: without the fields of
its name, the entry has the same citation or none, the same place in the order, and the same
lacking fields. -/
theorem cite_without_reference (style : Style) {e : Entry} {name : List Char} {f : Field}
    (hf : e.find name = some f) (href : f.value.references ≠ []) :
    (∀ c, style.cite e = .ok c ↔ style.cite (e.without name) = .ok c) ∧
      (e.without name).orderKey = e.orderKey ∧ (e.without name).lacking = e.lacking := by
  have htext : e.text name = none := by
    have hopen : f.value.openReference ≠ none := by
      rwa [Value.openReference_eq_head?, Ne, List.head?_eq_none_iff]
    rw [Entry.text, hf]
    exact (Value.text_eq_none_iff f.value).2 hopen
  have hsame := Entry.sameTexts_without htext
  refine ⟨?_, hsame.orderKey, hsame.lacking⟩
  intro c
  rw [← toOption_eq_some_iff, ← toOption_eq_some_iff, style.cite_of_sameTexts hsame]

/-- A book by its editor, with a reference inside its authors. -/
def edited : Entry where
  type := .book
  key := "k".toList
  fields := [⟨"Author".toList, .concat [.literal "A ".toList, .concat [.reference ['m']]]⟩,
    ⟨"editor".toList, .literal "E".toList⟩, ⟨"title".toList, .literal "T".toList⟩,
    ⟨"year".toList, .number 2000⟩, ⟨"publisher".toList, .literal "P".toList⟩]

theorem cite_without_reference_edited :
    (∃ c, ({} : Style).cite edited = .ok c) ∧
      (∃ f, edited.find "author".toList = some f ∧ f.value.references ≠ []) ∧
      (∀ c, ({} : Style).cite edited = .ok c ↔
        ({} : Style).cite (edited.without "author".toList) = .ok c) ∧
      (edited.without "author".toList).orderKey = edited.orderKey ∧
      (edited.without "author".toList).lacking = edited.lacking := by
  have hfind : edited.find "author".toList =
      some ⟨"Author".toList, .concat [.literal "A ".toList, .concat [.reference ['m']]]⟩ := rfl
  have hreferences : Value.references
      (.concat [.literal "A ".toList, .concat [.reference ['m']]]) ≠ [] := by decide
  have hsome : ((({} : Style).cite edited).toOption).isSome = true := by decide +kernel
  obtain ⟨c, hc⟩ := Option.isSome_iff_exists.1 hsome
  exact ⟨⟨c, toOption_eq_some_iff.1 hc⟩, ⟨_, hfind, hreferences⟩,
    cite_without_reference {} hfind hreferences⟩

end Style
end Citation
