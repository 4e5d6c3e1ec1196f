import Citation.Proofs.Refusal
import Citation.Proofs.Substitution

/-! The cause of a refusal. Where nothing but references without a definition stops a citation, the
first of them in a field is told. The exception is a book with references among its authors and
without editors, of which the lack of editors is told. -/
namespace Citation

namespace Value

mutual

/-- A value with the letter X in place of each reference. -/
def filled : Value → Value
  | .literal s => .literal s
  | .number n => .number n
  | .reference _ => .literal ['X']
  | .concat parts => .concat (filledAll parts)

def filledAll : List Value → List Value
  | [] => []
  | v :: vs => v.filled :: filledAll vs

end

mutual

theorem filled_of_no_reference : ∀ v : Value, v.openReference = none → v.filled = v
  | .literal _, _ => rfl
  | .number _, _ => rfl
  | .reference _, h => by simp [openReference] at h
  | .concat parts, h => by rw [filled, filledAll_of_no_reference parts h]

theorem filledAll_of_no_reference : ∀ vs : List Value, openReferenceIn vs = none →
    filledAll vs = vs
  | [], _ => rfl
  | v :: vs, h => by
    obtain ⟨hv, hvs⟩ := Option.or_eq_none_iff.1 h
    rw [filledAll, filled_of_no_reference v hv, filledAll_of_no_reference vs hvs]

end

end Value

namespace Entry

/-- An entry with the letter X in place of each reference. -/
def filled (e : Entry) : Entry :=
  { e with fields := e.fields.map fun f => { f with value := f.value.filled } }

/-- The error names the first reference in a field, under the field's name in some case. -/
def NamesReference (e : Entry) (err : Error) : Prop := ∃ name f macroName, e.find name = some f ∧
  f.value.references.head? = some macroName ∧ err = .undefinedMacro e.key name macroName

/-- A book has a reference among its authors and none among its editors, and nothing else is
amiss with its required fields. -/
def HidesReference (e : Entry) : Prop := e.type = .book ∧ e.lacking = [] ∧
  e.openReference "author".toList ≠ none ∧ e.openReference "editor".toList = none

variable {e : Entry} {name : List Char} {err : Error}

theorem find_filled (e : Entry) (name : List Char) :
    e.filled.find name = (e.find name).map fun f => { f with value := f.value.filled } := by
  rw [find, filled, List.find?_map]
  rfl

theorem find_filled_of_no_reference (h : e.openReference name = none) :
    e.filled.find name = e.find name := by
  rw [find_filled]
  cases hf : e.find name with
  | none => rfl
  | some f =>
    have hopen : f.value.openReference = none := by simpa [openReference, hf] using h
    rw [Option.map_some, f.value.filled_of_no_reference hopen]

theorem namesReference_of_open {macroName : List Char} (h : e.openReference name = some macroName) :
    e.NamesReference (.undefinedMacro e.key name macroName) := by
  obtain ⟨f, hf, hopen⟩ := Option.bind_eq_some_iff.1 h
  rw [Value.openReference_eq_head?] at hopen
  exact ⟨name, f, macroName, hf, hopen, rfl⟩

end Entry

namespace Style

variable {style : Style} {e : Entry} {err : Error} {c : CitedEntry}

theorem lacking_eq_nil_of_cite (hc : style.cite e = .ok c) : e.lacking = [] := by
  obtain ⟨ps, -, hps, -, -⟩ := exists_texts_of_cite hc
  cases hlacking : e.lacking with
  | nil => rfl
  | cons f fs => simp [cite, hps, hlacking] at hc

/-- A refusal that filling lifts rests on a reference in a decisive field. -/
theorem exists_decisive_reference (h : Refusal style e err) (hc : style.cite e.filled = .ok c) :
    ∃ f ∈ e.type.decisive, e.openReference f.toList ≠ none := by
  by_contra hnone
  have hsame : ∀ f ∈ e.type.decisive, e.filled.find f.toList = e.find f.toList := by
    intro f hf
    apply Entry.find_filled_of_no_reference
    by_contra hopen
    exact hnone ⟨f, hf, hopen⟩
  have hfilled : Refusal style e.filled err := Refusal.congr (e := e) rfl rfl hsame h
  rw [cite_of_refusal hfilled] at hc
  cases hc

/-- A required field without a text holds a reference if filling lifts the refusal. -/
theorem openReference_of_required {f : String} (hc : style.cite e.filled = .ok c)
    (hf : f ∈ e.type.required) (h : e.text f.toList = none) :
    e.openReference f.toList ≠ none := by
  intro hnone
  have hfilled := Entry.lacking_eq_nil_iff.1 (lacking_eq_nil_of_cite hc) f hf
  rw [Entry.text, Entry.find_filled_of_no_reference hnone, ← Entry.text, h] at hfilled
  cases hfilled

/-- Where filling the references lifts a refusal, the error names the first reference in a field,
or it is the editors that a book lacks. -/
theorem cite_names_reference (style : Style) (e : Entry) (err : Error) (c : CitedEntry)
    (herr : style.cite e = .error err) (hc : style.cite e.filled = .ok c) :
    (¬ e.HidesReference → e.NamesReference err) ∧
      (e.HidesReference → err = .missingField e.key "book".toList "editor".toList) := by
  have hrefusal := cite_eq_error_iff.1 herr
  obtain ⟨g, hg, hopen⟩ := exists_decisive_reference hrefusal hc
  cases hrefusal with
  | unsupported ht => simp [EntryType.decisive, EntryType.required, ht] at hg
  | @required before after f _ hfields hbefore hf hlacks =>
    have hmem : f ∈ e.type.required := by simp [hfields]
    have hreference := openReference_of_required hc hmem hf
    cases hlacks with
    | missingField hnone => exact absurd hnone hreference
    | undefinedMacro hundefined =>
      refine ⟨fun _ => Entry.namesReference_of_open hundefined, fun hhides => ?_⟩
      have hsome := Entry.lacking_eq_nil_iff.1 hhides.2.1 f hmem
      rw [hf] at hsome
      cases hsome
  | author hfields ht hnames =>
    -- All decisive fields are required, and these have texts.
    have hrequired : g ∈ e.type.required := by
      have hbook : e.type ≠ .book := by
        intro hbook
        simp [EntryType.authored, hbook] at ht
      simpa [EntryType.decisive, hbook] using hg
    exact absurd (Entry.openReference_eq_none (hfields g hrequired)) hopen
  | editor hfields ht hauthors hnames hlacks =>
    have hg : g ∈ e.type.required ∨ g = "author" ∨ g = "editor" := by
      simpa [EntryType.decisive, ht] using hg
    cases hlacks with
    | undefinedMacro hundefined =>
      exact ⟨fun _ => Entry.namesReference_of_open hundefined,
        fun hhides => absurd (hundefined.symm.trans hhides.2.2.2) (by simp)⟩
    | missingField hnone =>
      refine ⟨fun hnot => absurd ?_ hnot, fun _ => by rw [ht]; rfl⟩
      refine ⟨ht, Entry.lacking_eq_nil_iff.2 hfields, ?_, hnone⟩
      rcases hg with hg | rfl | rfl
      · exact absurd (Entry.openReference_eq_none (hfields g hg)) hopen
      · exact hopen
      · exact absurd hnone hopen

/-- A book with a reference among its authors, and with the given fields besides. -/
def referring (fields : List Field) : Entry where
  type := .book
  key := "k".toList
  fields := [⟨"author".toList, .reference "foo".toList⟩, ⟨"title".toList, .literal ['T']⟩,
    ⟨"year".toList, .number 2000⟩, ⟨"publisher".toList, .literal ['P']⟩] ++ fields

theorem cite_names_reference_editor :
    let e := referring
      [⟨"Editor".toList, .concat [.literal "E and ".toList, .reference "bar".toList]⟩]
    (∃ c, ({} : Style).cite e.filled = .ok c) ∧
      ({} : Style).cite e = .error (.undefinedMacro "k".toList "editor".toList "bar".toList) ∧
      e.NamesReference (.undefinedMacro "k".toList "editor".toList "bar".toList) := by
  intro e
  have herr : ({} : Style).cite e =
      .error (.undefinedMacro "k".toList "editor".toList "bar".toList) :=
    cite_of_refusal (.editor (by decide) rfl (fun _ h => by cases h) rfl (.undefinedMacro rfl))
  have hsome : ((({} : Style).cite e.filled).toOption).isSome = true := by decide +kernel
  obtain ⟨c, hc⟩ := Option.isSome_iff_exists.1 hsome
  have hc := toOption_eq_some_iff.1 hc
  have hopen : ¬ e.HidesReference := fun h => absurd h.2.2.2 (by decide)
  exact ⟨⟨c, hc⟩, herr, (cite_names_reference {} e _ c herr hc).1 hopen⟩

/-- Where a book's editors hold no reference, the one among its authors is passed over. -/
theorem not_cite_names_reference :
    ¬ ∀ (style : Style) (e : Entry) (err : Error) (c : CitedEntry), style.cite e = .error err →
      style.cite e.filled = .ok c → e.NamesReference err := by
  intro h
  have herr : ({} : Style).cite (referring []) =
      .error (.missingField "k".toList "book".toList "editor".toList) :=
    cite_of_refusal (.editor (by decide) rfl (fun _ h => by cases h) rfl (.missingField rfl))
  have hsome : ((({} : Style).cite (referring []).filled).toOption).isSome = true := by
    decide +kernel
  obtain ⟨c, hc⟩ := Option.isSome_iff_exists.1 hsome
  obtain ⟨name, f, macroName, -, -, hne⟩ := h {} _ _ c herr (toOption_eq_some_iff.1 hc)
  cases hne

end Style
end Citation
