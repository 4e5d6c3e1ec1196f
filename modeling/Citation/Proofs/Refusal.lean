import Citation.Proofs.Parts
import Citation.Proofs.Texts
import Citation.Style

/-! When an entry cannot be cited, and what is said of it: the type is unknown, a required field has
no text, or the persons that the type needs are missing. Nothing else stops a citation. -/
namespace Citation

/-- What is said of an entry without a text for a field: the field's first undefined macro, or that
the field is missing. -/
inductive Entry.Lacks (e : Entry) (name : List Char) : Error → Prop
  | undefinedMacro {macroName : List Char} (h : e.openReference name = some macroName) :
      Lacks e name (.undefinedMacro e.key name macroName)
  | missingField (h : e.openReference name = none) :
      Lacks e name (.missingField e.key e.type.name name)

namespace EntryType

/-- The types that need the names of an author. -/
def authored : EntryType → Bool
  | .article | .inCollection | .inProceedings | .phdThesis | .techReport | .unpublished => true
  | _ => false

/-- The fields that can stop a citation. -/
def decisive (t : EntryType) : List String :=
  t.required ++ if t = .book then ["author", "editor"] else []

end EntryType

/-- Why a style cannot cite an entry. -/
inductive Refusal (style : Style) (e : Entry) : Error → Prop
  | unsupported {name : List Char} (ht : e.type = .other name) :
      Refusal style e (.unsupportedType e.key name)
  /-- The first required field without a text. -/
  | required {before after : List String} {f : String} {err : Error}
      (hfields : e.type.required = before ++ f :: after)
      (hbefore : ∀ g ∈ before, (e.text g.toList).isSome = true) (hf : e.text f.toList = none)
      (herr : e.Lacks f.toList err) : Refusal style e err
  | author (hfields : ∀ f ∈ e.type.required, (e.text f.toList).isSome = true)
      (ht : e.type.authored = true) (hnames : e.persons "author".toList = none) :
      Refusal style e (.missingField e.key e.type.name "author".toList)
  /-- A book whose authors come to nothing has no editors either. -/
  | editor {err : Error} (hfields : ∀ f ∈ e.type.required, (e.text f.toList).isSome = true)
      (ht : e.type = .book)
      (hauthors : ∀ ps, e.persons "author".toList = some ps →
        nameList.join (ps.map style.personText) = .nil)
      (hnames : e.persons "editor".toList = none) (herr : e.Lacks "editor".toList err) :
      Refusal style e err

namespace Entry

variable {e : Entry}

theorem lacks_iff {name : List Char} {err : Error} : e.Lacks name err ↔ err = e.lack name := by
  constructor
  · intro h
    cases h with
    | undefinedMacro h => simp [lack, h]
    | missingField h => simp [lack, h]
  · rintro rfl
    cases h : e.openReference name with
    | some macroName => simpa [lack, h] using Lacks.undefinedMacro h
    | none => simpa [lack, h] using Lacks.missingField h

theorem openReference_eq_none {name : List Char} (h : (e.text name).isSome = true) :
    e.openReference name = none := by
  cases hf : e.find name with
  | none => simp [openReference, hf]
  | some f =>
    have htext : f.value.text ≠ none := by
      intro hnone
      simp [text, hf, hnone] at h
    have hopen : ¬ f.value.openReference ≠ none := mt (Value.text_eq_none_iff f.value).2 htext
    simpa [openReference, hf] using hopen

theorem lack_of_text {name : List Char} (h : (e.text name).isSome = true) :
    e.lack name = .missingField e.key e.type.name name := by
  simp [lack, openReference_eq_none h]

theorem lacking_eq_nil_iff :
    e.lacking = [] ↔ ∀ f ∈ e.type.required, (e.text f.toList).isSome = true := by
  simp [lacking, Option.isSome_iff_ne_none]

theorem lacking_eq_cons_iff {f : String} {fs : List String} : e.lacking = f :: fs ↔
    ∃ before after, e.type.required = before ++ f :: after ∧
      (∀ g ∈ before, (e.text g.toList).isSome = true) ∧ e.text f.toList = none ∧
      after.filter (fun g => (e.text g.toList).isNone) = fs := by
  simp [lacking, List.filter_eq_cons_iff, Option.isSome_iff_ne_none]

end Entry

namespace Template
open Citation.Part

variable {person : Person → Text} {e : Entry}

theorem text_authors_of_persons {ps : List Person} (h : e.persons "author".toList = some ps) :
    authors.text person e = .ok (nameList.join (ps.map person)).withPeriod := by
  have hneed : e.needPersons "author".toList = .ok ps := by rw [Entry.needPersons, h]
  rw [authors, text_sentence, Part.text, hneed]
  rfl

theorem text_authors_of_none (h : e.persons "author".toList = none) :
    authors.text person e = .error (e.lack "author".toList) := by
  rw [authors, text_sentence, Part.text, needPersons_eq_error h]
  rfl

/-- The authors of a book count unless they come to nothing. -/
theorem text_authorsOrEditors_of_persons {ps : List Person}
    (h : e.persons "author".toList = some ps) (hps : nameList.join (ps.map person) ≠ .nil) :
    authorsOrEditors.text person e = .ok (nameList.join (ps.map person)).withPeriod := by
  have hempty : (nameList.join (ps.map person)).withPeriod.isEmpty = false := by
    rw [Bool.eq_false_iff]
    intro h
    exact hps ((Text.withPeriod_eq_nil_iff _).1 ((Text.isEmpty_iff _).1 h))
  simp [authorsOrEditors, Part.text, firstText, text_authors_of_persons h, orNothing, hempty]

theorem text_authorsOrEditors_of_nil
    (h : ∀ ps, e.persons "author".toList = some ps → nameList.join (ps.map person) = .nil) :
    authorsOrEditors.text person e = (editors.text person e).map Text.withPeriod := by
  have hauthors : orNothing (authors.text person e) = .ok .nil := by
    cases hps : e.persons "author".toList with
    | none => simp only [text_authors_of_none hps, orNothing, isLack_lack, if_true]
    | some ps => rw [text_authors_of_persons hps, h ps hps]; rfl
  rw [← text_sentence]
  cases hs : (sentence [editors]).text person e with
  | error err => simp [authorsOrEditors, Part.text, firstText, hauthors, hs, Text.isEmpty]
  | ok t =>
    cases t <;> simp [authorsOrEditors, Part.text, firstText, hauthors, hs, Text.isEmpty]

theorem text_editors_of_none (h : e.persons "editor".toList = none) :
    editors.text person e = .error (e.lack "editor".toList) := by
  rw [editors, commas, Part.text, texts, Part.text, needPersons_eq_error h]
  rfl

theorem editors_isOk (h : (e.persons "editor".toList).isSome = true) :
    ∃ t, editors.text person e = .ok t :=
  text_isOk editors (by simpa [editors, commas] using h)

@[simp] theorem supplied_authors :
    authors.supplied e = (e.persons "author".toList).isSome := by
  simp [authors, sentence]

@[simp] theorem supplied_date : date.supplied e = (e.text "year".toList).isSome := by
  simp [date, adjacent]

@[simp] theorem supplied_title : title.supplied e = (e.text "title".toList).isSome := by
  simp [title, sentence]

@[simp] theorem supplied_workTitle : workTitle.supplied e = (e.text "title".toList).isSome := by
  simp [workTitle, emphasized, sentence]

@[simp] theorem supplied_maybe (name : String) : (maybe name).supplied e = true := rfl

@[simp] theorem supplied_placeInSeries (volume number : String) :
    (placeInSeries volume number).supplied e = true := by
  simp [placeInSeries]

@[simp] theorem supplied_placeInBook : placeInBook.supplied e = true := by
  simp [placeInBook, commas]

@[simp] theorem supplied_edition : edition.supplied e = true := rfl

@[simp] theorem supplied_references : references.supplied e = true := by
  simp [references, sentence]

@[simp] theorem supplied_note : note.supplied e = true := by
  simp [note, sentence]

@[simp] theorem supplied_seriesSentence : seriesSentence.supplied e = true := by
  simp [seriesSentence, sentence]

/-- With the required fields and the authors in place, nothing stops the template of a type. For a
book the authors or editors are named apart. -/
theorem texts_isOk_of_required {ps : List Part} (hps : ofType e.type = some ps)
    (hreq : ∀ f ∈ e.type.required, (e.text f.toList).isSome = true)
    (hauthor : e.type.authored = true → (e.persons "author".toList).isSome = true)
    (hbook : e.type = .book → ∃ t, authorsOrEditors.text person e = .ok t) :
    ∃ ts, texts person e ps = .ok ts := by
  cases ht : e.type <;> rw [ht] at hps hreq hauthor hbook <;>
    simp only [ofType, Option.some.injEq, reduceCtorEq] at hps <;> subst hps
  case book =>
    obtain ⟨t, htext⟩ := hbook rfl
    have hrest : allSupplied e book.tail = true := by
      simp_all [EntryType.required, book, sentence]
    obtain ⟨ts, hts⟩ := texts_isOk book.tail hrest
    refine ⟨t :: ts, ?_⟩
    rw [show book = authorsOrEditors :: book.tail from rfl, texts, htext]
    exact map_eq_ok_iff.2 ⟨ts, hts, rfl⟩
  all_goals
    apply texts_isOk
    simp_all [EntryType.required, EntryType.authored, article, inCollection, manual, misc,
      phdThesis, techReport, unpublished, sentence, spaced, emphasized]

theorem exists_ofType (t : EntryType) (h : t.required ≠ []) : ∃ ps, ofType t = some ps := by
  cases t with
  | other name => exact absurd rfl h
  | _ => exact ⟨_, rfl⟩

/-- Every citation has the year and the references. -/
theorem mem_of_ofType {t : EntryType} {ps : List Part} (hps : ofType t = some ps) :
    date ∈ ps ∧ references ∈ ps := by
  cases t <;> cases hps <;> simp [article, book, inCollection, manual, misc, phdThesis,
    techReport, unpublished]

theorem exists_authors_cons {t : EntryType} (h : t.authored = true) :
    ∃ ps, ofType t = some (authors :: ps) := by
  cases t <;> first | exact ⟨_, rfl⟩ | cases h

theorem author_mem_required_iff {t : EntryType} : "author" ∈ t.required ↔ t.authored = true := by
  cases t <;> simp [EntryType.required, EntryType.authored]

end Template

namespace Style
open Citation.Part Template

variable {style : Style} {e : Entry} {err : Error}

/-- When no required field is lacking, the template decides. -/
theorem cite_of_template {ps : List Part} (hps : ofType e.type = some ps)
    (hreq : ∀ f ∈ e.type.required, (e.text f.toList).isSome = true) :
    style.cite e = (style.blocks e ps).map fun blocks =>
      { key := e.key, type := e.type.name, label := [], blocks } := by
  have hlacking : e.lacking = [] := Entry.lacking_eq_nil_iff.2 hreq
  simp only [cite, hps, hlacking]

/-- The blocks of a citation are the texts of the template with something in them. -/
theorem exists_texts_of_cite {c : CitedEntry} (hc : style.cite e = .ok c) :
    ∃ ps ts, ofType e.type = some ps ∧ Part.texts style.personText e ps = .ok ts ∧
      c.blocks = Text.present ts := by
  cases hps : ofType e.type with
  | none => simp [cite, hps] at hc
  | some ps =>
    cases hlacking : e.lacking with
    | cons f fs => simp [cite, hps, hlacking] at hc
    | nil =>
      simp only [cite, hps, hlacking, blocks] at hc
      obtain ⟨bs, hbs, rfl⟩ := map_eq_ok_iff.1 hc
      obtain ⟨ts, hts, rfl⟩ := map_eq_ok_iff.1 hbs
      exact ⟨ps, ts, rfl, hts, rfl⟩

theorem mem_blocks_iff {c : CitedEntry} (hc : style.cite e = .ok c) {ps : List Part}
    (hps : ofType e.type = some ps) {t : Text} :
    t ∈ c.blocks ↔ t ≠ .nil ∧ ∃ p ∈ ps, p.text style.personText e = .ok t := by
  obtain ⟨ps', ts, hps', hts, hblocks⟩ := exists_texts_of_cite hc
  obtain rfl : ps' = ps := Option.some.inj (hps'.symm.trans hps)
  rw [hblocks, Text.mem_present_iff, mem_texts_iff hts, and_comm]

theorem cite_of_texts_error {p : Part} {ps : List Part} (hps : ofType e.type = some (p :: ps))
    (hreq : ∀ f ∈ e.type.required, (e.text f.toList).isSome = true)
    (h : p.text style.personText e = .error err) : style.cite e = .error err := by
  rw [cite_of_template hps hreq, blocks, texts, h]
  rfl

theorem cite_of_other {name : List Char} (ht : e.type = .other name) :
    style.cite e = .error (.unsupportedType e.key name) := by
  have hps : ofType e.type = none := by rw [ht]; rfl
  have hname : e.type.name = name := by rw [ht, EntryType.name_other]
  simp only [cite, hps, hname]

theorem cite_of_refusal (h : Refusal style e err) : style.cite e = .error err := by
  cases h with
  | unsupported ht => exact cite_of_other ht
  | @required before after f _ hfields hbefore hf herr =>
    obtain ⟨ps, hps⟩ := exists_ofType e.type (by simp [hfields])
    have hlacking := Entry.lacking_eq_cons_iff.2 ⟨before, after, hfields, hbefore, hf, rfl⟩
    simp only [cite, hps, hlacking, Entry.lacks_iff.1 herr]
  | author hfields ht hnames =>
    obtain ⟨ps, hps⟩ := exists_authors_cons ht
    have hauthor := hfields "author" (author_mem_required_iff.2 ht)
    rw [← Entry.lack_of_text hauthor]
    exact cite_of_texts_error hps hfields (text_authors_of_none hnames)
  | editor hfields ht hauthors hnames herr =>
    have hps : ofType e.type = some book := by rw [ht]; rfl
    apply cite_of_texts_error hps hfields
    rw [text_authorsOrEditors_of_nil hauthors, text_editors_of_none hnames,
      Entry.lacks_iff.1 herr]
    rfl

/-- The authors of a book, or else its editors, are there unless that is why it is refused. -/
theorem authorsOrEditors_isOk (ht : e.type = .book)
    (hfields : ∀ f ∈ e.type.required, (e.text f.toList).isSome = true)
    (h : ∀ err, ¬ Refusal style e err) :
    ∃ t, authorsOrEditors.text style.personText e = .ok t := by
  by_cases hne : ∃ ps, e.persons "author".toList = some ps ∧
      nameList.join (ps.map style.personText) ≠ .nil
  · obtain ⟨ps, hps, hne⟩ := hne
    exact ⟨_, text_authorsOrEditors_of_persons hps hne⟩
  · have hauthors : ∀ ps, e.persons "author".toList = some ps →
        nameList.join (ps.map style.personText) = .nil :=
      fun ps hps => Classical.byContradiction fun h => hne ⟨ps, hps, h⟩
    cases heditors : e.persons "editor".toList with
    | none =>
      have herr : e.Lacks "editor".toList (e.lack "editor".toList) := Entry.lacks_iff.2 rfl
      exact absurd (.editor hfields ht hauthors heditors herr) (h _)
    | some ps =>
      have hok : ∃ t, editors.text style.personText e = .ok t :=
        editors_isOk (by rw [heditors]; rfl)
      obtain ⟨t, htext⟩ := hok
      rw [text_authorsOrEditors_of_nil hauthors, htext]
      exact ⟨_, rfl⟩

theorem cite_isOk (h : ∀ err, ¬ Refusal style e err) : ∃ c, style.cite e = .ok c := by
  cases hps : ofType e.type with
  | none =>
    cases ht : e.type with
    | other name => exact absurd (.unsupported ht) (h _)
    | _ => simp [ht, ofType] at hps
  | some ps =>
    have hfields : ∀ f ∈ e.type.required, (e.text f.toList).isSome = true := by
      rw [← Entry.lacking_eq_nil_iff]
      cases hlacking : e.lacking with
      | nil => rfl
      | cons f fs =>
        obtain ⟨before, after, hfields, hbefore, hf, -⟩ := Entry.lacking_eq_cons_iff.1 hlacking
        exact absurd (.required hfields hbefore hf (Entry.lacks_iff.2 rfl)) (h _)
    have hauthor : e.type.authored = true → (e.persons "author".toList).isSome = true := by
      intro ht
      rw [Option.isSome_iff_ne_none]
      exact fun hnames => h _ (.author hfields ht hnames)
    obtain ⟨ts, hts⟩ := texts_isOk_of_required hps hfields hauthor
      fun ht => authorsOrEditors_isOk ht hfields h
    rw [cite_of_template hps hfields, blocks, hts]
    exact ⟨_, rfl⟩

theorem cite_eq_error_iff : style.cite e = .error err ↔ Refusal style e err := by
  constructor
  · intro hcite
    by_cases h : ∃ err', Refusal style e err'
    · obtain ⟨err', h'⟩ := h
      rw [cite_of_refusal h', Except.error.injEq] at hcite
      exact hcite ▸ h'
    · obtain ⟨c, hc⟩ := cite_isOk fun err' h' => h ⟨err', h'⟩
      simp [hc] at hcite
  · exact cite_of_refusal

theorem cite_isOk_iff : (∃ c, style.cite e = .ok c) ↔ ∀ err, ¬ Refusal style e err := by
  constructor
  · rintro ⟨c, hc⟩ err h
    simp [cite_of_refusal h] at hc
  · exact cite_isOk

end Style

namespace Refusal
open Template

variable {style : Style} {e e' : Entry} {err : Error}

/-- A refusal rests on the type, the key and the decisive fields alone. -/
theorem congr (htype : e'.type = e.type) (hkey : e'.key = e.key)
    (hfind : ∀ f ∈ e.type.decisive, e'.find f.toList = e.find f.toList)
    (h : Refusal style e err) : Refusal style e' err := by
  have hreq : ∀ f ∈ e.type.required, e'.find f.toList = e.find f.toList :=
    fun f hf => hfind f (List.mem_append_left _ hf)
  have htexts : (∀ f ∈ e.type.required, (e.text f.toList).isSome = true) →
      ∀ f ∈ e'.type.required, (e'.text f.toList).isSome = true := by
    intro hfields f hf
    rw [htype] at hf
    rw [Entry.text, hreq f hf]
    exact hfields f hf
  have hlacks : ∀ {f : String}, e'.find f.toList = e.find f.toList →
      e.Lacks f.toList err → e'.Lacks f.toList err := by
    intro f hf herr
    rw [Entry.lacks_iff] at herr ⊢
    simpa only [Entry.lack, Entry.openReference, hf, hkey, htype] using herr
  have hpersons : ∀ {f : String}, e'.find f.toList = e.find f.toList →
      e'.persons f.toList = e.persons f.toList := by
    intro f hf
    simp only [Entry.persons, Entry.text, hf]
  cases h with
  | unsupported ht =>
    rw [← hkey]
    exact .unsupported (htype.trans ht)
  | @required before after f _ hfields hbefore hf herr =>
    have hmem : f ∈ e.type.required := by simp [hfields]
    refine .required (htype ▸ hfields) ?_ ?_ (hlacks (hreq f hmem) herr)
    · intro g hg
      rw [Entry.text, hreq g (by simp [hfields, hg])]
      exact hbefore g hg
    · rw [Entry.text, hreq f hmem]
      exact hf
  | author hfields ht hnames =>
    rw [← hkey, ← htype]
    refine .author (htexts hfields) (htype ▸ ht) ?_
    rw [hpersons (hreq "author" (author_mem_required_iff.2 ht))]
    exact hnames
  | editor hfields ht hauthors hnames herr =>
    have hauthor := hfind "author" (by simp [EntryType.decisive, ht])
    have heditor := hfind "editor" (by simp [EntryType.decisive, ht])
    refine .editor (htexts hfields) (htype.trans ht) ?_ ?_ (hlacks heditor herr)
    · rw [hpersons hauthor]
      exact hauthors
    · rw [hpersons heditor]
      exact hnames

theorem congr_iff (htype : e'.type = e.type) (hkey : e'.key = e.key)
    (hfind : ∀ f ∈ e.type.decisive, e'.find f.toList = e.find f.toList) :
    Refusal style e' err ↔ Refusal style e err := by
  constructor
  · apply congr htype.symm hkey.symm
    intro f hf
    exact (hfind f (htype ▸ hf)).symm
  · exact congr htype hkey hfind

end Refusal

namespace Style

/-- A style refuses an entry for the reasons of `Refusal` and cites it otherwise. Fields that are
not decisive for the type have no part in that. -/
theorem cite_refuses_iff (style : Style) (e : Entry) :
    (∀ err, style.cite e = .error err ↔ Refusal style e err) ∧
      ((∃ c, style.cite e = .ok c) ↔ ∀ err, ¬ Refusal style e err) ∧
      ∀ e' : Entry, e'.type = e.type → e'.key = e.key →
        (∀ f ∈ e.type.decisive, e'.find f.toList = e.find f.toList) →
        ∀ err, style.cite e' = .error err ↔ style.cite e = .error err := by
  refine ⟨fun err => cite_eq_error_iff, cite_isOk_iff, ?_⟩
  intro e' htype hkey hfind err
  rw [cite_eq_error_iff, cite_eq_error_iff]
  exact Refusal.congr_iff htype hkey hfind

end Style
end Citation
