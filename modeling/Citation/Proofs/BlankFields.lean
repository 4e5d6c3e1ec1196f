import Citation.Proofs.Blocks
import Mathlib

/-! Blank fields of entries. A blank field is there as far as required fields go; otherwise it is
as good as absent, save where a template sets words of its own beside it. -/
namespace Citation

namespace Entry

variable {e : Entry} {name : List Char}

theorem blanked_without (h : e.Blank name) :
    Blanked (sameName · name) e (e.without name) where
  need_blank other hn := by
    obtain ⟨s, hs, hblank⟩ := h.of_same hn
    simp [need, hs, trim_of_whitespace hblank]
  gone other hn := by simp [text, find_without_of_same hn]
  kept other hn := by simp only [text, find_without_of_other hn]
  persons role := by
    cases hn : sameName role name with
    | true =>
      rw [persons_of_blank (h.of_same hn)]
      simp [persons, text, find_without_of_same hn]
    | false => simp only [persons, text, find_without_of_other hn]

end Entry

namespace Style
open Citation.Part Template

variable {style : Style} {e : Entry} {name : List Char}

theorem cite_isError_of_lacking {f : String} (hf : f ∈ e.type.required)
    (h : e.text f.toList = none) : ∃ err, style.cite e = .error err := by
  cases hlacking : e.lacking with
  | nil =>
    have hsome := Entry.lacking_eq_nil_iff.1 hlacking f hf
    simp [h] at hsome
  | cons g gs =>
    obtain ⟨before, after, hfields, hbefore, hg, -⟩ := Entry.lacking_eq_cons_iff.1 hlacking
    exact ⟨_, cite_of_refusal (.required hfields hbefore hg (Entry.lacks_iff.2 rfl))⟩

theorem cite_isError_of_no_author (hf : "author" ∈ e.type.required)
    (h : e.persons "author".toList = none) : ∃ err, style.cite e = .error err := by
  by_cases hreq : ∀ f ∈ e.type.required, (e.text f.toList).isSome = true
  · exact ⟨_, cite_of_refusal (.author hreq (author_mem_required_iff.1 hf) h)⟩
  · simp only [not_forall, Bool.not_eq_true, Option.isSome_eq_false_iff] at hreq
    obtain ⟨f, hf, hnone⟩ := hreq
    exact cite_isError_of_lacking hf (Option.isNone_iff_eq_none.1 hnone)

theorem lacking_without (h : ∀ f ∈ e.type.required, sameName f.toList name = false) :
    (e.without name).lacking = e.lacking := by
  apply List.filter_congr
  intro f hf
  rw [Entry.text, Entry.find_without_of_other (h f hf), Entry.text]

/-- Without a blank field that is neither required nor set beside words, the citation is the
same. -/
theorem cite_without_of_heedless (h : e.Blank name)
    (hreq : ∀ f ∈ e.type.required, sameName f.toList name = false)
    (hworded : ∀ f ∈ e.worded, sameName f.toList name = false) :
    (style.cite (e.without name)).toOption = (style.cite e).toOption := by
  have hb := Entry.blanked_without h
  have hthere : ∀ other, sameName other name = true → (e.text other).isSome = true := by
    intro other hn
    obtain ⟨s, hs, -⟩ := h.of_same hn
    rw [hs]
    rfl
  have htype : (e.without name).type = e.type := rfl
  have hkey : (e.without name).key = e.key := rfl
  cases hps : ofType e.type with
  | none => simp only [cite, htype, hkey, hps]
  | some ps =>
    cases hlacking : e.lacking with
    | cons f fs => simp only [cite, htype, hps, lacking_without hreq, hlacking]; rfl
    | nil =>
      have hheedless := heedless_template hps (fun f hf _ => hreq f hf) hworded hthere
      simp only [cite, htype, hkey, hps, lacking_without hreq, hlacking, toOption_map, blocks,
        toOption_texts hb ps hheedless]

/-- A required field with a text is not what is said to be missing. -/
theorem cite_ne_missing_of_text {f : String} (hf : f ∈ e.type.required)
    (h : (e.text f.toList).isSome = true) (hauthor : f ≠ "author") :
    style.cite e ≠ .error (.missingField e.key e.type.name f.toList) := by
  rw [Ne, cite_eq_error_iff]
  generalize herr : Error.missingField e.key e.type.name f.toList = err
  intro hrefusal
  have hname : ∀ {g : String}, e.Lacks g.toList err → f = g := by
    intro g hg
    cases hg with
    | undefinedMacro => cases herr
    | missingField =>
      simp only [Error.missingField.injEq, true_and] at herr
      exact String.toList_inj.1 herr
  cases hrefusal with
  | unsupported => cases herr
  | @required before after g _ hfields hbefore hg hlacks =>
    rw [← hname hlacks] at hg
    simp [hg] at h
  | author =>
    simp only [Error.missingField.injEq, true_and] at herr
    exact hauthor (String.toList_inj.1 herr)
  | editor hfields ht hauthors hnames hlacks =>
    rw [hname hlacks, ht] at hf
    simp [EntryType.required] at hf

theorem cite_fails_iff_of_worded (h : ∃ f ∈ e.worded, sameName f.toList name = true) :
    (∃ err, style.cite e = .error err) ↔ ∃ err, style.cite (e.without name) = .error err := by
  obtain ⟨f, hf, hname⟩ := h
  have hfind : ∀ g ∈ e.type.decisive, (e.without name).find g.toList = e.find g.toList := by
    intro g hg
    apply Entry.find_without_of_other
    rw [← sameName_congr hname]
    exact Entry.not_same_of_worded hf hg
  have hagree : ∀ err, Refusal style (e.without name) err ↔ Refusal style e err :=
    fun err => Refusal.congr_iff rfl rfl hfind
  simp only [cite_eq_error_iff, hagree]

/-- Neither with a blank author nor without is an entry cited that needs one. -/
theorem cite_isError_of_blank_author (h : e.Blank name) (hf : "author" ∈ e.type.required)
    (hname : sameName "author".toList name = true) :
    (∃ err, style.cite e = .error err) ∧ ∃ err, style.cite (e.without name) = .error err := by
  have hnone := Entry.persons_of_blank (h.of_same hname)
  constructor
  · exact cite_isError_of_no_author hf hnone
  · apply cite_isError_of_no_author (e := e.without name) hf
    rw [(Entry.blanked_without h).persons, hnone]

theorem cite_isOk_iff_without (h : e.Blank name)
    (hreq : ∀ f ∈ e.type.required, sameName f.toList name = true → f = "author")
    (hworded : ∀ f ∈ e.worded, sameName f.toList name = false) (c : CitedEntry) :
    style.cite e = .ok c ↔ style.cite (e.without name) = .ok c := by
  by_cases hauthor : "author" ∈ e.type.required ∧ sameName "author".toList name = true
  · have hfails : (∃ err, style.cite e = .error err) ∧
        ∃ err, style.cite (e.without name) = .error err :=
      cite_isError_of_blank_author h hauthor.1 hauthor.2
    obtain ⟨⟨err, herr⟩, err', herr'⟩ := hfails
    rw [herr, herr']
    simp
  · have hfree : ∀ f ∈ e.type.required, sameName f.toList name = false := by
      intro f hf
      rw [Bool.eq_false_iff]
      intro hname
      obtain rfl := hreq f hf hname
      exact hauthor ⟨hf, hname⟩
    rw [← toOption_eq_some_iff, ← toOption_eq_some_iff, cite_without_of_heedless h hfree hworded]

theorem cite_isError_iff_without (h : e.Blank name)
    (hreq : ∀ f ∈ e.type.required, sameName f.toList name = true → f = "author") :
    (∃ err, style.cite e = .error err) ↔ ∃ err, style.cite (e.without name) = .error err := by
  by_cases hworded : ∀ f ∈ e.worded, sameName f.toList name = false
  · exact isError_iff_of_isOk_iff (cite_isOk_iff_without h hreq hworded)
  · simp only [not_forall, Bool.not_eq_false] at hworded
    obtain ⟨f, hf, hname⟩ := hworded
    exact cite_fails_iff_of_worded ⟨f, hf, hname⟩

/-- Without a blank field that is set beside words, the citation is another one. -/
theorem cite_without_ne_of_worded (h : e.Blank name) {f : String} (hf : f ∈ e.worded)
    (hname : sameName f.toList name = true) {c : CitedEntry} (hc : style.cite e = .ok c) :
    style.cite (e.without name) ≠ .ok c := by
  intro hc'
  have hblank : (sameName · f.toList) = (sameName · name) :=
    funext fun other => sameName_congr hname other
  have hb : Entry.Blanked (sameName · f.toList) e (e.without name) := by
    rw [hblank]
    exact Entry.blanked_without h
  obtain ⟨ps, ts, hps, hts, hblocks⟩ := exists_texts_of_cite hc
  obtain ⟨ps', us, hps', hus, hblocks'⟩ := exists_texts_of_cite hc'
  have hsame : ps' = ps := Option.some.inj (hps'.symm.trans hps)
  subst hsame
  exact present_ne_of_worded hb hf hps hts hus (hblocks.symm.trans hblocks')

/-- A work without a type of its own, with a year and a blank field. -/
def undescribed (year : Value) (name : String) : Entry where
  type := .misc
  key := "k".toList
  fields := [⟨"year".toList, year⟩, ⟨name.toList, .literal []⟩]

/-- Without a blank field that is not required, an entry is cited if it is cited with it. The
citation is the same if the template does not set the field beside words, and only then. A required
field counts as present even if it is blank, but for the author, whose names count. -/
theorem cite_without_blank (style : Style) (e : Entry) (name : List Char) (h : e.Blank name) :
    ((∀ f ∈ e.type.required, sameName f.toList name = true → f = "author") →
      ((∃ err, style.cite e = .error err) ↔
        ∃ err, style.cite (e.without name) = .error err) ∧
      ((∀ f ∈ e.worded, sameName f.toList name = false) →
        ∀ c, style.cite e = .ok c ↔ style.cite (e.without name) = .ok c)) ∧
    (∀ f ∈ e.worded, sameName f.toList name = true →
      ∀ c, style.cite e = .ok c → style.cite (e.without name) ≠ .ok c) ∧
    ∀ f ∈ e.type.required, sameName f.toList name = true → f ≠ "author" →
      (∃ err, style.cite (e.without name) = .error err) ∧
        ∀ err, e.Lacks f.toList err → style.cite e ≠ .error err := by
  refine ⟨?_, fun f hf hname c => cite_without_ne_of_worded h hf hname, ?_⟩
  · intro hreq
    exact ⟨cite_isError_iff_without h hreq, cite_isOk_iff_without h hreq⟩
  · intro f hf hname hauthor
    constructor
    · apply cite_isError_of_lacking (e := e.without name) hf
      rw [Entry.text, Entry.find_without_of_same hname]
      rfl
    · intro err herr hcite
      obtain ⟨s, hs, -⟩ := h.of_same hname
      have htext : (e.text f.toList).isSome = true := by rw [hs]; rfl
      rw [Entry.lacks_iff, Entry.lack_of_text htext] at herr
      exact cite_ne_missing_of_text hf htext hauthor (herr ▸ hcite)

/-- A blank note makes no difference, a blank identifier makes one, and a blank year is no missing
year. -/
theorem cite_without_blank_undescribed :
    ((undescribed (.number 2000) "note").Blank "note".toList ∧
      ∀ c, ({} : Style).cite (undescribed (.number 2000) "note") = .ok c ↔
        ({} : Style).cite ((undescribed (.number 2000) "note").without "note".toList) = .ok c) ∧
    ((undescribed (.number 2000) "doi").Blank "doi".toList ∧
      ∀ c, ({} : Style).cite (undescribed (.number 2000) "doi") = .ok c →
        ({} : Style).cite ((undescribed (.number 2000) "doi").without "doi".toList) ≠ .ok c) ∧
    (undescribed (.literal []) "note").Blank "year".toList ∧
      (∃ err, ({} : Style).cite ((undescribed (.literal []) "note").without "year".toList) =
        .error err) ∧
      ∀ err, (undescribed (.literal []) "note").Lacks "year".toList err →
        ({} : Style).cite (undescribed (.literal []) "note") ≠ .error err := by
  have hnote : (undescribed (.number 2000) "note").Blank "note".toList :=
    ⟨[], by decide, by simp⟩
  have hdoi : (undescribed (.number 2000) "doi").Blank "doi".toList := ⟨[], by decide, by simp⟩
  have hyear : (undescribed (.literal []) "note").Blank "year".toList := ⟨[], by decide, by simp⟩
  have hsame := (cite_without_blank {} _ _ hnote).1
  have hother := (cite_without_blank {} _ _ hdoi).2.1
  have hthere := (cite_without_blank {} _ _ hyear).2.2
  refine ⟨⟨hnote, (hsame ?_).2 ?_⟩, ⟨hdoi, hother "doi" ?_ ?_⟩, hyear, hthere "year" ?_ ?_ ?_⟩ <;>
    decide

/-- An article of the fifth volume with blank pages. -/
def unpaged : Entry where
  type := .article
  key := "k".toList
  fields := [⟨"author".toList, .literal "A".toList⟩, ⟨"title".toList, .literal "T".toList⟩,
    ⟨"journal".toList, .literal "J".toList⟩, ⟨"year".toList, .number 2000⟩,
    ⟨"volume".toList, .number 5⟩, ⟨"pages".toList, .literal []⟩]

theorem cite_unpaged : ({} : Style).cite unpaged = .ok
    { key := "k".toList, type := "article".toList, label := []
      blocks := [.run "A.".toList .nil, .run "(2000). ".toList .nil, .run "T.".toList .nil,
        .wrap .emph (.run "J".toList .nil) (.run ", 5:.".toList .nil)] } := by decide +kernel

theorem cite_unpaged_without : ({} : Style).cite (unpaged.without "pages".toList) = .ok
    { key := "k".toList, type := "article".toList, label := []
      blocks := [.run "A.".toList .nil, .run "(2000). ".toList .nil, .run "T.".toList .nil,
        .wrap .emph (.run "J".toList .nil) (.run ".".toList .nil)] } := by decide +kernel

/-- Blank fields are not always as good as absent: the colon in front of blank pages stays, and a
blank year is not reported. -/
theorem not_cite_without_blank :
    (¬ ∀ (style : Style) (e : Entry) (name : List Char), e.type.isOther = false →
      (e.fields.countP fun f => sameName f.name name) = 1 → e.Blank name →
      ∀ c, style.cite e = .ok c ↔ style.cite (e.without name) = .ok c) ∧
    ¬ ∀ (style : Style) (e : Entry) (name : List Char), e.type.isOther = false →
      (e.fields.countP fun f => sameName f.name name) = 1 → e.Blank name →
      ((∃ err, style.cite e = .error err) ↔
        ∃ err, style.cite (e.without name) = .error err) := by
  constructor
  · intro h
    have hiff := h {} unpaged "pages".toList rfl rfl ⟨[], by decide, by simp⟩
    have hsame := (hiff _).1 cite_unpaged
    rw [cite_unpaged_without] at hsame
    simp at hsame
  · intro h
    have hiff := h {} (undescribed (.literal []) "note") "year".toList rfl rfl
      ⟨[], by decide, by simp⟩
    have hcite : ({} : Style).cite (undescribed (.literal []) "note") = .ok
        { key := "k".toList, type := "misc".toList, label := []
          blocks := [.run "(). ".toList .nil] } := by cbv
    have hwithout : ({} : Style).cite ((undescribed (.literal []) "note").without "year".toList) =
        .error (.missingField "k".toList "misc".toList "year".toList) := by cbv
    obtain ⟨err, herr⟩ := hiff.2 ⟨_, hwithout⟩
    rw [hcite] at herr
    simp at herr

end Style
end Citation
