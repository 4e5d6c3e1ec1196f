import Citation.Proofs.Readings
import Citation.Proofs.UndefinedMacros
import Mathlib.Data.Option.Basic
import Mathlib.Logic.Relation

/-! The spelling of an entry. Fields are looked up by name, in any ASCII case and the first of
several, and of a value nothing is read but its text and its first open reference, so that fields
can be written down in other ways without a trace in citation or order. -/
namespace Citation

/-- A change in how fields are written down. -/
inductive Respelled : List Field → List Field → Prop
  /-- A name in another case. -/
  | recased {before after : List Field} {f : Field} {name : List Char}
      (hname : sameName name f.name = true) :
      Respelled (before ++ f :: after) (before ++ { f with name } :: after)
  /-- Neighbours of different names in another order. -/
  | reordered {before fs fs' after : List Field} (hperm : fs'.Perm fs)
      (hnames : fs.Pairwise fun f g => sameName f.name g.name = false) :
      Respelled (before ++ (fs ++ after)) (before ++ (fs' ++ after))
  /-- Further fields of names that are there already. -/
  | repeated {fs gs : List Field}
      (hnames : ∀ g ∈ gs, ∃ f ∈ fs, sameName f.name g.name = true) : Respelled fs (fs ++ gs)
  /-- Another value with the same text and the same first open reference. -/
  | revalued {before after : List Field} {f : Field} {v : Value}
      (htext : v.text = f.value.text) (hopen : v.openReference = f.value.openReference) :
      Respelled (before ++ f :: after) (before ++ { f with value := v } :: after)

/-- The text and the first open reference of the field that is found under a name. -/
def foundIn (fs : List Field) (name : List Char) : Option (Option (List Char) × Option (List Char)) :=
  (fs.find? fun f => sameName f.name name).map fun f => (f.value.text, f.value.openReference)

theorem foundIn_append (fs gs : List Field) (name : List Char) :
    foundIn (fs ++ gs) name = (foundIn fs name).or (foundIn gs name) := by
  rw [foundIn, List.find?_append, Option.map_or]
  rfl

theorem foundIn_cons (f : Field) (fs : List Field) (name : List Char) :
    foundIn (f :: fs) name =
      if sameName f.name name then some (f.value.text, f.value.openReference)
      else foundIn fs name := by
  cases h : sameName f.name name <;> simp [foundIn, h]

theorem foundIn_eq_none_iff {fs : List Field} {name : List Char} :
    foundIn fs name = none ↔ ∀ f ∈ fs, sameName f.name name = false := by
  simp [foundIn]

/-- Among fields of different names, one is found under a name if it is there. -/
theorem find?_eq_some_iff_of_distinct {fs : List Field} {name : List Char} {f : Field}
    (hnames : fs.Pairwise fun f g => sameName f.name g.name = false) :
    fs.find? (fun f => sameName f.name name) = some f ↔ f ∈ fs ∧ sameName f.name name = true := by
  induction fs with
  | nil => simp
  | cons g fs ih =>
    obtain ⟨hg, hfs⟩ := List.pairwise_cons.1 hnames
    rw [List.find?_cons]
    cases hgname : sameName g.name name with
    | false =>
      simp only [ih hfs, List.mem_cons]
      constructor
      · exact fun h => ⟨.inr h.1, h.2⟩
      · rintro ⟨rfl | hf, hfname⟩
        · rw [hgname] at hfname
          cases hfname
        · exact ⟨hf, hfname⟩
    | true =>
      simp only [Option.some.injEq, List.mem_cons]
      constructor
      · rintro rfl
        exact ⟨.inl rfl, hgname⟩
      · rintro ⟨rfl | hf, hfname⟩
        · rfl
        · have hsame := sameName_trans hgname (sameName_symm hfname)
          rw [hg f hf] at hsame
          cases hsame

theorem foundIn_perm {fs fs' : List Field} (hperm : fs'.Perm fs)
    (hnames : fs.Pairwise fun f g => sameName f.name g.name = false) (name : List Char) :
    foundIn fs' name = foundIn fs name := by
  have hnames' : fs'.Pairwise fun f g => sameName f.name g.name = false := by
    refine (hperm.pairwise_iff ?_).2 hnames
    intro f g h
    rw [Bool.eq_false_iff] at h ⊢
    exact fun hgf => h (sameName_symm hgf)
  unfold foundIn
  congr 1
  ext f
  rw [find?_eq_some_iff_of_distinct hnames, find?_eq_some_iff_of_distinct hnames', hperm.mem_iff]

/-- A change of spelling leaves what is found under each name. -/
theorem Respelled.foundIn_eq {fs fs' : List Field} (h : Respelled fs fs') (name : List Char) :
    foundIn fs' name = foundIn fs name := by
  cases h with
  | @recased before after f name' hname =>
    have hsame : sameName name' name = sameName f.name name := by
      rw [sameName_iff] at hname
      simp only [sameName, hname]
    simp only [foundIn_append, foundIn_cons, hsame]
  | reordered hperm hnames => simp only [foundIn_append, foundIn_perm hperm hnames]
  | @repeated _ gs hnames =>
    cases hfound : foundIn fs name with
    | some found => simp [foundIn_append, hfound]
    | none =>
      have hgs : foundIn gs name = none := by
        rw [foundIn_eq_none_iff] at hfound ⊢
        intro g hg
        obtain ⟨f, hf, hsame⟩ := hnames g hg
        rw [Bool.eq_false_iff]
        intro hgname
        have hfname := sameName_trans hsame hgname
        rw [hfound f hf] at hfname
        cases hfname
      simp [foundIn_append, hfound, hgs]
  | revalued htext hopen => simp only [foundIn_append, foundIn_cons, htext, hopen]

/-- However many changes are made, the same is found under each name. -/
theorem foundIn_of_respelled {fs fs' : List Field} (h : Relation.ReflTransGen Respelled fs fs')
    (name : List Char) : foundIn fs' name = foundIn fs name := by
  induction h with
  | refl => rfl
  | tail _ hstep ih => rw [hstep.foundIn_eq, ih]

namespace Entry

/-- The same entry with its fields written down in another way. -/
structure Variant (e e' : Entry) : Prop where
  type : e'.type = e.type
  key : e'.key = e.key
  fields : Relation.ReflTransGen Respelled e.fields e'.fields

variable {e e' : Entry}

theorem text_eq_foundIn (e : Entry) (name : List Char) :
    e.text name = (foundIn e.fields name).bind Prod.fst := by
  simp [text, find, foundIn, Option.bind_map]

theorem openReference_eq_foundIn (e : Entry) (name : List Char) :
    e.openReference name = (foundIn e.fields name).bind Prod.snd := by
  simp [openReference, find, foundIn, Option.bind_map]

theorem Variant.sameTexts (h : Variant e e') : SameTexts e e' where
  type := h.type
  key := h.key
  text name := by rw [text_eq_foundIn, foundIn_of_respelled h.fields, text_eq_foundIn]

theorem Variant.lack (h : Variant e e') (name : List Char) : e'.lack name = e.lack name := by
  have hopen : e'.openReference name = e.openReference name := by
    rw [openReference_eq_foundIn, foundIn_of_respelled h.fields, openReference_eq_foundIn]
  simp only [Entry.lack, hopen, h.type, h.key]

theorem Variant.readAlike (h : Variant e e') : ReadAlike e e' where
  type := h.type
  key := h.key
  need name := by simp only [Entry.need, h.sameTexts.text, h.lack]
  needPersons role _ := by simp only [Entry.needPersons, h.sameTexts.persons, h.lack]

end Entry

namespace Style

/-- The spelling of an entry has no part in its citation or error, in the fields that it lacks, and
in its place in the order. -/
theorem cite_of_variant (style : Style) {e e' : Entry} (h : e.Variant e') :
    style.cite e' = style.cite e ∧ e'.lacking = e.lacking ∧ e'.orderKey = e.orderKey :=
  ⟨style.cite_of_readAlike h.readAlike, h.sameTexts.lacking, h.sameTexts.orderKey⟩

/-- A dated work. -/
def spelled : Entry where
  type := .misc
  key := "k".toList
  fields := [⟨"author".toList, .literal ['A']⟩, ⟨"year".toList, .number 2000⟩]

/-- The same work with its year in front, in two parts and under a name in capitals, and with
another author behind. -/
def respelled : Entry where
  type := .misc
  key := "k".toList
  fields := [⟨"YEAR".toList, .concat [.literal "20".toList, .literal "00".toList]⟩,
    ⟨"author".toList, .literal ['A']⟩, ⟨"Author".toList, .literal ['B']⟩]

theorem cite_of_variant_respelled :
    (∃ c, ({} : Style).cite spelled = .ok c) ∧ spelled.Variant respelled ∧
      ({} : Style).cite respelled = ({} : Style).cite spelled ∧
      respelled.lacking = spelled.lacking ∧ respelled.orderKey = spelled.orderKey := by
  let author : Field := ⟨"author".toList, .literal ['A']⟩
  let year : Field := ⟨"YEAR".toList, .concat [.literal "20".toList, .literal "00".toList]⟩
  have hname : Respelled spelled.fields [author, ⟨"YEAR".toList, .number 2000⟩] :=
    @Respelled.recased [author] [] ⟨"year".toList, .number 2000⟩ "YEAR".toList (by decide)
  have hvalue : Respelled [author, ⟨"YEAR".toList, .number 2000⟩] [author, year] :=
    @Respelled.revalued [author] [] ⟨"YEAR".toList, .number 2000⟩ year.value (by decide) (by decide)
  have horder : Respelled [author, year] [year, author] :=
    @Respelled.reordered [] [author, year] [year, author] [] (.swap author year [])
      (by simp [author, year, sameName])
  have hrepeated : Respelled [year, author] respelled.fields :=
    @Respelled.repeated [year, author] [⟨"Author".toList, .literal ['B']⟩]
      (by simp [author, year, sameName])
  have hvariant : spelled.Variant respelled :=
    ⟨rfl, rfl, ((Relation.ReflTransGen.single hname).tail hvalue |>.tail horder).tail hrepeated⟩
  have hsome : ((({} : Style).cite spelled).toOption).isSome = true := by decide +kernel
  obtain ⟨c, hc⟩ := Option.isSome_iff_exists.1 hsome
  exact ⟨⟨c, toOption_eq_some_iff.1 hc⟩, hvariant, cite_of_variant {} hvariant⟩

end Style
end Citation
