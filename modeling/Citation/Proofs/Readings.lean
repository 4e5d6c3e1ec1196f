import Citation.Proofs.Heedless
import Citation.Style

/-! What a citation is made from. A template reads the fields of an entry as trimmed texts and as
name lists, so that two entries of which these are the same are cited alike, or refused alike. -/
namespace Citation

/-- The fields that are read as name lists. -/
def nameRoles : List String := ["author", "editor"]

/-- Two entries of one type and key that have the same trimmed text or the same lack of one for
every field, and the same persons or the same lack of them in every name list. -/
structure Entry.ReadAlike (e e' : Entry) : Prop where
  type : e'.type = e.type
  key : e'.key = e.key
  need : ∀ name, e'.need name = e.need name
  needPersons : ∀ role ∈ nameRoles, e'.needPersons role.toList = e.needPersons role.toList

namespace Part

variable {person : Person → Text} {e e' : Entry}

mutual

/-- The part reads nothing else as a name list. -/
def readsNames : Part → Bool
  | .names role => role ∈ nameRoles
  | .byCount role _ _ => role ∈ nameRoles
  | .modified _ p => p.readsNames
  | .joined _ ps => allReadNames ps
  | .optional p => p.readsNames
  | .firstPresent ps => allReadNames ps
  | _ => true

def allReadNames : List Part → Bool
  | [] => true
  | p :: ps => p.readsNames && allReadNames ps

end

theorem readsNames_template {type : EntryType} {ps : List Part}
    (h : Template.ofType type = some ps) : allReadNames ps = true := by
  cases type <;> cases h <;> decide

mutual

theorem text_of_readAlike (h : Entry.ReadAlike e e') :
    ∀ p : Part, p.readsNames = true → p.text person e' = p.text person e
  | .words _, _ => rfl
  | .field _, _ => by simp only [text, h.need]
  | .range _, _ => by simp only [text, h.need]
  | .names _, hp => by simp only [text, h.needPersons _ (of_decide_eq_true hp)]
  | .byCount .., hp => by simp only [text, h.needPersons _ (of_decide_eq_true hp)]
  | .link .., _ => by simp only [text, h.need]
  | .modified _ p, hp => by simp only [text, text_of_readAlike h p hp]
  | .joined _ ps, hps => by simp only [text, texts_of_readAlike h ps hps]
  | .optional p, hp => by simp only [text, text_of_readAlike h p hp]
  | .firstPresent ps, hps => firstText_of_readAlike h ps hps

theorem texts_of_readAlike (h : Entry.ReadAlike e e') :
    ∀ ps : List Part, allReadNames ps = true → texts person e' ps = texts person e ps
  | [], _ => rfl
  | p :: ps, hps => by
    obtain ⟨hp, hps⟩ := Bool.and_eq_true_iff.1 hps
    simp only [texts, text_of_readAlike h p hp, texts_of_readAlike h ps hps]

theorem firstText_of_readAlike (h : Entry.ReadAlike e e') :
    ∀ ps : List Part, allReadNames ps = true → firstText person e' ps = firstText person e ps
  | [], _ => rfl
  | p :: ps, hps => by
    obtain ⟨hp, hps⟩ := Bool.and_eq_true_iff.1 hps
    simp only [firstText, text_of_readAlike h p hp, firstText_of_readAlike h ps hps]

end

end Part

namespace Entry

variable {e e' : Entry}

theorem ReadAlike.text_eq_none_iff (h : ReadAlike e e') (name : List Char) :
    e'.text name = none ↔ e.text name = none := by
  have hneed : (e'.text name).map trim = (e.text name).map trim := by
    rw [← Part.toOption_need, ← Part.toOption_need, h.need]
  rw [← Option.map_eq_none_iff, hneed, Option.map_eq_none_iff]

theorem ReadAlike.lacking (h : ReadAlike e e') : e'.lacking = e.lacking := by
  rw [Entry.lacking, Entry.lacking, h.type]
  apply List.filter_congr
  intro f _
  rw [Bool.eq_iff_iff, Option.isNone_iff_eq_none, Option.isNone_iff_eq_none, h.text_eq_none_iff]

/-- What is said about a field without a text is the same. -/
theorem ReadAlike.lack (h : ReadAlike e e') {name : List Char} (hnone : e.text name = none) :
    e'.lack name = e.lack name := by
  have hneed := h.need name
  rw [Part.need_eq_error hnone, Part.need_eq_error ((h.text_eq_none_iff name).2 hnone)] at hneed
  exact Except.error.inj hneed

/-- The persons that an entry is ordered by are the same. -/
theorem ReadAlike.authorKey (h : ReadAlike e e') : e'.authorKey = e.authorKey := by
  have hpersons : ∀ role ∈ nameRoles, e'.persons role.toList = e.persons role.toList := by
    intro role hrole
    rw [← Part.toOption_needPersons, ← Part.toOption_needPersons, h.needPersons role hrole]
  have hauthor := hpersons "author" (by simp [nameRoles])
  have heditor := hpersons "editor" (by simp [nameRoles])
  simp only [Entry.authorKey, principals, h.type, hauthor, heditor]

end Entry

namespace Style

/-- Entries that read alike have the same citation or the same error. -/
theorem cite_of_readAlike (style : Style) {e e' : Entry} (h : Entry.ReadAlike e e') :
    style.cite e' = style.cite e := by
  cases hps : Template.ofType e.type with
  | none => simp only [cite, h.type, h.key, hps]
  | some ps =>
    cases hlacking : e.lacking with
    | cons f fs =>
      have hf : f ∈ e.lacking := by simp [hlacking]
      have hnone : e.text f.toList = none := Option.isNone_iff_eq_none.1 (List.mem_filter.1 hf).2
      simp only [cite, h.type, hps, h.lacking, hlacking, h.lack hnone]
    | nil =>
      simp only [cite, h.type, h.key, hps, h.lacking, hlacking, blocks,
        Part.texts_of_readAlike h ps (Part.readsNames_template hps)]

end Style
end Citation
