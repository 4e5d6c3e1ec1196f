import Citation.Proofs.Parts
import Citation.Proofs.Texts

/-! Blank fields in templates: when it makes no difference to the text of a part whether a field is
blank or not there at all. Literal words beside the field are what can tell the two apart. -/
namespace Citation

/-- `e'` is `e` without the fields of some names, which are all blank in `e`. -/
structure Entry.Blanked (blank : List Char → Bool) (e e' : Entry) : Prop where
  need_blank : ∀ name, blank name = true → e.need name = .ok []
  gone : ∀ name, blank name = true → e'.text name = none
  kept : ∀ name, blank name = false → e'.text name = e.text name
  persons : ∀ role, e'.persons role = e.persons role

namespace Part

variable {person : Person → Text} {e e' : Entry} {blank : List Char → Bool}

mutual

/-- Nothing is left of the part when the given fields are blank. -/
@[simp] def vanishes (blank : List Char → Bool) : Part → Bool
  | .field name => blank name.toList
  | .modified _ p => p.vanishes blank
  | .joined _ ps => allVanish blank ps
  | _ => false

@[simp] def allVanish (blank : List Char → Bool) : List Part → Bool
  | [] => true
  | p :: ps => p.vanishes blank && allVanish blank ps

end

mutual

/-- The part has something to show for the entry. -/
@[simp] def shows (e : Entry) : Part → Bool
  | .words s => s.toList != []
  | .link name before _ => (e.text name.toList).isSome && before.toList != []
  | .modified .period p => p.shows e
  | .joined _ ps => allSupplied e ps && anyShows e ps
  | .optional p => p.shows e
  | _ => false

@[simp] def anyShows (e : Entry) : List Part → Bool
  | [] => false
  | p :: ps => p.shows e || anyShows e ps

end

mutual

/-- The part does not tell blank fields from absent ones: it does not read them, or it drops what
reads them, or what reads them lacks another field, or stands behind what is shown first. -/
@[simp] def heedless (blank : List Char → Bool) (e : Entry) : Part → Bool
  | .words _ => true
  | .field name => !blank name.toList
  | .range name => !blank name.toList
  | .names _ => true
  | .byCount .. => true
  | .link name _ _ => !blank name.toList
  | .modified _ p => p.heedless blank e
  | .joined _ ps => allHeedless blank e ps
  | .optional p => p.heedless blank e || p.vanishes blank || p.lacking e
  | .firstPresent ps => heedlessFirst blank e ps

@[simp] def allHeedless (blank : List Char → Bool) (e : Entry) : List Part → Bool
  | [] => true
  | p :: ps => p.heedless blank e && allHeedless blank e ps

@[simp] def heedlessFirst (blank : List Char → Bool) (e : Entry) : List Part → Bool
  | [] => true
  | p :: ps => p.heedless blank e && (p.shows e || heedlessFirst blank e ps)

end

theorem allHeedless_append (ps qs : List Part) :
    allHeedless blank e (ps ++ qs) = (allHeedless blank e ps && allHeedless blank e qs) := by
  induction ps with
  | nil => rfl
  | cons p ps ih => simp [ih, Bool.and_assoc]

theorem toOption_need (e : Entry) (name : List Char) :
    (e.need name).toOption = (e.text name).map trim := by
  cases h : e.text name with
  | some s => simp [Entry.need, h, Except.toOption]
  | none => simp [Entry.need, h, Except.toOption]

theorem toOption_needPersons (e : Entry) (role : List Char) :
    (e.needPersons role).toOption = e.persons role := by
  cases h : e.persons role with
  | some ps => simp [Entry.needPersons, h, Except.toOption]
  | none => simp [Entry.needPersons, h, Except.toOption]

theorem text_optional (p : Part) :
    (Part.optional p).text person e = .ok ((p.text person e).toOption.getD .nil) := by
  cases h : p.text person e with
  | ok t => simp [text, h, orNothing, Except.toOption]
  | error err => simp [text, h, orNothing, Except.toOption, isLack_of_text p err h]

theorem toOption_texts_cons (p : Part) (ps : List Part) :
    (texts person e (p :: ps)).toOption =
      (p.text person e).toOption.bind fun t => (texts person e ps).toOption.map (t :: ·) := by
  cases h : p.text person e with
  | ok t => rw [texts, h, toOption_map]; rfl
  | error err => simp [texts, h, Except.toOption]

theorem toOption_firstText_cons (p : Part) (ps : List Part) :
    (firstText person e (p :: ps)).toOption = (p.text person e).toOption.bind fun t =>
      if t.isEmpty then (firstText person e ps).toOption else some t := by
  cases h : p.text person e with
  | ok t => by_cases ht : t.isEmpty <;> simp [firstText, h, ht, Except.toOption]
  | error err => simp [firstText, h, Except.toOption]

/-! What vanishes is empty, whether the blank fields are there or not. -/

mutual

theorem eq_nil_of_vanishes
    (hneed : ∀ name s, blank name = true → e.need name = .ok s → s = []) :
    ∀ (p : Part) (t : Text), p.vanishes blank = true → p.text person e = .ok t → t = .nil
  | .field _, t, h, ht => by
    obtain ⟨s, hs, rfl⟩ := map_eq_ok_iff.1 ht
    rw [hneed _ s h hs, Text.ofLatex_nil]
  | .modified m p, t, h, ht => by
    obtain ⟨u, hu, rfl⟩ := map_eq_ok_iff.1 ht
    rw [eq_nil_of_vanishes hneed p u h hu, Modifier.apply_nil]
  | .joined _ ps, t, h, ht => by
    obtain ⟨ts, hts, rfl⟩ := map_eq_ok_iff.1 ht
    exact Separators.join_nil (eq_nil_of_allVanish hneed ps ts h hts)

theorem eq_nil_of_allVanish
    (hneed : ∀ name s, blank name = true → e.need name = .ok s → s = []) :
    ∀ (ps : List Part) (ts : List Text), allVanish blank ps = true →
      texts person e ps = .ok ts → ∀ t ∈ ts, t = .nil
  | [], ts, _, hts => by
    cases hts
    simp
  | p :: ps, ts, h, hts => by
    obtain ⟨hp, hps⟩ := Bool.and_eq_true_iff.1 h
    cases ht : p.text person e with
    | error err => simp [texts, ht] at hts
    | ok t =>
      simp only [texts, ht] at hts
      obtain ⟨us, hus, rfl⟩ := map_eq_ok_iff.1 hts
      simpa using ⟨eq_nil_of_vanishes hneed p t hp ht, eq_nil_of_allVanish hneed ps us hps hus⟩

end

/-! What shows has visible characters. -/

mutual

theorem plain_ne_nil_of_shows : ∀ p : Part, p.shows e = true →
    ∃ t, p.text person e = .ok t ∧ t.plain ≠ []
  | .words s, h => ⟨.ofChars s.toList, rfl, by simpa using h⟩
  | .link name before target, h => by
    obtain ⟨hname, hbefore⟩ := Bool.and_eq_true_iff.1 h
    obtain ⟨s, hs⟩ := need_eq_ok hname
    refine ⟨_, map_eq_ok_iff.2 ⟨s, hs, rfl⟩, ?_⟩
    simp only [Text.plain_within, Text.plain_ofChars]
    exact List.append_ne_nil_of_left_ne_nil (by simpa using hbefore) s
  | .modified .period p, h => by
    obtain ⟨t, ht, hplain⟩ := plain_ne_nil_of_shows p h
    exact ⟨t.withPeriod, map_eq_ok_iff.2 ⟨t, ht, rfl⟩, Text.plain_withPeriod_ne_nil hplain⟩
  | .joined s ps, h => by
    obtain ⟨hsupplied, hshows⟩ := Bool.and_eq_true_iff.1 h
    have hok : ∃ ts, texts person e ps = .ok ts := texts_isOk ps hsupplied
    obtain ⟨ts, hts⟩ := hok
    obtain ⟨t, ht, hplain⟩ := exists_plain_of_anyShows ps ts hshows hts
    exact ⟨s.join ts, map_eq_ok_iff.2 ⟨ts, hts, rfl⟩, Separators.plain_join_ne_nil ht hplain⟩
  | .optional p, h => by
    obtain ⟨t, ht, hplain⟩ := plain_ne_nil_of_shows p h
    exact ⟨t, by simp [text, ht, orNothing], hplain⟩

theorem exists_plain_of_anyShows : ∀ (ps : List Part) (ts : List Text), anyShows e ps = true →
    texts person e ps = .ok ts → ∃ t ∈ ts, t.plain ≠ []
  | [], _, h, _ => by simp at h
  | p :: ps, ts, h, hts => by
    cases ht : p.text person e with
    | error err => simp [texts, ht] at hts
    | ok t =>
      simp only [texts, ht] at hts
      obtain ⟨us, hus, rfl⟩ := map_eq_ok_iff.1 hts
      rcases Bool.or_eq_true_iff.1 h with h | h
      · have hp : ∃ u, p.text person e = .ok u ∧ u.plain ≠ [] := plain_ne_nil_of_shows p h
        obtain ⟨u, hu, hplain⟩ := hp
        rw [ht, Except.ok.injEq] at hu
        exact ⟨t, by simp, hu ▸ hplain⟩
      · obtain ⟨u, hu, hplain⟩ := exists_plain_of_anyShows ps us h hus
        exact ⟨u, by simp [hu], hplain⟩

end

/-! What is lacking without the blank fields, and what is the same without them. -/

theorem text_eq_none (hb : Entry.Blanked blank e e') {name : List Char}
    (h : e.text name = none) : e'.text name = none := by
  cases hname : blank name with
  | true => exact hb.gone name hname
  | false => rw [hb.kept name hname, h]

mutual

theorem lacking_of_blanked (hb : Entry.Blanked blank e e') :
    ∀ p : Part, p.lacking e = true → p.lacking e' = true
  | .words _, h => h
  | .field _, h => by simpa using text_eq_none hb (by simpa using h)
  | .range _, h => by simpa using text_eq_none hb (by simpa using h)
  | .names _, h => by simpa [hb.persons] using h
  | .byCount .., h => by simpa [hb.persons] using h
  | .link .., h => by simpa using text_eq_none hb (by simpa using h)
  | .modified _ p, h => lacking_of_blanked hb p h
  | .joined _ ps, h => anyLacking_of_blanked hb ps h
  | .optional _, h => h
  | .firstPresent _, h => h

theorem anyLacking_of_blanked (hb : Entry.Blanked blank e e') :
    ∀ ps : List Part, anyLacking e ps = true → anyLacking e' ps = true
  | [], h => h
  | p :: ps, h => by
    rcases Bool.or_eq_true_iff.1 h with h | h
    · simp [lacking_of_blanked hb p h]
    · simp [anyLacking_of_blanked hb ps h]

end

theorem toOption_need_of_blanked (hb : Entry.Blanked blank e e') {name : List Char}
    (h : (!blank name) = true) : (e'.need name).toOption = (e.need name).toOption := by
  rw [toOption_need, toOption_need, hb.kept name (by simpa using h)]

theorem toOption_needPersons_of_blanked (hb : Entry.Blanked blank e e') (role : List Char) :
    (e'.needPersons role).toOption = (e.needPersons role).toOption := by
  rw [toOption_needPersons, toOption_needPersons, hb.persons]

theorem need_of_vanished (hb : Entry.Blanked blank e e') {name s : List Char}
    (h : blank name = true) (hs : e'.need name = .ok s) : s = [] := by
  simp [Entry.need, hb.gone name h] at hs

theorem getD_of_vanishes (hb : Entry.Blanked blank e e') {p : Part} (h : p.vanishes blank = true) :
    (p.text person e').toOption.getD .nil = (p.text person e).toOption.getD .nil := by
  have hnil : ∀ t, p.text person e = .ok t → t = .nil := fun t =>
    eq_nil_of_vanishes (fun name s hname hs => by
      rw [hb.need_blank name hname] at hs
      exact (Except.ok.inj hs).symm) p t h
  have hnil' : ∀ t, p.text person e' = .ok t → t = .nil := fun t =>
    eq_nil_of_vanishes (fun name s => need_of_vanished hb) p t h
  cases ht : p.text person e with
  | error err =>
    cases ht' : p.text person e' with
    | error err' => rfl
    | ok t' => simp [Except.toOption, hnil' t' ht']
  | ok t =>
    cases ht' : p.text person e' with
    | error err' => simp [Except.toOption, hnil t ht]
    | ok t' => simp [Except.toOption, hnil t ht, hnil' t' ht']

theorem toOption_of_lacking (hb : Entry.Blanked blank e e') {p : Part} (h : p.lacking e = true) :
    (p.text person e').toOption = (p.text person e).toOption := by
  have hwith : ∃ err, p.text person e = .error err := text_isError p h
  have hwithout : ∃ err, p.text person e' = .error err :=
    text_isError p (lacking_of_blanked hb p h)
  obtain ⟨err, herr⟩ := hwith
  obtain ⟨err', herr'⟩ := hwithout
  rw [herr, herr']
  rfl

mutual

/-- A part that is heedless of blank fields has the same text without them. -/
theorem toOption_text (hb : Entry.Blanked blank e e') :
    ∀ p : Part, p.heedless blank e = true →
    (p.text person e').toOption = (p.text person e).toOption
  | .words _, _ => rfl
  | .field _, h => by simp only [text, toOption_map, toOption_need_of_blanked hb h]
  | .range _, h => by simp only [text, toOption_map, toOption_need_of_blanked hb h]
  | .names _, _ => by simp only [text, toOption_map, toOption_needPersons_of_blanked hb]
  | .byCount .., _ => by simp only [text, toOption_map, toOption_needPersons_of_blanked hb]
  | .link .., h => by simp only [text, toOption_map, toOption_need_of_blanked hb h]
  | .modified _ p, h => by simp only [text, toOption_map, toOption_text hb p h]
  | .joined _ ps, h => by simp only [text, toOption_map, toOption_texts hb ps h]
  | .optional p, h => by
    have hgetD : (p.text person e').toOption.getD .nil = (p.text person e).toOption.getD .nil := by
      rcases Bool.or_eq_true_iff.1 h with h | h
      · rcases Bool.or_eq_true_iff.1 h with h | h
        · rw [toOption_text hb p h]
        · exact getD_of_vanishes hb h
      · rw [toOption_of_lacking hb h]
    rw [text_optional, text_optional, hgetD]
  | .firstPresent ps, h => toOption_firstText hb ps h

theorem toOption_texts (hb : Entry.Blanked blank e e') :
    ∀ ps : List Part, allHeedless blank e ps = true →
    (texts person e' ps).toOption = (texts person e ps).toOption
  | [], _ => rfl
  | p :: ps, h => by
    obtain ⟨hp, hps⟩ := Bool.and_eq_true_iff.1 h
    rw [toOption_texts_cons, toOption_texts_cons, toOption_text hb p hp, toOption_texts hb ps hps]

theorem toOption_firstText (hb : Entry.Blanked blank e e') :
    ∀ ps : List Part, heedlessFirst blank e ps = true →
    (firstText person e' ps).toOption = (firstText person e ps).toOption
  | [], _ => rfl
  | p :: ps, h => by
    obtain ⟨hp, hps⟩ := Bool.and_eq_true_iff.1 h
    rw [toOption_firstText_cons, toOption_firstText_cons, toOption_text hb p hp]
    rcases Bool.or_eq_true_iff.1 hps with hshows | hps
    · have hp : ∃ t, p.text person e = .ok t ∧ t.plain ≠ [] := plain_ne_nil_of_shows p hshows
      obtain ⟨t, ht, hplain⟩ := hp
      simp [ht, Except.toOption, Text.isEmpty_of_plain_ne_nil hplain]
    · rw [toOption_firstText hb ps hps]

end

end Part
end Citation
