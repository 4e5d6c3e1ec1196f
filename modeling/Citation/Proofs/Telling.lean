import Citation.Proofs.Apart
import Citation.Proofs.Heedless
import Citation.Template.Standard

/-! Parts of templates that tell a blank field from an absent one: their texts differ for good, and
so do the blocks that they are in. -/
namespace Citation.Part
open Text Template Separators

variable {person : Person → Text} {e e' : Entry} {blank : List Char → Bool} {p : Part}
  {ps before after : List Part} {ts us : List Text}

/-- The texts of a part for two entries, where it has them, differ for good. -/
def Tells (person : Person → Text) (e e' : Entry) (p : Part) : Prop :=
  ∀ t u, p.text person e = .ok t → p.text person e' = .ok u → t.Apart u

/-- The text of a part for the first entry has something in it and is not the one for the second. -/
def Changes (person : Person → Text) (e e' : Entry) (p : Part) : Prop :=
  ∀ t u, p.text person e = .ok t → p.text person e' = .ok u → t.plain ≠ [] ∧ t.plain ≠ u.plain

theorem Tells.changes (hp : Tells person e e' p) : Changes person e e' p := by
  intro t u ht hu
  exact ⟨(hp t u ht hu).plain_ne_nil, (hp t u ht hu).plain_ne⟩

theorem eq_of_heedless (hb : Entry.Blanked blank e e') (hp : p.heedless blank e = true)
    {t u : Text} (ht : p.text person e = .ok t) (hu : p.text person e' = .ok u) : t = u := by
  have hsame : (p.text person e').toOption = (p.text person e).toOption := toOption_text hb p hp
  rw [ht, hu] at hsame
  exact (Option.some.inj hsame).symm

theorem eq_of_allHeedless (hb : Entry.Blanked blank e e') (hps : allHeedless blank e ps = true)
    (hts : texts person e ps = .ok ts) (hus : texts person e' ps = .ok us) : ts = us := by
  have hsame : (texts person e' ps).toOption = (texts person e ps).toOption :=
    toOption_texts hb ps hps
  rw [hts, hus] at hsame
  exact (Option.some.inj hsame).symm

/-- Among parts that do not tell blank fields from absent ones, the texts differ at one place at
most. -/
theorem texts_of_heedless_around (hb : Entry.Blanked blank e e')
    (hbefore : allHeedless blank e before = true) (hafter : allHeedless blank e after = true)
    (hts : texts person e (before ++ p :: after) = .ok ts)
    (hus : texts person e' (before ++ p :: after) = .ok us) :
    ∃ vs t u ws, p.text person e = .ok t ∧ p.text person e' = .ok u ∧
      ts = vs ++ t :: ws ∧ us = vs ++ u :: ws := by
  induction before generalizing ts us with
  | nil =>
    obtain ⟨t, ws, ht, hws, rfl⟩ := texts_cons_eq_ok hts
    obtain ⟨u, ws', hu, hws', rfl⟩ := texts_cons_eq_ok hus
    obtain rfl := eq_of_allHeedless hb hafter hws hws'
    exact ⟨[], t, u, ws, ht, hu, rfl, rfl⟩
  | cons q before ih =>
    obtain ⟨hq, hbefore⟩ := Bool.and_eq_true_iff.1 hbefore
    obtain ⟨v, ts', hv, hts', rfl⟩ := texts_cons_eq_ok hts
    obtain ⟨v', us', hv', hus', rfl⟩ := texts_cons_eq_ok hus
    obtain rfl := eq_of_heedless hb hq hv hv'
    obtain ⟨vs, t, u, ws, ht, hu, rfl, rfl⟩ := ih hbefore hts' hus'
    exact ⟨v :: vs, t, u, ws, ht, hu, rfl, rfl⟩

/-- A part that tells does so among parts that do not. -/
theorem Tells.joined {sep : String} (before after : List Part) (hb : Entry.Blanked blank e e')
    (hsep : sep.toList ≠ []) (hbefore : allHeedless blank e before = true)
    (hp : Tells person e e' p) (hafter : allHeedless blank e after = true) :
    Tells person e e' (.joined (uniform sep) (before ++ p :: after)) := by
  intro t' u' ht' hu'
  obtain ⟨ts, hts, rfl⟩ := map_eq_ok_iff.1 ht'
  obtain ⟨us, hus, rfl⟩ := map_eq_ok_iff.1 hu'
  obtain ⟨vs, t, u, ws, ht, hu, rfl, rfl⟩ :=
    texts_of_heedless_around hb hbefore hafter hts hus
  exact Apart.join hsep (hp t u ht hu) vs ws

/-- Side by side, parts differ for good if one of them differs in length by two. -/
theorem Tells.adjacent (before after : List Part) (hb : Entry.Blanked blank e e')
    (hbefore : allHeedless blank e before = true)
    (hp : ∀ t u, p.text person e = .ok t → p.text person e' = .ok u →
      u.plain.length + 2 ≤ t.plain.length)
    (hafter : allHeedless blank e after = true) :
    Tells person e e' (adjacent (before ++ p :: after)) := by
  intro t' u' ht' hu'
  obtain ⟨ts, hts, rfl⟩ := map_eq_ok_iff.1 ht'
  obtain ⟨us, hus, rfl⟩ := map_eq_ok_iff.1 hu'
  obtain ⟨vs, t, u, ws, ht, hu, rfl, rfl⟩ :=
    texts_of_heedless_around hb hbefore hafter hts hus
  have hlength := hp t u ht hu
  have hplain : ∀ t, ((uniform "").join (vs ++ t :: ws)).plain =
      vs.flatMap plain ++ (t.plain ++ ws.flatMap plain) := by
    intro t
    rw [plain_join_adjacent, List.flatMap_append, List.flatMap_cons]
  apply Apart.longer
  change ((uniform "").join _).plain.length + 2 ≤ ((uniform "").join _).plain.length
  simp only [hplain, List.length_append]
  omega

/-- A sentence changes with a part that tells. -/
theorem Tells.changes_sentence (before after : List Part) (hb : Entry.Blanked blank e e')
    (hbefore : allHeedless blank e before = true) (hp : Tells person e e' p)
    (hafter : allHeedless blank e after = true) :
    Changes person e e' (sentence (before ++ p :: after)) := by
  intro t u ht hu
  obtain ⟨t', ht', rfl⟩ := map_eq_ok_iff.1 ht
  obtain ⟨u', hu', rfl⟩ := map_eq_ok_iff.1 hu
  have htells : Tells person e e' (.joined (uniform ", ") (before ++ p :: after)) :=
    hp.joined before after hb (by decide) hbefore hafter
  have hapart := htells t' u' ht' hu'
  exact ⟨plain_withPeriod_ne_nil hapart.plain_ne_nil, hapart.plain_withPeriod_ne⟩

/-- A part behind a word has a text if it has one alone. -/
theorem exists_text_of_labelled {word : String} {t : Text}
    (ht : (spaced [.words word, p]).text person e = .ok t) :
    ∃ t', p.text person e = .ok t' ∧ t = (uniform " ").join [ofChars word.toList, t'] := by
  obtain ⟨ts, hts, rfl⟩ := map_eq_ok_iff.1 ht
  obtain ⟨w, ts, hw, hts', rfl⟩ := texts_cons_eq_ok hts
  obtain ⟨t', ts, ht', hts'', rfl⟩ := texts_cons_eq_ok hts'
  obtain rfl := Except.ok.inj hw
  obtain rfl := Except.ok.inj hts''
  exact ⟨t', ht', rfl⟩

/-- Behind a word, a part changes as it does alone. -/
theorem Changes.labelled {word : String} (hword : word.toList ≠ []) (hp : Changes person e e' p) :
    Changes person e e' (spaced [.words word, p]) := by
  intro t u ht hu
  obtain ⟨t', ht', rfl⟩ := exists_text_of_labelled ht
  obtain ⟨u', hu', rfl⟩ := exists_text_of_labelled hu
  obtain ⟨hnil, hne⟩ := hp t' u' ht' hu'
  have hlabel : ofChars word.toList ≠ .nil := ne_nil_of_plain_ne_nil (by simpa using hword)
  rw [plain_uniform_join_pair hlabel, plain_uniform_join_pair hlabel,
    if_neg (ne_nil_of_plain_ne_nil hnil)]
  refine ⟨by simp [hword], ?_⟩
  intro heq
  have hrest := List.append_cancel_left heq
  split at hrest
  · simp at hrest
  · exact hne (List.append_cancel_left hrest)

/-- Among blocks that are the same, one that changes shows. -/
theorem Changes.present_ne (before after : List Part) (hb : Entry.Blanked blank e e')
    (hbefore : allHeedless blank e before = true)
    (hp : Changes person e e' p) (hafter : allHeedless blank e after = true)
    (hts : texts person e (before ++ p :: after) = .ok ts)
    (hus : texts person e' (before ++ p :: after) = .ok us) : present ts ≠ present us := by
  obtain ⟨vs, t, u, ws, ht, hu, rfl, rfl⟩ :=
    texts_of_heedless_around hb hbefore hafter hts hus
  intro hsame
  have hplain : (vs ++ t :: ws).flatMap plain = (vs ++ u :: ws).flatMap plain := by
    rw [← flatMap_plain_present, hsame, flatMap_plain_present]
  simp only [List.flatMap_append, List.flatMap_cons] at hplain
  exact (hp t u ht hu).2 (List.append_cancel_right (List.append_cancel_left hplain))

/-! Parts that are there for one of the entries, or for both. -/

theorem Tells.optional_of_lacking (h : p.shows e = true) (h' : p.lacking e' = true) :
    Tells person e e' (.optional p) := by
  intro t u ht hu
  have hshows : ∃ t, (Part.optional p).text person e = .ok t ∧ t.plain ≠ [] :=
    plain_ne_nil_of_shows (.optional p) h
  obtain ⟨t', ht', hplain⟩ := hshows
  rw [ht, Except.ok.injEq] at ht'
  subst ht'
  refine .nothing hplain ?_
  obtain ⟨err, herr⟩ : ∃ err, p.text person e' = .error err := text_isError p h'
  rw [text_optional, herr, Except.ok.injEq] at hu
  exact hu.symm

theorem text_optional_of_shows (h : p.shows e = true) :
    (Part.optional p).text person e = p.text person e := by
  obtain ⟨t, ht, -⟩ : ∃ t, p.text person e = .ok t ∧ t.plain ≠ [] := plain_ne_nil_of_shows p h
  rw [text_optional, ht]
  rfl

theorem text_optional_of_lacking (h : p.lacking e = true) :
    (Part.optional p).text person e = .ok .nil := by
  obtain ⟨err, herr⟩ : ∃ err, p.text person e = .error err := text_isError p h
  rw [text_optional, herr]
  rfl

theorem Tells.optional (hp : Tells person e e' p) (h : p.shows e = true)
    (h' : p.shows e' = true) : Tells person e e' (.optional p) := by
  intro t u ht hu
  rw [text_optional_of_shows h] at ht
  rw [text_optional_of_shows h'] at hu
  exact hp t u ht hu

theorem firstText_of_shows (h : p.shows e = true) :
    firstText person e (p :: ps) = p.text person e := by
  obtain ⟨t, ht, hplain⟩ : ∃ t, p.text person e = .ok t ∧ t.plain ≠ [] :=
    plain_ne_nil_of_shows p h
  simp [firstText, ht, isEmpty_of_plain_ne_nil hplain]

theorem firstText_of_lacking (h : p.lacking e = true) :
    firstText person e (.optional p :: ps) = firstText person e ps := by
  simp [firstText, text_optional_of_lacking h, isEmpty]

end Citation.Part
