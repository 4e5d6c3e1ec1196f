import Citation.Proofs.Results
import Citation.Template.Part

/-! What the text of a part depends on: the fields and name lists that it reads. Every failure of a
part is the lack of one of these, and an optional part never fails. -/
namespace Citation.Part

variable {person : Person → Text} {e e' : Entry}

mutual

/-- Every field and name list that the part cannot do without is there. -/
@[simp] def supplied (e : Entry) : Part → Bool
  | .words _ => true
  | .field name => (e.text name.toList).isSome
  | .range name => (e.text name.toList).isSome
  | .names role => (e.persons role.toList).isSome
  | .byCount role _ _ => (e.persons role.toList).isSome
  | .link name _ _ => (e.text name.toList).isSome
  | .modified _ p => p.supplied e
  | .joined _ ps => allSupplied e ps
  | .optional _ => true
  | .firstPresent ps => allSupplied e ps

@[simp] def allSupplied (e : Entry) : List Part → Bool
  | [] => true
  | p :: ps => p.supplied e && allSupplied e ps

end

mutual

/-- Some field or name list that the part cannot do without is not there. -/
@[simp] def lacking (e : Entry) : Part → Bool
  | .words _ => false
  | .field name => (e.text name.toList).isNone
  | .range name => (e.text name.toList).isNone
  | .names role => (e.persons role.toList).isNone
  | .byCount role _ _ => (e.persons role.toList).isNone
  | .link name _ _ => (e.text name.toList).isNone
  | .modified _ p => p.lacking e
  | .joined _ ps => anyLacking e ps
  | .optional _ => false
  | .firstPresent _ => false

@[simp] def anyLacking (e : Entry) : List Part → Bool
  | [] => false
  | p :: ps => p.lacking e || anyLacking e ps

end

theorem need_eq_ok {name : List Char} (h : (e.text name).isSome = true) :
    ∃ s, e.need name = .ok s := by
  obtain ⟨s, hs⟩ := Option.isSome_iff_exists.1 h
  exact ⟨trim s, by simp [Entry.need, hs]⟩

theorem isSome_of_need {name s : List Char} (h : e.need name = .ok s) :
    (e.text name).isSome = true := by
  cases htext : e.text name with
  | none => simp [Entry.need, htext] at h
  | some _ => rfl

theorem need_eq_error {name : List Char} (h : e.text name = none) :
    e.need name = .error (e.lack name) := by
  simp [Entry.need, h]

theorem needPersons_eq_ok {role : List Char} (h : (e.persons role).isSome = true) :
    ∃ ps, e.needPersons role = .ok ps := by
  obtain ⟨ps, hps⟩ := Option.isSome_iff_exists.1 h
  exact ⟨ps, by simp [Entry.needPersons, hps]⟩

theorem needPersons_eq_error {role : List Char} (h : e.persons role = none) :
    e.needPersons role = .error (e.lack role) := by
  simp [Entry.needPersons, h]

theorem isLack_lack (e : Entry) (name : List Char) : (e.lack name).isLack = true := by
  unfold Entry.lack
  split <;> rfl

theorem isLack_of_need {name : List Char} {err : Error} (h : e.need name = .error err) :
    err.isLack = true := by
  cases ht : e.text name with
  | some s => simp [Entry.need, ht] at h
  | none =>
    rw [need_eq_error ht] at h
    exact Except.error.inj h ▸ isLack_lack e name

theorem isLack_of_needPersons {role : List Char} {err : Error}
    (h : e.needPersons role = .error err) : err.isLack = true := by
  cases hp : e.persons role with
  | some ps => simp [Entry.needPersons, hp] at h
  | none =>
    rw [needPersons_eq_error hp] at h
    exact Except.error.inj h ▸ isLack_lack e role

theorem orNothing_isOk {x : Except Error Text} (h : ∀ err, x = .error err → err.isLack = true) :
    ∃ t, orNothing x = .ok t := by
  cases x with
  | ok t => exact ⟨t, rfl⟩
  | error err => exact ⟨.nil, by simp [orNothing, h err rfl]⟩

theorem texts_cons_eq_ok {p : Part} {ps : List Part} {ts : List Text}
    (h : texts person e (p :: ps) = .ok ts) :
    ∃ t us, p.text person e = .ok t ∧ texts person e ps = .ok us ∧ ts = t :: us := by
  cases ht : p.text person e with
  | error err => simp [texts, ht] at h
  | ok t =>
    simp only [texts, ht] at h
    obtain ⟨us, hus, rfl⟩ := map_eq_ok_iff.1 h
    exact ⟨t, us, rfl, hus, rfl⟩

/-- Where parts have texts, each of them has one. -/
theorem exists_text_of_texts {ps : List Part} {ts : List Text} (h : texts person e ps = .ok ts)
    {p : Part} (hp : p ∈ ps) : ∃ t ∈ ts, p.text person e = .ok t := by
  induction ps generalizing ts with
  | nil => cases hp
  | cons q qs ih =>
    obtain ⟨u, us, hu, hus, rfl⟩ := texts_cons_eq_ok h
    rcases List.mem_cons.1 hp with rfl | hp
    · exact ⟨u, by simp, hu⟩
    · obtain ⟨t, ht, htext⟩ := ih hus hp
      exact ⟨t, List.mem_cons_of_mem _ ht, htext⟩

/-- The texts of parts are those of each part. -/
theorem mem_texts_iff {ps : List Part} {ts : List Text} (h : texts person e ps = .ok ts)
    {t : Text} : t ∈ ts ↔ ∃ p ∈ ps, p.text person e = .ok t := by
  induction ps generalizing ts with
  | nil => simp [← Except.ok.inj h]
  | cons p ps ih =>
    obtain ⟨u, us, hu, hus, rfl⟩ := texts_cons_eq_ok h
    simp [hu, ih hus, eq_comm]

mutual

/-- A part fails with the lack of a field, and in no other way. -/
theorem isLack_of_text : ∀ (p : Part) (err : Error), p.text person e = .error err →
    err.isLack = true
  | .words _, _, h => by simp [text] at h
  | .field _, _, h => isLack_of_need (map_eq_error_iff.1 h)
  | .range _, _, h => isLack_of_need (map_eq_error_iff.1 h)
  | .names _, _, h => isLack_of_needPersons (map_eq_error_iff.1 h)
  | .byCount .., _, h => isLack_of_needPersons (map_eq_error_iff.1 h)
  | .link .., _, h => isLack_of_need (map_eq_error_iff.1 h)
  | .modified _ p, err, h => isLack_of_text p err (map_eq_error_iff.1 h)
  | .joined _ ps, err, h => isLack_of_texts ps err (map_eq_error_iff.1 h)
  | .optional p, err, h => by
    have hall : ∀ err, p.text person e = .error err → err.isLack = true := isLack_of_text p
    obtain ⟨t, ht⟩ := orNothing_isOk hall
    simp [text, ht] at h
  | .firstPresent ps, err, h => isLack_of_firstText ps err h

theorem isLack_of_texts : ∀ (ps : List Part) (err : Error), texts person e ps = .error err →
    err.isLack = true
  | [], _, h => by simp [texts] at h
  | p :: ps, err, h => by
    cases hp : p.text person e with
    | error err' =>
      simp only [texts, hp, Except.error.injEq] at h
      exact h ▸ isLack_of_text p err' hp
    | ok t =>
      simp only [texts, hp] at h
      exact isLack_of_texts ps err (map_eq_error_iff.1 h)

theorem isLack_of_firstText : ∀ (ps : List Part) (err : Error),
    firstText person e ps = .error err → err.isLack = true
  | [], _, h => by simp [firstText] at h
  | p :: ps, err, h => by
    cases hp : p.text person e with
    | error err' =>
      simp only [firstText, hp, Except.error.injEq] at h
      exact h ▸ isLack_of_text p err' hp
    | ok t =>
      simp only [firstText, hp] at h
      split at h
      · exact isLack_of_firstText ps err h
      · simp at h

end

/-- An optional part never fails. -/
theorem optional_isOk (p : Part) : ∃ t, (Part.optional p).text person e = .ok t :=
  orNothing_isOk (isLack_of_text p)

mutual

theorem text_isOk : ∀ p : Part, p.supplied e = true → ∃ t, p.text person e = .ok t
  | .words _, _ => ⟨_, rfl⟩
  | .field _, h => by
    obtain ⟨s, hs⟩ := need_eq_ok h
    exact ⟨_, map_eq_ok_iff.2 ⟨s, hs, rfl⟩⟩
  | .range _, h => by
    obtain ⟨s, hs⟩ := need_eq_ok h
    exact ⟨_, map_eq_ok_iff.2 ⟨s, hs, rfl⟩⟩
  | .names _, h => by
    obtain ⟨ps, hps⟩ := needPersons_eq_ok h
    exact ⟨_, map_eq_ok_iff.2 ⟨ps, hps, rfl⟩⟩
  | .byCount .., h => by
    obtain ⟨ps, hps⟩ := needPersons_eq_ok h
    exact ⟨_, map_eq_ok_iff.2 ⟨ps, hps, rfl⟩⟩
  | .link .., h => by
    obtain ⟨s, hs⟩ := need_eq_ok h
    exact ⟨_, map_eq_ok_iff.2 ⟨s, hs, rfl⟩⟩
  | .modified m p, h => by
    obtain ⟨t, ht⟩ := text_isOk p h
    exact ⟨_, map_eq_ok_iff.2 ⟨t, ht, rfl⟩⟩
  | .joined s ps, h => by
    obtain ⟨ts, hts⟩ := texts_isOk ps h
    exact ⟨_, map_eq_ok_iff.2 ⟨ts, hts, rfl⟩⟩
  | .optional p, _ => optional_isOk p
  | .firstPresent ps, h => firstText_isOk ps h

theorem texts_isOk : ∀ ps : List Part, allSupplied e ps = true → ∃ ts, texts person e ps = .ok ts
  | [], _ => ⟨[], rfl⟩
  | p :: ps, h => by
    obtain ⟨hp, hps⟩ := Bool.and_eq_true_iff.1 h
    obtain ⟨t, ht⟩ := text_isOk p hp
    obtain ⟨ts, hts⟩ := texts_isOk ps hps
    exact ⟨t :: ts, by simp [texts, ht, hts, Except.map]⟩

theorem firstText_isOk : ∀ ps : List Part, allSupplied e ps = true →
    ∃ t, firstText person e ps = .ok t
  | [], _ => ⟨.nil, rfl⟩
  | p :: ps, h => by
    obtain ⟨hp, hps⟩ := Bool.and_eq_true_iff.1 h
    obtain ⟨t, ht⟩ := text_isOk p hp
    simp only [firstText, ht]
    split
    · exact firstText_isOk ps hps
    · exact ⟨t, rfl⟩

end

mutual

theorem text_isError : ∀ p : Part, p.lacking e = true → ∃ err, p.text person e = .error err
  | .words _, h => by simp at h
  | .field _, h => ⟨_, map_eq_error_iff.2 (need_eq_error (Option.isNone_iff_eq_none.1 h))⟩
  | .range _, h => ⟨_, map_eq_error_iff.2 (need_eq_error (Option.isNone_iff_eq_none.1 h))⟩
  | .names _, h =>
    ⟨_, map_eq_error_iff.2 (needPersons_eq_error (Option.isNone_iff_eq_none.1 h))⟩
  | .byCount .., h =>
    ⟨_, map_eq_error_iff.2 (needPersons_eq_error (Option.isNone_iff_eq_none.1 h))⟩
  | .link .., h => ⟨_, map_eq_error_iff.2 (need_eq_error (Option.isNone_iff_eq_none.1 h))⟩
  | .modified _ p, h => by
    obtain ⟨err, herr⟩ := text_isError p h
    exact ⟨err, map_eq_error_iff.2 herr⟩
  | .joined _ ps, h => by
    obtain ⟨err, herr⟩ := texts_isError ps h
    exact ⟨err, map_eq_error_iff.2 herr⟩
  | .optional _, h => by simp at h
  | .firstPresent _, h => by simp at h

theorem texts_isError : ∀ ps : List Part, anyLacking e ps = true →
    ∃ err, texts person e ps = .error err
  | [], h => by simp at h
  | p :: ps, h => by
    cases hp : p.text person e with
    | error err => exact ⟨err, by simp [texts, hp]⟩
    | ok t =>
      rcases Bool.or_eq_true_iff.1 h with h | h
      · have herr : ∃ err, p.text person e = .error err := text_isError p h
        simp [hp] at herr
      · obtain ⟨err, herr⟩ := texts_isError ps h
        exact ⟨err, by simp [texts, hp, herr, Except.map]⟩

end

end Citation.Part
