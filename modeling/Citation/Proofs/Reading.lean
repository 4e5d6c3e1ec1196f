import Citation.Proofs.Lexemes

/-! Reading values, assignments, fields and entries: each scanner takes what is written for it and
leaves what stands behind. -/
namespace Citation.Source
open Unicode Scanner

/-- The characters that end a value. -/
def isEnd (c : Char) : Bool := [',', '}', ')'].contains c

theorem isStop_of_isEnd {c : Char} (h : isEnd c = true) : isStop c = true := by
  have hc : c = ',' ∨ c = '}' ∨ c = ')' := by simpa [isEnd] using h
  rcases hc with rfl | rfl | rfl <;> rfl

theorem isBlank_of_isEnd {c : Char} (h : isEnd c = true) : isBlank c = false := by
  have hc : c = ',' ∨ c = '}' ∨ c = ')' := by simpa [isEnd] using h
  rcases hc with rfl | rfl | rfl <;> rfl

theorem ne_hash_of_isEnd {c : Char} (h : isEnd c = true) : c ≠ '#' := by
  rintro rfl
  simp [isEnd] at h

theorem IsDelimiters.isEnd {o c : Char} (h : IsDelimiters o c) : isEnd c = true := by
  cases h <;> rfl

theorem stops_of_isEnd {c : Char} (hc : isEnd c = true) {g : List Char} (hg : IsSpacing g)
    (t : List Char) : Stops (g ++ c :: t) :=
  .spacing hg (.cons (isStop_of_isEnd hc) t)

/-! Values. -/

theorem quoted_cons {c : Char} (h : c ≠ '\"') (s : List Char) : quoted (c :: s) = none := by
  simp [quoted, h]

theorem braced_cons {c : Char} (h : c ≠ '{') (s : List Char) : braced (c :: s) = none := by
  simp [braced, h]

theorem part_append {v : Value} (hv : IsPart v) {r : List Char} (hr : Stops r) :
    part (writtenPart v ++ r) = some (v, r) := by
  cases v with
  | literal b =>
    have hbraced : braced ('{' :: (b ++ '}' :: r)) = some (b, r) := Balanced.braced_append hv r
    simp [part, writtenPart, quoted_cons, hbraced]
  | number n =>
    obtain ⟨c, ds, hd, hc⟩ := decimal_eq_cons n
    have hquote : c ≠ '\"' := by rintro rfl; revert hc; decide
    have hbrace : c ≠ '{' := by rintro rfl; revert hc; decide
    have hnumber := number_append n hr
    have hvalue := numberValue_decimal hv
    rw [writtenPart]
    rw [hd, List.cons_append] at hnumber ⊢
    simp only [part, quoted_cons hquote, braced_cons hbrace, hnumber]
    rw [← hd, hvalue]
  | reference n =>
    have hnumber := number_eq_none hv hr
    have hname := name_append hv.1 hr
    cases n with
    | nil => exact absurd rfl hv.1.1
    | cons c n =>
      have hc : isNameChar c = true := hv.1.2 c (by simp)
      have hquote : c ≠ '\"' := by rintro rfl; revert hc; decide
      have hbrace : c ≠ '{' := by rintro rfl; revert hc; decide
      have hnumeric : isNumeric c = false := hv.2.1 c (by simp)
      rw [writtenPart]
      rw [List.cons_append] at hnumber hname ⊢
      simp [part, quoted_cons hquote, braced_cons hbrace, hnumber, reference, hnumeric, hname]
  | concat vs => exact absurd hv (by simp [IsPart])

theorem solid_part {v : Value} (hv : IsPart v) : Solid (writtenPart v) := by
  cases v with
  | literal b => exact .cons rfl _
  | number n =>
    obtain ⟨c, ds, hd, hc⟩ := decimal_eq_cons n
    rw [writtenPart, hd]
    refine .cons ?_ ds
    rcases hc with rfl | hc
    · rfl
    · exact isBlank_of_isDigit hc
  | reference n => exact hv.1.solid
  | concat vs => exact absurd hv (by simp [IsPart])

theorem moreParts_of_end {r : List Char} (hr : ∀ c ∈ (skipBlank r).head?, c ≠ '#') :
    moreParts r = some ([], r) := by
  rw [moreParts]
  split
  · rfl
  · next c t hs =>
    have hc : c ≠ '#' := hr c (by simp [hs])
    simp [hc]

theorem moreParts_of_part {s t r : List Char} {v : Value} (hs : skipBlank s = '#' :: t)
    (hp : part (skipBlank t) = some (v, r)) :
    moreParts s = (moreParts r).map fun (vs, r) => (v :: vs, r) := by
  rw [moreParts]
  split
  · next hnil =>
    rw [hs] at hnil
    cases hnil
  · next c t' hs' =>
    rw [hs] at hs'
    obtain ⟨rfl, rfl⟩ := List.cons.inj hs'
    simp only [if_true]
    split
    · next hnone =>
      rw [hp] at hnone
      cases hnone
    · next v' r' hsome =>
      rw [hp] at hsome
      obtain ⟨rfl, rfl⟩ := by simpa using hsome
      rfl

theorem WrittenChain.solid {vs : List Value} {s : List Char} (h : WrittenChain vs s)
    (hvs : ∀ v ∈ vs, IsPart v) : Solid s := by
  cases h with
  | one v => exact solid_part (hvs v (by simp))
  | more hg hg' hs => exact (solid_part (hvs _ (by simp))).append _

/-- A chain is read part by part, the first one first. -/
theorem WrittenChain.append {vs : List Value} {s : List Char} (h : WrittenChain vs s)
    (hvs : ∀ v ∈ vs, IsPart v) {r : List Char} (hr : Stops r)
    (hend : ∀ c ∈ (skipBlank r).head?, c ≠ '#') :
    ∃ v ws t, vs = v :: ws ∧ part (s ++ r) = some (v, t) ∧ moreParts t = some (ws, r) := by
  induction h with
  | one v => exact ⟨v, [], r, rfl, part_append (hvs v (by simp)) hr, moreParts_of_end hend⟩
  | @more v vs g g' s hg hg' hs ih =>
    obtain ⟨hv, hvs⟩ := List.forall_mem_cons.1 hvs
    obtain ⟨w, ws, t, rfl, hpart, hmore⟩ := ih hvs
    have hstop : Stops (g ++ '#' :: (g' ++ s) ++ r) := by
      simpa using Stops.spacing hg (.cons rfl (g' ++ (s ++ r)))
    have hhash : skipBlank (g ++ '#' :: (g' ++ s) ++ r) = '#' :: (g' ++ (s ++ r)) := by
      rw [List.append_assoc, skipBlank_append hg, List.cons_append, skipBlank_solid (.cons rfl _),
        List.append_assoc]
    have hnext : part (skipBlank (g' ++ (s ++ r))) = some (w, t) := by
      rw [skipBlank_append hg', skipBlank_solid ((hs.solid hvs).append r), hpart]
    refine ⟨v, w :: ws, g ++ '#' :: (g' ++ s) ++ r, rfl, ?_, ?_⟩
    · rw [List.append_assoc]
      exact part_append hv hstop
    · rw [moreParts_of_part hhash hnext, hmore]
      rfl

theorem IsValue.parts {v : Value} (h : IsValue v) : ∀ w ∈ chainOf v, IsPart w := by
  cases v with
  | concat vs => exact h.2
  | _ => simpa [chainOf, IsValue] using h

theorem value_append {v : Value} (hv : IsValue v) {s r : List Char}
    (hs : WrittenChain (chainOf v) s) (hr : Stops r)
    (hend : ∀ c ∈ (skipBlank r).head?, c ≠ '#') : value (s ++ r) = some (v, r) := by
  obtain ⟨w, ws, t, hchain, hpart, hmore⟩ := hs.append hv.parts hr hend
  cases v with
  | concat vs =>
    have hvs : vs = w :: ws := hchain
    subst hvs
    cases ws with
    | nil => exact absurd hv.1 (by simp)
    | cons w' ws => simp [value, hpart, hmore]
  | _ =>
    obtain ⟨rfl, rfl⟩ := List.cons.inj hchain
    simp [value, hpart, hmore]

/-- A value between spacing, up to what ends it. -/
theorem padded_value_append {v : Value} (hv : IsValue v) {g s g' : List Char} {c : Char}
    (hg : IsSpacing g) (hs : WrittenChain (chainOf v) s) (hg' : IsSpacing g')
    (hc : isEnd c = true) (t : List Char) :
    padded value (g ++ (s ++ (g' ++ c :: t))) = some (v, c :: t) := by
  have hsolid : Solid (c :: t) := .cons (isBlank_of_isEnd hc) t
  apply padded_append hg (hs.solid hv.parts) hg' hsolid
  apply value_append hv hs (stops_of_isEnd hc hg' t)
  rw [skipBlank_append hg', skipBlank_solid hsolid]
  simpa using ne_hash_of_isEnd hc

/-! Assignments and fields. -/

theorem padded_char_append {g : List Char} {c : Char} (hg : IsSpacing g)
    (hc : isBlank c = false) (t : List Char) :
    padded (char c) (g ++ c :: t) = some (c, skipSpacing t) := by
  rw [padded, skipSpacing_append hg (.cons hc t)]
  simp [char]

theorem assignment_append {n : List Char} {v : Value} (hn : IsName n) (hv : IsValue v)
    {g s g' : List Char} {c : Char} (hg : IsSpacing g) (hs : WrittenAssignment n v s)
    (hg' : IsSpacing g') (hc : isEnd c = true) (t : List Char) :
    assignment (g ++ (s ++ (g' ++ c :: t))) = some ((n, v), c :: t) := by
  cases hs with
  | @mk g₁ g₂ s hg₁ hg₂ hs =>
    simp only [List.append_assoc, List.cons_append]
    have hequals : Solid ('=' :: (g₂ ++ (s ++ (g' ++ c :: t)))) := .cons rfl _
    have hname : padded name (g ++ (n ++ (g₁ ++ '=' :: (g₂ ++ (s ++ (g' ++ c :: t)))))) =
        some (n, '=' :: (g₂ ++ (s ++ (g' ++ c :: t)))) :=
      padded_append hg hn.solid hg₁ hequals (name_append hn (.spacing hg₁ (.cons rfl _)))
    have hchar : padded (char '=') ('=' :: (g₂ ++ (s ++ (g' ++ c :: t)))) =
        some ('=', s ++ (g' ++ c :: t)) := by
      have h := padded_char_append (g := []) isSpacing_nil (c := '=') rfl
        (g₂ ++ (s ++ (g' ++ c :: t)))
      rwa [skipSpacing_append hg₂ ((hs.solid hv.parts).append _)] at h
    have hvalue : padded value (s ++ (g' ++ c :: t)) = some (v, c :: t) :=
      padded_value_append (g := []) hv isSpacing_nil hs hg' hc t
    simp only [assignment, hname, hchar, hvalue, Option.map_some]

theorem field_append {f : Field} (hf : IsField f) {s g : List Char} {c : Char}
    (hs : WrittenAssignment f.name f.value s) (hg : IsSpacing g) (hc : isEnd c = true)
    (t : List Char) : field (s ++ (g ++ c :: t)) = some (f, c :: t) := by
  have h := assignment_append (g := []) hf.1 hf.2 isSpacing_nil hs hg hc t
  rw [List.nil_append] at h
  rw [field, h]
  rfl

/-- An assignment starts with the first character of its name. -/
theorem WrittenAssignment.eq_cons {n s : List Char} {v : Value} (h : WrittenAssignment n v s)
    (hn : IsName n) : ∃ c t, s = c :: t ∧ isNameChar c = true := by
  obtain ⟨hne, hall⟩ := hn
  cases h with
  | mk hg hg' hs =>
    cases n with
    | nil => exact absurd rfl hne
    | cons c n => exact ⟨c, _, rfl, hall c (by simp)⟩

theorem WrittenAssignment.solid {n s : List Char} {v : Value} (h : WrittenAssignment n v s)
    (hn : IsName n) : Solid s := by
  cases h with
  | mk hg hg' hs => exact hn.solid.append _

theorem fields_of_close {close : Char} {s t : List Char} (hs : skipBlank s = close :: t) :
    fields close s = some ([], close :: t) := by
  rw [fields, if_pos (by simp [hs]), hs]

/-- Fields are looked for where spacing leads to anything but the closing delimiter. -/
theorem fields_of_field {close : Char} {s r : List Char} {f : Field}
    (hs : (skipBlank s).head? ≠ some close) (hf : field (skipBlank s) = some (f, r)) :
    fields close s = match skipBlank r with
      | [] => none
      | c :: t =>
        if c = ',' then (fields close t).map fun (fs, r) => (f :: fs, r)
        else if c = close then some ([f], c :: t)
        else none := by
  have hne : skipBlank s ≠ [] := by
    intro hnil
    rw [hnil] at hf
    cases hf
  rw [fields, if_neg (by simp [hne, hs])]
  split
  · next hnone =>
    rw [hf] at hnone
    cases hnone
  · next f' r' hsome =>
    rw [hf] at hsome
    obtain ⟨rfl, rfl⟩ := by simpa using hsome
    split
    · next hr => simp only [hr]
    · next c t hr => simp only [hr]

theorem WrittenFields.append {fs : List Field} {s : List Char} (h : WrittenFields fs s)
    (hfs : ∀ f ∈ fs, IsField f) {o close : Char} (ho : IsDelimiters o close) (t : List Char) :
    fields close (s ++ close :: t) = some (fs, close :: t) := by
  have hend : Solid (close :: t) := .cons (isBlank_of_isEnd ho.isEnd) t
  have hcomma : close ≠ ',' := by cases ho <;> decide
  have hfirst : ∀ {c : Char}, isNameChar c = true → c ≠ close := by
    rintro c hc rfl
    rw [isNameChar_of_isStop (isStop_of_isEnd ho.isEnd)] at hc
    cases hc
  induction h with
  | none hg =>
    apply fields_of_close
    rw [skipBlank_append hg, skipBlank_solid hend]
  | @last f g g' s hg hg' hs =>
    have hf : IsField f := hfs f (by simp)
    obtain ⟨c, u, hcons, hc⟩ := hs.eq_cons hf.1
    have hskip : skipBlank (g ++ (s ++ g') ++ close :: t) = s ++ (g' ++ close :: t) := by
      rw [List.append_assoc, skipBlank_append hg, List.append_assoc,
        skipBlank_solid ((hs.solid hf.1).append _)]
    have hread : field (skipBlank (g ++ (s ++ g') ++ close :: t)) = some (f, close :: t) := by
      rw [hskip, field_append hf hs hg' ho.isEnd t]
    rw [fields_of_field (by rw [hskip, hcons]; simpa using hfirst hc) hread,
      skipBlank_solid hend]
    simp [hcomma]
  | @more f fs g g' s u hg hg' hs hu ih =>
    obtain ⟨hf, hfs⟩ := List.forall_mem_cons.1 hfs
    obtain ⟨c, w, hcons, hc⟩ := hs.eq_cons hf.1
    have hskip : skipBlank (g ++ (s ++ (g' ++ ',' :: u)) ++ close :: t) =
        s ++ (g' ++ ',' :: (u ++ close :: t)) := by
      rw [List.append_assoc, skipBlank_append hg, List.append_assoc, List.append_assoc,
        skipBlank_solid ((hs.solid hf.1).append _), List.cons_append]
    have hread : field (skipBlank (g ++ (s ++ (g' ++ ',' :: u)) ++ close :: t)) =
        some (f, ',' :: (u ++ close :: t)) := by
      rw [hskip, field_append hf hs hg' rfl _]
    rw [fields_of_field (by rw [hskip, hcons]; simpa using hfirst hc) hread,
      skipBlank_solid (.cons rfl _)]
    simp [ih hfs]

/-! Entries. -/

theorem WrittenBehindKey.append {fs : List Field} {s : List Char} (h : WrittenBehindKey fs s)
    (hfs : ∀ f ∈ fs, IsField f) {o close : Char} (ho : IsDelimiters o close) (t : List Char) :
    fieldsAfterKey close (s ++ close :: t) = some (fs, close :: t) := by
  cases h with
  | none => cases ho <;> simp [fieldsAfterKey]
  | fields hs => simpa [fieldsAfterKey] using hs.append hfs ho t

theorem opening_of_isDelimiters {o c : Char} (h : IsDelimiters o c) (s : List Char) :
    opening (o :: s) = some (c, s) := by
  cases h <;> simp [opening]

theorem IsDelimiters.isStop_opening {o c : Char} (h : IsDelimiters o c) : isStop o = true := by
  cases h <;> rfl

theorem IsDelimiters.isBlank_opening {o c : Char} (h : IsDelimiters o c) : isBlank o = false := by
  cases h <;> rfl

theorem WrittenBehindKey.stops {fs : List Field} {s : List Char} (h : WrittenBehindKey fs s)
    {o close : Char} (ho : IsDelimiters o close) (t : List Char) :
    ∃ c u, s ++ close :: t = c :: u ∧ isEnd c = true := by
  cases h with
  | none => exact ⟨close, t, rfl, ho.isEnd⟩
  | @fields fs s hs => exact ⟨',', s ++ close :: t, rfl, rfl⟩

theorem padded_close {o close : Char} (ho : IsDelimiters o close) (t : List Char) :
    padded (char close) (close :: t) = some (close, skipSpacing t) :=
  padded_char_append (g := []) isSpacing_nil (isBlank_of_isEnd ho.isEnd) t

theorem entry_append {e : Entry} (he : IsEntry e) {s : List Char} (hs : WrittenEntry e s)
    (r : List Char) : entry (s ++ r) = some (e, skipSpacing r) := by
  obtain ⟨-, hkey, hfields⟩ := he
  cases hs with
  | @mk type g g₁ g₂ s o c ht hg ho hg₁ hg₂ hs =>
    simp only [List.append_assoc, List.cons_append, List.nil_append]
    have hopen : Solid (o :: (g₁ ++ (e.key ++ (g₂ ++ (s ++ c :: r))))) := .cons ho.isBlank_opening _
    have hname : name (type ++ (g ++ o :: (g₁ ++ (e.key ++ (g₂ ++ (s ++ c :: r)))))) =
        some (type, g ++ o :: (g₁ ++ (e.key ++ (g₂ ++ (s ++ c :: r))))) :=
      name_append ht.1.1 (.spacing hg (.cons ho.isStop_opening _))
    have hopening : opening (skipBlank (g ++ o :: (g₁ ++ (e.key ++ (g₂ ++ (s ++ c :: r)))))) =
        some (c, g₁ ++ (e.key ++ (g₂ ++ (s ++ c :: r)))) := by
      rw [skipBlank_append hg, skipBlank_solid hopen, opening_of_isDelimiters ho]
    have hentryKey : padded entryKey (g₁ ++ (e.key ++ (g₂ ++ (s ++ c :: r)))) =
        some (e.key, s ++ c :: r) := by
      obtain ⟨d, u, hcons, hd⟩ := hs.stops ho r
      rw [hcons]
      apply padded_append hg₁ hkey.solid hg₂ (.cons (isBlank_of_isEnd hd) u)
      exact entryKey_append hkey (stops_of_isEnd hd hg₂ u)
    have hbody := hs.append hfields ho r
    simp only [entry, hname, hopening, hentryKey, hbody, padded_close ho, Option.map_some, ht.2]

end Citation.Source
