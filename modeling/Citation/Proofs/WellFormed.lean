import Citation.Proofs.Appending
import Citation.Proofs.Quotation
import Citation.Proofs.Substitution

/-! Whatever a source yields is well formed: its keys, names and types, the shape of its values, and
its literals, each of which is read back from braces or from quotes. -/
namespace Citation

namespace Scanner

variable {α β : Type} {p : Scanner α} {q : α → Scanner β} {P : α → Prop} {Q : β → Prop}

/-- All that is read has a property. -/
def Yields (p : Scanner α) (P : α → Prop) : Prop := ∀ s a r, p s = some (a, r) → P a

theorem Yields.andThen (hp : p.Yields P) (hq : ∀ a, P a → (q a).Yields Q) :
    (p.andThen q).Yields Q := by
  intro s b r h
  obtain ⟨a, t, ha, hb⟩ := andThen_eq_some.1 h
  exact hq a (hp _ _ _ ha) _ _ _ hb

theorem Yields.mapped (hp : p.Yields P) {f : α → β} (hf : ∀ a, P a → Q (f a)) :
    (p.mapped f).Yields Q := by
  intro s b r h
  obtain ⟨a, ha, rfl⟩ := mapped_eq_some.1 h
  exact hf a (hp _ _ _ ha)

theorem Yields.padded (hp : p.Yields P) : (padded p).Yields P := by
  intro s a r h
  obtain ⟨t, ht, -⟩ := padded_eq_some.1 h
  exact hp _ _ _ ht

/-- Of some scanners it does not matter what they yield. -/
theorem yields_trivial (p : Scanner α) : p.Yields fun _ => True := fun _ _ _ _ => trivial

theorem yields_run (c : Char → Bool) : (run c).Yields fun w => w ≠ [] ∧ ∀ d ∈ w, c d = true := by
  intro s w r h
  obtain ⟨-, hne, hall, -⟩ := run_eq_some_iff.1 h
  exact ⟨hne, hall⟩

end Scanner

namespace Source
open Unicode Scanner

/-- A text that is read as a literal from braces or from quotes around it. -/
def IsLiteral (b : List Char) : Prop :=
  value ('{' :: (b ++ ['}'])) = some (.literal b, []) ∨
    value ('\"' :: (b ++ ['\"'])) = some (.literal b, [])

/-- A run of digits behind an optional sign. -/
def IsNumeral (d : List Char) : Prop := (sign d).2 ≠ [] ∧ ∀ c ∈ (sign d).2, c.isDigit = true

instance : DecidablePred IsNumeral := fun d =>
  decidable_of_iff ((sign d).2 ≠ [] ∧ (sign d).2.all Char.isDigit = true) (by simp [IsNumeral])

end Source

open Source

namespace Value

/-- A part of a value as it may be read. -/
def WellFormedPart : Value → Prop
  | .literal b => IsLiteral b
  | .number n => -9223372036854775808 ≤ n ∧ n ≤ 9223372036854775807
  | .reference n => IsReference n
  | .concat _ => False

/-- A part, or a concatenation of at least two parts. -/
def WellFormed : Value → Prop
  | .concat vs => 2 ≤ vs.length ∧ ∀ v ∈ vs, v.WellFormedPart
  | v => v.WellFormedPart

end Value

/-- A field with a name. -/
structure Field.WellFormed (f : Field) : Prop where
  name : IsName f.name
  value : f.value.WellFormed

/-- An entry with a key, and with a type that is not the name of another block. -/
structure Entry.WellFormed (e : Entry) : Prop where
  key : IsKey e.key
  type : ∀ w ∈ keywords, ¬ IsKeyword w.toList e.type.name
  fields : ∀ f ∈ e.fields, f.WellFormed

def Item.WellFormed : Item → Prop
  | .entry e => e.WellFormed
  | .definition n v => IsName n ∧ v.WellFormed
  | .preamble v => v.WellFormed
  | .comment _ => True

namespace Source
open Unicode Scanner

/-! Values. -/

theorem Balanced.isLiteral {b : List Char} (h : Balanced b) : IsLiteral b := by
  refine .inl ?_
  rw [value_braced h, mapped, moreParts_of_end (by simp [skipBlank])]
  rfl

theorem yields_braced : Yields braced IsLiteral := by
  intro s b r h
  exact (braced_eq_some_iff.1 h).1.isLiteral

theorem yields_quoted : Yields quoted IsLiteral := by
  intro s b r h
  refine .inr ?_
  obtain ⟨t, rfl, hfirst⟩ := quoted_eq_some_iff.1 h
  have hclosed := closed_quotedBody (quotedBody_eq_some_iff.2 hfirst) []
  have hquoted : quoted ('\"' :: (b ++ ['\"'])) = some (b, []) := by simpa [quoted] using hclosed
  rw [value_of_part (by rw [part_quote, mapped, hquoted]; rfl), mapped,
    moreParts_of_end (by simp [skipBlank])]
  rfl

theorem yields_number : Yields number IsNumeral := by
  intro s d r h
  obtain ⟨⟨digits, r'⟩, hd, hr⟩ := Option.map_eq_some_iff.1 h
  obtain ⟨rfl, rfl⟩ := by simpa using hr
  obtain ⟨hsplit, hne, hall, -⟩ := run_eq_some_iff.1 hd
  have hsign := sign_append_of_ne_nil hsplit hne []
  rw [List.append_nil] at hsign
  rw [IsNumeral, hsign]
  exact ⟨hne, hall⟩

theorem balanced_of_plain {b : List Char} (h : ∀ c ∈ b, c ≠ '\\' ∧ c ≠ '{' ∧ c ≠ '}') :
    Balanced b := by
  refine closes_iff.1 ?_
  induction b with
  | nil => exact .nil
  | cons c b ih =>
    obtain ⟨hc, hb⟩ := List.forall_mem_cons.1 h
    exact .plain hc (ih hb)

theorem IsNumeral.mem {d : List Char} (h : IsNumeral d) {c : Char} (hc : c ∈ d) :
    c = '+' ∨ c = '-' ∨ c.isDigit = true := by
  rw [← sign_append d, List.mem_append] at hc
  rcases hc with hc | hc
  · cases d with
    | nil => cases hc
    | cons x d =>
      simp only [sign] at hc
      split at hc
      · next hx =>
        obtain rfl : c = x := by simpa using hc
        exact hx.imp_right .inl
      · cases hc
  · exact .inr (.inr (h.2 c hc))

theorem IsNumeral.balanced {d : List Char} (h : IsNumeral d) : Balanced d := by
  apply balanced_of_plain
  intro c hc
  refine ⟨?_, ?_, ?_⟩ <;> rintro rfl <;> exact absurd (h.mem hc) (by decide)

theorem IsNumeral.wellFormed {d : List Char} (h : IsNumeral d) :
    (numberValue d).WellFormedPart := by
  unfold numberValue
  simp only
  split
  · next hn => exact ⟨hn.1, hn.2.1⟩
  · exact h.balanced.isLiteral

/-- A name that is read where no number is. -/
theorem isReference_of_name {s n r : List Char} (hname : name s = some (n, r))
    (hnumber : number s = none) (hnumeric : ∀ c ∈ s.head?, isNumeric c = false) :
    IsReference n := by
  obtain ⟨rfl, hne, hall, -⟩ := run_eq_some_iff.1 hname
  cases n with
  | nil => exact absurd rfl hne
  | cons c n =>
    refine ⟨⟨hne, hall⟩, hnumeric, fun hsign => ?_⟩
    have hc : c = '+' ∨ c = '-' := by
      by_contra hc
      simp [sign, hc] at hsign
    intro d hd
    simp only [sign, hc, if_true] at hd
    refine number_eq_none_iff.1 hnumber d ?_
    simp only [List.cons_append, sign, hc, if_true]
    exact startsLike_append n r d hd

theorem yields_part : Yields part Value.WellFormedPart := by
  intro s v r h
  unfold part at h
  split at h
  · next hq =>
    obtain ⟨rfl, -⟩ := by simpa using h
    exact yields_quoted _ _ _ hq
  · split at h
    · next hb =>
      obtain ⟨rfl, -⟩ := by simpa using h
      exact yields_braced _ _ _ hb
    · split at h
      · next hd =>
        obtain ⟨rfl, -⟩ := by simpa using h
        exact (yields_number _ _ _ hd).wellFormed
      · next hnumber =>
        cases s with
        | nil => cases h
        | cons c s =>
          simp only [reference] at h
          split at h
          · cases h
          · next hc =>
            obtain ⟨⟨n, t⟩, hn, hr⟩ := Option.map_eq_some_iff.1 h
            obtain ⟨rfl, -⟩ := by simpa using hr
            exact isReference_of_name hn hnumber (by simpa using hc)

theorem yields_moreParts : Yields moreParts fun vs => ∀ v ∈ vs, v.WellFormedPart := by
  intro s vs r h
  fun_induction moreParts s generalizing vs with
  | case1 => simp_all
  | case2 => cases h
  | case3 s t v r' hp hs _ ih =>
    obtain ⟨⟨us, r''⟩, hm, hr⟩ := Option.map_eq_some_iff.1 h
    obtain ⟨rfl, rfl⟩ := by simpa using hr
    exact List.forall_mem_cons.2 ⟨yields_part _ _ _ hp, ih us hm⟩
  | case4 => simp_all

theorem wellFormed_of_part {v : Value} (h : v.WellFormedPart) : v.WellFormed := by
  cases v with
  | concat vs => exact h.elim
  | _ => exact h

theorem wellFormed_ofParts {v : Value} (hv : v.WellFormedPart) {vs : List Value}
    (hvs : ∀ w ∈ vs, w.WellFormedPart) : (ofParts v vs).WellFormed := by
  cases vs with
  | nil => exact wellFormed_of_part hv
  | cons w vs => exact ⟨by simp, List.forall_mem_cons.2 ⟨hv, hvs⟩⟩

theorem yields_value : Yields value Value.WellFormed := by
  rw [value_eq]
  exact yields_part.andThen fun v hv => yields_moreParts.mapped fun vs => wellFormed_ofParts hv

/-! Fields and entries. -/

theorem yields_name : Yields name IsName := yields_run _

theorem yields_assignment : Yields assignment fun a => IsName a.1 ∧ a.2.WellFormed := by
  rw [assignment_eq]
  refine yields_name.padded.andThen fun n hn => ?_
  refine (yields_trivial _).andThen fun _ _ => ?_
  exact yields_value.padded.mapped fun v hv => ⟨hn, hv⟩

theorem yields_field : Yields field Field.WellFormed := by
  rw [field_eq]
  exact yields_assignment.mapped fun a ha => ⟨ha.1, ha.2⟩

theorem yields_fields (close : Char) : Yields (fields close) fun fs => ∀ f ∈ fs, f.WellFormed := by
  intro s fs r h
  fun_induction fields close s generalizing fs with
  | case1 => simp_all
  | case2 => cases h
  | case3 => cases h
  | case4 s hne f r' hf t hr _ ih =>
    obtain ⟨⟨us, r''⟩, hm, hs⟩ := Option.map_eq_some_iff.1 h
    obtain ⟨rfl, rfl⟩ := by simpa using hs
    exact List.forall_mem_cons.2 ⟨yields_field _ _ _ hf, ih us hm⟩
  | case5 s hne f r' hf t hr _ =>
    obtain ⟨rfl, -⟩ := by simpa using h
    exact List.forall_mem_singleton.2 (yields_field _ _ _ hf)
  | case6 => cases h

theorem yields_fieldsAfterKey (close : Char) :
    Yields (fieldsAfterKey close) fun fs => ∀ f ∈ fs, f.WellFormed := by
  intro s fs r h
  cases s with
  | nil =>
    obtain ⟨rfl, -⟩ := by simpa [fieldsAfterKey] using h
    simp
  | cons c s =>
    simp only [fieldsAfterKey] at h
    split at h
    · exact yields_fields close _ _ _ h
    · obtain ⟨rfl, -⟩ := by simpa using h
      simp

/-- The name of a type is the one in the source, or that of a standard type. -/
theorem name_ofName (t : List Char) :
    (EntryType.ofName t).name = t ∨ EntryType.ofName t ∈ EntryType.standard := by
  unfold EntryType.ofName
  split
  · next h => exact .inr (List.mem_of_find?_eq_some h)
  · split
    · exact .inr (by decide)
    · exact .inl (EntryType.name_other t)

theorem not_isKeyword_ofName {t : List Char} (h : ∀ w ∈ keywords, ¬ IsKeyword w.toList t) :
    ∀ w ∈ keywords, ¬ IsKeyword w.toList (EntryType.ofName t).name := by
  have hstandard : ∀ type ∈ EntryType.standard, ∀ w ∈ keywords,
      sameName type.name w.toList = false := by decide
  rcases name_ofName t with hname | hmem
  · rwa [hname]
  · intro w hw
    simp [IsKeyword, hstandard _ hmem w hw]

/-- Where no name goes on, no keyword does. -/
theorem endsKeyword {c : Char} (h : isNameChar c = false) :
    (isAlphanumeric c || c == '_') = false := by
  simp only [isNameChar, Bool.or_eq_false_iff, List.contains_cons] at h ⊢
  exact ⟨h.1, h.2.1⟩

/-- An entry is read where none of the other blocks is. -/
theorem wellFormed_entry {s r : List Char} {e : Entry} (h : entry s = some (e, r))
    (hnone : ∀ w ∈ keywords, keyword w.toList s = none) : e.WellFormed := by
  rw [entry_eq] at h
  obtain ⟨t, r₁, ht, h⟩ := andThen_eq_some.1 h
  obtain ⟨close, r₂, -, h⟩ := andThen_eq_some.1 h
  obtain ⟨k, r₃, hk, h⟩ := andThen_eq_some.1 h
  obtain ⟨fs, r₄, hfs, h⟩ := andThen_eq_some.1 h
  obtain ⟨_, -, rfl⟩ := mapped_eq_some.1 h
  have hkey : IsKey k := (yields_run _).padded _ _ _ hk
  refine ⟨hkey, not_isKeyword_ofName ?_, yields_fieldsAfterKey _ _ _ _ hfs⟩
  intro w hw hkeyword
  obtain ⟨rfl, -, -, hend⟩ := run_eq_some_iff.1 ht
  have hread : keyword w.toList (t ++ r₁) = some (t, r₁) :=
    keyword_eq_some_iff.2 ⟨rfl, hkeyword, fun c hc => endsKeyword (hend c hc)⟩
  rw [hnone w hw] at hread
  cases hread

/-! Items. -/

theorem yields_delimited {α : Type} {body : Scanner α} {P : α → Prop} (h : body.Yields P) :
    Yields (delimited body) P := by
  rw [delimited_eq]
  refine (yields_trivial _).andThen fun _ _ => ?_
  exact h.andThen fun a ha => (yields_trivial _).mapped fun _ _ => ha

theorem yields_block : Yields block Item.WellFormed := by
  intro s i r h
  unfold block at h
  split at h
  · obtain ⟨_, -, hr⟩ := Option.map_eq_some_iff.1 h
    obtain ⟨rfl, -⟩ := by simpa using hr
    trivial
  · next hcomment =>
    split at h
    · obtain ⟨⟨⟨n, v⟩, r'⟩, hb, hr⟩ := Option.map_eq_some_iff.1 h
      obtain ⟨rfl, -⟩ := by simpa using hr
      exact yields_delimited yields_assignment _ _ _ hb
    · next hstring =>
      split at h
      · obtain ⟨⟨v, r'⟩, hb, hr⟩ := Option.map_eq_some_iff.1 h
        obtain ⟨rfl, -⟩ := by simpa using hr
        exact yields_delimited yields_value.padded _ _ _ hb
      · next hpreamble =>
        obtain ⟨⟨e, r'⟩, he, hr⟩ := Option.map_eq_some_iff.1 h
        obtain ⟨rfl, -⟩ := by simpa using hr
        have hnone : ∀ w ∈ keywords, keyword w.toList s = none :=
          List.forall_mem_cons.2 ⟨hcomment, List.forall_mem_cons.2 ⟨hstring,
            List.forall_mem_singleton.2 hpreamble⟩⟩
        exact wellFormed_entry he hnone

theorem yields_leading : Yields leading Item.WellFormed := by
  intro s i r h
  cases s with
  | nil => cases h
  | cons c s =>
    by_cases hc : c = '@'
    · subst hc
      simp only [leading, if_true, item] at h
      exact yields_block _ _ _ h
    · rw [leading, if_neg hc] at h
      obtain ⟨rfl, -⟩ := by simpa using h
      trivial

theorem wellFormed_items (s : List Char) : ∀ is, items s = .ok is → ∀ i ∈ is, i.WellFormed := by
  induction s using items_induction with
  | blank s hs =>
    intro is his
    rw [items_of_nil hs] at his
    obtain rfl : [] = is := Except.ok.inj his
    simp
  | stuck s t hs hi =>
    intro is his
    rw [items_of_stuck hs hi] at his
    cases his
  | more s i r hl ih =>
    intro is his
    rw [items_of_leading hl, map_eq_ok_iff] at his
    obtain ⟨js, hjs, rfl⟩ := his
    exact List.forall_mem_cons.2 ⟨yields_leading _ _ _ hl, ih js hjs⟩

/-- All items of a source that can be read are well formed. -/
theorem parse_wellFormed {s : List Char} {is : List Item} (h : parse s = .ok is) :
    ∀ i ∈ is, i.WellFormed :=
  wellFormed_items s is (parse_eq_ok_iff.1 h)

/-- A literal that can stand in quotes only. -/
def unpaired : List Char := "@preamble\x7b\"\x7dx\"\x7d".toList

theorem items_unpaired : items unpaired = .ok [.preamble (.literal "\x7dx".toList)] := by
  have hpart : part "\"\x7dx\"\x7d".toList = some (.literal "\x7dx".toList, ['}']) := rfl
  have hvalue : value "\"\x7dx\"\x7d".toList = some (.literal "\x7dx".toList, ['}']) := by
    rw [value_of_part hpart, mapped, moreParts_of_end (by rintro _ ⟨⟩; decide)]
    rfl
  have hpadded : padded value "\"\x7dx\"\x7d".toList = some (.literal "\x7dx".toList, ['}']) :=
    padded_eq_some.2 ⟨_, hvalue, rfl⟩
  have hkeyword : IsKeyword "preamble".toList "preamble".toList := by
    simp [IsKeyword, sameName]
  have hitem : item unpaired = some (.preamble (.literal "\x7dx".toList), []) :=
    (item_of_block isSpacing_nil (hkeyword.solid (by decide) |>.append _)).trans
      (block_preamble hkeyword (.cons rfl _)
        (delimited_append_close isSpacing_nil .braces [] hpadded))
  rw [items_of_item rfl hitem, items_of_nil rfl]
  rfl

/-- Items of all kinds but comments, behind one another. -/
theorem parse_wellFormed_unpaired :
    parse (unpaired ++ Database.redefinedSource) =
        .ok (.preamble (.literal "\x7dx".toList) :: Database.redefined) ∧
      ∀ i ∈ Item.preamble (.literal "\x7dx".toList) :: Database.redefined, i.WellFormed := by
  have hparse : parse (unpaired ++ Database.redefinedSource) =
      .ok (.preamble (.literal "\x7dx".toList) :: Database.redefined) := by
    have hredefined := parse_eq_ok_iff.1 Database.items_redefined
    rw [parse_eq_ok_iff, items_append _ _ _ items_unpaired (by simp [Item.isComment]), hredefined]
    rfl
  exact ⟨hparse, parse_wellFormed hparse⟩

end Source
end Citation
