import Citation.Proofs.Appending
import Citation.Proofs.Substitution

/-! Entries by their type. A look-up compares a name with the ones that types print, and no type
prints `conference`: nothing is found under that name, although it stands for `inproceedings` in a
source. Under any other name stand the entries that have a name for the same type behind their
`@`. -/
namespace Citation

namespace EntryType

/-- The second name of `inproceedings`, which a source may have and no type prints. -/
def conference : List Char := "conference".toList

/-- Whether two types are one. Types without a template are told apart by their names, in any ASCII
case. -/
def same : EntryType → EntryType → Bool
  | .other a, .other b => sameName a b
  | x, y => x = y

theorem same_self (x : EntryType) : x.same x = true := by
  cases x <;> simp [same, sameName_self]

/-- A name that no standard type prints and that is not read as one of them. -/
def IsOwn (s : List Char) : Prop :=
  sameName conference s = false ∧ ∀ x ∈ standard, sameName x.name s = false

/-- A type is printed by its own name, unless the name is `conference`. -/
theorem ofName_cases (s : List Char) :
    (ofName s ∈ standard ∧ sameName (ofName s).name s = true) ∨
      (ofName s = .inProceedings ∧ sameName conference s = true) ∨
      ofName s = .other s ∧ IsOwn s := by
  unfold ofName
  split
  · next x hx =>
    have hname : sameName x.name s = true := by simpa using List.find?_some hx
    exact .inl ⟨List.mem_of_find?_eq_some hx, hname⟩
  · next hnone =>
    have hown : ∀ x ∈ standard, sameName x.name s = false := by simpa using hnone
    split
    · next halias => exact .inr (.inl ⟨rfl, halias⟩)
    · next halias => exact .inr (.inr ⟨rfl, Bool.not_eq_true _ ▸ halias, hown⟩)

theorem ofName_standard_or_own (s : List Char) :
    ofName s ∈ standard ∨ ofName s = .other s ∧ IsOwn s := by
  rcases ofName_cases s with ⟨hmem, -⟩ | ⟨hs, -⟩ | hown
  · exact .inl hmem
  · exact .inl (hs ▸ by decide)
  · exact .inr hown

theorem same_other {x : EntryType} (hx : x ∈ standard) (a : List Char) :
    x.same (.other a) = false ∧ (other a).same x = false := by
  cases x with
  | other b => simp [standard] at hx
  | _ => simp [same]

/-- Types that are read from names are one exactly if they print one name. -/
theorem same_ofName (a b : List Char) :
    (ofName a).same (ofName b) = sameName (ofName a).name (ofName b).name := by
  rcases ofName_standard_or_own a with ha | ⟨ha, howna⟩
  · rcases ofName_standard_or_own b with hb | ⟨hb, hownb⟩
    · have hall : ∀ x ∈ standard, ∀ y ∈ standard, x.same y = sameName x.name y.name := by decide
      exact hall _ ha _ hb
    · rw [hb, (same_other ha b).1, name_other, hownb.2 _ ha]
  · rcases ofName_standard_or_own b with hb | ⟨hb, -⟩
    · have hne : sameName a (ofName b).name = false := by
        rw [Bool.eq_false_iff]
        intro h
        have hspelled := sameName_symm h
        rw [howna.2 _ hb] at hspelled
        cases hspelled
      rw [ha, (same_other hb a).2, name_other, hne]
    · rw [ha, hb, name_other, name_other, same]

/-- Under a name that is not `conference` stand the types that are one with its own. -/
theorem sameName_ofName (a : List Char) {t : List Char} (ht : sameName conference t = false) :
    sameName (ofName a).name t = (ofName a).same (ofName t) := by
  rw [same_ofName]
  rcases ofName_cases t with ⟨-, hname⟩ | ⟨-, halias⟩ | ⟨hother, -⟩
  · exact (sameName_congr hname _).symm
  · rw [halias] at ht
    cases ht
  · rw [hother, name_other]

/-- No type prints `conference`. -/
theorem not_sameName_ofName (a : List Char) {t : List Char} (ht : sameName conference t = true) :
    sameName (ofName a).name t = false := by
  rw [← sameName_congr ht]
  have hall : ∀ x ∈ standard, sameName x.name conference = false := by decide
  rcases ofName_standard_or_own a with ha | ⟨ha, hown, -⟩
  · exact hall _ ha
  · rw [ha, name_other, Bool.eq_false_iff]
    intro h
    rw [sameName_symm h] at hown
    cases hown

end EntryType

namespace Source
open Scanner

/-- The text starts with an `@`, maybe spacing, and the whole of a name. -/
def Announces (s t : List Char) : Prop :=
  ∃ g u, s = '@' :: (g ++ (t ++ u)) ∧ IsSpacing g ∧ IsName t ∧
    ∀ c ∈ u.head?, isNameChar c = false

/-- The names that a source has behind the `@` of its entries, in their order. -/
inductive TypeNames : List Char → List (List Char) → Prop
  | blank {s : List Char} (hs : skipBlank s = []) : TypeNames s []
  | entry {s t r : List Char} {e : Entry} {ns : List (List Char)}
      (h : leading (skipBlank s) = some (.entry e, r)) (ht : Announces (skipBlank s) t)
      (hr : TypeNames r ns) : TypeNames s (t :: ns)
  | other {s r : List Char} {i : Item} {ns : List (List Char)}
      (h : leading (skipBlank s) = some (i, r)) (hi : i.entry? = none)
      (hr : TypeNames r ns) : TypeNames s ns

theorem entry_of_block {s r : List Char} {e : Entry} (h : block s = some (.entry e, r)) :
    entry s = some (e, r) := by
  unfold block at h
  split at h
  · simp at h
  · split at h
    · simp at h
    · split at h
      · simp at h
      · simpa using h

/-- An entry that stands first in a text starts with the name that it has its type from. -/
theorem exists_name_of_leading {s r : List Char} {e : Entry}
    (h : leading s = some (.entry e, r)) :
    ∃ u t v, s = '@' :: u ∧ name (skipSpacing u) = some (t, v) ∧ e.type = .ofName t := by
  cases s with
  | nil => cases h
  | cons c u =>
    by_cases hc : c = '@'
    · subst hc
      have hblock : block (skipSpacing u) = some (.entry e, r) := by
        simpa [leading, item] using h
      have hentry := entry_of_block hblock
      rw [entry_eq] at hentry
      obtain ⟨t, v, ht, hentry⟩ := andThen_eq_some.1 hentry
      obtain ⟨close, v₁, -, hentry⟩ := andThen_eq_some.1 hentry
      obtain ⟨key, v₂, -, hentry⟩ := andThen_eq_some.1 hentry
      obtain ⟨fs, v₃, -, hentry⟩ := andThen_eq_some.1 hentry
      obtain ⟨_, -, rfl⟩ := mapped_eq_some.1 hentry
      exact ⟨u, t, v, rfl, ht, rfl⟩
    · simp [leading, hc] at h

theorem exists_announces {s r : List Char} {e : Entry} (h : leading s = some (.entry e, r)) :
    ∃ t, Announces s t := by
  obtain ⟨u, t, v, rfl, ht, -⟩ := exists_name_of_leading h
  obtain ⟨hu, hne, hall, hv⟩ := run_eq_some_iff.1 ht
  refine ⟨t, u.takeWhile isSpacing, v, ?_, fun c => List.mem_takeWhile_imp, ⟨hne, hall⟩, hv⟩
  rw [← hu, skipSpacing, List.takeWhile_append_dropWhile]

theorem Announces.type_eq {s t r : List Char} {e : Entry} (ht : Announces s t)
    (h : leading s = some (.entry e, r)) : e.type = .ofName t := by
  obtain ⟨g, u, rfl, hg, hname, hu⟩ := ht
  obtain ⟨_, t', v, hs, ht', htype⟩ := exists_name_of_leading h
  obtain rfl := (List.cons.inj hs).2
  rw [skipSpacing_append hg (hname.solid.append u), name, run_append hname.1 hname.2 hu] at ht'
  obtain ⟨rfl, -⟩ : t = t' ∧ u = v := by simpa using ht'
  exact htype

/-- A source that can be read has names at its entries. -/
theorem exists_typeNames (s : List Char) : ∀ is, items s = .ok is → ∃ ns, TypeNames s ns := by
  induction s using items_induction with
  | blank s hs => exact fun _ _ => ⟨[], .blank hs⟩
  | stuck s t hs hi =>
    intro is his
    rw [items_of_stuck hs hi] at his
    cases his
  | more s i r hl ih =>
    intro is his
    rw [items_of_leading hl, map_eq_ok_iff] at his
    obtain ⟨js, hjs, -⟩ := his
    obtain ⟨ns, hns⟩ := ih js hjs
    cases i with
    | entry e =>
      obtain ⟨t, ht⟩ := exists_announces hl
      exact ⟨t :: ns, .entry hl ht hns⟩
    | _ => exact ⟨ns, .other hl rfl hns⟩

/-- The names of a source are those of its entries' types. -/
theorem TypeNames.types_eq {s : List Char} {ns : List (List Char)} (h : TypeNames s ns) :
    ∀ is, items s = .ok is →
      (is.filterMap Item.entry?).map Entry.type = ns.map EntryType.ofName := by
  induction h with
  | blank hs =>
    intro is his
    rw [items_of_nil hs] at his
    obtain rfl : [] = is := Except.ok.inj his
    rfl
  | @entry _ _ _ e _ hl ht _ ih =>
    intro is his
    rw [items_of_leading hl, map_eq_ok_iff] at his
    obtain ⟨js, hjs, rfl⟩ := his
    have hcons : (.entry e :: js).filterMap Item.entry? = e :: js.filterMap Item.entry? := rfl
    rw [hcons, List.map_cons, List.map_cons, ih js hjs, ht.type_eq hl]
  | other hl hi _ ih =>
    intro is his
    rw [items_of_leading hl, map_eq_ok_iff] at his
    obtain ⟨js, hjs, rfl⟩ := his
    rw [List.filterMap_cons_none hi, ih js hjs]

end Source

namespace Database
open Source

/-- Expansion keeps the types of the entries. -/
theorem types_ofItems (is : List Item) :
    (ofItems is).entries.map Entry.type = (is.filterMap Item.entry?).map Entry.type := by
  induction is using List.reverseRecOn with
  | nil => rfl
  | append_singleton is i ih =>
    rw [ofItems_append, List.filterMap_append, List.map_append, ← ih]
    cases i with
    | entry e => simp [addItem, Item.entry?, expandEntry]
    | _ => simp [addItem, Item.entry?]

theorem types_parse {s : List Char} {db : Database} (h : parse s = .ok db)
    {ns : List (List Char)} (hns : TypeNames s ns) :
    db.entries.map Entry.type = ns.map EntryType.ofName := by
  obtain ⟨is, his, rfl⟩ := map_eq_ok_iff.1 h
  rw [types_ofItems, hns.types_eq is (parse_eq_ok_iff.1 his)]

/-- Where names and entries are for the same types, so are the pairs of both. -/
theorem type_of_mem_zip : ∀ {ns : List (List Char)} {es : List Entry},
    es.map Entry.type = ns.map EntryType.ofName →
      ∀ p ∈ ns.zip es, p.2.type = .ofName p.1
  | [], _, _ => by simp
  | _ :: _, [], h => by simp at h
  | n :: ns, e :: es, h => by
    obtain ⟨he, hes⟩ := List.cons.inj h
    exact List.forall_mem_cons.2 ⟨he, type_of_mem_zip hes⟩

/-- Entries that are picked by their types are picked by their names. -/
theorem filter_type {ns : List (List Char)} {es : List Entry}
    (h : es.map Entry.type = ns.map EntryType.ofName) (q : EntryType → Bool) :
    es.filter (fun e => q e.type) =
      ((ns.zip es).filter fun p => q (.ofName p.1)).map Prod.snd := by
  have hlength : es.length = ns.length := by simpa using congrArg List.length h
  calc es.filter (fun e => q e.type)
      = ((ns.zip es).map Prod.snd).filter fun e => q e.type := by
        rw [List.map_snd_zip hlength.le]
    _ = ((ns.zip es).filter fun p => q p.2.type).map Prod.snd := List.filter_map
    _ = ((ns.zip es).filter fun p => q (.ofName p.1)).map Prod.snd := by
        rw [List.filter_congr fun p hp => by rw [type_of_mem_zip h p hp]]

/-- Under a name stand, in the order of the source, the entries with a name for the same type. Only
under `conference` stands none, whatever the source has. So an entry is found under its own name, in
any case, unless that is `conference`. -/
theorem ofType_parse {s : List Char} {db : Database} (h : parse s = .ok db) :
    (∃ ns, TypeNames s ns) ∧ ∀ ns, TypeNames s ns →
      db.entries.map Entry.type = ns.map EntryType.ofName ∧
      ∀ t,
        (sameName EntryType.conference t = false → db.ofType t =
          ((ns.zip db.entries).filter fun p =>
            (EntryType.ofName p.1).same (.ofName t)).map Prod.snd) ∧
        (sameName EntryType.conference t = true → db.ofType t = []) ∧
        ∀ p ∈ ns.zip db.entries, sameName p.1 t = true →
          (p.2 ∈ db.ofType t ↔ sameName EntryType.conference t = false) := by
  obtain ⟨is, his, -⟩ := map_eq_ok_iff.1 h
  refine ⟨exists_typeNames s is (parse_eq_ok_iff.1 his), fun ns hns => ?_⟩
  have htypes := types_parse h hns
  refine ⟨htypes, fun t => ?_⟩
  have hfound : db.ofType t = ((ns.zip db.entries).filter fun p =>
      sameName (EntryType.ofName p.1).name t).map Prod.snd :=
    filter_type htypes fun type => sameName type.name t
  have hnone : sameName EntryType.conference t = true → db.ofType t = [] := by
    intro ht
    rw [hfound, List.filter_eq_nil_iff.2, List.map_nil]
    intro p _
    rw [EntryType.not_sameName_ofName p.1 ht]
    exact Bool.false_ne_true
  refine ⟨fun ht => ?_, hnone, fun p hp hname => ⟨fun hmem => ?_, fun ht => ?_⟩⟩
  · rw [hfound]
    simp only [EntryType.sameName_ofName _ ht]
  · rw [Bool.eq_false_iff]
    intro ht
    rw [hnone ht] at hmem
    cases hmem
  · refine List.mem_filter.2 ⟨(List.of_mem_zip hp).2, ?_⟩
    have hown : sameName EntryType.conference p.1 = false := by
      rw [sameName_congr hname, ht]
    rw [type_of_mem_zip htypes p hp, ← sameName_congr hname, EntryType.sameName_ofName _ hown,
      EntryType.same_self]

/-- Two entries of one type, under both of its names. -/
def proceedings : List Char := "@Conference{k}\n@inproceedings{l}".toList

def proceedingsDatabase : Database :=
  { entries := [⟨.inProceedings, ['k'], []⟩, ⟨.inProceedings, ['l'], []⟩] }

theorem leading_proceedings : leading (skipBlank proceedings) =
    some (.entry ⟨.inProceedings, ['k'], []⟩, "@inproceedings{l}".toList) := rfl

theorem leading_behind_proceedings : leading (skipBlank "@inproceedings{l}".toList) =
    some (.entry ⟨.inProceedings, ['l'], []⟩, []) := rfl

theorem parse_proceedings : parse proceedings = .ok proceedingsDatabase := by
  have hitems : items proceedings = .ok (proceedingsDatabase.entries.map .entry) := by
    rw [items_of_leading leading_proceedings, items_of_leading leading_behind_proceedings,
      items_of_nil rfl]
    rfl
  rw [parse, parse_eq_ok_iff.2 hitems]
  rfl

theorem typeNames_proceedings :
    TypeNames proceedings ["Conference".toList, "inproceedings".toList] := by
  have hbrace : ∀ r : List Char, ∀ c ∈ ('{' :: r).head?, isNameChar c = false :=
    fun _ _ hc => Option.some.inj hc ▸ rfl
  refine .entry leading_proceedings ?_ (.entry leading_behind_proceedings ?_ (.blank rfl))
  · exact ⟨[], "{k}\n@inproceedings{l}".toList, rfl, isSpacing_nil, by decide, hbrace _⟩
  · exact ⟨[], "{l}".toList, rfl, isSpacing_nil, by decide, hbrace _⟩

/-- Both entries are found under the one name and none under the other. -/
theorem ofType_parse_proceedings :
    parse proceedings = .ok proceedingsDatabase ∧
      (∃ ns, TypeNames proceedings ns) ∧ ∀ ns, TypeNames proceedings ns →
        proceedingsDatabase.entries.map Entry.type = ns.map EntryType.ofName ∧
        ∀ t,
          (sameName EntryType.conference t = false →
            proceedingsDatabase.ofType t = ((ns.zip proceedingsDatabase.entries).filter fun p =>
              (EntryType.ofName p.1).same (.ofName t)).map Prod.snd) ∧
          (sameName EntryType.conference t = true → proceedingsDatabase.ofType t = []) ∧
          ∀ p ∈ ns.zip proceedingsDatabase.entries, sameName p.1 t = true →
            (p.2 ∈ proceedingsDatabase.ofType t ↔ sameName EntryType.conference t = false) :=
  ⟨parse_proceedings, ofType_parse parse_proceedings⟩

/-- An entry may stand under another name of its type only, and not under the one that it has in
the source. -/
theorem not_ofType_parse :
    ¬ ∀ s db ns, parse s = .ok db → TypeNames s ns → ∀ t,
      db.ofType t = ((ns.zip db.entries).filter fun p =>
        (EntryType.ofName p.1).same (.ofName t)).map Prod.snd := by
  intro h
  have hfound := h proceedings _ _ parse_proceedings typeNames_proceedings "Conference".toList
  have hnone : proceedingsDatabase.ofType "Conference".toList = [] := rfl
  rw [hnone] at hfound
  have hlength := congrArg List.length hfound
  revert hlength
  decide

end Database
end Citation
