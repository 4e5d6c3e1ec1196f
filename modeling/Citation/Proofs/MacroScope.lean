import Citation.Proofs.Expansion

/-! The scope of definitions. If no reference is left in the value of a macro, what it stands for
is fixed by its definition. Else it depends on how the names that its expansion meets are defined
where the macro is used, and a definition behind its own can change it. -/
namespace Citation

namespace Macros

variable {ms ms' : Macros}

/-- Expansion is the same over tables that agree on the names it meets. -/
theorem expandWhile_congr (hms : ms.names.Nodup) (hms' : ms'.names.Nodup)
    (busy : Finset (List Char)) (v : Value)
    (h : ∀ busy' name, Meets ms busy v busy' name → ms'.find name = ms.find name) :
    ms'.expandWhile busy v = ms.expandWhile busy v := by
  induction busy, v using expansion_induction ms with
  | literal => rfl
  | number => rfl
  | reference busy name ih =>
    have hsame : ms'.find name = ms.find name := h _ _ (.here busy name)
    obtain ⟨v, hfind, hfree⟩ | ⟨month, hfind, hmonth⟩ | hstuck := reference_cases ms busy name
    · have hfind' : ms'.find name = some v := hsame.trans hfind
      rw [expandWhile_of_free hms' hfind' hfree, expandWhile_of_free hms hfind hfree]
      exact ih v hfind hfree fun _ _ hmeets => h _ _ (.inside hfind hfree hmeets)
    · rw [expandWhile_of_month (hsame.trans hfind) hmonth, expandWhile_of_month hfind hmonth]
    · have hstuck' : ms'.Stuck busy name := by rwa [Stuck, hsame]
      rw [expandWhile_of_stuck hstuck', expandWhile_of_stuck hstuck]
  | concat busy vs ih =>
    rw [expandWhile_concat, expandWhile_concat]
    congr 1
    apply List.map_congr_left
    exact fun v hv => ih v hv fun _ _ hmeets => h _ _ (.part hv hmeets)

/-- A macro stands for its value as it is stored if no reference is left in that. -/
theorem expand_of_closed (hms : ms.names.Nodup) {name : List Char} {w : Value}
    (hfind : ms.find name = some w) (hw : w.IsExpanded) (hclosed : w.openReference = none) :
    ms.expand (.reference name) = w := by
  rw [expand_eq_expandWhile, expandWhile_of_free hms hfind (Finset.notMem_empty _)]
  cases hw with
  | literal => rfl
  | number => rfl
  | reference => cases hclosed
  | concat _ hopen => exact absurd hclosed (Value.openReferenceIn_ne_none_iff.2 hopen)

theorem find_congr {name name' : List Char} (h : nameOf name = nameOf name') :
    ms.find name = ms.find name' := by
  rw [find, find, h]

theorem find_define_of_ne {n name : List Char} (h : nameOf n ≠ nameOf name) (v : Value) :
    (ms.define n v).find name = ms.find name := by
  have hne : (nameOf name == nameOf n) = false := by simpa using h.symm
  simp only [define, find, List.lookup_cons, hne]
  induction ms with
  | nil => rfl
  | cons m ms ih =>
    obtain ⟨k, u⟩ := m
    by_cases hk : k = nameOf n
    · subst hk
      rw [List.filter_cons_of_neg (by simp), ih, List.lookup_cons, hne]
    · rw [List.filter_cons_of_pos (by simpa using hk), List.lookup_cons, List.lookup_cons, ih]

end Macros

namespace Database
open Macros

theorem find_addItem {name : List Char} (db : Database) {i : Item}
    (h : i.defined? ≠ some (nameOf name)) :
    (db.addItem i).macros.find name = db.macros.find name := by
  cases i with
  | definition n v => exact find_define_of_ne (fun hn => h (congrArg some hn)) _
  | _ => rfl

/-- Items that do not define a name leave its definition in force. -/
theorem find_foldl {name : List Char} {is : List Item} (h : Undefined (nameOf name) is)
    (db : Database) : (is.foldl addItem db).macros.find name = db.macros.find name := by
  induction is generalizing db with
  | nil => rfl
  | cons i is ih =>
    obtain ⟨hi, his⟩ := List.forall_mem_cons.1 h
    rw [List.foldl_cons, ih his, find_addItem db hi]

/-- A field of an entry behind items, as their database has it. -/
def fieldBehind (is : List Item) (e : Entry) (place : Nat) : Option Field :=
  (ofItems (is ++ [.entry e])).entries.getLast?.bind (·.fields[place]?)

theorem fieldBehind_eq (is : List Item) (e : Entry) (place : Nat) :
    fieldBehind is e place = e.fields[place]?.map (expandField (ofItems is).macros) := by
  simp [fieldBehind, addItem, expandEntry]

/-- Behind its definition and items that do not define it again, a macro without references in its
value stands for this value. Any other macro stands for the same as directly behind its definition
if the items define none of the names that its expansion meets there. -/
theorem fieldBehind_definition (is js : List Item) {n name : List Char} (v : Value)
    (hname : nameOf name = nameOf n) (hjs : Undefined (nameOf n) js) {e : Entry} {place : Nat}
    {f : Field} (hf : e.fields[place]? = some f) (hreference : f.value = .reference name) :
    let w := (ofItems is).macros.expand v
    (w.openReference = none →
      fieldBehind (is ++ [.definition n v]) e place = some ⟨f.name, w⟩ ∧
      fieldBehind (is ++ .definition n v :: js) e place = some ⟨f.name, w⟩) ∧
    ((∀ busy other,
        Meets (ofItems (is ++ [.definition n v])).macros ∅ (.reference name) busy other →
        Undefined (nameOf other) js) →
      fieldBehind (is ++ .definition n v :: js) e place =
        fieldBehind (is ++ [.definition n v]) e place) := by
  intro w
  have hsplit : ofItems (is ++ .definition n v :: js) =
      js.foldl addItem (ofItems (is ++ [.definition n v])) := by
    rw [List.append_cons, ofItems_append]
  have hnear : (ofItems (is ++ [.definition n v])).macros.find name = some w := by
    rw [ofItems_append, find_congr hname]
    exact find_define _ _ _
  have hdistinct := nodup_macroNames (is ++ [.definition n v])
  have hdistinct' := nodup_macroNames (is ++ .definition n v :: js)
  simp only [fieldBehind_eq, hf, Option.map_some, expandField, hreference]
  constructor
  · intro hclosed
    have hw : w.IsExpanded := by
      rw [show w = (ofItems is).macros.expandWhile ∅ v from expand_eq_expandWhile _ v]
      exact isExpanded_expandWhile (nodup_macroNames is) ∅ v
    have hfar : (ofItems (is ++ .definition n v :: js)).macros.find name = some w := by
      rw [hsplit, find_foldl (by rwa [hname]), hnear]
    rw [expand_of_closed hdistinct hnear hw hclosed, expand_of_closed hdistinct' hfar hw hclosed]
    exact ⟨rfl, rfl⟩
  · intro hmet
    have hsame : (ofItems (is ++ .definition n v :: js)).macros.expand (.reference name) =
        (ofItems (is ++ [.definition n v])).macros.expand (.reference name) := by
      rw [expand_eq_expandWhile, expand_eq_expandWhile]
      refine expandWhile_congr hdistinct hdistinct' ∅ _ fun busy other hmeets => ?_
      rw [hsplit, find_foldl (hmet busy other hmeets)]
    rw [hsame]

/-- An entry with a field that consists of a reference to a macro. -/
def quotingEntry : Entry := ⟨.misc, ['k'], [⟨"note".toList, .reference ['m']⟩]⟩

/-- A macro whose value refers to another one. -/
def quoting : Item := .definition ['m'] (.reference ['x'])

def quoted (text : String) : Item := .definition ['x'] (.literal text.toList)

theorem undefined_quoted (text : String) : Undefined (nameOf ['m']) [quoted text] := by
  simp [Undefined, quoted, Item.defined?, nameOf]

theorem macros_quoting : (ofItems [quoting]).macros = [(['m'], .reference ['x'])] := by
  have hx : Macros.expand [] (.reference ['x']) = .reference ['x'] := by
    rw [expand_eq_expandWhile]
    exact expandWhile_of_stuck (.inl ⟨rfl, by decide⟩)
  simp [ofItems, addItem, quoting, define, nameOf, hx]

/-- The other one is defined again behind the macro, or the macro is left open and something else
is defined. -/
theorem fieldBehind_definition_quoted :
    (Undefined (nameOf ['m']) [quoted "late"] ∧
      fieldBehind [quoted "early", quoting, quoted "late"] quotingEntry 0 =
        some ⟨"note".toList, .literal "early".toList⟩) ∧
    Undefined (nameOf ['m']) [.definition ['y'] (.number 1)] ∧
      (∀ busy other, Meets (ofItems [quoting]).macros ∅ (.reference ['m']) busy other →
        Undefined (nameOf other) [.definition ['y'] (.number 1)]) ∧
      fieldBehind [quoting, .definition ['y'] (.number 1)] quotingEntry 0 =
        fieldBehind [quoting] quotingEntry 0 := by
  have hother : Undefined (nameOf ['m']) [.definition ['y'] (.number 1)] := by
    simp [Undefined, Item.defined?, nameOf]
  have hearly : (ofItems [quoted "early"]).macros.expand (.reference ['x']) =
      .literal "early".toList := by
    have htable : (ofItems [quoted "early"]).macros = [(['x'], .literal "early".toList)] := rfl
    rw [htable, expand_eq_expandWhile, expandWhile_of_free (by decide) rfl (by decide)]
    rfl
  have hmet : ∀ busy other, Meets (ofItems [quoting]).macros ∅ (.reference ['m']) busy other →
      Undefined (nameOf other) [.definition ['y'] (.number 1)] := by
    rw [macros_quoting]
    intro busy other hmeets
    cases hmeets with
    | here => exact hother
    | inside hfind _ hmeets =>
      cases hfind
      cases hmeets with
      | here => simp [Undefined, Item.defined?, nameOf]
      | inside hfind => cases hfind
  obtain ⟨hclosed, -⟩ := @fieldBehind_definition [quoted "early"] [quoted "late"] ['m'] ['m']
    (.reference ['x']) rfl (undefined_quoted "late") quotingEntry 0 _ rfl rfl
  obtain ⟨-, hopen⟩ := @fieldBehind_definition [] [.definition ['y'] (.number 1)] ['m'] ['m']
    (.reference ['x']) rfl hother quotingEntry 0 _ rfl rfl
  rw [hearly] at hclosed
  exact ⟨⟨undefined_quoted "late", (hclosed rfl).2⟩, hother, hmet, hopen hmet⟩

/-- The field is a reference behind the one definition, and a text behind both. -/
theorem fieldBehind_quoting : fieldBehind [quoting] quotingEntry 0 =
      some ⟨"note".toList, .reference ['x']⟩ ∧
    fieldBehind [quoting, quoted "late"] quotingEntry 0 =
      some ⟨"note".toList, .literal "late".toList⟩ := by
  have hboth : (ofItems [quoting, quoted "late"]).macros =
      [(['x'], .literal "late".toList), (['m'], .reference ['x'])] := by
    rw [← List.singleton_append, ofItems_append, List.foldl_cons, List.foldl_nil, quoted, addItem,
      macros_quoting]
    rfl
  have hnear : Macros.expand [(['m'], .reference ['x'])] (.reference ['m']) = .reference ['x'] := by
    rw [expand_eq_expandWhile, expandWhile_of_free (by decide) rfl (by decide)]
    exact expandWhile_of_stuck (.inl ⟨rfl, by decide⟩)
  have hfar : Macros.expand [(['x'], .literal "late".toList), (['m'], .reference ['x'])]
      (.reference ['m']) = .literal "late".toList := by
    rw [expand_eq_expandWhile, expandWhile_of_free (by decide) rfl (by decide),
      expandWhile_of_free (by decide) rfl (by decide)]
    rfl
  rw [fieldBehind_eq, fieldBehind_eq, macros_quoting, hboth]
  simp only [quotingEntry, List.getElem?_cons_zero, Option.map_some, expandField, hnear, hfar]
  trivial

/-- What a macro stands for is not always fixed by its definition. -/
theorem not_fieldBehind_definition :
    ¬ ∀ (is js : List Item) (n : List Char) (v : Value) (e : Entry) (place : Nat) (f : Field),
      Undefined (nameOf n) js → e.fields[place]? = some f → f.value = .reference n →
      fieldBehind (is ++ .definition n v :: js) e place =
        fieldBehind (is ++ [.definition n v]) e place := by
  intro h
  have hsame := h [] [quoted "late"] ['m'] (.reference ['x']) quotingEntry 0 _
    (undefined_quoted "late") rfl rfl
  obtain ⟨hnear, hfar⟩ := fieldBehind_quoting
  have hne := (hfar.symm.trans hsame).trans hnear
  simp at hne

end Database
end Citation
