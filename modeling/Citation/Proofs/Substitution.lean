import Citation.Database
import Citation.Proofs.RoundTrip
import Mathlib.Data.List.Forall2
import Mathlib.Data.List.Induction

/-! Expansion is substitution: what a database holds are the values of its source, with the text of
the latest earlier definition in place of each reference. -/
namespace Citation

namespace Value

mutual

/-- The names that a value refers to. -/
def references : Value → List (List Char)
  | .literal _ => []
  | .number _ => []
  | .reference name => [name]
  | .concat parts => referencesIn parts

def referencesIn : List Value → List (List Char)
  | [] => []
  | v :: vs => v.references ++ referencesIn vs

end

mutual

/-- The reference that is told of a value is its first. -/
theorem openReference_eq_head? : ∀ v : Value, v.openReference = v.references.head?
  | .literal _ => rfl
  | .number _ => rfl
  | .reference _ => rfl
  | .concat parts => openReferenceIn_eq_head? parts

theorem openReferenceIn_eq_head? :
    ∀ vs : List Value, openReferenceIn vs = (referencesIn vs).head?
  | [] => rfl
  | v :: vs => by
    rw [openReferenceIn, referencesIn, List.head?_append, openReference_eq_head? v,
      openReferenceIn_eq_head? vs]

end

mutual

/-- The text of a value, given the texts that its references stand for. -/
def textBy (f : List Char → Option (List Char)) : Value → Option (List Char)
  | .literal s => some s
  | .number n => some (decimal n)
  | .reference name => f name
  | .concat parts => textAllBy f parts

def textAllBy (f : List Char → Option (List Char)) : List Value → Option (List Char)
  | [] => some []
  | v :: vs => match v.textBy f, textAllBy f vs with
    | some s, some t => some (s ++ t)
    | _, _ => none

end

/-- A literal or a number with the given text. -/
def IsText (w : Value) (s : List Char) : Prop := w = .literal s ∨ ∃ n, w = .number n ∧ decimal n = s

theorem IsText.text {w : Value} {s : List Char} (h : w.IsText s) : w.text = some s := by
  obtain rfl | ⟨n, rfl, rfl⟩ := h <;> rfl

theorem IsText.substitute {w : Value} {s : List Char} (h : w.IsText s) (f : List Char → Value) :
    w.substitute f = w := by
  obtain rfl | ⟨n, rfl, -⟩ := h <;> rfl

section
variable {f : List Char → Option (List Char)} {g : List Char → Value}

mutual

/-- Substitution leaves a text if each reference has one. -/
theorem isText_substitute : ∀ v : Value,
    (∀ name ∈ v.references, ∃ t, f name = some t ∧ (g name).IsText t) →
      ∃ t, v.textBy f = some t ∧ (v.substitute g).IsText t
  | .literal s, _ => ⟨s, rfl, .inl rfl⟩
  | .number n, _ => ⟨decimal n, rfl, .inr ⟨n, rfl, rfl⟩⟩
  | .reference name, h => h name (by simp [references])
  | .concat parts, h => by
    obtain ⟨t, ht, hparts⟩ := textAll_substituteAll parts h
    exact ⟨t, ht, .inl (by simp only [substitute, flattened, hparts])⟩

theorem textAll_substituteAll : ∀ vs : List Value,
    (∀ name ∈ referencesIn vs, ∃ t, f name = some t ∧ (g name).IsText t) →
      ∃ t, textAllBy f vs = some t ∧ textAll (substituteAll g vs) = some t
  | [], _ => ⟨[], rfl, rfl⟩
  | v :: vs, h => by
    obtain ⟨s, hs, hv⟩ :=
      isText_substitute v fun name hname => h name (by simp [referencesIn, hname])
    obtain ⟨t, ht, hvs⟩ :=
      textAll_substituteAll vs fun name hname => h name (by simp [referencesIn, hname])
    exact ⟨s ++ t, by simp only [textAllBy, hs, ht],
      by simp only [substituteAll, textAll, hv.text, hvs]⟩

end

end

end Value

namespace Item

/-- The values in which an item may refer to macros. -/
def values : Item → List Value
  | .entry e => e.fields.map (·.value)
  | .definition _ v => [v]
  | .preamble v => [v]
  | .comment _ => []

/-- The name that an item defines, in lower case. -/
def defined? : Item → Option (List Char)
  | .definition n _ => some (Macros.nameOf n)
  | _ => none

def entry? : Item → Option Entry
  | .entry e => some e
  | _ => none

def preamble? : Item → Option Value
  | .preamble v => some v
  | _ => none

def comment? : Item → Option (List Char)
  | .comment s => some s
  | _ => none

/-- The items of a list, each with the items before it, the nearest first. -/
def situated (earlier : List Item) : List Item → List (List Item × Item)
  | [] => []
  | i :: is => (earlier, i) :: situated (i :: earlier) is

/-- The items of a kind in a list, each with all items before it, the nearest first. -/
def pick {α : Type} (kind : Item → Option α) (is : List Item) : List (List Item × α) :=
  (situated [] is).filterMap fun x => (kind x.2).map (x.1, ·)

theorem situated_append (earlier is : List Item) (i : Item) :
    situated earlier (is ++ [i]) = situated earlier is ++ [(is.reverse ++ earlier, i)] := by
  induction is generalizing earlier with
  | nil => rfl
  | cons j is ih => simp [situated, ih]

theorem pick_append_some {α : Type} (kind : Item → Option α) {i : Item} {a : α}
    (h : kind i = some a) (is : List Item) :
    pick kind (is ++ [i]) = pick kind is ++ [(is.reverse, a)] := by
  simp [pick, situated_append, h]

theorem pick_append_none {α : Type} (kind : Item → Option α) {i : Item} (h : kind i = none)
    (is : List Item) : pick kind (is ++ [i]) = pick kind is := by
  simp [pick, situated_append, h]

end Item

namespace Macros

/-- The text of a macro behind items, the nearest of which comes first: that of its latest
definition, as the items before this one have it, or else the month of that name. -/
def textBehind : List Item → List Char → Option (List Char)
  | [], name => month? (nameOf name)
  | .definition n v :: earlier, name =>
      if nameOf n = nameOf name then v.textBy (textBehind earlier) else textBehind earlier name
  | .entry _ :: earlier, name => textBehind earlier name
  | .preamble _ :: earlier, name => textBehind earlier name
  | .comment _ :: earlier, name => textBehind earlier name

/-- Defined before, or a month. -/
def Known (earlier : List Item) (name : List Char) : Prop :=
  (∃ i ∈ earlier, i.defined? = some (nameOf name)) ∨ ∃ m ∈ months, m.1.toList = nameOf name

instance (earlier : List Item) (name : List Char) : Decidable (Known earlier name) :=
  inferInstanceAs (Decidable (_ ∨ _))

/-- Each macro is defined, or a month, where an item refers to it. -/
def Grounded (is : List Item) : Prop :=
  ∀ x ∈ Item.situated [] is, ∀ v ∈ x.2.values, ∀ name ∈ v.references, Known x.1 name

instance : DecidablePred Grounded := fun is =>
  inferInstanceAs (Decidable (∀ x ∈ Item.situated [] is, _))

/-- A literal or a number in the place of a value, with the value's text behind items. -/
def Substituted (earlier : List Item) (v w : Value) : Prop :=
  ∃ t, v.textBy (textBehind earlier) = some t ∧ w.IsText t

/-- No item of a list defines the name. -/
def Undefined (name : List Char) (is : List Item) : Prop := ∀ i ∈ is, i.defined? ≠ some name

/-- A table of macros holds the latest definition of each name behind items, with its text. -/
structure Stores (earlier : List Item) (ms : Macros) : Prop where
  latest : ∀ m ∈ ms, ∃ later n v before, earlier = later ++ .definition n v :: before ∧
    nameOf n = m.1 ∧ Undefined m.1 later ∧ Substituted before v m.2
  all : ∀ i ∈ earlier, ∀ name, i.defined? = some name → name ∈ ms.names
  nodup : ms.names.Nodup

theorem textBehind_append {name : List Char} {later : List Item}
    (h : Undefined (nameOf name) later) (before : List Item) :
    textBehind (later ++ before) name = textBehind before name := by
  induction later with
  | nil => rfl
  | cons i later ih =>
    obtain ⟨hi, hlater⟩ := List.forall_mem_cons.1 h
    cases i with
    | definition n v =>
      rw [List.cons_append, textBehind, if_neg fun hn => hi (congrArg some hn), ih hlater]
    | _ => exact ih hlater

theorem textBehind_definition {n name : List Char} (h : nameOf n = nameOf name) (v : Value)
    (before : List Item) :
    textBehind (.definition n v :: before) name = v.textBy (textBehind before) := by
  rw [textBehind, if_pos h]

theorem textBehind_of_undefined {name : List Char} {earlier : List Item}
    (h : Undefined (nameOf name) earlier) : textBehind earlier name = month? (nameOf name) := by
  have happend := textBehind_append h []
  rwa [List.append_nil] at happend

theorem mem_of_find {ms : Macros} {name : List Char} {w : Value} (h : ms.find name = some w) :
    (nameOf name, w) ∈ ms := by
  induction ms with
  | nil => simp [find] at h
  | cons m ms ih =>
    obtain ⟨k, u⟩ := m
    by_cases hk : nameOf name = k
    · subst hk
      simp only [find, List.lookup_cons_self, Option.some.injEq] at h
      simp [h]
    · have hbeq : (nameOf name == k) = false := by simpa using hk
      simp only [find, List.lookup_cons, hbeq] at h
      exact .tail _ (ih h)

theorem find_eq_none {ms : Macros} {name : List Char} (h : ms.find name = none) :
    nameOf name ∉ ms.names := by
  intro hmem
  obtain ⟨m, hm, hname⟩ := List.mem_map.1 hmem
  exact bne_iff_ne.1 (by simpa using List.lookup_eq_none_iff.1 h m hm) hname.symm

/-- A known reference expands to its text behind the items that the table stores. -/
theorem Stores.meaning {earlier : List Item} {ms : Macros} (h : Stores earlier ms)
    {name : List Char} (hname : Known earlier name) :
    ∃ t, textBehind earlier name = some t ∧ (ms.meaning ms.names name).IsText t := by
  -- What the table holds is a text already: expansion under a name never reaches a second macro.
  cases hfind : ms.find name with
  | some w =>
    have hmem := mem_of_find hfind
    obtain ⟨later, n, v, before, rfl, hn, hlater, t, ht, hw⟩ := h.latest _ hmem
    refine ⟨t, by rw [textBehind_append hlater, textBehind_definition hn, ht], ?_⟩
    have hfree : nameOf name ∈ ms.names := List.mem_map.2 ⟨_, hmem, rfl⟩
    rw [Macros.meaning]
    simp only [hfind, hfree, dite_true, hw.substitute]
    exact hw
  | none =>
    have hnone := find_eq_none hfind
    have hundefined : Undefined (nameOf name) earlier :=
      fun i hi hdefined => hnone (h.all i hi _ hdefined)
    obtain ⟨i, hi, hdefined⟩ | ⟨m, hmem, hm⟩ := hname
    · exact absurd hdefined (hundefined i hi)
    · have hmonth : (month? (nameOf name)).isSome := by
        rw [month?, Option.isSome_map, List.find?_isSome]
        exact ⟨m, hmem, by simpa using hm⟩
      obtain ⟨t, ht⟩ := Option.isSome_iff_exists.1 hmonth
      refine ⟨t, by rw [textBehind_of_undefined hundefined, ht], ?_⟩
      rw [Macros.meaning]
      simp only [hfind, ht]
      exact .inl rfl

theorem Stores.expand {earlier : List Item} {ms : Macros} (h : Stores earlier ms) {v : Value}
    (hv : ∀ name ∈ v.references, Known earlier name) : Substituted earlier v (ms.expand v) :=
  Value.isText_substitute v fun name hname => h.meaning (hv name hname)

theorem nodup_names_define {ms : Macros} (h : ms.names.Nodup) (n : List Char) (w : Value) :
    (ms.define n w).names.Nodup := by
  simp only [Macros.define, names, List.map_cons, List.nodup_cons]
  refine ⟨by simp, ?_⟩
  exact h.sublist (List.filter_sublist.map _)

theorem stores_nil : Stores [] [] where
  latest := by simp
  all := by simp
  nodup := .nil

/-- An item that defines nothing leaves the table as it is. -/
theorem Stores.cons {earlier : List Item} {ms : Macros} (h : Stores earlier ms) {i : Item}
    (hi : i.defined? = none) : Stores (i :: earlier) ms where
  latest := by
    intro m hm
    obtain ⟨later, n, v, before, rfl, hn, hlater, hw⟩ := h.latest m hm
    refine ⟨i :: later, n, v, before, rfl, hn, ?_, hw⟩
    exact List.forall_mem_cons.2 ⟨by simp [hi], hlater⟩
  all := List.forall_mem_cons.2 ⟨by simp [hi], h.all⟩
  nodup := h.nodup

theorem Stores.define {earlier : List Item} {ms : Macros} (h : Stores earlier ms) {n : List Char}
    {v w : Value} (hw : Substituted earlier v w) :
    Stores (.definition n v :: earlier) (ms.define n w) where
  latest := by
    intro m hm
    rcases List.mem_cons.1 hm with rfl | hm
    · exact ⟨[], n, v, earlier, rfl, rfl, by simp [Undefined], hw⟩
    · obtain ⟨hm, hne⟩ := by simpa using hm
      obtain ⟨later, n', v', before, rfl, hn', hlater, hw'⟩ := h.latest m hm
      refine ⟨.definition n v :: later, n', v', before, rfl, hn', ?_, hw'⟩
      exact List.forall_mem_cons.2 ⟨fun hn => hne (Option.some.inj hn).symm, hlater⟩
  all := by
    refine List.forall_mem_cons.2 ⟨by simp [Item.defined?, Macros.define, names], ?_⟩
    intro i hi name hname
    by_cases hn : name = nameOf n
    · simp [Macros.define, names, hn]
    · obtain ⟨m, hm, rfl⟩ := List.mem_map.1 (h.all i hi name hname)
      simp only [Macros.define, names, List.map_cons, List.mem_cons, List.mem_map, List.mem_filter]
      exact .inr ⟨m, ⟨hm, by simpa using hn⟩, rfl⟩
  nodup := nodup_names_define h.nodup n w

end Macros

namespace Database
open Macros

/-- An entry with its values substituted and with nothing else changed. -/
def SubstitutedEntry (earlier : List Item) (e e' : Entry) : Prop :=
  e'.type = e.type ∧ e'.key = e.key ∧
    List.Forall₂ (fun f f' => f'.name = f.name ∧ Substituted earlier f.value f'.value)
      e.fields e'.fields

/-- A database holds what the items of a list say, in their order. -/
structure Expands (is : List Item) (db : Database) : Prop where
  entries : List.Forall₂ (fun x e => SubstitutedEntry x.1 x.2 e) (Item.pick Item.entry? is)
    db.entries
  macros : Stores is.reverse db.macros
  preambles : List.Forall₂ (fun x w => Substituted x.1 x.2 w) (Item.pick Item.preamble? is)
    db.preambles
  comments : db.comments = is.filterMap Item.comment?

theorem Expands.expandEntry {is : List Item} {db : Database} (h : Expands is db) {e : Entry}
    (he : ∀ v ∈ (Item.entry e).values, ∀ name ∈ v.references, Known is.reverse name) :
    SubstitutedEntry is.reverse e (expandEntry db.macros e) := by
  refine ⟨rfl, rfl, ?_⟩
  rw [Database.expandEntry, List.forall₂_map_right_iff, List.forall₂_same]
  intro f hf
  exact ⟨rfl, h.macros.expand (he f.value (List.mem_map.2 ⟨f, hf, rfl⟩))⟩

/-- The next item is taken in as its references are defined so far. -/
theorem Expands.addItem {is : List Item} {db : Database} (h : Expands is db) {i : Item}
    (hi : ∀ v ∈ i.values, ∀ name ∈ v.references, Known is.reverse name) :
    Expands (is ++ [i]) (db.addItem i) where
  entries := by
    cases i with
    | entry e =>
      rw [Item.pick_append_some Item.entry? rfl]
      exact List.rel_append h.entries (.cons (h.expandEntry hi) .nil)
    | _ =>
      rw [Item.pick_append_none Item.entry? rfl]
      exact h.entries
  macros := by
    rw [List.reverse_append]
    cases i with
    | definition n v => exact h.macros.define (h.macros.expand (hi v (.head _)))
    | _ => exact h.macros.cons rfl
  preambles := by
    cases i with
    | preamble v =>
      rw [Item.pick_append_some Item.preamble? rfl]
      exact List.rel_append h.preambles (.cons (h.macros.expand (hi v (.head _))) .nil)
    | _ =>
      rw [Item.pick_append_none Item.preamble? rfl]
      exact h.preambles
  comments := by
    rw [List.filterMap_append, ← h.comments]
    cases i with
    | comment s => rfl
    | _ => exact (List.append_nil _).symm

theorem expands_ofItems {is : List Item} (h : Grounded is) : Expands is (ofItems is) := by
  induction is using List.reverseRecOn with
  | nil => exact ⟨.nil, stores_nil, .nil, rfl⟩
  | append_singleton is i ih =>
    have hmem : ∀ x ∈ Item.situated [] is ++ [(is.reverse, i)],
        ∀ v ∈ x.2.values, ∀ name ∈ v.references, Known x.1 name := by
      simpa [Grounded, Item.situated_append] using h
    rw [ofItems_append]
    apply Expands.addItem
    · exact ih fun x hx => hmem x (List.mem_append_left _ hx)
    · exact hmem (is.reverse, i) (by simp)

/-- Whether it is kept as a number or as text, a number prints as the source has it. -/
theorem text_numberValue (d : List Char) : (Source.numberValue d).text = some d := by
  unfold Source.numberValue
  simp only
  split
  · next h => exact congrArg some h.2.2
  · rfl

/-- A source in which each macro is defined before its use becomes a database of texts, and the
text of a number is the one in the source. -/
theorem parse_expands {s : List Char} {is : List Item} (hs : Source.parse s = .ok is)
    (h : Grounded is) :
    (∃ db, Database.parse s = .ok db ∧ Expands is db) ∧
      ∀ d, (Source.numberValue d).text = some d := by
  refine ⟨⟨ofItems is, ?_, expands_ofItems h⟩, text_numberValue⟩
  rw [Database.parse, hs]
  rfl

section
open Source

/-- A macro that is defined anew by itself, and a month in capitals. -/
def redefined : List Item :=
  [.definition "a".toList (.literal "x".toList),
    .definition "A".toList (.concat [.reference "a".toList, .number 1]),
    .entry ⟨.misc, "k".toList,
      [⟨"note".toList, .concat [.reference "a".toList, .reference "JAN".toList]⟩]⟩]

def redefinedSource : List Char := "@string{a={x}}@string{A=a#1}@misc{k,note=a# JAN}".toList

theorem items_redefined : Source.parse redefinedSource = .ok redefined := by
  have hblank : IsSpacing [' '] := List.forall_mem_singleton.2 rfl
  have hself : ∀ w, IsKeyword w w := fun w => by simp [IsKeyword, sameName]
  have hwritten : Written redefined _ :=
    .cons isSpacing_nil
      (.definition isSpacing_nil (hself _) isSpacing_nil .braces isSpacing_nil
        (.mk isSpacing_nil isSpacing_nil (.one _)) isSpacing_nil)
      (.cons isSpacing_nil
        (.definition isSpacing_nil (hself _) isSpacing_nil .braces isSpacing_nil
          (.mk isSpacing_nil isSpacing_nil (.more isSpacing_nil isSpacing_nil (.one _)))
          isSpacing_nil)
        (.cons isSpacing_nil
          (.entry isSpacing_nil
            (@WrittenEntry.mk _ "misc".toList _ _ _ _ _ _ ⟨by decide, by decide⟩ isSpacing_nil
              .braces isSpacing_nil isSpacing_nil
              (.fields (.last isSpacing_nil isSpacing_nil
                (.mk isSpacing_nil isSpacing_nil
                  (.more isSpacing_nil hblank (.one _)))))))
          (.nil isSpacing_nil)))
  have hitems := items_of_written hwritten (by decide) redefinedSource (by decide)
  rw [Source.parse, hitems]

theorem parse_expands_redefined :
    Source.parse redefinedSource = .ok redefined ∧ Grounded redefined ∧
      (∃ db, Database.parse redefinedSource = .ok db ∧ Expands redefined db) ∧
      ∀ d, (Source.numberValue d).text = some d := by
  have hgrounded : Grounded redefined := by decide
  exact ⟨items_redefined, hgrounded, parse_expands items_redefined hgrounded⟩

example : (Value.concat [.reference "a".toList, .reference "JAN".toList]).textBy
    (textBehind (redefined.take 2).reverse) = some "x1January".toList := by decide

end

end Database

end Citation
