import Citation.Proofs.Substitution
import Mathlib.Data.Finset.Card

/-! Expansion as a run over a table of macros, which may refer to itself. A name is busy while its
definition is being expanded. Every run ends and leaves the busy names as it found them, its result
is what `Macros.expand` gives, and the references left in it are those that nothing could be put in
place of. -/
namespace Citation

namespace Value

/-- What the literals and the numbers in a list amount to. Other parts add nothing. -/
def joined : List Value → List Char
  | [] => []
  | .literal s :: vs => s ++ joined vs
  | .number n :: vs => decimal n ++ joined vs
  | .reference _ :: vs => joined vs
  | .concat _ :: vs => joined vs

/-- No concatenation is left but those that hold a reference. -/
inductive IsExpanded : Value → Prop
  | literal (s : List Char) : IsExpanded (.literal s)
  | number (n : Int) : IsExpanded (.number n)
  | reference (name : List Char) : IsExpanded (.reference name)
  | concat {parts : List Value} (hparts : ∀ v ∈ parts, IsExpanded v)
      (hopen : ∃ v ∈ parts, v.openReference ≠ none) : IsExpanded (.concat parts)

/-- Induction over a value and the parts of its concatenations. -/
theorem parts_induction {motive : Value → Prop} (literal : ∀ s, motive (.literal s))
    (number : ∀ n, motive (.number n)) (reference : ∀ name, motive (.reference name))
    (concat : ∀ parts, (∀ v ∈ parts, motive v) → motive (.concat parts)) (v : Value) : motive v :=
  @Value.rec motive (fun vs => ∀ v ∈ vs, motive v) literal number reference concat (by simp)
    (fun _ _ hv hvs => List.forall_mem_cons.2 ⟨hv, hvs⟩) v

theorem mem_referencesIn {name : List Char} {vs : List Value} :
    name ∈ referencesIn vs ↔ ∃ v ∈ vs, name ∈ v.references := by
  induction vs with
  | nil => simp [referencesIn]
  | cons v vs ih => simp [referencesIn, ih]

theorem openReferenceIn_ne_none_iff {vs : List Value} :
    openReferenceIn vs ≠ none ↔ ∃ v ∈ vs, v.openReference ≠ none := by
  induction vs with
  | nil => simp [openReferenceIn]
  | cons v vs ih => cases h : v.openReference <;> simp [openReferenceIn, h, ih]

/-- The text of a list is put together of the texts of all its parts. -/
theorem exists_texts {vs : List Value} {t : List Char} (h : textAll vs = some t) :
    ∃ ts : List (List Char), vs.map text = ts.map some ∧ t = ts.flatten := by
  induction vs generalizing t with
  | nil => exact ⟨[], rfl, (Option.some.inj h).symm⟩
  | cons v vs ih =>
    cases hv : v.text with
    | none => simp [textAll, hv] at h
    | some s =>
      cases hvs : textAll vs with
      | none => simp [textAll, hv, hvs] at h
      | some u =>
        obtain ⟨ts, hts, rfl⟩ := ih hvs
        refine ⟨s :: ts, by simp [hv, hts], ?_⟩
        simpa [textAll, hv, hvs] using h.symm

/-- Nothing is dropped from expanded parts without references. -/
theorem textAll_of_isExpanded {vs : List Value} (hvs : ∀ v ∈ vs, v.IsExpanded)
    (hclosed : ∀ v ∈ vs, v.openReference = none) : textAll vs = some (joined vs) := by
  induction vs with
  | nil => rfl
  | cons v vs ih =>
    obtain ⟨hv, hvs⟩ := List.forall_mem_cons.1 hvs
    obtain ⟨hopen, hclosed⟩ := List.forall_mem_cons.1 hclosed
    have htext := ih hvs hclosed
    cases hv with
    | literal s => simp only [textAll, text, htext, joined]
    | number n => simp only [textAll, text, htext, joined]
    | reference name => simp [openReference] at hopen
    | concat _ hparts => exact absurd hopen (openReferenceIn_ne_none_iff.2 hparts)

theorem flattened_of_open {vs : List Value} (h : ∃ v ∈ vs, v.openReference ≠ none) :
    flattened vs = .concat vs := by
  rw [flattened, (textAll_eq_none_iff vs).2 (openReferenceIn_ne_none_iff.2 h)]

theorem flattened_of_closed {vs : List Value} (hvs : ∀ v ∈ vs, v.IsExpanded)
    (hclosed : ∀ v ∈ vs, v.openReference = none) : flattened vs = .literal (joined vs) := by
  rw [flattened, textAll_of_isExpanded hvs hclosed]

theorem isExpanded_flattened {vs : List Value} (hvs : ∀ v ∈ vs, v.IsExpanded) :
    (flattened vs).IsExpanded := by
  by_cases hopen : ∃ v ∈ vs, v.openReference ≠ none
  · rw [flattened_of_open hopen]
    exact .concat hvs hopen
  · rw [flattened_of_closed hvs (by simpa using hopen)]
    exact .literal _

/-- Flattening leaves the references of the parts. -/
theorem references_flattened (vs : List Value) : (flattened vs).references = referencesIn vs := by
  cases h : textAll vs with
  | none => simp only [flattened, h, references]
  | some t =>
    have hopen : openReferenceIn vs = none := by
      by_contra hopen
      rw [(textAll_eq_none_iff vs).2 hopen] at h
      cases h
    rw [openReferenceIn_eq_head?, List.head?_eq_none_iff] at hopen
    simp only [flattened, h, references, hopen]

end Value

namespace Macros

/-! Runs. -/

mutual

/-- A run on a value, with the busy names before it, its result and the busy names behind it. -/
inductive Run (ms : Macros) :
    Finset (List Char) → Value → Value → Finset (List Char) → Prop
  | literal (busy : Finset (List Char)) (s : List Char) : Run ms busy (.literal s) (.literal s) busy
  | number (busy : Finset (List Char)) (n : Int) : Run ms busy (.number n) (.number n) busy
  | defined {busy busy' : Finset (List Char)} {name : List Char} {v w : Value}
      (hfind : ms.find name = some v) (hfree : nameOf name ∉ busy)
      (hrun : Run ms (insert (nameOf name) busy) v w busy') :
      Run ms busy (.reference name) w (busy'.erase (nameOf name))
  | circular {busy : Finset (List Char)} {name : List Char} {v : Value}
      (hfind : ms.find name = some v) (hbusy : nameOf name ∈ busy) :
      Run ms busy (.reference name) (.reference name) busy
  | month {busy : Finset (List Char)} {name month : List Char} (hfind : ms.find name = none)
      (hmonth : month? (nameOf name) = some month) :
      Run ms busy (.reference name) (.literal month) busy
  | undefined {busy : Finset (List Char)} {name : List Char} (hfind : ms.find name = none)
      (hmonth : month? (nameOf name) = none) :
      Run ms busy (.reference name) (.reference name) busy
  | kept {busy busy' : Finset (List Char)} {vs ws : List Value} (hrun : RunAll ms busy vs ws busy')
      (hopen : ∃ w ∈ ws, w.openReference ≠ none) : Run ms busy (.concat vs) (.concat ws) busy'
  | flattened {busy busy' : Finset (List Char)} {vs ws : List Value}
      (hrun : RunAll ms busy vs ws busy') (hclosed : ∀ w ∈ ws, w.openReference = none) :
      Run ms busy (.concat vs) (.literal (Value.joined ws)) busy'

/-- The runs on the parts of a list, one behind the other. -/
inductive RunAll (ms : Macros) :
    Finset (List Char) → List Value → List Value → Finset (List Char) → Prop
  | nil (busy : Finset (List Char)) : RunAll ms busy [] [] busy
  | cons {busy busy' busy'' : Finset (List Char)} {v w : Value} {vs ws : List Value}
      (hrun : Run ms busy v w busy') (hruns : RunAll ms busy' vs ws busy'') :
      RunAll ms busy (v :: vs) (w :: ws) busy''

end

/-- What a value expands to while some names are busy. -/
def expandWhile (ms : Macros) (busy : Finset (List Char)) (v : Value) : Value :=
  v.substitute (ms.meaning (ms.names.filter (· ∉ busy)))

theorem expand_eq_expandWhile (ms : Macros) (v : Value) : ms.expand v = ms.expandWhile ∅ v := by
  simp [expand, expandWhile]

/-- A reference that nothing can be put in place of: its name is neither defined nor a month, or
it is busy. -/
def Stuck (ms : Macros) (busy : Finset (List Char)) (name : List Char) : Prop :=
  (ms.find name = none ∧ month? (nameOf name) = none) ∨
    (ms.find name ≠ none ∧ nameOf name ∈ busy)

section
variable {ms : Macros} {busy : Finset (List Char)} {name : List Char}

theorem nameOf_mem_names {v : Value} (hfind : ms.find name = some v) : nameOf name ∈ ms.names :=
  List.mem_map.2 ⟨_, mem_of_find hfind, rfl⟩

/-- A reference leads to a definition, or to a month, or it is stuck. -/
theorem reference_cases (ms : Macros) (busy : Finset (List Char)) (name : List Char) :
    (∃ v, ms.find name = some v ∧ nameOf name ∉ busy) ∨
      (∃ month, ms.find name = none ∧ month? (nameOf name) = some month) ∨
      ms.Stuck busy name := by
  cases hfind : ms.find name with
  | some v =>
    by_cases hbusy : nameOf name ∈ busy
    · exact .inr (.inr (.inr ⟨by simp [hfind], hbusy⟩))
    · exact .inl ⟨v, rfl, hbusy⟩
  | none =>
    cases hmonth : month? (nameOf name) with
    | some month => exact .inr (.inl ⟨month, rfl, rfl⟩)
    | none => exact .inr (.inr (.inl ⟨hfind, hmonth⟩))

theorem expandWhile_concat (vs : List Value) :
    ms.expandWhile busy (.concat vs) = Value.flattened (vs.map (ms.expandWhile busy)) := by
  simp only [expandWhile, Value.substitute, Value.substituteAll_eq_map]
  rfl

theorem filter_free_insert (hms : ms.names.Nodup) (a : List Char) :
    ms.names.filter (· ∉ insert a busy) = (ms.names.filter (· ∉ busy)).erase a := by
  rw [(hms.filter _).erase_eq_filter, List.filter_filter]
  apply List.filter_congr
  intro b _
  by_cases hb : b = a <;> simp [hb]

/-- A reference to a free name stands for its definition, in which the name is busy. -/
theorem expandWhile_of_free (hms : ms.names.Nodup) {v : Value} (hfind : ms.find name = some v)
    (hfree : nameOf name ∉ busy) :
    ms.expandWhile busy (.reference name) = ms.expandWhile (insert (nameOf name) busy) v := by
  have hmem : nameOf name ∈ ms.names.filter (· ∉ busy) := by
    simp [nameOf_mem_names hfind, hfree]
  rw [expandWhile, Value.substitute, meaning]
  simp only [hfind, hmem, ↓reduceDIte, expandWhile, filter_free_insert hms]

theorem expandWhile_of_month {month : List Char} (hfind : ms.find name = none)
    (hmonth : month? (nameOf name) = some month) :
    ms.expandWhile busy (.reference name) = .literal month := by
  rw [expandWhile, Value.substitute, meaning]
  simp only [hfind, hmonth]

theorem expandWhile_of_stuck (h : ms.Stuck busy name) :
    ms.expandWhile busy (.reference name) = .reference name := by
  rw [expandWhile, Value.substitute, meaning]
  rcases h with ⟨hfind, hmonth⟩ | ⟨hfind, hbusy⟩
  · simp only [hfind, hmonth]
  · obtain ⟨v, hfind⟩ := Option.ne_none_iff_exists'.1 hfind
    simp [hfind, hbusy]

end

/-- Induction over an expansion: a reference to a free name leads to its definition, where one name
more is busy, and a concatenation to its parts. -/
theorem expansion_induction (ms : Macros) {motive : Finset (List Char) → Value → Prop}
    (literal : ∀ busy s, motive busy (.literal s)) (number : ∀ busy n, motive busy (.number n))
    (reference : ∀ busy name, (∀ v, ms.find name = some v → nameOf name ∉ busy →
      motive (insert (nameOf name) busy) v) → motive busy (.reference name))
    (concat : ∀ busy vs, (∀ v ∈ vs, motive busy v) → motive busy (.concat vs))
    (busy : Finset (List Char)) (v : Value) : motive busy v := by
  induction hfree : (ms.names.toFinset \ busy).card using Nat.strong_induction_on
    generalizing busy v with
  | _ free ih =>
    induction v using Value.parts_induction with
    | literal s => exact literal busy s
    | number n => exact number busy n
    | concat vs hvs => exact concat busy vs hvs
    | reference name =>
      refine reference busy name fun v hfind hbusy => ih _ ?_ _ v rfl
      have hmem : nameOf name ∈ ms.names.toFinset \ busy := by
        simp [nameOf_mem_names hfind, hbusy]
      rw [← hfree, Finset.sdiff_insert]
      exact Finset.card_erase_lt_of_mem hmem

section
variable {ms : Macros}

theorem runAll_iff {busy busy' : Finset (List Char)} {vs ws : List Value}
    (hvs : ∀ v ∈ vs, ∀ w busy',
      Run ms busy v w busy' ↔ w = ms.expandWhile busy v ∧ busy' = busy) :
    RunAll ms busy vs ws busy' ↔ ws = vs.map (ms.expandWhile busy) ∧ busy' = busy := by
  induction vs generalizing ws with
  | nil =>
    constructor
    · rintro ⟨⟩
      exact ⟨rfl, rfl⟩
    · rintro ⟨rfl, rfl⟩
      exact .nil busy'
  | cons v vs ih =>
    obtain ⟨hv, hvs⟩ := List.forall_mem_cons.1 hvs
    constructor
    · rintro (_ | ⟨hrun, hruns⟩)
      obtain ⟨rfl, rfl⟩ := (hv _ _).1 hrun
      obtain ⟨rfl, rfl⟩ := (ih hvs).1 hruns
      exact ⟨rfl, rfl⟩
    · rintro ⟨rfl, rfl⟩
      exact .cons ((hv _ _).2 ⟨rfl, rfl⟩) ((ih hvs).2 ⟨rfl, rfl⟩)

theorem isExpanded_expandWhile (hms : ms.names.Nodup) (busy : Finset (List Char)) (v : Value) :
    (ms.expandWhile busy v).IsExpanded := by
  induction busy, v using expansion_induction ms with
  | literal _ s => exact .literal s
  | number _ n => exact .number n
  | reference busy name ih =>
    obtain ⟨v, hfind, hfree⟩ | ⟨month, hfind, hmonth⟩ | hstuck := reference_cases ms busy name
    · rw [expandWhile_of_free hms hfind hfree]
      exact ih v hfind hfree
    · rw [expandWhile_of_month hfind hmonth]
      exact .literal month
    · rw [expandWhile_of_stuck hstuck]
      exact .reference name
  | concat busy vs ih =>
    rw [expandWhile_concat]
    exact Value.isExpanded_flattened (by simpa using ih)

/-- There is one run, and it gives back the busy names that it found. -/
theorem run_iff (hms : ms.names.Nodup) (busy : Finset (List Char)) (v : Value) :
    ∀ w busy', Run ms busy v w busy' ↔ w = ms.expandWhile busy v ∧ busy' = busy := by
  induction busy, v using expansion_induction ms with
  | literal busy s =>
    intro w busy'
    constructor
    · rintro ⟨⟩
      exact ⟨rfl, rfl⟩
    · rintro ⟨rfl, rfl⟩
      exact .literal busy' s
  | number busy n =>
    intro w busy'
    constructor
    · rintro ⟨⟩
      exact ⟨rfl, rfl⟩
    · rintro ⟨rfl, rfl⟩
      exact .number busy' n
  | reference busy name ih =>
    intro w busy'
    constructor
    · intro hrun
      cases hrun with
      | defined hfind hfree hrun =>
        obtain ⟨rfl, rfl⟩ := (ih _ hfind hfree _ _).1 hrun
        rw [expandWhile_of_free hms hfind hfree, Finset.erase_insert hfree]
        exact ⟨rfl, rfl⟩
      | circular hfind hbusy =>
        rw [expandWhile_of_stuck (.inr ⟨by simp [hfind], hbusy⟩)]
        exact ⟨rfl, rfl⟩
      | month hfind hmonth =>
        rw [expandWhile_of_month hfind hmonth]
        exact ⟨rfl, rfl⟩
      | undefined hfind hmonth =>
        rw [expandWhile_of_stuck (.inl ⟨hfind, hmonth⟩)]
        exact ⟨rfl, rfl⟩
    · rintro ⟨rfl, rfl⟩
      obtain ⟨v, hfind, hfree⟩ | ⟨month, hfind, hmonth⟩ | hstuck := reference_cases ms busy' name
      · have hrun := Run.defined hfind hfree ((ih v hfind hfree _ _).2 ⟨rfl, rfl⟩)
        rwa [← expandWhile_of_free hms hfind hfree, Finset.erase_insert hfree] at hrun
      · rw [expandWhile_of_month hfind hmonth]
        exact .month hfind hmonth
      · rw [expandWhile_of_stuck hstuck]
        rcases hstuck with ⟨hfind, hmonth⟩ | ⟨hfind, hbusy⟩
        · exact .undefined hfind hmonth
        · obtain ⟨v, hfind⟩ := Option.ne_none_iff_exists'.1 hfind
          exact .circular hfind hbusy
  | concat busy vs ih =>
    intro w busy'
    have hexpanded : ∀ w ∈ vs.map (ms.expandWhile busy), w.IsExpanded := by
      simpa using fun v _ => isExpanded_expandWhile hms busy v
    rw [expandWhile_concat]
    constructor
    · intro hrun
      cases hrun with
      | kept hrun hopen =>
        obtain ⟨rfl, rfl⟩ := (runAll_iff ih).1 hrun
        exact ⟨(Value.flattened_of_open hopen).symm, rfl⟩
      | flattened hrun hclosed =>
        obtain ⟨rfl, rfl⟩ := (runAll_iff ih).1 hrun
        exact ⟨(Value.flattened_of_closed hexpanded hclosed).symm, rfl⟩
    · rintro ⟨rfl, rfl⟩
      have hruns := (runAll_iff ih).2 ⟨rfl, rfl⟩
      by_cases hopen : ∃ w ∈ vs.map (ms.expandWhile busy'), w.openReference ≠ none
      · rw [Value.flattened_of_open hopen]
        exact .kept hruns hopen
      · have hclosed : ∀ w ∈ vs.map (ms.expandWhile busy'), w.openReference = none := by
          simpa using hopen
        rw [Value.flattened_of_closed hexpanded hclosed]
        exact .flattened hruns hclosed

end

/-! The references that a run meets. -/

/-- In the run on a value with some names busy, a reference is met with the given names busy. -/
inductive Meets (ms : Macros) :
    Finset (List Char) → Value → Finset (List Char) → List Char → Prop
  | here (busy : Finset (List Char)) (name : List Char) : Meets ms busy (.reference name) busy name
  | part {busy busy' : Finset (List Char)} {name : List Char} {v : Value} {vs : List Value}
      (hv : v ∈ vs) (h : Meets ms busy v busy' name) : Meets ms busy (.concat vs) busy' name
  | inside {busy busy' : Finset (List Char)} {name other : List Char} {v : Value}
      (hfind : ms.find other = some v) (hfree : nameOf other ∉ busy)
      (h : Meets ms (insert (nameOf other) busy) v busy' name) :
      Meets ms busy (.reference other) busy' name

section
variable {ms : Macros} {busy busy' : Finset (List Char)} {name : List Char}

theorem Stuck.mem_busy {v : Value} (h : ms.Stuck busy name) (hfind : ms.find name = some v) :
    nameOf name ∈ busy := by
  rcases h with ⟨hnone, -⟩ | ⟨-, hbusy⟩
  · rw [hfind] at hnone
    cases hnone
  · exact hbusy

theorem Stuck.month_eq_none (h : ms.Stuck busy name) (hfind : ms.find name = none) :
    month? (nameOf name) = none := by
  rcases h with ⟨-, hmonth⟩ | ⟨hne, -⟩
  · exact hmonth
  · exact absurd hfind hne

/-- The references in a result are those that are stuck where the run meets them. -/
theorem mem_references_expandWhile (hms : ms.names.Nodup) (busy : Finset (List Char)) (v : Value)
    (name : List Char) : name ∈ (ms.expandWhile busy v).references ↔
      ∃ busy', Meets ms busy v busy' name ∧ ms.Stuck busy' name := by
  induction busy, v using expansion_induction ms with
  | literal busy s =>
    constructor
    · rintro ⟨⟩
    · rintro ⟨busy', ⟨⟩, -⟩
  | number busy n =>
    constructor
    · rintro ⟨⟩
    · rintro ⟨busy', ⟨⟩, -⟩
  | reference busy other ih =>
    obtain ⟨v, hfind, hfree⟩ | ⟨month, hfind, hmonth⟩ | hstuck := reference_cases ms busy other
    · rw [expandWhile_of_free hms hfind hfree, ih v hfind hfree]
      constructor
      · rintro ⟨busy', hmeets, hstuck⟩
        exact ⟨busy', .inside hfind hfree hmeets, hstuck⟩
      · rintro ⟨busy', hmeets, hstuck⟩
        cases hmeets with
        | here => exact absurd (hstuck.mem_busy hfind) hfree
        | inside hfind' _ hmeets =>
          obtain rfl := Option.some.inj (hfind'.symm.trans hfind)
          exact ⟨busy', hmeets, hstuck⟩
    · rw [expandWhile_of_month hfind hmonth]
      constructor
      · rintro ⟨⟩
      · rintro ⟨busy', hmeets, hstuck⟩
        cases hmeets with
        | here => simp [hstuck.month_eq_none hfind] at hmonth
        | inside hfind' => simp [hfind] at hfind'
    · rw [expandWhile_of_stuck hstuck, Value.references, List.mem_singleton]
      constructor
      · rintro rfl
        exact ⟨busy, .here busy name, hstuck⟩
      · rintro ⟨busy', hmeets, -⟩
        cases hmeets with
        | here => rfl
        | inside hfind hfree => exact absurd (hstuck.mem_busy hfind) hfree
  | concat busy vs ih =>
    rw [expandWhile_concat, Value.references_flattened, Value.mem_referencesIn]
    constructor
    · intro h
      obtain ⟨v, hv, hname⟩ := by simpa using h
      obtain ⟨busy', hmeets, hstuck⟩ := (ih v hv).1 hname
      exact ⟨busy', .part hv hmeets, hstuck⟩
    · rintro ⟨busy', ⟨⟩ | ⟨hv, hmeets⟩, hstuck⟩
      exact ⟨_, List.mem_map_of_mem hv, (ih _ hv).2 ⟨busy', hmeets, hstuck⟩⟩

/-- A name that has become busy is met in its own definition. -/
theorem Meets.inside_definition {v : Value} (h : Meets ms busy v busy' name) {a : List Char}
    (ha : a ∈ busy') (hfree : a ∉ busy) :
    ∃ before first w, Meets ms busy v before first ∧ nameOf first = a ∧ ms.find first = some w ∧
      a ∉ before ∧ Meets ms (insert a before) w busy' name := by
  induction h with
  | here => exact absurd ha hfree
  | part hv _ ih =>
    obtain ⟨before, first, w, hmeets, hrest⟩ := ih ha hfree
    exact ⟨before, first, w, .part hv hmeets, hrest⟩
  | @inside busy busy' name other v hfind hother h ih =>
    by_cases hname : nameOf other = a
    · subst hname
      exact ⟨busy, other, v, .here busy other, rfl, hfind, hfree, h⟩
    · obtain ⟨before, first, w, hmeets, hrest⟩ := ih ha (by simp [hfree, Ne.symm hname])
      exact ⟨before, first, w, .inside hfind hother hmeets, hrest⟩

end

/-- While the definition of a name is being expanded, a reference to it is met again. -/
def MetAgain (ms : Macros) (busy : Finset (List Char)) (v : Value) (name : List Char) : Prop :=
  ∃ before first w busy', Meets ms busy v before first ∧ nameOf first = nameOf name ∧
    ms.find first = some w ∧ nameOf name ∉ before ∧
    Meets ms (insert (nameOf name) before) w busy' name

/-- What holds of the result of a run on a value. -/
structure Result (ms : Macros) (busy : Finset (List Char)) (v w : Value) : Prop where
  expanded : w.IsExpanded
  text : w.text.isSome ↔ w.openReference = none
  parts : ∀ vs, v = .concat vs → ∃ ws, List.Forall₂ (fun v w => Run ms busy v w busy) vs ws ∧
    ((w = .concat ws ∧ ∃ x ∈ ws, x.openReference ≠ none) ∨
      ∃ ts : List (List Char), ws.map Value.text = ts.map some ∧ w = .literal ts.flatten)
  left : ∀ name ∈ w.references, (ms.find name = none ∧ month? (nameOf name) = none) ∨
    nameOf name ∈ busy ∨ MetAgain ms busy v name

section
variable {ms : Macros}

theorem flattened_cases (vs : List Value) :
    (Value.flattened vs = .concat vs ∧ ∃ v ∈ vs, v.openReference ≠ none) ∨
      ∃ ts : List (List Char), vs.map Value.text = ts.map some ∧
        Value.flattened vs = .literal ts.flatten := by
  by_cases hopen : ∃ v ∈ vs, v.openReference ≠ none
  · exact .inl ⟨Value.flattened_of_open hopen, hopen⟩
  · have hsome : Value.textAll vs ≠ none := by
      rw [Ne, Value.textAll_eq_none_iff, Value.openReferenceIn_ne_none_iff]
      exact hopen
    obtain ⟨t, ht⟩ := Option.ne_none_iff_exists'.1 hsome
    obtain ⟨ts, hts, rfl⟩ := Value.exists_texts ht
    exact .inr ⟨ts, hts, by rw [Value.flattened, ht]⟩

theorem result_expandWhile (hms : ms.names.Nodup) (busy : Finset (List Char)) (v : Value) :
    Result ms busy v (ms.expandWhile busy v) where
  expanded := isExpanded_expandWhile hms busy v
  text := by
    rw [Option.isSome_iff_ne_none, Ne, Value.text_eq_none_iff, not_not]
  parts := by
    rintro vs rfl
    refine ⟨vs.map (ms.expandWhile busy), ?_, ?_⟩
    · rw [List.forall₂_map_right_iff, List.forall₂_same]
      exact fun v _ => (run_iff hms busy v _ _).2 ⟨rfl, rfl⟩
    · rw [expandWhile_concat]
      exact flattened_cases _
  left := by
    intro name hname
    obtain ⟨busy', hmeets, hundefined | ⟨-, hbusy⟩⟩ :=
      (mem_references_expandWhile hms busy v name).1 hname
    · exact .inl hundefined
    · by_cases hold : nameOf name ∈ busy
      · exact .inr (.inl hold)
      · obtain ⟨before, first, w, hfirst, hname, hfind, hfree, hagain⟩ :=
          hmeets.inside_definition hbusy hold
        exact .inr (.inr ⟨before, first, w, busy', hfirst, hname, hfind, hfree, hagain⟩)

/-- Over any table, whatever refers to itself in it, a run on a value ends in one way and with the
busy names that it found. Its result is flat, has a text exactly if no reference is left in it, is
put together of the results of all parts, and refers to what is undefined, busy, or met again in its
own definition. Expansion is the run in which no name is busy. -/
theorem run_ends (hms : ms.names.Nodup) (v : Value) :
    (∀ busy, ∃ w, (∀ w' busy', Run ms busy v w' busy' ↔ w' = w ∧ busy' = busy) ∧
      Result ms busy v w) ∧ Run ms ∅ v (ms.expand v) ∅ := by
  constructor
  · intro busy
    exact ⟨ms.expandWhile busy v, run_iff hms busy v, result_expandWhile hms busy v⟩
  · exact (run_iff hms ∅ v _ _).2 ⟨expand_eq_expandWhile ms v, rfl⟩

end

/-- Two macros that refer to each other. -/
def circle : Macros :=
  [(['a'], .concat [.reference ['b'], .literal ['x']]), (['b'], .reference ['A'])]

/-- One of them, twice side by side. -/
def sideBySide : Value := .concat [.reference ['a'], .reference ['a']]

theorem expand_sideBySide : circle.expand sideBySide =
    .concat [.concat [.reference ['A'], .literal ['x']],
      .concat [.reference ['A'], .literal ['x']]] := by
  have hbehind : (['b'] == ['a']) = false := rfl
  simp [expand, sideBySide, circle, names, Value.substitute, meaning, find, nameOf,
    List.lookup_cons, hbehind, Value.flattened, Value.textAll, Value.text]

theorem run_ends_circle :
    circle.names.Nodup ∧
      (∀ busy, ∃ w,
        (∀ w' busy', Run circle busy sideBySide w' busy' ↔ w' = w ∧ busy' = busy) ∧
        Result circle busy sideBySide w) ∧
      Run circle ∅ sideBySide (.concat [.concat [.reference ['A'], .literal ['x']],
        .concat [.reference ['A'], .literal ['x']]]) ∅ := by
  have hcircle : circle.names.Nodup := by decide
  obtain ⟨hends, hrun⟩ := run_ends hcircle sideBySide
  rw [expand_sideBySide] at hrun
  exact ⟨hcircle, hends, hrun⟩

end Macros

/-- A table that is made of definitions holds no name twice. -/
theorem Database.nodup_macroNames (is : List Item) : (ofItems is).macros.names.Nodup := by
  induction is using List.reverseRecOn with
  | nil => exact .nil
  | append_singleton is i ih =>
    rw [ofItems_append]
    cases i with
    | definition n v => exact Macros.nodup_names_define ih n _
    | _ => exact ih

end Citation
