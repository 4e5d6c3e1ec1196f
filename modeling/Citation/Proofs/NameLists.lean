import Citation.Proofs.NameForms
import Citation.Proofs.PartedWords

/-! Lists of names. The names of a list are those that stand between the word `and`, each read as if
it stood alone, although the list is cut into words first and the words of a name are set in a row
again. -/
namespace Citation

/-! Cutting a list of words. -/

section
variable {α : Type} {cut : α → Bool}

theorem pieces_append_cons {ws : List α} (hws : ∀ w ∈ ws, cut w = false) {a : α}
    (ha : cut a = true) (us : List α) : pieces cut (ws ++ a :: us) = ws :: pieces cut us := by
  induction ws with
  | nil => simp [pieces, ha]
  | cons w ws ih =>
    obtain ⟨hw, hws⟩ := List.forall_mem_cons.1 hws
    simp [pieces, hw, ih hws, extendFirst]

theorem pieces_of_uncut {ws : List α} (hws : ∀ w ∈ ws, cut w = false) : pieces cut ws = [ws] := by
  induction ws with
  | nil => rfl
  | cons w ws ih =>
    obtain ⟨hw, hws⟩ := List.forall_mem_cons.1 hws
    simp [pieces, hw, ih hws, extendFirst]

end

namespace Person

/-- The word that parts the names of a list, in any case. -/
def IsAnd (w : List Char) : Prop := sameName "and".toList w = true

/-- A gap that parts two words: white space and ties, one character of these at least. -/
def IsSpace (gap : List Char) : Prop := gap ≠ [] ∧ ∀ c ∈ gap, isGap c = true

/-- A list of names as it is written, with the word `and` between two names. -/
inductive Listed : List (List Char) → List Char → Prop
  | none : Listed [] []
  | one (name : List Char) : Listed [name] name
  | more {name gap w gap' next s : List Char} {names : List (List Char)} (hgap : IsSpace gap)
      (hw : IsAnd w) (hgap' : IsSpace gap') (h : Listed (next :: names) s) :
      Listed (name :: next :: names) (name ++ (gap ++ (w ++ (gap' ++ s))))

/-- A name that can stand in a list: its braces are closed, and it has words, none of which parts
names. A word in braces, or one with an `and` in braces, does not. -/
structure IsListable (name : List Char) : Prop where
  closed : openBraces name = 0
  ne_nil : wordsOf name ≠ []
  apart : ∀ w ∈ wordsOf name, sameName "and".toList w = false

theorem isNameWord_of_isAnd {w : List Char} (h : IsAnd w) : IsNameWord w := by
  have hletters := forall_of_sameName
    (p := fun c => decide ((isGap c = false ∧ c ≠ ',') ∧ c ≠ '\x7b' ∧ c ≠ '\x7d'))
    (sameName_symm h) (by decide)
  refine ⟨?_, grouped_of_all fun c hc => of_decide_eq_true (hletters c hc)⟩
  rintro rfl
  cases h

theorem wordsOf_and {name gap w gap' : List Char} (hname : openBraces name = 0)
    (hgap : IsSpace gap) (hw : IsAnd w) (hgap' : IsSpace gap') (s : List Char) :
    wordsOf (name ++ (gap ++ (w ++ (gap' ++ s)))) = wordsOf name ++ w :: wordsOf s := by
  have hword := isNameWord_of_isAnd hw
  obtain ⟨c, gap, rfl⟩ := List.exists_cons_of_ne_nil hgap.1
  obtain ⟨d, gap', rfl⟩ := List.exists_cons_of_ne_nil hgap'.1
  obtain ⟨hc, hgap⟩ := List.forall_mem_cons.1 hgap.2
  obtain ⟨hd, hgap'⟩ := List.forall_mem_cons.1 hgap'.2
  rw [List.cons_append, List.cons_append, wordsOf_append_cons hname hc, wordsOf_gaps_append hgap,
    wordsOf_append_cons hword.grouped.openBraces_eq hd, wordsOf_gaps_append hgap',
    wordsOf_of_isNameWord hword, List.singleton_append]

/-- The words of a list are cut into those of its names. -/
theorem pieces_of_listed {names : List (List Char)} {s : List Char} (h : Listed names s)
    (hnames : ∀ name ∈ names, IsListable name) (hne : names ≠ []) :
    pieces (sameName "and".toList) (wordsOf s) = names.map wordsOf := by
  induction h with
  | none => exact absurd rfl hne
  | one name => exact pieces_of_uncut (hnames name (.head _)).apart
  | @more name gap w gap' next s names hgap hw hgap' _ ih =>
    obtain ⟨hname, hnames⟩ := List.forall_mem_cons.1 hnames
    rw [wordsOf_and hname.closed hgap hw hgap', pieces_append_cons hname.apart hw,
      ih hnames (List.cons_ne_nil _ _)]
    rfl

/-- A name that is set in a row again is the same name, also the one that closes an open list. -/
theorem ofListed_wordsOf {name : List Char} (h : openBraces name = 0) :
    ofListed (wordsOf name) = parse name := by
  have hrow := parse_intercalate_wordsOf h
  simp only [ofListed]
  split
  · next hothers =>
    have hparse : parse othersName = others := by decide +kernel
    rw [← hrow, hothers, hparse]
  · exact hrow

/-- The persons of a list are those of its names. -/
theorem parseList_listed {names : List (List Char)} {s : List Char} (h : Listed names s)
    (hnames : ∀ name ∈ names, IsListable name) : parseList s = names.map parse := by
  have hpieces : (pieces (sameName "and".toList) (wordsOf s)).filter (· ≠ []) =
      names.map wordsOf := by
    by_cases hne : names = []
    · subst hne
      cases h
      rfl
    · rw [pieces_of_listed h hnames hne, List.filter_eq_self]
      exact List.forall_mem_map.2 fun name hname => by simpa using (hnames name hname).ne_nil
  rw [parseList, hpieces, List.map_map]
  exact List.map_congr_left fun name hname => ofListed_wordsOf (hnames name hname).closed

/-- Braces that hide an `and` and a comma. -/
def noble : List Char := "\x7bBarnes and Noble, Inc.\x7d".toList

def beethoven : List Char := " van~Beethoven ,\tLudwig\n".toList

theorem isListable_names : ∀ name ∈ [noble, beethoven, othersName], IsListable name := by
  have hwords : ([noble, beethoven, othersName].all fun name => openBraces name = 0 ∧
      wordsOf name ≠ [] ∧ (wordsOf name).all fun w => sameName "and".toList w = false) = true := by
    decide +kernel
  intro name hname
  obtain ⟨hclosed, hne, hapart⟩ : openBraces name = 0 ∧ wordsOf name ≠ [] ∧
      ∀ w ∈ wordsOf name, sameName "and".toList w = false := by
    simpa using List.all_eq_true.1 hwords name hname
  exact ⟨hclosed, hne, hapart⟩

/-- An open list, with gaps of each kind around its names. -/
def openList : List Char :=
  noble ++ (" \n".toList ++ ("AnD".toList ++ ("~".toList ++
    (beethoven ++ (" ".toList ++ ("and".toList ++ ("\t".toList ++ othersName)))))))

theorem parseList_listed_enclosed :
    Listed [noble, beethoven, othersName] openList ∧
      (∀ name ∈ [noble, beethoven, othersName], IsListable name) ∧
      parseList openList = [parse noble, parse beethoven, parse othersName] := by
  have hspace (gap : List Char) (hne : gap ≠ []) (hgap : gap.all isGap = true) : IsSpace gap :=
    ⟨hne, by simpa using hgap⟩
  have hrest : Listed [beethoven, othersName]
      (beethoven ++ (" ".toList ++ ("and".toList ++ ("\t".toList ++ othersName)))) :=
    .more (hspace " ".toList (by decide) (by decide)) rfl
      (hspace "\t".toList (by decide) (by decide)) (.one othersName)
  have hlisted : Listed [noble, beethoven, othersName] openList :=
    .more (hspace " \n".toList (by decide) (by decide)) rfl
      (hspace "~".toList (by decide) (by decide)) hrest
  exact ⟨hlisted, isListable_names, parseList_listed hlisted isListable_names⟩

end Person
end Citation
