import Citation.Proofs.Enumerations

/-! The layout of a name. A name is a row of groups in the order of its style, each of them words
with ties between. One separator stands between two groups that show something, and none stands
beside a group that shows nothing. -/
namespace Citation

/-- The groups of words that a name has. -/
inductive NameGroup
  | given
  | particles
  | family
  | lineage
  deriving DecidableEq

/-- The words of a group, the given names as initials if they are to be. -/
def Person.words (p : Person) (initials : Bool) : NameGroup → List (List Char)
  | .given => if initials then p.given.map initialsOf else p.given
  | .particles => p.particles
  | .family => p.family
  | .lineage => p.lineage

/-- What a group shows: ties between the words that show something. -/
def Person.shows (p : Person) (initials : Bool) (g : NameGroup) : List Char :=
  [tie].intercalate (((p.words initials g).map Latex.plain).filter (· ≠ []))

/-- A tie behind fewer than three characters, and a space behind more. -/
def spaceAfter (s : List Char) : List Char := if s.length < 3 then [tie] else [' ']

/-- Characters with what goes behind them, if there are any. -/
def followed (s : List Char) : List Char := if s = [] then [] else s ++ spaceAfter s

/-- Characters with what goes in front of them, if there are any. -/
def preceded (before s : List Char) : List Char := if s = [] then [] else before ++ s

namespace NameStyle

def order : NameStyle → List NameGroup
  | .familyFirst => [.particles, .family, .lineage, .given]
  | .givenFirst => [.given, .particles, .family, .lineage]

/-- What stands in front of the lineage. -/
def lineageMark : NameStyle → List Char
  | .familyFirst => [' ']
  | .givenFirst => ", ".toList

/-- What parts a group from the characters `s` of the group in front of it. -/
def gap (style : NameStyle) (s : List Char) : NameGroup → List Char
  | .particles => spaceAfter s
  | .family => spaceAfter s
  | .lineage => style.lineageMark
  | .given => ", ".toList

/-- Groups in a row, given what each of them shows. -/
def row (style : NameStyle) (shown : NameGroup → List Char) : List NameGroup → List Char
  | [] => []
  | [g] => shown g
  | g :: h :: gs => shown g ++ style.gap (shown g) h ++ row style shown (h :: gs)

/-- The groups of a style that show something. -/
def shownGroups (style : NameStyle) (shown : NameGroup → List Char) : List NameGroup :=
  style.order.filter (shown · ≠ [])

/-- A name with each separator beside a group of its own, in front of it or behind it. -/
def spelled (style : NameStyle) (shown : NameGroup → List Char) : List Char :=
  match style with
  | .familyFirst =>
      followed (shown .particles) ++ shown .family ++ preceded [' '] (shown .lineage)
        ++ preceded ", ".toList (shown .given)
  | .givenFirst =>
      followed (shown .given) ++ followed (shown .particles) ++ shown .family
        ++ preceded ", ".toList (shown .lineage)

end NameStyle

/-! Groups. -/

namespace Text

theorem plain_chain_same (sep : List Char) (ts : List Text) :
    (chain sep sep ts).plain = sep.intercalate (ts.map plain) := by
  induction ts with
  | nil => rfl
  | cons t ts ih =>
    cases ts with
    | nil => simp [chain]
    | cons u us =>
      rw [chain_cons_cons, plain_append, plain_append, plain_ofChars, ih]
      simp only [List.map_cons, List.intercalate_cons_cons, List.append_assoc]

/-- Of normal texts those are left out that show nothing. -/
theorem map_plain_present {ts : List Text} (h : ∀ t ∈ ts, t.Normal) :
    (present ts).map plain = (ts.map plain).filter (· ≠ []) := by
  have hempty : ∀ t ∈ ts, (!t.isEmpty) = decide (t.plain ≠ []) := by
    intro t ht
    rw [Bool.eq_iff_iff, Bool.not_eq_true', Bool.eq_false_iff, decide_eq_true_iff, Ne, isEmpty_iff,
      Ne, (h t ht).plain_eq_nil_iff]
  rw [present, List.filter_congr hempty, List.filter_map]
  rfl

end Text

namespace NameStyle
open Text

theorem plain_group (ws : List (List Char)) :
    (group ws).plain = [tie].intercalate ((ws.map Latex.plain).filter (· ≠ [])) := by
  have hnormal : ∀ t ∈ ws.map ofLatex, t.Normal := by simpa using fun w _ => normal_ofLatex w
  have hjoin : group ws = chain [tie] [tie] (present (ws.map ofLatex)) :=
    Separators.uniform_join _
  rw [hjoin, plain_chain_same, map_plain_present hnormal, List.map_map]
  rfl

theorem plain_sticky {t : Text} (h : t.Normal) : (sticky t).plain = followed t.plain := by
  simp only [sticky, followed, Text.isEmpty_iff, h.plain_eq_nil_iff]
  split
  · rfl
  · rw [plain_append, plain_ofChars, spaceBehind, spaceAfter, length_eq, ← apply_ite (fun c => [c])]

theorem plain_behind {t : Text} (h : t.Normal) (before : String) :
    (behind before t).plain = preceded before.toList t.plain := by
  simp only [behind, preceded, Text.isEmpty_iff, h.plain_eq_nil_iff]
  split
  · rfl
  · rw [plain_append, plain_ofChars]

variable {style : NameStyle} {shown : NameGroup → List Char}

theorem plain_text {p : Person} (hothers : p.standsForOthers = false) (initials : Bool) :
    (style.text initials p).plain = style.spelled (p.shows initials) := by
  have hgiven : (group (if initials then p.given.map initialsOf else p.given)).plain =
      p.shows initials .given := plain_group _
  have hparticles : (group p.particles).plain = p.shows initials .particles := plain_group _
  have hfamily : (group p.family).plain = p.shows initials .family := plain_group _
  have hlineage : (group p.lineage).plain = p.shows initials .lineage := plain_group _
  rw [text, if_neg (by simp [hothers])]
  cases style with
  | familyFirst =>
    simp only [plain_append, plain_sticky (normal_group _), plain_behind (normal_group _), hgiven,
      hparticles, hfamily, hlineage]
    rfl
  | givenFirst =>
    simp only [plain_append, plain_sticky (normal_group _), plain_behind (normal_group _), hgiven,
      hparticles, hfamily, hlineage]
    rfl

/-! Rows. -/

/-- A group that its separator follows, in front of other groups. -/
theorem row_filter_followed {g h : NameGroup} {gs hs : List NameGroup}
    (hgs : gs.filter (shown · ≠ []) = h :: hs)
    (hgap : style.gap (shown g) h = spaceAfter (shown g)) :
    style.row shown ((g :: gs).filter (shown · ≠ [])) =
      followed (shown g) ++ style.row shown (gs.filter (shown · ≠ [])) := by
  by_cases hg : shown g = []
  · simp [followed, hg]
  · rw [List.filter_cons_of_pos (by simpa using hg), hgs, row, hgap, followed, if_neg hg]

/-- A group in front of groups that stand behind separators of their own. -/
theorem row_cons_filter {mark : NameGroup → List Char} {gs : List NameGroup}
    (hgap : ∀ g ∈ gs, ∀ s, style.gap s g = mark g) (f : NameGroup) :
    style.row shown (f :: gs.filter (shown · ≠ [])) =
      shown f ++ gs.flatMap fun g => preceded (mark g) (shown g) := by
  induction gs generalizing f with
  | nil => simp [row]
  | cons g gs ih =>
    obtain ⟨hmark, hgaps⟩ := List.forall_mem_cons.1 hgap
    by_cases hg : shown g = []
    · rw [List.filter_cons_of_neg (by simpa using hg), ih hgaps]
      simp [preceded, hg]
    · rw [List.filter_cons_of_pos (by simpa using hg), row, ih hgaps, hmark]
      simp [preceded, hg]

/-- If the family name shows something, separators beside the groups are separators between them. -/
theorem spelled_eq_row (hfamily : shown .family ≠ []) :
    style.spelled shown = style.row shown (style.shownGroups shown) := by
  have hpresent : ∀ gs, (NameGroup.family :: gs).filter (shown · ≠ []) =
      .family :: gs.filter (shown · ≠ []) :=
    fun gs => List.filter_cons_of_pos (by simpa using hfamily)
  cases style with
  | familyFirst =>
    have hmark : ∀ g ∈ [.lineage, .given], ∀ s, gap .familyFirst s g = gap .familyFirst [] g := by
      simp [gap]
    rw [shownGroups, order, row_filter_followed (hpresent _) rfl, hpresent,
      row_cons_filter hmark .family]
    simp [spelled, gap, lineageMark]
  | givenFirst =>
    have hmark : ∀ g ∈ [.lineage], ∀ s, gap .givenFirst s g = gap .givenFirst [] g := by
      simp [gap]
    have hparticles : gap .givenFirst (shown .particles) .family = spaceAfter (shown .particles) :=
      rfl
    have hgiven : ∃ h hs, (NameGroup.particles :: [.family, .lineage]).filter (shown · ≠ []) =
        h :: hs ∧ gap .givenFirst (shown .given) h = spaceAfter (shown .given) := by
      by_cases hnone : shown .particles = []
      · exact ⟨.family, _, by rw [List.filter_cons_of_neg (by simpa using hnone), hpresent], rfl⟩
      · exact ⟨.particles, _, List.filter_cons_of_pos (by simpa using hnone), rfl⟩
    obtain ⟨h, hs, hfilter, hgap⟩ := hgiven
    rw [shownGroups, order, row_filter_followed hfilter hgap,
      row_filter_followed (hpresent [.lineage]) hparticles, hpresent, row_cons_filter hmark .family]
    simp [spelled, gap, lineageMark]

theorem prefix_row {g : NameGroup} {gs : List NameGroup} (h : g ∈ gs.head?) :
    shown g <+: style.row shown gs := by
  match gs, h with
  | [_], rfl => exact List.prefix_rfl
  | _ :: _ :: _, rfl => exact (List.prefix_append _ _).trans (List.prefix_append _ _)

theorem suffix_row {g : NameGroup} {gs : List NameGroup} (h : g ∈ gs.getLast?) :
    shown g <:+ style.row shown gs := by
  induction gs with
  | nil => cases h
  | cons f gs ih =>
    cases gs with
    | nil =>
      obtain rfl : f = g := Option.some.inj h
      exact List.suffix_rfl
    | cons f' gs => exact (ih (by simpa using h)).trans (List.suffix_append _ _)

theorem intercalate_ne_nil {sep w : List Char} (hw : w ≠ []) {ws : List (List Char)} (h : w ∈ ws) :
    sep.intercalate ws ≠ [] := by
  induction ws with
  | nil => cases h
  | cons v vs ih =>
    cases vs with
    | nil =>
      obtain rfl : w = v := by simpa using h
      simpa using hw
    | cons u us =>
      rw [List.intercalate_cons_cons]
      rcases List.mem_cons.1 h with rfl | hrest
      · simp [hw]
      · simp [ih hrest]

/-- The family name shows something if one of its words does. -/
theorem shows_family_ne_nil {p : Person} {initials : Bool}
    (h : ∃ w ∈ p.family, Latex.plain w ≠ []) : p.shows initials .family ≠ [] := by
  obtain ⟨w, hw, hplain⟩ := h
  have hmem : Latex.plain w ∈ (p.family.map Latex.plain).filter (· ≠ []) :=
    List.mem_filter.2 ⟨List.mem_map_of_mem hw, by simpa using hplain⟩
  exact intercalate_ne_nil hplain hmem

/-- The name of a person whose family name shows something is the row of the groups that show
something, with a separator beside each group but the family name. It starts with the first of them
and ends with the last. -/
theorem text_row (style : NameStyle) (initials : Bool) {p : Person}
    (hothers : p.standsForOthers = false) (hfamily : ∃ w ∈ p.family, Latex.plain w ≠ []) :
    let shown := p.shows initials
    let name := (style.text initials p).plain
    name = style.spelled shown ∧ name = style.row shown (style.shownGroups shown) ∧
      (∀ g ∈ (style.shownGroups shown).head?, shown g <+: name) ∧
      (∀ g ∈ (style.shownGroups shown).getLast?, shown g <:+ name) := by
  intro shown name
  have hrow : name = style.row shown (style.shownGroups shown) :=
    (plain_text hothers initials).trans (spelled_eq_row (shows_family_ne_nil hfamily))
  exact ⟨plain_text hothers initials, hrow, fun g hg => hrow ▸ prefix_row hg,
    fun g hg => hrow ▸ suffix_row hg⟩

/-- A name with words that show nothing in its family name and its lineage. -/
def fontaine : Person where
  first := ["Jean-Paul".toList]
  middle := ["B".toList]
  particles := ["de".toList, "la".toList]
  family := ["\x7b\x7d".toList, "Fontaine".toList]
  lineage := ["\x7b\x7d".toList]

theorem text_row_fontaine :
    (fontaine.standsForOthers = false ∧ ∃ w ∈ fontaine.family, Latex.plain w ≠ []) ∧
      familyFirst.shownGroups (fontaine.shows true) = [.particles, .family, .given] ∧
      (text .familyFirst true fontaine).plain = "de\u00a0la Fontaine, J.-P.\u00a0B.".toList ∧
      (text .givenFirst true fontaine).plain = "J.-P.\u00a0B. de\u00a0la Fontaine".toList := by
  have hothers : fontaine.standsForOthers = false := by decide
  have hfamily : ∃ w ∈ fontaine.family, Latex.plain w ≠ [] :=
    ⟨"Fontaine".toList, by decide, by decide +kernel⟩
  obtain ⟨-, hfamilyFirst, -⟩ := text_row .familyFirst true hothers hfamily
  obtain ⟨-, hgivenFirst, -⟩ := text_row .givenFirst true hothers hfamily
  refine ⟨⟨hothers, hfamily⟩, by decide +kernel, ?_, ?_⟩
  · rw [hfamilyFirst]
    decide +kernel
  · rw [hgivenFirst]
    decide +kernel

end NameStyle
end Citation
