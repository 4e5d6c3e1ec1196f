import Citation.Proofs.Origins
import Citation.Proofs.Words

/-! Dashes in ranges of numbers. Each run of hyphens becomes one en dash, and markup makes neither a
hyphen nor an em dash of what is left, but for the command that names an em dash. -/
namespace Citation

/-- Runs of hyphens, each as long as it goes on, become en dashes; all else stays in order. -/
inductive Dashed : List Char → List Char → Prop
  | nil : Dashed [] []
  | run (n : Nat) {s t : List Char} (hs : s.head? ≠ some '-') (h : Dashed s t) :
      Dashed (List.replicate (n + 1) '-' ++ s) (enDash :: t)
  | other {c : Char} (hc : c ≠ '-') {s t : List Char} (h : Dashed s t) : Dashed (c :: s) (c :: t)

theorem enDashesAfter_hyphens (n : Nat) {s : List Char} (hs : s.head? ≠ some '-') :
    enDashesAfter true (List.replicate n '-' ++ s) = enDashes s := by
  induction n with
  | zero =>
    cases s with
    | nil => rfl
    | cons c s =>
      have hc : c ≠ '-' := by simpa using hs
      simp [enDashes, enDashesAfter, hc]
  | succ n ih => simpa [List.replicate_succ, enDashesAfter] using ih

/-- What follows the hyphens at the start of a text is dashed as on its own. -/
theorem exists_dashed (s : List Char) : Dashed s (enDashes s) ∧
    ∃ n r, s = List.replicate n '-' ++ r ∧ r.head? ≠ some '-' ∧
      Dashed r (enDashesAfter true s) := by
  induction s with
  | nil => exact ⟨.nil, 0, [], rfl, by simp, .nil⟩
  | cons c s ih =>
    obtain ⟨hs, n, r, hsplit, hr, hbehind⟩ := ih
    by_cases hc : c = '-'
    · subst hc
      have hrun : '-' :: s = List.replicate (n + 1) '-' ++ r := by
        rw [List.replicate_succ, List.cons_append, ← hsplit]
      refine ⟨?_, n + 1, r, hrun, hr, by simpa [enDashesAfter] using hbehind⟩
      rw [hrun]
      simpa [enDashes, enDashesAfter, List.replicate_succ, ← hsplit] using Dashed.run n hr hbehind
    · refine ⟨?_, 0, c :: s, rfl, by simpa using hc, ?_⟩
      · simpa [enDashes, enDashesAfter, hc] using Dashed.other hc hs
      · simpa [enDashes, enDashesAfter, hc] using Dashed.other hc hs

theorem dashed_iff {s t : List Char} : Dashed s t ↔ enDashes s = t := by
  constructor
  · intro h
    induction h with
    | nil => rfl
    | run n hs _ ih =>
      rw [List.replicate_succ, List.cons_append, enDashes, enDashesAfter, if_pos rfl]
      simp [enDashesAfter_hyphens n hs, ih]
    | other hc _ ih => simpa [enDashes, enDashesAfter, hc] using ih
  · rintro rfl
    exact (exists_dashed s).1

theorem hyphen_notMem_enDashesAfter (inRun : Bool) (s : List Char) :
    '-' ∉ enDashesAfter inRun s := by
  induction s generalizing inRun with
  | nil => simp [enDashesAfter]
  | cons c s ih =>
    unfold enDashesAfter
    split_ifs with hc
    · exact ih true
    · simp [enDash, ih true]
    · simp [Ne.symm hc, ih false]

theorem mem_of_mem_enDashesAfter {inRun : Bool} {d : Char} (hd : d ≠ enDash) {s : List Char}
    (h : d ∈ enDashesAfter inRun s) : d ∈ s := by
  induction s generalizing inRun with
  | nil => cases h
  | cons c s ih =>
    unfold enDashesAfter at h
    split_ifs at h
    · exact List.mem_cons_of_mem c (ih h)
    · exact List.mem_cons_of_mem c (ih ((List.mem_cons.1 h).resolve_left hd))
    · rcases List.mem_cons.1 h with rfl | hs
      · exact List.mem_cons_self
      · exact List.mem_cons_of_mem c (ih hs)

/-- What stands in the text without an en dash stood there before. -/
theorem prefix_of_prefix_enDashes {w s : List Char} (hw : enDash ∉ w) (h : w <+: enDashes s) :
    w <+: s := by
  induction s generalizing w with
  | nil => exact h
  | cons c s ih =>
    cases w with
    | nil => exact List.nil_prefix
    | cons d w =>
      obtain ⟨hd, hw⟩ : enDash ≠ d ∧ enDash ∉ w := by simpa using hw
      by_cases hc : c = '-'
      · simp only [enDashes, enDashesAfter, hc, ↓reduceIte, Bool.false_eq_true] at h
        exact absurd (List.cons_prefix_cons.1 h).1 (Ne.symm hd)
      · simp only [enDashes, enDashesAfter, hc, ↓reduceIte] at h
        obtain ⟨rfl, hrest⟩ := List.cons_prefix_cons.1 h
        exact List.cons_prefix_cons.2 ⟨rfl, ih hw hrest⟩

theorem infix_of_infix_enDashesAfter {inRun : Bool} {w s : List Char} (hw : enDash ∉ w)
    (h : w <:+: enDashesAfter inRun s) : w <:+: s := by
  induction s generalizing inRun with
  | nil => exact h
  | cons c s ih =>
    have hbehind : w <:+: s → w <:+: c :: s := fun hs => hs.trans (List.suffix_cons c s).isInfix
    unfold enDashesAfter at h
    split_ifs at h
    · exact hbehind (ih h)
    · rcases List.infix_cons_iff.1 h with hfront | hrest
      · cases w with
        | nil => exact List.nil_infix
        | cons d w =>
          obtain rfl := (List.cons_prefix_cons.1 hfront).1
          exact absurd List.mem_cons_self hw
      · exact hbehind (ih hrest)
    · next hc =>
      rcases List.infix_cons_iff.1 h with hfront | hrest
      · refine (prefix_of_prefix_enDashes hw ?_).isInfix
        simpa [enDashes, enDashesAfter, hc] using hfront
      · exact hbehind (ih hrest)

/-! Decoding. -/

namespace Latex
open Unicode

/-- The dashes that a range of numbers is not written with. -/
def otherDashes : List Char := ['-', emDash]

variable {d : Char}

/-- No character that the decoder puts into a text of its own accord is one of these dashes, and
none is composed to one. -/
theorem of_mem_otherDashes (hd : d ∈ otherDashes) :
    Unmade d ∧ ¬ IsAccentMark d ∧ d ≠ ' ' ∧ d ≠ tie ∧ d ≠ 'i' ∧ d ≠ 'j' := by
  have hall : (otherDashes.all fun d => decide (Unmade d ∧ ¬ IsAccentMark d ∧
      d ≠ ' ' ∧ d ≠ tie ∧ d ≠ 'i' ∧ d ≠ 'j')) = true := by decide
  exact of_decide_eq_true (List.all_eq_true.1 hall d hd)

theorem command_of_dash {name : List Char} {sym : String} (h : command? name = some (.symbol sym))
    (hd : d ∈ otherDashes) (hmem : d ∈ sym.toList) : d = emDash ∧ name = "textemdash".toList := by
  have hall : (commands.all fun c => match c.2 with
      | .symbol sym => otherDashes.all fun d =>
        !sym.toList.contains d || decide (d = emDash ∧ c.1 = "textemdash")
      | _ => true) = true := by decide +kernel
  obtain ⟨s, rfl, hcommand⟩ := mem_commands h
  have hsym := List.all_eq_true.1 (List.all_eq_true.1 hall _ hcommand) d hd
  simp only [List.contains_eq_mem, hmem, decide_true, Bool.not_true, Bool.false_or,
    decide_eq_true_eq] at hsym
  exact ⟨hsym.1, hsym.2 ▸ rfl⟩

theorem dash_mem_lexeme {c : Char} {s : List Char} {t : Token} (hd : d ∈ otherDashes)
    (hc : c ≠ '-') (h : (lexeme c s).1 = .token t) (hmem : d ∈ t.written) :
    d ∈ c :: s ∨ d = emDash ∧ Meets "textemdash".toList (c :: s) := by
  obtain ⟨-, -, hnospace, hnotie, -, -⟩ := of_mem_otherDashes hd
  rcases mem_written_lexeme h hmem with hs | hspace | htie | hhyphen | ⟨rfl, sym, hsym, hmem⟩
  · exact .inl hs
  · exact absurd hspace hnospace
  · exact absurd htie hnotie
  · exact absurd hhyphen hc
  · obtain ⟨rfl, hname⟩ := command_of_dash hsym hd hmem
    exact .inr ⟨rfl, .here hname⟩

theorem dash_mem_accented {c mark : Char} {s raw t : List Char} (hd : d ∈ otherDashes)
    (h : (lexeme c s).1 = .accent mark raw) (hmem : d ∈ accented mark t) : d ∈ t := by
  obtain ⟨hunmade, hnomark, -, -, hi, hj⟩ := of_mem_otherDashes hd
  have hmark : d ≠ mark := by
    rintro rfl
    exact hnomark (isAccentMark_of_lexeme h)
  exact mem_of_mem_accented hunmade hmark hi hj hmem

/-- Without hyphens in its source, a text has a hyphen or an em dash from the source only, or an em
dash that a command names. -/
theorem dash_mem_tokens (hd : d ∈ otherDashes) {s : List Char} (hs : '-' ∉ s) {t : Token}
    (ht : t ∈ tokens s) (hmem : d ∈ t.written) :
    d ∈ s ∨ d = emDash ∧ Meets "textemdash".toList s := by
  have hspace : d ≠ ' ' := (of_mem_otherDashes hd).2.2.1
  fun_induction tokens s generalizing t with
  | case1 => cases ht
  | case2 c s _ t' hlexeme ih =>
    have hrest : (lexeme c s).2 ⊆ c :: s :=
      ((lexeme_suffix c s).trans (List.suffix_cons c s)).subset
    rcases List.mem_cons.1 ht with rfl | ht
    · have hc : c ≠ '-' := by
        rintro rfl
        exact hs List.mem_cons_self
      exact dash_mem_lexeme hd hc hlexeme hmem
    · rcases ih (mt (@hrest '-') hs) ht hmem with hmem | ⟨rfl, hmeets⟩
      · exact .inl (hrest hmem)
      · exact .inr ⟨rfl, .behind hmeets⟩
  | case3 c s _ mark raw hlexeme _ ihraw ih =>
    have hrest : (lexeme c s).2 ⊆ c :: s :=
      ((lexeme_suffix c s).trans (List.suffix_cons c s)).subset
    have hraw : raw ⊆ c :: s :=
      ((argument_of_lexeme hlexeme).trans (List.suffix_cons c s).isInfix).subset
    rcases List.mem_cons.1 ht with rfl | ht
    · have hplain : d ∈ (Text.ofLatex raw).plain := dash_mem_accented hd hlexeme hmem
      obtain ⟨t, ht, hmem⟩ :=
        Text.exists_token_of_mem_written hspace (Text.plain_subset_written _ hplain)
      rcases ihraw (mt (@hraw '-') hs) ht hmem with hmem | ⟨rfl, hmeets⟩
      · exact .inl (hraw hmem)
      · exact .inr ⟨rfl, .argument hlexeme hmeets⟩
    · rcases ih (mt (@hrest '-') hs) ht hmem with hmem | ⟨rfl, hmeets⟩
      · exact .inl (hrest hmem)
      · exact .inr ⟨rfl, .behind hmeets⟩

theorem dash_mem_written (hd : d ∈ otherDashes) {s : List Char} (hs : '-' ∉ s)
    (h : d ∈ (Text.ofLatex s).written) : d ∈ s ∨ d = emDash ∧ Meets "textemdash".toList s := by
  have hspace : d ≠ ' ' := (of_mem_otherDashes hd).2.2.1
  obtain ⟨t, ht, hmem⟩ := Text.exists_token_of_mem_written hspace h
  exact dash_mem_tokens hd hs ht hmem

end Latex

/-! Page ranges. -/

section
open Latex

theorem trim_stretch (s : List Char) : trim s <:+: s := by
  obtain ⟨l, r, -, -, hsplit⟩ := exists_trim s
  exact ⟨l, r, by rw [List.append_assoc, ← hsplit]⟩

/-- Each run of hyphens becomes one en dash. The pages of an entry are decoded from its field with
en dashes, and have no hyphen, and an em dash only if the field has one or a command that the
decoder comes to names one. -/
theorem pages_dashed :
    (∀ s t, Dashed s t ↔ enDashes s = t) ∧
    ∀ (person : Person → Text) e s, e.text "pages".toList = some s →
      ∃ t, Template.pages.text person e = .ok t ∧ t = .ofLatex (enDashes (trim s)) ∧
        '-' ∉ t.written ∧ (emDash ∈ t.written → emDash ∈ s ∨
          Meets "textemdash".toList (enDashes (trim s)) ∧ "\\textemdash".toList <:+: s) := by
  refine ⟨fun s t => dashed_iff, fun person e s htext => ?_⟩
  have hhyphen : '-' ∉ enDashes (trim s) := hyphen_notMem_enDashesAfter false _
  refine ⟨.ofLatex (enDashes (trim s)), ?_, rfl, fun h => ?_, fun h => ?_⟩
  · have hneed : e.need "pages".toList = .ok (trim s) := by rw [Entry.need, htext]
    rw [Template.pages, Part.text, hneed]
    rfl
  · rcases dash_mem_written (by decide) hhyphen h with hmem | ⟨hdash, -⟩
    · exact hhyphen hmem
    · exact absurd hdash (by decide)
  · rcases dash_mem_written (by decide) hhyphen h with hmem | ⟨-, hmeets⟩
    · exact .inl ((trim_stretch s).subset (mem_of_mem_enDashesAfter (by decide) hmem))
    · refine .inr ⟨hmeets, ?_⟩
      have hstands : '\\' :: "textemdash".toList <:+: enDashes (trim s) := hmeets.stands
      exact (infix_of_infix_enDashesAfter (by decide) hstands).trans (trim_stretch s)

/-- Hyphens in a range and in the address of a link, and an em dash by its name. -/
def rangedPages : List Char := " 12---15, \\url\x7ba-b\x7d, \x7b\\textemdash\x7d ".toList

def ranged : Entry where
  type := .misc
  key := ['k']
  fields := [⟨"Pages".toList, .literal rangedPages⟩]

theorem pages_dashed_ranged :
    ranged.text "pages".toList = some rangedPages ∧
      ∃ t, Template.pages.text (fun _ => .nil) ranged = .ok t ∧
        t.plain = "12–15, a–b, —".toList ∧ '-' ∉ t.written ∧ emDash ∈ t.written ∧
        Meets "textemdash".toList (enDashes (trim rangedPages)) := by
  have htext : ranged.text "pages".toList = some rangedPages := by decide +kernel
  obtain ⟨t, hpages, rfl, hhyphen, hdash⟩ := pages_dashed.2 (fun _ => .nil) ranged _ htext
  have hmem : emDash ∈ (Text.ofLatex (enDashes (trim rangedPages))).written := by decide +kernel
  refine ⟨htext, _, hpages, by decide +kernel, hhyphen, hmem, ?_⟩
  rcases hdash hmem with hsource | ⟨hmeets, -⟩
  · exact absurd hsource (by decide)
  · exact hmeets

end
end Citation
