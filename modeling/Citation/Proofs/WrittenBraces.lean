import Citation.Proofs.LatexForm
import Citation.Proofs.Lexemes

/-! Braces in what is written as LaTeX. Escapes open and close nothing, wraps close what they open,
and a target keeps its groups, so that written text is balanced wherever it is set. -/
namespace Citation
open Source

def Wrap.targets : Wrap → List (List Char)
  | .link url => [url]
  | _ => []

/-- The link targets of a text, at every depth. -/
def Text.targets : Text → List (List Char)
  | .nil => []
  | .run _ rest => rest.targets
  | .wrap w inner rest => w.targets ++ (inner.targets ++ rest.targets)

theorem Source.Balanced.group {b : List Char} (h : Balanced b) :
    Balanced ('{' :: (b ++ ['}'])) := by
  have hbody : groupBody 1 (b ++ ['}', '}']) = some (b ++ ['}'], ['}']) := by
    rw [(closes_iff.2 h).groupBody_append 1, groupBody_inner, groupBody_close]
    rfl
  rw [Balanced, List.cons_append, List.append_assoc, groupBody_open]
  exact congrArg (prepended ['{']) hbody

namespace Format

/-- A percent or number sign of a target gets a backslash. A backslash that was in front of it is
shielded then, and shields nothing any more. -/
theorem closes_target {depth : Nat} {url : List Char} (h : Closes depth url) :
    Closes depth (latex.target url) := by
  induction h with
  | nil => exact .nil
  | @shielded _ c _ _ ih =>
    by_cases hc : c = '%' ∨ c = '#'
    · have hplain : c ≠ '\\' ∧ c ≠ '{' ∧ c ≠ '}' := by rcases hc with rfl | rfl <;> decide
      simpa [target, hc] using Closes.shielded '\\' (.plain hplain ih)
    · simpa [target, hc] using Closes.shielded c ih
  | opens _ ih => exact .opens ih
  | closes _ ih => exact .closes ih
  | @plain _ c hplain _ _ ih =>
    by_cases hc : c = '%' ∨ c = '#'
    · simpa [target, hc] using Closes.shielded c ih
    · simpa [target, hc] using Closes.plain hplain ih

/-- The characters that LaTeX does not write as they are. -/
def latexCoded : List Char :=
  [tie, enDash, emDash, '&', '%', '$', '#', '_', '{', '}', '~', '^', '\\']

theorem balanced_escape (c : Char) : Balanced (latex.escape c) := by
  have hcodes : (latexCoded.all fun d => decide (Balanced (latex.escape d))) = true := by
    decide +kernel
  by_cases hc : c ∈ latexCoded
  · exact of_decide_eq_true (List.all_eq_true.1 hcodes c hc)
  · simp only [latexCoded, List.mem_cons, List.not_mem_nil, or_false, not_or] at hc
    have hform : latex.escape c = [c] := by simp [escape, latexForm, hc]
    have hplain : c ≠ '\\' ∧ c ≠ '{' ∧ c ≠ '}' := by simp [hc]
    rw [hform]
    exact closes_iff.1 (.plain hplain .nil)

theorem balanced_run (s : List Char) : Balanced (s.flatMap latex.escape) := by
  induction s with
  | nil => rfl
  | cons c s ih => exact (balanced_escape c).append ih

/-- A wrap begins with a command, or none, and the brace of a group. -/
theorem exists_command {w : Wrap} (hw : ∀ url ∈ w.targets, Balanced url) :
    ∃ command, Balanced command ∧ (latex.marks w).1 = command ++ ['{'] := by
  cases w with
  | emph => exact ⟨"\\emph".toList, by decide +kernel, rfl⟩
  | strong => exact ⟨"\\textbf".toList, by decide +kernel, rfl⟩
  | guarded => exact ⟨[], rfl, rfl⟩
  | link url =>
    have hhref : Balanced "\\href".toList := by decide +kernel
    have htarget : Balanced (latex.target url) :=
      closes_iff.1 (closes_target (closes_iff.2 (hw url (List.mem_singleton_self url))))
    have hmarks : (latex.marks (.link url)).1 =
        "\\href".toList ++ ['{'] ++ latex.target url ++ ['}', '{'] := rfl
    refine ⟨_, hhref.append htarget.group, ?_⟩
    rw [hmarks]
    simp only [List.append_assoc, List.cons_append, List.nil_append]

theorem balanced_wrap {w : Wrap} (hw : ∀ url ∈ w.targets, Balanced url) {b : List Char}
    (hb : Balanced b) : Balanced ((latex.marks w).1 ++ b ++ (latex.marks w).2) := by
  obtain ⟨command, hcommand, hopens⟩ := exists_command hw
  rw [hopens, Latex.marks_snd]
  simpa using hcommand.append hb.group

theorem balanced_write {t : Text} (h : ∀ url ∈ t.targets, Balanced url) :
    Balanced (latex.write t) := by
  induction t with
  | nil => rfl
  | run s rest ih => exact (balanced_run s).append (ih h)
  | wrap w inner rest ihi ih =>
    simp only [Text.targets, List.mem_append] at h
    have hinner : Balanced (latex.write inner) := ihi fun url hurl => h url (.inr (.inl hurl))
    have hwrap := balanced_wrap (fun url hurl => h url (.inl hurl)) hinner
    exact hwrap.append (ih fun url hurl => h url (.inr (.inr hurl)))

/-- A group with written text in it ends at the brace behind the text, and no group around it is
closed in the text or left open by it. -/
theorem groupBody_write {t : Text} (h : ∀ url ∈ t.targets, Balanced url) :
    (∀ r, groupBody 0 (latex.write t ++ '}' :: r) = some (latex.write t, '}' :: r)) ∧
      ∀ depth r, groupBody depth (latex.write t ++ r) =
        (groupBody depth r).map fun (b, r') => (latex.write t ++ b, r') := by
  have hcloses := closes_iff.2 (balanced_write h)
  refine ⟨fun r => ?_, fun depth r => hcloses.groupBody_append depth r⟩
  have hbody := hcloses.groupBody_append 0 ('}' :: r)
  rw [groupBody_close] at hbody
  simpa [prepended] using hbody

/-- Braces and a backslash in a run, and a target with groups, escapes and a percent sign that has
a backslash already. -/
theorem groupBody_write_hostile :
    let t := Text.run "\x7d\\\x7b%".toList (.wrap .strong
      (.wrap (.link "a\\\x7d\x7bb\x7d\\%#".toList) (.run ['\\'] .nil) .nil) .nil)
    (∀ url ∈ t.targets, Balanced url) ∧
      (∀ r, groupBody 0 (latex.write t ++ '}' :: r) = some (latex.write t, '}' :: r)) ∧
      ∀ depth r, groupBody depth (latex.write t ++ r) =
        (groupBody depth r).map fun (b, r') => (latex.write t ++ b, r') := by
  intro t
  have htargets : ∀ url ∈ t.targets, Balanced url := by decide +kernel
  exact ⟨htargets, groupBody_write htargets⟩

end Format
end Citation
