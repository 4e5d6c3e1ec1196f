import Citation.Output.Format

/-! Escapes as codes. A format that escapes every character that a code of its own begins with writes
different runs differently. Markdown leaves the ampersand of its tie as it is, and LaTeX the hyphens
of its dashes, so that these formats tell runs apart only as far as ties and dashes spelled out do. -/
namespace Citation

/-- The characters of `signs` are written in codes that one of them begins, none of which begins
another one. All others stand for themselves. -/
structure Escaping (f : Char → List Char) (signs : List Char) : Prop where
  plain : ∀ c, c ∉ signs → f c = [c]
  begins : ∀ c ∈ signs, ∃ d ∈ signs, (f c).head? = some d
  apart : ∀ c ∈ signs, ∀ d ∈ signs, f c <+: f d → c = d

namespace Escaping

variable {f : Char → List Char} {signs : List Char}

/-- What there is to check, sign by sign. -/
theorem of_all (hplain : ∀ c, c ∉ signs → f c = [c])
    (hbegins : (signs.all fun c => (f c).head?.any signs.contains) = true)
    (hapart : (signs.all fun c => signs.all fun d => !(f c).isPrefixOf (f d) || c == d) = true) :
    Escaping f signs where
  plain := hplain
  begins c hc := by
    obtain ⟨d, hd, hmem⟩ := (Option.any_eq_true ..).1 (List.all_eq_true.1 hbegins c hc)
    exact ⟨d, by simpa using hmem, hd⟩
  apart c hc d hd hstart := by
    have hcd := List.all_eq_true.1 (List.all_eq_true.1 hapart c hc) d hd
    simpa [List.isPrefixOf_iff_prefix.2 hstart] using hcd

theorem ne_nil (h : Escaping f signs) (c : Char) : f c ≠ [] := by
  by_cases hc : c ∈ signs
  · obtain ⟨d, -, hd⟩ := h.begins c hc
    rintro hnil
    simp [hnil] at hd
  · simp [h.plain c hc]

/-- A code begins with a sign, and what stands for itself is none. -/
theorem eq_of_starts (h : Escaping f signs) {c d : Char} (hstart : f c <+: f d) : c = d := by
  obtain ⟨r, hr⟩ := hstart
  have hhead : (f c).head? = (f d).head? := by
    rw [← hr]
    cases hform : f c with
    | nil => exact absurd hform (h.ne_nil c)
    | cons e s => rfl
  by_cases hc : c ∈ signs <;> by_cases hd : d ∈ signs
  · exact h.apart c hc d hd ⟨r, hr⟩
  · obtain ⟨e, he, hbegins⟩ := h.begins c hc
    rw [hbegins, h.plain d hd, List.head?_cons, Option.some.injEq] at hhead
    exact absurd (hhead ▸ he) hd
  · obtain ⟨e, he, hbegins⟩ := h.begins d hd
    rw [hbegins, h.plain c hc, List.head?_cons, Option.some.injEq] at hhead
    exact absurd (hhead ▸ he) hc
  · rw [h.plain c hc, h.plain d hd] at hhead
    simpa using hhead

/-- Codes none of which begins another one are read off one by one. -/
theorem flatMap_injective (h : Escaping f signs) : Function.Injective (List.flatMap f) := by
  intro s s' heq
  induction s generalizing s' with
  | nil =>
    cases s' with
    | nil => rfl
    | cons c s' =>
      rw [List.flatMap_nil, List.flatMap_cons, eq_comm, List.append_eq_nil_iff] at heq
      exact absurd heq.1 (h.ne_nil c)
  | cons c s ih =>
    cases s' with
    | nil =>
      rw [List.flatMap_nil, List.flatMap_cons, List.append_eq_nil_iff] at heq
      exact absurd heq.1 (h.ne_nil c)
    | cons d s' =>
      rw [List.flatMap_cons, List.flatMap_cons] at heq
      have hstart : f c <+: f d ∨ f d <+: f c :=
        List.prefix_or_prefix_of_prefix ⟨_, heq⟩ ⟨_, rfl⟩
      obtain rfl : c = d := hstart.elim h.eq_of_starts fun hd => (h.eq_of_starts hd).symm
      rw [ih (List.append_cancel_left heq)]

/-- A format that spells some characters out and escapes what it then has. -/
theorem flatMap_eq_iff {g spelled : Char → List Char} (h : Escaping f signs)
    (hg : ∀ c, g c = (spelled c).flatMap f) (s s' : List Char) :
    s.flatMap g = s'.flatMap g ↔ s.flatMap spelled = s'.flatMap spelled := by
  have hcodes (s : List Char) : s.flatMap g = (s.flatMap spelled).flatMap f := by
    rw [List.flatMap_assoc]
    exact congrArg s.flatMap (funext hg)
  rw [hcodes, hcodes]
  exact h.flatMap_injective.eq_iff

end Escaping

namespace Format

theorem write_ofChars (f : Format) (s : List Char) :
    f.write (.ofChars s) = s.flatMap f.escape := by
  rw [Text.ofChars, write_consRun, write, List.append_nil]

/-! HTML. -/

/-- The characters that are written as entities in a run. -/
def htmlSigns : List Char := [tie, '&', '<', '>', '\"']

theorem escaping_html : Escaping html.escape htmlSigns := by
  refine .of_all (fun c hc => ?_) (by decide) (by decide)
  simp only [htmlSigns, List.mem_cons, List.not_mem_nil, or_false, not_or] at hc
  simp [escape, htmlForm, hc]

/-! Markdown. -/

/-- A tie as an entity, every other character as it is. -/
def tieSpelled (c : Char) : List Char := if c = tie then "&nbsp;".toList else [c]

/-- The characters that Markdown marks texts with. -/
def markdownSigns : List Char := ['\\', '*', '_', '[', ']', '\x60', '<', '>', '#']

theorem escaping_markdownForm : Escaping markdownForm markdownSigns := by
  refine .of_all (fun c hc => ?_) (by decide) (by decide)
  have hsign : ¬markdownSigns.contains c = true := by simpa using hc
  exact if_neg hsign

theorem escape_markdown (c : Char) : markdown.escape c = (tieSpelled c).flatMap markdownForm := by
  by_cases hc : c = tie
  · subst hc
    decide
  · simp [escape, tieSpelled, hc]

/-! LaTeX. -/

/-- Dashes in hyphens, every other character as it is. -/
def dashSpelled (c : Char) : List Char :=
  if c = enDash then "--".toList else if c = emDash then "---".toList else [c]

/-- The characters that LaTeX reads for something else, and the tie. -/
def latexSigns : List Char := [tie, '&', '%', '$', '#', '_', '{', '}', '~', '^', '\\']

/-- The LaTeX form of the characters that a run has without dashes. -/
def latexSign (c : Char) : List Char := if c ∈ latexSigns then latex.escape c else [c]

theorem escaping_latexSign : Escaping latexSign latexSigns :=
  .of_all (fun _ hc => if_neg hc) (by decide) (by decide)

theorem escape_latex (c : Char) : latex.escape c = (dashSpelled c).flatMap latexSign := by
  by_cases hen : c = enDash
  · subst hen
    decide
  by_cases hem : c = emDash
  · subst hem
    decide
  rw [dashSpelled, if_neg hen, if_neg hem, List.flatMap_singleton, latexSign]
  split
  · rfl
  · next hc =>
    simp only [latexSigns, List.mem_cons, List.not_mem_nil, or_false, not_or] at hc
    simp [escape, latexForm, hen, hem, hc]

/-- HTML writes no two runs alike. Markdown writes two runs alike exactly if they are alike once
ties are spelled as entities, and LaTeX exactly if they are once dashes are spelled as hyphens. -/
theorem write_run_eq_iff (s s' : List Char) :
    (html.write (.ofChars s) = html.write (.ofChars s') ↔ s = s') ∧
    (markdown.write (.ofChars s) = markdown.write (.ofChars s') ↔
      s.flatMap tieSpelled = s'.flatMap tieSpelled) ∧
    (latex.write (.ofChars s) = latex.write (.ofChars s') ↔
      s.flatMap dashSpelled = s'.flatMap dashSpelled) := by
  simp only [write_ofChars]
  exact ⟨escaping_html.flatMap_injective.eq_iff,
    escaping_markdownForm.flatMap_eq_iff escape_markdown s s',
    escaping_latexSign.flatMap_eq_iff escape_latex s s'⟩

/-- A tie is written like its entity, and a dash like two hyphens. -/
theorem write_run_ambiguous :
    markdown.write (.ofChars [tie]) = markdown.write (.ofChars "&nbsp;".toList) ∧
      latex.write (.ofChars [enDash]) = latex.write (.ofChars "--".toList) := by
  decide

end Format
end Citation
