import Citation.Text
import Citation.Unicode.Case

/-! Changes of case. They leave guarded text alone, and the wraps and targets of all text. -/
namespace Citation.Text

def lower : Text → Text
  | .nil => .nil
  | .run s rest => .run (Unicode.lower s) rest.lower
  | .wrap .guarded inner rest => .wrap .guarded inner rest.lower
  | .wrap w inner rest => .wrap w inner.lower rest.lower

/-- A capital for the first character, unless it is guarded. -/
def capitalizeFirst : Text → Text
  | .nil => .nil
  | .run s rest => .run (Unicode.capitalizeFirst s) rest
  | .wrap .guarded inner rest => .wrap .guarded inner rest
  | .wrap w inner rest => .wrap w inner.capitalizeFirst rest

/-- Sentence case: one capital, at the start. -/
def sentenceCase (t : Text) : Text := t.lower.capitalizeFirst

@[simp] theorem lower_eq_nil_iff (t : Text) : t.lower = .nil ↔ t = .nil := by
  cases t with
  | nil => simp [lower]
  | run s rest => simp [lower]
  | wrap w inner rest => cases w <;> simp [lower]

@[simp] theorem capitalizeFirst_eq_nil_iff (t : Text) :
    t.capitalizeFirst = .nil ↔ t = .nil := by
  cases t with
  | nil => simp [capitalizeFirst]
  | run s rest => simp [capitalizeFirst]
  | wrap w inner rest => cases w <;> simp [capitalizeFirst]

theorem lower_ne_run {t : Text} (h : ∀ s rest, t ≠ .run s rest) (s : List Char) (rest : Text) :
    t.lower ≠ .run s rest := by
  cases t with
  | nil => simp [lower]
  | run s' rest' => exact absurd rfl (h s' rest')
  | wrap w inner rest' => cases w <;> simp [lower]

theorem Normal.lower {t : Text} (h : t.Normal) : t.lower.Normal := by
  induction t with
  | nil => trivial
  | run s rest ih => exact ⟨by simpa using h.1, lower_ne_run h.2.1, ih h.2.2⟩
  | wrap w inner rest ihi ih =>
    obtain ⟨hne, hi, hr⟩ := h
    cases w with
    | guarded => exact ⟨hne, hi, ih hr⟩
    | emph => exact ⟨by simpa using hne, ihi hi, ih hr⟩
    | strong => exact ⟨by simpa using hne, ihi hi, ih hr⟩
    | link url => exact ⟨by simpa using hne, ihi hi, ih hr⟩

theorem Normal.capitalizeFirst {t : Text} (h : t.Normal) : t.capitalizeFirst.Normal := by
  induction t with
  | nil => trivial
  | run s rest => exact ⟨by simpa using h.1, h.2⟩
  | wrap w inner rest ihi =>
    obtain ⟨hne, hi, hr⟩ := h
    cases w with
    | guarded => exact ⟨hne, hi, hr⟩
    | emph => exact ⟨by simpa using hne, ihi hi, hr⟩
    | strong => exact ⟨by simpa using hne, ihi hi, hr⟩
    | link url => exact ⟨by simpa using hne, ihi hi, hr⟩

theorem Normal.sentenceCase {t : Text} (h : t.Normal) : t.sentenceCase.Normal :=
  h.lower.capitalizeFirst

end Citation.Text
