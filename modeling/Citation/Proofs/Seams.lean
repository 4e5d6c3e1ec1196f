import Citation.Output.Format
import Citation.Proofs.Concatenation

/-! Seams: texts that are appended are a monoid with the empty text, runs that meet become one, and
every format writes one text behind the other. -/
namespace Citation

namespace Text

/-- The runs and the wrapped texts of a text, each as a text of its own. -/
def segments : Text → List Text
  | .nil => []
  | .run s rest => ofChars s :: rest.segments
  | .wrap w inner rest => within w inner :: rest.segments

@[simp] theorem length_append (t u : Text) : (t ++ u).length = t.length + u.length := by
  simp [length_eq]

/-- A text is appended by setting its segments behind the other one by one. -/
theorem Normal.foldl_segments {t u : Text} (ht : t.Normal) (hu : u.Normal) :
    u.segments.foldl (· ++ ·) t = t ++ u := by
  induction u generalizing t with
  | nil => exact ht.append_nil.symm
  | run s rest ih =>
    rw [segments, List.foldl_cons, ih (ht.append (normal_ofChars s)) hu.2.2, append_assoc,
      hu.run_eq]
  | wrap w inner rest _ ih =>
    rw [segments, List.foldl_cons, ih (ht.append (hu.2.1.within w)) hu.2.2, append_assoc,
      hu.wrap_eq]

/-- Runs on the two sides of a seam become one. -/
theorem append_ofChars_append_ofChars (t : Text) (s s' : List Char) :
    t ++ ofChars s ++ ofChars s' = t ++ ofChars (s ++ s') := by
  rw [append_assoc, ofChars_append_ofChars]

end Text

namespace Format
open Text

theorem write_consWrap {inner : Text} (h : inner ≠ .nil) (f : Format) (w : Wrap) (t : Text) :
    f.write (consWrap w inner t) =
      (f.marks w).1 ++ f.write inner ++ (f.marks w).2 ++ f.write t := by
  rw [consWrap, if_neg h, write]

/-- No mark of a format stands across a seam, for a normal text has no wrap that appending drops. -/
theorem write_append {t : Text} (ht : t.Normal) (f : Format) (u : Text) :
    f.write (t ++ u) = f.write t ++ f.write u := by
  induction t with
  | nil => rfl
  | run s rest ih => rw [run_append, write_consRun, ih ht.2.2, write, List.append_assoc]
  | wrap w inner rest _ ih =>
    rw [wrap_append, write_consWrap ht.1, ih ht.2.2, write]
    simp only [List.append_assoc]

/-- As plain text, all that is seen of a text is its characters, with blanks for ties. -/
theorem write_text (t : Text) :
    Format.text.write t = t.plain.map fun c => if c = tie then ' ' else c := by
  induction t with
  | nil => rfl
  | run s rest ih =>
    have hescape : Format.text.escape = fun c => [if c = tie then ' ' else c] := by
      funext c
      by_cases hc : c = tie <;> simp [escape, hc]
    rw [write, ih, plain, hescape, List.map_append, List.map_eq_flatMap (l := s)]
  | wrap w inner rest ihi ih =>
    have hmarks : Format.text.marks w = ([], []) := rfl
    rw [write, hmarks, ihi, ih, plain, List.map_append, List.nil_append, List.append_nil]

end Format

/-- Normal texts are a monoid under appending, which sets down one segment after the other. What is
seen of a text, how long it is and what each format writes for it goes through every seam. -/
theorem Text.append_laws {t u : Text} (ht : t.Normal) (hu : u.Normal) :
    ((t ++ u).Normal ∧ (∀ v, t ++ u ++ v = t ++ (u ++ v)) ∧ .nil ++ t = t ∧ t ++ .nil = t) ∧
    (t ++ u = u.segments.foldl (· ++ ·) t ∧
      ∀ s s', t ++ ofChars s ++ ofChars s' = t ++ ofChars (s ++ s')) ∧
    (t ++ u).plain = t.plain ++ u.plain ∧
    (t ++ u).length = t.length + u.length ∧
    (∀ f : Format, f.write (t ++ u) = f.write t ++ f.write u) ∧
    Format.text.write t = t.plain.map fun c => if c = tie then ' ' else c :=
  ⟨⟨ht.append hu, append_assoc t u, nil_append t, ht.append_nil⟩,
    ⟨(ht.foldl_segments hu).symm, append_ofChars_append_ofChars t⟩, plain_append t u,
    length_append t u, fun f => Format.write_append ht f u, Format.write_text t⟩

/-- A run and a tie that meet at a seam, between emphasis and a link. -/
theorem Text.append_laws_seam :
    let t := Text.wrap .emph (.run ['a'] .nil) (.run "p.".toList .nil)
    let u := Text.run [tie, '7'] (.wrap (.link "b#".toList) (.run ['_'] .nil) .nil)
    (t.Normal ∧ u.Normal) ∧
      t ++ u = .wrap .emph (.run ['a'] .nil) (.run ['p', '.', tie, '7']
        (.wrap (.link "b#".toList) (.run ['_'] .nil) .nil)) ∧
      (t ++ u = u.segments.foldl (· ++ ·) t ∧ (t ++ u).length = t.length + u.length) ∧
      Format.latex.write (t ++ u) = Format.latex.write t ++ Format.latex.write u ∧
      Format.latex.write (t ++ u) = "\\emph\x7ba\x7dp.~7\\href\x7bb\\#\x7d\x7b\\_\x7d".toList := by
  intro t u
  have ht : t.Normal := by simp [t, Text.Normal]
  have hu : u.Normal := by simp [u, Text.Normal]
  obtain ⟨-, ⟨hsegments, -⟩, -, hlength, hwrite, -⟩ := append_laws ht hu
  exact ⟨⟨ht, hu⟩, by decide, ⟨hsegments, hlength⟩, hwrite .latex, by decide⟩

end Citation
