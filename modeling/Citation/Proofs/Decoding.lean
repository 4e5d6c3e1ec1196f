import Citation.Latex.Decode
import Citation.Proofs.Concatenation

/-! Decoding of tokens, group by group. The tokens of a group are decoded as on their own if they
close the groups that they open and no others, and what stands in front of a group or behind it has
no part in its text. -/
namespace Citation
open Latex

/-- Of the groups that the tokens open, and of `depth` that are open in front of them, all are
closed in the end, and no others. -/
def Latex.NestedIn (depth : Nat) : List Token → Prop
  | [] => depth = 0
  | .opens _ :: ts => NestedIn (depth + 1) ts
  | .closes :: ts => ∃ outer, depth = outer + 1 ∧ NestedIn outer ts
  | .chars _ :: ts => NestedIn depth ts
  | .space :: ts => NestedIn depth ts
  | .piece _ :: ts => NestedIn depth ts

namespace Text

/-- A group is decoded on its own, and closed by the token behind it. -/
theorem ofTokensIn_nested (f : Frame) (stack : List Frame) (us : List Token) {ts : List Token}
    (inner : List Frame) (h : NestedIn inner.length ts) (text : Text) (run : List Char) :
    ofTokensIn (inner ++ f :: stack) text run (ts ++ .closes :: us) =
      ofTokensIn stack (f.close (ofTokensIn inner text run ts)) [] us := by
  induction ts generalizing inner text run with
  | nil =>
    obtain rfl := List.eq_nil_of_length_eq_zero h
    rfl
  | cons t ts ih =>
    cases t with
    | chars s => exact ih inner h _ _
    | space => exact ih inner h _ _
    | opens w => exact ih (⟨w, _⟩ :: inner) h _ _
    | closes =>
      obtain ⟨outer, hlength, houter⟩ := h
      cases inner with
      | nil => simp at hlength
      | cons g inner =>
        obtain rfl : inner.length = outer := by simpa using hlength
        exact ih inner houter _ _
    | piece t => exact ih inner h _ _

theorem Frame.close_append (t : Text) (f : Frame) (inner : Text) :
    ({ f with before := t ++ f.before } : Frame).close inner = t ++ f.close inner := by
  obtain ⟨w, before⟩ := f
  cases w <;> simp [Frame.close, append_assoc]

/-- A text in front stays in front: as part of the finished text outside all groups, and as part of
what stands before the outermost group. -/
theorem ofTokensIn_append (t : Text) (us : List Token) :
    (∀ text run, ofTokensIn [] (t ++ text) run us = t ++ ofTokensIn [] text run us) ∧
      ∀ inner f text run,
        ofTokensIn (inner ++ [{ f with before := t ++ f.before }]) text run us =
          t ++ ofTokensIn (inner ++ [f]) text run us := by
  -- A token that opens a group outside all groups leads from the first part to the second, one that
  -- closes the outermost group leads back.
  induction us with
  | nil =>
    exact ⟨fun _ _ => append_assoc .., fun _ _ _ _ => by simp [ofTokensIn, Frame.close_append]⟩
  | cons u us ih =>
    obtain ⟨houtside, hinside⟩ := ih
    cases u with
    | chars s => exact ⟨fun _ _ => houtside _ _, fun _ _ _ _ => hinside _ _ _ _⟩
    | space => exact ⟨fun _ _ => houtside _ _, fun _ _ _ _ => hinside _ _ _ _⟩
    | opens w =>
      refine ⟨fun text run => ?_, fun inner f text run => hinside (⟨w, _⟩ :: inner) f _ _⟩
      simp only [ofTokensIn, append_assoc]
      exact hinside [] ⟨w, text ++ ofChars run.reverse⟩ _ _
    | closes =>
      refine ⟨fun _ _ => houtside _ _, fun inner f text run => ?_⟩
      cases inner with
      | nil =>
        simp only [List.nil_append, ofTokensIn, Frame.close_append]
        exact houtside _ _
      | cons g inner => exact hinside inner f _ _
    | piece u =>
      refine ⟨fun text run => ?_, fun inner f text run => hinside inner f _ _⟩
      simp only [ofTokensIn, append_assoc]
      exact houtside _ _

theorem within_append_nil (w : Wrap) (t : Text) : within w t ++ .nil = within w t :=
  within_append_eq w t .nil

/-- A wrapped group is the wrapped text of its tokens, in front of what follows it. -/
theorem ofTokens_group (w : Wrap) {ts : List Token} (h : NestedIn 0 ts) (us : List Token) :
    ofTokens (.opens (some w) :: (ts ++ .closes :: us)) =
      within w (ofTokens ts) ++ ofTokens us := by
  calc ofTokens (.opens (some w) :: (ts ++ .closes :: us))
    _ = ofTokensIn [] (within w (ofTokens ts)) [] us :=
        ofTokensIn_nested ⟨some w, .nil⟩ [] us [] h .nil []
    _ = ofTokensIn [] (within w (ofTokens ts) ++ .nil) [] us := by rw [within_append_nil]
    _ = within w (ofTokens ts) ++ ofTokens us := (ofTokensIn_append _ us).1 .nil []

theorem ofTokens_wrapped (w : Wrap) (t : Text) (us : List Token) :
    ofTokens (.piece (within w t) :: us) = within w t ++ ofTokens us := by
  calc ofTokens (.piece (within w t) :: us)
    _ = ofTokensIn [] (within w t ++ .nil) [] us := by rw [within_append_nil]; rfl
    _ = within w t ++ ofTokens us := (ofTokensIn_append _ us).1 .nil []

end Text
end Citation
