import Citation.Latex.Token
import Citation.Unicode.Normal

/-! Decoding of markup into rich text. Groups under way are frames on a stack; a group that the
text never closes ends with the text. -/
namespace Citation
open Latex

/-- A group under way: its wrap, if it has one, and the text in front of it. -/
structure Latex.Frame where
  wrap : Option Wrap
  before : Text

/-- The text in front of a group with the group's text behind it. -/
def Latex.Frame.close (f : Frame) (inner : Text) : Text :=
  match f.wrap with
  | some w => f.before ++ .within w inner
  | none => f.before ++ inner

namespace Text

/-- Decodes tokens behind the groups of `stack`, the finished `text` of the innermost group, and
the `run` under way, which is held last character first. -/
def ofTokensIn (stack : List Frame) (text : Text) (run : List Char) : List Token → Text
  | [] => stack.foldl (fun inner f => f.close inner) (text ++ ofChars run.reverse)
  | .chars s :: ts => ofTokensIn stack text (s.reverse ++ run) ts
  | .space :: ts => ofTokensIn stack text (if run.head? = some ' ' then run else ' ' :: run) ts
  | .opens w :: ts => ofTokensIn (⟨w, text ++ ofChars run.reverse⟩ :: stack) .nil [] ts
  | .closes :: ts => match stack with
    | [] => ofTokensIn [] text run ts
    | f :: stack => ofTokensIn stack (f.close (text ++ ofChars run.reverse)) [] ts
  | .piece t :: ts => ofTokensIn stack (text ++ ofChars run.reverse ++ t) [] ts

def ofTokens (ts : List Token) : Text := ofTokensIn [] .nil [] ts

end Text

namespace Latex

/-- A letter under an accent loses its dot. -/
def accentBase (c : Char) : Char := if c = 'ı' then 'i' else if c = 'ȷ' then 'j' else c

/-- Text with a mark on its first character. -/
def accented (mark : Char) : List Char → List Char
  | [] => []
  | c :: rest => Unicode.composed [accentBase c, mark] ++ rest

/-- The tokens of a text. The argument of an accent is decoded on its own. -/
def tokens : List Char → List Token
  | [] => []
  | c :: s =>
      have := lexeme_length_le c s
      match h : (lexeme c s).1 with
      | .token t => t :: tokens (lexeme c s).2
      | .accent mark raw =>
          have := lexeme_argument_length_le h
          .chars (accented mark (Text.ofTokens (tokens raw)).plain) :: tokens (lexeme c s).2
termination_by s => s.length
decreasing_by all_goals exact Nat.lt_succ_of_le ‹_›

end Latex

namespace Text

def ofLatex (s : List Char) : Text := ofTokens (tokens s)

end Text

/-- The visible characters of a text with markup. -/
def Latex.plain (s : List Char) : List Char := (Text.ofLatex s).plain

end Citation
