import Citation.Output.Format
import Citation.Proofs.Concatenation
import Mathlib.Data.List.Chain

/-! Texts written as LaTeX and read again. The tokens of a written text are the characters of its
runs and the groups of its wraps, and decoding them gives the text back. -/
namespace Citation
open Latex

namespace Text

/-- A character that no run under way takes up next to another one of its kind. -/
def isDash (c : Char) : Bool := c == '-' || c == enDash || c == emDash

/-- A character that reads back as itself. -/
def IsReadable (c : Char) : Prop :=
  c ≠ '~' ∧ c ≠ '^' ∧ c ≠ '\\' ∧ (isWhitespace c = true → c = ' ' ∨ c = tie)

/-- Neighbours that do not read as one character: not both spaces and not both dashes. -/
def Parted (c d : Char) : Prop :=
  ¬(c = ' ' ∧ d = ' ') ∧ ¬(isDash c = true ∧ isDash d = true)

def ReadableRun (s : List Char) : Prop := (∀ c ∈ s, IsReadable c) ∧ s.IsChain Parted

def ReadableWrap : Wrap → Prop
  | .link url => ∀ c ∈ url, c ≠ '{' ∧ c ≠ '}' ∧ c ≠ '%' ∧ c ≠ '#'
  | _ => True

/-- At every depth, the runs and the link targets of a text read back. -/
def Readable : Text → Prop
  | .nil => True
  | .run s rest => ReadableRun s ∧ rest.Readable
  | .wrap w inner rest => ReadableWrap w ∧ inner.Readable ∧ rest.Readable

instance : DecidablePred IsReadable := fun _ => inferInstanceAs (Decidable (_ ∧ _))

instance : DecidableRel Parted := fun _ _ => inferInstanceAs (Decidable (_ ∧ _))

instance : DecidablePred ReadableRun := fun s =>
  have := List.decidableBAll IsReadable s
  inferInstanceAs (Decidable (_ ∧ _))

instance : DecidablePred ReadableWrap
  | .link url => List.decidableBAll (fun c => c ≠ '{' ∧ c ≠ '}' ∧ c ≠ '%' ∧ c ≠ '#') url
  | .emph | .strong | .guarded => inferInstanceAs (Decidable True)

instance decidableReadable : DecidablePred Readable
  | .nil => inferInstanceAs (Decidable True)
  | .run s rest =>
    have := decidableReadable rest
    inferInstanceAs (Decidable (ReadableRun s ∧ rest.Readable))
  | .wrap w inner rest =>
    have := decidableReadable inner
    have := decidableReadable rest
    inferInstanceAs (Decidable (ReadableWrap w ∧ inner.Readable ∧ rest.Readable))

end Text

namespace Latex
open Text

def runToken (c : Char) : Token := if c = ' ' then .space else .chars [c]

/-- The tokens that a text is written with. -/
def tokensOf : Text → List Token
  | .nil => []
  | .run s rest => s.map runToken ++ tokensOf rest
  | .wrap w inner rest => .opens (some w) :: (tokensOf inner ++ .closes :: tokensOf rest)

theorem tokens_cons {c : Char} {s r : List Char} {t : Token} (h : lexeme c s = (.token t, r)) :
    tokens (c :: s) = t :: tokens r := by
  rw [tokens]
  split
  · next t' ht =>
    rw [h] at ht
    cases ht
    rw [h]
  · next ht =>
    rw [h] at ht
    cases ht

/-! Runs. -/

theorem lexeme_hyphens (n : Nat) {r : List Char} (hr : r.head? ≠ some '-') :
    lexeme '-' (List.replicate n '-' ++ r) = (.token (.chars [dashOf (1 + n)]), r) := by
  have hhyphens : ∀ c ∈ List.replicate n '-', (c == '-') = true := by simp
  have hhead : ∀ c ∈ r.head?, ¬(c == '-') = true := by
    rintro c hc hhyphen
    exact hr (beq_iff_eq.1 hhyphen ▸ hc)
  have htake : r.takeWhile (· == '-') = [] := by
    cases r with
    | nil => rfl
    | cons c r => exact List.takeWhile_cons_of_neg (hhead c rfl)
  have hdrop : r.dropWhile (· == '-') = r := by
    cases r with
    | nil => rfl
    | cons c r => exact List.dropWhile_cons_of_neg (hhead c rfl)
  simp [lexeme, List.takeWhile_append_of_pos hhyphens, List.dropWhile_append_of_pos hhyphens,
    htake, hdrop]

/-- The characters that are written with a backslash. -/
def signs : List Char := ['&', '%', '$', '#', '_', '{', '}']

theorem tokens_sign {c : Char} (hc : c ∈ signs) (r : List Char) :
    tokens ('\\' :: c :: r) = runToken c :: tokens r := by
  apply tokens_cons
  simp only [signs, List.mem_cons, List.not_mem_nil, or_false] at hc
  rcases hc with rfl | rfl | rfl | rfl | rfl | rfl | rfl <;> rfl

theorem lexeme_readable {c : Char} (hc : IsReadable c) (hsign : c ∉ signs) (hhyphen : c ≠ '-')
    (htie : c ≠ tie) (r : List Char) : lexeme c r = (.token (runToken c), r) := by
  obtain ⟨htilde, -, hbackslash, hspace⟩ := hc
  by_cases hblank : c = ' '
  · subst hblank
    rfl
  · have hwhite : isWhitespace c = false := by
      rw [Bool.eq_false_iff]
      intro hwhite
      exact (hspace hwhite).elim hblank htie
    simp only [signs, List.mem_cons, not_or] at hsign
    simp [lexeme, runToken, hsign, hbackslash, htilde, hhyphen, hblank, hwhite]

theorem tokens_escape {c : Char} (hc : IsReadable c) {r : List Char}
    (hr : isDash c = true → r.head? ≠ some '-') :
    tokens (Format.latex.escape c ++ r) = runToken c :: tokens r := by
  by_cases htie : c = tie
  · subst htie
    exact tokens_cons rfl
  by_cases hen : c = enDash
  · subst hen
    exact tokens_cons (lexeme_hyphens 1 (hr rfl))
  by_cases hem : c = emDash
  · subst hem
    exact tokens_cons (lexeme_hyphens 2 (hr rfl))
  by_cases hsign : c ∈ signs
  · have hform : Format.latex.escape c = ['\\', c] := by
      simp only [signs] at hsign
      simp [Format.escape, Format.latexForm, htie, hen, hem, hsign]
    rw [hform]
    exact tokens_sign hsign r
  · have hform : Format.latex.escape c = [c] := by
      obtain ⟨htilde, hcaret, hbackslash, -⟩ := hc
      have hother := hsign
      simp only [signs, List.mem_cons, not_or] at hother
      simp [Format.escape, Format.latexForm, htie, hen, hem, hother, htilde, hcaret, hbackslash]
    rw [hform]
    by_cases hhyphen : c = '-'
    · subst hhyphen
      exact tokens_cons (lexeme_hyphens 0 (hr rfl))
    · exact tokens_cons (lexeme_readable hc hsign hhyphen htie r)

/-- Only a dash is written with a hyphen in front. -/
theorem head_escape {c : Char} (hc : isDash c = false) (r : List Char) :
    (Format.latex.escape c ++ r).head? ≠ some '-' := by
  simp only [isDash, Bool.or_eq_false_iff, beq_eq_false_iff_ne] at hc
  obtain ⟨⟨hhyphen, hen⟩, hem⟩ := hc
  simp only [Format.escape, Format.latexForm, hen, hem, if_false]
  repeat' split
  all_goals simp [hhyphen]

theorem tokens_run {s r : List Char} (hs : ReadableRun s) (hr : r.head? ≠ some '-') :
    tokens (s.flatMap Format.latex.escape ++ r) = s.map runToken ++ tokens r := by
  obtain ⟨hall, hchain⟩ := hs
  induction s with
  | nil => rfl
  | cons c s ih =>
    obtain ⟨hc, hall⟩ := List.forall_mem_cons.1 hall
    -- A dash is read as long as hyphens follow, so what stands behind it must not begin with one.
    have hhead : isDash c = true → (s.flatMap Format.latex.escape ++ r).head? ≠ some '-' := by
      intro hdash
      cases s with
      | nil => exact hr
      | cons d s =>
        have hparted : Parted c d := (List.isChain_cons_cons.1 hchain).1
        have hd : isDash d = false := Bool.eq_false_iff.2 fun hd => hparted.2 ⟨hdash, hd⟩
        rw [List.flatMap_cons, List.append_assoc]
        exact head_escape hd _
    rw [List.flatMap_cons, List.append_assoc, tokens_escape hc hhead, ih hall hchain.tail]
    rfl

/-! Wraps. -/

/-- Braces pair up behind `depth` open ones, with a backslash in front of them or not. -/
def pairsUp (depth : Nat) : List Char → Bool
  | [] => depth == 0
  | c :: s => !(c == '}' && depth == 0) && pairsUp (depthAfter c depth) s

theorem rawGroup_append {depth : Nat} {url : List Char} (h : pairsUp depth url = true)
    (r : List Char) : rawGroup depth (url ++ '}' :: r) = (url, r) := by
  induction url generalizing depth with
  | nil =>
    obtain rfl : depth = 0 := by simpa [pairsUp] using h
    rfl
  | cons c url ih =>
    obtain ⟨hc, hurl⟩ := Bool.and_eq_true_iff.1 h
    have hinner : ¬(c = '}' ∧ depth = 0) := by
      rintro ⟨rfl, rfl⟩
      simp at hc
    simp only [List.cons_append, rawGroup, if_neg hinner, ih hurl]

theorem pairsUp_of_braceless {url : List Char} (h : ∀ c ∈ url, c ≠ '{' ∧ c ≠ '}') :
    pairsUp 0 url = true := by
  induction url with
  | nil => rfl
  | cons c url ih =>
    obtain ⟨hc, hurl⟩ := List.forall_mem_cons.1 h
    simp [pairsUp, depthAfter, hc, ih hurl]

theorem target_eq {url : List Char} (h : ∀ c ∈ url, c ≠ '%' ∧ c ≠ '#') :
    Format.latex.target url = url := by
  induction url with
  | nil => rfl
  | cons c url ih =>
    obtain ⟨hc, hurl⟩ := List.forall_mem_cons.1 h
    have htail := ih hurl
    simp only [Format.target] at htail ⊢
    simp [hc, htail]

/-- A link target is read as it stands, and the group behind it is the link's. -/
theorem tokens_href {url : List Char} (h : ReadableWrap (.link url)) (r : List Char) :
    tokens ("\\href\x7b".toList ++ (url ++ '}' :: '{' :: r)) =
      .opens (some (.link url)) :: tokens r := by
  have hraw : rawArgument ('{' :: (url ++ '}' :: '{' :: r)) = (url, '{' :: r) :=
    rawGroup_append (pairsUp_of_braceless fun c hc => ⟨(h c hc).1, (h c hc).2.1⟩) ('{' :: r)
  apply tokens_cons
  have hname : namedCommand "href".toList ('{' :: (url ++ '}' :: '{' :: r)) =
      (.token (.opens (some (.link url))), r) := by
    have hcommand : command? "href".toList = some .href := rfl
    simp only [namedCommand, hcommand, hraw]
    rfl
  exact hname

theorem tokens_marks {w : Wrap} (hw : ReadableWrap w) (r : List Char) :
    tokens ((Format.latex.marks w).1 ++ r) = .opens (some w) :: tokens r := by
  cases w with
  | emph => exact tokens_cons rfl
  | strong => exact tokens_cons rfl
  | guarded =>
    have hlexeme : lexeme '{' r = (.token (.opens (some .guarded)), r) := if_pos rfl
    exact tokens_cons hlexeme
  | link url =>
    have htarget := target_eq fun c hc => ⟨(hw c hc).2.2.1, (hw c hc).2.2.2⟩
    have hmarks : ∀ s, s ++ Format.latex.target url ++ ['}', '{'] ++ r =
        s ++ (url ++ '}' :: '{' :: r) := by
      intro s
      simp [htarget]
    exact (congrArg tokens (hmarks _)).trans (tokens_href hw r)

theorem marks_snd (w : Wrap) : (Format.latex.marks w).2 = ['}'] := by
  cases w <;> rfl

theorem tokens_close (r : List Char) : tokens ('}' :: r) = .closes :: tokens r := by
  apply tokens_cons
  simp [lexeme]

theorem head_marks (w : Wrap) (r : List Char) :
    ((Format.latex.marks w).1 ++ r).head? ≠ some '-' := by
  have hcons : ∃ c s, (Format.latex.marks w).1 = c :: s ∧ c ≠ '-' := by
    cases w with
    | guarded => exact ⟨'{', [], rfl, by decide⟩
    | _ => exact ⟨'\\', _, rfl, by decide⟩
  obtain ⟨c, s, hmarks, hc⟩ := hcons
  simp [hmarks, hc]

/-- What is written behind a run does not continue a dash at its end. -/
theorem head_write {rest : Text} (h : ∀ s' rest', rest ≠ .run s' rest') {r : List Char}
    (hr : r.head? ≠ some '-') : (Format.latex.write rest ++ r).head? ≠ some '-' := by
  cases rest with
  | nil => exact hr
  | run s' rest' => exact absurd rfl (h s' rest')
  | wrap w inner rest' =>
    simp only [Format.write, List.append_assoc]
    exact head_marks w _

theorem tokens_write {t : Text} (ht : t.Normal) (hread : t.Readable) {r : List Char}
    (hr : r.head? ≠ some '-') : tokens (Format.latex.write t ++ r) = tokensOf t ++ tokens r := by
  induction t generalizing r with
  | nil => rfl
  | run s rest ih =>
    obtain ⟨-, hrun, hrest⟩ := ht
    rw [Format.write, List.append_assoc, tokens_run hread.1 (head_write hrun hr),
      ih hrest hread.2 hr, tokensOf, List.append_assoc]
  | wrap w inner rest ihi ih =>
    obtain ⟨-, hinner, hrest⟩ := ht
    obtain ⟨hw, hreadi, hreadr⟩ := hread
    have hclose : ('}' :: (Format.latex.write rest ++ r)).head? ≠ some '-' := by simp
    rw [Format.write, marks_snd]
    simp only [List.append_assoc, List.cons_append, List.nil_append]
    rw [tokens_marks hw, ihi hinner hreadi hclose, tokens_close, ih hrest hreadr hr, tokensOf]
    simp

end Latex

namespace Text

/-! Decoding. -/

/-- Tokens that end the run under way, if there are any. -/
def EndsRun (stack : List Frame) : List Token → Prop
  | [] => True
  | .opens _ :: _ => True
  | .closes :: _ => stack ≠ []
  | _ => False

/-- A run that ends stands behind the text of its group. -/
theorem ofTokensIn_of_endsRun {stack : List Frame} {text : Text} (run : List Char)
    {ts : List Token} (hts : EndsRun stack ts) (ht : text.Normal) :
    ofTokensIn stack text run ts = ofTokensIn stack (text ++ ofChars run.reverse) [] ts := by
  have hnormal : (text ++ ofChars run.reverse).Normal := ht.append (normal_ofChars _)
  have hnil : text ++ ofChars run.reverse ++ ofChars [] = text ++ ofChars run.reverse :=
    hnormal.append_nil
  cases ts with
  | nil => simp [ofTokensIn, hnil]
  | cons t ts =>
    cases t with
    | opens w => simp [ofTokensIn, hnil]
    | closes =>
      cases stack with
      | nil => exact absurd rfl hts
      | cons f stack => simp [ofTokensIn, hnil]
    | _ => exact hts.elim

theorem ofTokensIn_run (stack : List Frame) (text : Text) {run s : List Char}
    (hs : s.IsChain Parted) (hrun : ∀ c ∈ run.head?, ∀ d ∈ s.head?, Parted c d)
    (ts : List Token) :
    ofTokensIn stack text run (s.map runToken ++ ts) =
      ofTokensIn stack text (s.reverse ++ run) ts := by
  induction s generalizing run with
  | nil => rfl
  | cons c s ih =>
    have hstep : ofTokensIn stack text run (runToken c :: (s.map runToken ++ ts)) =
        ofTokensIn stack text (c :: run) (s.map runToken ++ ts) := by
      by_cases hc : c = ' '
      · subst hc
        have hhead : run.head? ≠ some ' ' := fun hhead => (hrun ' ' hhead ' ' rfl).1 ⟨rfl, rfl⟩
        simp [runToken, ofTokensIn, hhead]
      · simp [runToken, hc, ofTokensIn]
    have hnext : ∀ b ∈ (c :: run).head?, ∀ d ∈ s.head?, Parted b d := by
      intro b hb d hd
      obtain rfl := Option.some.inj hb
      exact hs.rel_head? hd
    rw [List.map_cons, List.cons_append, hstep, ih hs.tail hnext, List.reverse_cons,
      List.append_assoc]
    rfl

/-- The tokens of a text add it to the text of the innermost group. -/
theorem ofTokensIn_tokensOf {t : Text} (ht : t.Normal) (hread : t.Readable) {stack : List Frame}
    {text : Text} {ts : List Token} (htext : text.Normal) (hts : EndsRun stack ts) :
    ofTokensIn stack text [] (tokensOf t ++ ts) = ofTokensIn stack (text ++ t) [] ts := by
  -- A wrap opens a group for what it holds, so the stack and the text in front of it vary.
  induction t generalizing stack text ts with
  | nil => rw [htext.append_nil]; rfl
  | run s rest ih =>
    have hends : EndsRun stack (tokensOf rest ++ ts) := by
      cases rest with
      | nil => exact hts
      | run s' rest' => exact absurd rfl (ht.2.1 s' rest')
      | wrap w inner rest' => trivial
    have hnormal : (text ++ ofChars s).Normal := htext.append (normal_ofChars s)
    rw [tokensOf, List.append_assoc, ofTokensIn_run stack text hread.1.2 (by simp),
      ofTokensIn_of_endsRun _ hends htext]
    rw [List.append_nil, List.reverse_reverse, ih ht.2.2 hread.2 hnormal hts, append_assoc,
      ht.run_eq]
  | wrap w inner rest ihi ih =>
    obtain ⟨-, hinner, hrest⟩ := id ht
    obtain ⟨-, hreadi, hreadr⟩ := hread
    have hclose : (⟨some w, text⟩ : Frame).close inner = text ++ within w inner := rfl
    have hnormal : (text ++ within w inner).Normal := htext.append (hinner.within w)
    have hopen : text ++ ofChars [] = text := htext.append_nil
    have hend : inner ++ ofChars [] = inner := hinner.append_nil
    rw [tokensOf, List.cons_append, List.append_assoc, List.cons_append]
    calc ofTokensIn stack text []
          (.opens (some w) :: (tokensOf inner ++ .closes :: (tokensOf rest ++ ts)))
      _ = ofTokensIn (⟨some w, text⟩ :: stack) .nil []
            (tokensOf inner ++ .closes :: (tokensOf rest ++ ts)) := by
          simp [ofTokensIn, hopen]
      _ = ofTokensIn (⟨some w, text⟩ :: stack) inner [] (.closes :: (tokensOf rest ++ ts)) :=
          ihi hinner hreadi trivial (List.cons_ne_nil _ _)
      _ = ofTokensIn stack (text ++ within w inner) [] (tokensOf rest ++ ts) := by
          simp [ofTokensIn, hend, hclose]
      _ = ofTokensIn stack (text ++ within w inner ++ rest) [] ts := ih hrest hreadr hnormal hts
      _ = ofTokensIn stack (text ++ .wrap w inner rest) [] ts := by
          rw [append_assoc, ht.wrap_eq]

/-- A normal text whose characters read back is what its LaTeX form decodes to. -/
theorem ofLatex_write {t : Text} (ht : t.Normal) (hread : t.Readable) :
    ofLatex (Format.latex.write t) = t := by
  have htokens : tokens (Format.latex.write t) = tokensOf t ++ [] := by
    have hwrite := tokens_write ht hread (r := []) (by simp)
    rwa [List.append_nil, tokens] at hwrite
  have hends : EndsRun [] [] := trivial
  rw [ofLatex, htokens, ofTokens, ofTokensIn_tokensOf ht hread normal_nil hends]
  exact ht.append_nil

/-- A link in emphasis beside a guarded dash, with spaces on both sides of a group's end. -/
theorem ofLatex_write_linked :
    let t := Text.run "R&D ".toList (.wrap .emph (.run " in".toList
      (.wrap (.link "a?b=\\c&d".toList) (.run ['7', tie, '%'] .nil) .nil))
      (.wrap .guarded (.run ['A', enDash, 'B'] .nil) .nil))
    (t.Normal ∧ t.Readable) ∧ ofLatex (Format.latex.write t) = t := by
  intro t
  have ht : t.Normal := by simp [t, Text.Normal]
  have hread : t.Readable := by decide
  exact ⟨⟨ht, hread⟩, ofLatex_write ht hread⟩

end Text
end Citation
