import Citation.Proofs.Arguments
import Citation.Proofs.NameForms

/-! Initials. A given name is cut to its initials in the source, and decoded behind that. The first
character that it shows is kept if it starts with this character or with a group that shows it; a
command outside braces is cut off in front of its name. -/
namespace Citation
open Latex Unicode

/-! What a text shows first. -/

/-- The visible characters of a token in front of which nothing is visible. -/
def Latex.Token.shown : Token → List Char
  | .chars s => s
  | .space => [' ']
  | .opens _ => []
  | .closes => []
  | .piece t => t.plain

/-- What is visible in front of the innermost group. -/
def shownBefore (stack : List Frame) : List Char := stack.reverse.flatMap (·.before.plain)

theorem shownBefore_cons (f : Frame) (stack : List Frame) :
    shownBefore (f :: stack) = shownBefore stack ++ f.before.plain := by
  simp [shownBefore]

theorem plain_close (f : Frame) (inner : Text) :
    (f.close inner).plain = f.before.plain ++ inner.plain := by
  obtain ⟨w, before⟩ := f
  cases w <;> simp [Frame.close]

theorem plain_foldl_close (stack : List Frame) (t : Text) :
    (stack.foldl (fun inner f => f.close inner) t).plain = shownBefore stack ++ t.plain := by
  induction stack generalizing t with
  | nil => rfl
  | cons f stack ih =>
    rw [List.foldl_cons, ih, plain_close, shownBefore_cons, List.append_assoc]

theorem head_plain_ofTokensIn (stack : List Frame) (text : Text) (run : List Char)
    (ts : List Token) : (Text.ofTokensIn stack text run ts).plain.head? =
      (shownBefore stack ++ text.plain ++ run.reverse ++ ts.flatMap Token.shown).head? := by
  -- By the tokens. Only a space may add nothing, where one is visible in front of it.
  induction ts generalizing stack text run with
  | nil => simp [Text.ofTokensIn, plain_foldl_close]
  | cons t ts ih =>
    cases t with
    | chars s => simp [Text.ofTokensIn, ih, Token.shown]
    | space =>
      rw [Text.ofTokensIn, ih]
      split
      · next hspace =>
        have hne : shownBefore stack ++ text.plain ++ run.reverse ≠ [] := by
          cases run with
          | nil => simp at hspace
          | cons c run => simp
        rw [List.head?_append_of_ne_nil _ hne, List.head?_append_of_ne_nil _ hne]
      · simp [Token.shown]
    | opens w => simp [Text.ofTokensIn, ih, Token.shown, shownBefore_cons, Text.plain]
    | closes =>
      cases stack with
      | nil => simp [Text.ofTokensIn, ih, Token.shown]
      | cons f stack =>
        simp [Text.ofTokensIn, ih, Token.shown, shownBefore_cons, plain_close]
    | piece t => simp [Text.ofTokensIn, ih, Token.shown]

/-- A text shows first what the first of its tokens shows that shows something. -/
theorem head_plain (s : List Char) :
    (plain s).head? = ((tokens s).flatMap Token.shown).head? :=
  head_plain_ofTokensIn [] .nil [] (tokens s)

/-! Reading in a group. -/

/-- The text closes the braces that are open in front of it, `depth` in number, the last of them
with its last character. -/
inductive Closing : Nat → List Char → Prop
  | done : Closing 0 []
  | more {depth : Nat} {c : Char} {s : List Char} (h : Closing (depthAfter c (depth + 1)) s) :
      Closing (depth + 1) (c :: s)

theorem Grouped.closing {inside : Char → Prop} {s : List Char} (h : Grouped inside s) {depth : Nat}
    {t : List Char} (ht : Closing (depth + 1) t) : Closing (depth + 1) (s ++ t) := by
  induction h generalizing depth t with
  | nil => exact ht
  | @char _ c s _ hopen hclose _ ih =>
    refine .more ?_
    rw [depthAfter, if_neg hopen, if_neg hclose]
    exact ih ht
  | @group _ body s _ _ ihbody ih =>
    rw [List.cons_append, List.append_assoc]
    exact .more (ihbody (.more (ih ht)))

/-- A balanced group behind the brace that opens it. -/
theorem Grouped.closing_group {inside : Char → Prop} {body : List Char} (h : Grouped inside body) :
    Closing 1 (body ++ ['\x7d']) := by
  have hend : Closing (depthAfter '\x7d' 1) [] := .done
  exact h.closing (.more hend)

/-- The group that starts a text is told by its braces. -/
theorem firstGroup_append {depth : Nat} {s : List Char} (h : Closing (depth + 1) s)
    (t : List Char) : firstGroup (depth + 1) (s ++ t) = s := by
  induction s generalizing depth with
  | nil => cases h
  | cons c s ih =>
    cases h with
    | more hrest =>
      rw [List.cons_append, firstGroup]
      cases hdepth : depthAfter c (depth + 1) with
      | zero =>
        have hc : c = '\x7d' := by
          unfold depthAfter at hdepth
          split_ifs at hdepth with hopen hclose
          exact hclose
        rw [hdepth] at hrest
        cases hrest
        rw [if_pos ⟨hc, rfl⟩]
      | succ outer =>
        rw [hdepth] at hrest
        rw [if_neg (by simp), ih hrest]

/-- The reader stays within the text: what follows is of no account, and what it leaves closes the
braces that are still open. -/
def StaysWithin {α : Type} (f : List Char → α × List Char) (s : List Char) : Prop :=
  (∀ t, f (s ++ t) = ((f s).1, (f s).2 ++ t)) ∧ ∃ depth, Closing depth (f s).2

namespace Closing

variable {depth : Nat} {s : List Char}

theorem span (h : Closing (depth + 1) s) {p : Char → Bool} (hopen : p '\x7b' = false)
    (hclose : p '\x7d' = false) : Closing (depth + 1) (s.dropWhile p) ∧
      ∀ t, (s ++ t).takeWhile p = s.takeWhile p ∧ (s ++ t).dropWhile p = s.dropWhile p ++ t := by
  induction s with
  | nil => cases h
  | cons c s ih =>
    cases hc : p c with
    | false => simpa [hc] using h
    | true =>
      have hafter : depthAfter c (depth + 1) = depth + 1 := by
        rw [depthAfter, if_neg, if_neg] <;> rintro rfl <;> simp_all
      cases h with
      | more hrest => simpa [hc] using ih (hafter ▸ hrest)

theorem trimStart (h : Closing (depth + 1) s) : Closing (depth + 1) (trimStart s) ∧
    ∀ t, Citation.trimStart (s ++ t) = Citation.trimStart s ++ t := by
  obtain ⟨hrest, hspan⟩ := h.span (p := isWhitespace) (by decide) (by decide)
  exact ⟨hrest, fun t => (hspan t).2⟩

theorem rawGroup {inner : Nat} (h : Closing (depth + 1 + (inner + 1)) s) :
    StaysWithin (rawGroup inner) s := by
  induction s generalizing inner with
  | nil => cases h
  | cons c s ih =>
    cases h with
    | more hrest =>
      by_cases hend : c = '\x7d' ∧ inner = 0
      · obtain ⟨rfl, rfl⟩ := hend
        exact ⟨fun t => rfl, depth + 1, hrest⟩
      · have hafter : depthAfter c (depth + 1 + inner + 1) =
            depth + 1 + (depthAfter c inner + 1) := by
          unfold depthAfter
          split_ifs with hopen hclose
          · omega
          · have hinner : inner ≠ 0 := fun hzero => hend ⟨hclose, hzero⟩
            omega
          · omega
        have hrest : Closing (depthAfter c (depth + 1 + inner + 1)) s := hrest
        rw [hafter] at hrest
        obtain ⟨happend, hbehind⟩ := ih hrest
        constructor
        · intro t
          simp only [List.cons_append, Latex.rawGroup, if_neg hend, happend]
        · simpa only [Latex.rawGroup, if_neg hend] using hbehind

theorem controlName (h : Closing (depth + 1) s) : StaysWithin controlName s := by
  obtain ⟨hletters, hspan⟩ := h.span (p := Char.isAlpha) (by decide) (by decide)
  cases h with
  | @more _ c r hrest =>
    unfold StaysWithin Latex.controlName
    cases hname : (c :: r).takeWhile Char.isAlpha with
    | nil => exact ⟨fun t => by rw [(hspan t).1, hname]; rfl, _, hrest⟩
    | cons a name => exact ⟨fun t => by rw [(hspan t).1, (hspan t).2, hname], _, hletters⟩

theorem rawArgument (h : Closing (depth + 1) s) : StaysWithin rawArgument s := by
  obtain ⟨hstart, htrim⟩ := h.trimStart
  suffices hat : StaysWithin rawArgumentAt (Citation.trimStart s) by
    refine ⟨fun t => ?_, hat.2⟩
    rw [Latex.rawArgument, htrim, hat.1]
    rfl
  generalize Citation.trimStart s = u at hstart
  cases hstart with
  | @more _ c r hrest =>
    unfold StaysWithin
    simp only [List.cons_append, rawArgumentAt]
    split_ifs with hopen hcontrol
    · subst hopen
      exact rawGroup hrest
    · subst hcontrol
      obtain ⟨happend, hbehind⟩ := controlName hrest
      exact ⟨fun t => by rw [happend], hbehind⟩
    · exact ⟨fun _ => rfl, _, hrest⟩

theorem argument (h : Closing (depth + 1) s) (w : Option Wrap) : StaysWithin (argument w) s := by
  obtain ⟨hstart, htrim⟩ := h.trimStart
  unfold StaysWithin Latex.argument
  simp only [htrim]
  generalize Citation.trimStart s = u at hstart
  cases hstart with
  | @more _ c r hrest =>
    by_cases hopen : c = '\x7b'
    · simpa [hopen] using ⟨_, hrest⟩
    · cases w <;> simpa [hopen] using ⟨_, hrest⟩

/-- A reader whose last step is to take the label of a link, for which nothing is left in the
text. -/
def AwaitsLabel (f : List Char → Lexeme × List Char) (s : List Char) : Prop :=
  ∃ url, ∀ t, f (s ++ t) = (.token (Latex.argument (some (.link url)) t).1,
    (Latex.argument (some (.link url)) t).2)

theorem namedCommand (h : Closing (depth + 1) s) (name : List Char) :
    StaysWithin (namedCommand name) s ∨ AwaitsLabel (namedCommand name) s := by
  obtain ⟨hraw, outer, hbehind⟩ := h.rawArgument
  unfold StaysWithin AwaitsLabel Latex.namedCommand
  cases command? name with
  | none => exact .inl ⟨fun _ => rfl, _, h⟩
  | some command =>
    cases command with
    | symbol t => exact .inl ⟨fun _ => rfl, _, h⟩
    | accent mark => exact .inl ⟨fun t => by simp only [hraw], outer, hbehind⟩
    | group w =>
      obtain ⟨hargument, hbehind⟩ := h.argument w
      exact .inl ⟨fun t => by simp only [hargument], hbehind⟩
    | url => exact .inl ⟨fun t => by simp only [hraw], outer, hbehind⟩
    | href =>
      simp only [hraw]
      cases outer with
      | zero =>
        generalize (Latex.rawArgument s).2 = r at hbehind
        cases hbehind
        exact .inr ⟨_, fun t => rfl⟩
      | succ outer =>
        obtain ⟨hlabel, hbehind⟩ := hbehind.argument (some (.link (Latex.rawArgument s).1))
        exact .inl ⟨fun t => by simp only [hlabel], hbehind⟩

theorem controlSequence (h : Closing (depth + 1) s) :
    StaysWithin controlSequence s ∨ AwaitsLabel controlSequence s := by
  obtain ⟨hletters, hspan⟩ := h.span (p := Char.isAlpha) (by decide) (by decide)
  obtain ⟨hstart, htrim⟩ := hletters.trimStart
  cases h with
  | @more _ c r hrest =>
    unfold StaysWithin AwaitsLabel Latex.controlSequence
    simp only [List.cons_append] at hspan ⊢
    by_cases hc : c.isAlpha = true
    · simp only [hc, ↓reduceIte, hspan, htrim]
      exact hstart.namedCommand _
    · simp only [hc, Bool.false_eq_true, ↓reduceIte]
      cases hmark : accentSigns.lookup c with
      | none => exact .inl ⟨fun _ => rfl, _, hrest⟩
      | some mark =>
        -- An accent is no brace, so that as many are open behind it.
        have hafter : depthAfter c (depth + 1) = depth + 1 := by
          rw [depthAfter, if_neg, if_neg] <;> rintro rfl <;> cases hmark
        obtain ⟨hraw, hbehind⟩ := (hafter ▸ hrest).rawArgument
        exact .inl ⟨fun t => by simp only [hraw], hbehind⟩

theorem lexeme {c : Char} (h : Closing (depth + 1) (c :: s)) :
    StaysWithin (lexeme c) s ∨ AwaitsLabel (lexeme c) s := by
  cases h with
  | more hrest =>
    unfold StaysWithin AwaitsLabel Latex.lexeme
    split_ifs with hopen hclose hcontrol htie hhyphen hspace
    · exact .inl ⟨fun _ => rfl, _, hrest⟩
    · exact .inl ⟨fun _ => rfl, _, hrest⟩
    all_goals
      rw [depthAfter, if_neg hopen, if_neg hclose] at hrest
    · exact hrest.controlSequence
    · exact .inl ⟨fun _ => rfl, _, hrest⟩
    · obtain ⟨hbehind, hspan⟩ := hrest.span (p := (· == '-')) (by decide) (by decide)
      exact .inl ⟨fun t => by simp only [hspan], _, hbehind⟩
    · exact .inl ⟨fun _ => rfl, _, hrest⟩
    · exact .inl ⟨fun _ => rfl, _, hrest⟩

/-- The tokens of a closing text are followed by those of the text behind it, but a link that lacks
its label finds it there. -/
theorem tokens {depth : Nat} {s : List Char} (h : Closing depth s) :
    ∃ ts, (∀ t, tokens (s ++ t) = ts ++ tokens t) ∨
      ∃ w, ∀ t, Latex.tokens (s ++ t) =
        ts ++ (Latex.argument (some w) t).1 :: Latex.tokens (Latex.argument (some w) t).2 := by
  induction hlength : s.length using Nat.strong_induction_on generalizing s depth with
  | _ n ih =>
    subst hlength
    cases h with
    | done => exact ⟨[], .inl fun _ => rfl⟩
    | @more depth c s hrest =>
      obtain ⟨happend, outer, hbehind⟩ | ⟨url, hlabel⟩ := Closing.lexeme (.more hrest)
      · obtain ⟨ts, hts⟩ := ih _ (Nat.lt_succ_of_le (lexeme_length_le c s)) hbehind rfl
        refine ⟨(Latex.lexeme c s).1.decoded :: ts, ?_⟩
        simp only [List.cons_append, tokens_eq_cons, happend]
        simpa using hts
      · refine ⟨[], .inr ⟨.link url, fun t => ?_⟩⟩
        rw [List.cons_append, tokens_eq_cons, hlabel]
        rfl

end Closing

theorem plain_eq_nil_iff (s : List Char) :
    plain s = [] ↔ (tokens s).flatMap Token.shown = [] := by
  rw [← List.head?_eq_none_iff, head_plain, List.head?_eq_none_iff]

theorem shown_period (t : List Char) :
    ((tokens ('.' :: t)).flatMap Token.shown).head? = some '.' := by
  have hlexeme : lexeme '.' t = (.token (.chars ['.']), t) := rfl
  rw [tokens_eq_cons, hlexeme]
  rfl

theorem shown_label (w : Wrap) (t : List Char) :
    (argument (some w) ('.' :: t)).1.shown = ['.'] := by
  have hlabel : argument (some w) ('.' :: t) = (.piece (.within w (.ofChars ['.'])), t) := rfl
  rw [hlabel, Token.shown, Text.plain_within, Text.plain_ofChars]

/-- What a closing text shows first is shown first whatever follows it. If it shows nothing, a
period behind it is shown first. -/
theorem head_plain_append {depth : Nat} {s : List Char} (h : Closing depth s) :
    (plain s ≠ [] → ∀ t, (plain (s ++ t)).head? = (plain s).head?) ∧
      (plain s = [] → ∀ t, (plain (s ++ '.' :: t)).head? = some '.') := by
  suffices hshown : ∃ first, (tokens s).flatMap Token.shown = first ∧
      ∀ t, ∃ rest, (tokens (s ++ t)).flatMap Token.shown = first ++ rest ∧
        ∀ u, t = '.' :: u → rest.head? = some '.' by
    obtain ⟨first, hfirst, happend⟩ := hshown
    rw [Ne, plain_eq_nil_iff, head_plain, hfirst]
    constructor
    · intro hne t
      obtain ⟨rest, hrest, -⟩ := happend t
      rw [head_plain, hrest]
      exact List.head?_append_of_ne_nil _ hne
    · rintro rfl t
      obtain ⟨rest, hrest, hperiod⟩ := happend ('.' :: t)
      rw [head_plain, hrest, List.nil_append]
      exact hperiod t rfl
  obtain ⟨ts, hts | ⟨w, hts⟩⟩ := h.tokens
  · have hnone := hts []
    rw [List.append_nil, tokens, List.append_nil] at hnone
    refine ⟨ts.flatMap Token.shown, by rw [hnone],
      fun t => ⟨_, by rw [hts, List.flatMap_append], ?_⟩⟩
    rintro u rfl
    exact shown_period u
  · have hnone := hts []
    have hlabel : argument (some w) [] = (.piece .nil, []) := rfl
    rw [List.append_nil, hlabel, tokens] at hnone
    refine ⟨ts.flatMap Token.shown, by rw [hnone]; simp [Token.shown, Text.plain],
      fun t => ⟨_, by rw [hts, List.flatMap_append], ?_⟩⟩
    rintro u rfl
    rw [List.flatMap_cons, shown_label]
    rfl

/-! Cutting to initials. -/

/-- The initials start with that of the first piece, if it has one. Another piece stands behind a
hyphen. -/
theorem initialsOf_eq {word p : List Char} {ps : List (List Char)}
    (h : piecesOutside (· == '-') 0 word = p :: ps) (hp : p ≠ []) :
    ∃ r, initialsOf word = initial p ++ '.' :: r ∧
      (ps = [] → r = []) ∧ (r = [] ∨ ∃ u, r = '-' :: u) := by
  unfold initialsOf
  rw [h, List.filter_cons_of_pos (by simpa using hp), List.map_cons]
  cases hps : (ps.filter (· ≠ [])).map fun p => initial p ++ ['.'] with
  | nil => exact ⟨[], by simp, fun _ => rfl, .inl rfl⟩
  | cons q qs =>
    refine ⟨'-' :: ['-'].intercalate (q :: qs), by simp [List.intercalate_cons_cons], ?_,
      .inr ⟨_, rfl⟩⟩
    rintro rfl
    simp at hps

/-- A word that starts with one character for its first piece. -/
theorem initialsOf_char {c : Char} {s : List Char} (hhyphen : c ≠ '-') (hopen : c ≠ '\x7b')
    (hclose : c ≠ '\x7d') : ∃ r, initialsOf (c :: s) = c :: '.' :: r ∧
      (Uncut (· == '-') 0 s → r = []) ∧ (r = [] ∨ ∃ u, r = '-' :: u) := by
  obtain ⟨q, qs, hq⟩ := List.exists_cons_of_ne_nil (piecesOutside_ne_nil (· == '-') 0 s)
  have hpieces : piecesOutside (· == '-') 0 (c :: s) = (c :: q) :: qs := by
    rw [piecesOutside, if_neg (by simpa using hhyphen), depthAfter, if_neg hopen, if_neg hclose, hq,
      extendFirst]
  obtain ⟨r, hr, hone, hmore⟩ := initialsOf_eq hpieces (List.cons_ne_nil c q)
  refine ⟨r, ?_, fun huncut => hone ?_, hmore⟩
  · simpa [initial, hopen] using hr
  · rw [(CutInto.last huncut).eq] at hq
    exact (List.cons.inj hq).2.symm

/-- A word that starts with a group, which is kept whole. -/
theorem initialsOf_group {body : List Char} (hbody : Grouped (fun _ => True) body) (s : List Char) :
    ∃ r, initialsOf ('\x7b' :: (body ++ '\x7d' :: s)) =
      '\x7b' :: (body ++ ['\x7d'] ++ '.' :: r) := by
  have hgroup : Grouped (fun _ => False) ('\x7b' :: (body ++ ['\x7d'])) := .group hbody .nil
  obtain ⟨huncut, hclosed⟩ : Uncut (· == '-') 0 ('\x7b' :: (body ++ ['\x7d'])) ∧
      depthBehind 0 ('\x7b' :: (body ++ ['\x7d'])) = 0 :=
    hgroup.uncut (by decide) fun _ _ h => h.elim
  obtain ⟨q, qs, hq⟩ := List.exists_cons_of_ne_nil (piecesOutside_ne_nil (· == '-') 0 s)
  have hpieces : piecesOutside (· == '-') 0 ('\x7b' :: (body ++ '\x7d' :: s)) =
      ('\x7b' :: (body ++ ['\x7d'] ++ q)) :: qs := by
    have happend := piecesOutside_append huncut s
    rw [hclosed, hq, foldr_extendFirst] at happend
    simpa using happend
  obtain ⟨r, hr, -⟩ := initialsOf_eq hpieces (List.cons_ne_nil _ _)
  have hinitial : initial ('\x7b' :: (body ++ ['\x7d'] ++ q)) = '\x7b' :: (body ++ ['\x7d']) :=
    congrArg (List.cons '\x7b') (firstGroup_append hbody.closing_group q)
  exact ⟨r, by rw [hr, hinitial]; rfl⟩

theorem head_plain_open (s : List Char) : (plain ('\x7b' :: s)).head? = (plain s).head? := by
  have hlexeme : lexeme '\x7b' s = (.token (.opens (some .guarded)), s) := rfl
  rw [head_plain, head_plain, tokens_eq_cons, hlexeme]
  rfl

theorem head_plain_char {c : Char} (hgap : isGap c = false) (hhyphen : c ≠ '-')
    (hopen : c ≠ '\x7b') (hclose : c ≠ '\x7d') (hcontrol : c ≠ '\\') (s : List Char) :
    (plain (c :: s)).head? = some c := by
  obtain ⟨hspace, htie⟩ : isWhitespace c = false ∧ c ≠ '~' := by simpa [isGap] using hgap
  have hlexeme : lexeme c s = (.token (.chars [c]), s) := by
    simp [lexeme, hspace, htie, hhyphen, hopen, hclose, hcontrol]
  rw [head_plain, tokens_eq_cons, hlexeme]
  rfl

/-- A backslash in front of a period puts a dot on what follows: on nothing, or on a hyphen. -/
theorem plain_dotted {r : List Char} (hr : r = [] ∨ ∃ u, r = '-' :: u) :
    (r = [] → plain ('\\' :: '.' :: r) = []) ∧
      (plain ('\\' :: '.' :: r) = [] ∨ (plain ('\\' :: '.' :: r)).head? = some '-') := by
  have hnone : plain ['\\', '.'] = [] := by decide +kernel
  refine ⟨fun hnil => hnil ▸ hnone, ?_⟩
  obtain rfl | ⟨u, rfl⟩ := hr
  · exact .inl hnone
  · have hlexeme : lexeme '\\' ('.' :: '-' :: u) = (.accent '\u0307' ['-'], u) := rfl
    have hdotted : accented '\u0307' (plain ['-']) = ['-', '\u0307'] := by decide +kernel
    refine .inr ?_
    rw [head_plain, tokens_eq_cons, hlexeme]
    show (accented '\u0307' (plain ['-']) ++ _).head? = _
    rw [hdotted]
    rfl

/-- The word shows something, and its initials show the same character first. -/
def KeepsInitial (word : List Char) : Prop :=
  ∃ c, (plain word).head? = some c ∧ (plain (initialsOf word)).head? = some c

/-- A balanced word without a hyphen in front keeps its initial if it starts with a character of its
own, or with a group that shows something. A group that shows nothing is kept with the period
behind it. Of a command outside braces the backslash is left, and nothing is shown, or a hyphen. -/
theorem keepsInitial {word : List Char} (h : Grouped (fun c => isGap c = false) word)
    (hhyphen : word.head? ≠ some '-') :
    (∀ c ∈ word.head?, c ≠ '\x7b' → c ≠ '\\' → KeepsInitial word) ∧
      (∀ body s, word = '\x7b' :: (body ++ '\x7d' :: s) → Grouped (fun _ => True) body →
        (plain ('\x7b' :: (body ++ ['\x7d'])) ≠ [] → KeepsInitial word) ∧
        (plain ('\x7b' :: (body ++ ['\x7d'])) = [] →
          (plain (initialsOf word)).head? = some '.')) ∧
      ∀ s, word = '\\' :: s → (Uncut (· == '-') 0 s → plain (initialsOf word) = []) ∧
        (plain (initialsOf word) = [] ∨ (plain (initialsOf word)).head? = some '-') := by
  refine ⟨?_, ?_, ?_⟩
  · intro c hc hopen hcontrol
    cases h with
    | nil => cases hc
    | @char _ d s hgap _ hclose =>
      obtain rfl : d = c := by simpa using hc
      have hne : d ≠ '-' := by simpa using hhyphen
      obtain ⟨r, hr, -⟩ := initialsOf_char (s := s) hne hopen hclose
      exact ⟨d, head_plain_char hgap hne hopen hclose hcontrol s,
        hr ▸ head_plain_char hgap hne hopen hclose hcontrol _⟩
    | group => exact absurd (by simpa using hc) hopen.symm
  · rintro body s rfl hbody
    obtain ⟨r, hr⟩ := initialsOf_group hbody s
    obtain ⟨hshown, hnone⟩ := head_plain_append hbody.closing_group
    have hgroup : plain ('\x7b' :: (body ++ ['\x7d'])) = [] ↔ plain (body ++ ['\x7d']) = [] := by
      rw [← List.head?_eq_none_iff, head_plain_open, List.head?_eq_none_iff]
    have hword : '\x7b' :: (body ++ '\x7d' :: s) = '\x7b' :: (body ++ ['\x7d'] ++ s) := by simp
    rw [Ne, hgroup, hr, KeepsInitial, hr, hword]
    simp only [head_plain_open]
    constructor
    · intro hne
      obtain ⟨c, cs, hc⟩ := List.exists_cons_of_ne_nil hne
      rw [hshown hne, hshown hne, hc]
      exact ⟨c, rfl, rfl⟩
    · intro hnil
      exact hnone hnil r
  · rintro s rfl
    obtain ⟨r, hr, hone, hmore⟩ := initialsOf_char (c := '\\') (s := s) (by decide) (by decide)
      (by decide)
    obtain ⟨hnone, hdotted⟩ := plain_dotted hmore
    rw [hr]
    exact ⟨fun huncut => hnone (hone huncut), hdotted⟩

theorem grouped_of_plain {w : List Char}
    (h : w.all (fun c => isGap c = false ∧ c ≠ '\x7b' ∧ c ≠ '\x7d') = true) :
    Grouped (fun c => isGap c = false) w :=
  grouped_of_all (by simpa using h)

theorem grouped_group {body w : List Char}
    (hbody : body.all (fun c => c ≠ '\x7b' ∧ c ≠ '\x7d') = true)
    (h : Grouped (fun c => isGap c = false) w) :
    Grouped (fun c => isGap c = false) ('\x7b' :: (body ++ '\x7d' :: w)) :=
  .group (grouped_of_all (by simpa using hbody)) h

/-- An accented letter in braces is kept whole, one outside them is lost. -/
theorem keepsInitial_accented :
    (Grouped (fun c => isGap c = false) Person.emile ∧ Person.emile.head? ≠ some '-' ∧
      plain ('\x7b' :: ("\\'E".toList ++ ['\x7d'])) ≠ [] ∧ KeepsInitial Person.emile) ∧
    Grouped (fun c => isGap c = false) "\\'Emile".toList ∧
      "\\'Emile".toList.head? ≠ some '-' ∧ Uncut (· == '-') 0 "'Emile".toList ∧
      plain (initialsOf "\\'Emile".toList) = [] := by
  have hbraced : Grouped (fun c => isGap c = false) Person.emile :=
    grouped_group (by decide) (grouped_of_plain (by decide))
  have hbody : Grouped (fun _ => True) "\\'E".toList :=
    (grouped_of_plain (by decide)).mono fun _ _ => trivial
  have hshown : plain ('\x7b' :: ("\\'E".toList ++ ['\x7d'])) ≠ [] := by decide +kernel
  have hbare : Grouped (fun c => isGap c = false) "\\'Emile".toList := grouped_of_plain (by decide)
  have huncut : Uncut (· == '-') 0 "'Emile".toList := by
    intro u c v hs _
    have hmem : c ∈ "'Emile".toList := by simp [hs]
    have hall : ("'Emile".toList.all fun c => !(c == '-')) = true := by decide
    simpa using List.all_eq_true.1 hall c hmem
  exact ⟨⟨hbraced, by decide, hshown,
      ((keepsInitial hbraced (by decide)).2.1 _ _ rfl hbody).1 hshown⟩,
    hbare, by decide, huncut, ((keepsInitial hbare (by decide)).2.2 _ rfl).1 huncut⟩

/-- An accent in front of a letter, and a group that shows nothing but is not empty. -/
theorem not_keepsInitial :
    (Grouped (fun c => isGap c = false) "\\'Emile".toList ∧
      plain "\\'Emile".toList = "Émile".toList ∧ ¬ KeepsInitial "\\'Emile".toList) ∧
    Grouped (fun c => isGap c = false) "\x7b\\/\x7dJean".toList ∧
      plain "\x7b\\/\x7dJean".toList = "Jean".toList ∧
      ¬ KeepsInitial "\x7b\\/\x7dJean".toList := by
  have hlost : plain (initialsOf "\\'Emile".toList) = [] := by decide +kernel
  have hbare : plain "\\'Emile".toList = "Émile".toList := by decide +kernel
  have hempty : plain (initialsOf "\x7b\\/\x7dJean".toList) = ['.'] := by decide +kernel
  have hjean : plain "\x7b\\/\x7dJean".toList = "Jean".toList := by decide +kernel
  refine ⟨⟨grouped_of_plain (by decide), hbare, ?_⟩,
    @grouped_group "\\/".toList _ (by decide) (grouped_of_plain (by decide)), hjean, ?_⟩
  · rintro ⟨c, -, hc⟩
    rw [hlost] at hc
    cases hc
  · rintro ⟨c, hc, hc'⟩
    rw [hjean] at hc
    rw [hempty] at hc'
    cases hc.trans hc'.symm

end Citation
