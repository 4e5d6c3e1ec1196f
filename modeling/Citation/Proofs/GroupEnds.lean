import Citation.Proofs.Arguments
import Citation.Proofs.Decoding

/-! Where groups end. The scanner of the source shields what stands behind a backslash, the decoder
reads commands with their arguments, and a raw argument counts every brace. They leave a group at
the same brace if the commands in it find their arguments there and the braces of raw arguments
pair up. -/
namespace Citation
open Latex Source

/-! The depth of the source. -/

/-- The scanner of the source gets from one depth to another on the way from `s` to its rest `r`. -/
def Passes (depth : Nat) (s : List Char) (depth' : Nat) (r : List Char) : Prop :=
  ∃ u, s = u ++ r ∧ ∀ v, groupBody depth (s ++ v) = prepended u (groupBody depth' (r ++ v))

namespace Passes

variable {depth depth' depth'' : Nat} {s t r : List Char}

theorem refl (depth : Nat) (s : List Char) : Passes depth s depth s :=
  ⟨[], rfl, fun v => by simp [prepended]⟩

theorem trans (h : Passes depth s depth' t) (h' : Passes depth' t depth'' r) :
    Passes depth s depth'' r := by
  obtain ⟨u, rfl, hu⟩ := h
  obtain ⟨u', rfl, hu'⟩ := h'
  exact ⟨u ++ u', by simp, fun v => by rw [hu, hu', prepended_prepended]⟩

theorem plain {c : Char} (hc : IsPlain c) (depth : Nat) (s : List Char) :
    Passes depth (c :: s) depth s :=
  ⟨[c], rfl, fun v => groupBody_plain hc depth (s ++ v)⟩

theorem shielded (depth : Nat) (c : Char) (s : List Char) :
    Passes depth ('\\' :: c :: s) depth s :=
  ⟨['\\', c], rfl, fun v => groupBody_shielded depth c (s ++ v)⟩

/-- A backslash in front of a plain character shields nothing. -/
theorem backslash {c : Char} (hc : IsPlain c) (depth : Nat) (s : List Char) :
    Passes depth ('\\' :: c :: s) depth (c :: s) := by
  refine ⟨['\\'], rfl, fun v => ?_⟩
  simp only [List.cons_append, groupBody_shielded, groupBody_plain hc, prepended_prepended,
    List.nil_append]

theorem opens (depth : Nat) (s : List Char) : Passes depth ('{' :: s) (depth + 1) s :=
  ⟨['{'], rfl, fun v => groupBody_open depth (s ++ v)⟩

theorem closes (depth : Nat) (s : List Char) : Passes (depth + 1) ('}' :: s) depth s :=
  ⟨['}'], rfl, fun v => groupBody_inner depth (s ++ v)⟩

theorem group {b : List Char} (hb : Source.Balanced b) (depth : Nat) (s : List Char) :
    Passes depth ('{' :: (b ++ '}' :: s)) depth s := by
  have hbody : Passes (depth + 1) (b ++ '}' :: s) (depth + 1) ('}' :: s) :=
    ⟨b, rfl, fun v => by
      rw [List.append_assoc]
      exact (closes_iff.2 hb).groupBody_append (depth + 1) _⟩
  exact (opens depth _).trans (hbody.trans (closes depth s))

theorem dropWhile {p : Char → Bool} (hp : ∀ c, p c = true → IsPlain c) (depth : Nat)
    (s : List Char) : Passes depth s depth (s.dropWhile p) := by
  induction s with
  | nil => exact refl depth []
  | cons c s ih =>
    cases hc : p c with
    | false => simpa [hc] using refl depth (c :: s)
    | true => simpa [hc] using (plain (hp c hc) depth s).trans ih

end Passes

theorem isPlain_of_isAlpha {c : Char} (h : c.isAlpha = true) : IsPlain c := by
  refine ⟨?_, ?_, ?_⟩ <;> rintro rfl <;> simp at h

theorem isPlain_of_isWhitespace {c : Char} (h : isWhitespace c = true) : IsPlain c := by
  refine ⟨?_, ?_, ?_⟩ <;> rintro rfl <;> revert h <;> decide

theorem passes_trimStart (depth : Nat) (s : List Char) : Passes depth s depth (trimStart s) :=
  .dropWhile (fun _ => isPlain_of_isWhitespace) depth s

/-- A control sequence ends where its name ends. -/
theorem passes_controlName (depth : Nat) (c : Char) (s : List Char) :
    Passes depth ('\\' :: c :: s) depth (controlName (c :: s)).2 := by
  have hletters : Passes depth s depth (s.dropWhile Char.isAlpha) :=
    .dropWhile (fun _ => isPlain_of_isAlpha) depth s
  have hshielded := Passes.shielded depth c s
  cases hc : c.isAlpha with
  | false => simpa [controlName, hc] using hshielded
  | true => simpa [controlName, hc] using hshielded.trans hletters

theorem passes_rawArgument {s : List Char} (h : StartsRaw (trimStart s)) (depth : Nat) :
    Passes depth s depth (rawArgument s).2 := by
  refine (passes_trimStart depth s).trans ?_
  unfold rawArgument
  generalize trimStart s = t at h ⊢
  cases h with
  | @group b t hb hpairs => simpa [rawArgumentAt, rawGroup_append hpairs] using Passes.group hb depth t
  | control c t => simpa [rawArgumentAt] using passes_controlName depth c t
  | char hc t => simpa [rawArgumentAt, hc.1, hc.2.1] using Passes.plain hc depth t

/-! Tokens at the depth of the source. -/

/-- Behind the token `t` that is read off `s`, as many groups are under way as the scanner of the
source has open. -/
def Agrees (depth : Nat) (s : List Char) (t : Token) (r : List Char) : Prop :=
  ∃ depth', Passes depth s depth' r ∧ ∀ ts, NestedIn depth' ts → NestedIn depth (t :: ts)

theorem Agrees.behind {depth : Nat} {s s' r : List Char} {t : Token}
    (hs : Passes depth s depth s') (h : Agrees depth s' t r) : Agrees depth s t r := by
  obtain ⟨depth', hr, ht⟩ := h
  exact ⟨depth', hs.trans hr, ht⟩

theorem Agrees.chars {depth : Nat} {s r : List Char} (h : Passes depth s depth r)
    (cs : List Char) : Agrees depth s (.chars cs) r := ⟨depth, h, fun _ => id⟩

theorem Agrees.piece {depth : Nat} {s r : List Char} (h : Passes depth s depth r) (t : Text) :
    Agrees depth s (.piece t) r := ⟨depth, h, fun _ => id⟩

theorem Agrees.opens (depth : Nat) (s : List Char) (w : Option Wrap) :
    Agrees depth ('{' :: s) (.opens w) s := ⟨depth + 1, .opens depth s, fun _ => id⟩

theorem Agrees.closes (depth : Nat) (s : List Char) : Agrees (depth + 1) ('}' :: s) .closes s :=
  ⟨depth, .closes depth s, fun _ h => ⟨depth, rfl, h⟩⟩

theorem agrees_argument {s : List Char} (h : StartsRich (trimStart s)) (depth : Nat)
    (w : Option Wrap) : Agrees depth s (argument w s).1 (argument w s).2 := by
  refine .behind (passes_trimStart depth s) ?_
  unfold argument
  generalize trimStart s = t at h ⊢
  cases h with
  | group t => exact .opens depth t w
  | @backslash c hc t => cases w <;> exact .piece (.backslash hc depth t) _
  | @char c hc t =>
    simp only [hc.2.1, ↓reduceIte]
    cases w <;> exact .piece (.plain hc depth t) _

theorem agrees_namedCommand {name s : List Char}
    (h : ∀ command ∈ command? name, command.Supplied s) (depth : Nat) :
    Agrees depth s (namedCommand name s).1.decoded (namedCommand name s).2 := by
  unfold namedCommand
  cases hcommand : command? name with
  | none => exact .chars (.refl depth s) _
  | some command =>
    have hsupplied := h command hcommand
    cases command with
    | symbol t => exact .chars (.refl depth s) _
    | accent mark => exact .chars (passes_rawArgument hsupplied depth) _
    | group w => exact agrees_argument hsupplied depth w
    | url => exact .piece (passes_rawArgument hsupplied depth) _
    | href =>
      obtain ⟨hraw, hrich⟩ := hsupplied
      exact .behind (passes_rawArgument hraw depth) (agrees_argument hrich depth _)

theorem agrees_controlSequence {s : List Char} (h : StartsControl s) (depth : Nat) :
    Agrees depth ('\\' :: s) (controlSequence s).1.decoded (controlSequence s).2 := by
  cases h with
  | @named c s hc hsupplied =>
    have hname : Passes depth ('\\' :: c :: s) depth ((c :: s).dropWhile Char.isAlpha) := by
      simpa [controlName, hc] using passes_controlName depth c s
    simp only [controlSequence, hc, ↓reduceIte]
    exact .behind (hname.trans (passes_trimStart depth _)) (agrees_namedCommand hsupplied depth)
  | @sign c s hc haccent =>
    have hsign := Passes.shielded depth c s
    simp only [controlSequence, hc]
    cases hlookup : accentSigns.lookup c with
    | none => exact .chars hsign _
    | some mark => exact .chars (hsign.trans (passes_rawArgument (haccent mark hlookup) depth)) _

/-- What a lexeme opens and closes is what the scanner of the source finds opened and closed. -/
theorem agrees_lexeme {c : Char} {s : List Char} (hc : c = '\\' → StartsControl s) {depth : Nat}
    (hclose : c = '}' → depth ≠ 0) :
    Agrees depth (c :: s) (lexeme c s).1.decoded (lexeme c s).2 := by
  unfold lexeme
  split_ifs with hopen hend hbackslash htie hhyphen hspace
  · subst hopen
    exact .opens depth s _
  · subst hend
    obtain ⟨depth, rfl⟩ := Nat.exists_eq_succ_of_ne_zero (hclose rfl)
    exact .closes depth s
  · subst hbackslash
    exact agrees_controlSequence (hc rfl) depth
  all_goals have hplain : IsPlain c := ⟨hbackslash, hopen, hend⟩
  · exact .chars (.plain hplain depth s) _
  · have hhyphens : Passes depth s depth (s.dropWhile (· == '-')) := by
      refine .dropWhile (fun d hd => ?_) depth s
      rwa [beq_iff_eq.1 hd, ← hhyphen]
    exact .chars ((Passes.plain hplain depth s).trans hhyphens) _
  · exact ⟨depth, .plain hplain depth s, fun _ => id⟩
  · exact .chars (.plain hplain depth s) _

/-- The tokens of a balanced text are nested. -/
theorem nestedIn_tokens {s : List Char} (h : SelfContained s) {depth : Nat}
    (hs : groupBody depth (s ++ ['}']) = some (s, ['}'])) : NestedIn depth (tokens s) := by
  -- By the reading of the text, token by token; what is left of it is balanced at the depth that
  -- the scanner of the source has reached, which is the depth of the groups under way.
  induction h generalizing depth with
  | nil =>
    rw [tokens]
    cases depth with
    | zero => rfl
    | succ depth => simp [groupBody_inner, prepended, groupBody] at hs
  | @cons c s hc _ ih =>
    have hclose : c = '}' → depth ≠ 0 := by
      rintro rfl rfl
      simp [groupBody_close] at hs
    obtain ⟨depth', ⟨u, hsplit, hu⟩, hnested⟩ := agrees_lexeme hc hclose
    have hrest := (hu ['}']).symm
    rw [hs, hsplit] at hrest
    rw [tokens_eq_cons]
    exact hnested _ (ih (of_prepended_eq hrest))

namespace Text

/-! Groups. -/

/-- A wrapped group is decoded on its own, and so is what follows the brace behind it. -/
theorem ofLatex_marks {w : Wrap} (hw : ReadableWrap w) {s : List Char} (hs : Source.Balanced s)
    (hcontained : SelfContained s) (r : List Char) :
    ofLatex ((Format.latex.marks w).1 ++ (s ++ '}' :: r)) =
      within w (ofLatex s) ++ ofLatex r := by
  rw [ofLatex, tokens_marks hw, tokens_append_close r hcontained]
  exact ofTokens_group w (nestedIn_tokens hcontained hs) (tokens r)

theorem ofLatex_url (s : List Char) :
    ofLatex ("\\url\x7b".toList ++ s) =
      within (.link (rawGroup 0 s).1) (ofChars (rawGroup 0 s).1) ++ ofLatex (rawGroup 0 s).2 := by
  have hlexeme : lexeme '\\' ("url\x7b".toList ++ s) =
      (.token (.piece (within (.link (rawGroup 0 s).1) (ofChars (rawGroup 0 s).1))),
        (rawGroup 0 s).2) := rfl
  exact (congrArg ofTokens (tokens_cons hlexeme)).trans (ofTokens_wrapped _ _ _)

theorem link_eq_of_append_eq {url url' : List Char} {t u : Text} (h : url ≠ []) (h' : url' ≠ [])
    (heq : within (.link url) (ofChars url) ++ t = within (.link url') (ofChars url') ++ u) :
    url = url' := by
  have hchars {s : List Char} (hs : s ≠ []) : ofChars s ≠ .nil := by simp [ofChars, consRun, hs]
  rw [within_append_eq, within_append_eq, consWrap, if_neg (hchars h), consWrap,
    if_neg (hchars h')] at heq
  simp only [wrap.injEq, Wrap.link.injEq] at heq
  exact heq.1

/-- A link holds what the source has in its group exactly if all braces pair up there. -/
theorem ofLatex_url_iff {s : List Char} (hs : Source.Balanced s) (r : List Char) :
    ofLatex ("\\url\x7b".toList ++ (s ++ '}' :: r)) =
      within (.link s) (ofChars s) ++ ofLatex r ↔ pairsUp 0 s = true := by
  rw [ofLatex_url]
  constructor
  · intro heq
    cases s with
    | nil => rfl
    | cons c s =>
      -- A balanced text does not begin with a closing brace, so that a link is there to compare.
      have hc : c ≠ '}' := by
        rintro rfl
        simp [Source.Balanced, groupBody_close] at hs
      have hne : (rawGroup 0 (c :: s ++ '}' :: r)).1 ≠ [] := by simp [rawGroup, hc]
      exact pairsUp_of_rawGroup (link_eq_of_append_eq hne (List.cons_ne_nil _ _) heq)
  · intro hpairs
    rw [rawGroup_append hpairs]

/-- A balanced text whose commands find their arguments in it is left at the brace behind it, in a
group and as an argument. A raw argument is left there exactly if its braces pair up. -/
theorem ofLatex_balanced {s : List Char} (hs : Source.Balanced s) (r : List Char) :
    (SelfContained s →
      ofLatex ('{' :: (s ++ '}' :: r)) = within .guarded (ofLatex s) ++ ofLatex r ∧
      ofLatex ("\\emph\x7b".toList ++ (s ++ '}' :: r)) =
        within .emph (ofLatex s) ++ ofLatex r) ∧
      (ofLatex ("\\url\x7b".toList ++ (s ++ '}' :: r)) =
        within (.link s) (ofChars s) ++ ofLatex r ↔ pairsUp 0 s = true) :=
  ⟨fun hcontained => ⟨ofLatex_marks (w := .guarded) trivial hs hcontained r,
    ofLatex_marks (w := .emph) trivial hs hcontained r⟩, ofLatex_url_iff hs r⟩

/-- An escaped brace and an accent with its argument. -/
def accentedWord : List Char := ['\\', '}', '\\', '\'', '{', 'e', '}']

theorem ofLatex_balanced_accentedWord :
    Source.Balanced accentedWord ∧ SelfContained accentedWord ∧
      ofLatex ('{' :: (accentedWord ++ '}' :: ['r'])) =
        within .guarded (ofLatex accentedWord) ++ ofLatex ['r'] ∧
      ofLatex ("\\emph\x7b".toList ++ (accentedWord ++ '}' :: ['r'])) =
        within .emph (ofLatex accentedWord) ++ ofLatex ['r'] ∧
      (ofLatex ("\\url\x7b".toList ++ (accentedWord ++ '}' :: ['r'])) =
        within (.link accentedWord) (ofChars accentedWord) ++ ofLatex ['r'] ↔
          pairsUp 0 accentedWord = true) := by
  have hbalanced : Source.Balanced accentedWord := by decide
  have hargument : StartsRaw (trimStart ['{', 'e', '}']) :=
    .group (b := ['e']) (by decide) (by decide)
  have haccent : SelfContained ['\\', '\'', '{', 'e', '}'] := by
    have hrest : (lexeme '\\' ['\'', '{', 'e', '}']).2 = [] := by decide +kernel
    exact .cons (fun _ => .sign (by decide) fun _ _ => hargument) (hrest ▸ .nil)
  have hcontained : SelfContained accentedWord := by
    have hrest : (lexeme '\\' ['}', '\\', '\'', '{', 'e', '}']).2 =
        ['\\', '\'', '{', 'e', '}'] := by decide +kernel
    have hsign : accentSigns.lookup '}' = none := by decide
    exact .cons (fun _ => .sign (by decide) (by simp [hsign])) (hrest ▸ haccent)
  obtain ⟨hgroup, hlink⟩ := ofLatex_balanced hbalanced ['r']
  exact ⟨hbalanced, hcontained, (hgroup hcontained).1, (hgroup hcontained).2, hlink⟩

/-- A command takes the brace behind it for its argument, and a raw argument ends at an escaped
brace. -/
theorem ofLatex_balanced_ne :
    (Source.Balanced "\\emph".toList ∧
      ofLatex "\x7b\\emph\x7dr".toList ≠
        within .guarded (ofLatex "\\emph".toList) ++ ofLatex ['r'] ∧
      ofLatex "\\emph\x7b\\emph\x7dr".toList ≠
        within .emph (ofLatex "\\emph".toList) ++ ofLatex ['r']) ∧
      Source.Balanced "\\\x7d".toList ∧
      ofLatex "\\url\x7b\\\x7d\x7dr".toList ≠
        within (.link "\\\x7d".toList) (ofChars "\\\x7d".toList) ++ ofLatex ['r'] := by
  decide +kernel

end Text
end Citation
