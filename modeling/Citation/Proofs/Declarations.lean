import Citation.Proofs.GroupEnds
import Citation.Proofs.Initials
import Citation.Proofs.NormalTexts

/-! Font declarations. A declaration is read as a command with an argument, so that it covers the
character behind it and nothing else of its group. -/
namespace Citation
open Latex Source

/-- The names of font declarations, with the wraps that they stand for. -/
def Latex.declarations : List (List Char × Wrap) :=
  [("it".toList, .emph), ("em".toList, .emph), ("bf".toList, .strong)]

variable {name : List Char} {w : Wrap} {c : Char}

namespace Latex

theorem trimStart_cons (hwhite : isWhitespace c = false) (s : List Char) :
    trimStart (c :: s) = c :: s := by
  rw [trimStart, List.dropWhile_cons_of_neg (by simp [hwhite])]

/-- A declaration is the command of its wrap, and its name ends at a space. -/
theorem of_mem_declarations (hname : (name, w) ∈ declarations) :
    command? name = some (.group (some w)) ∧ Text.ReadableWrap w ∧
      ∀ s, lexeme '\\' (name ++ ' ' :: s) = namedCommand name (trimStart (' ' :: s)) := by
  simp only [declarations, List.mem_cons, List.not_mem_nil, or_false, Prod.mk.injEq] at hname
  rcases hname with ⟨rfl, rfl⟩ | ⟨rfl, rfl⟩ | ⟨rfl, rfl⟩ <;> exact ⟨rfl, trivial, fun _ => rfl⟩

/-- The character behind a declaration is its argument. -/
theorem tokens_declaration (hname : (name, w) ∈ declarations) (hbrace : c ≠ '{')
    (hwhite : isWhitespace c = false) (s : List Char) :
    tokens ('\\' :: (name ++ ' ' :: c :: s)) = .piece (.within w (.ofChars [c])) :: tokens s := by
  have hargument : argument (some w) (c :: s) = (.piece (.within w (.ofChars [c])), s) := by
    rw [argument, trimStart_cons hwhite]
    exact if_neg hbrace
  obtain ⟨hcommand, -, hlexeme⟩ := of_mem_declarations hname
  have hnamed : namedCommand name (trimStart (' ' :: c :: s)) =
      (.token (.piece (.within w (.ofChars [c]))), s) := by
    have hspace : trimStart (' ' :: c :: s) = c :: s := trimStart_cons hwhite s
    rw [hspace, namedCommand, hcommand]
    simp only [hargument]
  exact tokens_cons ((hlexeme (c :: s)).trans hnamed)

theorem NestedIn.closed {depth : Nat} {ts : List Token} (h : NestedIn depth ts) :
    NestedIn (depth + 1) (ts ++ [.closes]) := by
  induction ts generalizing depth with
  | nil => exact ⟨depth, rfl, h⟩
  | cons t ts ih =>
    cases t with
    | closes =>
      obtain ⟨outer, rfl, houter⟩ := h
      exact ⟨outer + 1, rfl, ih houter⟩
    | opens w => exact @ih (depth + 1) h
    | _ => exact @ih depth h

/-- A character that starts no command, group or space shows a character of its own. This is the
character itself, and then nothing else is read with it, or else a tie or a dash. -/
theorem exists_lexeme_char (hc : IsPlain c) (hwhite : isWhitespace c = false) (s : List Char) :
    ∃ e r, lexeme c s = (.token (.chars [e]), r) ∧ e ≠ ' ' ∧ (e = c → r = s) := by
  obtain ⟨hbackslash, hopen, hclose⟩ := hc
  by_cases htilde : c = '~'
  · exact ⟨tie, s, by simp [lexeme, htilde], by decide, fun _ => rfl⟩
  by_cases hhyphen : c = '-'
  · subst hhyphen
    refine ⟨dashOf (1 + (s.takeWhile (· == '-')).length), s.dropWhile (· == '-'), rfl, ?_, ?_⟩
    · unfold dashOf
      split_ifs <;> decide
    · intro hdash
      have hnone : s.takeWhile (· == '-') = [] := by
        rw [← List.length_eq_zero_iff]
        unfold dashOf at hdash
        split_ifs at hdash with hone
        · omega
        · exact absurd hdash (by decide)
        · exact absurd hdash (by decide)
      have hsplit := List.takeWhile_append_dropWhile (p := (· == '-')) (l := s)
      rwa [hnone, List.nil_append] at hsplit
  · have hspace : c ≠ ' ' := by
      rintro rfl
      exact absurd hwhite (by decide)
    refine ⟨c, s, ?_, hspace, fun _ => rfl⟩
    simp [lexeme, hopen, hclose, hbackslash, htilde, hhyphen, hwhite]

theorem shown_lexeme_ne_nil (hc : IsPlain c) (s : List Char) :
    (lexeme c s).1.decoded.shown ≠ [] := by
  by_cases hwhite : isWhitespace c = true
  · have hne : c ≠ '~' ∧ c ≠ '-' := by
      constructor <;> rintro rfl <;> exact absurd hwhite (by decide)
    simp [lexeme, hc.1, hc.2.1, hc.2.2, hne, hwhite, Lexeme.decoded, Token.shown]
  · obtain ⟨e, r, hlexeme, -⟩ := exists_lexeme_char hc (Bool.eq_false_iff.2 hwhite) s
    simp [hlexeme, Lexeme.decoded, Token.shown]

theorem SelfContained.tail {s : List Char} (h : SelfContained (c :: s)) (hc : c ≠ '\\') :
    SelfContained s := by
  obtain _ | ⟨-, hs⟩ := h
  by_cases hhyphen : c = '-'
  · subst hhyphen
    cases s with
    | nil => exact .nil
    | cons d s =>
      by_cases hd : d = '-'
      · subst hd
        exact .cons (fun hbackslash => absurd hbackslash (by decide)) hs
      · have hrest : (lexeme '-' (d :: s)).2 = d :: s := by
          simp [lexeme, hd]
        rwa [hrest] at hs
  · have hrest : (lexeme c s).2 = s := by
      unfold lexeme
      split_ifs <;> rfl
    rwa [hrest] at hs

end Latex

namespace Text

theorem ofLatex_behind_declaration (hname : (name, w) ∈ declarations) (hbrace : c ≠ '{')
    (hwhite : isWhitespace c = false) (s : List Char) :
    ofLatex ('\\' :: (name ++ ' ' :: c :: s)) = within w (ofChars [c]) ++ ofLatex s := by
  rw [ofLatex, tokens_declaration hname hbrace hwhite]
  exact ofTokens_wrapped w _ _

/-- A character in front of the run under way stays in front, unless it takes up a space. -/
theorem ofTokensIn_char (hc : c ≠ ' ') (ts : List Token) (run : List Char) :
    ofTokensIn [] .nil (run ++ [c]) ts = ofChars [c] ++ ofTokensIn [] .nil run ts := by
  have hchar (run : List Char) : ofChars (run ++ [c]).reverse = ofChars [c] ++ ofChars run.reverse := by
    rw [ofChars_append_ofChars, List.reverse_append]
    rfl
  induction ts generalizing run with
  | nil => exact hchar run
  | cons t ts ih =>
    cases t with
    | chars s => simpa [ofTokensIn] using ih (s.reverse ++ run)
    | space =>
      cases run with
      | nil => simpa [ofTokensIn, hc] using ih [' ']
      | cons d run =>
        by_cases hd : d = ' '
        · simpa [ofTokensIn, hd] using ih (' ' :: run)
        · simpa [ofTokensIn, hd] using ih (' ' :: d :: run)
    | opens w =>
      simp only [ofTokensIn, nil_append, hchar]
      exact (ofTokensIn_append (ofChars [c]) ts).2 [] ⟨w, ofChars run.reverse⟩ .nil []
    | closes => exact ih run
    | piece t =>
      simp only [ofTokensIn, nil_append, hchar, append_assoc]
      exact (ofTokensIn_append (ofChars [c]) ts).1 _ []

/-- What a wrapped group starts with stays there, whether the group ends or not. -/
theorem exists_group_append (w : Wrap) (us : List Token) :
    (∀ text run, ∃ u v, ∀ t,
      ofTokensIn [⟨some w, .nil⟩] (t ++ text) run us = within w (t ++ u) ++ v) ∧
    ∀ (inner : List Frame) (f : Frame) text run, ∃ u v, ∀ t,
      ofTokensIn (inner ++ [({ f with before := t ++ f.before } : Frame), ⟨some w, .nil⟩])
        text run us = within w (t ++ u) ++ v := by
  -- A token that opens a group leads from the first part to the second, one that closes the last
  -- group in the wrapped one leads back. One that closes the wrapped group itself ends it.
  induction us with
  | nil =>
    refine ⟨fun text run => ⟨text ++ ofChars run.reverse, .nil, fun t => ?_⟩,
      fun inner f text run => ⟨f.close (inner.foldl (fun t f => f.close t)
        (text ++ ofChars run.reverse)), .nil, fun t => ?_⟩⟩
    · rw [within_append_nil, ← append_assoc]
      rfl
    · rw [within_append_nil, ← Frame.close_append, ofTokensIn, List.foldl_append]
      rfl
  | cons token us ih =>
    obtain ⟨hgroup, hinner⟩ := ih
    cases token with
    | chars s => exact ⟨fun _ _ => hgroup _ _, fun _ _ _ _ => hinner _ _ _ _⟩
    | space => exact ⟨fun _ _ => hgroup _ _, fun _ _ _ _ => hinner _ _ _ _⟩
    | opens w' =>
      refine ⟨fun text run => ?_, fun inner f text run => hinner (⟨w', _⟩ :: inner) f _ _⟩
      simp only [ofTokensIn, append_assoc]
      exact hinner [] ⟨w', text ++ ofChars run.reverse⟩ _ _
    | closes =>
      refine ⟨fun text run => ⟨text ++ ofChars run.reverse, ofTokens us, fun t => ?_⟩,
        fun inner f text run => ?_⟩
      · have hrest := (ofTokensIn_append (within w (t ++ (text ++ ofChars run.reverse))) us).1 .nil []
        rw [within_append_nil] at hrest
        rw [ofTokensIn, append_assoc]
        exact hrest
      · cases inner with
        | nil =>
          simp only [List.nil_append, ofTokensIn, Frame.close_append]
          exact hgroup _ _
        | cons g inner => exact hinner inner f _ _
    | piece p =>
      refine ⟨fun text run => ?_, fun inner f text run => hinner inner f _ _⟩
      simp only [ofTokensIn, append_assoc]
      exact hgroup _ _

/-! Groups that start with a declaration. -/

theorem ofTokens_nil : ofTokens [] = .nil := rfl

/-- A text in a wrapped group of its own. -/
theorem ofLatex_group_marks (hw : ReadableWrap w) {s : List Char} (hs : Source.Balanced s)
    (hcontained : SelfContained s) :
    ofLatex ('{' :: ((Format.latex.marks w).1 ++ (s ++ ['}', '}']))) =
      within .guarded (within w (ofLatex s)) := by
  have htokens : tokens ('{' :: ((Format.latex.marks w).1 ++ (s ++ ['}', '}']))) =
      .opens (some .guarded) :: (.opens (some w) :: (tokens s ++ [.closes]) ++ .closes :: []) := by
    have hopen : lexeme '{' ((Format.latex.marks w).1 ++ (s ++ ['}', '}'])) =
        (.token (.opens (some .guarded)), (Format.latex.marks w).1 ++ (s ++ ['}', '}'])) := rfl
    rw [tokens_cons hopen, tokens_marks hw, tokens_append_close _ hcontained, tokens_close, tokens]
    simp
  have hnested := nestedIn_tokens hcontained hs
  have hclosed : NestedIn 0 (.opens (some w) :: (tokens s ++ [.closes])) := hnested.closed
  rw [ofLatex, htokens, ofTokens_group .guarded hclosed, ofTokens_group w hnested, ofTokens_nil,
    within_append_nil, within_append_nil]
  rfl

theorem tokens_group_declaration (hname : (name, w) ∈ declarations) (hbrace : c ≠ '{')
    (hwhite : isWhitespace c = false) (s : List Char) :
    tokens ('{' :: '\\' :: (name ++ ' ' :: c :: s)) =
      .opens (some .guarded) :: .piece (within w (ofChars [c])) :: tokens s := by
  have hopen : lexeme '{' ('\\' :: (name ++ ' ' :: c :: s)) =
      (.token (.opens (some .guarded)), '\\' :: (name ++ ' ' :: c :: s)) := rfl
  rw [tokens_cons hopen, tokens_declaration hname hbrace hwhite]

/-- A group that starts with a declaration starts with the wrapped character, and shows behind it
what is shown of the tokens behind it. -/
theorem exists_ofLatex_group (hname : (name, w) ∈ declarations) (hbrace : c ≠ '{')
    (hwhite : isWhitespace c = false) (s : List Char) :
    ∃ u v, ofLatex ('{' :: '\\' :: (name ++ ' ' :: c :: s)) =
        within .guarded (within w (ofChars [c]) ++ u) ++ v ∧
      (u.plain ++ v.plain).head? = ((tokens s).flatMap Token.shown).head? := by
  obtain ⟨u, v, huv⟩ := (exists_group_append .guarded (tokens s)).1 .nil []
  refine ⟨u, v, ?_, ?_⟩
  · rw [ofLatex, tokens_group_declaration hname hbrace hwhite, ← huv, within_append_nil]
    rfl
  · have hhead := head_plain_ofTokensIn [⟨some .guarded, .nil⟩] .nil [] (tokens s)
    have hnil := huv .nil
    rw [nil_append, nil_append] at hnil
    rw [hnil] at hhead
    simpa [shownBefore, plain] using hhead

theorem eq_of_group_eq {t u v : Text}
    (h : within .guarded (within w (ofChars [c]) ++ u) ++ v = within .guarded (within w t)) :
    t = ofChars [c] ∧ u = .nil ∧ v = .nil := by
  have hchar : ofChars [c] = .run [c] .nil := rfl
  rw [within_append_eq, within_append_eq, hchar] at h
  by_cases ht : t = .nil
  · simp [ht, within, consWrap] at h
  · simp only [within, consWrap, ht] at h
    simp_all

/-- What a text starts with is all that it shows, if it shows this and no other character. -/
theorem ofLatex_eq_nil_of_char (hc : IsPlain c) (hwhite : isWhitespace c = false) {s : List Char}
    (h : ofLatex (c :: s) = ofChars [c]) : ofLatex s = .nil := by
  obtain ⟨e, r, hlexeme, hspace, hrest⟩ := exists_lexeme_char hc hwhite s
  have hchars : ofLatex (c :: s) = ofChars [e] ++ ofLatex r := by
    rw [ofLatex, tokens_cons hlexeme]
    exact ofTokensIn_char hspace (tokens r) []
  have hplain : e :: (ofLatex r).plain = [c] := by
    have hcongr := congrArg plain (hchars.symm.trans h)
    simpa using hcongr
  obtain ⟨he, hnone⟩ : e = c ∧ (ofLatex r).plain = [] := by simpa using hplain
  rw [hrest he] at hnone
  exact (normal_ofLatex s).plain_eq_nil_iff.1 hnone

/-- A backslash in front of a character shows something else than it does with that character. -/
theorem ofLatex_backslash_ne {s : List Char} (hs : Source.Balanced ('\\' :: s))
    (hnone : (tokens (s ++ ['}'])).flatMap Token.shown = []) :
    ofLatex ('\\' :: s) ≠ ofChars ['\\'] := by
  intro h
  have hhead : ((tokens ('\\' :: s)).flatMap Token.shown).head? = some '\\' := by
    rw [← head_plain, Latex.plain, h]
    rfl
  cases s with
  | nil => simp [Source.Balanced, groupBody_shielded, prepended, groupBody] at hs
  | cons d s =>
    by_cases hd : d = '\\' ∨ d = '{' ∨ d = '}'
    · have hlexeme : ∃ e, e ≠ '\\' ∧ lexeme '\\' (d :: s) = (.token (.chars [e]), s) := by
        rcases hd with rfl | rfl | rfl
        · exact ⟨' ', by decide, rfl⟩
        · exact ⟨'{', by decide, rfl⟩
        · exact ⟨'}', by decide, rfl⟩
      obtain ⟨e, he, hlexeme⟩ := hlexeme
      rw [tokens_cons hlexeme] at hhead
      exact he (by simpa [Token.shown] using hhead)
    · have hplain : IsPlain d := by simpa [IsPlain, not_or] using hd
      rw [List.cons_append, tokens_eq_cons, List.flatMap_cons, List.append_eq_nil_iff] at hnone
      exact shown_lexeme_ne_nil hplain _ hnone.1

/-- A declaration covers the character behind it, whatever follows. So a group that starts with a
declaration is read like the group of the command, if the commands in it find their arguments there,
exactly if the text behind the declaration shows no more than the character that it starts with. -/
theorem ofLatex_declaration (hname : (name, w) ∈ declarations) (hbrace : c ≠ '{')
    (hwhite : isWhitespace c = false) (s : List Char) :
    ofLatex ('\\' :: (name ++ ' ' :: c :: s)) = within w (ofChars [c]) ++ ofLatex s ∧
    (Source.Balanced (c :: s) → SelfContained (c :: s) →
      (ofLatex ('{' :: '\\' :: (name ++ ' ' :: c :: (s ++ ['}']))) =
          ofLatex ('{' :: ((Format.latex.marks w).1 ++ (c :: s ++ ['}', '}']))) ↔
        c ≠ '\\' ∧ ofLatex (c :: s) = ofChars [c])) := by
  refine ⟨ofLatex_behind_declaration hname hbrace hwhite s, fun hs hcontained => ?_⟩
  obtain ⟨-, hw, -⟩ := of_mem_declarations hname
  rw [ofLatex_group_marks hw hs hcontained]
  constructor
  · intro heq
    obtain ⟨u, v, hgroup, hshown⟩ := exists_ofLatex_group hname hbrace hwhite (s ++ ['}'])
    obtain ⟨htext, rfl, rfl⟩ := eq_of_group_eq (hgroup.symm.trans heq)
    refine ⟨?_, htext⟩
    rintro rfl
    exact ofLatex_backslash_ne hs (List.head?_eq_none_iff.1 hshown.symm) htext
  · rintro ⟨hbackslash, htext⟩
    obtain ⟨hplain, hbalanced⟩ : IsPlain c ∧ Source.Balanced s := by
      cases closes_iff.2 hs with
      | shielded => exact absurd rfl hbackslash
      | opens => exact absurd rfl hbrace
      | plain hplain hclosed => exact ⟨hplain, closes_iff.1 hclosed⟩
    have hcontained' := hcontained.tail hbackslash
    have hnested : NestedIn 0 (.piece (within w (ofChars [c])) :: tokens s) :=
      nestedIn_tokens hcontained' hbalanced
    have hbehind : ofTokens (tokens s) = .nil := ofLatex_eq_nil_of_char hplain hwhite htext
    rw [htext, ofLatex, tokens_group_declaration hname hbrace hwhite,
      tokens_append_close [] hcontained', ← List.cons_append, ofTokens_group .guarded hnested,
      ofTokens_wrapped, hbehind, tokens, ofTokens_nil, within_append_nil, within_append_nil]

/-- A name with an accent, of which a declaration covers the first letter. -/
theorem ofLatex_declaration_accented :
    let s := ['\\', '\'', '{', 'e', '}']
    (("bf".toList, Wrap.strong) ∈ declarations ∧ 'N' ≠ '{' ∧ isWhitespace 'N' = false) ∧
      ofLatex ('\\' :: ("bf".toList ++ ' ' :: 'N' :: s)) =
        within .strong (ofChars ['N']) ++ ofLatex s ∧
      (Source.Balanced ('N' :: s) ∧ SelfContained ('N' :: s)) ∧
      (ofLatex ('{' :: '\\' :: ("bf".toList ++ ' ' :: 'N' :: (s ++ ['}']))) =
          ofLatex ('{' :: ((Format.latex.marks .strong).1 ++ ('N' :: s ++ ['}', '}']))) ↔
        'N' ≠ '\\' ∧ ofLatex ('N' :: s) = ofChars ['N']) := by
  intro s
  have hname : ("bf".toList, Wrap.strong) ∈ declarations := by decide
  have hs : Source.Balanced ('N' :: s) := by decide
  have hargument : StartsRaw (trimStart ['{', 'e', '}']) :=
    .group (b := ['e']) (by decide) (by decide)
  have hcontained : SelfContained ('N' :: s) := by
    have hletter : (lexeme 'N' s).2 = s := by decide +kernel
    have haccent : (lexeme '\\' ['\'', '{', 'e', '}']).2 = [] := by decide +kernel
    exact .cons (fun hbackslash => absurd hbackslash (by decide))
      (hletter ▸ .cons (fun _ => .sign (by decide) fun _ _ => hargument) (haccent ▸ .nil))
  obtain ⟨hbehind, hgroup⟩ := ofLatex_declaration hname (c := 'N') (by decide) (by decide) s
  exact ⟨⟨hname, by decide, by decide⟩, hbehind, ⟨hs, hcontained⟩, hgroup hs hcontained⟩

/-- A declaration in front of a word emphasizes its first letter. -/
theorem ofLatex_declaration_ne :
    Source.Balanced "word".toList ∧
      (∀ d ∈ declarations, ofLatex ('{' :: '\\' :: (d.1 ++ " word\x7d".toList)) ≠
        ofLatex ('{' :: ((Format.latex.marks d.2).1 ++ "word\x7d\x7d".toList))) ∧
      ofLatex "\x7b\\em word\x7d".toList =
        .wrap .guarded (.wrap .emph (.run ['w'] .nil) (.run "ord".toList .nil)) .nil := by
  decide +kernel

end Text
end Citation
