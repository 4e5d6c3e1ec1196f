import Citation.Proofs.Composition
import Citation.Proofs.Extracts
import Citation.Proofs.Texts

/-! Where the characters of a decoded text come from. All that stands in its runs and in the
targets of its links stands in the source, but for blanks, ties, dashes, composed letters and the
symbols that commands name. -/
namespace Citation
open Latex Unicode

/-! What is written in a text. -/

def Wrap.target : Wrap → List Char
  | .link url => url
  | _ => []

/-- The characters of the runs and of the targets of links, at every depth. -/
def Text.written : Text → List Char
  | .nil => []
  | .run s rest => s ++ rest.written
  | .wrap w inner rest => w.target ++ inner.written ++ rest.written

namespace Text

variable {d : Char} {t u inner : Text}

theorem plain_subset_written (t : Text) : t.plain ⊆ t.written := by
  induction t with
  | nil => exact fun _ hd => hd
  | run s rest ih =>
    intro d hd
    rcases List.mem_append.1 hd with hs | hrest
    · exact List.mem_append_left _ hs
    · exact List.mem_append_right _ (ih hrest)
  | wrap w inner rest ihi ih =>
    intro d hd
    rcases List.mem_append.1 hd with hinner | hrest
    · exact List.mem_append_left _ (List.mem_append_right _ (ihi hinner))
    · exact List.mem_append_right _ (ih hrest)

@[simp] theorem written_consRun (s : List Char) (t : Text) :
    (consRun s t).written = s ++ t.written := by
  unfold consRun
  split
  · simp_all
  · cases t <;> simp [written]

@[simp] theorem written_ofChars (s : List Char) : (ofChars s).written = s := by
  simp [ofChars, written]

theorem mem_written_consWrap {w : Wrap} (h : d ∈ (consWrap w inner t).written) :
    d ∈ w.target ∨ d ∈ inner.written ∨ d ∈ t.written := by
  unfold consWrap at h
  split at h
  · exact .inr (.inr h)
  · simpa [written, or_assoc] using h

theorem mem_written_within {w : Wrap} (h : d ∈ (within w t).written) :
    d ∈ w.target ∨ d ∈ t.written := by
  simpa [written] using mem_written_consWrap h

theorem mem_written_append (h : d ∈ (t ++ u).written) : d ∈ t.written ∨ d ∈ u.written := by
  induction t with
  | nil => exact .inr h
  | run s rest ih =>
    simp only [run_append, written_consRun, written, List.mem_append] at h ⊢
    tauto
  | wrap w inner rest _ ih =>
    rw [wrap_append] at h
    simp only [written, List.mem_append]
    rcases mem_written_consWrap h with hw | hi | hrest
    · exact .inl (.inl (.inl hw))
    · exact .inl (.inl (.inr hi))
    · rcases ih hrest with hrest | hu
      · exact .inl (.inr hrest)
      · exact .inr hu

theorem notMem_written_append (ht : d ∉ t.written) (hu : d ∉ u.written) :
    d ∉ (t ++ u).written :=
  fun h => (mem_written_append h).elim ht hu

end Text

/-! Decoding. -/

namespace Latex

/-- What a token writes, the target of the group that it opens included. -/
def Token.written : Token → List Char
  | .chars s => s
  | .space => [' ']
  | .opens w => w.elim [] Wrap.target
  | .closes => []
  | .piece t => t.written

def Frame.written (f : Frame) : List Char := f.wrap.elim [] Wrap.target ++ f.before.written

theorem Frame.notMem_written_close {d : Char} {f : Frame} {t : Text} (hf : d ∉ f.written)
    (ht : d ∉ t.written) : d ∉ (f.close t).written := by
  obtain ⟨w, before⟩ := f
  obtain ⟨hw, hbefore⟩ : d ∉ w.elim [] Wrap.target ∧ d ∉ before.written := by
    simpa [Frame.written] using hf
  cases w with
  | none => exact Text.notMem_written_append hbefore ht
  | some w =>
    refine Text.notMem_written_append hbefore fun h => ?_
    exact (Text.mem_written_within h).elim hw ht

theorem Frame.notMem_written_foldl {d : Char} {stack : List Frame} {t : Text}
    (hstack : ∀ f ∈ stack, d ∉ f.written) (ht : d ∉ t.written) :
    d ∉ (stack.foldl (fun inner f => f.close inner) t).written := by
  induction stack generalizing t with
  | nil => exact ht
  | cons f stack ih =>
    obtain ⟨hf, hstack⟩ := List.forall_mem_cons.1 hstack
    exact ih hstack (Frame.notMem_written_close hf ht)

end Latex

namespace Text

/-- Decoding writes nothing but blanks that no token writes. -/
theorem notMem_written_ofTokensIn {d : Char} (hd : d ≠ ' ') {stack : List Frame} {text : Text}
    {run : List Char} {ts : List Token} (hstack : ∀ f ∈ stack, d ∉ f.written)
    (htext : d ∉ text.written) (hrun : d ∉ run) (hts : ∀ tok ∈ ts, d ∉ tok.written) :
    d ∉ (ofTokensIn stack text run ts).written := by
  have hfinish : ∀ {text : Text} {run : List Char}, d ∉ text.written → d ∉ run →
      d ∉ (text ++ ofChars run.reverse).written := fun htext hrun =>
    notMem_written_append htext (by simpa using hrun)
  fun_induction ofTokensIn stack text run ts with
  | case1 stack text run => exact Frame.notMem_written_foldl hstack (hfinish htext hrun)
  | case2 stack text run s ts ih =>
    obtain ⟨hs, hts⟩ := List.forall_mem_cons.1 hts
    have hs : d ∉ s := hs
    exact ih hstack htext (by simp [hs, hrun]) hts
  | case3 stack text run ts ih =>
    refine ih hstack htext ?_ (List.forall_mem_cons.1 hts).2
    split <;> simp [hd, hrun]
  | case4 stack text run w ts ih =>
    obtain ⟨hw, hts⟩ := List.forall_mem_cons.1 hts
    have hframe : d ∉ (⟨w, text ++ ofChars run.reverse⟩ : Frame).written := by
      have hw : d ∉ w.elim [] Wrap.target := hw
      simpa [Frame.written, hw] using hfinish htext hrun
    exact ih (List.forall_mem_cons.2 ⟨hframe, hstack⟩) (by simp [written]) (by simp) hts
  | case5 text run ts ih => exact ih hstack htext hrun (List.forall_mem_cons.1 hts).2
  | case6 text run ts f stack ih =>
    obtain ⟨hf, hstack⟩ := List.forall_mem_cons.1 hstack
    exact ih hstack (Frame.notMem_written_close hf (hfinish htext hrun)) (by simp)
      (List.forall_mem_cons.1 hts).2
  | case7 stack text run t ts ih =>
    obtain ⟨ht, hts⟩ := List.forall_mem_cons.1 hts
    exact ih hstack (notMem_written_append (hfinish htext hrun) ht) (by simp) hts

theorem exists_token_of_mem_written {d : Char} (hd : d ≠ ' ') {s : List Char}
    (h : d ∈ (ofLatex s).written) : ∃ tok ∈ tokens s, d ∈ tok.written := by
  by_contra hnone
  push Not at hnone
  exact notMem_written_ofTokensIn hd (by simp) (by simp [written]) (by simp) hnone h

end Text

/-! Lexemes. -/

namespace Latex

variable {c d mark : Char} {s name raw : List Char} {t : Token}

theorem mem_written_argument {w : Option Wrap} (h : d ∈ (argument w s).1.written) :
    d ∈ w.elim [] Wrap.target ∨ d ∈ s := by
  have htrim : trimStart s ⊆ s := (List.dropWhile_suffix _).subset
  unfold argument at h
  split at h
  · simp [Token.written, Text.written] at h
  · next c r hstart =>
    have hc : c ∈ s := htrim (by simp [hstart])
    split at h
    · exact .inl h
    · cases w with
      | some w =>
        rcases Text.mem_written_within h with hw | hchar
        · exact .inl hw
        · rw [Text.written_ofChars, List.mem_singleton] at hchar
          exact .inr (hchar ▸ hc)
      | none =>
        have hchar : d ∈ (Text.ofChars [c]).written := h
        rw [Text.written_ofChars, List.mem_singleton] at hchar
        exact .inr (hchar ▸ hc)

/-- Links are no groups that a command opens by its name alone. -/
theorem target_of_group {w : Option Wrap} (h : command? name = some (.group w)) :
    w.elim [] Wrap.target = [] := by
  have hall : (commands.all fun c => match c.2 with
      | .group w => w.elim [] Wrap.target = [] | _ => true) = true := by decide +kernel
  obtain ⟨s, -, hmem⟩ := mem_commands h
  exact of_decide_eq_true (List.all_eq_true.1 hall _ hmem)

theorem mem_written_namedCommand (h : (namedCommand name s).1 = .token t) (hd : d ∈ t.written) :
    d ∈ '\\' :: name ∨ d ∈ s ∨ ∃ sym, command? name = some (.symbol sym) ∧ d ∈ sym.toList := by
  obtain ⟨hraw, hrest⟩ := rawArgument_stretch s
  unfold namedCommand at h
  split at h
  · obtain rfl := Lexeme.token.inj h
    exact .inl hd
  · next sym hcommand =>
    obtain rfl := Lexeme.token.inj h
    exact .inr (.inr ⟨sym, hcommand, hd⟩)
  · cases h
  · next w hcommand =>
    obtain rfl := Lexeme.token.inj h
    refine .inr (.inl ?_)
    rcases mem_written_argument hd with hw | hs
    · rw [target_of_group hcommand] at hw
      cases hw
    · exact hs
  · obtain rfl := Lexeme.token.inj h
    refine .inr (.inl (hraw.subset ?_))
    rcases Text.mem_written_within hd with hurl | hurl
    · exact hurl
    · simpa using hurl
  · obtain rfl := Lexeme.token.inj h
    refine .inr (.inl ?_)
    rcases mem_written_argument hd with hurl | hs
    · exact hraw.subset hurl
    · exact hrest.subset hs

theorem mem_of_mem_controlSymbol (h : d ∈ controlSymbol c) : d = '\\' ∨ d = c ∨ d = ' ' := by
  unfold controlSymbol at h
  split_ifs at h
  · exact .inr (.inl (List.mem_singleton.1 h))
  · exact .inr (.inr (List.mem_singleton.1 h))
  · cases h
  · rcases List.mem_cons.1 h with rfl | hc
    · exact .inl rfl
    · exact .inr (.inl (List.mem_singleton.1 hc))

/-- What the tokens of the text behind a backslash write that is not in the source: a blank, and
the symbol that a command names. -/
theorem mem_written_controlSequence (h : (controlSequence s).1 = .token t) (hd : d ∈ t.written) :
    d ∈ '\\' :: s ∨ d = ' ' ∨
      ∃ sym, command? (s.takeWhile Char.isAlpha) = some (.symbol sym) ∧ d ∈ sym.toList := by
  unfold controlSequence at h
  split at h
  · obtain rfl := Lexeme.token.inj h
    exact .inl hd
  · next c r =>
    split_ifs at h
    · have hname : (c :: r).takeWhile Char.isAlpha ⊆ c :: r := (List.takeWhile_prefix _).subset
      have hrest : trimStart ((c :: r).dropWhile Char.isAlpha) ⊆ c :: r :=
        ((List.dropWhile_suffix _).trans (List.dropWhile_suffix _)).subset
      rcases mem_written_namedCommand h hd with hmem | hmem | hsym
      · exact .inl (List.cons_subset_cons _ hname hmem)
      · exact .inl (List.mem_cons_of_mem _ (hrest hmem))
      · exact .inr (.inr hsym)
    · split at h
      · cases h
      · obtain rfl := Lexeme.token.inj h
        rcases mem_of_mem_controlSymbol hd with rfl | rfl | hspace
        · exact .inl List.mem_cons_self
        · exact .inl (by simp)
        · exact .inr (.inl hspace)

theorem mem_written_lexeme (h : (lexeme c s).1 = .token t) (hd : d ∈ t.written) :
    d ∈ c :: s ∨ d = ' ' ∨ d = tie ∨ c = '-' ∨ c = '\\' ∧
      ∃ sym, command? (s.takeWhile Char.isAlpha) = some (.symbol sym) ∧ d ∈ sym.toList := by
  unfold lexeme at h
  split_ifs at h with hopen hclose hbackslash htilde hhyphen hwhite
  · obtain rfl := Lexeme.token.inj h
    cases hd
  · obtain rfl := Lexeme.token.inj h
    cases hd
  · subst hbackslash
    rcases mem_written_controlSequence h hd with hmem | hspace | hsym
    · exact .inl hmem
    · exact .inr (.inl hspace)
    · exact .inr (.inr (.inr (.inr ⟨rfl, hsym⟩)))
  · obtain rfl := Lexeme.token.inj h
    exact .inr (.inr (.inl (List.mem_singleton.1 hd)))
  · exact .inr (.inr (.inr (.inl hhyphen)))
  · obtain rfl := Lexeme.token.inj h
    exact .inr (.inl (List.mem_singleton.1 hd))
  · obtain rfl := Lexeme.token.inj h
    exact .inl (List.mem_singleton.1 hd ▸ List.mem_cons_self)

theorem mem_of_mem_accented (hd : Unmade d) (hmark : d ≠ mark) (hi : d ≠ 'i') (hj : d ≠ 'j')
    (h : d ∈ accented mark s) : d ∈ s := by
  cases s with
  | nil => exact h
  | cons c s =>
    rcases List.mem_append.1 h with hfirst | hrest
    · have hbase : d ∈ [accentBase c, mark] := mem_of_mem_composed hd hfirst
      simp only [List.mem_cons, hmark, List.not_mem_nil, or_self, or_false] at hbase
      unfold accentBase at hbase
      split_ifs at hbase
      · exact absurd hbase hi
      · exact absurd hbase hj
      · exact hbase ▸ List.mem_cons_self
    · exact List.mem_cons_of_mem c hrest

/-- The decoder comes to a command of the name, in the source or in the argument of an accent. -/
inductive Meets (name : List Char) : List Char → Prop
  | here {s : List Char} (h : s.takeWhile Char.isAlpha = name) : Meets name ('\\' :: s)
  | argument {c mark : Char} {s raw : List Char} (hlexeme : (lexeme c s).1 = .accent mark raw)
      (h : Meets name raw) : Meets name (c :: s)
  | behind {c : Char} {s : List Char} (h : Meets name (lexeme c s).2) : Meets name (c :: s)

/-- A command that the decoder comes to stands in the source. -/
theorem Meets.stands (h : Meets name s) : '\\' :: name <:+: s := by
  induction h with
  | here h => exact (List.cons_prefix_cons.2 ⟨rfl, h ▸ List.takeWhile_prefix _⟩).isInfix
  | @argument c _ s _ hlexeme _ ih =>
    exact (ih.trans (argument_of_lexeme hlexeme)).trans (List.suffix_cons c s).isInfix
  | @behind c s _ ih =>
    exact ih.trans ((lexeme_suffix c s).trans (List.suffix_cons c s)).isInfix

end Latex
end Citation
