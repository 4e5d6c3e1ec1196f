import Citation.Proofs.Concatenation
import Citation.Proofs.Results
import Citation.Style
import Mathlib

/-! Every text is normal: those that the operations on texts build, those that markup decodes to,
and those of names, of templates and of whole citations. -/
namespace Citation
open Latex

namespace Text

/-- The texts that the operations build from normal ones. -/
inductive Built : Text → Prop
  | given {t : Text} (h : t.Normal) : Built t
  /-- Plain characters behind a text. -/
  | addRun {t : Text} (ht : Built t) (s : List Char) : Built (t ++ ofChars s)
  /-- A wrapped text behind a text. -/
  | addWrap {t u : Text} (ht : Built t) (w : Wrap) (hu : Built u) : Built (t ++ within w u)
  | append {t u : Text} (ht : Built t) (hu : Built u) : Built (t ++ u)
  | join (sep : List Char) {ts : List Text} (hts : ∀ t ∈ ts, Built t) : Built (join sep ts)
  | within (w : Wrap) {t : Text} (ht : Built t) : Built (within w t)
  | withPeriod {t : Text} (ht : Built t) : Built t.withPeriod
  | trimEnd {t : Text} (ht : Built t) : Built t.trimEnd
  | lower {t : Text} (ht : Built t) : Built t.lower
  | capitalizeFirst {t : Text} (ht : Built t) : Built t.capitalizeFirst
  | sentenceCase {t : Text} (ht : Built t) : Built t.sentenceCase

theorem mem_of_mem_present {t : Text} {ts : List Text} (h : t ∈ present ts) : t ∈ ts :=
  (List.mem_filter.1 h).1

/-- A fold of normal texts is normal if its step is. -/
theorem normal_foldl {f : Text → Text → Text} (hf : ∀ t u, t.Normal → u.Normal → (f t u).Normal)
    {t : Text} (ht : t.Normal) {ts : List Text} (hts : ∀ u ∈ ts, u.Normal) :
    (ts.foldl f t).Normal := by
  induction ts generalizing t with
  | nil => exact ht
  | cons u ts ih =>
    obtain ⟨hu, hts⟩ := List.forall_mem_cons.1 hts
    exact ih (hf t u ht hu) hts

theorem normal_chain {between last : List Char} {ts : List Text} (h : ∀ t ∈ ts, t.Normal) :
    (chain between last ts).Normal := by
  fun_induction chain between last ts with
  | case1 => trivial
  | case2 t => exact h t (by simp)
  | case3 t u => exact ((h t (by simp)).append (normal_ofChars _)).append (h u (by simp))
  | case4 t u v ts ih =>
    obtain ⟨ht, hts⟩ := List.forall_mem_cons.1 h
    exact (ht.append (normal_ofChars _)).append (ih hts)

theorem normal_join {sep : List Char} {ts : List Text} (h : ∀ t ∈ ts, t.Normal) :
    (join sep ts).Normal := by
  refine normal_foldl ?_ normal_nil fun t ht => h t (mem_of_mem_present ht)
  intro t u ht hu
  split
  · exact hu
  · exact (ht.append (normal_ofChars _)).append hu

theorem Built.normal {t : Text} (h : Built t) : t.Normal := by
  induction h with
  | given h => exact h
  | addRun _ s ih => exact ih.append (normal_ofChars s)
  | addWrap _ w _ iht ihu => exact iht.append (ihu.within w)
  | append _ _ iht ihu => exact iht.append ihu
  | join _ _ ih => exact normal_join ih
  | within w _ ih => exact ih.within w
  | withPeriod _ ih => exact ih.withPeriod
  | trimEnd _ ih => exact ih.trimEnd
  | lower _ ih => exact ih.lower
  | capitalizeFirst _ ih => exact ih.capitalizeFirst
  | sentenceCase _ ih => exact ih.sentenceCase

end Text

theorem Separators.normal_join {s : Separators} {ts : List Text} (h : ∀ t ∈ ts, t.Normal) :
    (s.join ts).Normal :=
  Text.normal_chain fun t ht => h t (Text.mem_of_mem_present ht)

/-! Markup. -/

namespace Latex

/-- A token that brings no text of its own but a normal one. -/
def Token.Normal : Token → Prop
  | .piece t => t.Normal
  | _ => True

/-- A lexeme whose token, if it is one, is normal. -/
def Lexeme.Normal : Lexeme → Prop
  | .token t => t.Normal
  | .accent _ _ => True

theorem normal_argument (w : Option Wrap) (s : List Char) : (argument w s).1.Normal := by
  unfold argument
  split
  · trivial
  · split
    · trivial
    · split
      · exact (Text.normal_ofChars _).within _
      · exact Text.normal_ofChars _

theorem normal_namedCommand (name s : List Char) : (namedCommand name s).1.Normal := by
  unfold namedCommand
  split
  · trivial
  · trivial
  · trivial
  · exact normal_argument _ s
  · exact (Text.normal_ofChars _).within _
  · exact normal_argument _ _

theorem normal_controlSequence (s : List Char) : (controlSequence s).1.Normal := by
  unfold controlSequence
  split
  · trivial
  · split
    · exact normal_namedCommand _ _
    · split <;> trivial

theorem normal_lexeme (c : Char) (s : List Char) : (lexeme c s).1.Normal := by
  unfold lexeme
  repeat' split
  case isFalse.isFalse.isTrue => exact normal_controlSequence s
  all_goals trivial

theorem normal_tokens (s : List Char) : ∀ tok ∈ tokens s, tok.Normal := by
  fun_induction tokens s with
  | case1 => simp
  | case2 c s _ t ht ih =>
    have hlexeme := normal_lexeme c s
    rw [ht] at hlexeme
    exact List.forall_mem_cons.2 ⟨hlexeme, ih⟩
  | case3 c s _ mark raw _ _ _ ih =>
    exact List.forall_mem_cons.2 ⟨trivial, ih⟩

theorem Frame.normal_close {f : Frame} {t : Text} (hf : f.before.Normal) (ht : t.Normal) :
    (f.close t).Normal := by
  unfold Frame.close
  split
  · exact hf.append (ht.within _)
  · exact hf.append ht

theorem Frame.normal_foldl {stack : List Frame} {t : Text} (hs : ∀ f ∈ stack, f.before.Normal)
    (ht : t.Normal) : (stack.foldl (fun inner f => f.close inner) t).Normal := by
  induction stack generalizing t with
  | nil => exact ht
  | cons f stack ih =>
    obtain ⟨hf, hs⟩ := List.forall_mem_cons.1 hs
    exact ih hs (Frame.normal_close hf ht)

end Latex

namespace Text

/-- Decoding keeps the text of the innermost group and the texts in front of all groups normal. -/
theorem normal_ofTokensIn {stack : List Frame} {text : Text} {run : List Char} {ts : List Token}
    (hs : ∀ f ∈ stack, f.before.Normal) (ht : text.Normal) (hts : ∀ tok ∈ ts, tok.Normal) :
    (ofTokensIn stack text run ts).Normal := by
  fun_induction ofTokensIn stack text run ts with
  | case1 stack text run => exact Frame.normal_foldl hs (ht.append (normal_ofChars _))
  | case2 stack text run s ts ih => exact ih hs ht (List.forall_mem_cons.1 hts).2
  | case3 stack text run ts ih => exact ih hs ht (List.forall_mem_cons.1 hts).2
  | case4 stack text run w ts ih =>
    exact ih (List.forall_mem_cons.2 ⟨ht.append (normal_ofChars _), hs⟩) trivial
      (List.forall_mem_cons.1 hts).2
  | case5 text run ts ih => exact ih hs ht (List.forall_mem_cons.1 hts).2
  | case6 text run ts f stack ih =>
    obtain ⟨hf, hs⟩ := List.forall_mem_cons.1 hs
    exact ih hs (Frame.normal_close hf (ht.append (normal_ofChars _)))
      (List.forall_mem_cons.1 hts).2
  | case7 stack text run t ts ih =>
    obtain ⟨hpiece, hts⟩ := List.forall_mem_cons.1 hts
    exact ih hs ((ht.append (normal_ofChars _)).append hpiece) hts

theorem normal_ofLatex (s : List Char) : (ofLatex s).Normal :=
  normal_ofTokensIn (by simp) trivial (normal_tokens s)

end Text

/-! Names. -/

namespace NameStyle
open Text

theorem normal_group (words : List (List Char)) : (group words).Normal :=
  Separators.normal_join (by simpa using fun w _ => normal_ofLatex w)

theorem normal_behind (before : String) {t : Text} (h : t.Normal) : (behind before t).Normal := by
  unfold behind
  split
  · trivial
  · exact (normal_ofChars _).append h

theorem normal_sticky {t : Text} (h : t.Normal) : (sticky t).Normal := by
  unfold sticky
  split
  · trivial
  · exact h.append (normal_ofChars _)

theorem normal_text (style : NameStyle) (initials : Bool) (p : Person) :
    (style.text initials p).Normal := by
  unfold NameStyle.text
  split
  · exact normal_ofChars _
  · cases style with
    | familyFirst =>
      exact (((normal_sticky (normal_group _)).append (normal_group _)).append
        (normal_behind _ (normal_group _))).append (normal_behind _ (normal_group _))
    | givenFirst =>
      exact (((normal_sticky (normal_group _)).append (normal_sticky (normal_group _))).append
        (normal_group _)).append (normal_behind _ (normal_group _))

end NameStyle

/-! Templates. -/

theorem Modifier.normal_apply (m : Modifier) {t : Text} (h : t.Normal) : (m.apply t).Normal := by
  cases m with
  | emph => exact h.within .emph
  | sentenceCase => exact h.sentenceCase
  | lowerCase => exact h.lower
  | capital => exact h.capitalizeFirst
  | period => exact h.withPeriod

namespace Part
open Text

variable {person : Person → Text} {e : Entry}

theorem normal_orNothing {x : Except Error Text} (h : ∀ t, x = .ok t → t.Normal) {t : Text}
    (ht : orNothing x = .ok t) : t.Normal := by
  cases x with
  | ok u =>
    obtain rfl := Except.ok.inj ht
    exact h _ rfl
  | error err =>
    simp only [orNothing] at ht
    split at ht
    · obtain rfl := Except.ok.inj ht
      trivial
    · cases ht

mutual

/-- A template makes normal texts of normal names. -/
theorem normal_text (hperson : ∀ p, (person p).Normal) : ∀ (p : Part) (t : Text),
    p.text person e = .ok t → t.Normal
  | .words _, _, h => Except.ok.inj h ▸ normal_ofChars _
  | .field _, _, h => by
    obtain ⟨s, -, rfl⟩ := map_eq_ok_iff.1 h
    exact normal_ofLatex s
  | .range _, _, h => by
    obtain ⟨s, -, rfl⟩ := map_eq_ok_iff.1 h
    exact normal_ofLatex (enDashes s)
  | .names _, _, h => by
    obtain ⟨ps, -, rfl⟩ := map_eq_ok_iff.1 h
    exact Separators.normal_join (by simpa using fun p _ => hperson p)
  | .byCount .., _, h => by
    obtain ⟨ps, -, rfl⟩ := map_eq_ok_iff.1 h
    exact normal_ofChars _
  | .link .., _, h => by
    obtain ⟨s, -, rfl⟩ := map_eq_ok_iff.1 h
    exact (normal_ofChars _).within _
  | .modified m p, _, h => by
    obtain ⟨u, hu, rfl⟩ := map_eq_ok_iff.1 h
    exact m.normal_apply (normal_text hperson p u hu)
  | .joined _ ps, _, h => by
    obtain ⟨us, hus, rfl⟩ := map_eq_ok_iff.1 h
    exact Separators.normal_join (normal_texts hperson ps us hus)
  | .optional p, _, h => normal_orNothing (normal_text hperson p) h
  | .firstPresent ps, t, h => normal_firstText hperson ps t h

theorem normal_texts (hperson : ∀ p, (person p).Normal) : ∀ (ps : List Part) (ts : List Text),
    texts person e ps = .ok ts → ∀ t ∈ ts, t.Normal
  | [], _, h => by
    obtain rfl := Except.ok.inj h
    simp
  | p :: ps, ts, h => by
    cases hp : p.text person e with
    | error err => simp [texts, hp] at h
    | ok t =>
      simp only [texts, hp] at h
      obtain ⟨us, hus, rfl⟩ := map_eq_ok_iff.1 h
      exact List.forall_mem_cons.2 ⟨normal_text hperson p t hp, normal_texts hperson ps us hus⟩

theorem normal_firstText (hperson : ∀ p, (person p).Normal) : ∀ (ps : List Part) (t : Text),
    firstText person e ps = .ok t → t.Normal
  | [], _, h => Except.ok.inj h ▸ trivial
  | p :: ps, t, h => by
    cases hp : p.text person e with
    | error err => simp [firstText, hp] at h
    | ok u =>
      simp only [firstText, hp] at h
      split at h
      · exact normal_firstText hperson ps t h
      · exact Except.ok.inj h ▸ normal_text hperson p u hp

end

end Part

/-! Citations. -/

namespace CitedEntry

theorem normal_addBlock {t block : Text} (ht : t.Normal) (hblock : block.Normal) :
    (addBlock t block).Normal := by
  unfold addBlock
  split
  · exact (ht.append (Text.normal_ofChars _)).append hblock
  · exact ht.append hblock

theorem normal_text {e : CitedEntry} (h : ∀ block ∈ e.blocks, block.Normal) : e.text.Normal :=
  (Text.normal_foldl (fun _ _ => normal_addBlock) Text.normal_nil h).trimEnd

end CitedEntry

namespace Style

theorem normal_personText (style : Style) (p : Person) : (style.personText p).Normal :=
  style.nameStyle.normal_text style.initials p

theorem normal_blocks {style : Style} {e : Entry} {c : CitedEntry} (h : style.cite e = .ok c) :
    ∀ block ∈ c.blocks, block.Normal := by
  unfold cite at h
  split at h
  · cases h
  · split at h
    · cases h
    · obtain ⟨blocks, hblocks, rfl⟩ := map_eq_ok_iff.1 h
      obtain ⟨ts, hts, rfl⟩ := map_eq_ok_iff.1 hblocks
      have hnormal := Part.normal_texts style.normal_personText _ _ hts
      exact fun block hblock => hnormal block (Text.mem_of_mem_present hblock)

end Style

/-- Operations keep texts normal, and all texts that are decoded, laid out or cited are. Whether a
normal text is empty, how long it is and how it ends is told by its visible characters. -/
theorem Text.normal_throughout :
    (∀ t, Built t → t.Normal) ∧
    (∀ s, (ofLatex s).Normal) ∧
    (∀ (style : NameStyle) initials p, (style.text initials p).Normal) ∧
    (∀ (style : Style) e c, style.cite e = .ok c →
      (∀ block ∈ c.blocks, block.Normal) ∧ c.text.Normal) ∧
    (∀ c : CitedEntry, (∀ block ∈ c.blocks, block.Normal) → c.text.Normal) ∧
    ∀ t : Text, t.Normal →
      (t.isEmpty = true ↔ t.length = 0) ∧ (t.isEmpty = true ↔ t.plain = []) ∧
        (t.isEmpty = true ↔ t.last = none) ∧ t.length = t.plain.length ∧
        t.last = t.plain.getLast? := by
  refine ⟨fun t => Built.normal, normal_ofLatex, NameStyle.normal_text, ?_, ?_, ?_⟩
  · intro style e c hc
    exact ⟨Style.normal_blocks hc, CitedEntry.normal_text (Style.normal_blocks hc)⟩
  · exact fun c => CitedEntry.normal_text
  · intro t ht
    refine ⟨?_, ?_, ?_, length_eq t, ht.last_eq⟩
    · rw [isEmpty_iff, ht.length_eq_zero_iff]
    · rw [isEmpty_iff, ht.plain_eq_nil_iff]
    · rw [isEmpty_iff, ht.last_eq_none_iff]

/-- A work with emphasis in its title. -/
def emphasized : Entry where
  type := .misc
  key := "k".toList
  fields := [⟨"title".toList, .literal "a \\emph{b}".toList⟩, ⟨"year".toList, .number 2000⟩]

def emphasizedBlocks : List Text :=
  [.run "(2000). ".toList .nil,
    .wrap .emph (.run "a ".toList (.wrap .emph (.run ['b'] .nil) .nil)) (.run ['.'] .nil)]

theorem Text.normal_throughout_emphasized :
    ∃ c, ({} : Style).cite emphasized = .ok c ∧ c.blocks = emphasizedBlocks ∧
      (∀ block ∈ c.blocks, block.Normal) ∧ c.text.Normal ∧ Built (join [' '] c.blocks) ∧
        (join [' '] c.blocks).Normal ∧ c.text.last = c.text.plain.getLast? := by
  have hcite : ({} : Style).cite emphasized =
      .ok ⟨"k".toList, "misc".toList, [], emphasizedBlocks⟩ := by cbv
  obtain ⟨hbuilt, -, -, hcited, htext, hends⟩ := normal_throughout
  obtain ⟨hblocks, -⟩ := hcited {} emphasized _ hcite
  have hc := htext _ hblocks
  have hjoin := Built.join [' '] fun t ht => .given (hblocks t ht)
  exact ⟨_, hcite, rfl, hblocks, hc, hjoin, hbuilt _ hjoin, (hends _ hc).2.2.2.2⟩

end Citation
