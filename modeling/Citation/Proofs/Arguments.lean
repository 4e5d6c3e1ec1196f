import Citation.Proofs.LatexForm
import Citation.Proofs.LocalReading

/-! The arguments of commands. A text whose commands find their arguments in it is read in the same
way in front of a closing brace: what follows the brace is never taken for an argument. -/
namespace Citation.Latex
open Source

/-- The token that a lexeme stands for, with the argument of an accent decoded. -/
def Lexeme.decoded : Lexeme → Token
  | .token t => t
  | .accent mark raw => .chars (accented mark (Text.ofTokens (tokens raw)).plain)

theorem tokens_eq_cons (c : Char) (s : List Char) :
    tokens (c :: s) = (lexeme c s).1.decoded :: tokens (lexeme c s).2 := by
  rw [tokens]
  split
  · next t h => simp only [h, Lexeme.decoded]
  · next mark raw h => simp only [h, Lexeme.decoded]

theorem pairsUp_of_rawGroup {depth : Nat} {url r : List Char}
    (h : (rawGroup depth (url ++ '}' :: r)).1 = url) : pairsUp depth url = true := by
  induction url generalizing depth with
  | nil =>
    cases depth with
    | zero => rfl
    | succ depth => simp [rawGroup] at h
  | cons c url ih =>
    by_cases hclose : c = '}' ∧ depth = 0
    · simp [rawGroup, hclose] at h
    · simp only [List.cons_append, rawGroup, if_neg hclose, List.cons.injEq, true_and] at h
      have hinner : (c == '}' && depth == 0) = false := by simpa using hclose
      simp [pairsUp, hinner, ih h]

/-! Arguments that end in a text. -/

/-- A character that neither opens nor closes anything, and shields nothing. -/
def IsPlain (c : Char) : Prop := c ≠ '\\' ∧ c ≠ '{' ∧ c ≠ '}'

/-- The text starts with an argument that is taken as it stands, and a group among these is closed
where the source closes it. -/
inductive StartsRaw : List Char → Prop
  | group {b s : List Char} (hb : Source.Balanced b) (hpairs : pairsUp 0 b = true) :
      StartsRaw ('{' :: (b ++ '}' :: s))
  | control (c : Char) (s : List Char) : StartsRaw ('\\' :: c :: s)
  | char {c : Char} (hc : IsPlain c) (s : List Char) : StartsRaw (c :: s)

/-- The text starts with a group or with another character for one. A backslash may be that
character, if it shields nothing that counts. -/
inductive StartsRich : List Char → Prop
  | group (s : List Char) : StartsRich ('{' :: s)
  | backslash {c : Char} (hc : IsPlain c) (s : List Char) : StartsRich ('\\' :: c :: s)
  | char {c : Char} (hc : IsPlain c) (s : List Char) : StartsRich (c :: s)

/-- The text behind a command starts with its arguments. -/
def Command.Supplied (s : List Char) : Command → Prop
  | .group _ => StartsRich (trimStart s)
  | .url => StartsRaw (trimStart s)
  | .href => StartsRaw (trimStart s) ∧ StartsRich (trimStart (rawArgument s).2)
  | .accent _ => StartsRaw (trimStart s)
  | .symbol _ => True

/-- The text behind a backslash starts with a control sequence and its arguments. -/
inductive StartsControl : List Char → Prop
  | named {c : Char} {s : List Char} (hc : c.isAlpha = true)
      (hsupplied : ∀ command ∈ command? ((c :: s).takeWhile Char.isAlpha),
        command.Supplied (trimStart ((c :: s).dropWhile Char.isAlpha))) : StartsControl (c :: s)
  | sign {c : Char} {s : List Char} (hc : c.isAlpha = false)
      (haccent : ∀ mark ∈ accentSigns.lookup c, StartsRaw (trimStart s)) : StartsControl (c :: s)

/-- Every command of the text finds its arguments in it. -/
inductive SelfContained : List Char → Prop
  | nil : SelfContained []
  | cons {c : Char} {s : List Char} (hc : c = '\\' → StartsControl s)
      (hs : SelfContained (lexeme c s).2) : SelfContained (c :: s)

/-! Reading in front of a closing brace. -/

variable {s : List Char} (r : List Char)

theorem dropWhile_append_close {p : Char → Bool} (hp : p '}' = false) (s : List Char) :
    (s ++ '}' :: r).dropWhile p = s.dropWhile p ++ '}' :: r := by
  induction s with
  | nil => simp [hp]
  | cons c s ih => cases hc : p c <;> simp [hc, ih]

theorem takeWhile_append_close {p : Char → Bool} (hp : p '}' = false) (s : List Char) :
    (s ++ '}' :: r).takeWhile p = s.takeWhile p := by
  induction s with
  | nil => simp [hp]
  | cons c s ih => cases hc : p c <;> simp [hc, ih]

theorem trimStart_append_close (s : List Char) :
    trimStart (s ++ '}' :: r) = trimStart s ++ '}' :: r :=
  dropWhile_append_close r (by decide) s

theorem controlName_append_close (c : Char) (s : List Char) :
    controlName (c :: s ++ '}' :: r) =
      ((controlName (c :: s)).1, (controlName (c :: s)).2 ++ '}' :: r) := by
  have htake := takeWhile_append_close r (p := Char.isAlpha) (by decide) (c :: s)
  have hdrop := dropWhile_append_close r (p := Char.isAlpha) (by decide) (c :: s)
  unfold controlName
  rw [htake, hdrop]
  cases (c :: s).takeWhile Char.isAlpha <;> rfl

theorem rawArgumentAt_append_close (h : StartsRaw s) :
    rawArgumentAt (s ++ '}' :: r) = ((rawArgumentAt s).1, (rawArgumentAt s).2 ++ '}' :: r) := by
  cases h with
  | @group b s _ hpairs =>
    simp [rawArgumentAt, rawGroup_append hpairs]
  | control c s =>
    have hname := controlName_append_close r c s
    simp only [List.cons_append] at hname ⊢
    simp [rawArgumentAt, hname]
  | char hc s => simp [rawArgumentAt, hc.1, hc.2.1]

theorem rawArgument_append_close (h : StartsRaw (trimStart s)) :
    rawArgument (s ++ '}' :: r) = ((rawArgument s).1, (rawArgument s).2 ++ '}' :: r) := by
  rw [rawArgument, trimStart_append_close, rawArgumentAt_append_close r h]
  rfl

theorem argument_append_close (w : Option Wrap) (h : StartsRich (trimStart s)) :
    argument w (s ++ '}' :: r) = ((argument w s).1, (argument w s).2 ++ '}' :: r) := by
  unfold argument
  rw [trimStart_append_close]
  generalize trimStart s = t at h ⊢
  cases h with
  | group s => rfl
  | backslash hc s => cases w <;> simp
  | char hc s => cases w <;> simp [hc.2.1]

theorem namedCommand_append_close {name : List Char}
    (h : ∀ command ∈ command? name, command.Supplied s) :
    namedCommand name (s ++ '}' :: r) =
      ((namedCommand name s).1, (namedCommand name s).2 ++ '}' :: r) := by
  unfold namedCommand
  cases hcommand : command? name with
  | none => rfl
  | some command =>
    have hsupplied := h command hcommand
    cases command with
    | symbol t => rfl
    | accent mark => simp only [rawArgument_append_close r hsupplied]
    | group w => simp only [argument_append_close r w hsupplied]
    | url => simp only [rawArgument_append_close r hsupplied]
    | href =>
      obtain ⟨hraw, hrich⟩ := hsupplied
      simp only [rawArgument_append_close r hraw, argument_append_close r _ hrich]

theorem controlSequence_append_close (h : StartsControl s) :
    controlSequence (s ++ '}' :: r) =
      ((controlSequence s).1, (controlSequence s).2 ++ '}' :: r) := by
  cases h with
  | @named c s hc hsupplied =>
    have htake := takeWhile_append_close r (p := Char.isAlpha) (by decide) (c :: s)
    have hdrop := dropWhile_append_close r (p := Char.isAlpha) (by decide) (c :: s)
    rw [List.cons_append] at htake hdrop ⊢
    simp only [controlSequence, hc, ↓reduceIte, htake, hdrop, trimStart_append_close,
      namedCommand_append_close r hsupplied]
  | @sign c s hc haccent =>
    simp only [List.cons_append, controlSequence, hc]
    cases hlookup : accentSigns.lookup c with
    | none => rfl
    | some mark => simp [rawArgument_append_close r (haccent mark hlookup)]

theorem lexeme_append_close {c : Char} (hc : c = '\\' → StartsControl s) :
    lexeme c (s ++ '}' :: r) = ((lexeme c s).1, (lexeme c s).2 ++ '}' :: r) := by
  have htake := takeWhile_append_close r (p := (· == '-')) (by decide) s
  have hdrop := dropWhile_append_close r (p := (· == '-')) (by decide) s
  -- But for a command, a lexeme looks no further than the end of a run of hyphens.
  unfold lexeme
  rw [htake, hdrop]
  repeat' split
  case isFalse.isFalse.isTrue _ _ hbackslash =>
    exact controlSequence_append_close r (hc hbackslash)
  all_goals rfl

/-- A text whose commands find their arguments in it is read up to the brace behind it. -/
theorem tokens_append_close (h : SelfContained s) :
    tokens (s ++ '}' :: r) = tokens s ++ .closes :: tokens r := by
  induction h with
  | nil => rw [List.nil_append, tokens_close, tokens, List.nil_append]
  | @cons c s hc _ ih =>
    rw [List.cons_append, tokens_eq_cons, lexeme_append_close r hc, ih, tokens_eq_cons,
      List.cons_append]

end Citation.Latex
