import Citation.Latex.Decode
import Mathlib.Data.List.Infix
import Mathlib.Tactic.SplitIfs

/-! What a lexeme takes from its source. The argument of an accent is a stretch of the source, and
what a lexeme leaves is the end of it. -/
namespace Citation.Latex

theorem rawGroup_stretch (depth : Nat) (s : List Char) :
    (rawGroup depth s).1 <+: s ∧ (rawGroup depth s).2 <:+ s := by
  induction s generalizing depth with
  | nil => exact ⟨List.prefix_rfl, List.suffix_rfl⟩
  | cons c s ih =>
    simp only [rawGroup]
    split
    · exact ⟨List.nil_prefix, List.suffix_cons c s⟩
    · obtain ⟨hgroup, hrest⟩ := ih (depthAfter c depth)
      exact ⟨List.cons_prefix_cons.2 ⟨rfl, hgroup⟩, hrest.trans (List.suffix_cons c s)⟩

theorem controlName_append (s : List Char) : (controlName s).1 ++ (controlName s).2 = s := by
  unfold controlName
  split
  · exact List.take_append_drop 1 s
  · next c cs hname => rw [← hname, List.takeWhile_append_dropWhile]

theorem rawArgument_stretch (s : List Char) :
    (rawArgument s).1 <:+: s ∧ (rawArgument s).2 <:+ s := by
  have htrim : trimStart s <:+ s := List.dropWhile_suffix _
  suffices hat : (rawArgument s).1 <:+: trimStart s ∧ (rawArgument s).2 <:+ trimStart s from
    ⟨hat.1.trans htrim.isInfix, hat.2.trans htrim⟩
  unfold rawArgument
  generalize trimStart s = t
  cases t with
  | nil => exact ⟨List.infix_rfl, List.suffix_rfl⟩
  | cons c t =>
    simp only [rawArgumentAt]
    split_ifs
    · obtain ⟨hgroup, hrest⟩ := rawGroup_stretch 0 t
      exact ⟨hgroup.isInfix.trans (List.suffix_cons c t).isInfix,
        hrest.trans (List.suffix_cons c t)⟩
    · next hbackslash =>
      have hname : (controlName t).1 <+: t := ⟨_, controlName_append t⟩
      have hrest : (controlName t).2 <:+ t := ⟨_, controlName_append t⟩
      subst hbackslash
      exact ⟨(List.cons_prefix_cons.2 ⟨rfl, hname⟩).isInfix, hrest.trans (List.suffix_cons _ t)⟩
    · exact ⟨(List.cons_prefix_cons.2 ⟨rfl, List.nil_prefix⟩).isInfix, List.suffix_cons c t⟩

theorem argument_suffix (w : Option Wrap) (s : List Char) : (argument w s).2 <:+ s := by
  refine List.IsSuffix.trans ?_ (List.dropWhile_suffix isWhitespace)
  change (argument w s).2 <:+ trimStart s
  unfold argument
  split
  · exact List.nil_suffix
  · next c r hstart =>
    rw [hstart]
    split
    · exact List.suffix_cons c r
    · cases w <;> exact List.suffix_cons c r

theorem namedCommand_stretch (name s : List Char) : (namedCommand name s).2 <:+ s ∧
    ∀ mark raw, (namedCommand name s).1 = .accent mark raw → raw <:+: s := by
  obtain ⟨hraw, hrest⟩ := rawArgument_stretch s
  unfold namedCommand
  split
  · exact ⟨List.suffix_rfl, by simp⟩
  · exact ⟨List.suffix_rfl, by simp⟩
  · refine ⟨hrest, fun mark raw h => ?_⟩
    obtain ⟨-, rfl⟩ := Lexeme.accent.inj h
    exact hraw
  · exact ⟨argument_suffix _ s, by simp⟩
  · exact ⟨hrest, by simp⟩
  · exact ⟨(argument_suffix _ _).trans hrest, by simp⟩

theorem controlSequence_stretch (s : List Char) : (controlSequence s).2 <:+ s ∧
    ∀ mark raw, (controlSequence s).1 = .accent mark raw → raw <:+: s := by
  unfold controlSequence
  split
  · exact ⟨List.suffix_rfl, by simp⟩
  · next c r =>
    split
    · have hbehind : trimStart ((c :: r).dropWhile Char.isAlpha) <:+ c :: r :=
        (List.dropWhile_suffix _).trans (List.dropWhile_suffix _)
      obtain ⟨hrest, hraw⟩ := namedCommand_stretch ((c :: r).takeWhile Char.isAlpha)
        (trimStart ((c :: r).dropWhile Char.isAlpha))
      exact ⟨hrest.trans hbehind, fun mark raw h => (hraw mark raw h).trans hbehind.isInfix⟩
    · obtain ⟨hraw, hrest⟩ := rawArgument_stretch r
      split
      · refine ⟨hrest.trans (List.suffix_cons c r), fun mark raw h => ?_⟩
        obtain ⟨-, rfl⟩ := Lexeme.accent.inj h
        exact hraw.trans (List.suffix_cons c r).isInfix
      · exact ⟨List.suffix_cons c r, by simp⟩

theorem lexeme_suffix (c : Char) (s : List Char) : (lexeme c s).2 <:+ s := by
  unfold lexeme
  split_ifs
  · exact List.suffix_rfl
  · exact List.suffix_rfl
  · exact (controlSequence_stretch s).1
  · exact List.suffix_rfl
  · exact List.dropWhile_suffix _
  · exact List.suffix_rfl
  · exact List.suffix_rfl

variable {c mark : Char} {s raw : List Char}

/-- Accents stand behind a backslash. -/
theorem controlSequence_of_accent (h : (lexeme c s).1 = .accent mark raw) :
    c = '\\' ∧ (controlSequence s).1 = .accent mark raw := by
  unfold lexeme at h
  split_ifs at h with hopen hclose hbackslash
  exact ⟨hbackslash, h⟩

theorem argument_of_lexeme (h : (lexeme c s).1 = .accent mark raw) : raw <:+: s :=
  (controlSequence_stretch s).2 mark raw (controlSequence_of_accent h).2

theorem mem_commands {name : List Char} {command : Command} (h : command? name = some command) :
    ∃ s, s.toList = name ∧ (s, command) ∈ commands := by
  obtain ⟨⟨s, _⟩, hfind, rfl⟩ := Option.map_eq_some_iff.1 h
  exact ⟨s, by simpa using List.find?_some hfind, List.mem_of_find?_eq_some hfind⟩

/-- The combining marks that accents put on their argument. -/
def IsAccentMark (c : Char) : Prop := 0x300 ≤ c.toNat ∧ c.toNat ≤ 0x331

instance : DecidablePred IsAccentMark := fun _ => inferInstanceAs (Decidable (_ ∧ _))

theorem isAccentMark_of_command {name : List Char} (h : command? name = some (.accent mark)) :
    IsAccentMark mark := by
  have hall : (commands.all fun c => match c.2 with
      | .accent mark => decide (IsAccentMark mark) | _ => true) = true := by decide +kernel
  obtain ⟨s, -, hmem⟩ := mem_commands h
  exact of_decide_eq_true (List.all_eq_true.1 hall _ hmem)

theorem isAccentMark_of_sign (h : accentSigns.lookup c = some mark) : IsAccentMark mark := by
  obtain ⟨before, after, hsplit, -⟩ := List.lookup_eq_some_iff.1 h
  have hmem : (c, mark) ∈ accentSigns := by simp [hsplit]
  have hall : ∀ sign ∈ accentSigns, IsAccentMark sign.2 := by decide
  exact hall _ hmem

theorem isAccentMark_of_lexeme (h : (lexeme c s).1 = .accent mark raw) : IsAccentMark mark := by
  obtain ⟨-, h⟩ := controlSequence_of_accent h
  unfold controlSequence at h
  split at h
  · cases h
  · split_ifs at h
    · unfold namedCommand at h
      split at h
      case h_3 hcommand =>
        cases h
        exact isAccentMark_of_command hcommand
      all_goals cases h
    · split at h
      · next hsign =>
        cases h
        exact isAccentMark_of_sign hsign
      · cases h

end Citation.Latex
