import Citation.Proofs.Arguments
import Citation.Proofs.Concatenation

/-! Decoding as a recursive descent. The procedures that read a text, a group, a command, its
argument and an accent call one another, on what is left of their text or on the argument of an
accent. Every call comes to an end, and the text of the outermost one is what `Text.ofLatex`
decodes. -/
namespace Citation.Latex

/-! Procedures and their calls. -/

/-- The procedures of the decoder that call one another. -/
inductive Procedure
  /-- Decodes a text of its own. -/
  | text
  /-- Decodes a text of its own and drops the markup. -/
  | plain
  /-- Decodes up to the end of a group, or of the text, turn by turn. -/
  | group
  /-- Reads the command behind a backslash. -/
  | command
  /-- Decodes an argument, a group or one character. -/
  | argument
  /-- Puts a mark on a decoded argument. -/
  | accent
  deriving DecidableEq

/-- A procedure under way, with the text that it had left when it was called or, if it is a group,
when its turn began. -/
structure Activation where
  procedure : Procedure
  left : List Char

/-- What happens while a text is decoded. -/
inductive Event
  /-- A call: the procedures that are under way then, from the one that is called to the outermost
  one. -/
  | call (chain : List Activation)
  /-- A turn of a group, with the text that was left before and after it. -/
  | turn (before after : List Char)

/-- How far a group has come: its finished text, the run under way, which is held last character
first, and what is left to read. -/
structure State where
  text : Text
  run : List Char
  rest : List Char

/-- A call that takes the innermost group further. -/
inductive Call
  /-- The turns of the group itself, which ends at a brace if it is `nested`. -/
  | group (nested : Bool)
  | command
  /-- An argument, which is wrapped or taken as it is. -/
  | argument (w : Option Wrap)
  /-- An accent, with the source of its argument. -/
  | accent (mark : Char) (raw : List Char)

namespace State

variable (σ : State)

/-- Takes characters into the run under way. -/
def take (cs r : List Char) : State := ⟨σ.text, cs.reverse ++ σ.run, r⟩

/-- Ends the run and takes in the text of a group or an argument. -/
def close (w : Option Wrap) (inner : Text) (r : List Char) : State :=
  ⟨Frame.close ⟨w, σ.text ++ .ofChars σ.run.reverse⟩ inner, [], r⟩

/-- Takes in a character `c` that is neither a brace nor a backslash. -/
def read (c : Char) (s : List Char) : State :=
  if c = '~' then σ.take [tie] s
  else if c = '-' then
    σ.take [dashOf (1 + (s.takeWhile (· == '-')).length)] (s.dropWhile (· == '-'))
  else if isWhitespace c then (if σ.run.head? = some ' ' then σ.take [] s else σ.take [' '] s)
  else σ.take [c] s

end State

/-- The command behind a backslash, and what follows its name. What names no command is a symbol
for itself. -/
def heading : List Char → Command × List Char
  | [] => (.symbol "\\", [])
  | c :: r =>
      if c.isAlpha then
        let name := (c :: r).takeWhile Char.isAlpha
        ((command? name).getD (.symbol (String.ofList ('\\' :: name))),
          trimStart ((c :: r).dropWhile Char.isAlpha))
      else match accentSigns.lookup c with
        | some mark => (.accent mark, r)
        | none => (.symbol (String.ofList (controlSymbol c)), r)

/-- A call by the procedures `active`, the innermost first: the states before and after it, and the
events in between. -/
inductive Runs : List Activation → Call → State → State → List Event → Prop
  | ends {active : List Activation} {nested : Bool} {text : Text} {run : List Char} :
      Runs active (.group nested) ⟨text, run, []⟩ ⟨text ++ .ofChars run.reverse, [], []⟩ []
  | closes {active : List Activation} {text : Text} {run s : List Char} :
      Runs active (.group true) ⟨text, run, '}' :: s⟩ ⟨text ++ .ofChars run.reverse, [], s⟩
        [.turn ('}' :: s) s]
  | stray {active : List Activation} {text : Text} {run s : List Char} {τ : State}
      {log : List Event} (h : Runs active (.group false) ⟨text, run, s⟩ τ log) :
      Runs active (.group false) ⟨text, run, '}' :: s⟩ τ (.turn ('}' :: s) s :: log)
  | opens {active : List Activation} {nested : Bool} {text : Text} {run s : List Char}
      {inner τ : State} {log log' : List Event}
      (hinner : Runs (⟨.group, '{' :: s⟩ :: active) (.group true) ⟨.nil, [], s⟩ inner log)
      (h : Runs active (.group nested)
        ((⟨text, run, '{' :: s⟩ : State).close (some .guarded) inner.text inner.rest) τ log') :
      Runs active (.group nested) ⟨text, run, '{' :: s⟩ τ
        (.call (⟨.group, s⟩ :: ⟨.group, '{' :: s⟩ :: active) ::
          (log ++ .turn ('{' :: s) inner.rest :: log'))
  | commands {active : List Activation} {nested : Bool} {text : Text} {run s : List Char}
      {mid τ : State} {log log' : List Event}
      (hcommand : Runs (⟨.group, '\\' :: s⟩ :: active) .command ⟨text, run, s⟩ mid log)
      (h : Runs active (.group nested) mid τ log') :
      Runs active (.group nested) ⟨text, run, '\\' :: s⟩ τ
        (.call (⟨.command, s⟩ :: ⟨.group, '\\' :: s⟩ :: active) ::
          (log ++ .turn ('\\' :: s) mid.rest :: log'))
  | reads {active : List Activation} {nested : Bool} {text : Text} {run s : List Char} {c : Char}
      {τ : State} {log : List Event} (hc : IsPlain c)
      (h : Runs active (.group nested) ((⟨text, run, c :: s⟩ : State).read c s) τ log) :
      Runs active (.group nested) ⟨text, run, c :: s⟩ τ
        (.turn (c :: s) ((⟨text, run, c :: s⟩ : State).read c s).rest :: log)
  | symbol {active : List Activation} {σ : State} {t : String} {r : List Char}
      (hs : heading σ.rest = (.symbol t, r)) :
      Runs active .command σ (σ.take t.toList r) []
  | accented {active : List Activation} {σ τ : State} {mark : Char} {r : List Char}
      {log : List Event} (hs : heading σ.rest = (.accent mark, r))
      (h : Runs (⟨.command, σ.rest⟩ :: active) (.accent mark (rawArgument r).1)
        { σ with rest := (rawArgument r).2 } τ log) :
      Runs active .command σ τ
        (.call (⟨.accent, (rawArgument r).1⟩ :: ⟨.command, σ.rest⟩ :: active) :: log)
  | grouped {active : List Activation} {σ τ : State} {w : Option Wrap} {r : List Char}
      {log : List Event} (hs : heading σ.rest = (.group w, r))
      (h : Runs (⟨.command, σ.rest⟩ :: active) (.argument w) { σ with rest := r } τ log) :
      Runs active .command σ τ (.call (⟨.argument, r⟩ :: ⟨.command, σ.rest⟩ :: active) :: log)
  | url {active : List Activation} {σ : State} {r : List Char}
      (hs : heading σ.rest = (.url, r)) :
      Runs active .command σ (σ.close (some (.link (rawArgument r).1))
        (.ofChars (rawArgument r).1) (rawArgument r).2) []
  | href {active : List Activation} {σ τ : State} {r : List Char} {log : List Event}
      (hs : heading σ.rest = (.href, r))
      (h : Runs (⟨.command, σ.rest⟩ :: active) (.argument (some (.link (rawArgument r).1)))
        { σ with rest := (rawArgument r).2 } τ log) :
      Runs active .command σ τ
        (.call (⟨.argument, (rawArgument r).2⟩ :: ⟨.command, σ.rest⟩ :: active) :: log)
  | braced {active : List Activation} {σ inner : State} {w : Option Wrap} {r : List Char}
      {log : List Event} (hs : trimStart σ.rest = '{' :: r)
      (h : Runs (⟨.argument, σ.rest⟩ :: active) (.group true) ⟨.nil, [], r⟩ inner log) :
      Runs active (.argument w) σ (σ.close w inner.text inner.rest)
        (.call (⟨.group, r⟩ :: ⟨.argument, σ.rest⟩ :: active) :: log)
  | single {active : List Activation} {σ : State} {w : Option Wrap}
      (hs : (trimStart σ.rest).head? ≠ some '{') :
      Runs active (.argument w) σ (σ.close w (.ofChars ((trimStart σ.rest).take 1))
        ((trimStart σ.rest).drop 1)) []
  | marks {active : List Activation} {σ base : State} {mark : Char} {raw : List Char}
      {log : List Event}
      (h : Runs (⟨.text, raw⟩ :: ⟨.plain, raw⟩ :: ⟨.accent, raw⟩ :: active) (.group false)
        ⟨.nil, [], raw⟩ base log) :
      Runs active (.accent mark raw) σ (σ.take (accented mark base.text.plain) σ.rest)
        (.call (⟨.plain, raw⟩ :: ⟨.accent, raw⟩ :: active) ::
          .call (⟨.text, raw⟩ :: ⟨.plain, raw⟩ :: ⟨.accent, raw⟩ :: active) ::
          .call (⟨.group, raw⟩ :: ⟨.text, raw⟩ :: ⟨.plain, raw⟩ :: ⟨.accent, raw⟩ :: active) ::
          log)

/-- A text is decoded into another with the given events. -/
def Decodes (s : List Char) (t : Text) (log : List Event) : Prop :=
  ∃ τ log', Runs [⟨.text, s⟩] (.group false) ⟨.nil, [], s⟩ τ log' ∧ τ.text = t ∧
    log = .call [⟨.text, s⟩] :: .call [⟨.group, s⟩, ⟨.text, s⟩] :: log'

/-! Every call comes to an end. -/

theorem State.read_rest_length_le (σ : State) (c : Char) (s : List Char) :
    (σ.read c s).rest.length ≤ s.length := by
  have hdash : (s.dropWhile (· == '-')).length ≤ s.length := (List.dropWhile_sublist _).length_le
  unfold State.read
  split_ifs <;> simp [State.take, hdash]

theorem trimStart_length_le (s : List Char) : (trimStart s).length ≤ s.length :=
  (List.dropWhile_sublist _).length_le

theorem heading_length_le (s : List Char) : (heading s).2.length ≤ s.length - 1 := by
  cases s with
  | nil => exact Nat.le_refl 0
  | cons c r =>
    have hdrop : (r.dropWhile Char.isAlpha).length ≤ r.length :=
      (List.dropWhile_sublist _).length_le
    have htrim := trimStart_length_le (r.dropWhile Char.isAlpha)
    rw [List.length_cons, Nat.add_sub_cancel]
    cases hc : c.isAlpha with
    | true => simpa [heading, hc] using htrim.trans hdrop
    | false => cases hsign : accentSigns.lookup c <;> simp [heading, hc, hsign]

theorem length_of_heading {s r : List Char} {command : Command} (h : heading s = (command, r)) :
    r.length ≤ s.length := by
  have hlength := heading_length_le s
  rw [h] at hlength
  exact hlength.trans (Nat.sub_le _ _)

/-- What a call leaves is no longer than what it had left. -/
theorem Runs.length_le {active : List Activation} {call : Call} {σ τ : State} {log : List Event}
    (h : Runs active call σ τ log) : τ.rest.length ≤ σ.rest.length := by
  induction h with
  | ends => exact Nat.le_refl 0
  | closes => exact Nat.le_succ _
  | stray _ ih => exact Nat.le_succ_of_le ih
  | opens _ _ ihinner ih => exact Nat.le_succ_of_le (ih.trans ihinner)
  | commands _ _ ihcommand ih => exact Nat.le_succ_of_le (ih.trans ihcommand)
  | reads _ _ ih => exact Nat.le_succ_of_le (ih.trans (State.read_rest_length_le _ _ _))
  | symbol hs => exact length_of_heading hs
  | accented hs _ ih => exact (ih.trans (rawArgument_length_le _).2).trans (length_of_heading hs)
  | grouped hs _ ih => exact ih.trans (length_of_heading hs)
  | url hs => exact (rawArgument_length_le _).2.trans (length_of_heading hs)
  | href hs _ ih => exact (ih.trans (rawArgument_length_le _).2).trans (length_of_heading hs)
  | @braced _ σ _ _ _ _ hs _ ih =>
    have htrim := trimStart_length_le σ.rest
    rw [hs, List.length_cons] at htrim
    exact ih.trans (Nat.le_of_succ_le htrim)
  | single _ => exact ((List.drop_sublist _ _).length_le).trans (trimStart_length_le _)
  | marks _ _ => exact Nat.le_refl _

/-- Groups come to an end on what is no longer than `n`. -/
def GroupsEnd (n : Nat) : Prop :=
  ∀ (active : List Activation) (nested : Bool) (σ : State), σ.rest.length ≤ n →
    ∃ τ log, Runs active (.group nested) σ τ log

namespace GroupsEnd

variable {n : Nat} (h : GroupsEnd n) (active : List Activation) (σ : State)
include h

theorem accent (mark : Char) {raw : List Char} (hraw : raw.length ≤ n) :
    ∃ τ log, Runs active (.accent mark raw) σ τ log := by
  obtain ⟨base, log, hbase⟩ :=
    h (⟨.text, raw⟩ :: ⟨.plain, raw⟩ :: ⟨.accent, raw⟩ :: active) false ⟨.nil, [], raw⟩ hraw
  exact ⟨_, _, .marks hbase⟩

theorem argument (w : Option Wrap) (hσ : σ.rest.length ≤ n) :
    ∃ τ log, Runs active (.argument w) σ τ log := by
  have htrim := (trimStart_length_le σ.rest).trans hσ
  cases hs : trimStart σ.rest with
  | nil => exact ⟨_, _, .single (by simp [hs])⟩
  | cons c r =>
    by_cases hc : c = '{'
    · subst hc
      rw [hs, List.length_cons] at htrim
      obtain ⟨inner, log, hinner⟩ :=
        h (⟨.argument, σ.rest⟩ :: active) true ⟨.nil, [], r⟩ (Nat.le_of_succ_le htrim)
      exact ⟨_, _, .braced hs hinner⟩
    · exact ⟨_, _, .single (by simp [hs, hc])⟩

theorem command (hσ : σ.rest.length ≤ n) : ∃ τ log, Runs active .command σ τ log := by
  obtain ⟨⟨command, r⟩, hs⟩ : ∃ x, heading σ.rest = x := ⟨_, rfl⟩
  have hr : r.length ≤ n := (length_of_heading hs).trans hσ
  have hraw := rawArgument_length_le r
  cases command with
  | symbol t => exact ⟨_, _, .symbol hs⟩
  | accent mark =>
    obtain ⟨τ, log, hτ⟩ := h.accent (⟨.command, σ.rest⟩ :: active)
      { σ with rest := (rawArgument r).2 } mark (hraw.1.trans hr)
    exact ⟨_, _, .accented hs hτ⟩
  | group w =>
    obtain ⟨τ, log, hτ⟩ := h.argument (⟨.command, σ.rest⟩ :: active) { σ with rest := r } w hr
    exact ⟨_, _, .grouped hs hτ⟩
  | url => exact ⟨_, _, .url hs⟩
  | href =>
    obtain ⟨τ, log, hτ⟩ := h.argument (⟨.command, σ.rest⟩ :: active)
      { σ with rest := (rawArgument r).2 } (some (.link (rawArgument r).1)) (hraw.2.trans hr)
    exact ⟨_, _, .href hs hτ⟩

end GroupsEnd

/-- A turn leaves less than it found, so that turns and the groups in them come to an end. -/
theorem groupsEnd (n : Nat) : GroupsEnd n := by
  -- By the length of what is left. A turn takes its first character before it calls anything, and
  -- what it calls leaves no more than it finds: the next turn has less left, too.
  induction n with
  | zero =>
    rintro active nested ⟨text, run, rest⟩ hσ
    obtain rfl := List.eq_nil_of_length_eq_zero (Nat.le_zero.1 hσ)
    exact ⟨_, _, .ends⟩
  | succ n ih =>
    rintro active nested ⟨text, run, rest⟩ hσ
    cases rest with
    | nil => exact ⟨_, _, .ends⟩
    | cons c s =>
      have hs : s.length ≤ n := Nat.le_of_succ_le_succ hσ
      by_cases hopen : c = '{'
      · subst hopen
        obtain ⟨inner, log, hinner⟩ := ih (⟨.group, '{' :: s⟩ :: active) true ⟨.nil, [], s⟩ hs
        obtain ⟨τ, log', hτ⟩ := ih active nested
          ((⟨text, run, '{' :: s⟩ : State).close (some .guarded) inner.text inner.rest)
          (hinner.length_le.trans hs)
        exact ⟨_, _, .opens hinner hτ⟩
      by_cases hclose : c = '}'
      · subst hclose
        cases nested with
        | true => exact ⟨_, _, .closes⟩
        | false =>
          obtain ⟨τ, log, hτ⟩ := ih active false ⟨text, run, s⟩ hs
          exact ⟨_, _, .stray hτ⟩
      by_cases hbackslash : c = '\\'
      · subst hbackslash
        obtain ⟨mid, log, hmid⟩ := ih.command (⟨.group, '\\' :: s⟩ :: active) ⟨text, run, s⟩ hs
        obtain ⟨τ, log', hτ⟩ := ih active nested mid (hmid.length_le.trans hs)
        exact ⟨_, _, .commands hmid hτ⟩
      · obtain ⟨τ, log, hτ⟩ := ih active nested ((⟨text, run, c :: s⟩ : State).read c s)
          ((State.read_rest_length_le _ _ _).trans hs)
        exact ⟨_, _, .reads ⟨hbackslash, hopen, hclose⟩ hτ⟩

/-! Each call has one outcome. -/

theorem Runs.unique {active : List Activation} {call : Call} {σ τ : State} {log : List Event}
    (h : Runs active call σ τ log) :
    ∀ τ' log', Runs active call σ τ' log' → τ' = τ ∧ log' = log := by
  -- No two rules are for one state: the first character tells a turn from the others, the heading a
  -- command, and a brace in front an argument.
  induction h with
  | ends =>
    rintro τ' log' ⟨⟩
    exact ⟨rfl, rfl⟩
  | closes =>
    rintro τ' log' h
    cases h with
    | closes => exact ⟨rfl, rfl⟩
    | reads hc => exact absurd rfl hc.2.2
  | stray _ ih =>
    rintro τ' log' h
    cases h with
    | stray h =>
      obtain ⟨rfl, rfl⟩ := ih _ _ h
      exact ⟨rfl, rfl⟩
    | reads hc => exact absurd rfl hc.2.2
  | opens _ _ ihinner ih =>
    rintro τ' log' h
    cases h with
    | opens hinner h =>
      obtain ⟨rfl, rfl⟩ := ihinner _ _ hinner
      obtain ⟨rfl, rfl⟩ := ih _ _ h
      exact ⟨rfl, rfl⟩
    | reads hc => exact absurd rfl hc.2.1
  | commands _ _ ihcommand ih =>
    rintro τ' log' h
    cases h with
    | commands hcommand h =>
      obtain ⟨rfl, rfl⟩ := ihcommand _ _ hcommand
      obtain ⟨rfl, rfl⟩ := ih _ _ h
      exact ⟨rfl, rfl⟩
    | reads hc => exact absurd rfl hc.1
  | reads hc _ ih =>
    rintro τ' log' h
    cases h with
    | reads _ h =>
      obtain ⟨rfl, rfl⟩ := ih _ _ h
      exact ⟨rfl, rfl⟩
    | closes => exact absurd rfl hc.2.2
    | stray => exact absurd rfl hc.2.2
    | opens => exact absurd rfl hc.2.1
    | commands => exact absurd rfl hc.1
  | symbol hs =>
    rintro τ' log' h
    cases h with
    | symbol hs' =>
      obtain ⟨hcommand, rfl⟩ := Prod.mk.inj (hs.symm.trans hs')
      cases hcommand
      exact ⟨rfl, rfl⟩
    | accented hs' | grouped hs' | url hs' | href hs' => cases hs.symm.trans hs'
  | accented hs _ ih =>
    rintro τ' log' h
    cases h with
    | accented hs' h =>
      obtain ⟨hcommand, rfl⟩ := Prod.mk.inj (hs.symm.trans hs')
      cases hcommand
      obtain ⟨rfl, rfl⟩ := ih _ _ h
      exact ⟨rfl, rfl⟩
    | symbol hs' | grouped hs' | url hs' | href hs' => cases hs.symm.trans hs'
  | grouped hs _ ih =>
    rintro τ' log' h
    cases h with
    | grouped hs' h =>
      obtain ⟨hcommand, rfl⟩ := Prod.mk.inj (hs.symm.trans hs')
      cases hcommand
      obtain ⟨rfl, rfl⟩ := ih _ _ h
      exact ⟨rfl, rfl⟩
    | symbol hs' | accented hs' | url hs' | href hs' => cases hs.symm.trans hs'
  | url hs =>
    rintro τ' log' h
    cases h with
    | url hs' =>
      obtain ⟨-, rfl⟩ := Prod.mk.inj (hs.symm.trans hs')
      exact ⟨rfl, rfl⟩
    | symbol hs' | accented hs' | grouped hs' | href hs' => cases hs.symm.trans hs'
  | href hs _ ih =>
    rintro τ' log' h
    cases h with
    | href hs' h =>
      obtain ⟨hcommand, rfl⟩ := Prod.mk.inj (hs.symm.trans hs')
      cases hcommand
      obtain ⟨rfl, rfl⟩ := ih _ _ h
      exact ⟨rfl, rfl⟩
    | symbol hs' | accented hs' | grouped hs' | url hs' => cases hs.symm.trans hs'
  | braced hs _ ih =>
    rintro τ' log' h
    cases h with
    | braced hs' h =>
      obtain rfl : _ = _ := (List.cons.inj (hs.symm.trans hs')).2
      obtain ⟨rfl, rfl⟩ := ih _ _ h
      exact ⟨rfl, rfl⟩
    | single hs' => simp [hs] at hs'
  | single hs =>
    rintro τ' log' h
    cases h with
    | braced hs' => simp [hs'] at hs
    | single => exact ⟨rfl, rfl⟩
  | marks _ ih =>
    rintro τ' log' h
    cases h with
    | marks h =>
      obtain ⟨rfl, rfl⟩ := ih _ _ h
      exact ⟨rfl, rfl⟩

/-! What the calls decode. -/

/-- The lexeme of a command in front of what follows its name. -/
def Command.lexeme (s : List Char) : Command → Lexeme × List Char
  | .symbol t => (.token (.chars t.toList), s)
  | .accent mark => (.accent mark (rawArgument s).1, (rawArgument s).2)
  | .group w => (.token (Latex.argument w s).1, (Latex.argument w s).2)
  | .url =>
      (.token (.piece (.within (.link (rawArgument s).1) (.ofChars (rawArgument s).1))),
        (rawArgument s).2)
  | .href =>
      let label := Latex.argument (some (.link (rawArgument s).1)) (rawArgument s).2
      (.token label.1, label.2)

theorem namedCommand_eq (name s : List Char) : namedCommand name s =
    ((command? name).getD (.symbol (String.ofList ('\\' :: name)))).lexeme s := by
  unfold namedCommand
  cases command? name with
  | none => simp [Command.lexeme]
  | some command => cases command <;> rfl

theorem controlSequence_eq (s : List Char) :
    controlSequence s = (heading s).1.lexeme (heading s).2 := by
  cases s with
  | nil => rfl
  | cons c r =>
    cases hc : c.isAlpha with
    | true => simp [controlSequence, heading, hc, namedCommand_eq]
    | false =>
      cases hsign : accentSigns.lookup c <;>
        simp [controlSequence, heading, hc, hsign, Command.lexeme]

/-- What becomes of a state behind the groups of `stack`. -/
def State.decoded (σ : State) (stack : List Frame) : Text :=
  .ofTokensIn stack σ.text σ.run (tokens σ.rest)

/-- What becomes of the state at the end of a group, which is the innermost one of `stack` if there
is one. -/
def State.resumed (σ : State) : List Frame → Text
  | [] => σ.text
  | f :: stack => (⟨f.close σ.text, [], σ.rest⟩ : State).decoded stack

/-- A call makes of a state what the tokens make of it. The text of a group ends with a run, be it
empty, so that an empty text behind it adds nothing. -/
def Call.Agrees : Call → State → State → Prop
  | .group nested, σ, τ => τ.text ++ .nil = τ.text ∧
      ∀ stack : List Frame, stack.isEmpty = !nested → σ.decoded stack = τ.resumed stack
  | .command, σ, τ => ∀ stack,
      Text.ofTokensIn stack σ.text σ.run (tokens ('\\' :: σ.rest)) = τ.decoded stack
  | .argument w, σ, τ => ∀ stack, Text.ofTokensIn stack σ.text σ.run
      ((Latex.argument w σ.rest).1 :: tokens (Latex.argument w σ.rest).2) = τ.decoded stack
  | .accent mark raw, σ, τ => ∀ stack, Text.ofTokensIn stack σ.text σ.run
      (.chars (accented mark (plain raw)) :: tokens σ.rest) = τ.decoded stack

/-! An empty text behind a text that ends with a run or a wrapped text. -/

theorem append_ofChars_append_nil (t : Text) (s : List Char) :
    t ++ .ofChars s ++ .nil = t ++ .ofChars s := by
  rw [Text.append_assoc, Text.ofChars_append_eq]
  rfl

theorem Frame.close_append_nil (f : Frame) {t : Text} (h : t ++ .nil = t) :
    f.close t ++ .nil = f.close t := by
  obtain ⟨w, before⟩ := f
  cases w with
  | none => rw [Frame.close, Text.append_assoc, h]
  | some w => rw [Frame.close, Text.append_assoc, Text.within_append_eq]; rfl

/-! The state under the calls. -/

theorem State.decoded_ended {t : Text} (h : t ++ .nil = t) (stack : List Frame) :
    (⟨t, [], []⟩ : State).decoded stack = stack.foldl (fun inner f => f.close inner) t := by
  rw [State.decoded, tokens]
  exact congrArg (stack.foldl fun inner f => f.close inner) h

theorem State.decoded_read (σ : State) {c : Char} (hc : IsPlain c) (s : List Char)
    (stack : List Frame) :
    (⟨σ.text, σ.run, c :: s⟩ : State).decoded stack = (σ.read c s).decoded stack := by
  obtain ⟨hbackslash, hopen, hclose⟩ := hc
  unfold State.decoded State.read
  rw [tokens_eq_cons, Latex.lexeme, if_neg hopen, if_neg hclose, if_neg hbackslash]
  split_ifs <;> simp_all [Lexeme.decoded, Text.ofTokensIn, State.take]

/-- One character, or none at the end of the text, does for an argument. -/
theorem State.decoded_single (σ : State) (w : Option Wrap)
    (hs : (trimStart σ.rest).head? ≠ some '{') (stack : List Frame) :
    Text.ofTokensIn stack σ.text σ.run
        ((Latex.argument w σ.rest).1 :: tokens (Latex.argument w σ.rest).2) =
      (σ.close w (.ofChars ((trimStart σ.rest).take 1)) ((trimStart σ.rest).drop 1)).decoded
        stack := by
  cases ht : trimStart σ.rest with
  | nil => cases w <;> simp [Latex.argument, ht] <;> rfl
  | cons c r =>
    have hc : c ≠ '{' := by simpa [ht] using hs
    cases w <;> simp [Latex.argument, ht, hc] <;> rfl

theorem tokens_backslash (s : List Char) : tokens ('\\' :: s) =
    ((heading s).1.lexeme (heading s).2).1.decoded ::
      tokens ((heading s).1.lexeme (heading s).2).2 := by
  rw [← controlSequence_eq, tokens_eq_cons]
  rfl

theorem Runs.agrees {active : List Activation} {call : Call} {σ τ : State} {log : List Event}
    (h : Runs active call σ τ log) : call.Agrees σ τ := by
  -- A group that is called is one more frame on the stack, until the brace that ends it.
  induction h with
  | @ends _ nested text run =>
    refine ⟨append_ofChars_append_nil _ _, fun stack _ => ?_⟩
    cases stack with
    | nil =>
      rw [State.decoded, tokens]
      rfl
    | cons f stack =>
      have hclose := Frame.close_append_nil f (append_ofChars_append_nil text run.reverse)
      rw [State.resumed, State.decoded_ended hclose, State.decoded, tokens]
      rfl
  | @closes _ text run s =>
    refine ⟨append_ofChars_append_nil _ _, fun stack hstack => ?_⟩
    cases stack with
    | nil => cases hstack
    | cons f stack =>
      rw [State.decoded, tokens_close]
      rfl
  | @stray _ text run s τ _ _ ih =>
    refine ⟨ih.1, fun stack hstack => ?_⟩
    obtain rfl := List.isEmpty_iff.1 hstack
    rw [State.decoded, tokens_close]
    exact ih.2 [] rfl
  | @opens _ nested text run s inner τ _ _ _ _ ihinner ih =>
    refine ⟨ih.1, fun stack hstack => ?_⟩
    have hlexeme : Latex.lexeme '{' s = (.token (.opens (some .guarded)), s) := rfl
    rw [← ih.2 stack hstack, State.decoded, tokens_cons hlexeme]
    exact ihinner.2 (⟨some .guarded, text ++ .ofChars run.reverse⟩ :: stack) rfl
  | commands _ _ ihcommand ih =>
    refine ⟨ih.1, fun stack hstack => ?_⟩
    rw [← ih.2 stack hstack]
    exact ihcommand stack
  | @reads _ _ text run s c _ _ hc _ ih =>
    refine ⟨ih.1, fun stack hstack => ?_⟩
    rw [← ih.2 stack hstack]
    exact State.decoded_read ⟨text, run, c :: s⟩ hc s stack
  | symbol hs =>
    intro stack
    rw [tokens_backslash, hs]
    rfl
  | accented hs _ ih =>
    intro stack
    rw [tokens_backslash, hs]
    exact ih stack
  | grouped hs _ ih =>
    intro stack
    rw [tokens_backslash, hs]
    exact ih stack
  | @url _ σ r hs =>
    intro stack
    rw [tokens_backslash, hs]
    rfl
  | href hs _ ih =>
    intro stack
    rw [tokens_backslash, hs]
    exact ih stack
  | @braced _ σ inner w r _ hs _ ih =>
    intro stack
    have hargument : Latex.argument w σ.rest = (.opens w, r) := by simp [Latex.argument, hs]
    rw [hargument]
    exact ih.2 (⟨w, σ.text ++ .ofChars σ.run.reverse⟩ :: stack) rfl
  | single hs => exact State.decoded_single _ _ hs
  | @marks _ σ base mark raw _ _ ih =>
    intro stack
    have hplain : plain raw = base.text.plain := congrArg Text.plain (ih.2 [] rfl)
    rw [hplain]
    rfl

end Citation.Latex
