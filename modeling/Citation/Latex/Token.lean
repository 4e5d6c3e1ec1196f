import Citation.Pieces
import Citation.Text
import Citation.Whitespace

/-! The markup of field values in tokens. A token is read off the front of a text by one character
of context only, whatever group it stands in. -/
namespace Citation.Latex

/-- What a text with markup is made of. -/
inductive Token
  /-- Characters for the run under way. -/
  | chars (s : List Char)
  /-- A space, unless the run under way ends with one. -/
  | space
  /-- The start of a group, which is going to be wrapped or taken as it is. -/
  | opens (w : Option Wrap)
  /-- The end of the innermost group, if there is one. -/
  | closes
  /-- A text of its own, behind the run under way. -/
  | piece (t : Text)

/-- A token, or an accent with its argument still in source. -/
inductive Lexeme
  | token (t : Token)
  | accent (mark : Char) (argument : List Char)

/-- What the name of a command means. -/
inductive Command
  | group (w : Option Wrap)
  | url
  | href
  | accent (mark : Char)
  | symbol (s : String)

def commands : List (String × Command) :=
  [("emph", .group (some .emph)), ("textit", .group (some .emph)),
    ("textsl", .group (some .emph)), ("it", .group (some .emph)), ("em", .group (some .emph)),
    ("textbf", .group (some .strong)), ("bf", .group (some .strong)),
    ("url", .url), ("href", .href),
    ("textrm", .group none), ("textsf", .group none), ("texttt", .group none),
    ("textsc", .group none), ("textup", .group none), ("textnormal", .group none),
    ("mbox", .group none),
    ("u", .accent '\u0306'), ("v", .accent '\u030c'), ("H", .accent '\u030b'),
    ("r", .accent '\u030a'), ("c", .accent '\u0327'), ("k", .accent '\u0328'),
    ("d", .accent '\u0323'), ("b", .accent '\u0331'),
    ("ss", .symbol "ß"), ("o", .symbol "ø"), ("O", .symbol "Ø"), ("ae", .symbol "æ"),
    ("AE", .symbol "Æ"), ("oe", .symbol "œ"), ("OE", .symbol "Œ"), ("aa", .symbol "å"),
    ("AA", .symbol "Å"), ("l", .symbol "ł"), ("L", .symbol "Ł"), ("i", .symbol "ı"),
    ("j", .symbol "ȷ"), ("textendash", .symbol "–"), ("textemdash", .symbol "—"),
    ("textquoteleft", .symbol "‘"), ("textquoteright", .symbol "’"), ("ldots", .symbol "…"),
    ("dots", .symbol "…"), ("TeX", .symbol "TeX"), ("LaTeX", .symbol "LaTeX"),
    ("BibTeX", .symbol "BibTeX")]

def command? (name : List Char) : Option Command :=
  (commands.find? fun c => c.1.toList = name).map Prod.snd

/-- Marks that accents of one character put on their argument. -/
def accentSigns : List (Char × Char) :=
  [('\'', '\u0301'), ('\x60', '\u0300'), ('^', '\u0302'), ('\"', '\u0308'), ('~', '\u0303'),
    ('=', '\u0304'), ('.', '\u0307')]

/-- What a backslash makes of a character that is neither a letter nor an accent. The italic
correction and the discretionary hyphen leave nothing. -/
def controlSymbol (c : Char) : List Char :=
  if ['&', '%', '$', '#', '_', '{', '}'].contains c then [c]
  else if c = ' ' ∨ c = '\\' then [' ']
  else if c = '/' ∨ c = '-' then []
  else ['\\', c]

/-- The source up to the brace that closes a group of the given depth, and what follows it. -/
def rawGroup (depth : Nat) : List Char → List Char × List Char
  | [] => ([], [])
  | c :: s =>
      if c = '}' ∧ depth = 0 then ([], s)
      else
        let (group, rest) := rawGroup (depthAfter c depth) s
        (c :: group, rest)

/-- A control sequence behind its backslash: letters, or one other character. -/
def controlName (s : List Char) : List Char × List Char :=
  match s.takeWhile Char.isAlpha with
  | [] => (s.take 1, s.drop 1)
  | c :: cs => (c :: cs, s.dropWhile Char.isAlpha)

/-- The argument that starts a text: a brace group, a control sequence or one character. -/
def rawArgumentAt : List Char → List Char × List Char
  | [] => ([], [])
  | c :: s =>
      if c = '{' then rawGroup 0 s
      else if c = '\\' then ('\\' :: (controlName s).1, (controlName s).2)
      else ([c], s)

/-- The source of an argument and what follows it. -/
def rawArgument (s : List Char) : List Char × List Char := rawArgumentAt (trimStart s)

/-- The start of a group argument. A single character does for a group. -/
def argument (w : Option Wrap) (s : List Char) : Token × List Char :=
  match trimStart s with
  | [] => (.piece .nil, [])
  | c :: r =>
      if c = '{' then (.opens w, r)
      else match w with
        | some w => (.piece (.within w (.ofChars [c])), r)
        | none => (.piece (.ofChars [c]), r)

/-- The lexeme of a named command in front of `s`. An unknown one is kept as written, but for
the white space behind it. -/
def namedCommand (name s : List Char) : Lexeme × List Char :=
  match command? name with
  | none => (.token (.chars ('\\' :: name)), s)
  | some (.symbol t) => (.token (.chars t.toList), s)
  | some (.accent mark) => (.accent mark (rawArgument s).1, (rawArgument s).2)
  | some (.group w) => (.token (argument w s).1, (argument w s).2)
  | some .url =>
      (.token (.piece (.within (.link (rawArgument s).1) (.ofChars (rawArgument s).1))),
        (rawArgument s).2)
  | some .href =>
      let label := argument (some (.link (rawArgument s).1)) (rawArgument s).2
      (.token label.1, label.2)

/-- The lexeme behind a backslash. -/
def controlSequence (s : List Char) : Lexeme × List Char :=
  match s with
  | [] => (.token (.chars ['\\']), [])
  | c :: r =>
      if c.isAlpha then
        namedCommand (s.takeWhile Char.isAlpha) (trimStart (s.dropWhile Char.isAlpha))
      else match accentSigns.lookup c with
        | some mark => (.accent mark (rawArgument r).1, (rawArgument r).2)
        | none => (.token (.chars (controlSymbol c)), r)

/-- One hyphen stays, two are an en dash, more an em dash. -/
def dashOf (hyphens : Nat) : Char :=
  if hyphens = 1 then '-' else if hyphens = 2 then enDash else emDash

/-- The lexeme that starts with `c`, and what follows it. -/
def lexeme (c : Char) (s : List Char) : Lexeme × List Char :=
  if c = '{' then (.token (.opens (some .guarded)), s)
  else if c = '}' then (.token .closes, s)
  else if c = '\\' then controlSequence s
  else if c = '~' then (.token (.chars [tie]), s)
  else if c = '-' then
    (.token (.chars [dashOf (1 + (s.takeWhile (· == '-')).length)]), s.dropWhile (· == '-'))
  else if isWhitespace c then (.token .space, s)
  else (.token (.chars [c]), s)

theorem rawGroup_length_le (depth : Nat) (s : List Char) :
    (rawGroup depth s).1.length ≤ s.length ∧ (rawGroup depth s).2.length ≤ s.length := by
  induction s generalizing depth with
  | nil => simp [rawGroup]
  | cons c s ih =>
    simp only [rawGroup]
    split
    · simp
    · have := ih (depthAfter c depth)
      simp only [List.length_cons]
      omega

theorem controlName_length_le (s : List Char) :
    (controlName s).1.length ≤ s.length ∧ (controlName s).2.length ≤ s.length := by
  unfold controlName
  split
  · exact ⟨(List.take_sublist 1 s).length_le, (List.drop_sublist 1 s).length_le⟩
  · next hc =>
    refine ⟨?_, (List.dropWhile_sublist _).length_le⟩
    rw [← hc]
    exact (List.takeWhile_sublist _).length_le

theorem rawArgument_length_le (s : List Char) :
    (rawArgument s).1.length ≤ s.length ∧ (rawArgument s).2.length ≤ s.length := by
  have ht : (trimStart s).length ≤ s.length := (List.dropWhile_sublist _).length_le
  unfold rawArgument
  generalize trimStart s = t at ht
  cases t with
  | nil => simp [rawArgumentAt]
  | cons c t =>
    simp only [rawArgumentAt, List.length_cons] at ht ⊢
    split
    · have := rawGroup_length_le 0 t
      omega
    · split
      · have := controlName_length_le t
        simp only [List.length_cons]
        omega
      · simp only [List.length_cons, List.length_nil]
        omega

theorem argument_length_le (w : Option Wrap) (s : List Char) :
    (argument w s).2.length ≤ s.length := by
  have ht : (trimStart s).length ≤ s.length := (List.dropWhile_sublist _).length_le
  unfold argument
  generalize trimStart s = t at ht
  cases t with
  | nil => simp
  | cons c t =>
    simp only [List.length_cons] at ht
    simp only
    repeat' split
    all_goals (simp only; omega)

theorem namedCommand_length_le (name s : List Char) :
    (namedCommand name s).2.length ≤ s.length ∧
      ∀ mark raw, (namedCommand name s).1 = .accent mark raw → raw.length ≤ s.length := by
  have hr := rawArgument_length_le s
  unfold namedCommand
  split
  · simp
  · simp
  · simp only [Lexeme.accent.injEq, and_imp]
    refine ⟨hr.2, ?_⟩
    rintro _ _ _ rfl
    exact hr.1
  · exact ⟨argument_length_le _ _, by simp⟩
  · exact ⟨hr.2, by simp⟩
  · exact ⟨Nat.le_trans (argument_length_le _ _) hr.2, by simp⟩

theorem controlSequence_length_le (s : List Char) :
    (controlSequence s).2.length ≤ s.length ∧
      ∀ mark raw, (controlSequence s).1 = .accent mark raw → raw.length ≤ s.length := by
  unfold controlSequence
  split
  · simp
  · next c r =>
    split
    · have hle : (trimStart ((c :: r).dropWhile Char.isAlpha)).length ≤ (c :: r).length :=
        Nat.le_trans (List.dropWhile_sublist _).length_le (List.dropWhile_sublist _).length_le
      have hn := namedCommand_length_le ((c :: r).takeWhile Char.isAlpha)
        (trimStart ((c :: r).dropWhile Char.isAlpha))
      exact ⟨Nat.le_trans hn.1 hle, fun m raw h => Nat.le_trans (hn.2 m raw h) hle⟩
    · have hr := rawArgument_length_le r
      split
      · simp only [Lexeme.accent.injEq, and_imp, List.length_cons]
        refine ⟨by omega, ?_⟩
        rintro _ _ _ rfl
        omega
      · simp

/-- A lexeme takes its first character at least. -/
theorem lexeme_length_le (c : Char) (s : List Char) : (lexeme c s).2.length ≤ s.length := by
  unfold lexeme
  repeat' split
  case isFalse.isFalse.isTrue => exact (controlSequence_length_le s).1
  case isFalse.isFalse.isFalse.isFalse.isTrue => exact (List.dropWhile_sublist _).length_le
  all_goals exact Nat.le_refl _

/-- The argument of an accent is shorter than what starts with the accent. -/
theorem lexeme_argument_length_le {c mark : Char} {s raw : List Char}
    (h : (lexeme c s).1 = .accent mark raw) : raw.length ≤ s.length := by
  unfold lexeme at h
  repeat' split at h
  all_goals first
    | exact (controlSequence_length_le s).2 _ _ h
    | simp at h

end Citation.Latex
