/-! Rich text: plain runs and wrapped texts in sequence. The operations keep texts normal: no run
and no wrapped text is empty, and no two runs are neighbours. -/
namespace Citation

/-- A space that words may not be parted at. -/
def tie : Char := '\u00a0'

def enDash : Char := '\u2013'

def emDash : Char := '\u2014'

inductive Wrap
  | emph
  | strong
  /-- Exempt from changes of case. -/
  | guarded
  | link (url : List Char)
  deriving DecidableEq

inductive Text
  | nil
  | run (s : List Char) (rest : Text)
  | wrap (w : Wrap) (inner rest : Text)
  deriving DecidableEq

namespace Text

instance : Inhabited Text := ⟨.nil⟩

/-- The visible characters. -/
def plain : Text → List Char
  | .nil => []
  | .run s rest => s ++ rest.plain
  | .wrap _ inner rest => inner.plain ++ rest.plain

/-- The number of visible characters. -/
def length : Text → Nat
  | .nil => 0
  | .run s rest => s.length + rest.length
  | .wrap _ inner rest => inner.length + rest.length

def isEmpty : Text → Bool
  | .nil => true
  | _ => false

/-- Characters in front of a text, in its first run if it starts with one. -/
def consRun (s : List Char) (t : Text) : Text :=
  if s = [] then t else match t with
    | .run s' rest => .run (s ++ s') rest
    | t => .run s t

/-- A wrapped text in front of a text, unless it is empty. -/
def consWrap (w : Wrap) (inner : Text) (t : Text) : Text :=
  if inner = .nil then t else .wrap w inner t

def ofChars (s : List Char) : Text := consRun s .nil

def within (w : Wrap) (t : Text) : Text := consWrap w t .nil

def append : Text → Text → Text
  | .nil, u => u
  | .run s rest, u => consRun s (rest.append u)
  | .wrap w inner rest, u => consWrap w inner (rest.append u)

instance : Append Text := ⟨append⟩

/-- The last visible character of a normal text. -/
def last : Text → Option Char
  | .nil => none
  | .run s .nil => s.getLast?
  | .wrap _ inner .nil => inner.last
  | .run _ rest => rest.last
  | .wrap _ _ rest => rest.last

/-- The marks that end a sentence. -/
def endsSentence (t : Text) : Bool := t.last.any ['.', '?', '!'].contains

/-- Ends a text with a period if nothing else ends it. -/
def withPeriod (t : Text) : Text :=
  if t = .nil ∨ t.endsSentence then t else t ++ ofChars ['.']

/-- Drops the plain spaces at the end of the last run. -/
def trimEnd : Text → Text
  | .nil => .nil
  | .run s .nil => ofChars (s.reverse.dropWhile (· == ' ')).reverse
  | .run s rest => .run s rest.trimEnd
  | .wrap w inner rest => .wrap w inner rest.trimEnd

/-- At every depth, no run and no wrapped text is empty and no two runs are neighbours. -/
def Normal : Text → Prop
  | .nil => True
  | .run s rest => s ≠ [] ∧ (∀ s' rest', rest ≠ .run s' rest') ∧ rest.Normal
  | .wrap _ inner rest => inner ≠ .nil ∧ inner.Normal ∧ rest.Normal

@[simp] theorem nil_append (t : Text) : .nil ++ t = t := rfl

@[simp] theorem run_append (s : List Char) (rest t : Text) :
    .run s rest ++ t = consRun s (rest ++ t) := rfl

@[simp] theorem wrap_append (w : Wrap) (inner rest t : Text) :
    .wrap w inner rest ++ t = consWrap w inner (rest ++ t) := rfl

@[simp] theorem plain_consRun (s : List Char) (t : Text) :
    (consRun s t).plain = s ++ t.plain := by
  unfold consRun
  split
  · simp_all
  · cases t <;> simp [plain]

@[simp] theorem plain_consWrap (w : Wrap) (inner t : Text) :
    (consWrap w inner t).plain = inner.plain ++ t.plain := by
  unfold consWrap
  split
  · simp_all [plain]
  · simp [plain]

@[simp] theorem plain_ofChars (s : List Char) : (ofChars s).plain = s := by
  simp [ofChars, plain]

@[simp] theorem plain_within (w : Wrap) (t : Text) : (within w t).plain = t.plain := by
  simp [within, plain]

@[simp] theorem plain_append (t u : Text) : (t ++ u).plain = t.plain ++ u.plain := by
  induction t with
  | nil => rfl
  | run s rest ih => simp [plain, ih]
  | wrap w inner rest _ ih => simp [plain, ih]

theorem length_eq (t : Text) : t.length = t.plain.length := by
  induction t with
  | nil => rfl
  | run s rest ih => simp [length, plain, ih]
  | wrap w inner rest ih₁ ih₂ => simp [length, plain, ih₁, ih₂]

theorem normal_consRun {s : List Char} {t : Text} (h : t.Normal) : (consRun s t).Normal := by
  unfold consRun
  split
  · exact h
  · cases t with
    | nil => simp_all [Normal]
    | run s' rest => simp_all [Normal]
    | wrap w inner rest => simp_all [Normal]

theorem normal_consWrap {w : Wrap} {inner t : Text} (hi : inner.Normal) (h : t.Normal) :
    (consWrap w inner t).Normal := by
  unfold consWrap
  split
  · exact h
  · exact ⟨‹_›, hi, h⟩

theorem normal_ofChars (s : List Char) : (ofChars s).Normal := normal_consRun trivial

theorem Normal.within {t : Text} (w : Wrap) (h : t.Normal) : (Text.within w t).Normal :=
  normal_consWrap h trivial

theorem Normal.append {t u : Text} (ht : t.Normal) (hu : u.Normal) : (t ++ u).Normal := by
  induction t with
  | nil => exact hu
  | run s rest ih => exact normal_consRun (ih ht.2.2)
  | wrap w inner rest _ ih => exact normal_consWrap ht.2.1 (ih ht.2.2)

theorem Normal.withPeriod {t : Text} (h : t.Normal) : t.withPeriod.Normal := by
  unfold Text.withPeriod
  split
  · exact h
  · exact h.append (normal_ofChars _)

theorem trimEnd_ne_run {t : Text} (h : ∀ s rest, t ≠ .run s rest) (s : List Char) (rest : Text) :
    t.trimEnd ≠ .run s rest := by
  cases t with
  | nil => simp [trimEnd]
  | run s' rest' => exact absurd rfl (h s' rest')
  | wrap w inner rest' => simp [trimEnd]

theorem Normal.trimEnd {t : Text} (h : t.Normal) : t.trimEnd.Normal := by
  fun_induction Text.trimEnd t with
  | case1 => trivial
  | case2 s => exact normal_ofChars _
  | case3 s rest _ ih => exact ⟨h.1, trimEnd_ne_run h.2.1, ih h.2.2⟩
  | case4 w inner rest ih => exact ⟨h.1, h.2.1, ih h.2.2⟩

end Text
end Citation
