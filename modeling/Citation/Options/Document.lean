import Citation.Scanner

/-! Option documents: the part of JSON that options are written in. A document is an object or an
array of items; an item is a string, a truth value, or a name in the form of an object that maps
it to null. -/
namespace Citation.Document

/-- A part of a string: a character, or a 16-bit unit from an escape. -/
inductive StringUnit
  | char (c : Char)
  | unit (n : Nat)

def hexValue? (c : Char) : Option Nat :=
  if c.isDigit then some (c.toNat - '0'.toNat)
  else if 'a' ≤ c ∧ c ≤ 'f' then some (c.toNat - 'a'.toNat + 10)
  else if 'A' ≤ c ∧ c ≤ 'F' then some (c.toNat - 'A'.toNat + 10)
  else none

def hexUnit? (a b c d : Char) : Option Nat :=
  match hexValue? a, hexValue? b, hexValue? c, hexValue? d with
  | some a, some b, some c, some d => some (((a * 16 + b) * 16 + c) * 16 + d)
  | _, _, _, _ => none

/-- The characters that a backslash and one letter stand for. -/
def escapes : List (Char × Char) :=
  [('\"', '\"'), ('\\', '\\'), ('/', '/'), ('b', '\x08'), ('f', '\x0c'), ('n', '\n'),
    ('r', '\r'), ('t', '\t')]

/-- The units before the closing quote, and what follows it. A control character has to be
escaped. -/
def stringUnits : List Char → Option (List StringUnit × List Char)
  | [] => none
  | '\\' :: 'u' :: a :: b :: c :: d :: s => match hexUnit? a b c d with
    | some n => (stringUnits s).map fun (us, r) => (.unit n :: us, r)
    | none => none
  | '\\' :: c :: s => match escapes.lookup c with
    | some e => (stringUnits s).map fun (us, r) => (.char e :: us, r)
    | none => none
  | c :: s =>
      if c = '\"' then some ([], s)
      else if c = '\\' ∨ c.toNat < 0x20 then none
      else (stringUnits s).map fun (us, r) => (.char c :: us, r)

/-- Characters beyond 16 bits are escaped as a high and a low surrogate; neither goes alone. -/
def joinUnits : List StringUnit → Option (List Char)
  | [] => some []
  | .char c :: us => (joinUnits us).map (c :: ·)
  | .unit n :: us =>
      if n < 0xD800 ∨ 0xDFFF < n then (joinUnits us).map (Char.ofNat n :: ·)
      else match us with
        | .unit m :: us =>
            if n < 0xDC00 ∧ 0xDC00 ≤ m ∧ m ≤ 0xDFFF then
              (joinUnits us).map
                (Char.ofNat (0x10000 + (n - 0xD800) * 0x400 + (m - 0xDC00)) :: ·)
            else none
        | _ => none

inductive Token
  | punctuation (c : Char)
  | text (s : List Char)
  | truth (b : Bool)
  | null
  /-- An object that maps one name to null. -/
  | tagged (name : List Char)
  deriving DecidableEq

def words : List (String × Token) :=
  [("true", .truth true), ("false", .truth false), ("null", .null)]

def word? (s : List Char) : Option Token := (words.find? fun w => w.1.toList = s).map Prod.snd

theorem stringUnits_length_lt {s r : List Char} {us : List StringUnit}
    (h : stringUnits s = some (us, r)) : r.length < s.length := by
  fun_induction stringUnits s generalizing us with
  | case1 => simp at h
  | case2 a b c d s n _ ih =>
    obtain ⟨⟨us', r'⟩, hu, hr⟩ := Option.map_eq_some_iff.1 h
    obtain ⟨rfl, rfl⟩ := by simpa using hr
    have := ih hu
    simp only [List.length_cons]
    omega
  | case3 => simp at h
  | case4 c s _ e _ ih =>
    obtain ⟨⟨us', r'⟩, hu, hr⟩ := Option.map_eq_some_iff.1 h
    obtain ⟨rfl, rfl⟩ := by simpa using hr
    have := ih hu
    simp only [List.length_cons]
    omega
  | case5 => simp at h
  | case6 s =>
    obtain ⟨rfl, rfl⟩ := by simpa using h
    simp
  | case7 => simp at h
  | case8 c s _ _ _ _ ih =>
    obtain ⟨⟨us', r'⟩, hu, hr⟩ := Option.map_eq_some_iff.1 h
    obtain ⟨rfl, rfl⟩ := by simpa using hr
    have := ih hu
    simp only [List.length_cons]
    omega

/-- The tokens of a document, with the spacing between them dropped. -/
def tokens : List Char → Option (List Token)
  | [] => some []
  | c :: s =>
      if isSpacing c then tokens s
      else if ['{', '}', '[', ']', ':', ','].contains c then
        (tokens s).map (.punctuation c :: ·)
      else if c = '\"' then
        match h : stringUnits s with
        | none => none
        | some (us, r) =>
          have := stringUnits_length_lt h
          match joinUnits us, tokens r with
          | some t, some ts => some (.text t :: ts)
          | _, _ => none
      else
        have : (s.dropWhile Char.isAlpha).length ≤ s.length := (List.dropWhile_sublist _).length_le
        match word? (c :: s.takeWhile Char.isAlpha), tokens (s.dropWhile Char.isAlpha) with
        | some t, some ts => some (t :: ts)
        | _, _ => none
termination_by s => s.length

/-- Tokens with each object of one name and null in one token. -/
def tagNames : List Token → List Token
  | .punctuation '{' :: .text name :: .punctuation ':' :: .null :: .punctuation '}' :: ts =>
      .tagged name :: tagNames ts
  | t :: ts => t :: tagNames ts
  | [] => []

/-- The items of an array behind its bracket, up to the end of the document. -/
def elements : List Token → Option (List Token)
  | [t, .punctuation ']'] => some [t]
  | t :: .punctuation ',' :: ts => (elements ts).map (t :: ·)
  | _ => none

/-- The members of an object behind its brace, up to the end of the document. -/
def members : List Token → Option (List (List Char × Token))
  | [.text name, .punctuation ':', t, .punctuation '}'] => some [(name, t)]
  | .text name :: .punctuation ':' :: t :: .punctuation ',' :: ts =>
      (members ts).map ((name, t) :: ·)
  | _ => none

/-- A name as a whole document. -/
def name? (s : List Char) : Option (List Char) :=
  match (tokens s).map tagNames with
  | some [.text name] => some name
  | some [.tagged name] => some name
  | _ => none

end Citation.Document
