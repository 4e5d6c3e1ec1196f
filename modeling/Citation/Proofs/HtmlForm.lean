import Citation.Output.Format
import Citation.Proofs.Concatenation

/-! Texts written as HTML and read again. A tokenizer takes the written characters one by one, and
the elements of the tokens nest to the text that was written. Escaped characters, in a run or in a
link target, leave the tokenizer in the context where they found it. -/
namespace Citation
namespace Html

structure Tag where
  name : List Char
  attributes : List (List Char × List Char)
  deriving DecidableEq

inductive Token
  | char (c : Char)
  | opens (tag : Tag)
  | closes (name : List Char)
  deriving DecidableEq

/-- Where a character stands for itself: between tags or in the value of an attribute. -/
inductive Context
  | body
  | value (tag : Tag) (key text : List Char)
  deriving DecidableEq

inductive State
  | within (x : Context)
  /-- Behind an ampersand and the start of a name. -/
  | reference (x : Context) (name : List Char)
  | opening (name : List Char)
  | closing (name : List Char)
  | key (tag : Tag) (name : List Char)
  /-- Behind the equals sign of an attribute. -/
  | quote (tag : Tag) (key : List Char)
  /-- Behind the value of an attribute. -/
  | behind (tag : Tag)
  deriving DecidableEq

/-- The named characters. -/
def references : List (List Char × Char) :=
  [("amp".toList, '&'), ("lt".toList, '<'), ("gt".toList, '>'), ("quot".toList, '\"'),
    ("nbsp".toList, tie)]

/-- A character between tags is a token, and one in a value goes to its end. -/
def Context.put (c : Char) : Context → Context × List Token
  | .body => (.body, [.char c])
  | .value tag key text => (.value tag key (text ++ [c]), [])

/-- The character that ends a context. -/
def Context.mark : Context → Char
  | .body => '<'
  | .value .. => '\"'

/-- The state behind the character that ends a context. -/
def Context.leave : Context → State
  | .body => .opening []
  | .value tag key text => .behind ⟨tag.name, tag.attributes ++ [(key, text)]⟩

def Context.putState (c : Char) (x : Context) : State × List Token :=
  (.within (x.put c).1, (x.put c).2)

/-- One character takes the tokenizer to its next state and may end a token. -/
def step (q : State) (c : Char) : Option (State × List Token) :=
  match q with
  | .within x =>
    if c = x.mark then some (x.leave, [])
    else if c = '&' then some (.reference x [], [])
    else some (x.putState c)
  | .reference x name =>
    if c = ';' then (references.lookup name).map x.putState
    else some (.reference x (name ++ [c]), [])
  | .opening name =>
    if c = '>' then some (.within .body, [.opens ⟨name, []⟩])
    else if c = ' ' then some (.key ⟨name, []⟩ [], [])
    else if c = '/' ∧ name = [] then some (.closing [], [])
    else some (.opening (name ++ [c]), [])
  | .closing name =>
    if c = '>' then some (.within .body, [.closes name]) else some (.closing (name ++ [c]), [])
  | .key tag name =>
    if c = '=' then some (.quote tag name, []) else some (.key tag (name ++ [c]), [])
  | .quote tag key =>
    if c = '\"' then some (.within (.value tag key []), []) else none
  | .behind tag =>
    if c = '>' then some (.within .body, [.opens tag])
    else if c = ' ' then some (.key tag [], [])
    else none

/-- The state behind some characters and the tokens that ended in them. -/
def scan (q : State) : List Char → Option (State × List Token)
  | [] => some (q, [])
  | c :: s =>
    match step q c with
    | none => none
    | some (q', ts) => (scan q' s).map fun x => (x.1, ts ++ x.2)

/-- The tokens of a whole document, which ends between tags. -/
def tokens (s : List Char) : Option (List Token) :=
  match scan (.within .body) s with
  | some (.within .body, ts) => some ts
  | _ => none

/-- Tokens whose tags come in pairs, each pair within the one around it. -/
inductive Nested : List Token → Prop
  | nil : Nested []
  | char (c : Char) {ts : List Token} : Nested ts → Nested (.char c :: ts)
  | element (tag : Tag) {inner rest : List Token} : Nested inner → Nested rest →
      Nested (.opens tag :: (inner ++ .closes tag.name :: rest))

/-- The tag of a wrap's element. -/
def tagOf : Wrap → Tag
  | .emph => ⟨"em".toList, []⟩
  | .strong => ⟨"strong".toList, []⟩
  | .guarded => ⟨"span".toList, [("class".toList, "bibtex-protected".toList)]⟩
  | .link url => ⟨"a".toList, [("href".toList, url)]⟩

/-- The wrap that an element stands for. -/
def wrapOf (tag : Tag) : Option Wrap :=
  match tag.attributes with
  | [] =>
    if tag.name = "em".toList then some .emph
    else if tag.name = "strong".toList then some .strong
    else none
  | [(key, text)] =>
    if tag.name = "span".toList ∧ key = "class".toList ∧ text = "bibtex-protected".toList then
      some .guarded
    else if tag.name = "a".toList ∧ key = "href".toList then some (.link text)
    else none
  | _ => none

/-- An element under way: its name, its wrap and the text in front of it. -/
structure Element where
  name : List Char
  wrap : Wrap
  before : Text

/-- Reads tokens behind the tags of `stack` and the finished `text` of the innermost element. A
closing tag has to name that element. -/
def ofTokensIn : List Element → Text → List Token → Option Text
  | [], text, [] => some text
  | _ :: _, _, [] => none
  | stack, text, .char c :: ts => ofTokensIn stack (text ++ .ofChars [c]) ts
  | stack, text, .opens tag :: ts =>
    match wrapOf tag with
    | some w => ofTokensIn (⟨tag.name, w, text⟩ :: stack) .nil ts
    | none => none
  | [], _, .closes _ :: _ => none
  | e :: stack, text, .closes name :: ts =>
    if name = e.name then ofTokensIn stack (e.before ++ .within e.wrap text) ts else none

/-- Reads a document. -/
def read (s : List Char) : Option Text :=
  match tokens s with
  | some ts => ofTokensIn [] .nil ts
  | none => none

/-- The tokens that a text is written with. -/
def tokensOf : Text → List Token
  | .nil => []
  | .run s rest => s.map .char ++ tokensOf rest
  | .wrap w inner rest =>
    .opens (tagOf w) :: (tokensOf inner ++ .closes (tagOf w).name :: tokensOf rest)

/-! The tokenizer. -/

theorem scan_append {q q' q'' : State} {s r : List Char} {ts us : List Token}
    (hs : scan q s = some (q', ts)) (hr : scan q' r = some (q'', us)) :
    scan q (s ++ r) = some (q'', ts ++ us) := by
  induction s generalizing q ts with
  | nil =>
    obtain ⟨rfl, rfl⟩ := Prod.mk.inj (Option.some.inj hs)
    exact hr
  | cons c s ih =>
    rw [List.cons_append]
    simp only [scan] at hs ⊢
    split at hs
    · cases hs
    · next q₁ ts₁ hstep =>
      obtain ⟨⟨q₂, ts₂⟩, hs₂, heq⟩ := Option.map_eq_some_iff.1 hs
      obtain ⟨rfl, rfl⟩ := Prod.mk.inj heq
      rw [ih hs₂, Option.map_some, List.append_assoc]

/-- The characters that are written as entities everywhere. -/
def signs : List Char := ['&', '<', '>', '\"']

theorem htmlForm_of_not_mem {c : Char} (hc : c ∉ signs) : Format.htmlForm c = [c] := by
  simp only [signs, List.mem_cons, List.not_mem_nil, or_false, not_or] at hc
  simp [Format.htmlForm, hc]

/-- The characters that begin and end tags and values. -/
def marks : List Char := ['<', '>', '\"']

theorem notMem_marks_of_all {s : List Char} (h : (s.all fun c => !marks.contains c) = true) :
    ∀ c ∈ s, c ∉ marks := by
  simpa using h

theorem htmlForm_notMem_marks (c : Char) : ∀ d ∈ Format.htmlForm c, d ∉ marks := by
  by_cases hc : c ∈ signs
  · simp only [signs, List.mem_cons, List.not_mem_nil, or_false] at hc
    rcases hc with rfl | rfl | rfl | rfl <;> exact notMem_marks_of_all rfl
  · rw [htmlForm_of_not_mem hc]
    intro d hd
    obtain rfl := List.mem_singleton.1 hd
    exact fun hmem => hc (List.mem_cons_of_mem _ hmem)

theorem escape_eq {c : Char} (hc : c ≠ tie) : Format.html.escape c = Format.htmlForm c := if_neg hc

theorem escape_notMem_marks (c : Char) : ∀ d ∈ Format.html.escape c, d ∉ marks := by
  by_cases htie : c = tie
  · subst htie
    exact notMem_marks_of_all rfl
  · rw [escape_eq htie]
    exact htmlForm_notMem_marks c

theorem scan_char {x : Context} {c : Char} (hmark : c ≠ x.mark) (hc : c ≠ '&') :
    scan (.within x) [c] = some (x.putState c) := by
  simp [scan, step, hmark, hc, Context.putState]

/-- An escaped character is that character in either context. -/
theorem scan_htmlForm (x : Context) (c : Char) :
    scan (.within x) (Format.htmlForm c) = some (x.putState c) := by
  by_cases hc : c ∈ signs
  · simp only [signs, List.mem_cons, List.not_mem_nil, or_false] at hc
    rcases hc with rfl | rfl | rfl | rfl <;> cases x <;> rfl
  · rw [htmlForm_of_not_mem hc]
    simp only [signs, List.mem_cons, List.not_mem_nil, or_false, not_or] at hc
    obtain ⟨hamp, hlt, -, hquot⟩ := hc
    have hmark : c ≠ x.mark := by cases x <;> assumption
    exact scan_char hmark hamp

/-- A run is read as its characters. -/
theorem scan_run (s : List Char) :
    scan (.within .body) (s.flatMap Format.html.escape) = some (.within .body, s.map .char) := by
  induction s with
  | nil => rfl
  | cons c s ih =>
    have hc : scan (.within .body) (Format.html.escape c) = some (.within .body, [.char c]) := by
      by_cases htie : c = tie
      · subst htie
        rfl
      · rw [escape_eq htie]
        exact scan_htmlForm .body c
    exact scan_append hc ih

/-- A link target is read as a value, which it does not end. -/
theorem scan_target (tag : Tag) (key text url : List Char) :
    scan (.within (.value tag key text)) (Format.html.target url) =
      some (.within (.value tag key (text ++ url)), []) := by
  -- Every character makes the value longer, so the induction is over all values.
  induction url generalizing text with
  | nil => rw [List.append_nil]; rfl
  | cons c url ih =>
    have hurl := scan_append (scan_htmlForm (.value tag key text) c) (ih (text ++ [c]))
    rwa [List.append_assoc] at hurl

theorem scan_opening (w : Wrap) :
    scan (.within .body) (Format.html.marks w).1 = some (.within .body, [.opens (tagOf w)]) := by
  cases w with
  | link url =>
    have hname : scan (.within .body) "<a href=\"".toList =
        some (.within (.value ⟨"a".toList, []⟩ "href".toList []), []) := rfl
    have hend : scan (.within (.value ⟨"a".toList, []⟩ "href".toList url)) "\">".toList =
        some (.within .body, [.opens (tagOf (.link url))]) := rfl
    exact scan_append (scan_append hname (scan_target _ _ [] url)) hend
  | _ => rfl

theorem scan_closing (w : Wrap) :
    scan (.within .body) (Format.html.marks w).2 =
      some (.within .body, [.closes (tagOf w).name]) := by
  cases w <;> rfl

theorem scan_write (t : Text) :
    scan (.within .body) (Format.html.write t) = some (.within .body, tokensOf t) := by
  induction t with
  | nil => rfl
  | run s rest ih => exact scan_append (scan_run s) ih
  | wrap w inner rest ihi ih =>
    have hinner := scan_append (scan_opening w) ihi
    have helement := scan_append (scan_append hinner (scan_closing w)) ih
    simpa [tokensOf, Format.write] using helement

/-- The tags of a written text are those of its wraps, and all other characters are its own. -/
theorem tokens_write (t : Text) : tokens (Format.html.write t) = some (tokensOf t) := by
  rw [tokens, scan_write]

/-! The elements. -/

theorem Nested.chars (s : List Char) {ts : List Token} (h : Nested ts) :
    Nested (s.map .char ++ ts) := by
  induction s with
  | nil => exact h
  | cons c s ih => exact .char c ih

theorem nested_tokensOf (t : Text) : Nested (tokensOf t) := by
  induction t with
  | nil => exact .nil
  | run s rest ih => exact ih.chars s
  | wrap w inner rest ihi ih => exact .element (tagOf w) ihi ih

theorem wrapOf_tagOf (w : Wrap) : wrapOf (tagOf w) = some w := by
  cases w with
  | link url =>
    have hspan : "a".toList ≠ "span".toList := by decide
    simp only [wrapOf, tagOf, hspan]
    simp
  | _ => rfl

theorem ofTokensIn_chars (stack : List Element) (s : List Char) {text : Text} (ht : text.Normal)
    (ts : List Token) :
    ofTokensIn stack text (s.map .char ++ ts) = ofTokensIn stack (text ++ .ofChars s) ts := by
  induction s generalizing text with
  | nil => rw [show Text.ofChars [] = .nil from rfl, ht.append_nil]; rfl
  | cons c s ih =>
    have hnormal : (text ++ .ofChars [c]).Normal := ht.append (Text.normal_ofChars [c])
    rw [List.map_cons, List.cons_append, ofTokensIn, ih hnormal, Text.append_assoc,
      Text.ofChars_append_ofChars]
    rfl

/-- The tokens of a normal text add it to the text of the innermost element. -/
theorem ofTokensIn_tokensOf {t : Text} (ht : t.Normal) (stack : List Element) {text : Text}
    (htext : text.Normal) (ts : List Token) :
    ofTokensIn stack text (tokensOf t ++ ts) = ofTokensIn stack (text ++ t) ts := by
  induction t generalizing stack text ts with
  | nil => rw [htext.append_nil]; rfl
  | run s rest ih =>
    have hnormal : (text ++ .ofChars s).Normal := htext.append (Text.normal_ofChars s)
    rw [tokensOf, List.append_assoc, ofTokensIn_chars stack s htext, ih ht.2.2 stack hnormal,
      Text.append_assoc, ht.run_eq]
  | wrap w inner rest ihi ih =>
    obtain ⟨-, hinner, hrest⟩ := id ht
    have hnormal : (text ++ Text.within w inner).Normal := htext.append (hinner.within w)
    rw [tokensOf, List.cons_append, List.append_assoc, List.cons_append]
    calc ofTokensIn stack text
          (.opens (tagOf w) :: (tokensOf inner ++ .closes (tagOf w).name :: (tokensOf rest ++ ts)))
      _ = ofTokensIn (⟨(tagOf w).name, w, text⟩ :: stack) .nil
            (tokensOf inner ++ .closes (tagOf w).name :: (tokensOf rest ++ ts)) := by
          rw [ofTokensIn, wrapOf_tagOf]
      _ = ofTokensIn (⟨(tagOf w).name, w, text⟩ :: stack) inner
            (.closes (tagOf w).name :: (tokensOf rest ++ ts)) :=
          ihi hinner _ Text.normal_nil _
      _ = ofTokensIn stack (text ++ .within w inner) (tokensOf rest ++ ts) := by
          rw [ofTokensIn, if_pos rfl]
      _ = ofTokensIn stack (text ++ .within w inner ++ rest) ts := ih hrest stack hnormal ts
      _ = ofTokensIn stack (text ++ .wrap w inner rest) ts := by
          rw [Text.append_assoc, ht.wrap_eq]

theorem read_write {t : Text} (ht : t.Normal) : read (Format.html.write t) = some t := by
  have htokens := ofTokensIn_tokensOf ht [] Text.normal_nil []
  rw [List.append_nil] at htokens
  rw [read, tokens_write]
  exact htokens

/-- What is written reads back, different normal texts are written differently, the tags are those
of the wraps and nest, and neither a run nor a link target leaves its context or ends a tag. -/
theorem write_decodable :
    (∀ t : Text, t.Normal → read (Format.html.write t) = some t) ∧
    (∀ t u : Text, t.Normal → u.Normal → t ≠ u →
      Format.html.write t ≠ Format.html.write u) ∧
    (∀ t : Text, tokens (Format.html.write t) = some (tokensOf t) ∧ Nested (tokensOf t)) ∧
    (∀ s : List Char, (∀ d ∈ s.flatMap Format.html.escape, d ∉ marks) ∧
      scan (.within .body) (s.flatMap Format.html.escape) =
        some (.within .body, s.map .char)) ∧
    (∀ (url : List Char) (tag : Tag) (key text : List Char),
      (∀ d ∈ Format.html.target url, d ∉ marks) ∧
      scan (.within (.value tag key text)) (Format.html.target url) =
        some (.within (.value tag key (text ++ url)), [])) := by
  refine ⟨fun t => read_write, fun t u ht hu hne heq => hne ?_,
    fun t => ⟨tokens_write t, nested_tokensOf t⟩, fun s => ⟨?_, scan_run s⟩,
    fun url tag key text => ⟨?_, scan_target tag key text url⟩⟩
  · have hread := read_write ht
    rw [heq, read_write hu] at hread
    exact (Option.some.inj hread).symm
  · intro d hd
    obtain ⟨c, -, hc⟩ := List.mem_flatMap.1 hd
    exact escape_notMem_marks c d hc
  · intro d hd
    obtain ⟨c, -, hc⟩ := List.mem_flatMap.1 hd
    exact htmlForm_notMem_marks c d hc

/-- A link whose target and words try to end it, and a written-out entity beside a tie. -/
theorem write_decodable_hostile :
    let t := Text.wrap (.link "\"><b>".toList) (.run "</a>&nbsp;".toList .nil) .nil
    let u := Text.wrap (.link "\"><b>".toList) (.run ("</a>".toList ++ [tie]) .nil) .nil
    (t.Normal ∧ u.Normal ∧ t ≠ u) ∧ read (Format.html.write t) = some t ∧
      Format.html.write t ≠ Format.html.write u := by
  intro t u
  have ht : t.Normal := by simp [t, Text.Normal]
  have hu : u.Normal := by simp [u, Text.Normal]
  have hne : t ≠ u := by decide
  exact ⟨⟨ht, hu, hne⟩, write_decodable.1 t ht, write_decodable.2.1 t u ht hu hne⟩

end Html
end Citation
