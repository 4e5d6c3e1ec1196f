import Citation.Source.Item

/-! Written bibliographies: which items can be written down, and the texts that write them, in any
layout. -/
namespace Citation.Source
open Unicode

/-- Spacing of any length. -/
def IsSpacing (g : List Char) : Prop := ∀ c ∈ g, isSpacing c = true

theorem isSpacing_nil : IsSpacing [] := by simp [IsSpacing]

def IsName (n : List Char) : Prop := n ≠ [] ∧ ∀ c ∈ n, isNameChar c = true

def IsKey (k : List Char) : Prop := k ≠ [] ∧ ∀ c ∈ k, isKeyChar c = true

/-- A text that a brace group may hold: the brace behind it is the one that closes the group. -/
def Balanced (b : List Char) : Prop := groupBody 0 (b ++ ['}']) = some (b, ['}'])

/-- A name that is not mistaken for a number. -/
def IsReference (n : List Char) : Prop :=
  IsName n ∧ (∀ c ∈ n.head?, isNumeric c = false) ∧
    ((sign n).1 ≠ [] → ∀ c ∈ (sign n).2.head?, c.isDigit = false)

/-- The names of the blocks that are no entries. -/
def keywords : List String := ["comment", "string", "preamble"]

/-- A name for the type of an entry, at which no keyword is found. -/
def IsTypeName (t : List Char) : Prop := IsName t ∧ ∀ w ∈ keywords, keyword w.toList t = none

instance : DecidablePred IsName := fun n =>
  decidable_of_iff (n ≠ [] ∧ n.all isNameChar = true) (by simp [IsName])

instance : DecidablePred IsKey := fun k =>
  decidable_of_iff (k ≠ [] ∧ k.all isKeyChar = true) (by simp [IsKey])

instance : DecidablePred Balanced := fun b =>
  inferInstanceAs (Decidable (groupBody 0 (b ++ ['}']) = some (b, ['}'])))

instance : DecidablePred IsReference := fun n =>
  decidable_of_iff (IsName n ∧ n.head?.all (!isNumeric ·) = true ∧
    ((sign n).1 ≠ [] → (sign n).2.head?.all (!·.isDigit) = true))
    (by simp [IsReference, Option.all_eq_true])

instance : DecidablePred IsTypeName := fun t => inferInstanceAs (Decidable (IsName t ∧ _))

inductive IsDelimiters : Char → Char → Prop
  | braces : IsDelimiters '{' '}'
  | parentheses : IsDelimiters '(' ')'

/-! Values: parts, and chains of parts with `#` between them. -/

/-- A part of a value that can be written. -/
def IsPart : Value → Prop
  | .literal b => Balanced b
  | .number n => -9223372036854775808 ≤ n ∧ n ≤ 9223372036854775807
  | .reference n => IsReference n
  | .concat _ => False

def IsValue : Value → Prop
  | .concat vs => 2 ≤ vs.length ∧ ∀ v ∈ vs, IsPart v
  | v => IsPart v

instance : DecidablePred IsPart
  | .literal b => inferInstanceAs (Decidable (Balanced b))
  | .number n => inferInstanceAs (Decidable (_ ≤ n ∧ n ≤ _))
  | .reference n => inferInstanceAs (Decidable (IsReference n))
  | .concat _ => inferInstanceAs (Decidable False)

instance : DecidablePred IsValue
  | .literal b => inferInstanceAs (Decidable (IsPart (.literal b)))
  | .number n => inferInstanceAs (Decidable (IsPart (.number n)))
  | .reference n => inferInstanceAs (Decidable (IsPart (.reference n)))
  | .concat vs => inferInstanceAs (Decidable (2 ≤ vs.length ∧ ∀ v ∈ vs, IsPart v))

def writtenPart : Value → List Char
  | .literal b => '{' :: b ++ ['}']
  | .number n => decimal n
  | .reference n => n
  | .concat _ => []

def chainOf : Value → List Value
  | .concat vs => vs
  | v => [v]

inductive WrittenChain : List Value → List Char → Prop
  | one (v : Value) : WrittenChain [v] (writtenPart v)
  | more {v : Value} {vs : List Value} {g g' s : List Char} (hg : IsSpacing g)
      (hg' : IsSpacing g') (hs : WrittenChain vs s) :
      WrittenChain (v :: vs) (writtenPart v ++ (g ++ '#' :: (g' ++ s)))

/-! Fields and entries. -/

def IsField (f : Field) : Prop := IsName f.name ∧ IsValue f.value

instance : DecidablePred IsField := fun f =>
  inferInstanceAs (Decidable (IsName f.name ∧ IsValue f.value))

/-- A name, an equals sign and a value. -/
inductive WrittenAssignment (n : List Char) (v : Value) : List Char → Prop
  | mk {g g' s : List Char} (hg : IsSpacing g) (hg' : IsSpacing g')
      (hs : WrittenChain (chainOf v) s) : WrittenAssignment n v (n ++ (g ++ '=' :: (g' ++ s)))

/-- Fields with commas between them, and maybe one behind the last. -/
inductive WrittenFields : List Field → List Char → Prop
  | none {g : List Char} (hg : IsSpacing g) : WrittenFields [] g
  | last {f : Field} {g g' s : List Char} (hg : IsSpacing g) (hg' : IsSpacing g')
      (hs : WrittenAssignment f.name f.value s) : WrittenFields [f] (g ++ (s ++ g'))
  | more {f : Field} {fs : List Field} {g g' s t : List Char} (hg : IsSpacing g)
      (hg' : IsSpacing g') (hs : WrittenAssignment f.name f.value s) (ht : WrittenFields fs t) :
      WrittenFields (f :: fs) (g ++ (s ++ (g' ++ ',' :: t)))

/-- The fields of an entry and the comma that parts them from the key. -/
inductive WrittenBehindKey : List Field → List Char → Prop
  | none : WrittenBehindKey [] []
  | fields {fs : List Field} {s : List Char} (hs : WrittenFields fs s) :
      WrittenBehindKey fs (',' :: s)

/-- A text that names the type of an entry. -/
def Names (t : List Char) (e : Entry) : Prop := IsTypeName t ∧ EntryType.ofName t = e.type

def IsEntry (e : Entry) : Prop :=
  Names e.type.name e ∧ IsKey e.key ∧ ∀ f ∈ e.fields, IsField f

instance : DecidablePred IsEntry := fun e =>
  inferInstanceAs (Decidable ((IsTypeName e.type.name ∧ EntryType.ofName e.type.name = e.type) ∧
    IsKey e.key ∧ ∀ f ∈ e.fields, IsField f))

inductive WrittenEntry (e : Entry) : List Char → Prop
  | mk {t g g₁ g₂ s : List Char} {o c : Char} (ht : Names t e)
      (hg : IsSpacing g) (ho : IsDelimiters o c)
      (hg₁ : IsSpacing g₁) (hg₂ : IsSpacing g₂) (hs : WrittenBehindKey e.fields s) :
      WrittenEntry e (t ++ (g ++ o :: (g₁ ++ (e.key ++ (g₂ ++ (s ++ [c]))))))

/-! Items and bibliographies. -/

def IsItem : Item → Prop
  | .entry e => IsEntry e
  | .definition n v => IsName n ∧ IsValue v
  | .preamble v => IsValue v
  | .comment b => Balanced b ∧ trim b = b

instance : DecidablePred IsItem
  | .entry e => inferInstanceAs (Decidable (IsEntry e))
  | .definition n v => inferInstanceAs (Decidable (IsName n ∧ IsValue v))
  | .preamble v => inferInstanceAs (Decidable (IsValue v))
  | .comment b => inferInstanceAs (Decidable (Balanced b ∧ trim b = b))

/-- A keyword in any mixture of ASCII case. -/
def IsKeyword (w k : List Char) : Prop := sameName k w = true

inductive WrittenItem : Item → List Char → Prop
  | entry {e : Entry} {g s : List Char} (hg : IsSpacing g) (hs : WrittenEntry e s) :
      WrittenItem (.entry e) ('@' :: (g ++ s))
  | definition {n k g g₁ g₂ g₃ s : List Char} {v : Value} {o c : Char} (hg : IsSpacing g)
      (hk : IsKeyword "string".toList k) (hg₁ : IsSpacing g₁) (ho : IsDelimiters o c)
      (hg₂ : IsSpacing g₂) (hs : WrittenAssignment n v s) (hg₃ : IsSpacing g₃) :
      WrittenItem (.definition n v) ('@' :: (g ++ (k ++ (g₁ ++ o :: (g₂ ++ (s ++ (g₃ ++ [c])))))))
  | preamble {k g g₁ g₂ g₃ s : List Char} {v : Value} {o c : Char} (hg : IsSpacing g)
      (hk : IsKeyword "preamble".toList k) (hg₁ : IsSpacing g₁) (ho : IsDelimiters o c)
      (hg₂ : IsSpacing g₂) (hs : WrittenChain (chainOf v) s) (hg₃ : IsSpacing g₃) :
      WrittenItem (.preamble v) ('@' :: (g ++ (k ++ (g₁ ++ o :: (g₂ ++ (s ++ (g₃ ++ [c])))))))
  | comment {b k g g₁ g₂ g₃ : List Char} (hg : IsSpacing g)
      (hk : IsKeyword "comment".toList k) (hg₁ : IsSpacing g₁) (hg₂ : IsSpacing g₂)
      (hg₃ : IsSpacing g₃) :
      WrittenItem (.comment b) ('@' :: (g ++ (k ++ (g₁ ++ '{' :: (g₂ ++ (b ++ (g₃ ++ ['}'])))))))

/-- A text that writes down the items of a list. -/
inductive Written : List Item → List Char → Prop
  | nil {g : List Char} (hg : IsSpacing g) : Written [] g
  | cons {i : Item} {is : List Item} {g s t : List Char} (hg : IsSpacing g)
      (hs : WrittenItem i s) (ht : Written is t) : Written (i :: is) (g ++ (s ++ t))

end Citation.Source
