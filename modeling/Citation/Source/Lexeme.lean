import Citation.Pieces
import Citation.Scanner
import Citation.Unicode.Class

/-! The lexemes of a bibliography source: names, citation keys, numbers, keywords, and the bodies
of brace groups and of quoted strings. -/
namespace Citation.Source
open Unicode Scanner

/-- Letters, numbers and `_ - : . + / '`, for the names of types, fields and macros. -/
def isNameChar (c : Char) : Bool :=
  isAlphanumeric c || ['_', '-', ':', '.', '+', '/', '\''].contains c

/-- All but white space and `, { } ( ) " = #`. -/
def isKeyChar (c : Char) : Bool :=
  !isWhitespace c && !([',', '{', '}', '(', ')', '\"', '=', '#'].contains c)

def name : Scanner (List Char) := run isNameChar

def entryKey : Scanner (List Char) := run isKeyChar

/-- An optional sign and the sign's rest. -/
def sign : List Char → List Char × List Char
  | [] => ([], [])
  | c :: s => if c = '+' ∨ c = '-' then ([c], s) else ([], c :: s)

/-- A run of ASCII digits behind an optional sign, as written. -/
def number : Scanner (List Char) := fun s =>
  (run Char.isDigit (sign s).2).map fun (digits, r) => ((sign s).1 ++ digits, r)

/-- A word that no letter, number or underscore continues. -/
def keyword (w : List Char) : Scanner (List Char) := fun s =>
  match caseless w s with
  | none => none
  | some (m, []) => some (m, [])
  | some (m, c :: r) => if isAlphanumeric c || c == '_' then none else some (m, c :: r)

/-- The text before the `}` that closes a group of the given depth, and the rest from that `}`
on. A backslash shields the character behind it. -/
def groupBody (depth : Nat) : Scanner (List Char)
  | [] => none
  | c :: s =>
      if c = '\\' then match s with
        | [] => none
        | d :: s => (groupBody depth s).map fun (b, r) => (c :: d :: b, r)
      else if c = '{' then (groupBody (depth + 1) s).map fun (b, r) => (c :: b, r)
      else if c = '}' then match depth with
        | 0 => some ([], c :: s)
        | depth + 1 => (groupBody depth s).map fun (b, r) => (c :: b, r)
      else (groupBody depth s).map fun (b, r) => (c :: b, r)

/-- The text before the quote that ends a string, and the rest after that quote. A quote inside
braces or behind a backslash ends nothing. -/
def quotedBody (depth : Nat) : Scanner (List Char)
  | [] => none
  | c :: s =>
      if c = '\\' then match s with
        | [] => none
        | d :: s => (quotedBody depth s).map fun (b, r) => (c :: d :: b, r)
      else if c = '\"' ∧ depth = 0 then some ([], s)
      else (quotedBody (depthAfter c depth) s).map fun (b, r) => (c :: b, r)

/-- A brace group; its value is what stands between the braces. -/
def braced : Scanner (List Char)
  | [] => none
  | c :: s => if c = '{' then (groupBody 0 s).map fun (b, r) => (b, r.drop 1) else none

/-- A string in double quotes; its value is what stands between the quotes. -/
def quoted : Scanner (List Char)
  | [] => none
  | c :: s => if c = '\"' then quotedBody 0 s else none

theorem sign_append (s : List Char) : (sign s).1 ++ (sign s).2 = s := by
  cases s with
  | nil => rfl
  | cons c s => simp only [sign]; split <;> simp

theorem groupBody_append {depth : Nat} {s b r : List Char}
    (h : groupBody depth s = some (b, r)) : s = b ++ r ∧ ∃ t, r = '}' :: t := by
  fun_induction groupBody depth s generalizing b with
  | case1 => simp at h
  | case2 => simp at h
  | case3 depth d s ih =>
    obtain ⟨⟨b', r'⟩, hb, hr⟩ := Option.map_eq_some_iff.1 h
    obtain ⟨rfl, rfl⟩ := by simpa using hr
    simpa using ih hb
  | case4 depth s _ ih =>
    obtain ⟨⟨b', r'⟩, hb, hr⟩ := Option.map_eq_some_iff.1 h
    obtain ⟨rfl, rfl⟩ := by simpa using hr
    simpa using ih hb
  | case5 s =>
    obtain ⟨rfl, rfl⟩ := by simpa using h
    simp
  | case6 s _ _ depth ih =>
    obtain ⟨⟨b', r'⟩, hb, hr⟩ := Option.map_eq_some_iff.1 h
    obtain ⟨rfl, rfl⟩ := by simpa using hr
    simpa using ih hb
  | case7 depth c s _ _ _ ih =>
    obtain ⟨⟨b', r'⟩, hb, hr⟩ := Option.map_eq_some_iff.1 h
    obtain ⟨rfl, rfl⟩ := by simpa using hr
    simpa using ih hb

theorem quotedBody_append {depth : Nat} {s b r : List Char}
    (h : quotedBody depth s = some (b, r)) : s = b ++ '\"' :: r := by
  fun_induction quotedBody depth s generalizing b with
  | case1 => simp at h
  | case2 => simp at h
  | case3 depth d s ih =>
    obtain ⟨⟨b', r'⟩, hb, hr⟩ := Option.map_eq_some_iff.1 h
    obtain ⟨rfl, rfl⟩ := by simpa using hr
    simpa using ih hb
  | case4 depth c s _ hc =>
    obtain ⟨rfl, rfl⟩ := by simpa using h
    simp [hc]
  | case5 depth c s _ _ ih =>
    obtain ⟨⟨b', r'⟩, hb, hr⟩ := Option.map_eq_some_iff.1 h
    obtain ⟨rfl, rfl⟩ := by simpa using hr
    simpa using ih hb

theorem number_consumes : number.Consumes := by
  intro s a r h
  obtain ⟨⟨digits, r'⟩, hd, hr⟩ := Option.map_eq_some_iff.1 h
  obtain ⟨rfl, rfl⟩ := by simpa using hr
  obtain ⟨w, hw, hs⟩ := run_consumes _ _ _ _ hd
  exact ⟨(sign s).1 ++ w, by simp [hw], by rw [List.append_assoc, ← hs, sign_append]⟩

theorem braced_consumes : braced.Consumes := by
  intro s a r h
  cases s with
  | nil => simp [braced] at h
  | cons c s =>
    simp only [braced] at h
    split at h
    · obtain ⟨⟨b, t⟩, hb, hr⟩ := Option.map_eq_some_iff.1 h
      obtain ⟨rfl, rfl⟩ := by simpa using hr
      obtain ⟨rfl, t, rfl⟩ := groupBody_append hb
      exact ⟨c :: b ++ ['}'], by simp, by simp⟩
    · simp at h

theorem quoted_consumes : quoted.Consumes := by
  intro s a r h
  cases s with
  | nil => simp [quoted] at h
  | cons c s =>
    simp only [quoted] at h
    split at h
    · exact ⟨c :: a ++ ['\"'], by simp, by simp [quotedBody_append h]⟩
    · simp at h

end Citation.Source
