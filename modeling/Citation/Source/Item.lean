import Citation.Error
import Citation.Source.Entry

/-! Reading a whole bibliography source: entries, macro definitions, preambles and comments in
source order. Text outside the items is a comment, and so is a line that starts with `%`. -/
namespace Citation

inductive Item
  | entry (e : Entry)
  | definition (name : List Char) (value : Value)
  | preamble (value : Value)
  | comment (text : List Char)

namespace Source
open Scanner

/-- A body between an opening delimiter and its match. -/
def delimited {α : Type} (body : Scanner α) : Scanner α := fun s =>
  match opening (skipBlank s) with
  | none => none
  | some (close, r) => match body r with
    | none => none
    | some (a, r) => (padded (char close) r).map fun (_, r) => (a, r)

/-- The text before the first `stop`, which has to come, and the rest behind it. -/
def upTo (stop : Char) (s : List Char) : Option (List Char × List Char) :=
  match s.dropWhile (· != stop) with
  | [] => none
  | _ :: r => some (s.takeWhile (· != stop), r)

/-- The body of a comment: a brace group, a run in parentheses, or the rest of the line. -/
def commentBody (s : List Char) : Option (List Char × List Char) :=
  match skipBlank s with
  | [] => some ([], [])
  | c :: t =>
      if c = '{' then braced (c :: t)
      else if c = '(' then upTo ')' t
      else some ((c :: t).takeWhile (· != '\n'), (c :: t).dropWhile (· != '\n'))

/-- What follows the `@` of an item. -/
def block (s : List Char) : Option (Item × List Char) :=
  match keyword "comment".toList s with
  | some (_, r) => (commentBody r).map fun (b, r) => (.comment (trim b), r)
  | none => match keyword "string".toList s with
    | some (_, r) => (delimited assignment r).map fun ((n, v), r) => (.definition n v, r)
    | none => match keyword "preamble".toList s with
      | some (_, r) => (delimited (padded value) r).map fun (v, r) => (.preamble v, r)
      | none => (entry s).map fun (e, r) => (.entry e, r)

/-- An item, spacing allowed behind its `@`. -/
def item : Scanner Item
  | [] => none
  | c :: s => if c = '@' then block (skipSpacing s) else none

/-- Where free text ends: a `%` line with its line, other text before the next `@`. -/
def textStop (s : List Char) : Char := if s.head? = some '%' then '\n' else '@'

def freeText (s : List Char) : List Char := trimEnd (s.takeWhile (· != textStop s))

def behindFreeText (s : List Char) : List Char := s.dropWhile (· != textStop s)

theorem delimited_append {α : Type} {body : Scanner α} (hbody : body.Consumes) {s r : List Char}
    {a : α} (h : delimited body s = some (a, r)) : ∃ w, s = w ++ r := by
  unfold delimited at h
  obtain ⟨u, hu⟩ := skip_suffix isBlank s
  change s = u ++ skipBlank s at hu
  split at h
  · simp at h
  · next ho =>
    obtain ⟨w₁, _, hw₁⟩ := opening_consumes _ _ _ ho
    split at h
    · simp at h
    · next hb =>
      obtain ⟨w₂, _, rfl⟩ := hbody _ _ _ hb
      obtain ⟨⟨x, r'⟩, hc, hr⟩ := Option.map_eq_some_iff.1 h
      obtain ⟨rfl, rfl⟩ := by simpa using hr
      obtain ⟨w₃, _, rfl⟩ := padded_consumes (char_consumes _) _ _ _ hc
      exact ⟨u ++ w₁ ++ w₂ ++ w₃, by rw [hu, hw₁]; simp⟩

theorem upTo_append {stop : Char} {s b r : List Char} (h : upTo stop s = some (b, r)) :
    ∃ c, s = b ++ c :: r := by
  unfold upTo at h
  split at h
  · simp at h
  · next c t hs =>
    obtain ⟨rfl, rfl⟩ := by simpa using h
    exact ⟨c, by rw [← hs, List.takeWhile_append_dropWhile]⟩

theorem commentBody_append {s b r : List Char} (h : commentBody s = some (b, r)) :
    ∃ w, s = w ++ r := by
  unfold commentBody at h
  obtain ⟨u, hu⟩ := skip_suffix isBlank s
  change s = u ++ skipBlank s at hu
  split at h
  · obtain ⟨rfl, rfl⟩ := by simpa using h
    exact ⟨s, by simp⟩
  · next c t hs =>
    rw [hs] at hu
    split at h
    · obtain ⟨w, _, hw⟩ := braced_consumes _ _ _ h
      exact ⟨u ++ w, by rw [hu, hw]; simp⟩
    · split at h
      · obtain ⟨d, rfl⟩ := upTo_append h
        exact ⟨u ++ c :: b ++ [d], by rw [hu]; simp⟩
      · obtain ⟨rfl, rfl⟩ := by simpa using h
        exact ⟨u ++ (c :: t).takeWhile (· != '\n'), by
          rw [List.append_assoc, List.takeWhile_append_dropWhile, hu]⟩

theorem keyword_append {w s m r : List Char} (h : keyword w s = some (m, r)) : s = m ++ r := by
  unfold keyword at h
  split at h
  · simp at h
  · next hc =>
    obtain ⟨rfl, rfl⟩ := by simpa using h
    exact (caseless_append hc).1
  · next hc =>
    split at h
    · simp at h
    · obtain ⟨rfl, rfl⟩ := by simpa using h
      exact (caseless_append hc).1

theorem block_append {s r : List Char} {i : Item} (h : block s = some (i, r)) :
    ∃ w, s = w ++ r := by
  unfold block at h
  split at h
  · next m t hk =>
    obtain ⟨⟨b, r'⟩, hb, hr⟩ := Option.map_eq_some_iff.1 h
    obtain ⟨rfl, rfl⟩ := by simpa using hr
    obtain ⟨w, rfl⟩ := commentBody_append hb
    exact ⟨m ++ w, by simp [keyword_append hk]⟩
  · split at h
    · next m t hk =>
      obtain ⟨⟨⟨n, v⟩, r'⟩, hb, hr⟩ := Option.map_eq_some_iff.1 h
      obtain ⟨rfl, rfl⟩ := by simpa using hr
      obtain ⟨w, rfl⟩ := delimited_append assignment_consumes hb
      exact ⟨m ++ w, by simp [keyword_append hk]⟩
    · split at h
      · next m t hk =>
        obtain ⟨⟨v, r'⟩, hb, hr⟩ := Option.map_eq_some_iff.1 h
        obtain ⟨rfl, rfl⟩ := by simpa using hr
        obtain ⟨w, rfl⟩ := delimited_append (padded_consumes value_consumes) hb
        exact ⟨m ++ w, by simp [keyword_append hk]⟩
      · obtain ⟨⟨e, r'⟩, he, hr⟩ := Option.map_eq_some_iff.1 h
        obtain ⟨rfl, rfl⟩ := by simpa using hr
        obtain ⟨w, _, hw⟩ := entry_consumes _ _ _ he
        exact ⟨w, hw⟩

theorem item_consumes : Scanner.Consumes item := by
  intro s i r h
  cases s with
  | nil => simp [item] at h
  | cons c s =>
    simp only [item] at h
    split at h
    · obtain ⟨w, hw⟩ := block_append h
      obtain ⟨u, hu⟩ := skip_suffix isSpacing s
      change s = u ++ skipSpacing s at hu
      exact ⟨c :: u ++ w, by simp, by rw [hu, hw]; simp⟩
    · simp at h

theorem behindFreeText_length_lt {c : Char} {s : List Char} (h : c ≠ '@') :
    (behindFreeText (c :: s)).length < (c :: s).length := by
  have hc : c ≠ textStop (c :: s) := by
    unfold textStop
    by_cases hp : c = '%'
    · simp [hp]
    · simpa [hp] using h
  rw [behindFreeText, List.dropWhile_cons_of_pos (by simpa using hc)]
  exact Nat.lt_succ_of_le (List.dropWhile_sublist _).length_le

theorem shorter_behind_item {s t r : List Char} {i : Item} (hs : skipBlank s = t)
    (hi : item t = some (i, r)) : r.length < s.length :=
  Nat.lt_of_lt_of_le (item_consumes.length_lt hi) (hs ▸ skipBlank_length_le s)

theorem shorter_behind_text {s t : List Char} {c : Char} (hs : skipBlank s = c :: t)
    (hc : c ≠ '@') : (behindFreeText (c :: t)).length < s.length :=
  Nat.lt_of_lt_of_le (behindFreeText_length_lt hc) (hs ▸ skipBlank_length_le s)

/-- All items of a text, or the rest of the text from the first item that cannot be read. -/
def items (s : List Char) : Except (List Char) (List Item) :=
  match hs : skipBlank s with
  | [] => .ok []
  | c :: t =>
      if hc : c = '@' then
        match hi : item (c :: t) with
        | none => .error (c :: t)
        | some (i, r) =>
          have := shorter_behind_item hs hi
          (items r).map (i :: ·)
      else
        have := shorter_behind_text hs hc
        (items (behindFreeText (c :: t))).map (.comment (freeText (c :: t)) :: ·)
termination_by s.length

/-- The start of a text, with dots if it goes on. -/
def excerpt (n : Nat) (s : List Char) : List Char :=
  if s.length ≤ n then s else s.take n ++ "...".toList

/-- The error for an item of `s` that cannot be read; `rest` is `s` from its `@` on. -/
def malformedAt (s rest : List Char) : Error :=
  .malformed (.behind (firstBytes (byteCount s - byteCount rest) s))
    ((trimStart (rest.drop 1)).takeWhile isNameChar) (excerpt 40 rest)

def parse (s : List Char) : Except Error (List Item) :=
  match items s with
  | .ok is => .ok is
  | .error rest => .error (malformedAt s rest)

end Source
end Citation
