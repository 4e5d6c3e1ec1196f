import Citation.Value

/-! Macros: named values that references in other values stand for. Names are compared without
regard to ASCII case and are kept in lower case. -/
namespace Citation

namespace Value

/-- A concatenation, or the one literal that it amounts to if no reference is left in it. -/
def flattened (parts : List Value) : Value :=
  match textAll parts with
  | some s => .literal s
  | none => .concat parts

mutual

/-- A value with another value for each reference. -/
def substitute (f : List Char → Value) : Value → Value
  | .literal s => .literal s
  | .number n => .number n
  | .reference name => f name
  | .concat parts => flattened (substituteAll f parts)

def substituteAll (f : List Char → Value) : List Value → List Value
  | [] => []
  | v :: vs => v.substitute f :: substituteAll f vs

end

@[simp] theorem substituteAll_eq_map (f : List Char → Value) (vs : List Value) :
    substituteAll f vs = vs.map (substitute f) := by
  induction vs with
  | nil => rfl
  | cons v vs ih => simp [substituteAll, ih]

end Value

/-- The months, which need no definition. -/
def months : List (String × String) :=
  [("jan", "January"), ("feb", "February"), ("mar", "March"), ("apr", "April"), ("may", "May"),
    ("jun", "June"), ("jul", "July"), ("aug", "August"), ("sep", "September"),
    ("oct", "October"), ("nov", "November"), ("dec", "December")]

def month? (name : List Char) : Option (List Char) :=
  (months.find? fun m => m.1.toList = name).map (·.2.toList)

/-- Definitions by name in lower case, no name twice. -/
abbrev Macros := List (List Char × Value)

namespace Macros

def nameOf (name : List Char) : List Char := name.map Char.toLower

def names (ms : Macros) : List (List Char) := ms.map Prod.fst

def find (ms : Macros) (name : List Char) : Option Value := ms.lookup (nameOf name)

/-- A definition takes the place of an earlier one of its name. -/
def define (ms : Macros) (name : List Char) (value : Value) : Macros :=
  (nameOf name, value) :: ms.filter (·.1 ≠ nameOf name)

theorem erase_length_lt {a : List Char} {names : List (List Char)} (h : a ∈ names) :
    (names.erase a).length < names.length := by
  have := List.length_pos_of_mem h
  have := List.length_erase_of_mem h
  omega

/-- What a reference stands for. A name is free until its definition is being resolved; met
again inside, it stays a reference, and so does a name without a definition. -/
def meaning (ms : Macros) (free : List (List Char)) (name : List Char) : Value :=
  match ms.find name with
  | some v =>
      if h : nameOf name ∈ free then
        have := erase_length_lt h
        v.substitute (meaning ms (free.erase (nameOf name)))
      else .reference name
  | none => match month? (nameOf name) with
    | some month => .literal month
    | none => .reference name
termination_by free.length

def expand (ms : Macros) (v : Value) : Value := v.substitute (ms.meaning ms.names)

@[simp] theorem find_define (ms : Macros) (name : List Char) (v : Value) :
    (ms.define name v).find name = some v := by
  simp [find, define]

end Macros
end Citation
