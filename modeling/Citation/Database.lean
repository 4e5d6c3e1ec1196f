import Citation.Macros
import Citation.Source.Item

/-! Databases: what a bibliography source holds, with its macros expanded. -/
namespace Citation

structure Database where
  entries : List Entry := []
  macros : Macros := []
  preambles : List Value := []
  comments : List (List Char) := []

namespace Database

def expandField (ms : Macros) (f : Field) : Field := { f with value := ms.expand f.value }

def expandEntry (ms : Macros) (e : Entry) : Entry :=
  { e with fields := e.fields.map (expandField ms) }

/-- Takes in the next item. It sees the definitions of the items before it. -/
def addItem (db : Database) : Item → Database
  | .entry e => { db with entries := db.entries ++ [expandEntry db.macros e] }
  | .definition name v => { db with macros := db.macros.define name (db.macros.expand v) }
  | .preamble v => { db with preambles := db.preambles ++ [db.macros.expand v] }
  | .comment s => { db with comments := db.comments ++ [s] }

def ofItems (is : List Item) : Database := is.foldl addItem {}

def parse (s : List Char) : Except Error Database := (Source.parse s).map ofItems

def push (db : Database) (e : Entry) : Database := { db with entries := db.entries ++ [e] }

/-- The first entry with a key. -/
def find (db : Database) (key : List Char) : Option Entry :=
  db.entries.find? fun e => e.key = key

/-- The entries of a type, by its name in any ASCII case. -/
def ofType (db : Database) (type : List Char) : List Entry :=
  db.entries.filter fun e => sameName e.type.name type

@[simp] theorem ofItems_append (is js : List Item) :
    ofItems (is ++ js) = js.foldl addItem (ofItems is) := by simp [ofItems]

end Database
end Citation
