import ReplicaHosting.Decimal.Double
/-!
What a TOML document is made of. Every item remembers the stretch of text it was read from, so
that a complaint can point at it. Tables remember how they came to be: by a header, by dotted
keys, or only because a longer header passed through them.
-/
namespace ReplicaHosting.Toml

/-- A stretch of text, given by how many characters are left at its beginning and at its end. -/
structure Stretch where
  start : Nat
  stop : Nat
  deriving DecidableEq, Repr, Inhabited

structure Key where
  name : String
  place : Stretch
  deriving DecidableEq, Repr, Inhabited

/-- A value without parts. Of a date or a time only the fact matters. -/
inductive Scalar where
  | text (s : String)
  | integer (n : Int)
  | floating (x : Decimal.Double)
  | boolean (b : Bool)
  | moment
  deriving DecidableEq, Repr, Inhabited

/-- A table over items of a given type, entries in the order of their first mention. It is implicit
if only longer paths have mentioned it, and dotted if dotted keys have made it. -/
structure Table (α : Type) where
  entries : List (Key × α) := []
  implicit : Bool := false
  dotted : Bool := false
  place : Option Stretch := none
  deriving Repr, Inhabited

/-- A table may be written between braces, or be made by headers or dotted keys. The tables of one
repeated header are one item. -/
inductive Item where
  | scalar (value : Scalar) (place : Stretch)
  | array (items : List Item) (place : Stretch)
  | inline (table : Table Item)
  | table (table : Table Item)
  | tables (members : List (Table Item)) (place : Option Stretch)
  deriving Inhabited

/-- Where an item was written; tables without a form of their own have no place. -/
def Item.place? : Item → Option Stretch
  | scalar _ place => some place
  | array _ place => some place
  | inline t => t.place
  | table t => t.place
  | tables _ place => place

namespace Table

variable {α : Type}

def find? (t : Table α) (name : String) : Option α :=
  (t.entries.find? fun e => e.1.name == name).map (·.2)

def has (t : Table α) (name : String) : Bool := t.entries.any fun e => e.1.name == name

def append (t : Table α) (key : Key) (item : α) : Table α :=
  { t with entries := t.entries ++ [(key, item)] }

def replace (t : Table α) (name : String) (item : α) : Table α :=
  { t with entries := t.entries.map fun e => if e.1.name == name then (e.1, item) else e }

def erase (t : Table α) (name : String) : Table α :=
  { t with entries := t.entries.filter fun e => !(e.1.name == name) }

end Table

end ReplicaHosting.Toml
