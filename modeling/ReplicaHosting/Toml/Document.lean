import ReplicaHosting.Toml.Value
/-!
A TOML document: its statements, and the table they build up. The document is good or it is not;
what is wrong with a bad one is not said.

A header opens a table, which the entries behind it go into until the next header. A table may be
opened once, unless only longer headers have mentioned it so far; its entry then moves to where
the header stands. Dotted keys make tables of their own kind, which no header may open.
-/
namespace ReplicaHosting.Toml

/-- An entry, or a header, single or repeated, whose place includes the brackets. -/
inductive Statement where
  | entry (path : Path) (value : Item)
  | header (repeated : Bool) (path : Path) (place : Stretch)
  deriving Inhabited

def endLine? (s : List Char) : Option (List Char) :=
  match skipComment (skipSpace s) with
  | [] => some []
  | r => newline? r

def header? (s : List Char) : Option (Statement × List Char) :=
  match s with
  | '[' :: '[' :: r =>
    match path? r with
    | some (p, ']' :: ']' :: r) => some (.header true p (stretch s r), r)
    | _ => none
  | '[' :: r =>
    match path? r with
    | some (p, ']' :: r) => some (.header false p (stretch s r), r)
    | _ => none
  | _ => none

def entry? (s : List Char) : Option (Statement × List Char) :=
  match path? s with
  | some (p, '=' :: r) =>
    (value? depthLimit (skipSpace r)).map fun (item, r) => (.entry p item, r)
  | _ => none

/-- The statements of a document. Every line takes at least one character, so `fuel` need not
exceed the length of the text. -/
def statements? : Nat → List Char → Option (List Statement)
  | 0, _ => none
  | fuel + 1, s =>
    match skipSpace s with
    | [] => some []
    | '#' :: r => (endLine? ('#' :: r)).bind (statements? fuel)
    | '\n' :: r => statements? fuel r
    | '\r' :: r => (newline? ('\r' :: r)).bind (statements? fuel)
    | s =>
      let read := match s with
        | '[' :: _ => header? s
        | _ => entry? s
      match read with
      | none => none
      | some (x, r) =>
        match endLine? r with
        | none => none
        | some r => (statements? fuel r).map fun xs => x :: xs

namespace Table

/-- Changes the table at the end of a path, making the tables that are missing. Of repeated tables
the last one is meant. Dotted paths lead only through tables that no header has opened. -/
def modifyAt (dotted : Bool) (change : Table Item → Option (Table Item)) :
    List Key → Table Item → Option (Table Item)
  | [], t => change t
  | part :: parts, t =>
    match t.find? part.name with
    | none =>
      (modifyAt dotted change parts { implicit := true, dotted }).map fun inner =>
        t.append part (.table inner)
    | some (.table inner) =>
      if dotted && !inner.implicit then none
      else (modifyAt dotted change parts inner).map fun inner =>
        t.replace part.name (.table inner)
    | some (.tables members place) =>
      match members.getLast? with
      | none => none
      | some inner => (modifyAt dotted change parts inner).map fun inner =>
        t.replace part.name (.tables (members.dropLast ++ [inner]) place)
    | some _ => none

/-- Puts an entry at a path. Entries with a plain key do not go into tables made by dotted keys,
entries with a dotted key only into such. -/
def putEntry (p : Path) (item : Item) (t : Table Item) : Option (Table Item) :=
  let put (t : Table Item) : Option (Table Item) :=
    if t.dotted == p.through.isEmpty || t.has p.last.name then none
    else some (t.append p.last item)
  modifyAt true put p.through t

def reach (t : Table Item) (item : Item) : Table Item :=
  match t.place, item.place? with
  | some here, some there => { t with place := some ⟨here.start, there.stop⟩ }
  | _, _ => t

end Table

/-- A document under construction: what is finished, and the table that is open with its header, of
which the first table has none. -/
structure Draft where
  root : Table Item := {}
  header : Option (Bool × Path) := none
  current : Table Item := {}
  deriving Inhabited

namespace Draft

def placeOfAll (members : List (Table Item)) : Option Stretch := do
  let first ← members.head?
  let last ← members.getLast?
  let start ← first.place
  let stop ← last.place
  return ⟨start.start, stop.stop⟩

def close? (x : Draft) : Option (Table Item) :=
  match x.header with
  | none => some x.current
  | some (repeated, p) =>
    let add (t : Table Item) : Option (Table Item) :=
      match repeated, t.find? p.last.name with
      | true, none => some (t.append p.last (.tables [x.current] (placeOfAll [x.current])))
      | true, some (.tables members _) =>
        let members := members ++ [x.current]
        some (t.replace p.last.name (.tables members (placeOfAll members)))
      | false, none => some (t.append p.last (.table x.current))
      | _, some _ => none
    Table.modifyAt false add p.through x.root

def claim? (repeated : Bool) (name : String) (t : Table Item) : Option (Table Item × Table Item) :=
  match repeated, t.find? name with
  | _, none => some (t, {})
  | true, some (.tables _ _) => some (t, {})
  | false, some (.table inner) =>
    if inner.implicit && !inner.dotted then some (t.erase name, inner) else none
  | _, some _ => none

/-- The table that a header takes over from longer headers before it, if the header is allowed. -/
def inherited? (repeated : Bool) (name : String) : List Key → Table Item → Option (Table Item)
  | [], t => (claim? repeated name t).map (·.2)
  | part :: parts, t =>
    match t.find? part.name with
    | none => some {}
    | some (.table inner) => inherited? repeated name parts inner
    | some (.tables members _) => members.getLast?.bind (inherited? repeated name parts)
    | some _ => none

def open? (x : Draft) (repeated : Bool) (p : Path) (place : Stretch) : Option Draft := do
  let root ← x.close?
  let inner ← inherited? repeated p.last.name p.through root
  let clear (t : Table Item) := (claim? repeated p.last.name t).map (·.1)
  let root ← Table.modifyAt false clear p.through root
  return { root, header := some (repeated, p)
           current := { entries := inner.entries, place := some place } }

def add? (x : Draft) : Statement → Option Draft
  | .entry p item => do
    let t ← (x.current.reach item).putEntry p item
    return { x with current := t }
  | .header repeated p place => x.open? repeated p place

end Draft

def Table.ofStatements? (xs : List Statement) : Option (Table Item) :=
  (xs.foldlM Draft.add? {}).bind Draft.close?

def dropMark (s : List Char) : List Char :=
  match s with
  | '\ufeff' :: r => r
  | s => s

def parse? (s : List Char) : Option (Table Item) :=
  (statements? (s.length + 1) (dropMark s)).bind Table.ofStatements?

end ReplicaHosting.Toml
