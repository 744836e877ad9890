import ReplicaHosting.Toml.Scalar
/-!
Keys and values of TOML at the front of a text. Lists and tables between braces may be nested 79
deep, and a path of keys may have 79 parts.
-/
namespace ReplicaHosting.Toml

/-- How deep values may be nested, and how many parts a path may have. -/
def depthLimit : Nat := 79

def stretch (s r : List Char) : Stretch := ⟨s.length, r.length⟩

def skipComment (s : List Char) : List Char :=
  match s with
  | '#' :: r => r.dropWhile isVisible
  | s => s

/-- Skips spaces, line breaks and comments between the entries of a list. A comment there has to
end in a line break. -/
def skipGap : Nat → List Char → Option (List Char)
  | 0, s => some s
  | fuel + 1, s =>
    match skipSpace s with
    | '#' :: r => (newline? (skipComment ('#' :: r))).bind (skipGap fuel)
    | r =>
      match newline? r with
      | some t => skipGap fuel t
      | none => some r

def isBareKey (c : Char) : Bool :=
  (0x30 ≤ c.toNat && c.toNat ≤ 0x39) || (0x41 ≤ c.toNat && c.toNat ≤ 0x5a) ||
    (0x61 ≤ c.toNat && c.toNat ≤ 0x7a) || c == '_' || c == '-'

def simpleKey? (s : List Char) : Option (Key × List Char) :=
  match shortText? s with
  | some (name, r) => some (⟨name, stretch s r⟩, r)
  | none =>
    let word := s.takeWhile isBareKey
    let r := s.dropWhile isBareKey
    if word.isEmpty then none else some (⟨String.ofList word, stretch s r⟩, r)

def pathParts? : Nat → List Char → Option (List Key × List Char)
  | 0, _ => none
  | fuel + 1, s =>
    match simpleKey? (skipSpace s) with
    | none => none
    | some (key, r) =>
      match skipSpace r with
      | '.' :: r => (pathParts? fuel r).map fun (keys, r) => (key :: keys, r)
      | r => some ([key], r)

structure Path where
  through : List Key
  last : Key
  deriving DecidableEq, Repr, Inhabited

def path? (s : List Char) : Option (Path × List Char) :=
  match pathParts? (s.length + 1) s with
  | none => none
  | some (keys, r) =>
    match keys.getLast? with
    | none => none
    | some last =>
      if keys.length ≤ depthLimit then some (⟨keys.dropLast, last⟩, r) else none

/-- Goes down a path of dotted keys inside braces, making the tables that are missing, and puts an
entry there. A table that is closed already, and anything that is no table, is in the way; so is
an entry of the same name. -/
def Table.putInline : List Key → Key → Item → Table Item → Option (Table Item)
  | [], key, item, t => if t.has key.name then none else some (t.append key item)
  | part :: parts, key, item, t =>
    match t.find? part.name with
    | none =>
      (putInline parts key item { implicit := true, dotted := true }).map fun inner =>
        t.append part (.inline inner)
    | some (.inline inner) =>
      if !inner.implicit then none
      else (putInline parts key item inner).map fun inner => t.replace part.name (.inline inner)
    | some _ => none

def inlineTable? (place : Stretch) (entries : List (Path × Item)) : Option (Table Item) :=
  let start : Table Item := { place := some place }
  entries.foldlM (fun t (p, item) => t.putInline p.through p.last item) start

/-- The entries of a list, the opening bracket being read, and what is behind its end. The last
entry may have a comma behind it. -/
def listItems (value : List Char → Option (Item × List Char)) :
    Nat → List Char → Option (List Item × List Char)
  | 0, _ => none
  | fuel + 1, s =>
    match skipGap s.length s with
    | none => none
    | some (']' :: r) => some ([], r)
    | some s =>
      match value s with
      | none => none
      | some (item, r) =>
        match skipGap r.length r with
        | some (',' :: r) => (listItems value fuel r).map fun (items, r) => (item :: items, r)
        | some (']' :: r) => some ([item], r)
        | _ => none

/-- The entries of a table between braces, and what is behind its end. They stand on one line, and
no comma stands before the closing brace. -/
def tableEntries (value : List Char → Option (Item × List Char)) :
    Nat → List Char → Option (List (Path × Item) × List Char)
  | 0, _ => none
  | fuel + 1, s =>
    match path? s with
    | some (p, '=' :: r) =>
      match value (skipSpace r) with
      | none => none
      | some (item, r) =>
        match skipSpace r with
        | ',' :: r => (tableEntries value fuel r).map fun (es, r) => ((p, item) :: es, r)
        | '\x7d' :: r => some ([(p, item)], r)
        | _ => none
    | _ => none

/-- A value at the front of a text; the number says how many more lists and tables may be entered.
-/
def value? : Nat → List Char → Option (Item × List Char)
  | depth, s =>
    match s, depth with
    | '[' :: _, 0 => none
    | '\x7b' :: _, 0 => none
    | '[' :: r, depth + 1 =>
      (listItems (value? depth) (r.length + 1) r).map fun (items, t) =>
        (.array items (stretch s t), t)
    | '\x7b' :: r, depth + 1 =>
      match skipSpace r with
      | '\x7d' :: t => some (.inline { place := some (stretch s t) }, t)
      | _ =>
        match tableEntries (value? depth) (r.length + 1) r with
        | none => none
        | some (entries, t) =>
          (inlineTable? (stretch s t) entries).map fun table => (.inline table, t)
    | s, _ => (scalar? s).map fun (x, r) => (.scalar x (stretch s r), r)

end ReplicaHosting.Toml
