import ReplicaHosting.Text.Alphanumeric
import ReplicaHosting.Text.Blank
/-!
Which texts are patterns: regular expressions without look-around, back references and whatever
needs Unicode's tables, that is classes such as `\d`, word boundaries and letters of either case,
as long as a pattern does not turn Unicode off. A pattern stands inside of braces, so it has no
closing brace and no repetition with a count.

A pattern is read once from left to right. All that is kept of a part is its height, the number of
nested parts in it, since that is limited.
-/
namespace ReplicaHosting.Telemetry.Pattern

/-- How a part of a pattern is meant, which can be changed inside of it: whether letters stand for
both cases, whether characters are those of Unicode and not bytes, and whether blanks and comments
are passed over. -/
structure Mode where
  foldCase : Bool := false
  unicode : Bool := true
  spaced : Bool := false
  deriving DecidableEq, Repr

def skipComment (s : List Char) : List Char := (s.dropWhile fun c => c != '\n').drop 1

theorem skipComment_length_le (s : List Char) : (skipComment s).length ≤ s.length := by
  have := (List.dropWhile_suffix (fun c => c != '\n') (l := s)).length_le
  simp only [skipComment, List.length_drop]
  omega

def skipBlanks : List Char → List Char
  | [] => []
  | c :: r =>
    if Text.isBlank c then skipBlanks r
    else if c == '#' then skipBlanks (skipComment r)
    else c :: r
termination_by s => s.length
decreasing_by
  · simp
  · simpa using Nat.lt_succ_of_le (skipComment_length_le r)

def Mode.skip (m : Mode) (s : List Char) : List Char := if m.spaced then skipBlanks s else s

def Mode.advance? (m : Mode) (s : List Char) : Option (List Char) :=
  match m.skip s with
  | [] => none
  | s => some s

/-! ## Single characters and what stands for them -/

/-- A character, which may be the number of a byte; a class with a letter or what is not in it; any
character but a line break; the edge of a line or of the text; the edge of a word. -/
inductive Atom where
  | char (c : Char) (byte : Bool)
  | letterClass (negated : Bool)
  | dot
  | anchor
  | wordEdge
  deriving DecidableEq, Repr

/-- Whether an atom may stand by itself. A byte above ASCII would not be text. Without Unicode only
the letters of ASCII have two cases, so that any other character is just itself. -/
def Mode.admits (m : Mode) : Atom → Bool
  | .char c byte => if m.unicode then !m.foldCase else c.toNat < 0x80 || !byte
  | .letterClass negated => !m.unicode && !negated
  | .dot => m.unicode
  | .anchor => true
  | .wordEdge => !m.unicode

def Mode.admitsMember (m : Mode) (c : Char) : Bool :=
  if m.unicode then !m.foldCase else c.toNat < 0x80

def Mode.admitsNamed (m : Mode) (negated : Bool) : Bool :=
  if m.unicode then !m.foldCase else !negated

def isHexDigit (c : Char) : Bool :=
  c.isDigit || ('a' ≤ c && c ≤ 'f') || ('A' ≤ c && c ≤ 'F')

def hexValue (c : Char) : Nat :=
  if c.isDigit then c.toNat - 0x30 else c.toLower.toNat - 0x61 + 10

/-- Reads a fixed number of hexadecimal digits, behind which the pattern may end. -/
def readHex? (m : Mode) : Nat → Nat → List Char → Option (Nat × List Char)
  | 0, v, s => some (v, s)
  | n + 1, v, c :: r =>
    if isHexDigit c then
      let v := v * 16 + hexValue c
      if n == 0 then some (v, m.skip r) else (m.advance? r).bind (readHex? m n v)
    else none
  | _ + 1, _, [] => none

def readNumbered? (m : Mode) (digits : Nat) (s : List Char) : Option (Char × List Char) := do
  let (v, r) ← (m.advance? s).bind (readHex? m digits 0)
  if v < 0xD800 || (0xDFFF < v && v < 0x110000) then return (Char.ofNat v, r) else none

def controlChar? (c : Char) : Option Char :=
  if c == 'a' then some '\x07'
  else if c == 't' then some '\t'
  else if c == 'n' then some '\n'
  else if c == 'v' then some '\x0b'
  else if c == 'f' then some '\x0c'
  else if c == 'r' then some '\r'
  else none

/-- Reads an escape, its backslash being read. Any ASCII character but letters and digits stands
for itself. -/
def readEscape? (m : Mode) : List Char → Option (Atom × List Char)
  | [] => none
  | c :: r =>
    if c == 'x' then (readNumbered? m 2 r).map fun (c, r) => (.char c true, r)
    else if c == 'u' then (readNumbered? m 4 r).map fun (c, r) => (.char c false, r)
    else if c == 'U' then (readNumbered? m 8 r).map fun (c, r) => (.char c false, r)
    else if c == 'd' || c == 's' || c == 'w' then some (.letterClass false, r)
    else if c == 'D' || c == 'S' || c == 'W' then some (.letterClass true, r)
    else if c == 'b' || c == 'B' || c == '<' || c == '>' then some (.wordEdge, r)
    else if c == 'A' || c == 'z' then some (.anchor, r)
    else if c.toNat < 0x80 && !c.isAlphanum then some (.char c false, r)
    else (controlChar? c).map fun c => (.char c false, r)

def readAtom? (m : Mode) (c : Char) (r : List Char) : Option (Atom × List Char) :=
  if c == '\x5c' then readEscape? m r
  else if c == '.' then some (.dot, r)
  else if c == '^' || c == '$' then some (.anchor, r)
  else some (.char c false, r)

/-- The height of parts in a row: a part alone counts for itself, more of them add a level. -/
def rowHeight : List Nat → Nat
  | [] => 0
  | [h] => h
  | hs => hs.foldl max 0 + 1

/-! ## Sets of characters -/

/-- A set that is being read: the height of what stands in front of the latest operator, and those
of the members behind it. -/
structure OpenSet where
  left : Option Nat := none
  members : List Nat := []
  deriving DecidableEq, Repr

namespace OpenSet

def push (x : OpenSet) (h : Nat) : OpenSet := { x with members := h :: x.members }

def height (x : OpenSet) : Nat :=
  match x.left with
  | none => rowHeight x.members
  | some l => max l (rowHeight x.members) + 1

def operand (x : OpenSet) : OpenSet := ⟨some x.height, []⟩

end OpenSet

def readHyphens? (m : Mode) : Nat → OpenSet → List Char → Option (OpenSet × List Char)
  | 0, _, _ => none
  | fuel + 1, x, s =>
    match s with
    | '-' :: r =>
      if m.admitsMember '-' then (m.advance? r).bind (readHyphens? m fuel (x.push 0)) else none
    | s => some (x, s)

/-- Reads the begin of a set, its bracket being read. A closing bracket in the first place is a
member; without Unicode there are no negated sets, since they would hold parts of characters. -/
def openSet? (m : Mode) (s : List Char) : Option (OpenSet × List Char) := do
  let s ← m.advance? s
  let s ← match s with
    | '^' :: r => if m.unicode then m.advance? r else none
    | s => some s
  let (x, s) ← readHyphens? m (s.length + 1) {} s
  match x.members, s with
  | [], ']' :: r =>
    let r ← m.advance? r
    if m.admitsMember ']' then return (x.push 0, r) else none
  | _, s => return (x, s)

def classNames : List String :=
  ["alnum", "alpha", "ascii", "blank", "cntrl", "digit", "graph", "lower", "print", "punct",
   "space", "upper", "word", "xdigit"]

def namedClass? : List Char → Option (Bool × List Char)
  | ':' :: r =>
    let negated := r.head? == some '^'
    let r := if negated then r.drop 1 else r
    let name := r.takeWhile fun c => c != ':'
    match r.drop name.length with
    | ':' :: ']' :: r =>
      if classNames.contains (String.ofList name) then some (negated, r) else none
    | _ => none
  | _ => none

/-- The character that decides whether a hyphen makes a range. Where blanks do not count, one number
sign does not either, but what follows it does. -/
def Mode.peek? (m : Mode) (s : List Char) : Option Char :=
  if m.spaced then
    let next := match s.dropWhile Text.isBlank with
      | '#' :: r => r.dropWhile Text.isBlank
      | s => s
    if next.isEmpty then s.head? else next.head?
  else s.head?

def readMember? (m : Mode) : List Char → Option (Atom × List Char)
  | [] => none
  | c :: r => if c == '\x5c' then readEscape? m r else some (.char c false, r)

def Mode.admitsAtom (m : Mode) : Atom → Bool
  | .char c _ => m.admitsMember c
  | .letterClass negated => m.admits (.letterClass negated)
  | _ => false

def readRange? (m : Mode) (s : List Char) : Option (List Char) := do
  let (a, s) ← readMember? m s
  let s ← m.advance? s
  let single := if m.admitsAtom a then some s else none
  match s with
  | '-' :: r =>
    let next := m.peek? r
    if next == some ']' || next == some '-' then single
    else
      let (b, r) ← (m.advance? r).bind (readMember? m)
      match a, b with
      | .char a _, .char b _ =>
        if m.admitsMember a && m.admitsMember b && a ≤ b then return r else none
      | _, _ => none
  | _ => single

/-- Reads a set, the innermost open one first; gives its height and what is behind it. -/
def readSet? (m : Mode) : Nat → OpenSet → List OpenSet → List Char → Option (Nat × List Char)
  | 0, _, _, _ => none
  | fuel + 1, x, outer, s =>
    match m.skip s with
    | [] => none
    | '[' :: r =>
      match namedClass? r with
      | some (negated, r) =>
        if m.admitsNamed negated then readSet? m fuel (x.push 0) outer r else none
      | none => (openSet? m r).bind fun (y, r) => readSet? m fuel y (x :: outer) r
    | ']' :: r =>
      match outer with
      | [] => some (x.height + 1, r)
      | y :: outer => readSet? m fuel (y.push (x.height + 1)) outer r
    | '&' :: '&' :: r => readSet? m fuel x.operand outer r
    | '-' :: '-' :: r => readSet? m fuel x.operand outer r
    | '~' :: '~' :: r => readSet? m fuel x.operand outer r
    | s => (readRange? m s).bind (readSet? m fuel (x.push 0) outer)

/-! ## Groups -/

structure Part where
  height : Nat
  repeatable : Bool := true
  deriving DecidableEq, Repr

/-- A group that is being read: the heights of the alternatives that are complete, and the parts of
the last one, the latest first. -/
structure Group where
  mode : Mode := {}
  alternatives : List Nat := []
  parts : List Part := []
  deriving DecidableEq, Repr

namespace Group

def push (g : Group) (p : Part) : Group := { g with parts := p :: g.parts }

def alternate (g : Group) : Group :=
  { g with alternatives := rowHeight (g.parts.map Part.height) :: g.alternatives, parts := [] }

def height (g : Group) : Nat := rowHeight g.alternate.alternatives

def again? (g : Group) : Option Group :=
  match g.parts with
  | p :: ps => if p.repeatable then some { g with parts := ⟨p.height + 1, true⟩ :: ps } else none
  | [] => none

end Group

structure State where
  group : Group := {}
  outer : List Group := []
  names : List (List Char) := []
  deriving DecidableEq, Repr

def switches : List Char := "imsUuRx".toList

/-- A switch after a list of switches, of which those behind a hyphen are turned off. -/
def switched (items : List Char) (c : Char) (before : Bool) : Bool :=
  if items.contains c then (items.takeWhile fun d => d != '-').contains c else before

def areSwitches (items : List Char) : Bool :=
  items.all (fun c => c == '-' || switches.contains c) && decide items.Nodup &&
    items.getLast? != some '-'

def Mode.switch (m : Mode) (items : List Char) : Mode :=
  ⟨switched items 'i' m.foldCase, switched items 'u' m.unicode, switched items 'x' m.spaced⟩

def isGroupName : List Char → Bool
  | [] => false
  | c :: r =>
    (c == '_' || Text.isAlphabetic c) && r.all fun c =>
      c == '_' || c == '.' || c == '[' || c == ']' || Text.isAlphanumeric c

namespace State

def push (x : State) (p : Part) : State := { x with group := x.group.push p }

def enter (x : State) (m : Mode) : State :=
  { x with group := { mode := m }, outer := x.group :: x.outer }

def enterNamed? (x : State) (s : List Char) : Option (State × List Char) :=
  let name := s.takeWhile fun c => c != '>'
  match s.drop name.length with
  | '>' :: r =>
    if isGroupName name && !x.names.contains name then
      some ({ x with names := name :: x.names }.enter x.group.mode, r)
    else none
  | _ => none

/-- Reads switches: they hold for a new group if a colon is behind them, and for the rest of the
present one otherwise. -/
def switch? (x : State) (s : List Char) : Option (State × List Char) :=
  let items := s.takeWhile fun c => c != ':' && c != ')'
  let m := x.group.mode.switch items
  if !areSwitches items then none
  else match s.drop items.length with
    | ':' :: r => some (x.enter m, r)
    | ')' :: r =>
      if items.isEmpty then none
      else some ({ x with group := { x.group.push ⟨0, false⟩ with mode := m } }, r)
    | _ => none

/-- Begins a group, its parenthesis being read. Looking around is not supported. -/
def enterGroup? (x : State) (s : List Char) : Option (State × List Char) :=
  match x.group.mode.skip s with
  | '?' :: 'P' :: '<' :: r => x.enterNamed? r
  | '?' :: '<' :: r => x.enterNamed? r
  | '?' :: r => x.switch? r
  | r => some (x.enter x.group.mode, r)

def leave? (x : State) : Option State :=
  match x.outer with
  | [] => none
  | g :: outer => some { x with group := g.push ⟨x.group.height + 1, true⟩, outer }

/-- Reads one part or operator. A question mark right behind an operator belongs to it. -/
def step? (x : State) (c : Char) (r : List Char) : Option (State × List Char) :=
  let m := x.group.mode
  if c == '(' then x.enterGroup? r
  else if c == ')' then x.leave?.map (·, r)
  else if c == '|' then some ({ x with group := x.group.alternate }, r)
  else if c == '[' then do
    let (s, r) ← openSet? m r
    let (h, r) ← readSet? m (r.length + 1) s [] r
    return (x.push ⟨h, true⟩, r)
  else if c == '?' || c == '*' || c == '+' then do
    let g ← x.group.again?
    return ({ x with group := g }, match r with
      | '?' :: r => r
      | r => r)
  else if c == '\x7b' then none
  else do
    let (a, r) ← readAtom? m c r
    if m.admits a then return (x.push ⟨0, true⟩, r) else none

/-- Reads to the end, where no group may be open and the whole may not be higher than 250. Every
step takes at least one character, so `fuel` need not exceed the length of the text. -/
def reads : Nat → State → List Char → Bool
  | 0, _, _ => false
  | fuel + 1, x, s =>
    match x.group.mode.skip s with
    | [] => x.outer.isEmpty && x.group.height ≤ 250
    | c :: r =>
      match x.step? c r with
      | none => false
      | some (x, r) => reads fuel x r

end State

end Pattern

def isPattern (s : List Char) : Bool := Pattern.State.reads (s.length + 1) {} s

end ReplicaHosting.Telemetry
