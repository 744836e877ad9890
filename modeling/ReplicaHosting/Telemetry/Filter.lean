import ReplicaHosting.Notice
import ReplicaHosting.Telemetry.Pattern
import ReplicaHosting.Text.Bytes
/-!
Filters for reports, as they are written in the environment: directives separated by commas, each
a level, a target, or a target with a level. A directive holds for every target that begins with
its own. A directive may also be about spans, which it describes in brackets by their name and by
a field in braces, with or without a value. A report is in no span, but a directive with a field
and neither name nor value holds for reports as well.

Of several directives the one with the longest target decides, of equal targets one with a field,
then the one with the greater field, and of equal directives the last.
-/
namespace ReplicaHosting.Telemetry

/-- One directive about reports. A filter of rank zero lets nothing through; a directive without a
target holds for all of them. -/
structure Directive where
  target : Option (List Char)
  rank : Nat
  field : Option (List Char) := none
  deriving DecidableEq, Repr

def rankOf? (word : List Char) : Option Nat :=
  let digits := match word with
    | '+' :: r => r
    | r => r
  if !digits.isEmpty && digits.all Char.isDigit then
    let n := digits.foldl (fun n c => n * 10 + (c.toNat - 0x30)) 0
    if n ≤ 5 then some n else none
  else
    let name := String.ofList (word.map Char.toUpper)
    if name == "OFF" then some 0
    else (Level.all.find? fun l => l.name == name).map Level.rank

/-- The rank behind an equals sign; without a word everything is let through. -/
def rankBehind? (word : List Char) : Option Nat :=
  if word.isEmpty then some 5 else rankOf? word

def isWordStart (c : Char) : Bool :=
  c == '-' || c == ':' || c == '_' || Text.isAlphanumeric c

/-! ## Reading a directive

The parts of a directive are found in its text without the blanks at its ends, but cut from the
text with them by the places where they were found. So blanks at the begin move every part to the
left, and no level can be read then; blanks at the end belong to the last part. -/

def trimmed (s : List Char) : List Char :=
  ((s.dropWhile Text.isBlank).reverse.dropWhile Text.isBlank).reverse

/-- Whether a text is a decimal number, or one of the words for infinity and for no number. -/
def isNumber (s : List Char) : Bool :=
  let unsigned (s : List Char) := match s with
    | '+' :: r => r
    | '-' :: r => r
    | r => r
  let s := unsigned s
  let whole := s.takeWhile Char.isDigit
  let r := s.drop whole.length
  let fraction := match r with
    | '.' :: r => r.takeWhile Char.isDigit
    | _ => []
  let r := match r with
    | '.' :: r => r.drop fraction.length
    | r => r
  let exponent := match r with
    | [] => true
    | c :: r => (c == 'e' || c == 'E') && !(unsigned r).isEmpty && (unsigned r).all Char.isDigit
  ["inf", "infinity", "nan"].contains (String.ofList (s.map Char.toLower)) ||
    (!(whole ++ fraction).isEmpty && exponent)

/-- What is said about the spans of a directive. Reports pass if neither a name nor a value is asked
for. -/
structure SpanTest where
  passesReports : Bool
  field : Option (List Char) := none
  deriving DecidableEq, Repr

/-- The test for a field, which may have a value behind an equals sign: a number or a pattern. -/
def fieldTest? (named : Bool) (field : List Char) : Option SpanTest :=
  match field.splitOn '=' with
  | name :: value :: _ =>
    if isNumber value || isPattern value then some ⟨false, some name⟩ else none
  | _ => if field.isEmpty then none else some ⟨!named, some field⟩

/-- Reads what is said about spans, whose bracket ends at the place `first`; gives it with the place
behind it and the text from there on. -/
def readSpanTest? (whole : List Char) (first : Nat) (s : List Char) :
    Option (SpanTest × Nat × List Char) :=
  let name := s.takeWhile fun c => c != ']' && c != '\x7b'
  let first := first + Text.byteLength name + 1
  match s.drop name.length with
  | ']' :: r => some (⟨false, none⟩, first, r)
  | '\x7b' :: r =>
    let field := r.takeWhile fun c => c != '\x7d'
    let last := first + Text.byteLength field
    match r.drop field.length with
    | '\x7d' :: ']' :: r => do
      let test ← (Text.cut? whole first last).bind (fieldTest? !name.isEmpty)
      return (test, last + 2, r)
    | _ => none
  | _ => none

/-- The rank written at a place: behind an equals sign, or none at all, which lets everything
through. -/
def readRank? (whole : List Char) (place : Nat) : List Char → Option Nat
  | [] => some 5
  | '=' :: _ => (Text.behind? (place + 1) whole).bind rankBehind?
  | _ => none

def readTested? (whole : List Char) (target : Option (List Char)) (first : Nat) (s : List Char) :
    Option (List Directive) := do
  let (test, last, r) ← readSpanTest? whole first s
  let rank ← readRank? whole last r
  return if test.passesReports then [⟨target, rank, test.field⟩] else []

/-- The directives about reports in one directive, which is none if it is only about spans, or
nothing if it cannot be read. A word alone is a rank if it can be one and a target otherwise. -/
def directive? (whole : List Char) : Option (List Directive) :=
  match trimmed whole with
  | [] => if whole.isEmpty then some [] else none
  | '[' :: r => readTested? whole none 1 r
  | c :: r =>
    if !isWordStart c then none
    else
      let word := (c :: r).takeWhile fun c => c != '=' && c != '['
      let last := Text.byteLength word
      match (c :: r).drop word.length with
      | [] =>
        match rankOf? whole with
        | some rank => some [⟨none, rank, none⟩]
        | none => some [⟨some whole, 5, none⟩]
      | '[' :: r => do
        let target ← Text.cut? whole 0 last
        readTested? whole (some target) (last + 1) r
      | r => do
        let target ← Text.cut? whole 0 last
        let rank ← readRank? whole last r
        return [⟨some target, rank, none⟩]

def directives? (s : String) : Option (List Directive) :=
  ((s.toList.splitOn ',').mapM directive?).map List.flatten

def Directive.weight (d : Directive) : Nat :=
  match d.target with
  | none => 0
  | some t => t.length + 1

def precedes : Option (List Char) → Option (List Char) → Bool
  | none, _ => true
  | some _, none => false
  | some x, some y => !decide (y < x)

/-- Whether a directive gives way to a later one. Both hold for one target. -/
def Directive.yieldsTo (d later : Directive) : Bool :=
  d.weight < later.weight || (d.weight == later.weight && precedes d.field later.field)

def rankFor (target : String) (ds : List Directive) : Nat :=
  let fits := ds.filter fun d => d.target.all fun t => t.isPrefixOf target.toList
  let best := fits.foldl (fun (best : Option Directive) d => match best with
    | none => some d
    | some b => if b.yieldsTo d then some d else some b) none
  (best.map Directive.rank).getD 0

end ReplicaHosting.Telemetry
