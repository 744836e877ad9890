import ReplicaHosting.Toml.Item
/-!
The scalars of TOML at the front of a text: quoted texts of the four kinds, integers in four
bases, floating-point numbers, dates and times, truth values. Each reader gives the value and the
text behind it, or none if the grammar is broken.
-/
namespace ReplicaHosting.Toml

def isSpace (c : Char) : Bool := c == ' ' || c == '\t'

def skipSpace (s : List Char) : List Char := s.dropWhile isSpace

/-- Characters that may stand in comments and texts: all but controls, the tab apart. -/
def isVisible (c : Char) : Bool := c == '\t' || (0x20 ≤ c.toNat && c.toNat != 0x7f)

def newline? : List Char → Option (List Char)
  | '\n' :: r => some r
  | '\r' :: '\n' :: r => some r
  | _ => none

def skipNewline (s : List Char) : List Char := (newline? s).getD s

def skipLines : List Char → List Char
  | [] => []
  | c :: r =>
    if isSpace c || c == '\n' then skipLines r
    else if c == '\r' then
      match r with
      | '\n' :: r => skipLines r
      | r => c :: r
    else c :: r

def digitValue? (base : Nat) (c : Char) : Option Nat :=
  let n := c.toNat
  let v := if 0x30 ≤ n && n ≤ 0x39 then n - 0x30
    else if 0x41 ≤ n && n ≤ 0x46 then n - 0x41 + 10
    else if 0x61 ≤ n && n ≤ 0x66 then n - 0x61 + 10
    else base
  if v < base then some v else none

def isDigitIn (base : Nat) (c : Char) : Bool := (digitValue? base c).isSome

def numberOf (base : Nat) (ds : List Char) : Nat :=
  ds.foldl (fun n c => match digitValue? base c with
    | some v => n * base + v
    | none => n) 0

def scalarChar? (n : Nat) : Option Char :=
  if n < 0xD800 || (0xDFFF < n && n < 0x110000) then some (Char.ofNat n) else none

def numbered? (ds : List Char) : Option Char :=
  if ds.all (isDigitIn 16) then scalarChar? (numberOf 16 ds) else none

def simpleEscape? (c : Char) : Option Char :=
  if c == 'b' then some (Char.ofNat 8)
  else if c == 't' then some (Char.ofNat 9)
  else if c == 'n' then some (Char.ofNat 10)
  else if c == 'f' then some (Char.ofNat 12)
  else if c == 'r' then some (Char.ofNat 13)
  else if c == '\x22' || c == '\x5c' then some c
  else none

def basicText : List Char → Option (List Char × List Char)
  | [] => none
  | c :: r =>
    if c == '\x22' then some ([], r)
    else if c == '\x5c' then
      match r with
      | 'u' :: h1 :: h2 :: h3 :: h4 :: r =>
        match numbered? [h1, h2, h3, h4] with
        | none => none
        | some x => (basicText r).map fun (cs, r) => (x :: cs, r)
      | 'U' :: h1 :: h2 :: h3 :: h4 :: h5 :: h6 :: h7 :: h8 :: r =>
        match numbered? [h1, h2, h3, h4, h5, h6, h7, h8] with
        | none => none
        | some x => (basicText r).map fun (cs, r) => (x :: cs, r)
      | e :: r =>
        match simpleEscape? e with
        | none => none
        | some x => (basicText r).map fun (cs, r) => (x :: cs, r)
      | [] => none
    else if isVisible c then (basicText r).map fun (cs, r) => (c :: cs, r)
    else none

def literalText : List Char → Option (List Char × List Char)
  | [] => none
  | c :: r =>
    if c == '\x27' then some ([], r)
    else if isVisible c then (literalText r).map fun (cs, r) => (c :: cs, r)
    else none

/-- The end of a long text that begins with three quotes or more: up to two quotes belong to the
text. -/
def longEnd (quote : Char) (s : List Char) : Option (List Char × List Char) :=
  let run := (s.takeWhile (· == quote)).length
  if 3 ≤ run && run ≤ 5 then some (List.replicate (run - 3) quote, s.drop run) else none

def atLongEnd (quote : Char) : List Char → Bool
  | a :: b :: c :: _ => a == quote && b == quote && c == quote
  | _ => false

/-- What a backslash at the end of a line swallows: all white space up to the next text. The line
must hold nothing but spaces behind the backslash. -/
def continuation? (s : List Char) : Option (List Char) :=
  (newline? (skipSpace s)).map skipLines

def longBasicPiece (s : List Char) : Option (List Char × List Char) :=
  match s with
  | [] => none
  | '\x5c' :: r =>
    match continuation? r with
    | some r => some ([], r)
    | none =>
      match r with
      | 'u' :: h1 :: h2 :: h3 :: h4 :: r => (numbered? [h1, h2, h3, h4]).map fun x => ([x], r)
      | 'U' :: h1 :: h2 :: h3 :: h4 :: h5 :: h6 :: h7 :: h8 :: r =>
        (numbered? [h1, h2, h3, h4, h5, h6, h7, h8]).map fun x => ([x], r)
      | e :: r => (simpleEscape? e).map fun x => ([x], r)
      | [] => none
  | c :: r =>
    match newline? (c :: r) with
    | some r => some (['\n'], r)
    | none => if isVisible c then some ([c], r) else none

def longLiteralPiece (s : List Char) : Option (List Char × List Char) :=
  match s with
  | [] => none
  | c :: r =>
    match newline? (c :: r) with
    | some r => some (['\n'], r)
    | none => if isVisible c then some ([c], r) else none

/-- A long text, piece by piece up to its end. Every piece takes at least one character, so `fuel`
need not exceed the length of the text. -/
def longText (quote : Char) (piece : List Char → Option (List Char × List Char)) :
    Nat → List Char → Option (List Char × List Char)
  | 0, _ => none
  | fuel + 1, s =>
    if atLongEnd quote s then longEnd quote s
    else
      match piece s with
      | none => none
      | some (cs, r) => (longText quote piece fuel r).map fun (ds, r) => (cs ++ ds, r)

/-- A quoted text of any kind. A line break right behind three quotes is no part of the text. -/
def quotedText? (s : List Char) : Option (String × List Char) :=
  let give : List Char × List Char → String × List Char := fun (cs, r) => (String.ofList cs, r)
  match s with
  | '\x22' :: '\x22' :: '\x22' :: r =>
    (longText '\x22' longBasicPiece (r.length + 1) (skipNewline r)).map give
  | '\x27' :: '\x27' :: '\x27' :: r =>
    (longText '\x27' longLiteralPiece (r.length + 1) (skipNewline r)).map give
  | '\x22' :: r => (basicText r).map give
  | '\x27' :: r => (literalText r).map give
  | _ => none

def shortText? (s : List Char) : Option (String × List Char) :=
  match s with
  | '\x22' :: r => (basicText r).map fun (cs, r) => (String.ofList cs, r)
  | '\x27' :: r => (literalText r).map fun (cs, r) => (String.ofList cs, r)
  | _ => none

/-- Digits with single underscores between them; the underscores are dropped. At the beginning and
behind an underscore a digit is needed. -/
def digitsFrom? (base : Nat) : Bool → List Char → Option (List Char × List Char)
  | needed, [] => if needed then none else some ([], [])
  | needed, c :: r =>
    if isDigitIn base c then (digitsFrom? base false r).map fun (ds, r) => (c :: ds, r)
    else if needed then none
    else if c == '_' then digitsFrom? base true r
    else some ([], c :: r)

def digitRun? (base : Nat) (s : List Char) : Option (List Char × List Char) :=
  digitsFrom? base true s

def fixedDigits? : Nat → Nat → List Char → Option (Nat × List Char)
  | 0, n, s => some (n, s)
  | places + 1, n, c :: r => (digitValue? 10 c).bind fun v => fixedDigits? places (n * 10 + v) r
  | _ + 1, _, [] => none

def expect? (c : Char) : List Char → Option (List Char)
  | d :: r => if c == d then some r else none
  | [] => none

def isLeapYear (y : Nat) : Bool := y % 4 == 0 && (y % 100 != 0 || y % 400 == 0)

def daysIn (year month : Nat) : Nat :=
  if month == 2 then (if isLeapYear year then 29 else 28)
  else if month == 4 || month == 6 || month == 9 || month == 11 then 30 else 31

def date? (s : List Char) : Option (List Char) := do
  let (year, s) ← fixedDigits? 4 0 s
  let s ← expect? '-' s
  let (month, s) ← fixedDigits? 2 0 s
  let s ← expect? '-' s
  let (day, s) ← fixedDigits? 2 0 s
  if 1 ≤ month && month ≤ 12 && 1 ≤ day && day ≤ daysIn year month then some s else none

def skipFraction : List Char → List Char
  | '.' :: c :: r => if c.isDigit then (c :: r).dropWhile Char.isDigit else '.' :: c :: r
  | s => s

/-- The text behind a time of day. A minute may have sixty-one seconds. -/
def time? (s : List Char) : Option (List Char) := do
  let (hour, s) ← fixedDigits? 2 0 s
  let s ← expect? ':' s
  let (minute, s) ← fixedDigits? 2 0 s
  let s ← expect? ':' s
  let (second, s) ← fixedDigits? 2 0 s
  if hour ≤ 23 && minute ≤ 59 && second ≤ 60 then some (skipFraction s) else none

def offset? : List Char → Option (List Char)
  | [] => none
  | c :: r =>
    if c == 'Z' || c == 'z' then some r
    else if c == '+' || c == '-' then do
      let (hour, s) ← fixedDigits? 2 0 r
      let s ← expect? ':' s
      let (minute, s) ← fixedDigits? 2 0 s
      if hour ≤ 23 && minute ≤ 59 then some s else none
    else none

def moment? (s : List Char) : Option (List Char) :=
  match date? s with
  | none => time? s
  | some r =>
    match r with
    | c :: t =>
      if c == 'T' || c == 't' || c == ' ' then
        match time? t with
        | none => some r
        | some u => some ((offset? u).getD u)
      else some r
    | [] => some []

def integer? (negative : Bool) (n : Nat) : Option Scalar :=
  if negative then if n ≤ Decimal.twoTo 63 then some (.integer (-n)) else none
  else if n < Decimal.twoTo 63 then some (.integer n) else none

/-- A floating-point number; one above the range of the format is refused, one below it is
negative infinity. -/
def floating? (negative : Bool) (x : Decimal.Double) : Option Scalar :=
  if negative then some (.floating x.negate)
  else if x == .infinite false then none
  else some (.floating x)

def readSign : List Char → Bool × List Char
  | '+' :: r => (false, r)
  | '-' :: r => (true, r)
  | s => (false, s)

/-- The whole part of a decimal number: no zero in front of another digit. -/
def wholePart? (s : List Char) : Option (List Char × List Char) :=
  match s with
  | '0' :: r => some (['0'], r)
  | s => digitRun? 10 s

def exponentPart? (s : List Char) : Option (Int × List Char) :=
  let (negative, s) := readSign s
  (digitRun? 10 s).map fun (ds, r) =>
    ((if negative then -(numberOf 10 ds : Int) else numberOf 10 ds), r)

def isExponentLetter (c : Char) : Bool := c == 'e' || c == 'E'

def decimal? (negative : Bool) (s : List Char) : Option (Scalar × List Char) := do
  let (whole, r) ← wholePart? s
  match r with
  | '.' :: r =>
    let (fraction, r) ← digitRun? 10 r
    let digits := numberOf 10 (whole ++ fraction)
    let (e, r) ← match r with
      | c :: t => if isExponentLetter c then exponentPart? t else some (0, c :: t)
      | [] => some (0, [])
    let x ← floating? negative (.ofDecimal digits (e - fraction.length))
    return (x, r)
  | c :: t =>
    if isExponentLetter c then
      let (e, r) ← exponentPart? t
      let x ← floating? negative (.ofDecimal (numberOf 10 whole) e)
      return (x, r)
    else
      let x ← integer? negative (numberOf 10 whole)
      return (x, c :: t)
  | [] =>
    let x ← integer? negative (numberOf 10 whole)
    return (x, [])

def based? (base : Nat) (s : List Char) : Option (Scalar × List Char) := do
  let (ds, r) ← digitRun? base s
  let x ← integer? false (numberOf base ds)
  return (x, r)

def numeric? (s : List Char) : Option (Scalar × List Char) :=
  match moment? s with
  | some r => some (.moment, r)
  | none =>
    match s with
    | '0' :: 'x' :: r => based? 16 r
    | '0' :: 'o' :: r => based? 8 r
    | '0' :: 'b' :: r => based? 2 r
    | s =>
      let (negative, r) := readSign s
      match r with
      | 'i' :: 'n' :: 'f' :: r => some (.floating (.infinite negative), r)
      | 'n' :: 'a' :: 'n' :: r => some (.floating .nan, r)
      | r => decimal? negative r

def scalar? (s : List Char) : Option (Scalar × List Char) :=
  match s with
  | [] => none
  | c :: _ =>
    if c == '\x22' || c == '\x27' then (quotedText? s).map fun (t, r) => (.text t, r)
    else if c == '+' || c == '-' || c.isDigit then numeric? s
    else
      match s with
      | 't' :: 'r' :: 'u' :: 'e' :: r => some (.boolean true, r)
      | 'f' :: 'a' :: 'l' :: 's' :: 'e' :: r => some (.boolean false, r)
      | 'i' :: 'n' :: 'f' :: r => some (.floating (.infinite false), r)
      | 'n' :: 'a' :: 'n' :: r => some (.floating .nan, r)
      | _ => none

end ReplicaHosting.Toml
