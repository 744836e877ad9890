import ReplicaHosting.Toml.Document
/-!
Documents of one shape: lines that give a text to a bare key. A text may be written in more than one
way, since every character has a number and some have a letter besides.
-/
namespace ReplicaHosting.Toml

def letters : List (Char × Char) :=
  [('b', Char.ofNat 8), ('t', Char.ofNat 9), ('n', Char.ofNat 10), ('f', Char.ofNat 12),
   ('r', Char.ofNat 13), ('\x22', '\x22'), ('\x5c', '\x5c')]

def Numbers (ds : List Char) (c : Char) : Prop :=
  ds.all (isDigitIn 16) = true ∧ numberOf 16 ds = c.toNat

inductive Writes (c : Char) : List Char → Prop where
  | plain (visible : isVisible c = true) (unquoted : c ≠ '\x22') (unslashed : c ≠ '\x5c') :
      Writes c [c]
  | lettered (e : Char) (letter : (e, c) ∈ letters) : Writes c ['\x5c', e]
  | short (ds : List Char) (four : ds.length = 4) (number : Numbers ds c) :
      Writes c ('\x5c' :: 'u' :: ds)
  | long (ds : List Char) (eight : ds.length = 8) (number : Numbers ds c) :
      Writes c ('\x5c' :: 'U' :: ds)

inductive WritesAll : List Char → List Char → Prop where
  | nil : WritesAll [] []
  | cons {c : Char} {cs w ws : List Char} (first : Writes c w) (rest : WritesAll cs ws) :
      WritesAll (c :: cs) (w ++ ws)

/-- A line that gives a text to a bare key. The text is there as it stands between the quotes as
well; a line break may begin with a carriage return. -/
structure Line where
  key : String
  value : String
  written : List Char
  carriage : Bool
  named : key ≠ ""
  bare : ∀ c ∈ key.toList, isBareKey c = true
  writes : WritesAll value.toList written

namespace Line

def text (l : Line) : List Char :=
  l.key.toList ++ " = \x22".toList ++ l.written ++ ['\x22']

def lineBreak (l : Line) : List Char := if l.carriage then ['\r', '\n'] else ['\n']

end Line

/-- The text of a document; behind its last line there may be a line break or not. -/
def linesText (ended : Bool) : List Line → List Char
  | [] => []
  | [l] => l.text ++ if ended then l.lineBreak else []
  | l :: m :: ls => l.text ++ (l.lineBreak ++ linesText ended (m :: ls))

/-! ## Every text can be written -/

def fourDigits (n : Nat) : List Char :=
  ['0', '0', Nat.digitChar (n / 16), Nat.digitChar (n % 16)]

/-- A character as it is, if it may stand so, else by its letter, else by its number. -/
def writeChar (c : Char) : List Char :=
  match letters.find? fun x => x.2 == c with
  | some (e, _) => ['\x5c', e]
  | none =>
    if isVisible c then [c] else '\x5c' :: 'u' :: fourDigits c.toNat

theorem numberOf_fourDigits : ∀ n < 0x80,
    (fourDigits n).all (isDigitIn 16) = true ∧ numberOf 16 (fourDigits n) = n := by
  decide

theorem writes_writeChar (c : Char) : Writes c (writeChar c) := by
  unfold writeChar
  cases found : letters.find? fun x => x.2 == c with
  | some x =>
    have own := List.find?_some found
    rw [← beq_iff_eq.mp own]
    exact .lettered x.1 (List.mem_of_find?_eq_some found)
  | none =>
    have unlettered := List.find?_eq_none.mp found
    dsimp only
    split
    · rename_i visible
      refine .plain visible ?_ ?_
      · rintro rfl
        exact unlettered ('\x22', '\x22') (by decide) rfl
      · rintro rfl
        exact unlettered ('\x5c', '\x5c') (by decide) rfl
    · rename_i hidden
      have small : c.toNat < 0x80 := by
        simp only [isVisible, Bool.or_eq_true, Bool.and_eq_true, decide_eq_true_eq, bne_iff_ne,
          not_or, not_and] at hidden
        omega
      exact .short _ rfl (numberOf_fourDigits c.toNat small)

theorem writesAll_flatMap (cs : List Char) : WritesAll cs (cs.flatMap writeChar) := by
  induction cs with
  | nil => exact .nil
  | cons c cs ih => exact .cons (writes_writeChar c) ih

/-- The line in which everything is written as plainly as it can be. -/
def Line.plain (key value : String) (named : key ≠ "")
    (bare : ∀ c ∈ key.toList, isBareKey c = true) : Line :=
  { key, value, written := value.toList.flatMap writeChar, carriage := false, named, bare
    writes := writesAll_flatMap value.toList }

end ReplicaHosting.Toml
