import ReplicaHosting.Text.Hidden
/-!
Values written out for a reader: a text between quotes with whatever cannot be seen spelled out,
an optional value, and a record with its fields by name.
-/
namespace ReplicaHosting.Text

/-- A character by its number, in lower-case hexadecimal without leading zeros. -/
def byNumber (c : Char) : List Char :=
  "\\u\x7b".toList ++ Nat.toDigits 16 c.toNat ++ "\x7d".toList

def spell (c : Char) : List Char :=
  if c.toNat == 0 then "\\0".toList
  else if c.toNat == 9 then "\\t".toList
  else if c.toNat == 10 then "\\n".toList
  else if c.toNat == 13 then "\\r".toList
  else if c == '\x22' || c == '\x5c' then ['\x5c', c]
  else if c.toNat < 0x20 || c.toNat == 0x7f then byNumber c
  else if c.toNat < 0x80 then [c]
  else if isHidden c then byNumber c
  else [c]

def quoted (s : String) : String :=
  String.ofList ('\x22' :: s.toList.flatMap spell ++ ['\x22'])

def optional : Option String → String
  | none => "None"
  | some s => "Some(" ++ s ++ ")"

def record (name : String) (fields : List (String × String)) : String :=
  name ++ " \x7b " ++ String.intercalate ", " (fields.map fun (f, v) => f ++ ": " ++ v) ++ " \x7d"

end ReplicaHosting.Text
