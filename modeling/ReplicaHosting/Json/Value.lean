/-!
JSON values and their compact text. Inside a text only the quote, the backslash and the controls
below 0x20 are escaped; everything else stands for itself.
-/
namespace ReplicaHosting.Json

/-- A JSON value. A number is `mantissa * 10 ^ exponent`; the members of an object keep the order
in which they are written. -/
inductive Value where
  | null
  | boolean (b : Bool)
  | number (mantissa exponent : Int)
  | text (s : String)
  | array (items : List Value)
  | object (members : List (String × Value))
  deriving Repr, Inhabited

def hexPair (n : Nat) : List Char :=
  [Nat.digitChar (n / 16), Nat.digitChar (n % 16)]

def escape (c : Char) : List Char :=
  if c == '\x22' || c == '\x5c' then ['\x5c', c]
  else if c.toNat == 8 then ['\x5c', 'b']
  else if c.toNat == 9 then ['\x5c', 't']
  else if c.toNat == 10 then ['\x5c', 'n']
  else if c.toNat == 12 then ['\x5c', 'f']
  else if c.toNat == 13 then ['\x5c', 'r']
  else if c.toNat < 0x20 then ['\x5c', 'u', '0', '0'] ++ hexPair c.toNat
  else [c]

def renderText (s : String) : List Char :=
  '\x22' :: s.toList.flatMap escape ++ ['\x22']

def renderBool (b : Bool) : List Char := (if b then "true" else "false").toList

def commaSeparated : List (List Char) → List Char
  | [] => []
  | [x] => x
  | x :: y :: rest => x ++ ',' :: commaSeparated (y :: rest)

def bracketed (items : List (List Char)) : List Char :=
  '[' :: commaSeparated items ++ [']']

def braced (members : List (List Char)) : List Char :=
  '\x7b' :: commaSeparated members ++ ['\x7d']

def renderMember (name : String) (value : List Char) : List Char :=
  renderText name ++ ':' :: value

def renderNumber (mantissa exponent : Int) : List Char :=
  (toString mantissa).toList ++
    (if exponent = 0 then [] else 'e' :: (toString exponent).toList)

mutual

def Value.render : Value → List Char
  | .null => "null".toList
  | .boolean b => renderBool b
  | .number m e => renderNumber m e
  | .text s => renderText s
  | .array items => bracketed (renderItems items)
  | .object members => braced (renderMembers members)

def renderItems : List Value → List (List Char)
  | [] => []
  | v :: rest => v.render :: renderItems rest

def renderMembers : List (String × Value) → List (List Char)
  | [] => []
  | (name, v) :: rest => renderMember name v.render :: renderMembers rest

end

end ReplicaHosting.Json
