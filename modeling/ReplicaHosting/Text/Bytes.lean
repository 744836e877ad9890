/-!
Places in a text, counted in the bytes that the text takes in UTF-8. A character takes one to four
bytes, so a place may be inside of a character; nothing is cut there.
-/
namespace ReplicaHosting.Text

def byteLength : List Char → Nat
  | [] => 0
  | c :: s => c.utf8Size + byteLength s

/-- What is behind a number of bytes, unless they end inside of a character. -/
def behind? : Nat → List Char → Option (List Char)
  | 0, s => some s
  | _ + 1, [] => none
  | n + 1, c :: s => if c.utf8Size ≤ n + 1 then behind? (n + 1 - c.utf8Size) s else none

def within? : Nat → List Char → Option (List Char)
  | 0, _ => some []
  | _ + 1, [] => none
  | n + 1, c :: s =>
    if c.utf8Size ≤ n + 1 then (within? (n + 1 - c.utf8Size) s).map (c :: ·) else none

def cut? (s : List Char) (first last : Nat) : Option (List Char) :=
  (behind? first s).bind (within? (last - first))

end ReplicaHosting.Text
