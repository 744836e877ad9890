/-!
White space as Unicode has it: the characters with the property `White_Space`, 25 in all.
A text of such characters only counts as empty wherever a value has to say something.
-/
namespace ReplicaHosting.Text

/-- Whether a character has the property `White_Space`. -/
def isBlank (c : Char) : Bool :=
  let n := c.toNat
  (9 ≤ n && n ≤ 13) || n == 0x20 || n == 0x85 || n == 0xa0 || n == 0x1680 ||
    (0x2000 ≤ n && n ≤ 0x200a) || n == 0x2028 || n == 0x2029 || n == 0x202f || n == 0x205f ||
    n == 0x3000

def isVoid (s : String) : Bool := s.toList.all isBlank

theorem isVoid_eq_false_iff {s : String} :
    isVoid s = false ↔ ∃ c ∈ s.toList, isBlank c = false := by
  simp [isVoid]

end ReplicaHosting.Text
