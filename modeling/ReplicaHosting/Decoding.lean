import ReplicaHosting.Decimal.Shortest
import ReplicaHosting.Text.Quoted
/-!
What a decoder may find where it wanted something else, in words. The formats share the words but
not the spelling of floating-point numbers, which is therefore a parameter.
-/
namespace ReplicaHosting

inductive Found where
  | null
  | boolean (b : Bool)
  | integer (n : Int)
  | floating (x : Decimal.Double)
  | text (s : String)
  | sequence
  | map
  deriving DecidableEq, Repr, Inhabited

def Found.describe (number : Decimal.Double → String) : Found → String
  | null => "null"
  | boolean b => "boolean `" ++ (if b then "true" else "false") ++ "`"
  | integer n => "integer `" ++ toString n ++ "`"
  | floating x => "floating point `" ++ number x ++ "`"
  | text s => "string " ++ Text.quoted s
  | sequence => "sequence"
  | map => "map"

inductive Wanted where
  | text | boolean | sequence | descriptor | unit
  deriving DecidableEq, Repr, Inhabited

def Wanted.describe : Wanted → String
  | text => "a string"
  | boolean => "a boolean"
  | sequence => "a sequence"
  | descriptor => "struct RemoteResourceDescriptor"
  | unit => "unit"

def mismatchText (number : Decimal.Double → String) (found : Found) (wanted : Wanted) : String :=
  "invalid type: " ++ found.describe number ++ ", expected " ++ wanted.describe

def alternatives : List String → String
  | [] => "there are no variants"
  | [x] => "`" ++ x ++ "`"
  | [x, y] => "`" ++ x ++ "` or `" ++ y ++ "`"
  | xs => "one of " ++ String.intercalate ", " (xs.map fun x => "`" ++ x ++ "`")

def unknownVariantText (word : String) (variants : List String) : String :=
  "unknown variant `" ++ word ++ "`, expected " ++ alternatives variants

def unknownFieldText (word : String) (fields : List String) : String :=
  "unknown field `" ++ word ++ "`, expected " ++ alternatives fields

/-! ## Words -/

section

variable {α : Type} {all : List α} {word : α → String} {w : String} {x y : α}
  (self : ∀ x, (all.find? fun y => word y == word x) = some x)

include self

theorem find?_word_iff : (all.find? fun y => word y == w) = some x ↔ w = word x := by
  constructor
  · intro found
    have own := List.find?_some found
    exact (beq_iff_eq.mp own).symm
  · rintro rfl
    exact self x

theorem word_inj (same : word x = word y) : x = y := by
  have found := self x
  rw [same, self y] at found
  exact (Option.some.inj found).symm

theorem mem_words_iff : w ∈ all.map word ↔ ∃ x, (all.find? fun y => word y == w) = some x := by
  simp only [List.mem_map, find?_word_iff self]
  constructor
  · rintro ⟨x, -, rfl⟩
    exact ⟨x, rfl⟩
  · rintro ⟨x, rfl⟩
    exact ⟨x, List.mem_of_find?_eq_some (self x), rfl⟩

end

/-! ## Results -/

theorem toOption_eq_some_iff {ε α : Type} {x : Except ε α} {a : α} :
    x.toOption = some a ↔ x = .ok a := by
  cases x <;> simp [Except.toOption]

theorem eq_error_of_toOption {ε α : Type} {x : Except ε α} (h : x.toOption = none) :
    ∃ e, x = .error e := by
  cases x with
  | error e => exact ⟨e, rfl⟩
  | ok b => cases h

end ReplicaHosting
