import ReplicaHosting.Config
import ReplicaHosting.Decoding
import ReplicaHosting.Text.Bytes
import ReplicaHosting.Toml.Document
/-!
Configurations as TOML documents. The five fields may be given in any order, and one left out has
its default; no other key is allowed. The document is read as a whole before any field is looked
at, then the fields are taken in the order of the document and the first one that is wrong is
reported with the line it stands in.
-/
namespace ReplicaHosting

open Toml (Item Key Stretch Table)

namespace Config

inductive Field where
  | presenceAddress | discoveryUri | resourceType | connectivity | dedupPolicy
  deriving DecidableEq, Repr

namespace Field

def all : List Field := [presenceAddress, discoveryUri, resourceType, connectivity, dedupPolicy]

def key : Field → String
  | presenceAddress => "presence_address"
  | discoveryUri => "discovery_uri"
  | resourceType => "resource_type"
  | connectivity => "connectivity"
  | dedupPolicy => "dedup_policy"

def ofKey? (k : String) : Option Field := all.find? fun f => f.key == k

end Field

def found : Item → Found
  | .scalar (.text s) _ => .text s
  | .scalar (.integer n) _ => .integer n
  | .scalar (.floating x) _ => .floating x
  | .scalar (.boolean b) _ => .boolean b
  | .scalar .moment _ => .map
  | .array _ _ => .sequence
  | .inline _ => .map
  | .table _ => .map
  | .tables _ _ => .sequence

def kindOf : Item → String
  | .scalar (.text _) _ => "string"
  | .scalar (.integer _) _ => "integer"
  | .scalar (.floating _) _ => "float"
  | .scalar (.boolean _) _ => "boolean"
  | .scalar .moment _ => "datetime"
  | .array _ _ => "array"
  | .inline _ => "inline table"
  | .table _ => "table"
  | .tables _ _ => "array of tables"

/-- A value can stand for no variant, or what stands with a variant is neither table nor list, or a
table or list that is not empty; the names tell the rest. -/
inductive Problem where
  | unknownField (name : String)
  | notText (found : Found)
  | unknownVariant (word : String) (variants : List String)
  | notVariant
  | noVariant
  | severalVariants
  | payload (kind : String)
  | fullTable
  | fullTables
  deriving DecidableEq, Repr

def Problem.message : Problem → String
  | unknownField name => unknownFieldText name (Field.all.map Field.key)
  | notText found => mismatchText Decimal.Double.positional found .text
  | unknownVariant word variants => unknownVariantText word variants
  | notVariant => "wanted string or table"
  | noVariant => "wanted exactly 1 element, found 0 elements"
  | severalVariants => "wanted exactly 1 element, more than 1 element"
  | payload kind => "expected table, found " ++ kind
  | fullTable => "expected empty table"
  | fullTables => "expected empty array"

structure Complaint where
  place : Stretch
  problem : Problem
  deriving DecidableEq, Repr

/-- Where a complaint about an item points: at the item, or at its key if the item has no place of
its own. -/
def placeOf (key : Key) (item : Item) : Stretch := item.place?.getD key.place

def text (key : Key) : Item → Except Complaint String
  | .scalar (.text s) _ => .ok s
  | item => .error ⟨placeOf key item, .notText (found item)⟩

/-- What is wrong with the value of a variant that stands alone as a key: it may be an empty table
or list only. -/
def payloadProblem? : Item → Option Problem
  | .array [] _ => none
  | .array _ _ => some .fullTable
  | .inline t => if t.entries.isEmpty then none else some .fullTable
  | .table t => if t.entries.isEmpty then none else some .fullTable
  | .tables [] _ => none
  | .tables _ _ => some .fullTables
  | item => some (.payload (kindOf item))

def variantOfTable {α : Type} (words : List String) (ofWord? : String → Option α) (place : Stretch)
    (t : Table Item) : Except Complaint α :=
  match t.entries with
  | [] => .error ⟨place, .noVariant⟩
  | [(key, item)] =>
    match ofWord? key.name with
    | none => .error ⟨key.place, .unknownVariant key.name words⟩
    | some v =>
      match payloadProblem? item with
      | none => .ok v
      | some problem => .error ⟨item.place?.getD place, problem⟩
  | _ => .error ⟨place, .severalVariants⟩

def variant {α : Type} (words : List String) (ofWord? : String → Option α) (key : Key)
    (item : Item) : Except Complaint α :=
  let place := placeOf key item
  match item with
  | .scalar (.text w) _ =>
    match ofWord? w with
    | none => .error ⟨place, .unknownVariant w words⟩
    | some v => .ok v
  | .inline t => variantOfTable words ofWord? place t
  | .table t => variantOfTable words ofWord? place t
  | _ => .error ⟨place, .notVariant⟩

def set (c : Config) (key : Key) (item : Item) : Except Complaint Config :=
  match Field.ofKey? key.name with
  | none => .error ⟨key.place, .unknownField key.name⟩
  | some .presenceAddress => (text key item).map fun v => { c with presenceAddress := v }
  | some .discoveryUri => (text key item).map fun v => { c with discoveryUri := v }
  | some .resourceType => (text key item).map fun v => { c with resourceType := v }
  | some .connectivity =>
    (variant (Connectivity.all.map Connectivity.word) Connectivity.ofWord? key item).map
      fun v => { c with connectivity := v }
  | some .dedupPolicy =>
    (variant (DedupPolicy.all.map DedupPolicy.word) DedupPolicy.ofWord? key item).map
      fun v => { c with dedupPolicy := v }

def ofTable (t : Table Item) : Except Complaint Config :=
  t.entries.foldlM (fun c (key, item) => c.set key item) {}

/-- A complaint with the line that it is about: the line's number and text, and marks under the
stretch, one for each of its bytes as far as the line goes. -/
def Complaint.render (text : List Char) (x : Complaint) : String :=
  let before := text.take (text.length - x.place.start)
  let number := toString (before.count '\n' + 1)
  let column := (before.reverse.takeWhile (· != '\n')).length
  let line := before.drop (before.length - column) ++
    (text.drop before.length).takeWhile (· != '\n')
  let size := Text.byteLength ((text.drop before.length).take (x.place.start - x.place.stop))
  let marks := max 1 (min size (Text.byteLength line - column))
  let margin := "".pushn ' ' number.length
  "TOML parse error at line " ++ number ++ ", column " ++ toString (column + 1) ++ "\n" ++
    margin ++ " |\n" ++
    number ++ " | " ++ String.ofList line ++ "\n" ++
    margin ++ " | " ++ "".pushn ' ' column ++ "".pushn '^' marks ++ "\n" ++
    x.problem.message ++ "\n"

def badDocument : String := "TOML parse error"

def ofToml (document : String) : Except Failure Config :=
  let refuse (what : String) : Except Failure Config :=
    .error (.invalidArgument ("hosting config: " ++ what))
  match Toml.parse? document.toList with
  | none => refuse badDocument
  | some t =>
    match ofTable t with
    | .error x => refuse (x.render document.toList)
    | .ok c => c.validate.map fun _ => c

end Config

end ReplicaHosting
