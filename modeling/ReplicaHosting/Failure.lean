import ReplicaHosting.Text.Quoted
/-!
Failures of hosting. Collaborators report them and the node hands them on unchanged, so the kind
of a failure survives every layer it passes.
-/
namespace ReplicaHosting

/-- Why something about hosting failed. A platform and its protocol stack fail with codes of their
own. -/
inductive Failure where
  | platform (code : Int32) (detail : String)
  | invalidArgument (detail : String)
  | notAttached
  | other (detail : String)
  deriving DecidableEq, Repr, Inhabited

inductive FailureKind where
  | platform | invalidArgument | generic
  deriving DecidableEq, Repr, Inhabited

namespace Failure

/-- The kind of a failure; a missing platform is generic like any other failure. -/
def kind : Failure → FailureKind
  | platform _ _ => .platform
  | invalidArgument _ => .invalidArgument
  | notAttached | other _ => .generic

def code : Failure → String
  | platform _ _ => "hosting.platform"
  | invalidArgument _ => "hosting.invalid_argument"
  | notAttached => "hosting.not_attached"
  | other _ => "hosting.other"

def message : Failure → String
  | platform code detail => "platform failure (code " ++ toString code ++ "): " ++ detail
  | invalidArgument detail => "invalid argument: " ++ detail
  | notAttached => "hosting platform is not attached"
  | other detail => "hosting failure: " ++ detail

def display : Failure → String
  | platform code detail =>
    Text.record "Platform" [("code", toString code), ("detail", Text.quoted detail)]
  | invalidArgument detail => Text.record "InvalidArgument" [("detail", Text.quoted detail)]
  | notAttached => "NotAttached"
  | other detail => Text.record "Other" [("detail", Text.quoted detail)]

end Failure

def FailureKind.name : FailureKind → String
  | platform => "Platform"
  | invalidArgument => "InvalidArgument"
  | generic => "Generic"

end ReplicaHosting
