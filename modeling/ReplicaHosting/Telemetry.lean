import ReplicaHosting.Telemetry.Filter
/-!
Where reports go. A process has one global subscriber, and whoever sets it first keeps the place
for good. Besides that the process only knows whether any subscriber has ever been set, be it
globally or for the time of one closure.
-/
namespace ReplicaHosting.Telemetry

/-- The subscriber that is installed here, with its filter, or one of somebody else, which lets
nothing through. -/
inductive Subscriber where
  | own (filter : List Directive)
  | foreign
  deriving DecidableEq, Repr

/-- What a process knows about subscribers: the filter of the environment, the global one, whether
any has been set at some time, and whether the installation has been completed. -/
structure Reporting where
  filter : Option String := none
  global : Option Subscriber := none
  everSet : Bool := false
  installed : Bool := false
  deriving DecidableEq, Repr

/-- An installation is refused if the place was taken between the look and the move. -/
inductive InstallError where
  | alreadyInstalled
  | subscriberAlreadySet
  | refused
  deriving DecidableEq, Repr

namespace InstallError

def name : InstallError → String
  | alreadyInstalled => "AlreadyInstalled"
  | subscriberAlreadySet => "SubscriberAlreadySet"
  | refused => "SetGlobalSubscriber"

def message : InstallError → String
  | alreadyInstalled => "hosting telemetry is already installed"
  | subscriberAlreadySet => "a global tracing subscriber is already set"
  | refused =>
    "failed to set global tracing subscriber: " ++
      "a global default trace dispatcher has already been set"

end InstallError

namespace Reporting

/-- The directives in force: those of the environment, and only the level of information if there
are none or they cannot be read. -/
def directives (p : Reporting) : List Directive :=
  (p.filter.bind directives?).getD [⟨none, Level.info.rank, none⟩]

/-- Sets the global subscriber if the place is free, and says whether it was. -/
def setGlobal (s : Subscriber) (p : Reporting) : Bool × Reporting :=
  if p.global.isSome then (false, p)
  else (true, { p with global := some s, everSet := true })

def install (p : Reporting) : Option InstallError × Reporting :=
  if p.installed then (some .alreadyInstalled, p)
  else if p.everSet then (some .subscriberAlreadySet, p)
  else
    match p.setGlobal (.own p.directives) with
    | (false, p) => (some .refused, p)
    | (true, p) => (none, { p with installed := true })

def setForeign (p : Reporting) : Bool × Reporting := p.setGlobal .foreign

def runScoped (p : Reporting) : Reporting := { p with everSet := true }

/-- The levels that get through to the global subscriber from a target. -/
def levels (target : String) (p : Reporting) : List Level :=
  match p.global with
  | some (.own filter) => Level.all.filter fun l => l.rank ≤ rankFor target filter
  | _ => []

end Reporting

inductive Request where
  | install | foreign | scoped
  deriving DecidableEq, Repr

def Reporting.step (p : Reporting) : Request → Reporting
  | .install => p.install.2
  | .foreign => p.setForeign.2
  | .scoped => p.runScoped

end ReplicaHosting.Telemetry
