import ReplicaHosting.Telemetry
/-!
Runs of a process: installations, other global subscribers and closures under subscribers of their
own, in any order. What comes back is all that the callers ever learn.
-/
namespace ReplicaHosting.Telemetry

inductive Answer where
  | installed (refusal : Option InstallError)
  | foreign (accepted : Bool)
  | scoped
  deriving DecidableEq, Repr

namespace Reporting

def answer (p : Reporting) : Request → Answer
  | .install => .installed p.install.1
  | .foreign => .foreign p.setForeign.1
  | .scoped => .scoped

def run (p : Reporting) (requests : List Request) : Reporting := requests.foldl step p

def answers (p : Reporting) : List Request → List Answer
  | [] => []
  | x :: later => p.answer x :: (p.step x).answers later

end Reporting

/-! ## Subscribers of any kind

A request of somebody else is about the subscriber that lets nothing through. An attempt may be
about any subscriber, also about one with a filter of its own. -/

inductive Attempt where
  | install
  | offer (s : Subscriber)
  | scoped
  deriving DecidableEq, Repr

def Request.attempt : Request → Attempt
  | .install => .install
  | .foreign => .offer .foreign
  | .scoped => .scoped

def Answer.succeeded : Answer → Bool
  | .installed none | .foreign true => true
  | _ => false

namespace Reporting

def reply (p : Reporting) : Attempt → Answer
  | .install => .installed p.install.1
  | .offer s => .foreign (p.setGlobal s).1
  | .scoped => .scoped

def after (p : Reporting) : Attempt → Reporting
  | .install => p.install.2
  | .offer s => (p.setGlobal s).2
  | .scoped => p.runScoped

def afterAll (p : Reporting) (attempts : List Attempt) : Reporting := attempts.foldl after p

def replies (p : Reporting) : List Attempt → List Answer
  | [] => []
  | x :: later => p.reply x :: (p.after x).replies later

def offered (p : Reporting) : Attempt → Option Subscriber
  | .install => some (.own p.directives)
  | .offer s => some s
  | .scoped => none

end Reporting

end ReplicaHosting.Telemetry
