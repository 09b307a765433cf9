import IsolatedSite.Connection.Fault
import IsolatedSite.Log.Journal

namespace IsolatedSite

inductive Ending where
  | served
  | early
  | refused (cause : HeadFault)
  | headTimeout
  | timedOut (seconds : Nat)
  | bodyFailed (fault : Fault)
  | crashed
  deriving DecidableEq, Repr

namespace Ending

def failure (parts : String) : String := "hyper::Error(" ++ parts ++ ")"

def message? (peer : String) : Ending → Option (Level × String)
  | .served => none
  | .early =>
    some (.debug,
      "Connection from " ++ peer ++ " closed early: connection closed before message completed")
  | .refused cause =>
    some (.error, Journal.connectionFailedMessage (failure ("Parse(" ++ cause.name ++ ")")))
  | .headTimeout => some (.error, Journal.connectionFailedMessage (failure "HeaderTimeout"))
  | .timedOut seconds =>
    some (.warn,
      "Connection from " ++ peer ++ " timed out after " ++ Decimal.text seconds ++ " seconds")
  | .bodyFailed fault =>
    some (.error, Journal.connectionFailedMessage (failure
      ("User(Body), Custom \x7b kind: " ++ fault.kind.name ++ ", error: " ++
        Text.quoted fault.message ++ " \x7d")))
  | .crashed => none

end Ending

namespace Journal

def ended (j : Journal) (peer : String) (e : Ending) : Journal :=
  match e.message? peer with
  | some (level, message) => j.report level (marked level message)
  | none => j

end Journal

end IsolatedSite
