import IsolatedSite.Address.Socket
import IsolatedSite.Connection.Basic
import IsolatedSite.Connection.Ending
import IsolatedSite.Connection.Message
import IsolatedSite.Site.Access
import IsolatedSite.Site.Answer
import IsolatedSite.Site.Setup

namespace IsolatedSite

structure Service where
  site : Site
  settings : Settings
  deriving DecidableEq

structure Clock where
  now : Stamp
  micros : Nat
  deriving DecidableEq, Repr

namespace Clock

def date (c : Clock) : String := HttpDate.ofSeconds c.now.moment.seconds

end Clock

namespace Journal

def notice (j : Journal) (n : Notice) : Journal := j.report n.level (marked n.level n.message)

/-- What a request leaves in the log: the notices on the way to its answer, then its own line. -/
def answered (j : Journal) (s : Settings) (entry : AccessEntry) (notices : List Notice) : Journal :=
  let j := notices.foldl notice j
  if s.logging.accessLog then j.access entry (Site.lineFormat s) else j

end Journal

inductive Answered where
  | sent (message : Message)
  | cut (message : Message) (fault : Fault)
  | crashed
  deriving DecidableEq

namespace Service

def answer (service : Service) (clock : Clock) (peer : SocketAddress) (keepAlive : Bool)
    (req : Request) (j : Journal) : Journal × Answered :=
  match service.site.answer j.tree req with
  | .crashed => (j, .crashed)
  | .answered reply =>
    let entry := Site.accessEntry peer.ip.text clock.now clock.micros req reply.response
    let j := j.answered service.settings entry reply.notices
    let r := reply.response.isolated
    let body := r.body.transfer j.tree
    let message := Message.ofResponse clock.date req keepAlive r body.octets
    match body.fault with
    | none => (j, .sent message)
    | some fault => (j, .cut message fault)

structure Progress where
  journal : Journal
  messages : List Message
  outcome : Except Ending Connection

namespace Progress

def cons (m : Message) (p : Progress) : Progress := { p with messages := m :: p.messages }

end Progress

def refuse (clock : Clock) (j : Journal) (v : Version) (cause : HeadFault) : Progress :=
  ⟨j, (cause.status?.map (Message.refusal clock.date v)).toList, .error (.refused cause)⟩

def rest (j : Journal) (c : Connection) : Progress :=
  if c.intake.ended then ⟨j, [], .error (if c.isMidHead then .early else .served)⟩ else ⟨j, [], .ok c⟩

def send (service : Service) (clock : Clock) (peer : SocketAddress) (keepAlive : Bool)
    (req : Request) (j : Journal) (after : Option Connection)
    (goOn : Connection → Journal → Progress) : Progress :=
  match service.answer clock peer keepAlive req j with
  | (j, .crashed) => ⟨j, [], .error .crashed⟩
  | (j, .cut message fault) => ⟨j, [message], .error (.bodyFailed fault)⟩
  | (j, .sent message) =>
    match after with
    | some c => (goOn c j).cons message
    | none => ⟨j, [message], .error .served⟩

/-- Deals with the requests at hand, up to one that needs the tree. The others are answered before
their payload is passed over. Each request uses up octets, so that there are no more requests than
octets. -/
def advance (service : Service) (clock : Clock) (peer : SocketAddress) :
    Nat → Connection → Journal → Progress
  | 0, c, j => ⟨j, [], .ok c⟩
  | fuel + 1, c, j =>
    match c.due with
    | some due => if c.isForsaken due then ⟨j, [], .error .early⟩ else ⟨j, [], .ok c⟩
    | none =>
      match c.next (c.intake.size + 1) with
      | .wait c => rest j c
      | .broken cause => refuse clock j c.version cause
      | .request head c =>
        let passage := Passage.start head.framing head.waiting c.intake
        if passage.isForsaken then ⟨j, [], .error .early⟩
        else if service.site.needsTree head.request then
          advance service clock peer fuel (c.defer head.request passage) j
        else
          service.send clock peer c.keepAlive head.request j (c.afterAnswer passage)
            (advance service clock peer fuel)

def enough (c : Connection) : Nat := c.intake.size + 2

def complete (service : Service) (clock : Clock) (peer : SocketAddress) (c : Connection)
    (j : Journal) : Progress :=
  let goOn := service.advance clock peer (enough c)
  match c.due with
  | none => goOn c j
  | some due =>
    let after := if due.keepAlive && due.readable then some { c with due := none } else none
    service.send clock peer due.keepAlive due.request j after goOn

def places (service : Service) (req : Request) : List Bytes :=
  match Site.resolve service.site.root req.target.path with
  | .ok p => p :: Site.indexNames.map (Path.push p)
  | .error _ => []

end Service

end IsolatedSite
