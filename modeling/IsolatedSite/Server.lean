import IsolatedSite.Connection.Exchange
import IsolatedSite.Connection.Gate

namespace IsolatedSite

structure Link where
  connection : Connection
  inbox : Bytes := []
  hungUp : Bool := false
  deriving DecidableEq, Repr

structure Server where
  service : Service
  journal : Journal
  gate : Gate
  /-- The connections, the oldest first. -/
  links : List (SocketAddress × Link) := []
  /-- Clients that have done something, in the order in which they did. -/
  news : List SocketAddress := []
  /-- Clients whose turn comes next. -/
  queue : List SocketAddress := []
  deriving DecidableEq

structure Delivery where
  messages : List Message := []
  closed : Bool := false
  deriving DecidableEq

namespace Server

def start (service : Service) (j : Journal) : Server :=
  { service := service
    journal := j
    gate := .start service.settings.performance.maxConnections }

def link? (s : Server) (peer : SocketAddress) : Option Link := s.links.lookup peer

def connection? (s : Server) (peer : SocketAddress) : Option Connection :=
  (s.link? peer).map Link.connection

def modify (s : Server) (peer : SocketAddress) (f : Link → Link) : Server :=
  { s with links := s.links.map fun e => if e.1 = peer then (e.1, f e.2) else e }

/-- A connection that ends gives its place back, unless answering a request has crashed. -/
def close (s : Server) (peer : SocketAddress) (e : Ending) : Server :=
  { s with
    journal := s.journal.ended peer.text e
    gate := s.gate.step (if e = .crashed then .lose else .leave)
    links := s.links.filter fun l => l.1 != peer }

def rejectedMessage (found : Int) (limit : Nat) (peer : SocketAddress) : String :=
  "Max connections reached: " ++ Decimal.text found.toNat ++ "/" ++ Decimal.text limit ++
    ". Connection from " ++ peer.text ++ " rejected."

def accept (s : Server) (peer : SocketAddress) : Server :=
  { s with
    journal := s.journal.connectionAccepted peer.text
    gate := s.gate.step .accept
    links := s.links ++ [(peer, ⟨{ keepAlive := s.service.settings.performance.keepAlive }, [], false⟩)] }

def reject (s : Server) (peer : SocketAddress) (found : Int) (limit : Nat) : Server :=
  { s with
    journal := s.journal.warning (rejectedMessage found limit peer)
    gate := s.gate.step .refuse }

/-- A client connects. It is counted before it is known whether it may stay. -/
def connect (s : Server) (peer : SocketAddress) : Server × Delivery :=
  let found := s.gate.count
  let s := { s with gate := s.gate.step .arrive }
  match s.gate.limit with
  | some limit =>
    if s.gate.isFull found then (s.reject peer found limit, { closed := true })
    else (s.accept peer, {})
  | none => (s.accept peer, {})

def hear (s : Server) (peer : SocketAddress) (f : Link → Link) : Server :=
  if (s.link? peer).isNone || s.news.contains peer then s.modify peer f
  else { s.modify peer f with news := s.news ++ [peer] }

def deliver (s : Server) (peer : SocketAddress) (octets : Bytes) : Server :=
  if octets.isEmpty then s else s.hear peer fun l => { l with inbox := l.inbox ++ octets }

def hangUp (s : Server) (peer : SocketAddress) : Server :=
  s.hear peer fun l => { l with hungUp := true }

/-- Whether a client has hung up is known as of now, even if it is served later. -/
def markEnd (l : Link) : Link :=
  { l with connection.intake.ended := l.connection.intake.ended || l.hungUp }

def notice (s : Server) : Server :=
  { s.news.foldl (fun s peer => s.modify peer markEnd) s with
    news := []
    queue := s.queue ++ s.news.filter fun peer => !s.queue.contains peer }

def progressed (s : Server) (peer : SocketAddress) (p : Service.Progress) : Server × Delivery :=
  let s := { s with journal := p.journal }
  match p.outcome with
  | .ok c => (s.modify peer fun l => { l with connection := c }, { messages := p.messages })
  | .error e => (s.close peer e, { messages := p.messages, closed := true })

def serve (s : Server) (clock : Clock) (peer : SocketAddress) : Server × Delivery :=
  match s.link? peer with
  | none => (s, { closed := true })
  | some l =>
    let c := l.connection.receive l.inbox
    let s := s.modify peer fun l => { l with inbox := [] }
    s.progressed peer (s.service.advance clock peer (Service.enough c) c s.journal)

def work (s : Server) (clock : Clock) (peer : SocketAddress) : Server × Delivery :=
  match s.connection? peer with
  | none => (s, { closed := true })
  | some c => s.progressed peer (s.service.complete clock peer c s.journal)

def each (s : Server) (f : Server → SocketAddress → Server × Delivery) :
    List SocketAddress → Server × List (SocketAddress × Delivery)
  | [] => (s, [])
  | peer :: rest =>
    let (s, d) := f s peer
    let (s, ds) := s.each f rest
    (s, (peer, d) :: ds)

def turn (s : Server) (clock : Clock) : Server × List (SocketAddress × Delivery) :=
  { s with queue := [] }.each (fun s => s.serve clock) s.queue

def waiting (s : Server) : List SocketAddress :=
  (s.links.filter fun e => e.2.connection.due.isSome).map Prod.fst

def workAll (s : Server) (clock : Clock) : Server × List (SocketAddress × Delivery) :=
  s.each (fun s => s.work clock) s.waiting

/-- How a client that stays silent is ended. Of two equal limits the one for the head is noticed
first. -/
def silentEnding (s : Settings) : Option (Nat × Ending) :=
  match s.performance.headerReadTimeout, s.performance.connectionTimeout with
  | none, none => none
  | some h, none => some (h, .headTimeout)
  | none, some c => some (c, .timedOut c)
  | some h, some c => if h ≤ c then some (h, .headTimeout) else some (c, .timedOut c)

/-- A client stays silent until its time is over, if it ever is, and so do those that came before
it. -/
def wait (s : Server) (peer : SocketAddress) : Server × List (SocketAddress × Delivery) :=
  match silentEnding s.service.settings with
  | some (_, e) =>
    let before := (s.links.map Prod.fst).takeWhile (· != peer)
    s.each (fun s p => (s.close p e, { closed := true })) (before ++ [peer])
  | none => (s, [])

def acceptFailed (s : Server) (fault : Fault) : Server :=
  { s with journal := s.journal.error ("Failed to accept connection: " ++ fault.message) }

def stop (s : Server) : Server :=
  { s with journal := s.journal.shutdown "Shutdown signal received" }

end Server

end IsolatedSite
