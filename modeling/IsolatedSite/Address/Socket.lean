import IsolatedSite.Address.Ip
import IsolatedSite.Fault.Basic

namespace IsolatedSite

structure SocketAddress where
  ip : IpAddress
  port : Nat
  deriving DecidableEq, Repr

namespace SocketAddress

def text (a : SocketAddress) : String :=
  if a.ip.isV6 then "[" ++ a.ip.text ++ "]:" ++ Decimal.text a.port
  else a.ip.text ++ ":" ++ Decimal.text a.port

def readPort? (cs : List Char) : Option Nat :=
  (Decimal.read? cs).bind fun n => if n ≤ 65535 then some n else none

/-- Six octets and more are in brackets; the zone after a percent sign is dropped. -/
def parse? (s : String) : Option SocketAddress :=
  match s.toList with
  | '[' :: rest =>
    match splitFirst ']' rest with
    | (inside, some (':' :: port)) =>
      match IpAddress.readV6? (splitFirst '%' inside).1, readPort? port with
      | some groups, some port => some ⟨.v6 groups, port⟩
      | _, _ => none
    | _ => none
  | cs =>
    match splitFirst ':' cs with
    | (host, some port) =>
      match IpAddress.readV4? host, readPort? port with
      | some octets, some port => some ⟨.v4 octets, port⟩
      | _, _ => none
    | _ => none

end SocketAddress

structure Listeners where
  taken : List SocketAddress := []
  deriving DecidableEq, Repr

namespace Listeners

def firstFreePort : Nat := 32768

def isTaken (l : Listeners) (a : SocketAddress) : Bool := l.taken.contains a

def freePort (l : Listeners) (ip : IpAddress) : Nat → Nat → Nat
  | 0, port => port
  | fuel + 1, port => if l.isTaken ⟨ip, port⟩ then freePort l ip fuel (port + 1) else port

def listen (l : Listeners) (a : SocketAddress) : Except Fault (Listeners × SocketAddress) :=
  let a :=
    if a.port = 0 then ⟨a.ip, l.freePort a.ip (l.taken.length + 1) firstFreePort⟩ else a
  if l.isTaken a then .error .addressInUse else .ok (⟨a :: l.taken⟩, a)

def release (l : Listeners) (a : SocketAddress) : Listeners := ⟨l.taken.erase a⟩

end Listeners

end IsolatedSite
