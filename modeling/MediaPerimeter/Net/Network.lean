import MediaPerimeter.Address.Reader
import MediaPerimeter.Json.Basic
import MediaPerimeter.Url.Basic

/-!
# The network

The world outside as a run of the service meets it, and a log of what the service does there.
Nothing is assumed of the world: a name may have another answer at every lookup, any address may
refuse to be dialed, a connection that has to be secured may fail, and what comes back for a request
is up to the other side.
-/
namespace MediaPerimeter.Net

inductive Method where
  | get
  | post
deriving DecidableEq

def Method.name : Method → String
  | get => "GET"
  | post => "POST"

structure Request where
  method : Method
  url : Url
  body : Option Json

structure Response where
  status : Nat
  location : Option Text
  body : Text
deriving DecidableEq

inductive Reply where
  | response (r : Response)
  /-- Nothing within the time allowed. -/
  | silence
  /-- The connection is closed without an answer. -/
  | hangUp
deriving DecidableEq

inductive Handshake where
  | secured
  /-- Nothing within the time allowed. -/
  | silence
  | refused
deriving DecidableEq

/-- What a lookup is told: the addresses of the name, or why there are none, in the words of the
system. -/
abbrev Told := Except String (List Address)

structure Network where
  /-- What is told of a name that has been looked up so many times before. -/
  addresses : Text → Nat → Told
  accepts : Address → Bool
  /-- What comes of securing the connection after so many dials. -/
  secures : Nat → Handshake
  /-- What comes back for a request after so many others. -/
  reply : Nat → Reply

inductive Event where
  | lookup (name : Text) (told : Told)
  | dial (endpoint : Endpoint)
  | request (r : Request)

abbrev Log := List Event

namespace Log

def lookups (log : Log) (name : Text) : Nat :=
  log.countP fun
    | .lookup n _ => n == name
    | _ => false

def dials (log : Log) : List Endpoint :=
  log.filterMap fun
    | .dial e => some e
    | _ => none

def requests (log : Log) : List Request :=
  log.filterMap fun
    | .request r => some r
    | _ => none

end Log

abbrev Action (α : Type) := StateM Log α

namespace Network

/-- The addresses of a name. The text of an address is its own answer and is not looked up. -/
def lookup (n : Network) (name : Text) : Action Told := do
  match Address.ofText? name with
  | some a => return .ok [a]
  | none =>
    let told := n.addresses name ((← get).lookups name)
    modify (· ++ [.lookup name told])
    return told

def dial (n : Network) (endpoint : Endpoint) : Action Bool := do
  modify (· ++ [.dial endpoint])
  return n.accepts endpoint.address

/-- Secures the connection that was dialed last. -/
def secure (n : Network) : Action Handshake := return n.secures (← get).dials.length

def ask (n : Network) (r : Request) : Action Reply := do
  let reply := n.reply (← get).requests.length
  modify (· ++ [.request r])
  return reply

end Network
end MediaPerimeter.Net
