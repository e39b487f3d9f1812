import MediaPerimeter.Net.Guard
import MediaPerimeter.Url.Reader
import MediaPerimeter.Url.Reference

/-!
# Requests to other services

Whatever URL a caller gives, and wherever an answer redirects to, only public addresses are dialed.
A host that is an address is checked before it is dialed. A host that is a name is looked up, the
answer is checked, and an address of that very answer is dialed, so a later answer for the name can
do no harm.
-/
namespace MediaPerimeter.Net.Egress

inductive RequestFault where
  /-- The request could not be put together; the URL is told if it is known. -/
  | building (url : Option Text)
  /-- The first URL of the call, whichever could not be reached. -/
  | sending (url : Text)
  /-- The URL whose answer redirected to where it must not lead. -/
  | following (url : Text)
deriving DecidableEq

def RequestFault.message : RequestFault → String
  | building none => "builder error"
  | building (some url) => s!"builder error for url ({String.ofList url})"
  | sending url => s!"error sending request for url ({String.ofList url})"
  | following url => s!"error following redirect for url ({String.ofList url})"

inductive Fault where
  | invalidUrl (reason : String)
  | unsafeDestination (address : UnsafeAddress)
  | dialTimeout
  | tooManyRedirects (max : Nat)
  | request (fault : RequestFault)
deriving DecidableEq

def Fault.message : Fault → String
  | invalidUrl reason => s!"invalid url: {reason}"
  | unsafeDestination u => u.message
  | dialTimeout => "dial timeout"
  | tooManyRedirects max => s!"too many redirects (max {max})"
  | request f => s!"request failed: {f.message}"

def checkUrl (u : Url) : Except Fault Unit :=
  if u.isWeb then
    match u.host with
    | none => .error (.invalidUrl "missing host")
    | some h =>
      match h.address?.map Address.check with
      | some (.error unsafeAddress) => .error (.unsafeDestination unsafeAddress)
      | _ => .ok ()
  else .error (.invalidUrl s!"unsupported scheme '{String.ofList u.scheme}'")

def readUrl (raw : Text) : Except Fault Url :=
  match Url.read raw with
  | .error f => .error (.invalidUrl f.message)
  | .ok u =>
    match checkUrl u with
    | .error f => .error f
    | .ok () => .ok u

def unescape? (t : Text) : Option Text := Utf8.decode? (Percent.decode (Utf8.encode t))

/-- Credentials that can be read are sent apart from the URL. -/
def withoutCredentials (u : Url) : Url :=
  match unescape? u.username with
  | none => u
  | some name =>
    if name ≠ [] ∨ (u.password.bind unescape?).isSome then
      { u with username := [], password := none }
    else u

def maxUrlLength : Nat := 65534

/-- A URL that can be sent: its text is not too long and its host has no quotes or braces. -/
def isSendable (u : Url) : Bool :=
  u.text.length ≤ maxUrlLength &&
    !u.host.any fun h => h.text.any fun c => c == '"' || c == '\x60' || c == '\x7b' || c == '\x7d'

/-- The addresses in the order in which they are dialed: those of the first one's family go first.
-/
def dialOrder : List Address → List Address
  | [] => []
  | a :: rest =>
    let (like, unlike) := rest.partition fun b => b.isV6 == a.isV6
    a :: like ++ unlike

def connect (n : Network) (port : Nat) : List Address → Action Bool
  | [] => return false
  | a :: rest => do
    if ← n.dial ⟨a, port⟩ then return true
    connect n port rest

inductive SendFault where
  | unsafeDestination (address : UnsafeAddress)
  | timeout
  | failed
deriving DecidableEq

def addressesOf (n : Network) (h : Url.Host) : Action (Except SendFault (List Address)) := do
  match h.address? with
  | some a => return .ok [a]
  | none =>
    match ← Guard.resolve n h.text with
    | .ok addresses => return .ok addresses
    | .error (.unsafeAddress u) => return .error (.unsafeDestination u)
    | .error _ => return .error .failed

def prepare (n : Network) (scheme : Text) : Action Handshake := do
  if scheme = "https".toList then n.secure else return .secured

def send (n : Network) (r : Request) : Action (Except SendFault Response) := do
  let (some host, some port) := (r.url.host, r.url.dialPort?) | return .error .failed
  match ← addressesOf n host with
  | .error f => return .error f
  | .ok addresses =>
    if ← connect n port (dialOrder addresses) then
      match ← prepare n r.url.scheme with
      | .refused => return .error .failed
      | .silence => return .error .timeout
      | .secured =>
        match ← n.ask r with
        | .response answer => return .ok answer
        | .silence => return .error .timeout
        | .hangUp => return .error .failed
    else return .error .failed

/-- How often a request may be redirected, its first URL counted as one. -/
def maxRedirects : Nat := 5

def isRedirect (status : Nat) : Bool := [301, 302, 303, 307, 308].contains status

def redirection? (r : Request) (answer : Response) : Option Text :=
  if isRedirect answer.status then do
    let reference ← Reference.read? (← answer.location)
    Reference.join? r.url reference
  else none

/-- The request that follows a redirect. Two statuses repeat the request; the others ask for the new
URL. -/
def redirected (r : Request) (status : Nat) (u : Url) : Request :=
  if status = 307 ∨ status = 308 then { r with url := u } else ⟨.get, u, none⟩

structure Answer where
  status : Nat
  url : Text
  body : Text
deriving DecidableEq

/-- The next URL, unless it must not be followed. -/
def checkHop (first : Text) (r : Request) (next : Text) : Except Fault Url :=
  match Url.read next with
  | .error _ => .error (.request (.building (some first)))
  | .ok u =>
    match checkUrl u with
    | .ok () => .ok u
    | .error (.unsafeDestination a) => .error (.unsafeDestination a)
    | .error _ => .error (.request (.following r.url.text))

/-- What is told of a redirect that is one too many; its URL is read before they are counted. -/
def unfollowed (first : Text) (r : Request) (next : Text) : RequestFault :=
  match Url.read next with
  | .error _ => .building (some first)
  | .ok _ => .following r.url.text

/-- Sends a request and follows at most `left` redirects; `first` is the URL of the call. -/
def follow (n : Network) (first : Text) (left : Nat) (r : Request) :
    Action (Except Fault Answer) := do
  match ← send n r with
  | .error (.unsafeDestination u) => return .error (.unsafeDestination u)
  | .error .timeout => return .error .dialTimeout
  | .error .failed => return .error (.request (.sending first))
  | .ok answer =>
    match redirection? r answer with
    | none => return .ok ⟨answer.status, r.url.text, answer.body⟩
    | some next =>
      match left with
      | 0 => return .error (.request (unfollowed first r next))
      | left + 1 =>
        match checkHop first r next with
        | .error f => return .error f
        | .ok u => follow n first left (redirected r answer.status u)

/-- Asks for a URL as a caller gives it. A fragment is not sent, and told of only if nothing
answers. -/
def call (n : Network) (method : Method) (body : Option Json) (raw : Text) :
    Action (Except Fault Answer) := do
  match readUrl raw with
  | .error f => return .error f
  | .ok u =>
    let u := withoutCredentials u
    if isSendable u then
      follow n u.text (maxRedirects - 1) ⟨method, { u with fragment := none }, body⟩
    else return .error (.request (.building (some u.text)))

def get (n : Network) (raw : Text) : Action (Except Fault Answer) := call n .get none raw

def post (n : Network) (raw : Text) (body : Json) : Action (Except Fault Answer) :=
  call n .post (some body) raw

end MediaPerimeter.Net.Egress
