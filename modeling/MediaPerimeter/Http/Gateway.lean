import MediaPerimeter.Http.Cause
import MediaPerimeter.Http.Input
import MediaPerimeter.Http.Response
import MediaPerimeter.Http.Route
import MediaPerimeter.Settings.Basic

/-!
# The gateway

A request passes the limit on bodies first, then, on a protected path and on any path that there is
not, the check of the credential, and only then does its method count. So a caller without a
credential learns nothing of the paths behind it.
-/
namespace MediaPerimeter.Http

structure Service where
  settings : Settings
  environment : Environment
  files : FileSystem
  network : Net.Network

namespace Service

def recordExtensions : List Text := ["ts", "m3u8", "m4s", "mp4"].map String.toList

def voiceExtensions : List Text :=
  ["aac", "mp3", "wav", "ogg", "opus", "m4a"].map String.toList

def records (s : Service) : ServedDirectory := .make s.settings.recordDir recordExtensions

def voices (s : Service) : ServedDirectory := .make s.settings.voicesDir voiceExtensions

def fail (s : Service) (f : Failure) : Response := f.response s.environment.isProduction

def answer {ε α : Type} (s : Service) (failure : ε → Failure) (response : α → Response) :
    Except ε α → Response
  | .ok a => response a
  | .error f => s.fail (failure f)

def withParameter (name : String) (t : Text) (next : Text → Response) : Response :=
  match Utf8.decode? (Percent.decode (Utf8.encode t)) with
  | some t => next t
  | none => .plain 400 s!"Invalid URL: Invalid UTF-8 in `{name}`"

def file (s : Service) (directory : ServedDirectory) (segment : Text) : Response :=
  s.answer ServedFile.Fault.failure (fun f => .ofFile f.mediaType f.bytes)
    (directory.read s.files segment)

def recordSegment (s : Service) (session name : Text) : Response :=
  withParameter "session_id" session fun session =>
    withParameter "file" name fun name => s.file s.records (session ++ '/' :: name)

def helloVoice (s : Service) (name : Text) : Response :=
  withParameter "file" name (s.file s.voices)

/-- Whether a request comes with a credential; `elsewhere` is one outside the headers. -/
def authenticate (s : Service) (elsewhere : Option Text) (now : Instant) (r : Request) :
    Except Credential.Fault Unit :=
  Credential.authenticate s.settings.apiSecret elsewhere (r.values "authorization") now.secs

def checkCaller (s : Service) (now : Instant) (r : Request) : Except Credential.Fault Unit :=
  s.authenticate (Form.single? "token" r.query) now r

def logIn (s : Service) (now : Instant) (random : BitVec 128) (password : Text) :
    Except Failure Token.Issued := do
  let some expected := s.settings.password | throw (.unauthorized "login is disabled")
  if !Credential.sameText password expected then throw (.unauthorized "invalid password")
  if s.settings.apiSecret = [] then throw Credential.Fault.noSecretConfigured.failure
  let some lifetime := s.settings.tokenLifetime?
    | throw (.internal "TOKEN_TTL_HOURS is out of range")
  (Token.issue s.settings.apiSecret lifetime now random).mapError Token.Fault.failure

def done : Response := .ofJson 200 (.object [])

def login (s : Service) (now : Instant) (random : BitVec 128) (r : Request) :
    Except Failure Response := do
  let password ← (Input.password r).mapError Input.Fault.failure
  return .ofToken (← s.logIn now random password)

def checkToken (s : Service) (now : Instant) (r : Request) : Except Failure Response := do
  let token ← (Input.token r).mapError Input.Fault.failure
  (s.authenticate (some token) now r).mapError Credential.Fault.failure
  return done

def checkTarget (r : Request) : Except Failure Response := do
  let server ← (Input.server r).mapError Input.Fault.failure
  (Target.validate server).mapError Target.Fault.failure
  let url ← (StreamUrl.rebuild server).mapError StreamUrl.Fault.failure
  return .ofJson 200 (.record [("target", .string url.text)])

def checkCallback (s : Service) (r : Request) : Net.Action Response := do
  match Input.callbackUrl r with
  | .error f => return s.fail f.failure
  | .ok url =>
    return s.answer Callback.Fault.failure (fun _ => done) (← Callback.check s.network url)

def testCallback (s : Service) (now : Instant) (random : BitVec 128) (r : Request) :
    Net.Action Response := do
  match Input.callbackUrl r with
  | .error f => return s.fail f.failure
  | .ok url =>
    let delivered ← Callback.deliver s.network url (.test now random)
    return s.answer Callback.Delivery.Fault.failure
      (fun status => .ofJson 200 (.record [("status", .int status)])) delivered

def perform (s : Service) (now : Instant) (random : BitVec 128) (r : Request) :
    Route → Net.Action Response
  | .health => return .ofJson 200 (.record [("status", .ofString "ok")])
  | .recordSegment session name => return s.recordSegment session name
  | .helloVoice name => return s.helloVoice name
  | .login => return s.answer id id (s.login now random r)
  | .token => return s.answer id id (s.checkToken now r)
  | .targetCheck => return s.answer id id (checkTarget r)
  | .callbackCheck => s.checkCallback r
  | .callbackTest => s.testCallback now random r

def dispatch (s : Service) (now : Instant) (random : BitVec 128) (r : Request) :
    Option Route → Net.Action Response
  | none => return { status := 404 }
  | some route =>
    if route.hasMethod r.method then s.perform now random r route
    else return { status := 405 }

/-- A path that is not there is protected too. -/
def needsCredential : Option Route → Bool
  | none => true
  | some route => route.isProtected

def respond (s : Service) (now : Instant) (random : BitVec 128) (r : Request)
    (route : Option Route) : Net.Action Response :=
  if r.isTooLong then return .plain 413 "length limit exceeded"
  else if needsCredential route then
    match s.checkCaller now r with
    | .error f => return s.fail f.failure
    | .ok () => s.dispatch now random r route
  else s.dispatch now random r route

/-- Where a path has other methods, they are told; the answer for a head has no body. -/
def finish (r : Request) (route : Option Route) (response : Response) : Response :=
  let told := match route with
    | some route =>
      if route.hasMethod r.method then response else { response with allow := some route.allow }
    | none => response
  if r.isHead then { told with body := .empty } else told

def handle (s : Service) (now : Instant) (random : BitVec 128) (r : Request) :
    Net.Action Response := do
  let route := Route.ofPath? r.path
  return finish r route (← s.respond now random r route)

end Service
end MediaPerimeter.Http
