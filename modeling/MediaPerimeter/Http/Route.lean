import MediaPerimeter.Text.Percent

/-!
# Routes

The paths of the service. A path is divided at its slashes before anything in it is unescaped, so an
escaped slash belongs to a parameter. The last parameter of a path is not empty.
-/
namespace MediaPerimeter.Http

inductive Route where
  | health
  | recordSegment (session file : Text)
  | helloVoice (file : Text)
  | login
  | token
  | targetCheck
  | callbackCheck
  | callbackTest
deriving DecidableEq

namespace Route

def base : List String := ["", "terraform", "v1"]

def healthPath : List String := ["", "health"]

def recordPath : List String := base ++ ["hooks", "record", "hls"]

def voicePath : List String := base ++ ["ai-talk", "stage", "hello-voices"]

def plainRoutes : List (List String × Route) := [
  (healthPath, health),
  (base ++ ["mgmt", "login"], login),
  (base ++ ["mgmt", "token"], token),
  (base ++ ["ffmpeg", "targets", "check"], targetCheck),
  (base ++ ["hooks", "callback", "check"], callbackCheck),
  (base ++ ["hooks", "callback", "test"], callbackTest)]

def below? (start : List String) (segments : List Text) : Option (List Text) :=
  let start := start.map String.toList
  if start <+: segments then some (segments.drop start.length) else none

def ofSegments? (segments : List Text) : Option Route :=
  match plainRoutes.find? fun r => r.1.map String.toList == segments with
  | some r => some r.2
  | none =>
    match below? recordPath segments, below? voicePath segments with
    | some [session, file], _ => if file = [] then none else some (.recordSegment session file)
    | _, some [file] => if file = [] then none else some (.helloVoice file)
    | _, _ => none

/-- The route of a path; its parameters are still escaped. -/
def ofPath? (path : Text) : Option Route := ofSegments? (path.split '/')

def isAsked : Route → Bool
  | health | recordSegment _ _ | helloVoice _ => true
  | _ => false

def methods (r : Route) : List String := if r.isAsked then ["GET", "HEAD"] else ["POST"]

def hasMethod (r : Route) (method : Text) : Bool :=
  r.methods.any fun m => m.toList == method

def allow (r : Route) : String := ",".intercalate r.methods

def isProtected : Route → Bool
  | targetCheck | callbackCheck | callbackTest => true
  | _ => false

end Route
end MediaPerimeter.Http
