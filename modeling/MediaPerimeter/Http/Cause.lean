import MediaPerimeter.Callback.Delivery
import MediaPerimeter.Credential
import MediaPerimeter.Files.Served
import MediaPerimeter.Http.Failure
import MediaPerimeter.Stream.Url

/-!
# Causes of failures

What a fault in each part of the service comes to for the client. A path that leads out of a
directory looks like a file that is missing, and an address that was looked up is never told.
-/
namespace MediaPerimeter

def Credential.Fault.failure (f : Credential.Fault) : Failure := .unauthorized f.message

/-- A token that cannot be made is the fault of the service, one that is not valid that of the
client. -/
def Token.Fault.failure : Token.Fault → Failure
  | .signing defect => .internal s!"token signing failed: {defect.message}"
  | .lifetimeOutOfRange => .internal "token lifetime is out of range"
  | _ => Credential.Fault.invalidToken.failure

def Failure.fileNotFound : Failure := .notFound "File not found"

def Containment.Fault.failure (_ : Containment.Fault) : Failure := .fileNotFound

def ServedFile.Fault.failure : ServedFile.Fault → Failure
  | .containment f => f.failure
  | .extensionNotAllowed _ => .forbidden "File type not allowed"
  | .notRegular | .system ⟨.notFound, _⟩ => .fileNotFound
  | .system e => .ofSystem e

def Target.Fault.failure (f : Target.Fault) : Failure :=
  .invalidInput s!"invalid server: {f.message}"

def StreamUrl.Fault.failure (f : StreamUrl.Fault) : Failure :=
  .invalidInput s!"invalid server: {f.message}"

def Callback.Fault.failure (f : Callback.Fault) : Failure := .invalidInput f.reason

def Net.Egress.Fault.failure : Net.Egress.Fault → Failure
  | .invalidUrl reason => .invalidInput s!"invalid url: {reason}"
  | .unsafeDestination _ => .forbidden "destination is not allowed"
  | .dialTimeout => .gatewayTimeout "upstream timed out"
  | .tooManyRedirects max => .badGateway s!"upstream redirected more than {max} times"
  | .request f => .badGateway f.message

def Callback.Delivery.Fault.failure : Callback.Delivery.Fault → Failure
  | .rejected f => f.failure
  | .egress f => f.failure

end MediaPerimeter
