import MediaPerimeter.Files.Tree

/-!
# Failures

What a request may come to instead of its result. Each failure has a status and a code for
programs, a text for the log, and a message for the client; of a sensitive failure the client sees
only that it happened.
-/
namespace MediaPerimeter

inductive Severity where
  | debug
  | warn
  | error
deriving DecidableEq

def Severity.name : Severity → String
  | .debug => "Debug"
  | .warn => "Warn"
  | .error => "Error"

inductive Failure where
  | invalidInput (message : String)
  | unauthorized (message : String)
  | forbidden (message : String)
  | notFound (message : String)
  | badGateway (message : String)
  | gatewayTimeout (message : String)
  | internal (message : String)
  /-- An error that no rule foresees, and the chain of its causes, outermost first. -/
  | unforeseen (message : String) (causes : List String)
deriving DecidableEq

namespace Failure

def status : Failure → Nat
  | invalidInput _ => 400
  | unauthorized _ => 401
  | forbidden _ => 403
  | notFound _ => 404
  | badGateway _ => 502
  | gatewayTimeout _ => 504
  | internal _ | unforeseen _ _ => 500

def code : Failure → String
  | invalidInput _ => "INVALID_INPUT"
  | unauthorized _ => "UNAUTHORIZED"
  | forbidden _ => "FORBIDDEN"
  | notFound _ => "NOT_FOUND"
  | badGateway _ => "BAD_GATEWAY"
  | gatewayTimeout _ => "GATEWAY_TIMEOUT"
  | internal _ | unforeseen _ _ => "INTERNAL_ERROR"

def kind : Failure → String
  | invalidInput _ => "InvalidInput"
  | unauthorized _ => "Unauthorized"
  | forbidden _ => "Forbidden"
  | notFound _ => "NotFound"
  | badGateway _ => "BadGateway"
  | gatewayTimeout _ => "GatewayTimeout"
  | internal _ | unforeseen _ _ => "Internal"

/-- The details are for the log alone. -/
def isSensitive : Failure → Bool
  | badGateway _ | internal _ | unforeseen _ _ => true
  | _ => false

def severity : Failure → Severity
  | invalidInput _ | notFound _ => .debug
  | unauthorized _ | forbidden _ | badGateway _ | gatewayTimeout _ => .warn
  | internal _ | unforeseen _ _ => .error

def clientMessage : Failure → String
  | invalidInput m | unauthorized m | forbidden m | notFound m | gatewayTimeout m => m
  | badGateway _ => "Upstream request failed"
  | internal _ | unforeseen _ _ => "Internal server error"

def text : Failure → String
  | invalidInput m => s!"Invalid input: {m}"
  | unauthorized m => s!"Unauthorized: {m}"
  | forbidden m => s!"Forbidden: {m}"
  | notFound m => s!"Not found: {m}"
  | badGateway m => s!"Bad gateway: {m}"
  | gatewayTimeout m => s!"Gateway timeout: {m}"
  | internal m => s!"Internal error: {m}"
  | unforeseen _ _ => "Internal error with source"

def causes : Failure → List String
  | unforeseen _ cs => cs
  | _ => []

def maxCauses : Nat := 5

def causeLine (cause : String) : String := "\n  Caused by: " ++ cause

def truncation : String := "\n  ... (truncated)"

/-- Lists causes behind details that have `depth` of them already. -/
def withCauses (details : String) (depth : Nat) : List String → String
  | [] => details
  | cause :: causes =>
    let depth := depth + 1
    if maxCauses < depth then details ++ truncation
    else withCauses (details ++ causeLine cause) depth causes

def details (f : Failure) : String := withCauses f.text 0 f.causes

def ofSystem (e : SystemError) : Failure := internal s!"IO error: {e.text}"

/-- An error is the first of its own causes. -/
def ofError (message : String) (causes : List String) : Failure :=
  unforeseen message (message :: causes)

end Failure
end MediaPerimeter
