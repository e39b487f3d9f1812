import MediaPerimeter.Callback.Check
import MediaPerimeter.Callback.Event
import MediaPerimeter.Net.Egress

/-!
# Delivering callback events

An event is posted once to a URL that passes the check. Whatever the receiver answers counts as
delivered.
-/
namespace MediaPerimeter.Callback

namespace Delivery

inductive Fault where
  | rejected (fault : Callback.Fault)
  | egress (fault : Net.Egress.Fault)
deriving DecidableEq

def Fault.message : Fault → String
  | rejected f => s!"callback rejected: {f.message}"
  | egress f => f.message

end Delivery

def deliver (n : Net.Network) (raw : Text) (e : Event) :
    Net.Action (Except Delivery.Fault Nat) := do
  match ← check n raw with
  | .error f => return .error (.rejected f)
  | .ok () =>
    match ← Net.Egress.post n raw e.json with
    | .error f => return .error (.egress f)
    | .ok answer => return .ok answer.status

end MediaPerimeter.Callback
