import MediaPerimeter.Address.Reach
import MediaPerimeter.Net.Network

/-!
# Guarded lookup

Every name that is to be dialed is looked up here. One address that is not public spoils the whole
answer, since any of the addresses may be dialed.
-/
namespace MediaPerimeter.Net.Guard

inductive Fault where
  /-- In the words of the system. -/
  | lookupFailed (text : String)
  | noAddress (name : Text)
  | unsafeAddress (address : UnsafeAddress)
deriving DecidableEq

def Fault.message : Fault → String
  | lookupFailed text => text
  | noAddress name => s!"no addresses found for {String.ofList name}"
  | unsafeAddress u => u.message

def approve (name : Text) : Told → Except Fault (List Address)
  | .error text => .error (.lookupFailed text)
  | .ok [] => .error (.noAddress name)
  | .ok addresses =>
    match Address.checkAll addresses with
    | .ok () => .ok addresses
    | .error u => .error (.unsafeAddress u)

def resolve (n : Network) (name : Text) : Action (Except Fault (List Address)) :=
  return approve name (← n.lookup name)

end MediaPerimeter.Net.Guard
