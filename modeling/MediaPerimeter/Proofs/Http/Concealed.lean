import MediaPerimeter.Http.Cause
import MediaPerimeter.Http.Response
import MediaPerimeter.Proofs.Json.Written
import MediaPerimeter.Settings.Basic

/-!
# What failures conceal

A fault carries what the log is told: directories, addresses, hosts, the words of a library. `bare`
leaves of a fault only which one it is, and of the system underneath the kind of its failure. The
client is answered as for the bare fault, so that nothing else can be read off the answer.
-/
namespace MediaPerimeter

def UnsafeAddress.blank : UnsafeAddress := ⟨.unparseable, []⟩

def Token.Fault.bare : Token.Fault → Token.Fault
  | .disallowedAlgorithm _ => .disallowedAlgorithm []
  | .invalid _ => .invalid .invalidToken
  | .signing _ => .signing .invalidToken
  | f => f

def SystemError.blank : SystemError := ⟨.other, ""⟩

def Containment.Fault.bare : Containment.Fault → Containment.Fault
  | .baseUnavailable _ _ => .baseUnavailable [] .blank
  | .unresolvable _ => .unresolvable .blank
  | .escapes => .escapes

def ServedFile.Fault.bare : ServedFile.Fault → ServedFile.Fault
  | .containment f => .containment f.bare
  | .extensionNotAllowed _ => .extensionNotAllowed []
  | .notRegular => .notRegular
  | .system e => .system ⟨e.fault, ""⟩

def Callback.Fault.bare : Callback.Fault → Callback.Fault
  | .malformed _ => .malformed ""
  | .unsupportedScheme _ => .unsupportedScheme []
  | .loopbackAlias _ => .loopbackAlias []
  | .unresolvable _ _ => .unresolvable [] ""
  | .unsafeDestination _ => .unsafeDestination .blank
  | f => f

/-- Why a URL is invalid is told to the client that gave it. -/
def Net.Egress.Fault.bare : Net.Egress.Fault → Net.Egress.Fault
  | .unsafeDestination _ => .unsafeDestination .blank
  | .request _ => .request (.building none)
  | f => f

def Callback.Delivery.Fault.bare : Callback.Delivery.Fault → Callback.Delivery.Fault
  | .rejected f => .rejected f.bare
  | .egress f => .egress f.bare

namespace Failure

/-- The messages of the other failures are written for the client. -/
def bare : Failure → Failure
  | .badGateway _ => .badGateway ""
  | .internal _ => .internal ""
  | .unforeseen _ _ => .unforeseen "" []
  | f => f

theorem isShownInFull_of_isSensitive {f : Failure} (h : f.isSensitive = true) (production : Bool) :
    f.isShownInFull production = false := by
  rw [isShownInFull, h, Bool.not_true, Bool.and_false]

theorem response_of_isSensitive {f : Failure} (h : f.isSensitive = true) (production : Bool) :
    f.response production = .ofJson f.status
      (.record [("error", .ofString f.clientMessage), ("code", .ofString f.code)]) := by
  rw [response, json, isShownInFull_of_isSensitive h]
  rfl

theorem response_bare (production : Bool) (f : Failure) :
    f.bare.response production = f.response production := by
  cases f with
  | badGateway | internal | unforeseen =>
    rw [response_of_isSensitive rfl, response_of_isSensitive rfl]
    rfl
  | invalidInput | unauthorized | forbidden | notFound | gatewayTimeout => rfl

def shownFields (production : Bool) (f : Failure) : List String :=
  if production ∨ f.isSensitive then ["error", "code"] else ["error", "details", "error_type", "code"]

/-- The body is an object with the fields that are shown, in their order, and no others. -/
theorem isObject_response (production : Bool) (f : Failure) :
    ∃ members, Json.IsObject (f.response production).body.bytes members ∧
      members.map Prod.fst = (f.shownFields production).map String.toList := by
  refine ⟨_, Json.isObject_record ?_ (by simp), ?_⟩
  · have hleaf (t : String) : (Json.ofString t).IsLeaf := Json.isLeaf_string t.toList
    cases f.isShownInFull production <;> simp [hleaf]
  · cases production <;> cases hsensitive : f.isSensitive <;>
      simp [Json.members, shownFields, isShownInFull, hsensitive]

end Failure

/-- What goes wrong in a part of the service, as that part knows it. -/
inductive Cause where
  | credential (fault : Credential.Fault)
  | token (fault : Token.Fault)
  | containment (fault : Containment.Fault)
  | servedFile (fault : ServedFile.Fault)
  | callback (fault : Callback.Fault)
  | egress (fault : Net.Egress.Fault)
  | delivery (fault : Callback.Delivery.Fault)
  | failure (failure : Failure)

namespace Cause

def rendered : Cause → Failure
  | credential f => f.failure
  | token f => f.failure
  | containment f => f.failure
  | servedFile f => f.failure
  | callback f => f.failure
  | egress f => f.failure
  | delivery f => f.failure
  | failure f => f

def bare : Cause → Cause
  | credential f => credential f
  | token f => token f.bare
  | containment f => containment f.bare
  | servedFile f => servedFile f.bare
  | callback f => callback f.bare
  | egress f => egress f.bare
  | delivery f => delivery f.bare
  | failure f => failure f.bare

end Cause

/-- A fault and its bare form may come to failures that differ, but not in what is shown. -/
theorem Token.Fault.failure_bare (f : Token.Fault) : f.bare.failure.bare = f.failure.bare := by
  cases f <;> rfl

theorem ServedFile.Fault.failure_bare (f : ServedFile.Fault) :
    f.bare.failure.bare = f.failure.bare := by
  cases f with
  | containment | extensionNotAllowed | notRegular => rfl
  | system e =>
    obtain ⟨fault, text⟩ := e
    cases fault <;> rfl

theorem Callback.Fault.failure_bare (f : Callback.Fault) : f.bare.failure = f.failure := by
  cases f <;> rfl

theorem Net.Egress.Fault.failure_bare (f : Net.Egress.Fault) :
    f.bare.failure.bare = f.failure.bare := by
  cases f <;> rfl

theorem Callback.Delivery.Fault.failure_bare (f : Callback.Delivery.Fault) :
    f.bare.failure.bare = f.failure.bare := by
  cases f with
  | rejected f => exact congrArg Failure.bare f.failure_bare
  | egress f => exact f.failure_bare

namespace Cause

theorem rendered_bare (c : Cause) : c.bare.rendered.bare = c.rendered.bare := by
  cases c with
  | credential | containment => rfl
  | token f => exact f.failure_bare
  | servedFile f => exact f.failure_bare
  | callback f => exact congrArg Failure.bare f.failure_bare
  | egress f => exact f.failure_bare
  | delivery f => exact f.failure_bare
  | failure f => cases f <;> rfl

/-- The answer for a fault is the answer for the bare fault. -/
theorem response_bare (production : Bool) (c : Cause) :
    c.bare.rendered.response production = c.rendered.response production := by
  rw [← Failure.response_bare, rendered_bare, Failure.response_bare]

/-- Faults that differ only in what they carry are answered alike, and of a failure nothing is told
but its message and its code where the service is in production or the failure is sensitive. -/
theorem response_concealed (env : Environment) :
    (∀ c c' : Cause, c.bare = c'.bare →
      c.rendered.response env.isProduction = c'.rendered.response env.isProduction) ∧
    ∀ f : Failure, ∃ members,
      Json.IsObject (f.response env.isProduction).body.bytes members ∧
      members.map Prod.fst = (f.shownFields env.isProduction).map String.toList := by
  refine ⟨fun c c' h => ?_, Failure.isObject_response env.isProduction⟩
  rw [← c.response_bare, h, c'.response_bare]

/-- Two files that the system underneath does not open, each for a reason with its path in it, where
the service is not in production. -/
theorem response_concealed_of_unopened :
    let c := servedFile (.system ⟨.other, "/srv/record/a: Too many open files"⟩)
    let c' := servedFile (.system ⟨.other, "/srv/record/b: Input/output error"⟩)
    let env : Environment := fun _ => none
    c.bare = c'.bare ∧ c.rendered ≠ c'.rendered ∧
      c.rendered.response env.isProduction = c'.rendered.response env.isProduction :=
  ⟨rfl, by decide, (response_concealed _).1 _ _ rfl⟩

end Cause
end MediaPerimeter
