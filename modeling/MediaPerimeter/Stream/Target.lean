import MediaPerimeter.Text.Blank
import MediaPerimeter.Url.Parts

/-!
# Stream targets

Where the transcoder may publish to or pull from. A target becomes an argument of a process, so a
text that could pass for an option, or that names another protocol, is refused.
-/
namespace MediaPerimeter

namespace Target

inductive Fault where
  | empty
  | flagInjection
  | missingScheme
  | disallowedScheme (scheme : Text)
deriving DecidableEq

def Fault.message : Fault → String
  | .empty => "server is empty"
  | .flagInjection => "server must not start with '-'"
  | .missingScheme => "server has no scheme"
  | .disallowedScheme scheme =>
    s!"scheme '{String.ofList scheme}' is not allowed, expected one of rtmp, rtmps, rtsp, srt"

def allowedSchemes : List Text := ["rtmp", "rtmps", "rtsp", "srt"].map String.toList

def validate (raw : Text) : Except Fault Unit :=
  let t := raw.trim
  if t = [] then .error .empty
  else if t.head? = some '-' then .error .flagInjection
  else match Scheme.split? t with
    | none => .error .missingScheme
    | some (scheme, _) =>
      if allowedSchemes.contains scheme.lower then .ok () else .error (.disallowedScheme scheme.lower)

end Target
end MediaPerimeter
