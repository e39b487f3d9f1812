import MediaPerimeter.Settings.Basic
import MediaPerimeter.Text.Decimal
import MediaPerimeter.Text.Quoted

/-!
# Settings for the log

One line that shows all settings. Of the two secrets it tells only whether they are set.
-/
namespace MediaPerimeter

def LogFormat.name : LogFormat → String
  | .text => "Text"
  | .json => "Json"

namespace Settings

def shownFields (s : Settings) : List (String × Text) := [
  ("server_port", Decimal.text s.port),
  ("environment", Quoted.text s.environment),
  ("api_secret", Quoted.text (if s.apiSecret = [] then "<empty>" else "<redacted>").toList),
  ("mgmt_password", match s.password with
    | none => "None".toList
    | some _ => "Some(".toList ++ Quoted.text "<redacted>".toList ++ [')']),
  ("record_dir", Quoted.path s.recordDir),
  ("voices_dir", Quoted.path s.voicesDir),
  ("callback_timeout_secs", Decimal.text s.callbackTimeoutSecs),
  ("token_ttl_hours", Decimal.intText s.tokenLifetimeHours),
  ("log_format", s.logFormat.name.toList)]

def record (name : String) (fields : List (String × Text)) : Text :=
  let shown := fields.map fun f => f.1.toList ++ ": ".toList ++ f.2
  name.toList ++ " \x7b ".toList ++ List.intercalate ", ".toList shown ++ " \x7d".toList

def shown (s : Settings) : Text := record "Config" s.shownFields

end Settings
end MediaPerimeter
