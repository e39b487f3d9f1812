import MediaPerimeter.Settings.Basic
import MediaPerimeter.Text.Blank
import MediaPerimeter.Text.Decimal

/-!
# Settings from the environment

Variables that are not set leave the default. Numbers are read strictly; an empty password is none.
-/
namespace MediaPerimeter.Settings

structure BadNumber where
  key : String
deriving DecidableEq

def BadNumber.message (b : BadNumber) : String := s!"{b.key} must be a valid number"

def number {α : Type} (env : Environment) (key : String) (default : α)
    (read? : Text → Option α) : Except BadNumber α :=
  match env key.toList with
  | none => .ok default
  | some t =>
    match read? t with
    | some n => .ok n
    | none => .error ⟨key⟩

def readLogFormat (env : Environment) : LogFormat :=
  match env "LOG_FORMAT".toList with
  | some t => if t.trim.lower = "json".toList then .json else .text
  | none => .text

def ofEnvironment (env : Environment) : Except BadNumber Settings := do
  let usual : Settings := {}
  let port ← number env "PORT" usual.port (Decimal.readUpTo? 65535)
  let timeout ← number env "CALLBACK_TIMEOUT_SECS" usual.callbackTimeoutSecs
    (Decimal.readUpTo? (Nat.pow 2 64 - 1))
  let lifetime ← number env "TOKEN_TTL_HOURS" usual.tokenLifetimeHours
    (Decimal.readBetween? (-Nat.pow 2 63) (Nat.pow 2 63 - 1))
  return {
    port
    environment := env.deployment?.getD usual.environment
    apiSecret := (env "API_SECRET".toList).getD []
    password := (env "MGMT_PASSWORD".toList).filter (· != [])
    recordDir := (env "RECORD_DIR".toList).getD usual.recordDir
    voicesDir := (env "VOICES_DIR".toList).getD usual.voicesDir
    callbackTimeoutSecs := timeout
    tokenLifetimeHours := lifetime
    logFormat := readLogFormat env }

end MediaPerimeter.Settings
