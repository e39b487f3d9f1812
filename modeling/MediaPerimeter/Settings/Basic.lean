import MediaPerimeter.Text.Basic

/-!
# Settings

What an operator may set, the defaults, and the conditions under which the service starts.
-/
namespace MediaPerimeter

inductive LogFormat where
  | text
  | json
deriving DecidableEq

structure Settings where
  port : Nat := 2024
  environment : Text := "development".toList
  /-- The shared secret; when empty no credential is accepted. -/
  apiSecret : Text := []
  /-- Without a password nobody can log in. -/
  password : Option Text := none
  recordDir : Text := "./record".toList
  voicesDir : Text := "./containers/conf".toList
  callbackTimeoutSecs : Nat := 30
  tokenLifetimeHours : Int := 8760
  logFormat : LogFormat := .text
deriving DecidableEq

abbrev Environment := Text → Option Text

namespace Environment

/-- The name of the deployment, as the two variables for it say. -/
def deployment? (env : Environment) : Option Text :=
  env "ENVIRONMENT".toList <|> env "APP_ENV".toList

def isProductionName (name : Text) : Bool :=
  name.lower == "production".toList || name.lower == "prod".toList

def isProduction (env : Environment) : Bool := env.deployment?.any isProductionName

end Environment

namespace Settings

def isProduction (s : Settings) : Bool := Environment.isProductionName s.environment

def maxLifetimeHours : Int := 87600

/-- The longest time span that dates can be moved by, in seconds: 2⁶³ milliseconds. -/
def maxSpanSecs : Nat := 9223372036854775

/-- The lifetime of an issued token in seconds, if it is a time span at all. -/
def tokenLifetime? (s : Settings) : Option Int :=
  let secs := s.tokenLifetimeHours * 3600
  if secs.natAbs ≤ maxSpanSecs then some secs else none

inductive Fault where
  | secretMissing
  | timeoutZero
  | lifetimeNotPositive
  | lifetimeTooLong
deriving DecidableEq

def Fault.message : Fault → String
  | .secretMissing =>
    "API_SECRET must be set in production; every authenticated request would be refused"
  | .timeoutZero => "CALLBACK_TIMEOUT_SECS must be greater than zero"
  | .lifetimeNotPositive => "TOKEN_TTL_HOURS must be greater than zero"
  | .lifetimeTooLong => s!"TOKEN_TTL_HOURS must be at most {maxLifetimeHours}"

def Fault.startMessage (f : Fault) : String := s!"Configuration validation failed: {f.message}"

def validate (s : Settings) : Except Fault Unit :=
  if s.isProduction ∧ s.apiSecret = [] then .error .secretMissing
  else if s.callbackTimeoutSecs = 0 then .error .timeoutZero
  else if s.tokenLifetimeHours ≤ 0 then .error .lifetimeNotPositive
  else if maxLifetimeHours < s.tokenLifetimeHours then .error .lifetimeTooLong
  else .ok ()

end Settings
end MediaPerimeter
