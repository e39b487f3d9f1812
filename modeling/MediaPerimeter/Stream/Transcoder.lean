import MediaPerimeter.Stream.Url

/-!
# Transcoder arguments

The argument vector that forwards one stream to another place without encoding it again. Both ends
are checked and rebuilt first, so that each is one argument and none can pass for an option.
-/
namespace MediaPerimeter.Transcoder

inductive Role where
  | input
  | output
deriving DecidableEq

def Role.name : Role → String
  | .input => "input"
  | .output => "output"

inductive Cause where
  | target (fault : Target.Fault)
  | url (fault : StreamUrl.Fault)
deriving DecidableEq

def Cause.message : Cause → String
  | .target f => f.message
  | .url f => f.message

structure Fault where
  role : Role
  cause : Cause
deriving DecidableEq

def Fault.message (f : Fault) : String := s!"invalid {f.role.name}: {f.cause.message}"

def endpoint (raw : Text) : Except Cause StreamUrl :=
  match Target.validate raw with
  | .error e => .error (.target e)
  | .ok () =>
    match StreamUrl.rebuild raw with
    | .error e => .error (.url e)
    | .ok u => .ok u

def format (output : StreamUrl) : Text :=
  if output.scheme.lower = "srt".toList then "mpegts".toList
  else if output.scheme.lower = "rtsp".toList then "rtsp".toList
  else "flv".toList

def arguments (input output : Text) : Except Fault (List Text) :=
  match endpoint input with
  | .error e => .error ⟨.input, e⟩
  | .ok source =>
    match endpoint output with
    | .error e => .error ⟨.output, e⟩
    | .ok sink =>
      .ok ["-re".toList, "-i".toList, source.text, "-c".toList, "copy".toList, "-f".toList,
        format sink, sink.text]

end MediaPerimeter.Transcoder
