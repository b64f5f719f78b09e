import AccessLog.Blacklist
import AccessLog.Settings.Variables

/-!
# Settings of the request log

Whether exchanges are logged, where their events go, and which paths are left out.
-/

namespace AccessLog

inductive SinkKind where
  | tracing
  | stdout
  | channel
  deriving DecidableEq, Repr

namespace SinkKind

def name : SinkKind → String
  | .tracing => "Tracing"
  | .stdout => "Stdout"
  | .channel => "Channel"

def parse (s : String) : Except String SinkKind :=
  let word := lowercase s
  if word = "tracing" then .ok .tracing
  else if word = "stdout" then .ok .stdout
  else if word = "channel" then .ok .channel
  else .error ("unknown sink '" ++ word ++ "', expected: tracing, stdout, channel")

end SinkKind

structure RequestLogSettings where
  enabled : Bool := true
  beginnings : List String := []
  whole : List String := []
  sink : SinkKind := .tracing
  channelCapacity : Nat := 10000
  channelCapacity_pos : 0 < channelCapacity := by decide
  deriving DecidableEq, Repr

namespace RequestLogSettings

def blacklist (s : RequestLogSettings) : Blacklist := Blacklist.ofEntries s.beginnings s.whole

def capacityKey : String := "REQUEST_LOG_CHANNEL_CAPACITY"

def loadSink (v : Variables) : Except SettingsError SinkKind :=
  match v.given "REQUEST_LOG_SINK" with
  | none => .ok .tracing
  | some raw =>
    match SinkKind.parse raw with
    | .ok kind => .ok kind
    | .error detail => .error (.unacceptable "REQUEST_LOG_SINK" detail)

def loadCapacity (v : Variables) : Except SettingsError { n : Nat // 0 < n } :=
  match v.parse (Reading.integer (.unsigned 64)) capacityKey 10000 with
  | .error e => .error e
  | .ok n =>
    if h : 0 < n.toNat then .ok ⟨n.toNat, h⟩
    else .error (.unacceptable capacityKey "channel capacity cannot be zero")

def load (v : Variables) : Except SettingsError RequestLogSettings :=
  match loadSink v, loadCapacity v with
  | .error e, _ => .error e
  | _, .error e => .error e
  | .ok sink, .ok capacity =>
    .ok
      { enabled := v.flag "REQUEST_LOG" true
        beginnings := v.list "REQUEST_LOG_STARTS_WITH_BLACKLIST"
        whole := v.list "REQUEST_LOG_EQUALITY_BLACKLIST"
        sink
        channelCapacity := capacity.1
        channelCapacity_pos := capacity.2 }

end RequestLogSettings

end AccessLog
