import AccessLog.Settings.Variables
import AccessLog.Text.Lowercase

/-!
# Settings of the log

Which traces are written, in which format, and under which service name. `LOG_LEVEL` names a level; failing
that, `RUST_LOG` gives a whole filter.
-/

namespace AccessLog

inductive LogFormat where
  | json
  | pretty
  deriving DecidableEq, Repr

namespace LogFormat

def name : LogFormat → String
  | .json => "Json"
  | .pretty => "Pretty"

def parse (s : String) : Except String LogFormat :=
  let word := lowercase s
  if word = "json" then .ok .json
  else if word = "pretty" then .ok .pretty
  else .error ("unknown format '" ++ word ++ "', expected: json, pretty")

end LogFormat

structure LogSettings where
  filter : String := "request_log=info,access=info"
  format : LogFormat := .json
  serviceName : String := "request_log"
  deriving DecidableEq, Repr

namespace LogSettings

def levelNames : List String := ["trace", "debug", "info", "warn", "error"]

/-- A level that was named but is none, in lower case. -/
def unknownLevel? (v : Variables) : Option String :=
  ((v.given "LOG_LEVEL").map lowercase).filter fun level => !levelNames.contains level

def levelWarning (level : String) : String :=
  "Warning: Invalid LOG_LEVEL '" ++ level ++ "', expected: trace, debug, info, warn, error"

/-- The reports of exchanges keep their level whatever the level of the rest. -/
def filterOf (v : Variables) : String :=
  match ((v.given "LOG_LEVEL").map lowercase).filter levelNames.contains with
  | some level => "request_log=" ++ level ++ ",access=info"
  | none => (v.given "RUST_LOG").getD ({} : LogSettings).filter

def load (v : Variables) : Except SettingsError LogSettings :=
  let format : Except String LogFormat := match v.given "LOG_FORMAT" with
    | none => .ok ({} : LogSettings).format
    | some raw => LogFormat.parse raw
  match format with
  | .error detail => .error (.unacceptable "LOG_FORMAT" detail)
  | .ok format =>
    .ok { filter := filterOf v, format, serviceName := v.getOr "SERVICE_NAME" ({} : LogSettings).serviceName }

end LogSettings

end AccessLog
