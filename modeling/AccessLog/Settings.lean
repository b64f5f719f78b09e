import AccessLog.Event
import AccessLog.Settings.Log
import AccessLog.Settings.RequestLog

/-!
# Settings

All that is configured, read once from the variables. Of several faults the first counts: of the address, then
of the request log, then of the log.
-/

namespace AccessLog

structure Settings where
  listen : SocketAddress
  requestLog : RequestLogSettings
  service : Service
  log : LogSettings
  deriving DecidableEq, Repr

namespace Settings

def listenKey : String := "LISTEN_ADDR"

def defaultListen : String := "0.0.0.0:8080"

def keys : List String :=
  [listenKey, "SERVICE_TYPE", "REQUEST_LOG", "REQUEST_LOG_STARTS_WITH_BLACKLIST",
    "REQUEST_LOG_EQUALITY_BLACKLIST", "REQUEST_LOG_SINK", "REQUEST_LOG_CHANNEL_CAPACITY", "LOG_LEVEL",
    "RUST_LOG", "LOG_FORMAT", "SERVICE_NAME"]

/-- An empty address is not the default; it is no address. -/
def loadListen (v : Variables) : Except SettingsError SocketAddress :=
  let raw := v.getOr listenKey defaultListen
  match Reading.socketAddress raw with
  | .ok a => .ok a
  | .error detail => .error (.unreadable listenKey raw detail)

def loadService (v : Variables) : Service := ⟨v.given "SERVICE_TYPE"⟩

def load (v : Variables) : Except SettingsError Settings :=
  match loadListen v, RequestLogSettings.load v, LogSettings.load v with
  | .error e, _, _ => .error e
  | _, .error e, _ => .error e
  | _, _, .error e => .error e
  | .ok listen, .ok requestLog, .ok log => .ok { listen, requestLog, service := loadService v, log }

def summary (s : Settings) : List String :=
  let r := s.requestLog
  ["Configuration loaded:", "  Listen: " ++ s.listen.text]
    ++ (match s.service.serviceType with | some t => ["  Service type: " ++ t] | none => [])
    ++ if !r.enabled then ["  Request log: disabled"]
      else
        ["  Request log sink: " ++ r.sink.name]
          ++ (if r.sink = .channel then ["  Request log queue: " ++ natText r.channelCapacity] else [])
          ++ (if r.beginnings.isEmpty then []
            else ["  Prefix blacklist: " ++ String.intercalate ", " r.beginnings])
          ++ if r.whole.isEmpty then []
            else ["  Exact blacklist: " ++ String.intercalate ", " r.whole]

def notes (s : Settings) : List Trace := s.summary.map (.note .settings .info ·)

end Settings

end AccessLog
