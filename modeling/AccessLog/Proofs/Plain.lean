import AccessLog.Sink

/-!
# A plain event

The smallest event and the smallest scene, for runs that do not depend on more.
-/

namespace AccessLog

def plainEvent (path : String) : Event := .assemble
  { timestamp := ⟨0⟩, method := "GET", url := path, urlQuery := none, status := 200
    durationMicros := 1000, bodySize := none, responseSize := none, requestId := none
    userId := none, sessionId := none, referringHost := none, referringService := none
    domain := none, anonymousId := none, userAgent := none, acceptLanguage := none
    referer := none, remoteAddress := none, originalUri := none, host := none, accept := none
    forwardedFor := none, forwardedPort := none, forwardedProto := none }
  {} default

def plainScene : Scene Unit := .start (fun _ => default) (fun _ => default) ()

end AccessLog
