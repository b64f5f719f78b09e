import AccessLog.Text.Lowercase
import AccessLog.Trace

/-!
# Filters

Which traces are written. A filter is a list of directives between commas: a target with the lowest level that
passes, a target alone, which passes whole, or a level alone, which holds for all targets. The most specific
directive decides; what none covers is left out.
-/

namespace AccessLog

/-- Traces whose target begins so pass from `level` on, or not at all. -/
structure Directive where
  target : String
  level : Option Level
  deriving DecidableEq, Repr

structure TraceFilter where
  directives : List Directive
  deriving DecidableEq, Repr

namespace TraceFilter

def level? (s : String) : Option (Option Level) :=
  match lowercase s with
  | "off" => some none
  | "error" => some (some .error)
  | "warn" => some (some .warn)
  | "info" => some (some .info)
  | "debug" => some (some .debug)
  | "trace" => some (some .trace)
  | _ => none

def directive? (s : String) : Option Directive :=
  let target := String.ofList (s.toList.takeWhile (· ≠ '='))
  match s.toList.dropWhile (· ≠ '=') with
  | [] =>
    match level? s with
    | some level => some ⟨"", level⟩
    | none => some ⟨s, some .trace⟩
  | _ :: level => (level? (String.ofList level)).map fun level => ⟨target, level⟩

def fallback : TraceFilter := ⟨[⟨"", some .info⟩]⟩

def parse? (s : String) : Option TraceFilter :=
  (((s.splitOn ",").filter (· ≠ "")).mapM directive?).map (⟨·⟩)

def parse (s : String) : TraceFilter := (parse? s).getD fallback

def covers (d : Directive) (target : String) : Bool := d.target.toList.isPrefixOf target.toList

/-- The more specific of two directives, the later of equal ones. -/
def prefer (best : Option Directive) (d : Directive) : Option Directive :=
  match best with
  | none => some d
  | some b => if b.target.length ≤ d.target.length then some d else some b

def passes (f : TraceFilter) (t : Trace) : Bool :=
  match ((f.directives.filter (covers · t.target)).foldl prefer none).bind (·.level) with
  | some level => level.gravity ≤ t.level.gravity
  | none => false

end TraceFilter

end AccessLog
