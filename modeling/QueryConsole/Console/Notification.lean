/-
# Notifications

A failure that the console observes has a kind, a text for the user, and perhaps a cause for the log
only.  The kind alone decides where it becomes visible:

| kind | surface |
| --- | --- |
| rejected or failed question | the view of the question |
| failed schema | the schema panel |
| failed list of databases | the log only |

Models `FailureKind`, `Surface` and `Notification` with `log`.
-/

namespace QueryConsole

/-- The kind of a failure. -/
inductive FailureKind where
  | queryRejected
  | queryTransport
  | databaseList
  | schemaLoad
  deriving DecidableEq, Repr

/-- Where a failure becomes visible. -/
inductive Surface where
  | queryErrorView
  | schemaPanel
  | logOnly
  deriving DecidableEq, Repr

namespace Surface

/-- The name of a surface. -/
def name : Surface → String
  | queryErrorView => "QueryErrorView"
  | schemaPanel => "SchemaPanel"
  | logOnly => "LogOnly"

end Surface

namespace FailureKind

/-- The name of a kind. -/
def name : FailureKind → String
  | queryRejected => "QueryRejected"
  | queryTransport => "QueryTransport"
  | databaseList => "DatabaseList"
  | schemaLoad => "SchemaLoad"

/-- Where failures of a kind become visible. -/
def surface : FailureKind → Surface
  | queryRejected => .queryErrorView
  | queryTransport => .queryErrorView
  | schemaLoad => .schemaPanel
  | databaseList => .logOnly

end FailureKind

/-- A failure on its way to the log and to the screen. -/
structure Notification where
  kind : FailureKind
  message : String
  detail : Option String
  deriving DecidableEq, Repr

/-- The severity of a log event. -/
inductive LogLevel where
  | warn
  | error
  deriving DecidableEq, Repr

namespace LogLevel

/-- The name of a severity. -/
def name : LogLevel → String
  | warn => "WARN"
  | error => "ERROR"

end LogLevel

/-- An event of the log: named texts in order. -/
structure LogEvent where
  level : LogLevel
  fields : List (String × String)
  deriving DecidableEq, Repr

namespace Notification

/-- Where the notification becomes visible. -/
def surface (n : Notification) : Surface := n.kind.surface

/-- The event that the notification writes to the log. -/
def logEvent (n : Notification) : LogEvent :=
  match n.kind with
  | .queryRejected =>
    ⟨.warn, [("message", "query rejected by server"), ("kind", n.kind.name),
      ("message", n.message)]⟩
  | _ =>
    ⟨.error, [("message", "backend call failed"), ("kind", n.kind.name), ("message", n.message),
      ("detail", n.detail.getD "-")]⟩

end Notification
end QueryConsole
