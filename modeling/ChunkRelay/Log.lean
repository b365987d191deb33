/-! # Log records

Severities, the parts of the program that write log records, and the record itself.
-/

namespace ChunkRelay

/-- How severe a record is, or from where on something lets records through. -/
inductive Level where
  | unset | debug | info | warning | error | critical
  deriving Repr, DecidableEq, Inhabited

namespace Level

/-- The number that severities are compared by. -/
def rank : Level → Nat
  | unset => 0
  | debug => 10
  | info => 20
  | warning => 30
  | error => 40
  | critical => 50

def name : Level → String
  | unset => "NOTSET"
  | debug => "DEBUG"
  | info => "INFO"
  | warning => "WARNING"
  | error => "ERROR"
  | critical => "CRITICAL"

/-- The level of a given name. Two of the levels have further names. -/
def ofName? (name : String) : Option Level :=
  if name = "WARN" then some warning
  else if name = "FATAL" then some critical
  else [unset, debug, info, warning, error, critical].find? (·.name = name)

end Level

/-- The parts of the program that write log records. -/
inductive Source where
  | session | bridge | uploader | device | context
  deriving Repr, DecidableEq

def Source.name : Source → String
  | session => "mdshid.protocol.session"
  | bridge => "mdshid.app.bridge"
  | uploader => "mdshid.upload.http"
  | device => "mdshid.transport.hidapi"
  | context => "mdshid.core.context"

structure LogRecord where
  level : Level
  logger : String
  message : String
  deriving Repr, DecidableEq

/-- The logger name that a record shows. The logger above all others has no name of its own. -/
def LogRecord.shownLogger (record : LogRecord) : String :=
  if record.logger.isEmpty then "root" else record.logger

end ChunkRelay
