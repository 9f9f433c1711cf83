/-! Log records: what a run tells about itself besides its results. -/

namespace ObjectStorage

/-- How much a record matters, least first. -/
inductive LogLevel where
  | debug
  | info
  | warning
  deriving DecidableEq, Repr

/-- Who wrote a record. -/
inductive Logger where
  | upload
  | storage
  | client
  deriving DecidableEq, Repr

structure LogRecord where
  level : LogLevel
  logger : Logger
  message : String
  deriving DecidableEq, Repr

def LogLevel.rank : LogLevel → Nat
  | debug => 0
  | info => 1
  | warning => 2

def LogLevel.name : LogLevel → String
  | debug => "DEBUG"
  | info => "INFO"
  | warning => "WARNING"

def Logger.name : Logger → String
  | upload => "s3stream.streaming_upload"
  | storage => "s3stream.storage"
  | client => "s3stream.cloud.s3"

/-- The line that shows a record. -/
def LogRecord.render (r : LogRecord) : String := s!"{r.level.name} {r.logger.name}: {r.message}"

/-- The records that matter at least as much as `least`. -/
def LogRecord.atLeast (least : LogLevel) (records : List LogRecord) : List LogRecord :=
  records.filter fun r => least.rank ≤ r.level.rank

end ObjectStorage
