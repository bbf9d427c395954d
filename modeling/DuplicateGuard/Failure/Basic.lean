import DuplicateGuard.Decision
import DuplicateGuard.Text.Quoted
import DuplicateGuard.Time.Column
import DuplicateGuard.Time.Epoch
import DuplicateGuard.Time.Iso
import DuplicateGuard.Json.Parser
import DuplicateGuard.Log.Template
import DuplicateGuard.Terminal.Markup
import DuplicateGuard.Wire.Reader

set_option autoImplicit false

namespace DuplicateGuard

inductive Severity where
  | low
  | medium
  | high
  | critical
deriving DecidableEq

def Severity.all : List Severity :=
  [.low, .medium, .high, .critical]

def Severity.name : Severity → String
  | .low => "low"
  | .medium => "medium"
  | .high => "high"
  | .critical => "critical"

inductive Category where
  | configuration
  | validation
  | store
  | stateConflict
  | notFound
  | duplicate
  | unknown
deriving DecidableEq

def Category.all : List Category :=
  [.configuration, .validation, .store, .stateConflict, .notFound, .duplicate, .unknown]

def Category.name : Category → String
  | .configuration => "configuration"
  | .validation => "validation"
  | .store => "store"
  | .stateConflict => "state_conflict"
  | .notFound => "not_found"
  | .duplicate => "duplicate"
  | .unknown => "unknown"

structure ErrorContext where
  operation : String
  resourceType : Option String := none
  resourceId : Option String := none
  requestData : Json := .null
  metadata : Json := .obj []
  correlationId : Option String := none
  userId : Option String := none
  /-- The number of the block that opened this context; a later renaming of its operation shows in
  every error that has the context. -/
  block : Option Nat := none

inductive OutsideKind where
  | runtime
  | value
  | key
  | connection
  | timeout
  | operatingSystem
  | type
deriving DecidableEq

def OutsideKind.all : List OutsideKind :=
  [.runtime, .value, .key, .connection, .timeout, .operatingSystem, .type]

def OutsideKind.name : OutsideKind → String
  | .runtime => "RuntimeError"
  | .value => "ValueError"
  | .key => "KeyError"
  | .connection => "ConnectionError"
  | .timeout => "TimeoutError"
  | .operatingSystem => "OSError"
  | .type => "TypeError"

inductive DatabaseFault where
  | noTable (table : String)
  | notDatabase
  | cannotOpen
  | repeatedKey (column : String)
deriving DecidableEq

def DatabaseFault.name : DatabaseFault → String
  | .noTable _ | .cannotOpen => "OperationalError"
  | .notDatabase => "DatabaseError"
  | .repeatedKey _ => "IntegrityError"

def DatabaseFault.text : DatabaseFault → String
  | .noTable table => "no such table: " ++ table
  | .notDatabase => "file is not a database"
  | .cannotOpen => "unable to open database file"
  | .repeatedKey column => "UNIQUE constraint failed: " ++ column

inductive Foreign where
  | outside (kind : OutsideKind) (message : Option String)
  | database (fault : DatabaseFault)
  | notChoice (value kind : String)
  | dateRange
  | longWindow (days : Nat)
  | hugeWindow
  | firstDay
  | unreadableTime (text : String)
  | timestamp (text : String) (fault : Iso.Fault)
  | json (fault : Json.SyntaxFault)
  | notIterable (type : String)
  | notPair (place : Nat)
  | pairLength (place length : Nat)
  | unhashable (type : String)
  | negativeHistory
  | longHistory
  | noFile (path : String)
  | isDirectory (path : String)
  | notDirectory (path : String)
  | takenKey (key : String)
  | unknownLevel (text : String)
  | template (fault : Template.Fault)
  | epoch (fault : Epoch.Fault)
  /-- A closing tag in text to be printed closes nothing. -/
  | markup (fault : Markup.Fault)

namespace Foreign

def isoText (text : String) : Iso.Fault → String
  | .malformed => "Invalid isoformat string: " ++ Text.quoted text
  | .field bad => bad.message
  | .offset micros =>
    "offset must be a timedelta strictly between -timedelta(hours=24) and timedelta(hours=24), " ++
      "not datetime.timedelta(" ++ Iso.spanText micros ++ ")."

def typeName : Foreign → String
  | .outside kind _ => kind.name
  | .database fault => fault.name
  | .notChoice _ _ | .firstDay | .unreadableTime _ | .timestamp _ _ | .pairLength _ _ | .negativeHistory
  | .unknownLevel _ => "ValueError"
  | .dateRange | .longWindow _ | .hugeWindow | .longHistory => "OverflowError"
  | .json fault =>
    match fault with
    | .malformed _ _ _ _ => "JSONDecodeError"
    | .longNumber _ => "ValueError"
  | .notIterable _ | .notPair _ | .unhashable _ => "TypeError"
  | .noFile _ => "FileNotFoundError"
  | .isDirectory _ => "IsADirectoryError"
  | .notDirectory _ => "NotADirectoryError"
  | .takenKey _ => "KeyError"
  | .template fault => fault.typeName
  | .epoch fault => fault.typeName
  | .markup _ => "MarkupError"

def text : Foreign → String
  | .outside kind message =>
    match kind, message with
    | .key, some message => Text.quoted message
    | _, message => message.getD ""
  | .database fault => fault.text
  | .notChoice value kind => Text.quoted value ++ " is not a valid " ++ kind
  | .dateRange => "date value out of range"
  | .longWindow days => s!"days={days}; must have magnitude <= 999999999"
  | .firstDay => "year 0 is out of range"
  | .hugeWindow => "Python int too large to convert to C int"
  | .unreadableTime text => Column.complaint text
  | .timestamp text fault => isoText text fault
  | .json fault => fault.message
  | .notIterable type => s!"'{type}' object is not iterable"
  | .notPair place =>
    s!"cannot convert dictionary update sequence element #{place} to a sequence"
  | .pairLength place length =>
    s!"dictionary update sequence element #{place} has length {length}; 2 is required"
  | .unhashable type => s!"unhashable type: '{type}'"
  | .negativeHistory => "maxlen must be non-negative"
  | .longHistory => "Python int too large to convert to C ssize_t"
  | .noFile path => "[Errno 2] No such file or directory: " ++ Text.quoted path
  | .isDirectory path => "[Errno 21] Is a directory: " ++ Text.quoted path
  | .notDirectory path => "[Errno 20] Not a directory: " ++ Text.quoted path
  | .takenKey key =>
    Text.quoted ("Attempt to overwrite " ++ Text.quoted key ++ " in LogRecord")
  | .unknownLevel text => "Unknown level: " ++ Text.quoted text
  | .template fault => fault.text
  | .epoch fault => fault.text
  | .markup fault => fault.text

end Foreign

inductive ErrorKind where
  | general (severity : Severity) (category : Category) (retryable : Bool)
  | configuration (field : Option String) (value : Json)
  | validation (field : Option String) (value : Json)
  | store (operation : Option String)
  | stateConflict (requestId : String) (currentStatus : Option String)
  | notFound (requestId : String)
  | duplicateCertificate (decision : Decision Double) (requiresOverride : Bool)

namespace ErrorKind

def typeName : ErrorKind → String
  | .general _ _ _ => "DuplicateDetectionError"
  | .configuration _ _ => "ConfigurationError"
  | .validation _ _ => "ValidationError"
  | .store _ => "StoreError"
  | .stateConflict _ _ => "StateConflictError"
  | .notFound _ => "OverrideRequestNotFoundError"
  | .duplicateCertificate _ _ => "DuplicateCertificateError"

def severity : ErrorKind → Severity
  | .general severity _ _ => severity
  | .configuration _ _ | .store _ => .high
  | .validation _ _ | .notFound _ | .duplicateCertificate _ _ => .low
  | .stateConflict _ _ => .medium

def category : ErrorKind → Category
  | .general _ category _ => category
  | .configuration _ _ => .configuration
  | .validation _ _ => .validation
  | .store _ => .store
  | .stateConflict _ _ => .stateConflict
  | .notFound _ => .notFound
  | .duplicateCertificate _ _ => .duplicate

def retryable : ErrorKind → Bool
  | .general _ _ retryable => retryable
  | .store _ => true
  | _ => false

end ErrorKind

structure ErrorWith (Cause : Type) where
  kind : ErrorKind
  message : String
  context : Option ErrorContext := none
  cause : Option Cause := none
  /-- The kind of the failure that it was raised from. -/
  raisedFrom : Option String := none

inductive Failure where
  | detection (error : ErrorWith Failure)
  | rejected (rejection : Wire.Rejection)
  | foreign (failure : Foreign)

abbrev DetectionError := ErrorWith Failure

namespace Failure

def typeName : Failure → String
  | .detection error => error.kind.typeName
  | .rejected _ => "ValidationError"
  | .foreign failure => failure.typeName

def text : Failure → String
  | .detection error => error.message
  | .rejected rejection => rejection.message
  | .foreign failure => failure.text

def ofChecked {α : Type} (model : String) : Wire.Checked α → Except Failure α
  | .valid value => .ok value
  | .invalid first more => .error (.rejected { model := model, first := first, more := more })
  | .overflow => .error (.foreign .dateRange)

end Failure

namespace ErrorWith

def ofStore (message operation : String) (cause : Failure) : DetectionError :=
  { kind := .store (some operation)
    message := message
    cause := some cause
    raisedFrom := some cause.typeName }

def notFound (requestId : String) : DetectionError :=
  { kind := .notFound requestId, message := s!"Override request {requestId} not found" }

def conflict (requestId currentStatus : String) : DetectionError :=
  { kind := .stateConflict requestId (some currentStatus)
    message := s!"Override request {requestId} is already {currentStatus}" }

def invalid (field : String) (value : Json) (message : String) : DetectionError :=
  { kind := .validation (some field) value, message := message }

end ErrorWith

end DuplicateGuard
