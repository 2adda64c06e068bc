import CacheSteward.Record.Violation

namespace CacheSteward

/-! Everything that can end an operation without a result.

A fault is known (it has a code, details and possibly a cause), reported by the control plane, an
invalid record, or plain: a failure of the machinery underneath, told apart by its kind.  The text
of a fault names all of it, causes included.
-/

inductive ErrorCode where
  | internal
  | validation
  | configuration
  | transientRemote
  | conflictState
  | instanceNotFound
  | remoteOperationFailed
  | unexpectedState
  | operationTimeout
  | operationInProgress
deriving Repr, DecidableEq

instance : Enumerated ErrorCode where
  title := "ErrorCode"
  all := [.internal, .validation, .configuration, .transientRemote, .conflictState,
    .instanceNotFound, .remoteOperationFailed, .unexpectedState, .operationTimeout,
    .operationInProgress]
  member code :=
    let word := match code with
      | .internal => "INTERNAL_ERROR"
      | .validation => "VALIDATION_ERROR"
      | .configuration => "CONFIGURATION_ERROR"
      | .transientRemote => "TRANSIENT_REMOTE_ERROR"
      | .conflictState => "CONFLICT_STATE"
      | .instanceNotFound => "INSTANCE_NOT_FOUND"
      | .remoteOperationFailed => "REMOTE_OPERATION_FAILED"
      | .unexpectedState => "UNEXPECTED_STATE"
      | .operationTimeout => "OPERATION_TIMEOUT"
      | .operationInProgress => "OPERATION_IN_PROGRESS"
    ⟨word, word⟩

inductive FaultKind where
  | general (code : ErrorCode)
  | validation
  | configuration
  | transientRemote
  | conflictState
  | instanceNotFound
  | remoteOperation
  | unexpectedState (status : Value)
  | operationTimeout (elapsed : Value)
  | operationInProgress
deriving DecidableEq

def FaultKind.code : FaultKind → ErrorCode
  | .general code => code
  | .validation => .validation
  | .configuration => .configuration
  | .transientRemote => .transientRemote
  | .conflictState => .conflictState
  | .instanceNotFound => .instanceNotFound
  | .remoteOperation => .remoteOperationFailed
  | .unexpectedState _ => .unexpectedState
  | .operationTimeout _ => .operationTimeout
  | .operationInProgress => .operationInProgress

def FaultKind.title : FaultKind → String
  | .general _ => "ScsOpsError"
  | .validation => "ValidationError"
  | .configuration => "ConfigurationError"
  | .transientRemote => "TransientRemoteError"
  | .conflictState => "ConflictStateError"
  | .instanceNotFound => "InstanceNotFoundError"
  | .remoteOperation => "RemoteOperationError"
  | .unexpectedState _ => "UnexpectedStateError"
  | .operationTimeout _ => "OperationTimeoutError"
  | .operationInProgress => "OperationInProgressError"

inductive PlainKind where
  | value
  | mismatch
  | key
  | noSuchPart
  | lookup
  | runtime
  | arithmetic
  | zeroDivision
  | overflow
  /-- A record type cannot decide which of its variants a document means. -/
  | variant
  | document
  | system
  | connection
  | connectionReset
  | connectionRefused
  | connectionAborted
  | brokenPipe
  | timeout
  | blocking
  | childProcess
  | fileExists
  | fileNotFound
  | interrupted
  | isDirectory
  | notDirectory
  | permission
  | processLookup
deriving Repr, DecidableEq

namespace PlainKind

def title : PlainKind → String
  | .value => "ValueError"
  | .mismatch => "TypeError"
  | .key => "KeyError"
  | .noSuchPart => "AttributeError"
  | .lookup => "LookupError"
  | .runtime => "RuntimeError"
  | .arithmetic => "ArithmeticError"
  | .zeroDivision => "ZeroDivisionError"
  | .overflow => "OverflowError"
  | .variant => "ConfigError"
  | .document => "YAMLError"
  | .system => "OSError"
  | .connection => "ConnectionError"
  | .connectionReset => "ConnectionResetError"
  | .connectionRefused => "ConnectionRefusedError"
  | .connectionAborted => "ConnectionAbortedError"
  | .brokenPipe => "BrokenPipeError"
  | .timeout => "TimeoutError"
  | .blocking => "BlockingIOError"
  | .childProcess => "ChildProcessError"
  | .fileExists => "FileExistsError"
  | .fileNotFound => "FileNotFoundError"
  | .interrupted => "InterruptedError"
  | .isDirectory => "IsADirectoryError"
  | .notDirectory => "NotADirectoryError"
  | .permission => "PermissionError"
  | .processLookup => "ProcessLookupError"

def isConnection : PlainKind → Bool
  | .connection | .connectionReset | .connectionRefused | .connectionAborted | .brokenPipe => true
  | _ => false

def isSystem : PlainKind → Bool
  | .value | .mismatch | .key | .noSuchPart | .lookup | .runtime | .arithmetic | .zeroDivision
  | .overflow | .variant | .document => false
  | _ => true

def ofSystemNumber : Int → PlainKind
  | 1 | 13 => .permission
  | 2 => .fileNotFound
  | 3 => .processLookup
  | 4 => .interrupted
  | 10 => .childProcess
  | 11 | 114 | 115 => .blocking
  | 17 => .fileExists
  | 20 => .notDirectory
  | 21 => .isDirectory
  | 32 | 108 => .brokenPipe
  | 103 => .connectionAborted
  | 104 => .connectionReset
  | 110 => .timeout
  | 111 => .connectionRefused
  | _ => .system

end PlainKind

inductive Fault where
  | known (kind : FaultKind) (message : String) (details : List (String × Value))
      (cause : Option Fault)
  | remote (code message : String) (status : Option Amount) (requestId : Option String)
  | plain (kind : PlainKind) (args : List Value)
  | unlisted (enumeration : String) (member : Member)
  | invalidRecord (record : String) (violations : List Violation)

instance : Inhabited Fault := ⟨.plain .runtime []⟩

namespace Fault

def decEq (a b : Fault) : Decidable (a = b) :=
  if sorts : a.ctorIdx = b.ctorIdx then
    match a, b, sorts with
    | .known _ _ _ cause, .known _ _ _ other, _ =>
        have : Decidable (cause = other) :=
          match cause, other with
          | none, none => isTrue rfl
          | none, some _ | some _, none => isFalse nofun
          | some cause, some other =>
              have := decEq cause other
              decidable_of_decidable_of_eq (Option.some.injEq ..).symm
        decidable_of_decidable_of_eq (known.injEq ..).symm
    | .remote .., .remote .., _ => decidable_of_decidable_of_eq (remote.injEq ..).symm
    | .plain .., .plain .., _ => decidable_of_decidable_of_eq (plain.injEq ..).symm
    | .unlisted .., .unlisted .., _ => decidable_of_decidable_of_eq (unlisted.injEq ..).symm
    | .invalidRecord .., .invalidRecord .., _ =>
        decidable_of_decidable_of_eq (invalidRecord.injEq ..).symm
  else isFalse fun same => sorts (congrArg Fault.ctorIdx same)

instance : DecidableEq Fault := decEq

/-- A plain fault of a system call.  A general one whose arguments start with an error number is of
the kind that the number has. -/
def system (args : List Value) : Fault :=
  if 2 ≤ args.length && args.length ≤ 5 then
    match args.head?.bind Value.amount? with
    | some a =>
        match a.whole? with
        | some n => .plain (.ofSystemNumber n) args
        | none => .plain .system args
    | none => .plain .system args
  else .plain .system args

def plainText (kind : PlainKind) (args : List Value) : String :=
  let usual : String :=
    match args with
    | [] => ""
    | [v] => if kind == .key then v.inside else v.shown
    | vs => Value.shownTuple vs
  if kind.isSystem then
    match args with
    | [number, reason] => "[Errno " ++ number.shown ++ "] " ++ reason.shown
    | number :: reason :: file :: rest =>
        if rest.length ≤ 2 then
          match file with
          | .null => "[Errno " ++ number.shown ++ "] " ++ reason.shown
          | _ => "[Errno " ++ number.shown ++ "] " ++ reason.shown ++ ": " ++ file.inside
        else usual
    | _ => usual
  else usual

def remoteText (code message : String) (status : Option Amount) (requestId : Option String) :
    String :=
  let status := match status with | some a => "; HTTP Status: " ++ a.text | none => ""
  let request := match requestId with
    | some id => if id.isEmpty then "" else "; RequestId: " ++ id
    | none => ""
  Text.trimBlanks (message ++ " [Code: " ++ code ++ status ++ request ++ "]")

def detailsText (details : List (String × Value)) : String :=
  Value.commaSeparated (details.map fun (name, v) => name ++ "=" ++ v.shown)

def knownText (kind : FaultKind) (message : String) (details : List (String × Value)) : String :=
  Enumerated.word kind.code ++ ": " ++ message ++
    (if details.isEmpty then "" else " (" ++ detailsText details ++ ")")

def text : Fault → String
  | .known kind message details none => knownText kind message details
  | .known kind message details (some cause) =>
      knownText kind message details ++ " [caused by: " ++ cause.text ++ "]"
  | .remote code message status requestId => remoteText code message status requestId
  | .plain kind args => plainText kind args
  | .unlisted enumeration member => Enumerated.shownMember enumeration member
  | .invalidRecord record violations => Violation.reportAll record violations

def title : Fault → String
  | .known kind _ _ _ => kind.title
  | .remote _ _ _ _ => "RemoteServiceError"
  | .plain kind _ => kind.title
  | .unlisted _ _ => PlainKind.title .key
  | .invalidRecord _ _ => "ValidationError"

def args : Fault → List Value
  | .known _ message _ _ => [.text message]
  | .remote code message _ _ => [.text (if message.isEmpty then code else message)]
  | .plain kind args =>
      if kind.isSystem && 3 ≤ args.length && args.length ≤ 5 then
        match args.drop 2 with
        | .null :: _ => args
        | _ => args.take 2
      else args
  | .unlisted _ member => [.text member.word]
  | .invalidRecord _ _ => []

def details : Fault → List (String × Value)
  | .known _ _ details _ => details
  | _ => []

def detail? (name : String) (fault : Fault) : Option Value := fault.details.lookup name

def cause? : Fault → Option Fault
  | .known _ _ _ cause => cause
  | _ => none

def isKnown : Fault → Bool
  | .known _ _ _ _ => true
  | _ => false

/-- Sets a detail, in place when it is there and at the end otherwise. -/
def putDetail (name : String) (v : Value) : List (String × Value) → List (String × Value)
  | [] => [(name, v)]
  | (k, w) :: rest => if k = name then (k, v) :: rest else (k, w) :: putDetail name v rest

/-- Adds a detail unless there is one of that name. -/
def addDetail (name : String) (v : Value) (details : List (String × Value)) :
    List (String × Value) :=
  if (details.lookup name).isSome then details else details ++ [(name, v)]

def mapDetails (f : List (String × Value) → List (String × Value)) : Fault → Fault
  | .known kind message details cause => .known kind message (f details) cause
  | fault => fault

def response (kind : FaultKind) (message : String) (details : List (String × Value))
    (cause : Option Fault) : Value :=
  .fields ([("error", .text (Enumerated.word kind.code)), ("message", .text message),
    ("details", .fields details)] ++
    match cause with | some fault => [("cause", .text fault.text)] | none => [])

/-- The answer that reports any fault; what is not known counts as internal. -/
def report : Fault → Value
  | .known kind message details cause => response kind message details cause
  | fault => response (.general .internal) fault.text [] none

/-- The text added to a report when no failure is being handled. -/
def noTraceText : String := "NoneType: None\n"

/-! ### Faults by what went wrong -/

def operationDetails (operation : Option String) (instanceId : Value) : List (String × Value) :=
  (match operation with
    | some name => if name.isEmpty then [] else [("operation", .text name)]
    | none => []) ++
  (if instanceId.isGiven then [("instance_id", instanceId)] else [])

def validation (message : String) (field : Option String) (value : Value) : Fault :=
  .known .validation message
    ((match field with
      | some name => if name.isEmpty then [] else [("field", .text name)]
      | none => []) ++
    (match value with | .null => [] | v => [("value", .text v.shown)])) none

def configuration (message : String) (key : Option String) : Fault :=
  .known .configuration message
    (match key with
      | some name => if name.isEmpty then [] else [("config_key", .text name)]
      | none => []) none

def transientRemote (message : String) (operation : Option String) (instanceId : Value)
    (cause : Option Fault) : Fault :=
  .known .transientRemote message (operationDetails operation instanceId) cause

def conflictState (message : String) (operation : Option String) (instanceId : Value)
    (cause : Option Fault) : Fault :=
  .known .conflictState message (operationDetails operation instanceId) cause

def instanceNotFound (instanceId : Value) (operation : Option String) (cause : Option Fault) :
    Fault :=
  .known .instanceNotFound ("SCS instance '" ++ instanceId.shown ++ "' not found")
    (operationDetails operation instanceId) cause

def remoteOperation (message : String) (operation : Option String) (instanceId : Value)
    (cause : Option Fault) : Fault :=
  .known .remoteOperation message (operationDetails operation instanceId) cause

def unexpectedState (status : Value) (operation : Option String) (instanceId : Value) : Fault :=
  .known (.unexpectedState status)
    ("SCS instance '" ++ instanceId.shown ++ "' reached unexpected status '" ++ status.shown ++ "'")
    (operationDetails operation instanceId ++ [("status", status)]) none

/-- The budget ran out.  `rounded` is the elapsed time as the details show it. -/
def operationTimeout (message : String) (elapsed rounded : Value) (operation : Option String)
    (instanceId : Value) (lastStatus : Option String) (cause : Option Fault) : Fault :=
  .known (.operationTimeout elapsed) message
    (operationDetails operation instanceId ++ [("elapsed_seconds", rounded)] ++
      match lastStatus with
      | some word => if word.isEmpty then [] else [("last_status", .text word)]
      | none => []) cause

def operationInProgress (instanceId : Value) (pending : Option String) : Fault :=
  .known .operationInProgress
    ("An operation is already in progress for SCS instance '" ++ instanceId.shown ++ "'")
    (("instance_id", instanceId) ::
      match pending with
      | some word => if word.isEmpty then [] else [("pending_operation", .text word)]
      | none => []) none

def noSuchPart (v : Value) (part : String) : Fault :=
  .plain .noSuchPart [.text (Text.quoted v.kindName ++ " object has no attribute " ++
    Text.quoted part)]

def mismatch (message : String) : Fault := .plain .mismatch [.text message]

def wholeTooLarge : Fault := .plain .overflow [.text "int too large to convert to float"]

def unknownMember {α : Type} [Enumerated α] (a : α) : Fault :=
  .unlisted (Enumerated.title α) (Enumerated.member a)

def notIterable (v : Value) : Fault :=
  mismatch (Text.quoted v.kindName ++ " object is not iterable")

def noKey (v : Value) : Fault := mismatch ("unhashable type: " ++ Text.quoted v.kindName)

theorem ok_of_bind {α β : Type} {first : Except Fault α} {next : α → Except Fault β} {b : β}
    (ran : first >>= next = .ok b) : ∃ a, first = .ok a ∧ next a = .ok b := by
  cases first with
  | error fault => cases ran
  | ok a => exact ⟨a, rfl, ran⟩

theorem bind_of_ok {α β : Type} {first : Except Fault α} {a : α} (ran : first = .ok a)
    (next : α → Except Fault β) : first >>= next = next a := by
  rw [ran]
  rfl

theorem error_of_bind {α β : Type} {first : Except Fault α} {next : α → Except Fault β}
    {fault : Fault} (failed : first >>= next = .error fault) :
    first = .error fault ∨ ∃ a, first = .ok a ∧ next a = .error fault := by
  cases first with
  | error reason =>
      cases failed
      exact Or.inl rfl
  | ok a => exact Or.inr ⟨a, rfl, failed⟩

theorem error_of_mapError {α : Type} {result : Except Fault α} {f : Fault → Fault} {fault : Fault}
    (failed : result.mapError f = .error fault) :
    ∃ cause, result = .error cause ∧ f cause = fault := by
  cases result with
  | error cause => exact ⟨cause, rfl, Except.error.inj failed⟩
  | ok a => cases failed

theorem ok_of_map {α β : Type} {first : Except Fault α} {f : α → β} {b : β}
    (mapped : first.map f = .ok b) : ∃ a, first = .ok a ∧ f a = b := by
  cases first with
  | error fault => cases mapped
  | ok a => exact ⟨a, rfl, Except.ok.inj mapped⟩

end Fault

end CacheSteward
