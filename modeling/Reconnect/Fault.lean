import Reconnect.Text.Quoted

/-!
# Faults

Why an operation failed, one constructor per cause, and the words in which the cause is told. The
words stand in the functions `text` and `message` and nowhere else.
-/

namespace Reconnect

/-- A field of the server's answer to a connect request. -/
inductive ResponseField where
  | protocolVersion
  | timeout
  | sessionId
  | secret
deriving DecidableEq, Repr

def ResponseField.name : ResponseField → String
  | protocolVersion => "protocolVersion"
  | timeout => "timeOut"
  | sessionId => "sessionId"
  | secret => "passwd"

/-- Why bytes are not an answer to a connect request. -/
inductive DecodeFault where
  /-- The bytes end inside the field. -/
  | unexpectedEnd (field : ResponseField)
  /-- The field declares a length that no field has. -/
  | invalidLength (field : ResponseField) (length : Int32)
deriving DecidableEq, Repr

def DecodeFault.message : DecodeFault → String
  | unexpectedEnd field => "unexpected end of data while reading " ++ field.name
  | invalidLength field length =>
    "invalid length " ++ toString length.toInt ++ " for " ++ field.name

/-- What went wrong below the transport, in the byte stream or in the operating system. -/
inductive IoCause where
  | addrInUse | addrNotAvailable | alreadyExists | argumentListTooLong | brokenPipe
  | connectionAborted | connectionRefused | connectionReset | crossesDevices | deadlock
  | directoryNotEmpty | executableFileBusy | fileTooLarge | hostUnreachable | interrupted
  | invalidData | invalidFilename | invalidInput | isADirectory | networkDown
  | networkUnreachable | notADirectory | notConnected | notFound | notSeekable | other
  | outOfMemory | permissionDenied | quotaExceeded | readOnlyFilesystem | resourceBusy
  | staleNetworkFileHandle | storageFull | timedOut | tooManyLinks | unexpectedEnd | unsupported
  | wouldBlock | writeZero
deriving DecidableEq, Repr

def IoCause.text : IoCause → String
  | addrInUse => "address in use"
  | addrNotAvailable => "address not available"
  | alreadyExists => "entity already exists"
  | argumentListTooLong => "argument list too long"
  | brokenPipe => "broken pipe"
  | connectionAborted => "connection aborted"
  | connectionRefused => "connection refused"
  | connectionReset => "connection reset"
  | crossesDevices => "cross-device link or rename"
  | deadlock => "deadlock"
  | directoryNotEmpty => "directory not empty"
  | executableFileBusy => "executable file busy"
  | fileTooLarge => "file too large"
  | hostUnreachable => "host unreachable"
  | interrupted => "operation interrupted"
  | invalidData => "invalid data"
  | invalidFilename => "invalid filename"
  | invalidInput => "invalid input parameter"
  | isADirectory => "is a directory"
  | networkDown => "network down"
  | networkUnreachable => "network unreachable"
  | notADirectory => "not a directory"
  | notConnected => "not connected"
  | notFound => "entity not found"
  | notSeekable => "seek on unseekable file"
  | other => "other error"
  | outOfMemory => "out of memory"
  | permissionDenied => "permission denied"
  | quotaExceeded => "quota exceeded"
  | readOnlyFilesystem => "read-only filesystem or storage medium"
  | resourceBusy => "resource busy"
  | staleNetworkFileHandle => "stale network file handle"
  | storageFull => "no storage space"
  | timedOut => "timed out"
  | tooManyLinks => "too many links"
  | unexpectedEnd => "unexpected end of file"
  | unsupported => "unsupported"
  | wouldBlock => "operation would block"
  | writeZero => "write zero"

/-- A failure of the byte stream, by whom it was reported. -/
inductive IoFault where
  /-- The bare cause. -/
  | plain (cause : IoCause)
  /-- A cause told in words of its own. -/
  | detailed (cause : IoCause) (words : String)
  /-- A cause reported by the operating system. -/
  | system (cause : IoCause)
deriving DecidableEq, Repr

namespace IoFault

/-- The cause, whoever reported it. -/
def cause : IoFault → IoCause
  | plain cause => cause
  | detailed cause _ => cause
  | system cause => cause

/-- The words of its own, or else those of the cause. -/
def text : IoFault → String
  | plain cause => cause.text
  | detailed _ words => words
  | system cause => cause.text

end IoFault

/-- Why a transport operation failed. -/
inductive Fault where
  /-- A frame declares a length outside `0 … limit - 1`. -/
  | framing (length : Int) (limit : Nat)
  /-- The answer to the connect request cannot be read. -/
  | handshake (cause : DecodeFault)
  | io (cause : IoFault)
  /-- The connection attempt took too long. -/
  | connectTimeout
  | peerClosed
  | notConnected
  | closed
  /-- The client of the transport gave up on the connection. -/
  | client (words : String)
deriving DecidableEq, Repr

namespace Fault

def message : Fault → String
  | framing length limit =>
    "packet len " ++ toString length ++ " is out of range (max " ++ toString limit ++ ")"
  | handshake cause => "handshake decode failed: " ++ cause.message
  | io cause => "i/o error: " ++ cause.text
  | connectTimeout => "connect timed out"
  | peerClosed => "connection closed by peer"
  | notConnected => "not connected"
  | closed => "transport is closed"
  | client words => "driver error: " ++ words

/-- The peer broke the framing. -/
def breaksFraming : Fault → Bool
  | framing _ _ => true
  | _ => false

/-- No later operation can succeed. -/
def isFinal : Fault → Bool
  | closed => true
  | _ => false

/-- The connection ended under way, so another attempt makes sense. -/
def isLoss : Fault → Bool
  | peerClosed => true
  | io fault =>
    match fault.cause with
    | .connectionReset | .connectionAborted | .brokenPipe | .unexpectedEnd => true
    | _ => false
  | _ => false

end Fault

/-- Why there is no set of hosts to connect to. -/
inductive HostFault where
  | emptyMembership
  /-- None of the hosts has an address. -/
  | unresolvable (hosts : List String)
deriving DecidableEq, Repr

def HostFault.message : HostFault → String
  | emptyMembership => "membership list is empty"
  | unresolvable hosts => "no address could be resolved from " ++ Text.quoteAll hosts

end Reconnect
