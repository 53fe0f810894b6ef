import IngestConsole.Service.Client
import IngestConsole.Text.Quoted

/-!
# Settings

Where the service is and how often it is asked.  Settings are checked before a connection is made:
first the address, then the durations in the order of their declaration.
-/

set_option autoImplicit false

namespace IngestConsole.Service

open Text

/-- The address of a service on the own machine. -/
def defaultAddress : String := "http://127.0.0.1:2112"

/-- The time that a response may take unless told otherwise, in milliseconds. -/
def defaultRequestTimeout : UInt64 := 10000

/-- Settings of a console; durations are in milliseconds. -/
structure Settings where
  address : String := defaultAddress
  requestTimeout : UInt64 := defaultRequestTimeout
  /-- The time between two polls of the status of the open task. -/
  statusInterval : UInt64 := 5000
  /-- The time between two polls of the process info. -/
  overviewInterval : UInt64 := 30000
  deriving DecidableEq, Repr

/-- A duration of the settings. -/
inductive Duration
  | requestTimeout
  | statusInterval
  | overviewInterval
  deriving DecidableEq, Repr

namespace Duration

/-- The durations in the order in which they are checked. -/
def all : List Duration :=
  [requestTimeout, statusInterval, overviewInterval]

/-- The name of a duration. -/
def name : Duration → String
  | requestTimeout => "request_timeout_ms"
  | statusInterval => "status_interval_ms"
  | overviewInterval => "overview_interval_ms"

/-- The value of a duration. -/
def of (s : Settings) : Duration → UInt64
  | requestTimeout => s.requestTimeout
  | statusInterval => s.statusInterval
  | overviewInterval => s.overviewInterval

end Duration

/-- What is wrong with an address. -/
inductive AddressFault
  | malformed (e : Url.UrlError)
  | unsupportedScheme (scheme : String)
  deriving DecidableEq, Repr

/-- The wording of a fault of an address. -/
def AddressFault.message : AddressFault → String
  | malformed e => e.message
  | unsupportedScheme scheme => "unsupported scheme " ++ scheme

/-- Why settings are refused. -/
inductive SettingsError
  | invalidAddress (address : String) (fault : AddressFault)
  | zeroDuration (duration : Duration)
  deriving DecidableEq, Repr

/-- The wording of refused settings. -/
def SettingsError.message : SettingsError → String
  | invalidAddress address fault =>
    "invalid base url " ++ quoted address ++ ": " ++ fault.message
  | zeroDuration duration => duration.name ++ " must be greater than zero"

/-- Why a console does not connect. -/
inductive ConnectError
  | settings (e : SettingsError)
  | client (e : CallError)
  deriving DecidableEq, Repr

/-- The wording of a failed connection. -/
def ConnectError.message (w : Wording) : ConnectError → String
  | settings e => e.message
  | client e => e.message w

namespace Settings

/-- The schemes under which a service can be reached. -/
def schemes : List String :=
  ["http", "https"]

/-- What is wrong with the address. -/
def addressFault? (s : Settings) : Option AddressFault :=
  match Url.parse s.address.toList with
  | .error e => some (.malformed e)
  | .ok url =>
    let scheme := String.ofList url.scheme
    if schemes.contains scheme then none else some (.unsupportedScheme scheme)

/-- The first duration that is zero. -/
def zeroDuration? (s : Settings) : Option Duration :=
  Duration.all.find? fun d => d.of s == 0

/-- Refuses an address that is no URL of a supported scheme, and durations of zero. -/
def validate (s : Settings) : Except SettingsError Unit :=
  match s.addressFault? with
  | some fault => .error (.invalidAddress s.address fault)
  | none =>
    match s.zeroDuration? with
    | some d => .error (.zeroDuration d)
    | none => .ok ()

/-- A client of the service that the settings name, if they are valid. -/
def connect (s : Settings) : Except ConnectError Client :=
  match s.validate with
  | .error e => .error (.settings e)
  | .ok () => (Client.ofAddress s.address s.requestTimeout).mapError .client

end Settings

end IngestConsole.Service
