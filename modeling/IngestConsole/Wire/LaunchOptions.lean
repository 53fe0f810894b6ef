import IngestConsole.Json.Record
import IngestConsole.Text.Blank

/-!
# Launch options

The options that the service was started with.  They tell where it takes its configuration from:
a local file if one is named, else a remote registry.
-/

set_option autoImplicit false

namespace IngestConsole.Wire

open Json

/-- The options that the service was started with. -/
structure LaunchOptions where
  logLevel : String := ""
  logPaths : String := ""
  httpHost : String := ""
  httpPort : UInt16 := 0
  localFile : String := ""
  registryAddr : String := ""
  registryNamespace : String := ""
  registryGroup : String := ""
  registryUsername : String := ""
  registryPassword : String := ""
  registryDataId : String := ""
  registryServiceName : String := ""
  deriving DecidableEq

/-- Where the service takes its configuration from. -/
inductive ConfigSource
  | localFile (path : String)
  | remote (addr registryNamespace : Option String)
  deriving DecidableEq, Repr

/-- A text, unless it is empty. -/
def nonEmpty? (s : String) : Option String :=
  if s.isEmpty then none else some s

namespace LaunchOptions

/-- The names of the fields on the wire. -/
def fieldNames : List String :=
  ["LogLevel", "LogPaths", "HTTPHost", "HTTPPort", "LocalCfgFile", "NacosAddr",
   "NacosNamespaceID", "NacosGroup", "NacosUsername", "NacosPassword", "NacosDataID",
   "NacosServiceName"]

/-- Reads launch options. -/
def decode? (d : Document) : Option LaunchOptions := do
  let fs ← d.fields? fieldNames
  let logLevel ← fs.get "LogLevel" Document.text? ""
  let logPaths ← fs.get "LogPaths" Document.text? ""
  let httpHost ← fs.get "HTTPHost" Document.text? ""
  let httpPort ← fs.get "HTTPPort" Document.uint16? 0
  let localFile ← fs.get "LocalCfgFile" Document.text? ""
  let registryAddr ← fs.get "NacosAddr" Document.text? ""
  let registryNamespace ← fs.get "NacosNamespaceID" Document.text? ""
  let registryGroup ← fs.get "NacosGroup" Document.text? ""
  let registryUsername ← fs.get "NacosUsername" Document.text? ""
  let registryPassword ← fs.get "NacosPassword" Document.text? ""
  let registryDataId ← fs.get "NacosDataID" Document.text? ""
  let registryServiceName ← fs.get "NacosServiceName" Document.text? ""
  pure
    { logLevel, logPaths, httpHost, httpPort, localFile, registryAddr, registryNamespace
      registryGroup, registryUsername, registryPassword, registryDataId, registryServiceName }

/-- The members of written launch options. -/
def members (o : LaunchOptions) : List (String × Value) :=
  [("LogLevel", .text o.logLevel), ("LogPaths", .text o.logPaths),
   ("HTTPHost", .text o.httpHost), ("HTTPPort", .uint64 o.httpPort.toUInt64),
   ("LocalCfgFile", .text o.localFile), ("NacosAddr", .text o.registryAddr),
   ("NacosNamespaceID", .text o.registryNamespace), ("NacosGroup", .text o.registryGroup),
   ("NacosUsername", .text o.registryUsername), ("NacosPassword", .text o.registryPassword),
   ("NacosDataID", .text o.registryDataId),
   ("NacosServiceName", .text o.registryServiceName)]

/-- Writes launch options. -/
def encode (o : LaunchOptions) : Value :=
  .ofMembers o.members

/-- Where the configuration comes from: the local file, if its name is more than blanks. -/
def configSource (o : LaunchOptions) : ConfigSource :=
  if (Text.trim o.localFile.toList).isEmpty then
    .remote (nonEmpty? o.registryAddr) (nonEmpty? o.registryNamespace)
  else .localFile o.localFile

end LaunchOptions

end IngestConsole.Wire
