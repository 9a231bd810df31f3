import FaultPlane.Json.Record
import FaultPlane.Json.Variant
import FaultPlane.Text.Blank

/-!
# Settings of the control plane

Every setting has a default, so an empty document is a configuration. The codec reads and writes
the document form.
-/

namespace FaultPlane

open FaultPlane.Json (Codec Field Fields)

/-! ### Groups of settings -/

structure ServerSettings where
  bindAddress : String := "0.0.0.0"
  portNumber : UInt16 := 8080
  deriving DecidableEq, Repr, Inhabited

def ServerSettings.codec : Codec ServerSettings :=
  let d : ServerSettings := {}
  Codec.record "ServerConfig"
    (.cons (.withDefault "bind_address" .text d.bindAddress) <|
      .cons (.withDefault "port" .uint16 d.portNumber) .nil)
    (fun (bindAddress, portNumber, ()) => ⟨bindAddress, portNumber⟩)
    (fun s => (s.bindAddress, s.portNumber, ()))

/-- How services are polled. The settle delay lies between the pass at start-up and the pass that
catches up on services which were slow to come up. -/
structure DiscoverySettings where
  enabled : Bool := true
  scanIntervalMs : UInt64 := 30000
  timeoutMs : UInt64 := 5000
  settleDelayMs : UInt64 := 2000
  servicePort : UInt16 := 8080
  deriving DecidableEq, Repr, Inhabited

def DiscoverySettings.codec : Codec DiscoverySettings :=
  let d : DiscoverySettings := {}
  Codec.record "DiscoveryConfig"
    (.cons (.withDefault "enabled" .bool d.enabled) <|
      .cons (.withDefault "scan_interval_ms" .uint64 d.scanIntervalMs) <|
      .cons (.withDefault "timeout_ms" .uint64 d.timeoutMs) <|
      .cons (.withDefault "settle_delay_ms" .uint64 d.settleDelayMs) <|
      .cons (.withDefault "service_port" .uint16 d.servicePort) .nil)
    (fun (enabled, scan, timeout, settle, servicePort, ()) =>
      ⟨enabled, scan, timeout, settle, servicePort⟩)
    (fun s => (s.enabled, s.scanIntervalMs, s.timeoutMs, s.settleDelayMs, s.servicePort, ()))

/-- A service that is polled, with its address if that does not follow from its id. -/
structure ServiceEntry where
  id : String
  name : String
  address : Option String := none
  deriving DecidableEq, Repr, Inhabited

namespace ServiceEntry

def codec : Codec ServiceEntry :=
  Codec.record "ServiceConfig"
    (.cons (.required "id" .text) <|
      .cons (.required "name" .text) <|
      .cons (.optional "address" .text) .nil)
    (fun (id, name, address, ()) => ⟨id, name, address⟩)
    (fun s => (s.id, s.name, s.address, ()))

/-- The address of a service inside the cluster. -/
def conventionalUrl (id : String) (servicePort : UInt16) : String :=
  "http://" ++ id ++ ":" ++ Decimal.ofNat servicePort.toNat

/-- The address of a service, without slashes at its end if it was given. -/
def baseUrl (s : ServiceEntry) (servicePort : UInt16) : String :=
  match s.address with
  | some address => Text.dropTrailing '/' address
  | none => conventionalUrl s.id servicePort

end ServiceEntry

/-- How the cluster is used. The protected resources are those that a stop-all leaves in place. -/
structure ChaosSettings where
  namespaceName : String := "chaos"
  jvmPort : UInt16 := 9277
  commandTimeoutMs : UInt64 := 30000
  sweepIntervalMs : UInt64 := 60000
  kubectl : String := "kubectl"
  protectedNames : List String := []
  deriving DecidableEq, Repr, Inhabited

def ChaosSettings.codec : Codec ChaosSettings :=
  let d : ChaosSettings := {}
  Codec.record "ChaosConfig"
    (.cons (.withDefault "namespace" .text d.namespaceName) <|
      .cons (.withDefault "jvm_port" .uint16 d.jvmPort) <|
      .cons (.withDefault "command_timeout_ms" .uint64 d.commandTimeoutMs) <|
      .cons (.withDefault "sweep_interval_ms" .uint64 d.sweepIntervalMs) <|
      .cons (.withDefault "kubectl" .text d.kubectl) <|
      .cons (.withDefault "protected_resources" (.list .text) d.protectedNames) .nil)
    (fun (namespaceName, jvmPort, timeout, sweep, kubectl, protectedNames, ()) =>
      ⟨namespaceName, jvmPort, timeout, sweep, kubectl, protectedNames⟩)
    (fun s => (s.namespaceName, s.jvmPort, s.commandTimeoutMs, s.sweepIntervalMs, s.kubectl,
      s.protectedNames, ()))

/-- Where the catalog is, and the packages of services whose classes it does not know. -/
structure CatalogSettings where
  path : Option String := some "service_dependencies_with_upstream.json"
  packageOverrides : Table String := .empty

def CatalogSettings.codec : Codec CatalogSettings :=
  let d : CatalogSettings := {}
  Codec.record "CatalogConfig"
    (.cons { Field.nullable "path" .path with absent := some d.path, beyond := some d.path } <|
      .cons (.withDefault "package_overrides" .dictionary d.packageOverrides) .nil)
    (fun (path, packageOverrides, ()) => ⟨path, packageOverrides⟩)
    (fun s => (s.path, s.packageOverrides, ()))

/-! ### The configuration -/

/-- The services that are polled if none are configured. -/
def standardServices : List ServiceEntry :=
  [⟨"ts-order-service", "Order Service", none⟩,
    ⟨"ts-station-service", "Station Service", none⟩,
    ⟨"ts-food-service", "Food Service", none⟩,
    ⟨"ts-station-food-service", "Station Food Service", none⟩,
    ⟨"ts-train-food-service", "Train Food Service", none⟩,
    ⟨"ts-travel-service", "Travel Service", none⟩,
    ⟨"ts-route-service", "Route Service", none⟩,
    ⟨"ts-price-service", "Price Service", none⟩,
    ⟨"ts-seat-service", "Seat Service", none⟩,
    ⟨"ts-preserve-service", "Preserve Service", none⟩,
    ⟨"ts-user-service", "User Service", none⟩,
    ⟨"ts-auth-service", "Auth Service", none⟩]

structure Config where
  server : ServerSettings := {}
  discovery : DiscoverySettings := {}
  services : List ServiceEntry := standardServices
  chaos : ChaosSettings := {}
  catalog : CatalogSettings := {}

namespace Config

def codec : Codec Config :=
  let d : Config := {}
  Codec.record "ControlPlaneConfig"
    (.cons (.withDefault "server" ServerSettings.codec d.server) <|
      .cons (.withDefault "discovery" DiscoverySettings.codec d.discovery) <|
      .cons (.withDefault "services" (.list ServiceEntry.codec) d.services) <|
      .cons (.withDefault "chaos" ChaosSettings.codec d.chaos) <|
      .cons (.withDefault "catalog" CatalogSettings.codec d.catalog) .nil)
    (fun (server, discovery, services, chaos, catalog, ()) =>
      ⟨server, discovery, services, chaos, catalog⟩)
    (fun c => (c.server, c.discovery, c.services, c.chaos, c.catalog, ()))

/-- The first configured service with an id. -/
def service? (c : Config) (id : String) : Option ServiceEntry := c.services.find? (·.id == id)

/-- The base address of a service: the configured one, or the conventional one of a service that is
not configured. -/
def baseUrlOf (services : List ServiceEntry) (servicePort : UInt16) (id : String) : String :=
  match services.find? (·.id == id) with
  | some s => s.baseUrl servicePort
  | none => ServiceEntry.conventionalUrl id servicePort

end Config

end FaultPlane
