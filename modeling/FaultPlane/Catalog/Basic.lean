import FaultPlane.Json.Record
import FaultPlane.Json.Variant
import FaultPlane.Text.Find
import FaultPlane.Text.Upper
import FaultPlane.Text.Blank

/-!
# The catalog of services

The catalog knows the interfaces of services, the class behind each interface and who calls it. Of
several services or interfaces with the same name the first one counts. Requests for JVM faults are
completed from it.
-/

namespace FaultPlane

open FaultPlane.Json (Codec Field Fields)

/-! ### Entries -/

/-- A service that calls an interface. -/
structure Caller where
  service : String
  interfaceName : String := ""
  methodName : String := ""
  deriving DecidableEq, Repr

/-- Catalog files have names in one case and answers in another; `key` picks the case. -/
def Caller.codecWith (key : String × String → String) : Codec Caller :=
  Codec.record "UpstreamService"
    (.cons (.required (key ("service_name", "serviceName")) .text) <|
      .cons (.withDefault (key ("interface_name", "interfaceName")) .text "") <|
      .cons (.withDefault (key ("method_name", "methodName")) .text "") .nil)
    (fun (service, interfaceName, methodName, ()) => ⟨service, interfaceName, methodName⟩)
    (fun c => (c.service, c.interfaceName, c.methodName, ()))

/-- An interface of a service. -/
structure Interface where
  name : String
  methodName : String
  httpMethod : String := ""
  className : Option String := none
  callers : List Caller := []
  deriving DecidableEq, Repr

namespace Interface

def codecWith (key : String × String → String) : Codec Interface :=
  Codec.record "ServiceInterface"
    (.cons (.required (key ("interface_name", "interfaceName")) .text) <|
      .cons (.required (key ("method_name", "methodName")) .text) <|
      .cons (.withDefault (key ("http_method", "httpMethod")) .text "") <|
      .cons (.optional (key ("class_name", "className")) .text) <|
      .cons (.withDefault (key ("upstream_services", "upstreamServices"))
        (.list (Caller.codecWith key)) []) .nil)
    (fun (name, methodName, httpMethod, className, callers, ()) =>
      ⟨name, methodName, httpMethod, className, callers⟩)
    (fun i => (i.name, i.methodName, i.httpMethod, i.className, i.callers, ()))

/-- Interfaces are read as catalog files have them and written as answers have them. -/
def codec : Codec Interface := ⟨(codecWith Prod.fst).read, (codecWith Prod.snd).write⟩

end Interface

structure CatalogService where
  name : String
  interfaces : List Interface := []
  deriving DecidableEq, Repr

def CatalogService.codec : Codec CatalogService :=
  Codec.record "CatalogService"
    (.cons (.required "service_name" .text) <|
      .cons (.withDefault "interfaces" (.list Interface.codec) []) .nil)
    (fun (name, interfaces, ()) => ⟨name, interfaces⟩)
    (fun s => (s.name, s.interfaces, ()))

/-- The services, and the packages of those whose package does not follow from the name. -/
structure Catalog where
  services : List CatalogService := []
  packages : Table String := .empty

namespace Catalog

/-- The services in a catalog document. -/
def documentCodec : Codec (List CatalogService) :=
  Codec.record "CatalogDocument"
    (.cons (.withDefault "service_dependencies" (.list CatalogService.codec) []) .nil)
    (fun (services, ()) => services)
    (fun services => (services, ()))

def empty : Catalog := {}

/-! ### Look-ups -/

def serviceNames (c : Catalog) : List String := c.services.map (·.name)

def contains (c : Catalog) (service : String) : Bool := c.services.any (·.name == service)

/-- The interfaces of a service; of an unknown service there are none. -/
def interfaces (c : Catalog) (service : String) : List Interface :=
  match c.services.find? (·.name == service) with
  | some s => s.interfaces
  | none => []

/-- The method of an interface. -/
def methodFor? (c : Catalog) (service interfaceName : String) : Option String :=
  ((c.interfaces service).find? (·.name == interfaceName)).map (·.methodName)

/-- The interface of a method. -/
def interfaceFor? (c : Catalog) (service methodName : String) : Option String :=
  ((c.interfaces service).find? (·.methodName == methodName)).map (·.name)

/-- The interfaces that at least one of some services calls; all interfaces if no service is
named. -/
def calledBy (c : Catalog) (service : String) (callers : List String) : List Interface :=
  if callers.isEmpty then c.interfaces service
  else (c.interfaces service).filter fun i => i.callers.any fun u => callers.contains u.service

/-! ### Class names -/

/-- The package of the classes of a service. -/
def package (c : Catalog) (service : String) : String :=
  match c.packages.get? service with
  | some package => package
  | none => Text.deleteAll "-service" (Text.deleteAll "ts-" service)

/-- The class that the catalog names for an interface and a method. -/
def listedClass? (c : Catalog) (service interfaceName methodName : String) : Option String :=
  (((c.interfaces service).find? fun i =>
    i.name == interfaceName && i.methodName == methodName).bind (·.className)).filter (· ≠ "")

/-- The class that a package has by convention. -/
def conventionalClass (package : String) : String :=
  package ++ ".controller." ++ Text.capitalize package ++ "Controller"

/-- The class of a method: the given one unless it is blank, else the one in the catalog, else the
conventional one. -/
def className (c : Catalog) (service interfaceName methodName : String)
    (given : Option String) : String :=
  match given.filter (fun name => !Text.allBlank name) with
  | some name => name
  | none =>
    match c.listedClass? service interfaceName methodName with
    | some name => name
    | none => conventionalClass (c.package service)

end Catalog

end FaultPlane
