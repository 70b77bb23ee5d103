import RecordGraph.Http.Service
import RecordGraph.Record.Operation
import RecordGraph.Remote
import RecordGraph.Snapshot

namespace RecordGraph

/-! Hosts: everything that the clients of one process share. A host has a disk, the engines that it
has opened, the services in front of some of them, the links to remote engines, and registries that
count who holds which engine. -/

abbrev EngineId := Nat

abbrev LinkId := Nat

abbrev ServiceId := Nat

abbrev RegistryId := Nat

inductive Connection where
  | embedded (engine : EngineId)
  | remote (link : LinkId)
  deriving DecidableEq, Repr

/-- Counts the holders of one engine, which is open as long as there are any. -/
structure Registry where
  engine : Option EngineId := none
  holders : Nat := 0
  /-- How often an engine has been opened. -/
  opens : Nat := 0
  deriving DecidableEq, Repr

structure Front where
  engine : EngineId
  service : Http.Service := {}
  deriving DecidableEq

/-- What the network leads to: at most one service, at the origin of its addresses. -/
structure Network where
  reachable : Option (String × ServiceId) := none
  deriving DecidableEq, Repr

def Network.isolated : Network := {}

def Network.loopback (origin : String) (service : ServiceId) : Network := ⟨some (origin, service)⟩

structure Host where
  disk : Disk := {}
  engines : List Engine := []
  fronts : List Front := []
  links : List RemoteLink := []
  registries : List Registry := []
  network : Network := .isolated

namespace Host

/-! ## Engines -/

/-- An engine of the host. Places without an engine are as if it had been shut down. -/
def engine (id : EngineId) (host : Host) : Engine := (host.engines[id]?).getD { isClosed := true }

def setEngine (id : EngineId) (engine : Engine) (host : Host) : Host :=
  { host with engines := host.engines.set id engine }

def addEngine (engine : Engine) (host : Host) : EngineId × Host :=
  (host.engines.length, { host with engines := host.engines ++ [engine] })

def openEngine (directory : String) (host : Host) : Except Failure EngineId × Host :=
  match Engine.openAt directory host.disk with
  | (.error failure, disk) => (.error failure, { host with disk })
  | (.ok engine, disk) =>
      let (id, host) := { host with disk }.addEngine engine
      (.ok id, host)

def shutdownEngine (id : EngineId) (host : Host) : Except Failure Unit × Host :=
  let (outcome, engine, disk) := (host.engine id).shutdown host.disk
  (outcome, { host with disk }.setEngine id engine)

/-! ## Services and the network -/

def addFront (engine : EngineId) (host : Host) : ServiceId × Host :=
  (host.fronts.length, { host with fronts := host.fronts ++ [{ engine }] })

def respond (id : ServiceId) (request : Http.Request) (host : Host) :
    Http.Response × Host :=
  match host.fronts[id]? with
  | none => (.bare 404, host)
  | some front =>
      let (response, service, engine) := front.service.respond request (host.engine front.engine)
      (response,
        { host with fronts := host.fronts.set id { front with service } }.setEngine
          front.engine engine)

def carrier : Carrier Host := fun base request host =>
  let unreachable : Failure := .http "the address cannot be reached"
  match host.network.reachable with
  | none => (.error unreachable, host)
  | some (origin, service) =>
      if base.origin = origin then
        let (response, host) := host.respond service request
        (.ok response, host)
      else (.error unreachable, host)

/-! ## Links -/

/-- A link of the host. Places without a link are as if it had been closed. -/
def link (id : LinkId) (host : Host) : RemoteLink :=
  (host.links[id]?).getD
    { base := ⟨"", none, .parts [], none, none⟩, isClosed := true }

def connect (url : String) (host : Host) : Except Failure LinkId × Host :=
  match RemoteLink.connect carrier url host with
  | (.error failure, host) => (.error failure, host)
  | (.ok link, host) => (.ok host.links.length, { host with links := host.links ++ [link] })

/-! ## Connections -/

def perform (connection : Connection) (call : Call) (host : Host) :
    Except Failure call.Answer × Host :=
  match connection with
  | .embedded id =>
      let (outcome, engine) := (host.engine id).perform call
      (outcome, host.setEngine id engine)
  | .remote id => (host.link id).perform carrier call host

def converse {Result : Type} (connection : Connection) (dialogue : Dialogue Result)
    (host : Host) : Except Failure Result × Host :=
  dialogue.run (fun call host => host.perform connection call) host

def describe (connection : Connection) (host : Host) : String :=
  match connection with
  | .embedded id => (host.engine id).describe
  | .remote id => (host.link id).describe

def shutdown (connection : Connection) (host : Host) : Except Failure Unit × Host :=
  match connection with
  | .embedded id => host.shutdownEngine id
  | .remote id => (.ok (), { host with links := host.links.set id (host.link id).shutdown })

/-- Gives up an open transaction. What is embedded only forgets it; a remote engine is asked to roll
it back, and it does not matter what it answers. -/
def abandon (connection : Connection) (transaction : TransactionId) (host : Host) : Host :=
  match connection with
  | .embedded id => host.setEngine id ((host.engine id).forget transaction)
  | .remote _ => (host.perform connection (.rollback transaction)).2

/-! ## Registries -/

def registry (id : RegistryId) (host : Host) : Registry := (host.registries[id]?).getD {}

def setRegistry (id : RegistryId) (registry : Registry) (host : Host) : Host :=
  { host with registries := host.registries.set id registry }

def addRegistry (host : Host) : RegistryId × Host :=
  (host.registries.length, { host with registries := host.registries ++ [{}] })

def unprovisioned (index : String) (failure : Failure) : Failure :=
  .config ("failed to provision index '" ++ index ++ "': " ++ failure.message)

def unopened (directory : String) (failure : Failure) : Failure :=
  .config ("failed to open embedded graph at " ++ directory ++ ": " ++ failure.message)

def unconnected (url : String) (failure : Failure) : Failure :=
  .config ("failed to connect to remote graph at " ++ url ++ ": " ++ failure.message)

/-- Counts one more holder of the engine of a registry. The first one opens the engine of its
binding; the others share it, wherever it is. Each makes sure of its own index. -/
def acquire (id : RegistryId) (binding : Binding) (host : Host) :
    Except Failure EngineId × Host :=
  let registry := host.registry id
  match registry.engine with
  | some engine =>
      match host.converse (.embedded engine) (provisionIndex binding.index) with
      | (.error failure, host) => (.error (unprovisioned binding.index failure), host)
      | (.ok (), host) =>
          (.ok engine, host.setRegistry id { registry with holders := registry.holders + 1 })
  | none =>
      match host.openEngine binding.url with
      | (.error failure, host) => (.error (unopened binding.url failure), host)
      | (.ok engine, host) =>
          match host.converse (.embedded engine) (provisionIndex binding.index) with
          | (.error failure, host) =>
              (.error (unprovisioned binding.index failure), (host.shutdownEngine engine).2)
          | (.ok (), host) =>
              (.ok engine, host.setRegistry id
                { engine := some engine, holders := registry.holders + 1
                  opens := registry.opens + 1 })

/-- Counts one holder less. After the last one the engine is shut down, and it does not matter
whether its graph could be saved. -/
def release (id : RegistryId) (host : Host) : Host :=
  let registry := host.registry id
  match registry.holders with
  | 0 => host
  | others + 1 =>
      match others, registry.engine with
      | 0, some engine =>
          let host := host.setRegistry id { registry with holders := 0, engine := none }
          (host.shutdownEngine engine).2
      | _, _ => host.setRegistry id { registry with holders := others }

/-! ## Connecting by a binding -/

def connectBy (binding : Binding) (registry : RegistryId) (host : Host) :
    Except Failure Connection × Host :=
  if binding.mode.isRemote then
    match host.connect binding.url with
    | (.error failure, host) => (.error (unconnected binding.url failure), host)
    | (.ok link, host) =>
        match host.converse (.remote link) (provisionIndex binding.index) with
        | (.error failure, host) => (.error (unprovisioned binding.index failure), host)
        | (.ok (), host) => (.ok (.remote link), host)
  else
    let (outcome, host) := host.acquire registry binding
    (outcome.map .embedded, host)

def disconnect (connection : Connection) (registry : RegistryId) (host : Host) : Host :=
  match connection with
  | .embedded _ => host.release registry
  | .remote _ => (host.shutdown connection).2

end Host

end RecordGraph
