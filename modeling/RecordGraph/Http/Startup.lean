import RecordGraph.Record.Key
import RecordGraph.Snapshot

namespace RecordGraph.Http

/-! How a service is started: its engine is opened, its indexes are made sure of, and then it
listens at its address. -/

inductive StartupFault where
  | graph (failure : Failure)
  /-- The address cannot be had. -/
  | address (cause : String)
  deriving DecidableEq, Repr

namespace StartupFault

def kind : StartupFault → String
  | graph _ => "graph"
  | address _ => "io"

def message : StartupFault → String
  | graph failure => "graph error: " ++ failure.message
  | address cause => "server I/O error: " ++ cause

end StartupFault

def provisionAll (indexes : List String) (engine : Engine) : Except Failure Unit × Engine :=
  let (outcome, engine) := (Dialogue.forEach provisionIndex indexes).run Engine.perform engine
  (outcome.map fun _ => (), engine)

/-- Starts a service over the engine of a directory, or one that is never saved. The address is
claimed last. -/
def start (directory : Option String) (indexes : List String) (claim : Except String Unit)
    (disk : Disk) : Except StartupFault Engine × Disk :=
  let (opened, disk) : Except Failure Engine × Disk := match directory with
    | none => (.ok .inMemory, disk)
    | some directory => Engine.openAt directory disk
  match opened with
  | .error failure => (.error (.graph failure), disk)
  | .ok engine =>
      match provisionAll indexes engine with
      | (.error failure, _) => (.error (.graph failure), disk)
      | (.ok (), engine) =>
          match claim with
          | .error cause => (.error (.address cause), disk)
          | .ok () => (.ok engine, disk)

end RecordGraph.Http
