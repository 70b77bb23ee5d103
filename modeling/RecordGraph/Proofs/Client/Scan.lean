import RecordGraph.Proofs.Client.Sharing
import RecordGraph.Proofs.Record.Scan

namespace RecordGraph

/-! Scans of a client: they list the records of the store that all clients seem to share. -/

namespace Party

variable {binding : Binding} {place : RegistryId} {reference : Reference} {bound : Nat}
  {party : Party}

theorem Shares.scan (shares : party.Shares binding place reference bound)
    (embedded : binding.mode = .embedded) (policy : binding.scan = .indexRange)
    {who : Nat} (session : who ∈ reference.sessions) (start : String) (count : UInt64)
    (into : List FieldMap) :
    (party.clients who).scan start count none into party.host =
      (.ok, into ++ reference.queues.scan binding.keyField start count.toNat, party.host) := by
  rcases shares.clients who with ⟨own, -⟩
  rcases shares.busy session with ⟨id, busy, connected⟩
  have run := busy.serves.keeps.scan embedded policy start count
  rw [Client.scan, Client.tryScan, own, busy.converse connected run,
    Host.setEngine_engine busy.there]
  rfl

/-- After any calls of any clients, a client with a session lists the first records whose keys lie
between `start` and the end of open ranges in the order of bytes, by key and then from the oldest
on. -/
theorem run_scan (fresh : party.Fresh binding place) (valid : binding.validate = .ok ())
    (embedded : binding.mode = .embedded) (policy : binding.scan = .indexRange)
    (calls : List (Nat × Request)) (room : 1 + calls.countP (·.2.isInsert) < 2 ^ 64)
    (fits : ∀ count who, calls[count]? = some (who, .cleanup) →
      (party.run (calls.take count)).2.Fits place) (who : Nat)
    (session : who ∈ (Reference.run binding.keyField calls {}).2.sessions) (start : String)
    (count : UInt64) (into : List FieldMap) :
    ((party.run calls).2.clients who).scan start count none into (party.run calls).2.host =
      (.ok, into ++ (Reference.run binding.keyField calls {}).2.queues.scan binding.keyField start
        count.toNat, (party.run calls).2.host) :=
  (fresh.shares.run valid embedded calls room fits).2.scan embedded policy session start count into

def keyed : List (Nat × Request) :=
  [(0, .init), (0, .insert "b" ((∅ : FieldMap).insert "f" [1])),
    (0, .insert "a" ((∅ : FieldMap).insert "f" [2])),
    (0, .insert "b" ((∅ : FieldMap).insert "f" [3])),
    (0, .insert "c" ((∅ : FieldMap).insert "f" [4])),
    (0, .insert "😀" ((∅ : FieldMap).insert "f" [5]))]

theorem run_scan_within :
    ((((atOutset {}).run keyed).2.clients 0).scan "b" 2 none [] ((atOutset {}).run keyed).2.host).2.1 =
      [(∅ : FieldMap).insert "f" [1], (∅ : FieldMap).insert "f" [3]] := by
  have scanned := run_scan fresh_atOutset (by decide) rfl rfl keyed (by decide) (by
    intro count who cleanup
    match count, cleanup with
    | count + 6, later => exact nomatch later) 0 (by decide +kernel) "b" 2 []
  rw [scanned, Queues.scan, Queues.listed_eq]
  decide +kernel

/-- A record is left out of a scan if its key comes after the end of open ranges. -/
theorem scan_leaves_out :
    Utf8.encode "" ≤ Utf8.encode "😀" ∧
    ((((atOutset {}).run keyed).2.clients 0).scan "" 10 none [] ((atOutset {}).run keyed).2.host).2.1 ≠
      (((Reference.run "_id" keyed {}).2.queues.listed fun key =>
        decide (Utf8.encode "" ≤ Utf8.encode key)).take 10).map fun record => record.erase "_id" := by
  rw [Queues.listed_eq]
  decide +kernel

end Party

end RecordGraph
