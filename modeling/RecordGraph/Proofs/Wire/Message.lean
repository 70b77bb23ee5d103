import RecordGraph.Proofs.Json.Tagged
import RecordGraph.Proofs.Wire.Value
import RecordGraph.Wire.Message

namespace RecordGraph.Wire

/-! Jobs, steps and all messages between a client and a service are read back as they have been
written. -/

open Json

private theorem faithful_optionalWord : Codec.word.option.Faithful 0 := by
  apply Codec.faithful_word.option
  intro value rest same
  have member : 0x6E ∈ Codec.word.write value := by
    rw [same]
    exact List.mem_cons_self
  cases isDigit_writeNatural member

/-! ## Jobs and steps -/

section Layouts

variable {Node : Type} {node : Codec Node}

private theorem faithful_entryLayout (faithful : node.Faithful 1) :
    (entryLayout node).Faithful 1 := by
  have text : Codec.text.Faithful 1 := Codec.faithful_text.mono (Nat.zero_le 1)
  apply Layout.Faithful.required text (by simp)
  apply Layout.Faithful.required faithful (by simp)
  apply Layout.Faithful.required text (by simp)
  exact .required text (by simp) .done

private theorem faithful_settingLayout (faithful : node.Faithful 1) :
    (settingLayout node).Faithful 1 := by
  have text : Codec.text.Faithful 1 := Codec.faithful_text.mono (Nat.zero_le 1)
  apply Layout.Faithful.required faithful (by simp)
  apply Layout.Faithful.required text (by simp)
  exact .required faithful_propertyValue (by simp) .done

private theorem faithful_creationLayout : creationLayout.Faithful 2 :=
  .defaulted faithful_properties ∅ (by simp) .done

private theorem long_creation (given : Properties) :
    ∀ part ∈ creationLayout.parts (given, ()), 2 ≤ part.2.length := by
  have parts : creationLayout.parts (given, ()) = [("properties", properties.write given)] := rfl
  have long : 2 ≤ (properties.write given).length := by
    rw [properties, nameMap]
    simp [writeMembers]
  rw [parts]
  intro part found
  rw [List.mem_singleton.1 found]
  exact long

end Layouts

theorem faithful_job : job.Faithful 3 := by
  apply Codec.faithful_of_readBack
  intro job
  cases job with
  | createNode given =>
      have kept := faithful_creationLayout.ofMembers (given, ()) (long_creation given)
      simp only [job]
      apply Tagged.readBack faithful_creationLayout (given, ())
      · decide
      · rfl
      · simp only [Tagged.ofKept, kept, bind, Except.bind]
      · decide
  | indexAdd index node key value =>
      have layout := faithful_entryLayout faithful_nodeReference
      have kept := layout.ofMembers (index, node, key, value, ()) (layout.long _)
      simp only [job]
      apply Tagged.readBack layout (index, node, key, value, ())
      · decide
      · rfl
      · simp only [Tagged.ofKept, kept, bind, Except.bind]
      · decide
  | setProperty node name value =>
      have layout := faithful_settingLayout faithful_nodeReference
      have kept := layout.ofMembers (node, name, value, ()) (layout.long _)
      simp only [job]
      apply Tagged.readBack layout (node, name, value, ())
      · decide
      · rfl
      · simp only [Tagged.ofKept, kept, bind, Except.bind]
      · decide

theorem faithful_batch : batch.Faithful 4 := faithful_job.list

theorem faithful_step : step.Faithful 2 := by
  have number : Codec.word.Faithful 1 := Codec.faithful_word.mono (Nat.zero_le 1)
  apply Codec.faithful_of_readBack
  intro step
  cases step with
  | createNode =>
      simp only [step]
      have layout : Layout.done.Faithful 1 := .done
      apply Tagged.readBack layout ()
      · exact List.not_mem_nil
      · rfl
      · rfl
      · decide
  | setProperty node name value =>
      have layout := faithful_settingLayout number
      have kept := layout.ofMembers (node, name, value, ()) (layout.long _)
      simp only [step]
      apply Tagged.readBack layout (node, name, value, ())
      · decide
      · rfl
      · simp only [Tagged.ofKept, kept, bind, Except.bind]
      · decide
  | deleteNode node =>
      have layout : deletionLayout.Faithful 1 := .required number (by simp) .done
      have kept := layout.ofMembers (node, ()) (layout.long _)
      simp only [step]
      apply Tagged.readBack layout (node, ())
      · decide
      · rfl
      · simp only [Tagged.ofKept, kept, bind, Except.bind]
      · decide
  | indexAdd index node key value =>
      have layout := faithful_entryLayout number
      have kept := layout.ofMembers (index, node, key, value, ()) (layout.long _)
      simp only [step]
      apply Tagged.readBack layout (index, node, key, value, ())
      · decide
      · rfl
      · simp only [Tagged.ofKept, kept, bind, Except.bind]
      · decide
  | indexRemove index node key value =>
      have layout := faithful_entryLayout number
      have kept := layout.ofMembers (index, node, key, value, ()) (layout.long _)
      simp only [step]
      apply Tagged.readBack layout (index, node, key, value, ())
      · decide
      · rfl
      · simp only [Tagged.ofKept, kept, bind, Except.bind]
      · decide

/-! ## What is asked -/

theorem faithful_lookup : lookup.Faithful 1 := by
  apply Layout.Faithful.codec
  · apply Layout.Faithful.required Codec.faithful_text (by simp)
    exact .required Codec.faithful_text (by simp) .done
  · exact fun _ => rfl

theorem faithful_indexRange : indexRange.Faithful 1 := by
  apply Layout.Faithful.codec
  · apply Layout.Faithful.required Codec.faithful_text (by simp)
    apply Layout.Faithful.required Codec.faithful_text (by simp)
    apply Layout.Faithful.required Codec.faithful_text (by simp)
    exact .optional faithful_optionalWord (by simp) .done
  · exact fun _ => rfl

theorem faithful_named : named.Faithful 1 :=
  Layout.Faithful.codec (.required Codec.faithful_text (by simp) .done) fun _ => rfl

/-! ## What is answered -/

theorem faithful_serviceRoot : serviceRoot.Faithful 1 := by
  apply Layout.Faithful.codec
  · apply Layout.Faithful.required Codec.faithful_text (by simp)
    exact .required Codec.faithful_text (by simp) .done
  · exact fun _ => rfl

theorem faithful_begun : begun.Faithful 1 :=
  Layout.Faithful.codec (.required Codec.faithful_word (by simp) .done) fun _ => rfl

theorem faithful_staged : staged.Faithful 1 :=
  Layout.Faithful.codec (.optional faithful_optionalWord (by simp) .done) fun _ => rfl

theorem faithful_batchDone : batchDone.Faithful 2 :=
  Layout.Faithful.codec (.required faithful_optionalWord.list (by simp) .done) fun _ => rfl

theorem faithful_nodeIds : nodeIds.Faithful 1 := Codec.faithful_word.list

theorem faithful_optionalProperty : optionalProperty.Faithful 1 := by
  apply faithful_propertyValue.option
  intro value rest same
  cases value with
  | text value => cases (List.cons.inj same).1
  | bytes value => cases (List.cons.inj same).1

theorem faithful_failureReport : failureReport.Faithful 1 := by
  apply Layout.Faithful.codec
  · apply Layout.Faithful.required Codec.faithful_text (by simp)
    exact .required Codec.faithful_text (by simp) .done
  · exact fun _ => rfl

/-! ## Everything that goes over the wire

Operations travel as steps, jobs and batches; what is asked about indexes and properties, and what
is answered, has messages of its own. Each of these is one kind of value, with one form. -/

inductive Kind where
  | propertyValue
  | properties
  | nodeReference
  | job
  | batch
  | step
  | lookup
  | indexRange
  /-- The name of an index to be created, or of a property that is asked for. -/
  | named
  | serviceRoot
  | begun
  | staged
  | batchDone
  | nodeIds
  | optionalProperty
  | failureReport
  deriving DecidableEq, Repr

namespace Kind

@[reducible] def Value : Kind → Type
  | propertyValue => PropertyValue
  | properties => Properties
  | nodeReference => NodeReference
  | job => Job
  | batch => Batch
  | step => Step
  | lookup => Lookup
  | indexRange => IndexRange
  | named => String
  | serviceRoot => ServiceRoot
  | begun => TransactionId
  | staged => Option NodeId
  | batchDone => List (Option NodeId)
  | nodeIds => List NodeId
  | optionalProperty => Option PropertyValue
  | failureReport => FailureReport

def codec : (kind : Kind) → Codec kind.Value
  | propertyValue => Wire.propertyValue
  | properties => Wire.properties
  | nodeReference => Wire.nodeReference
  | job => Wire.job
  | batch => Wire.batch
  | step => Wire.step
  | lookup => Wire.lookup
  | indexRange => Wire.indexRange
  | named => Wire.named
  | serviceRoot => Wire.serviceRoot
  | begun => Wire.begun
  | staged => Wire.staged
  | batchDone => Wire.batchDone
  | nodeIds => Wire.nodeIds
  | optionalProperty => Wire.optionalProperty
  | failureReport => Wire.failureReport

/-- Nothing on the wire is nested deeper than a property in the jobs of a batch. -/
theorem faithful (kind : Kind) : kind.codec.Faithful 4 := by
  cases kind with
  | propertyValue => exact faithful_propertyValue.mono (by decide)
  | properties => exact faithful_properties.mono (by decide)
  | nodeReference => exact faithful_nodeReference.mono (by decide)
  | job => exact faithful_job.mono (by decide)
  | batch => exact faithful_batch
  | step => exact faithful_step.mono (by decide)
  | lookup => exact faithful_lookup.mono (by decide)
  | indexRange => exact faithful_indexRange.mono (by decide)
  | named => exact faithful_named.mono (by decide)
  | serviceRoot => exact faithful_serviceRoot.mono (by decide)
  | begun => exact faithful_begun.mono (by decide)
  | staged => exact faithful_staged.mono (by decide)
  | batchDone => exact faithful_batchDone.mono (by decide)
  | nodeIds => exact faithful_nodeIds.mono (by decide)
  | optionalProperty => exact faithful_optionalProperty.mono (by decide)
  | failureReport => exact faithful_failureReport.mono (by decide)

/-- Whatever goes over the wire arrives: a value of any kind is read back from its text, by those
who want nothing after it and by those who do not look. -/
theorem parse_write (kind : Kind) (value : kind.Value) :
    kind.codec.parse (kind.codec.write value) = .ok value ∧
      kind.codec.parseFront (kind.codec.write value) = .ok value :=
  have faithful := kind.faithful
  ⟨faithful.parse (by decide) value, faithful.parseFront (by decide) value⟩

end Kind

end RecordGraph.Wire
