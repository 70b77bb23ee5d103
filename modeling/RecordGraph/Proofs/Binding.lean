import RecordGraph.Binding.Toml
import RecordGraph.Proofs.Text.Decimal
import RecordGraph.Proofs.Toml.Document

namespace RecordGraph.Binding

/-! Bindings are read back from both of their textual forms: from the document that they are written
as, and from properties that describe them. -/

variable {binding : Binding} {properties : NameMap String} {name text : String}

theorem validated_ok (valid : binding.validate = .ok ()) : binding.validated = .ok binding := by
  rw [validated, valid]
  rfl

def settingNames : List String := ["url", "mode", "scan", "index", "key_field", "timeout_ms"]

def textSettings (binding : Binding) : List (String × String) :=
  [("url", binding.url), ("mode", binding.mode.name), ("scan", binding.scan.name),
    ("index", binding.index), ("key_field", binding.keyField)]

/-! ## Documents -/

def entries (binding : Binding) : List (String × Toml.Value) :=
  binding.textSettings.map (fun (name, text) => (name, .text text)) ++
    binding.timeout.toList.map fun timeout => ("timeout_ms", .integer timeout.toNat)

def document (binding : Binding) : String :=
  Toml.write (binding.entries.map fun entry => (entry.1, Toml.writeValue entry.2))

theorem names_entries (binding : Binding) :
    (binding.entries.map Prod.fst).Sublist settingNames := by
  rw [entries]
  cases binding.timeout with
  | none => exact List.sublist_append_left ["url", "mode", "scan", "index", "key_field"] _
  | some timeout => exact List.Sublist.refl settingNames

/-- The timeout, if there is one, fits into 64 bits with a sign. -/
def Short (binding : Binding) : Prop :=
  ∀ timeout ∈ binding.timeout, timeout.toNat < Nat.pow 2 63

theorem writable_entries (short : binding.Short) : ∀ entry ∈ binding.entries, entry.2.Writable := by
  intro entry member
  rcases List.mem_append.1 member with text | limit
  · rcases List.mem_map.1 text with ⟨setting, listed, rfl⟩
    trivial
  · rcases List.mem_map.1 limit with ⟨timeout, listed, rfl⟩
    exact ⟨Int.natCast_nonneg _, short timeout (Option.mem_toList.1 listed)⟩

theorem toToml?_eq (short : binding.Short) : binding.toToml? = some binding.document := by
  rw [toToml?, document, entries]
  cases limit : binding.timeout with
  | none => rfl
  | some timeout =>
      dsimp only
      rw [if_pos (short timeout limit)]
      rfl

theorem read_document (short : binding.Short) :
    Toml.read binding.document =
      some (binding.entries.map fun entry => (entry.1, .value entry.2)) := by
  have bare : ∀ name ∈ settingNames, Toml.Bare name := by decide
  have distinct : settingNames.Nodup := by decide
  refine Toml.read_write (fun entry member => ?_) (writable_entries short)
    (distinct.sublist binding.names_entries)
  exact bare entry.1 (binding.names_entries.subset (List.mem_map_of_mem member))

theorem itemOr_text {Setting : Type} {table : Toml.Table} {parse : String → Option Setting}
    {setting : Setting} (found : Toml.Table.find? name table = some (.value (.text text)))
    (parsed : parse text = some setting) (absent : Setting) :
    itemOr table name absent (textWith parse) = .ok setting := by
  rw [itemOr, found]
  dsimp only
  rw [textWith, parsed]

theorem itemOr_limit {table : Toml.Table} {timeout : UInt64}
    (found : Toml.Table.find? name table = some (.value (.integer timeout.toNat))) :
    itemOr table name none milliseconds = .ok (some timeout) := by
  rw [itemOr, found]
  dsimp only
  rw [milliseconds, if_pos (Int.natCast_nonneg _), Int.toNat_natCast, UInt64.ofNat_toNat]

theorem find?_text {settings : List (String × String)} (said : settings.lookup name = some text)
    (others : Toml.Table) :
    Toml.Table.find? name
        (settings.map (fun (name, text) => (name, .value (.text text))) ++ others) =
      some (.value (.text text)) := by
  induction settings with
  | nil => cases said
  | cons setting settings induction =>
      rw [List.map_cons, List.cons_append, Toml.Table.find?]
      rw [List.lookup_cons] at said ⊢
      split at said
      · rw [Option.some.inj said]
      · exact induction said

theorem ofTable_entries (binding : Binding) :
    ofTable (binding.entries.map fun entry => (entry.1, .value entry.2)) = .ok binding := by
  have texts (name text : String) (said : binding.textSettings.lookup name = some text) :
      Toml.Table.find? name (binding.entries.map fun entry => (entry.1, .value entry.2)) =
        some (.value (.text text)) := by
    rw [entries, List.map_append, List.map_map]
    exact find?_text said _
  have limit : itemOr (binding.entries.map fun entry => (entry.1, .value entry.2)) "timeout_ms"
      none milliseconds = .ok binding.timeout := by
    rw [entries]
    cases binding.timeout with
    | none => rfl
    | some timeout => exact itemOr_limit rfl
  rw [ofTable]
  simp only [itemOr_text (texts "url" _ rfl) rfl,
    itemOr_text (texts "mode" _ rfl) binding.mode.ofName?_name,
    itemOr_text (texts "scan" _ rfl) binding.scan.ofName?_name,
    itemOr_text (texts "index" _ rfl) rfl, itemOr_text (texts "key_field" _ rfl) rfl, limit,
    bind, Except.bind]

/-- A binding is read back from the document that it is written as. -/
theorem ofToml_document (valid : binding.validate = .ok ()) (short : binding.Short) :
    ofToml binding.document = .ok binding := by
  rw [ofToml, read_document short]
  simp only [ofTable_entries, bind, Except.bind, validated_ok valid]

/-! ## Properties -/

def texts (binding : Binding) : List (String × String) :=
  binding.textSettings ++
    binding.timeout.toList.map fun timeout => ("timeout_ms", toString timeout.toNat)

/-- The properties say of each setting what the binding says. Other properties are free. -/
def Describes (properties : NameMap String) (binding : Binding) : Prop :=
  ∀ name ∈ settingNames, properties[propertyDomain ++ name]? = binding.texts.lookup name

/-- No blanks stand around the texts that can be chosen freely. In a valid binding they are then
not blank either. -/
structure Trimmed (binding : Binding) : Prop where
  url : Text.trim binding.url = binding.url
  index : Text.trim binding.index = binding.index
  keyField : Text.trim binding.keyField = binding.keyField

theorem propertyOr_text {Setting : Type} {parse : String → Except BindingFault Setting}
    {setting : Setting} (found : properties[propertyDomain ++ name]? = some text)
    (trimmed : Text.trim text = text) (present : text ≠ "") (parsed : parse text = .ok setting)
    (absent : Setting) : propertyOr properties name absent parse = .ok setting := by
  have shown : property? properties name = some text := by
    rw [property?, found]
    dsimp only
    rw [trimmed, if_neg]
    simpa using present
  rw [propertyOr, shown]
  exact parsed

theorem propertyOr_absent {Setting : Type} {parse : String → Except BindingFault Setting}
    (missing : properties[propertyDomain ++ name]? = none) (absent : Setting) :
    propertyOr properties name absent parse = .ok absent := by
  rw [propertyOr, property?, missing]

theorem trim_toString (value : Nat) : Text.trim (toString value) = toString value := by
  apply Text.trim_solid
  intro digit member
  rw [Nat.toString_eq_ofList_toDigits, String.toList_ofList] at member
  exact Text.isBlank_of_isDigit (Decimal.isDigit_of_mem member)

theorem propertyOr_timeout {timeout : UInt64}
    (found : properties[propertyDomain ++ name]? = some (toString timeout.toNat)) :
    (propertyOr properties name none fun text => (parseTimeout text).map some) =
      .ok (some timeout) := by
  refine propertyOr_text found (trim_toString _) ?_ ?_ none
  · intro empty
    have digits := congrArg String.toList empty
    rw [Nat.toString_eq_ofList_toDigits, String.toList_ofList] at digits
    exact Nat.toDigits_ne_nil digits
  · rw [parseTimeout, Decimal.word?_toString]
    rfl

/-- A binding is read back from all properties that describe it. -/
theorem ofProperties_describes (valid : binding.validate = .ok ()) (trimmed : binding.Trimmed)
    (described : Describes properties binding) : ofProperties properties = .ok binding := by
  rcases named_of_valid valid with ⟨index, keyField, solid⟩
  rw [trimmed.url] at solid
  have urls := propertyOr_text (described "url" (by decide)) trimmed.url solid rfl
  have modes := propertyOr_text (described "mode" (by decide)) binding.mode.trim_name
    binding.mode.name_ne_empty binding.mode.parse_name
  have scans := propertyOr_text (described "scan" (by decide)) binding.scan.trim_name
    binding.scan.name_ne_empty binding.scan.parse_name
  have indexes := propertyOr_text (described "index" (by decide)) trimmed.index index rfl
  have keyFields := propertyOr_text (described "key_field" (by decide)) trimmed.keyField keyField rfl
  have limit : (propertyOr properties "timeout_ms" none fun text =>
      (parseTimeout text).map some) = .ok binding.timeout := by
    have said := described "timeout_ms" (by decide)
    cases unset : binding.timeout with
    | none =>
        apply propertyOr_absent
        rw [said, texts, unset]
        rfl
    | some timeout =>
        apply propertyOr_timeout
        rw [said, texts, unset]
        rfl
  rw [ofProperties]
  simp only [urls, modes, scans, indexes, keyFields, limit, bind, Except.bind]
  exact validated_ok valid

/-! ## Both forms -/

/-- A valid binding is read back from its document, unless its timeout is too long to be written,
and, unless it has blanks around its texts, from all properties that describe it. -/
theorem forms_faithful (valid : binding.validate = .ok ()) :
    (binding.Short → ∃ document, binding.toToml? = some document ∧ ofToml document = .ok binding) ∧
      (binding.Trimmed → ∀ properties, Describes properties binding →
        ofProperties properties = .ok binding) :=
  ⟨fun short => ⟨_, toToml?_eq short, ofToml_document valid short⟩,
    fun trimmed _ described => ofProperties_describes valid trimmed described⟩

/-- Texts with quotes of both kinds, a backslash, a line end and a control character, and the
longest timeout of a document. -/
theorem forms_faithful_of_quotes :
    let binding : Binding := { remoteBatch "http://h/\"'''\\\n\x01é" with
      index := "'\"\"\"\n'", keyField := "\"", timeout := some 9223372036854775807 }
    let properties : NameMap String := .ofList [
      ("graph.url", binding.url), ("graph.mode", "REMOTE_BATCH"), ("graph.scan", "index_range"),
      ("graph.index", binding.index), ("graph.key_field", "\""),
      ("graph.timeout_ms", "9223372036854775807"), ("recordcount", "1000")]
    binding.validate = .ok () ∧ binding.Short ∧ binding.Trimmed ∧ Describes properties binding ∧
      (∃ document, binding.toToml? = some document ∧ ofToml document = .ok binding) ∧
      ofProperties properties = .ok binding := by
  intro binding properties
  have short : binding.Short := by
    intro timeout limit
    cases limit
    decide
  have trimmed : binding.Trimmed := ⟨by decide, by decide, by decide⟩
  have described : Describes properties binding := by
    rw [Describes]
    decide +kernel
  have valid : binding.validate = .ok () := by
    rw [validate, if_neg (by decide), if_neg (by decide), if_neg (by decide)]
    exact if_neg (by decide +kernel)
  exact ⟨valid, short, trimmed, described, (forms_faithful valid).1 short,
    (forms_faithful valid).2 trimmed properties described⟩

end RecordGraph.Binding
