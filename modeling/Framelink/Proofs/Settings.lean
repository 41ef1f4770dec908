import Framelink.Proofs.Address
import Framelink.Proofs.Json
import Framelink.Settings.Document
import Mathlib.Data.List.Nodup

/-!
# Settings are read back

Each value that is stored is read back, and so reading a mapping or a sequence takes over
one field after the other from the settings that were stored.  Fields are taken over one by
one in `adopt`; once every field was, the settings are the stored ones, whatever they were
before.
-/

namespace Framelink

/-! ## Numbers -/

namespace Document

theorem readNatural_ofNat {bound value : Nat} (expected : String) (small : value < bound) :
    (ofNat value).readNatural bound expected = .ok value := by
  rw [ofNat, readNatural, if_pos ⟨Int.natCast_nonneg value, Int.ofNat_lt.2 small⟩]
  rfl

theorem mem_sorted {entries : List (String × Document)} {entry : String × Document} :
    entry ∈ sorted entries ↔ entry ∈ entries := List.mem_mergeSort

end Document

/-! ## Spans of time -/

namespace Duration

/-- Nanoseconds of a span never make up whole seconds, so nothing is carried over. -/
theorem ofParts_eq (duration : Duration) :
    ofParts duration.seconds.toNat duration.nanoseconds.val = .ok duration := by
  have carried : duration.nanoseconds.val / 1000000000 = 0 :=
    Nat.div_eq_of_lt duration.nanoseconds.isLt
  have fits : duration.seconds.toNat < UInt64.size := duration.seconds.toNat_lt
  rw [ofParts, carried, Nat.add_zero]
  simp [fits, wrapping]

theorem sorted_parts (seconds nanoseconds : Document) :
    Document.sorted [("secs", seconds), ("nanos", nanoseconds)] =
      [("nanos", nanoseconds), ("secs", seconds)] := by
  simp [Document.sorted, List.mergeSort, List.MergeSort.Internal.splitInTwo]

/-- The two parts are found in their mapping. -/
theorem readEntries_parts {seconds nanoseconds : Document} {whole part : Nat}
    (readsWhole : readSeconds seconds = .ok whole)
    (readsPart : readNanoseconds nanoseconds = .ok part) :
    readEntries (Document.sorted [("secs", seconds), ("nanos", nanoseconds)]) none none =
      .ok (some whole, some part) := by
  rw [sorted_parts]
  simp only [readEntries, readsWhole, readsPart, bind, Except.bind, String.reduceEq, if_true,
    if_false]

/-- A span of time is the one that its document stands for. -/
theorem ofDocument_toDocument (duration : Duration) :
    ofDocument duration.toDocument = .ok duration := by
  have small : duration.nanoseconds.val < UInt32.size :=
    Nat.lt_trans duration.nanoseconds.isLt (by decide)
  have read := readEntries_parts
    (Document.readNatural_ofNat "u64" duration.seconds.toNat_lt_size)
    (Document.readNatural_ofNat "u32" small)
  have parts : duration.toDocument = .mapping
      [("secs", .ofNat duration.seconds.toNat), ("nanos", .ofNat duration.nanoseconds.val)] := rfl
  simp only [parts, ofDocument, read, bind, Except.bind, ofParts_eq]

end Duration

/-! ## Addresses -/

theorem IpAddress.ofDocument_text (address : IpAddress) :
    ofDocument (.text address.text) = .ok address := by
  rw [ofDocument, ofText?_text]

namespace Settings

/-! ## Fields -/

theorem Field.mem_all (field : Field) : field ∈ all := by cases field <;> decide

theorem Field.ofName?_name (field : Field) : ofName? field.name = some field := by
  cases field <;> rfl

/-- The settings with one field taken over from others. -/
def adopt (settings stored : Settings) : Field → Settings
  | .bindAddress => { settings with bindAddress := stored.bindAddress }
  | .port => { settings with port := stored.port }
  | .maxConnections => { settings with maxConnections := stored.maxConnections }
  | .noDelay => { settings with noDelay := stored.noDelay }
  | .quickAck => { settings with quickAck := stored.quickAck }
  | .pollInterval => { settings with pollInterval := stored.pollInterval }
  | .idleBackoff => { settings with idleBackoff := stored.idleBackoff }
  | .receiveChunk => { settings with receiveChunk := stored.receiveChunk }

/-- To set a field from a stored value is to take it over. -/
theorem set_get (settings stored : Settings) (field : Field) :
    settings.set field (stored.get field) = .ok (settings.adopt stored field) := by
  cases field with
  | bindAddress => simp [set, get, adopt, IpAddress.ofDocument_text]
  | port => simp [set, get, adopt, Document.readNatural_ofNat _ stored.port.toNat_lt]
  | maxConnections =>
      simp [set, get, adopt, Document.readNatural_ofNat _ stored.maxConnections.toNat_lt]
  | noDelay => simp [set, get, adopt, Document.readBoolean]
  | quickAck => simp [set, get, adopt, Document.readBoolean]
  | pollInterval => simp [set, get, adopt, Duration.ofDocument_toDocument]
  | idleBackoff => simp [set, get, adopt, Duration.ofDocument_toDocument]
  | receiveChunk =>
      simp [set, get, adopt, Document.readNatural_ofNat _ stored.receiveChunk.toNat_lt]

theorem adopt_adopt (settings stored : Settings) (field : Field) :
    (settings.adopt stored field).adopt stored field = settings.adopt stored field := by
  cases field <;> rfl

theorem adopt_comm (settings stored : Settings) (first second : Field) :
    (settings.adopt stored first).adopt stored second =
      (settings.adopt stored second).adopt stored first := by
  cases first <;> cases second <;> rfl

variable {fields : List Field}

theorem foldl_adopt_comm (settings stored : Settings) (fields : List Field) (field : Field) :
    fields.foldl (adopt · stored) (settings.adopt stored field) =
      (fields.foldl (adopt · stored) settings).adopt stored field := by
  induction fields generalizing settings with
  | nil => rfl
  | cons first fields inductionHypothesis =>
      rw [List.foldl_cons, List.foldl_cons, adopt_comm, inductionHypothesis]

/-- A field that was taken over stays as it is. -/
theorem adopt_foldl (settings stored : Settings) {field : Field} (among : field ∈ fields) :
    (fields.foldl (adopt · stored) settings).adopt stored field =
      fields.foldl (adopt · stored) settings := by
  induction fields generalizing settings with
  | nil => exact nomatch among
  | cons first fields inductionHypothesis =>
      rw [List.foldl_cons]
      rcases List.mem_cons.1 among with rfl | among
      · rw [← foldl_adopt_comm, adopt_adopt]
      · exact inductionHypothesis _ among

theorem foldl_adopt_all (settings stored : Settings) :
    Field.all.foldl (adopt · stored) settings = stored := by
  simp only [Field.all, List.foldl_cons, List.foldl_nil, adopt]

/-- Once every field was taken over, in any order, the settings are the stored ones. -/
theorem foldl_adopt (settings stored : Settings) (all : ∀ field, field ∈ fields) :
    fields.foldl (adopt · stored) settings = stored := by
  have settled : Field.all.foldl (adopt · stored) (fields.foldl (adopt · stored) settings) =
      fields.foldl (adopt · stored) settings :=
    List.foldl_fixed' (fun field => adopt_foldl settings stored (all field)) Field.all
  rw [← settled, foldl_adopt_all]

/-! ## Reading -/

/-- Entries whose names mean nothing are passed over, others are taken over. -/
theorem setEntries_eq (settings stored : Settings) {entries : List (String × Document)}
    (own : ∀ entry ∈ entries, ∀ field, Field.ofName? entry.1 = some field →
      entry.2 = stored.get field) :
    settings.setEntries entries =
      .ok ((entries.filterMap fun entry => Field.ofName? entry.1).foldl (adopt · stored)
        settings) := by
  induction entries generalizing settings with
  | nil => rfl
  | cons entry entries inductionHypothesis =>
      obtain ⟨name, value⟩ := entry
      obtain ⟨first, others⟩ := List.forall_mem_cons.1 own
      rw [setEntries, List.filterMap_cons]
      cases known : Field.ofName? name with
      | none => exact inductionHypothesis settings others
      | some field =>
          have taken := set_get settings stored field
          rw [← first field known] at taken
          simp only [taken, List.foldl_cons]
          exact inductionHypothesis _ others

theorem setValues_eq (settings stored : Settings) (position : Nat) (fields : List Field) :
    settings.setValues position fields (fields.map stored.get) =
      .ok (fields.foldl (adopt · stored) settings) := by
  induction fields generalizing settings position with
  | nil => rfl
  | cons field fields inductionHypothesis =>
      rw [List.map_cons, setValues, set_get]
      exact inductionHypothesis _ _

/-- The values in the order of the fields stand for the settings. -/
theorem ofDocument_sequence (settings : Settings) :
    ofDocument (.sequence (Field.all.map settings.get)) = .ok settings := by
  rw [ofDocument, setValues_eq, foldl_adopt_all]

/-- A mapping that stores each value under its name, once, stands for the settings,
whatever else it stores. -/
theorem ofDocument_mapping {settings : Settings} {entries : List (String × Document)}
    (distinct : (entries.map Prod.fst).Nodup)
    (stored : ∀ field : Field, (field.name, settings.get field) ∈ entries) :
    ofDocument (.mapping entries) = .ok settings := by
  have own : ∀ entry ∈ Document.sorted entries, ∀ field,
      Field.ofName? entry.1 = some field → entry.2 = settings.get field := by
    intro entry inside field known
    have name : field.name = entry.1 := by simpa using List.find?_some known
    exact congrArg Prod.snd (List.inj_on_of_nodup_map distinct (Document.mem_sorted.1 inside)
      (stored field) name.symm)
  have complete : ∀ field,
      field ∈ (Document.sorted entries).filterMap fun entry => Field.ofName? entry.1 := by
    intro field
    exact List.mem_filterMap.2
      ⟨_, Document.mem_sorted.2 (stored field), Field.ofName?_name field⟩
  have nothing : missingField? entries = none := by
    rw [missingField?, List.find?_eq_none]
    intro field _
    rw [Option.isNone_iff_eq_none, List.lookup_eq_none_iff]
    intro absent
    simpa using absent _ (stored field)
  rw [ofDocument, setEntries_eq standard settings own, foldl_adopt standard settings complete]
  simp only [bind, Except.bind, nothing]

/-! ## Storing -/

theorem exact_ofNat {value : Nat} (small : value < 2 ^ 64) : Json.Exact (.ofNat value) :=
  .integer (by omega) (by omega)

theorem exact_duration (duration : Duration) : Json.Exact duration.toDocument := by
  have part : duration.nanoseconds.val < 2 ^ 64 := by omega
  refine .mapping (by simp) ?_
  rw [List.forall_mem_cons, List.forall_mem_singleton]
  exact ⟨exact_ofNat duration.seconds.toNat_lt, exact_ofNat part⟩

/-- JSON tells each value exactly. -/
theorem exact_get (settings : Settings) (field : Field) : Json.Exact (settings.get field) := by
  have narrow (value : UInt16) : value.toNat < 2 ^ 64 :=
    Nat.lt_trans value.toNat_lt (by decide)
  have wide (value : UInt32) : value.toNat < 2 ^ 64 :=
    Nat.lt_trans value.toNat_lt (by decide)
  cases field with
  | bindAddress => exact .text _
  | port => exact exact_ofNat (narrow _)
  | maxConnections => exact exact_ofNat (wide _)
  | noDelay => exact .boolean _
  | quickAck => exact .boolean _
  | pollInterval => exact exact_duration _
  | idleBackoff => exact exact_duration _
  | receiveChunk => exact exact_ofNat settings.receiveChunk.toNat_lt

theorem distinct_names (settings : Settings) :
    ((Field.all.map fun field => (field.name, settings.get field)).map Prod.fst).Nodup := by
  have names : (Field.all.map Field.name).Nodup := by decide
  rw [List.map_map]
  exact names

theorem exact_toDocument (settings : Settings) : Json.Exact settings.toDocument := by
  refine .mapping (distinct_names settings) ?_
  rw [List.forall_mem_map]
  exact fun field _ => exact_get settings field

theorem exact_sequence (settings : Settings) :
    Json.Exact (.sequence (Field.all.map settings.get)) := by
  refine .sequence ?_
  rw [List.forall_mem_map]
  exact fun field _ => exact_get settings field

/-- Settings are the ones that their document stands for. -/
theorem ofDocument_toDocument (settings : Settings) :
    ofDocument settings.toDocument = .ok settings :=
  ofDocument_mapping (distinct_names settings)
    fun field => List.mem_map.2 ⟨field, field.mem_all, rfl⟩

/-- Settings survive to be stored.  They come back from the JSON that they are written in, be
it a mapping or the sequence of their values, and from every mapping that stores each value
under its name, in any order and whatever else it stores, be it a document or JSON. -/
theorem settings_survive_storage (settings : Settings) :
    ofDocument settings.toDocument = .ok settings ∧
    ofDocument (.sequence (Field.all.map settings.get)) = .ok settings ∧
    (Json.document? (Json.print settings.toDocument)).map ofDocument = some (.ok settings) ∧
    (Json.document? (Json.print (.sequence (Field.all.map settings.get)))).map ofDocument =
      some (.ok settings) ∧
    ∀ entries : List (String × Document),
      (∀ field : Field, (field.name, settings.get field) ∈ entries) →
      ((entries.map Prod.fst).Nodup → ofDocument (.mapping entries) = .ok settings) ∧
      ∀ text, Json.document? text = some (.mapping entries) →
        (Json.document? text).map ofDocument = some (.ok settings) := by
  have mapping := Json.document?_print (exact_toDocument settings)
  have sequence := Json.document?_print (exact_sequence settings)
  refine ⟨ofDocument_toDocument settings, ofDocument_sequence settings, ?_, ?_, ?_⟩
  · rw [mapping, Option.map_some, ofDocument_toDocument]
  · rw [sequence, Option.map_some, ofDocument_sequence]
  · intro entries stored
    refine ⟨fun distinct => ofDocument_mapping distinct stored, ?_⟩
    intro text found
    rw [found, Option.map_some, ofDocument_mapping (Json.distinct_of_document? found) stored]

/-- Settings at an address that embeds four octets, with the longest poll interval. -/
def embedded : Settings where
  bindAddress := .v6 #v[0, 0, 0, 0, 0, 0xffff, 0xc0a8, 1]
  port := 65535
  maxConnections := 0
  noDelay := true
  quickAck := false
  pollInterval := .wrapping 18446744073709551615 999999999
  idleBackoff := .zero
  receiveChunk := 18446744073709551615

/-- The values in reverse, behind one that means nothing. -/
def commented : List (String × Document) :=
  ("comment", .null) :: (Field.all.map fun field => (field.name, embedded.get field)).reverse

theorem settings_survive_storage_beside_comment :
    ofDocument (.mapping commented) = .ok embedded ∧
    (Json.document? (Json.print (.mapping commented))).map ofDocument = some (.ok embedded) := by
  have distinct : (commented.map Prod.fst).Nodup := by
    have names : ("comment" :: (Field.all.map Field.name).reverse).Nodup := by decide
    rw [commented, List.map_cons, List.map_reverse, List.map_map]
    exact names
  have exact : ∀ entry ∈ commented, Json.Exact entry.2 := by
    rw [commented, List.forall_mem_cons]
    refine ⟨.null, fun entry among => ?_⟩
    obtain ⟨field, -, rfl⟩ := List.mem_map.1 (List.mem_reverse.1 among)
    exact exact_get embedded field
  have stored (field : Field) : (field.name, embedded.get field) ∈ commented :=
    List.mem_cons_of_mem _ (List.mem_reverse.2 (List.mem_map.2 ⟨field, field.mem_all, rfl⟩))
  have comes_back := (settings_survive_storage embedded).2.2.2.2 commented stored
  exact ⟨comes_back.1 distinct, comes_back.2 _ (Json.document?_print (.mapping distinct exact))⟩

end Settings
end Framelink
