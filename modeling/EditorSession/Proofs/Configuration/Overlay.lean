import EditorSession.Configuration.Document
import EditorSession.Proofs.Schema.Excerpt

/-!
# Configurations laid over the preset

A document need not hold all keys of a configuration. Each record of a configuration is read member
by member (`overlays`, for each of them). So whatever excerpt of a written configuration is read,
the keys that it has give what was written, and the others what the preset has; and one key that a
record does not know makes the whole document fail (`decode_overlays_preset`).
-/

namespace EditorSession

open Schema (Dialect)

namespace Schema

variable {dialect : Dialect}

/-! ### Values -/

theorem listOf_text (texts : List String) : listOf text dialect (.ofTexts texts) = .ok texts := by
  show (texts.map Datum.text).mapM (text dialect) = .ok texts
  induction texts with
  | nil => rfl
  | cons first texts ih =>
      rw [List.map_cons, List.mapM_cons, ih]
      rfl

section Optional

variable {α : Type} {write : α → Datum} (value : Option α)

/-- A value that may be absent is read back if those that are present are. -/
theorem optional_getD_null {decode : Decoder α}
    (reads : ∀ value, decode dialect (write value) = .ok value)
    (notNull : ∀ value, write value ≠ .null) :
    optional decode dialect ((value.map write).getD .null) = .ok value := by
  cases value with
  | none => rfl
  | some value =>
      have present : optional decode dialect (write value) =
          (decode dialect (write value)).map some := by
        cases shape : write value with
        | null => exact absurd shape (notNull value)
        | _ => rfl
      rw [Option.map_some, Option.getD_some, present, reads]
      rfl

theorem getD_null_ne_record (plain : ∀ value members, write value ≠ .record members)
    (members : Members) : (value.map write).getD .null ≠ .record members := by
  cases value with
  | none => exact nofun
  | some value => exact plain value members

/-- A value that is absent is absent, whether it is chosen or not. -/
theorem cond_none_congr (notNull : ∀ value, write value ≠ .null) {chosen other : Bool}
    (same : (value.map write).getD .null ≠ .null → chosen = other) :
    (bif chosen then value else none) = bif other then value else none := by
  cases value with
  | none => simp
  | some value => rw [same (notNull value)]

end Optional

theorem ofOption_map {α : Type} (name : α → String) (value : Option α) :
    Datum.ofOption (value.map name) =
      (value.map fun value => Datum.text (name value)).getD .null := by
  cases value <;> rfl

theorem ofOption_eq (value : Option String) :
    Datum.ofOption value = (value.map Datum.text).getD .null := by
  cases value <;> rfl

theorem keyword_name {α : Type} [Vocabulary α] {value : α}
    (named : Vocabulary.ofName? α (Vocabulary.name value) = some value) :
    keyword α dialect (.text (Vocabulary.name value)) = .ok value := by
  rw [keyword, variant, named]

end Schema

theorem Environment.ofName?_name (environment : Environment) :
    Vocabulary.ofName? Environment (Vocabulary.name environment) = some environment := by
  cases environment <;> rfl

theorem LogFormat.ofName?_name (format : LogFormat) :
    Vocabulary.ofName? LogFormat (Vocabulary.name format) = some format := by
  cases format <;> rfl

theorem BackendLogLevel.ofName?_name (level : BackendLogLevel) :
    Vocabulary.ofName? BackendLogLevel (Vocabulary.name level) = some level := by
  cases level <;> rfl

/-- The members of a value; only a record has some. -/
def Datum.members : Datum → Members
  | record members => members
  | _ => []

variable {dialect : Dialect} {keys : Keys} {tree : Datum}

/-! ### The records of a configuration -/

namespace DocumentSelector

/-- A selector at the chosen keys, and the preset one elsewhere. -/
def mixed (selector : DocumentSelector) (keys : Keys) : DocumentSelector :=
  let preset := Configuration.vulnerabilities.selector
  { scheme := keys.pick "scheme" selector.scheme preset.scheme
    pattern := keys.pick "pattern" selector.pattern preset.pattern }

theorem overlays (selector : DocumentSelector) :
    shape.Overlays dialect selector.datum.members selector.mixed where
  adds := by
    simp only [datum, Datum.members, List.forall_mem_cons]
    refine ⟨?scheme, ?pattern, nofun⟩
    case scheme => exact shape.adds_of_plain rfl rfl nofun (by simp [mixed])
    case pattern => exact shape.adds_of_plain rfl rfl nofun (by simp [mixed])
  agrees := by
    simp only [datum, Datum.members, List.forall_mem_cons]
    rintro keys chosen other ⟨scheme, pattern, -⟩
    simp [mixed, scheme, pattern]

end DocumentSelector

namespace Toggles

/-- Toggles at the chosen keys, and the preset ones elsewhere. -/
def mixed (toggles : Toggles) (keys : Keys) : Toggles :=
  let preset := Configuration.vulnerabilities.capabilities
  { completion := keys.pick "completion" toggles.completion preset.completion
    definition := keys.pick "goto_definition" toggles.definition preset.definition }

theorem overlays (toggles : Toggles) :
    shape.Overlays dialect toggles.datum.members toggles.mixed where
  adds := by
    simp only [datum, Datum.members, List.forall_mem_cons]
    refine ⟨?completion, ?definition, nofun⟩
    case completion => exact shape.adds_of_plain rfl rfl nofun (by simp [mixed])
    case definition => exact shape.adds_of_plain rfl rfl nofun (by simp [mixed])
  agrees := by
    simp only [datum, Datum.members, List.forall_mem_cons]
    rintro keys chosen other ⟨completion, definition, -⟩
    simp [mixed, completion, definition]

end Toggles

namespace ServerSettings

/-- Server settings at the chosen keys, and the preset ones elsewhere. -/
def mixed (server : ServerSettings) (keys : Keys) : ServerSettings :=
  let preset := Configuration.vulnerabilities.server
  { executable := keys.pick "executable" server.executable preset.executable
    arguments := keys.pick "args" server.arguments preset.arguments
    debugArguments := keys.pick "debug_args" server.debugArguments preset.debugArguments
    logLevel := keys.pick "log_level" server.logLevel preset.logLevel
    environment := keys.pick "environment" server.environment preset.environment
    workingDirectory := keys.pick "working_dir" server.workingDirectory preset.workingDirectory }

theorem overlays (server : ServerSettings) :
    shape.Overlays dialect server.datum.members server.mixed where
  adds := by
    simp only [datum, Datum.members, List.forall_mem_cons]
    refine ⟨?executable, ?arguments, ?debugArguments, ?logLevel, ?environment, ?workingDirectory,
      nofun⟩
    case executable => exact shape.adds_of_plain rfl rfl nofun (by simp [mixed])
    case arguments =>
      exact shape.adds_of_plain rfl (Schema.listOf_text _) nofun (by simp [mixed])
    case debugArguments =>
      exact shape.adds_of_plain rfl (Schema.optional_getD_null _ Schema.listOf_text nofun)
        (Schema.getD_null_ne_record _ nofun) (by simp [mixed])
    case logLevel =>
      rw [Schema.ofOption_map]
      exact shape.adds_of_plain rfl
        (Schema.optional_getD_null _ (fun level => Schema.keyword_name level.ofName?_name) nofun)
        (Schema.getD_null_ne_record _ nofun) (by simp [mixed])
    case environment =>
      exact shape.adds_of_plain rfl (Schema.keyword_name server.environment.ofName?_name) nofun
        (by simp [mixed])
    case workingDirectory =>
      rw [Schema.ofOption_eq]
      exact shape.adds_of_plain rfl (Schema.optional_getD_null _ (fun _ => rfl) nofun)
        (Schema.getD_null_ne_record _ nofun) (by simp [mixed])
  agrees := by
    simp only [datum, Datum.members, List.forall_mem_cons, Schema.ofOption_map]
    simp only [Schema.ofOption_eq]
    rintro keys chosen other
      ⟨executable, arguments, debugArguments, logLevel, environment, workingDirectory, -⟩
    have arguments := arguments nofun
    have debugArguments := Schema.cond_none_congr _ nofun debugArguments
    have logLevel := Schema.cond_none_congr _ nofun logLevel
    have workingDirectory := Schema.cond_none_congr _ nofun workingDirectory
    simp [mixed, Configuration.vulnerabilities, executable, arguments, debugArguments, logLevel,
      environment, workingDirectory]

end ServerSettings

/-! ### Whole configurations -/

section Distinct

theorem DocumentSelector.distinct (selector : DocumentSelector) : selector.datum.Distinct := by
  refine .record (by simp) ?_
  simp only [List.forall_mem_cons]
  exact ⟨.plain nofun, .plain nofun, nofun⟩

theorem ServerSettings.distinct (server : ServerSettings) : server.datum.Distinct := by
  refine .record (by simp) ?_
  simp only [List.forall_mem_cons, Schema.ofOption_map]
  simp only [Schema.ofOption_eq]
  have absent {α : Type} {write : α → Datum} (value : Option α)
      (plain : ∀ value members, write value ≠ .record members) :
      ((value.map write).getD .null).Distinct := .plain (Schema.getD_null_ne_record value plain)
  exact ⟨.plain nofun, .plain nofun, absent _ nofun, absent _ nofun, .plain nofun, absent _ nofun,
    nofun⟩

theorem Toggles.distinct (toggles : Toggles) : toggles.datum.Distinct := by
  refine .record (by simp) ?_
  simp only [List.forall_mem_cons]
  exact ⟨.plain nofun, .plain nofun, nofun⟩

theorem Configuration.distinct (configuration : Configuration) :
    configuration.datum.Distinct := by
  refine .record (by simp) ?_
  simp only [List.forall_mem_cons]
  exact ⟨.plain nofun, .plain nofun, .plain nofun, configuration.selector.distinct,
    configuration.server.distinct, configuration.capabilities.distinct, .plain nofun,
    .plain nofun, nofun⟩

end Distinct

section Below

variable (keys : Keys) (chosen : String → Bool) (name : String)

-- What is chosen at the top does not matter inside a member.

@[simp]
theorem DocumentSelector.mixed_below_withTop (selector : DocumentSelector) :
    selector.mixed ((keys.withTop chosen).below name) = selector.mixed (keys.below name) := rfl

@[simp]
theorem ServerSettings.mixed_below_withTop (server : ServerSettings) :
    server.mixed ((keys.withTop chosen).below name) = server.mixed (keys.below name) := rfl

@[simp]
theorem Toggles.mixed_below_withTop (toggles : Toggles) :
    toggles.mixed ((keys.withTop chosen).below name) = toggles.mixed (keys.below name) := rfl

end Below

theorem DocumentSelector.decode_excerpt {selector : DocumentSelector}
    (excerpt : selector.datum.Excerpt keys tree) :
    decode dialect tree = .ok (selector.mixed keys) :=
  selector.overlays.overlay_excerpt excerpt

theorem ServerSettings.decode_excerpt {server : ServerSettings}
    (excerpt : server.datum.Excerpt keys tree) : decode dialect tree = .ok (server.mixed keys) :=
  server.overlays.overlay_excerpt excerpt

theorem Toggles.decode_excerpt {toggles : Toggles} (excerpt : toggles.datum.Excerpt keys tree) :
    decode dialect tree = .ok (toggles.mixed keys) :=
  toggles.overlays.overlay_excerpt excerpt

namespace Configuration

/-- A configuration at the chosen keys, and the preset for vulnerabilities elsewhere. -/
def mixed (configuration : Configuration) (keys : Keys) : Configuration :=
  let preset := vulnerabilities
  { id := keys.pick "id" configuration.id preset.id
    displayName := keys.pick "display_name" configuration.displayName preset.displayName
    targetExtension :=
      keys.pick "target_extension" configuration.targetExtension preset.targetExtension
    selector := keys.pick "document_selector"
      (configuration.selector.mixed (keys.below "document_selector")) preset.selector
    server := keys.pick "server" (configuration.server.mixed (keys.below "server")) preset.server
    capabilities := keys.pick "capabilities"
      (configuration.capabilities.mixed (keys.below "capabilities")) preset.capabilities
    logFilter := keys.pick "log_filter" configuration.logFilter preset.logFilter
    logFormat := keys.pick "log_format" configuration.logFormat preset.logFormat }

theorem overlays (configuration : Configuration) :
    shape.Overlays dialect configuration.datum.members configuration.mixed where
  adds := by
    simp only [datum, Datum.members, List.forall_mem_cons]
    refine ⟨?id, ?displayName, ?targetExtension, ?selector, ?server, ?capabilities, ?logFilter,
      ?logFormat, nofun⟩
    case selector =>
      intro keys chosen part excerpt
      rw [shape.overlayMember_of_ok rfl (DocumentSelector.decode_excerpt excerpt)]
      simp [mixed]
    case server =>
      intro keys chosen part excerpt
      rw [shape.overlayMember_of_ok rfl (ServerSettings.decode_excerpt excerpt)]
      simp [mixed]
    case capabilities =>
      intro keys chosen part excerpt
      rw [shape.overlayMember_of_ok rfl (Toggles.decode_excerpt excerpt)]
      simp [mixed]
    case logFormat =>
      exact shape.adds_of_plain rfl (Schema.keyword_name configuration.logFormat.ofName?_name) nofun
        (by simp [mixed])
    all_goals exact shape.adds_of_plain rfl rfl nofun (by simp [mixed])
  agrees := by
    simp only [datum, Datum.members, List.forall_mem_cons]
    rintro keys chosen other ⟨id, displayName, targetExtension, selector, server, capabilities,
      logFilter, logFormat, -⟩
    simp [mixed, id, displayName, targetExtension, selector nofun, server nofun, capabilities nofun,
      logFilter, logFormat]

/-- The records of a configuration: the names that lead to each, and the names that it knows. -/
def records : List (List String × List String) := [
  ([], shape.known),
  (["document_selector"], DocumentSelector.shape.known),
  (["server"], ServerSettings.shape.known),
  (["capabilities"], Toggles.shape.known)]

section Unknown

variable {configuration : Configuration} {name : String} {value grown : Datum}

theorem decode_adds (excerpt : configuration.datum.Excerpt keys tree)
    {record : List String × List String} (mem : record ∈ records)
    (adds : Datum.Adds name value tree record.1 grown) (unknown : name ∉ record.2) :
    decode dialect grown = .error (.unknownField name record.2) := by
  simp only [records, List.mem_cons, List.not_mem_nil, or_false] at mem
  rcases mem with rfl | rfl | rfl | rfl
  · exact configuration.overlays.overlay_adds excerpt adds unknown
  · have selector : ("document_selector", configuration.selector.datum) ∈
        configuration.datum.members := by simp [datum, Datum.members]
    exact configuration.overlays.overlay_adds_inside rfl selector excerpt adds
      fun _ _ excerpt adds => configuration.selector.overlays.overlay_adds excerpt adds unknown
  · have server : ("server", configuration.server.datum) ∈ configuration.datum.members := by
      simp [datum, Datum.members]
    exact configuration.overlays.overlay_adds_inside rfl server excerpt adds
      fun _ _ excerpt adds => configuration.server.overlays.overlay_adds excerpt adds unknown
  · have capabilities : ("capabilities", configuration.capabilities.datum) ∈
        configuration.datum.members := by simp [datum, Datum.members]
    exact configuration.overlays.overlay_adds_inside rfl capabilities excerpt adds
      fun _ _ excerpt adds => configuration.capabilities.overlays.overlay_adds excerpt adds unknown

end Unknown

/-! ### All excerpts -/

theorem mixed_all (configuration : Configuration) :
    configuration.mixed (fun _ => true) = configuration := rfl

/--
A document holds a configuration as far as it goes. Whatever keys are chosen, on every level, there
is a document that has these and no others; and each such document, in whatever order, with null or
nothing for what is absent, is read as the configuration at the chosen keys and as the preset at all
others. With all keys that is the configuration, with none it is the preset. One more key, of a name
that the record it stands in does not know, and the document is refused.
-/
theorem decode_overlays_preset (dialect : Dialect) (configuration : Configuration) :
    (∀ keys : Keys, (∃ tree, configuration.datum.Excerpt keys tree) ∧
      ∀ tree, configuration.datum.Excerpt keys tree →
        decode dialect tree = .ok (configuration.mixed keys) ∧
        ∀ record ∈ records, ∀ name value grown, name ∉ record.2 →
          Datum.Adds name value tree record.1 grown →
          decode dialect grown = .error (.unknownField name record.2)) ∧
    decode dialect configuration.datum = .ok configuration ∧
    decode dialect (.record []) = .ok vulnerabilities := by
  have overlaid {keys : Keys} {tree : Datum} (excerpt : configuration.datum.Excerpt keys tree) :
      decode dialect tree = .ok (configuration.mixed keys) :=
    configuration.overlays.overlay_excerpt excerpt
  refine ⟨fun keys => ⟨configuration.distinct.exists_excerpt keys, ?_⟩, ?_, rfl⟩
  · intro tree excerpt
    refine ⟨overlaid excerpt, fun record mem name value grown unknown adds => ?_⟩
    exact decode_adds excerpt mem adds unknown
  · rw [overlaid configuration.distinct.excerpt_self, mixed_all]

/-- A document with two keys, where no log level is chosen and left out, and with one key more that
the server settings do not know. -/
theorem decode_overlays_preset_server :
    let configuration : Configuration :=
      { id := "own", server := { executable := "own-lsp", arguments := [] } }
    let keys : Keys := fun path =>
      path ∈ [["id"], ["server"], ["server", "args"], ["server", "log_level"]]
    let tree (server : Members) : Datum := .record [("server", .record server), ("id", .text "own")]
    configuration.datum.Excerpt keys (tree [("args", .list [])]) ∧
      decode .toml (tree [("args", .list [])]) =
        .ok { id := "own", server := { arguments := [] } } ∧
      decode .toml (tree [("args", .list []), ("port", .integer 1)]) =
        .error (.unknownField "port" ServerSettings.shape.known) := by
  intro configuration keys tree
  have server : configuration.server.datum.Excerpt (keys.below "server")
      (.record [("args", .list [])]) := by
    refine .record (by simp [Keys.below, keys]) ?_ ?_
    · simp [Keys.below, keys, configuration, Datum.ofOption]
    · simp only [List.mem_cons, List.not_mem_nil, or_false, forall_eq, forall_eq_or_imp,
        String.reduceEq, IsEmpty.forall_iff, forall_const, and_self, and_true, true_and]
      exact .plain nofun
  have excerpt : configuration.datum.Excerpt keys (tree [("args", .list [])]) := by
    refine .record (by simp [keys]) (by simp [keys]) ?_
    simp only [List.mem_cons, List.not_mem_nil, or_false, forall_eq_or_imp, forall_eq,
      String.reduceEq, IsEmpty.forall_iff, forall_const, true_and, and_self, and_true]
    exact ⟨.plain nofun, server⟩
  have adds : Datum.Adds "port" (.integer 1) (tree [("args", .list [])]) ["server"]
      (tree [("args", .list []), ("port", .integer 1)]) := by
    show Datum.Adds _ _ (.record ([] ++ ("server", .record ([("args", .list [])] ++ [])) :: _)) _ _
    exact .inside .here
  rcases ((decode_overlays_preset .toml configuration).1 keys).2 _ excerpt with ⟨laid, refused⟩
  exact ⟨excerpt, laid, refused (["server"], ServerSettings.shape.known) (by simp [records]) "port"
    (.integer 1) _ (by decide) adds⟩

end Configuration

end EditorSession
