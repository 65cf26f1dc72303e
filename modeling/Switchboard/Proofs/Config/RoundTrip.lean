import Switchboard.Config.Load
import Switchboard.Proofs.Config.Settings
import Switchboard.Proofs.Files
import Switchboard.Proofs.Toml.Document

/-!
# Configurations that have been saved

A configuration whose paths are texts can be saved wherever a file can be written, and what is
loaded from there is the same configuration.
-/

namespace Switchboard

open Toml

/-! ## Lines and settings -/

section Sets

variable {State Setting : Type} {add : State → Key × Span × Value → Except Located State}
variable {name : Setting → String} {apply : State → Setting → State}

/-- A line makes a setting, wherever it stands. -/
def Sets
    (add : State → Key × Span × Value → Except Located State)
    (name : Setting → String)
    (apply : State → Setting → State)
    (line : Line)
    (setting : Setting) : Prop :=
  line.key = name setting ∧ ∀ place span state,
    add state (⟨line.key, place⟩, span, line.literal.value) = .ok (apply state setting)

/-- Entries that say what the lines do give the settings of the lines. -/
theorem gives_of_sets
    {written : List Line}
    {entries : Entries}
    {settings : List Setting}
    (describes : List.Forall₂ Line.IsEntry written entries)
    (sets : List.Forall₂ (Sets add name apply) written settings) :
    List.Forall₂ (Gives add name apply) entries settings := by
  induction describes generalizing settings with
  | nil =>
      cases sets
      exact .nil
  | @cons line entry _ _ isEntry _ inductionHypothesis =>
      cases sets with
      | cons setsFirst setsMore =>
          obtain ⟨⟨text, place⟩, span, value⟩ := entry
          obtain ⟨rfl, rfl⟩ := isEntry
          exact .cons ⟨setsFirst.1, setsFirst.2 place span⟩ (inductionHypothesis setsMore)

/-- Lines have the keys of the settings they set. -/
theorem map_key_of_sets
    {written : List Line}
    {settings : List Setting}
    (sets : List.Forall₂ (Sets add name apply) written settings) :
    written.map Line.key = settings.map name := by
  induction sets with
  | nil => rfl
  | cons first _ inductionHypothesis =>
      rw [List.map_cons, List.map_cons, first.1, inductionHypothesis]

end Sets

theorem forall₂_toList
    {related : α → β → Prop}
    {left : γ → α}
    {right : γ → β}
    (both : ∀ value, related (left value) (right value))
    (value? : Option γ) :
    List.Forall₂ related (value?.map left).toList (value?.map right).toList := by
  cases value? with
  | none => exact .nil
  | some value => exact .cons (both value) .nil

theorem writeLines_cons
    (line : Line)
    (more : List Line) :
    writeLines (line :: more) = line.written ++ writeLines more :=
  List.flatMap_cons

theorem writeLines_nil : writeLines [] = [] := rfl

theorem writeLines_append (before behind : List Line) :
    writeLines (before ++ behind) = writeLines before ++ writeLines behind :=
  List.flatMap_append

/-- An optional line is written as an optional pair. -/
theorem writeLines_optional
    (key : String)
    (literal : α → Literal)
    (value? : Option α) :
    writeLines (value?.map fun value => ⟨key, literal value⟩).toList =
      optionalPair key (value?.map fun value => (literal value).written) := by
  cases value? with
  | none => rfl
  | some value => exact List.append_nil _

/-! ## Paths -/

/-- A path that is the octets of a text. -/
def IsText (path : Text.Octets) : Prop :=
  ∃ text, path = Text.octets text

/-- The path of a text is written as the text. -/
theorem writePath?_octets (text : String) :
    writePath? (Text.octets text) = some (writeText text.toList) := by
  rw [writePath?, Text.decode?_eq_some_iff.mpr rfl, Option.map_some]

theorem writeOptionalPath?_octets (text? : Option String) :
    writeOptionalPath? (text?.map Text.octets) =
      some (text?.map fun text => writeText text.toList) := by
  cases text? with
  | none => rfl
  | some text => exact congrArg (Option.map some) (writePath?_octets text)

/-- Only a path that is a text is written. -/
theorem isText_of_writePath?
    {path : Text.Octets}
    {written : List Char}
    (writes : writePath? path = some written) :
    IsText path := by
  obtain ⟨text, decodes, -⟩ := Option.map_eq_some_iff.mp writes
  exact ⟨text, Text.decode?_eq_some_iff.mp decodes⟩

theorem isText_of_writeOptionalPath?
    {path? : Option Text.Octets}
    {written? : Option (List Char)}
    (writes : writeOptionalPath? path? = some written?) :
    ∀ path ∈ path?, IsText path := by
  rintro path ⟨⟩
  obtain ⟨written, writesPath, -⟩ := Option.map_eq_some_iff.mp writes
  exact isText_of_writePath? writesPath

/-- An optional path that is a text comes from an optional text. -/
theorem exists_eq_map_octets
    {path? : Option Text.Octets}
    (texts : ∀ path ∈ path?, IsText path) :
    ∃ text? : Option String, path? = text?.map Text.octets := by
  cases path? with
  | none => exact ⟨none, rfl⟩
  | some path =>
      obtain ⟨text, rfl⟩ := texts path rfl
      exact ⟨some text, rfl⟩

namespace TlsFiles

/-- All paths of some files are texts. -/
structure HasTextPaths (files : TlsFiles) : Prop where
  authority : IsText files.authority
  certificate : ∀ path ∈ files.certificate?, IsText path
  key : ∀ path ∈ files.key?, IsText path

/-- Only files whose paths are texts have a table. -/
theorem hasTextPaths_of_render?
    {files : TlsFiles}
    {written : List Char}
    (renders : files.render? = some written) :
    files.HasTextPaths := by
  simp only [render?, Option.bind_eq_bind, Option.bind_eq_some_iff] at renders
  obtain ⟨authority, writesAuthority, certificate?, writesCertificate, key?, writesKey, -⟩ :=
    renders
  exact ⟨isText_of_writePath? writesAuthority, isText_of_writeOptionalPath? writesCertificate,
    isText_of_writeOptionalPath? writesKey⟩

/-- The lines in the table of some files, whose paths are texts. -/
def lines
    (authority : String)
    (certificate? key? domain? : Option String) : List Line :=
  ⟨"ca_cert", .text authority⟩ ::
    ((certificate?.map fun path => ⟨"client_cert", .text path⟩).toList ++
      (key?.map fun path => ⟨"client_key", .text path⟩).toList ++
      (domain?.map fun domain => ⟨"domain", .text domain⟩).toList)

/-- The lines of a section set its fields. -/
theorem sets_lines
    (authority : String)
    (certificate? key? domain? : Option String) :
    List.Forall₂ (Sets Draft.add Setting.name Setting.apply)
      (lines authority certificate? key? domain?)
      (settings ⟨Text.octets authority, certificate?.map Text.octets, key?.map Text.octets,
        domain?⟩) := by
  rw [lines, settings, Option.map_map, Option.map_map]
  refine .cons ⟨rfl, fun _ _ _ => rfl⟩ (List.rel_append (List.rel_append ?_ ?_) ?_)
  · exact forall₂_toList (fun _ => ⟨rfl, fun _ _ _ => rfl⟩) _
  · exact forall₂_toList (fun _ => ⟨rfl, fun _ _ _ => rfl⟩) _
  · exact forall₂_toList (fun _ => ⟨rfl, fun _ _ _ => rfl⟩) _

/-- The table of some files is a header and its lines. -/
theorem render?_octets
    (authority : String)
    (certificate? key? domain? : Option String) :
    render? ⟨Text.octets authority, certificate?.map Text.octets, key?.map Text.octets,
        domain?⟩ =
      some (writeHeader "tls" ++
        writeLines (lines authority certificate? key? domain?)) := by
  rw [render?]
  simp only [writePath?_octets, writeOptionalPath?_octets, Option.bind_eq_bind, Option.bind_some]
  simp [lines, writeLines_cons, writeLines_append, writeLines_optional, Line.written,
    Literal.written, writeHeader]

theorem areEntries_lines
    (authority : String)
    (certificate? key? domain? : Option String) :
    AreEntries (lines authority certificate? key? domain?) := by
  have sublist := sublist_settings
    ⟨Text.octets authority, certificate?.map Text.octets, key?.map Text.octets, domain?⟩
  rw [← map_key_of_sets (sets_lines authority certificate? key? domain?)] at sublist
  exact areEntries_of_sublist sublist (by decide) (by decide)

/-- The files are read from the entries that their lines give. -/
theorem ofValue_entries
    {authority : String}
    {certificate? key? domain? : Option String}
    {entries : Entries}
    (describes : List.Forall₂ Line.IsEntry (lines authority certificate? key? domain?) entries)
    (span : Span)
    (form : Form) :
    ofValue span (.table form entries) =
      .ok ⟨Text.octets authority, certificate?.map Text.octets, key?.map Text.octets,
        domain?⟩ := by
  have sets := sets_lines authority certificate? key? domain?
  have read := foldlM_sortedEntries Setting.apply_independent (gives_of_sets describes sets)
    (nodup_settings _) .empty
  rw [ofValue, read]
  change located span (Draft.complete _) = _
  rw [complete_settings]
  rfl

end TlsFiles

/-! ## Configurations -/

namespace Config

/-- The lines of a configuration, the path of whose log is a text; the table of certificates
and keys comes behind them. -/
def lines
    (config : Config)
    (logFile? : Option String) : List Line :=
  ⟨"debug_mode", .truth config.debugMode⟩ ::
    ⟨"auth_staleness_check", .truth config.authenticationCheck⟩ ::
    ((config.connectSeconds?.map fun seconds =>
        ⟨"connect_timeout_secs", .number seconds.toNat⟩).toList ++
      ⟨"request_timeout_secs", .number config.requestSeconds.toNat⟩ ::
      ((config.token?.map fun token => ⟨"token", .text token⟩).toList ++
        ⟨"log_level", .text config.logLevel.word⟩ ::
        ((logFile?.map fun path => ⟨"log_file", .text path⟩).toList ++
          [⟨"verbose", .truth config.verbose⟩])))

/-- Every number of seconds that a configuration can hold is within range. -/
theorem asSeconds_toNat (seconds : UInt64) :
    Value.asSeconds (.integer seconds.toNat) = .ok seconds := by
  have small : seconds.toNat < 2 ^ 64 := seconds.toNat_lt
  have power : Int.pow 2 64 = 2 ^ 64 := rfl
  have within : 0 ≤ (seconds.toNat : Int) ∧ (seconds.toNat : Int) < Int.pow 2 64 := by
    rw [power]
    omega
  rw [Value.asSeconds, if_pos within, Int.toNat_natCast, UInt64.ofNat_toNat]

theorem sets_connectSeconds (seconds : UInt64) :
    Sets add Setting.name Setting.apply
      ⟨"connect_timeout_secs", .number seconds.toNat⟩ (.connectSeconds seconds) := by
  have reads : ∀ place span value state, add state (⟨"connect_timeout_secs", place⟩, span, value) =
      (located span (Value.asSeconds value)).map fun read =>
        { state with connectSeconds? := some read } :=
    fun _ _ _ _ => rfl
  refine ⟨rfl, fun place span state => ?_⟩
  rw [reads, Literal.value, asSeconds_toNat]
  rfl

theorem sets_requestSeconds (seconds : UInt64) :
    Sets add Setting.name Setting.apply
      ⟨"request_timeout_secs", .number seconds.toNat⟩ (.requestSeconds seconds) := by
  have reads : ∀ place span value state, add state (⟨"request_timeout_secs", place⟩, span, value) =
      (located span (Value.asSeconds value)).map fun read =>
        { state with requestSeconds := read } :=
    fun _ _ _ _ => rfl
  refine ⟨rfl, fun place span state => ?_⟩
  rw [reads, Literal.value, asSeconds_toNat]
  rfl

theorem sets_logLevel (level : Level) :
    Sets add Setting.name Setting.apply ⟨"log_level", .text level.word⟩ (.logLevel level) := by
  cases level <;> exact ⟨rfl, fun _ _ _ => rfl⟩

/-- Each line of a configuration makes one of its settings. -/
theorem sets_lines
    (config : Config)
    {logFile? : Option String}
    (logPath : config.logFile? = logFile?.map Text.octets) :
    List.Forall₂ (Sets add Setting.name Setting.apply) (config.lines logFile?)
      config.plainSettings := by
  rw [lines, plainSettings, logPath, Option.map_map]
  refine .cons ⟨rfl, fun _ _ _ => rfl⟩ (.cons ⟨rfl, fun _ _ _ => rfl⟩
    (List.rel_append (forall₂_toList sets_connectSeconds _) (.cons (sets_requestSeconds _)
      (List.rel_append (forall₂_toList ?_ _) (.cons (sets_logLevel _)
        (List.rel_append (forall₂_toList ?_ _) (.cons ⟨rfl, fun _ _ _ => rfl⟩ .nil)))))))
  · exact fun _ => ⟨rfl, fun _ _ _ => rfl⟩
  · exact fun _ => ⟨rfl, fun _ _ _ => rfl⟩

theorem areEntries_lines
    (config : Config)
    {logFile? : Option String}
    (logPath : config.logFile? = logFile?.map Text.octets) :
    AreEntries (config.lines logFile?) ∧ "tls" ∉ (config.lines logFile?).map Line.key := by
  have sublist := sublist_plainSettings config
  rw [← map_key_of_sets (sets_lines config logPath)] at sublist
  refine ⟨areEntries_of_sublist sublist (by decide) (by decide), fun member => ?_⟩
  exact absurd (sublist.subset member) (by decide)

/-- The entries of the lines, with those of the table of certificates and keys, give the
configuration. -/
theorem ofEntries_of_gives
    {config : Config}
    {entries : Entries}
    (gives : List.Forall₂ (Gives add Setting.name Setting.apply) entries config.settings) :
    ofEntries entries = .ok config := by
  rw [ofEntries, foldlM_sortedEntries Setting.apply_independent gives config.nodup_settings,
    foldl_settings]

/-- The table of certificates and keys as it is written, if there is one. -/
def table? (config : Config) : Option (List Char) :=
  match config.tls? with
  | some files => files.render?
  | none => some []

/-- The document of a configuration consists of its lines and of the table. -/
theorem render?_eq (config : Config) :
    config.render? = (writeOptionalPath? config.logFile?).bind fun logFile? =>
      config.table?.map fun table =>
        writePair "debug_mode" (writeTruth config.debugMode) ++
          writePair "auth_staleness_check" (writeTruth config.authenticationCheck) ++
          optionalPair "connect_timeout_secs"
            (config.connectSeconds?.map fun seconds => writeNumber seconds.toNat) ++
          writePair "request_timeout_secs" (writeNumber config.requestSeconds.toNat) ++
          optionalPair "token" (config.token?.map fun token => writeText token.toList) ++
          writePair "log_level" (writeText config.logLevel.word.toList) ++
          optionalPair "log_file" logFile? ++
          writePair "verbose" (writeTruth config.verbose) ++ table := by
  rw [render?, table?]
  cases writeOptionalPath? config.logFile? with
  | none => rfl
  | some logFile? =>
      cases config.tls? with
      | none => rfl
      | some files =>
          change Option.bind files.render? _ = Option.map _ files.render?
          cases files.render? <;> rfl

theorem render?_octets
    (config : Config)
    {logFile? : Option String}
    (logPath : config.logFile? = logFile?.map Text.octets) :
    config.render? = config.table?.map (writeLines (config.lines logFile?) ++ ·) := by
  rw [render?_eq, logPath, writeOptionalPath?_octets, Option.bind_some]
  congr 1
  funext table
  simp [lines, writeLines_cons, writeLines_append, writeLines_optional, writeLines_nil,
    Line.written, Literal.written]

/-- All paths of a configuration are texts. -/
structure HasTextPaths (config : Config) : Prop where
  log : ∀ path ∈ config.logFile?, IsText path
  tls : ∀ files ∈ config.tls?, files.HasTextPaths

/-- Only a configuration whose paths are texts has a document. -/
theorem hasTextPaths_of_render?
    {config : Config}
    {written : List Char}
    (renders : config.render? = some written) :
    config.HasTextPaths := by
  rw [render?_eq, Option.bind_eq_some_iff] at renders
  obtain ⟨logFile?, writesLog, renders⟩ := renders
  obtain ⟨table, writesTable, -⟩ := Option.map_eq_some_iff.mp renders
  refine ⟨isText_of_writeOptionalPath? writesLog, fun files member => ?_⟩
  rw [Option.mem_def] at member
  rw [table?, member] at writesTable
  exact TlsFiles.hasTextPaths_of_render? writesTable

/-- A configuration whose paths are texts has a document, and it is read back from there. -/
theorem parse_render
    {config : Config}
    (texts : config.HasTextPaths) :
    ∃ written, config.render? = some written ∧ parse written = .ok config := by
  obtain ⟨logFile?, logPath⟩ := exists_eq_map_octets texts.log
  obtain ⟨areEntries, untabled⟩ := areEntries_lines config logPath
  have sets := sets_lines config logPath
  have renders := render?_octets config logPath
  -- Both kinds of document are read as entries that give the settings in order.
  suffices reads : ∃ table entries, config.table? = some table ∧
      document? (writeLines (config.lines logFile?) ++ table) = some entries ∧
      List.Forall₂ (Gives add Setting.name Setting.apply) entries config.settings by
    obtain ⟨table, entries, hasTable, reads, gives⟩ := reads
    refine ⟨_, by rw [renders, hasTable, Option.map_some], ?_⟩
    rw [parse, reads]
    change (ofEntries entries).mapError _ = _
    rw [ofEntries_of_gives gives]
    rfl
  cases secured : config.tls? with
  | none =>
      obtain ⟨entries, reads, describes⟩ := document?_writeLines areEntries (List.cons_ne_nil _ _)
      refine ⟨[], entries, by rw [table?, secured], by rw [List.append_nil, reads], ?_⟩
      rw [settings, secured, Option.map_none, Option.toList_none, List.append_nil]
      exact gives_of_sets describes sets
  | some files =>
      obtain ⟨authorityText, certificateText, keyText⟩ := texts.tls files secured
      obtain ⟨authority, certificate?, key?, domain?⟩ := files
      obtain ⟨authority, rfl⟩ := authorityText
      obtain ⟨certificate?, rfl⟩ := exists_eq_map_octets certificateText
      obtain ⟨key?, rfl⟩ := exists_eq_map_octets keyText
      have areInner := TlsFiles.areEntries_lines authority certificate? key? domain?
      obtain ⟨entries, place, span, children, reads, describes, describesInner⟩ :=
        @document?_writeHeader _ _ "tls" (by decide) areEntries areInner (List.cons_ne_nil _ _)
          untabled
      refine ⟨_, _, by rw [table?, secured]; exact TlsFiles.render?_octets _ _ _ _, reads, ?_⟩
      rw [settings, secured]
      refine List.rel_append (gives_of_sets describes sets) (.cons ⟨rfl, fun state => ?_⟩ .nil)
      change (TlsFiles.ofValue span (.table .header children)).bind _ = _
      rw [TlsFiles.ofValue_entries describesInner]
      rfl

/-! ## Files -/

section Saving

variable {config : Config} {files : FileTree} {path : Text.Octets}

/-- A config that has a document is saved by writing it. -/
theorem saving_of_document_eq_ok
    {text : String}
    (made : config.document = .ok text) :
    config.saving path =
      Edit.remake fun files => (files.write path (Text.octets text)).mapError .ofFile := by
  rw [saving, made]
  rfl

/-- A config that has no document leaves the files as they are. -/
theorem run_saving_of_document_eq_error
    {error : ClientError}
    (fails : config.document = .error error) :
    (config.saving path).run files = (.error error, files) := by
  rw [saving, fails]
  rfl

/-- A configuration whose document can be written is saved. -/
theorem run_saving_of_write_eq_ok
    {text : String}
    {after : FileTree}
    (made : config.document = .ok text)
    (writes : files.write path (Text.octets text) = .ok after) :
    (config.saving path).run files = (.ok (), after) := by
  rw [saving_of_document_eq_ok made]
  apply Edit.run_remake_of_ok
  rw [writes]
  rfl

/-- A configuration that cannot be saved leaves the files as they are, whether it is its document
that cannot be made or the file that cannot be written. -/
theorem filesAfter_of_save_eq_error
    {error : ClientError}
    (fails : config.save files path = .error error) :
    config.filesAfter files path = files := by
  cases made : config.document with
  | error other => rw [filesAfter, Edit.after, run_saving_of_document_eq_error made]
  | ok text =>
      cases writes : files.write path (Text.octets text) with
      | ok after =>
          rw [save, Edit.result, run_saving_of_write_eq_ok made writes] at fails
          cases fails
      | error fault =>
          rw [filesAfter, Edit.after, saving_of_document_eq_ok made,
            Edit.run_remake_of_error (by rw [writes]; rfl)]

end Saving

/-- A configuration whose paths are texts can be saved wherever a file can be written, and what
is loaded from there is the same configuration; one that has another path cannot be saved
anywhere, and the files stay as they are. -/
theorem load_save
    (config : Config)
    (files : FileTree)
    (path : Text.Octets) :
    (config.HasTextPaths → files.IsWritable path →
      config.save files path = .ok (config.filesAfter files path) ∧
        load (config.filesAfter files path) path = .ok config) ∧
    (¬config.HasTextPaths →
      config.save files path = .error (.config .pathNotText) ∧
        config.filesAfter files path = files) := by
  constructor
  · intro texts writable
    obtain ⟨written, renders, parses⟩ := parse_render texts
    obtain ⟨after, writes, reads⟩ := FileTree.read_write writable (String.ofList written)
    have made : config.document = .ok (String.ofList written) := by rw [document, renders]
    have saves := run_saving_of_write_eq_ok made writes
    have left : config.filesAfter files path = after := by rw [filesAfter, Edit.after, saves]
    refine ⟨by rw [save, Edit.result, saves]; rfl, ?_⟩
    rw [left, load, reads]
    dsimp only
    rw [String.toList_ofList, parses]
    rfl
  · intro texts
    have unrendered : config.render? = none := by
      rw [Option.eq_none_iff_forall_ne_some]
      exact fun written renders => texts (hasTextPaths_of_render? renders)
    have unmade : config.document = .error (.config .pathNotText) := by
      rw [document, unrendered]
    have fails : config.save files path = .error (.config .pathNotText) := by
      rw [save, Edit.result, run_saving_of_document_eq_error unmade]
      rfl
    exact ⟨fails, filesAfter_of_save_eq_error fails⟩

/-- A token with quotes, lines and a control, the longest timeout, and a path and a name with
single quotes survive in a file of an empty directory.  With a path to the log that is no text
there will be no file. -/
theorem load_save_quoted :
    let config : Config :=
      { default with
        connectSeconds? := some 18446744073709551615
        token? := some "a\"b\n\x01"
        tls? := some ⟨Text.octets "it's \"here\"\\", none, none, some "'''\n"⟩ }
    let unwritable : Config := { config with logFile? := some [0xFF] }
    let files : FileTree := ⟨[], []⟩
    let path := Text.octets "switchboard.toml"
    config.HasTextPaths ∧ files.IsWritable path ∧
      load (config.filesAfter files path) path = .ok config ∧
      ¬unwritable.HasTextPaths ∧
      unwritable.save files path = .error (.config .pathNotText) ∧
      unwritable.filesAfter files path = files := by
  intro config unwritable files path
  have texts : config.HasTextPaths := by
    refine ⟨nofun, ?_⟩
    rintro files ⟨⟩
    exact ⟨⟨_, rfl⟩, nofun, nofun⟩
  have writable : files.IsWritable path := ⟨[path], rfl⟩
  have untexts : ¬unwritable.HasTextPaths := by
    intro texts
    obtain ⟨text, same⟩ := texts.log [0xFF] rfl
    have undecodable : Text.decode? [0xFF] = none := by decide
    rw [Text.decode?_eq_some_iff.mpr same] at undecodable
    cases undecodable
  obtain ⟨fails, left⟩ := (load_save unwritable files path).2 untexts
  exact ⟨texts, writable, ((load_save config files path).1 texts writable).2, untexts, fails,
    left⟩

end Config
end Switchboard
