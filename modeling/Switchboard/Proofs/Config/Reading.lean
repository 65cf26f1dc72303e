import Switchboard.Proofs.Config.Settings
import Switchboard.Proofs.Toml.Format

/-!
# What a document states

A configuration is read from what a document says about the keys that are known: each of them
states a setting, or leaves the field as it is without the key.  Of any other key only the numbers
behind it matter, which have to be such that they can be represented.
-/

namespace Switchboard

open Toml

/-! ## Values -/

namespace Toml

theorem located_eq_ok_iff
    {span : Span}
    {result : Except Complaint α}
    {value : α} :
    located span result = .ok value ↔ result = .ok value :=
  mapError_eq_ok_iff

namespace Value

variable {value : Value}

theorem asTruth_eq_ok_iff {truth : Bool} :
    value.asTruth = .ok truth ↔ value.datum = .boolean truth := by
  cases value <;> simp [asTruth, datum]

theorem asText_eq_ok_iff {expected text : String} :
    value.asText expected = .ok text ↔ value.datum = .string text := by
  cases value <;> simp [asText, datum]

theorem asPath_eq_ok_iff {path : Text.Octets} :
    value.asPath = .ok path ↔ ∃ text, value.datum = .string text ∧ Text.octets text = path := by
  rw [asPath, map_eq_ok_iff]
  simp only [asText_eq_ok_iff]

theorem asSeconds_eq_ok_iff {seconds : UInt64} :
    value.asSeconds = .ok seconds ↔ value.datum = .integer seconds.toNat := by
  cases value with
  | integer number =>
      have small := seconds.toNat_lt
      have power : Int.pow 2 64 = 18446744073709551616 := rfl
      rw [asSeconds, datum, Datum.integer.injEq, power]
      split
      · next within =>
          rw [Except.ok.injEq, ← UInt64.toNat_inj, UInt64.toNat_ofNat']
          omega
      · next beyond =>
          refine iff_of_false ?_ (by omega)
          split <;> nofun
  | _ => simp [asSeconds, datum]

end Value

/-- An array or a table in which there is nothing. -/
def Datum.IsEmpty : Datum → Prop
  | .array items => items = []
  | .table contents => ∀ name, contents name = none
  | _ => False

end Toml

/-! ## Levels -/

namespace Level

/-- A level is stated by its word, or by a table whose one key is the word. -/
def IsStatedBy (level : Level) : Datum → Prop
  | .string text => text = level.word
  | .table contents =>
      (∀ name, name ≠ level.word → contents name = none) ∧
        ∃ inner, contents level.word = some inner ∧ inner.IsEmpty
  | _ => False

theorem ofWord_eq_ok_iff
    {word : String}
    {level : Level} :
    ofValue.ofWord word = .ok level ↔ word = level.word := by
  have found : ofWord? word = some level ↔ word = level.word := by
    constructor
    · intro found
      have same := List.find?_some found
      exact (beq_iff_eq.mp same).symm
    · rintro rfl
      cases level <;> rfl
  rw [← found, ofValue.ofWord]
  cases ofWord? word <;> simp

/-- Behind its word, the table of a level has an empty array or an empty table. -/
theorem ofValue_singleton_eq_ok_iff
    {span place : Span}
    {form : Form}
    {key : Key}
    {inner : Value}
    {level : Level} :
    ofValue span (.table form [(key, place, inner)]) = .ok level ↔
      key.text = level.word ∧ inner.datum.IsEmpty := by
  -- What stands behind the word decides only whether the level is accepted.
  have accepted :
      ((located key.span (ofValue.ofWord key.text)).bind fun found => .ok found) = .ok level ↔
        key.text = level.word := by
    simp [bind_eq_ok_iff, located_eq_ok_iff, ofWord_eq_ok_iff]
  have refused : ∀ reason : Located,
      ¬((located key.span (ofValue.ofWord key.text)).bind fun _ => .error reason) =
        .ok level := by
    simp [bind_eq_ok_iff]
  rcases inner with _ | _ | _ | _ | _ | ⟨_, _ | ⟨item, items⟩⟩ | ⟨_, _ | ⟨entry, entries⟩⟩
  case array.nil => exact accepted.trans (and_iff_left rfl).symm
  case table.nil => exact accepted.trans (and_iff_left fun _ => rfl).symm
  all_goals
    refine iff_of_false (refused _) ?_
    rintro ⟨-, empty⟩
  case table.cons =>
    have absent := contents_eq_none_iff.mp (empty entry.1.text)
    exact absent entry List.mem_cons_self rfl
  all_goals cases empty

theorem ofValue_eq_ok_iff
    {span : Span}
    {value : Value}
    {level : Level}
    (tidy : value.IsTidy) :
    ofValue span value = .ok level ↔ level.IsStatedBy value.datum := by
  cases value with
  | string text => rw [ofValue, located_eq_ok_iff, ofWord_eq_ok_iff]; rfl
  | table form entries =>
      replace tidy := isTidy_table_iff.mp tidy
      rcases entries with _ | ⟨⟨key, place, inner⟩, _ | ⟨second, rest⟩⟩
      · exact iff_of_false nofun nofun
      · rw [ofValue_singleton_eq_ok_iff]
        constructor
        · rintro ⟨same, empty⟩
          obtain ⟨text, place⟩ := key
          obtain rfl : text = level.word := same
          exact ⟨fun name other => contents_cons_of_ne other, _, contents_cons_self, empty⟩
        · rintro ⟨-, other, given, empty⟩
          obtain ⟨entry, single, same, rfl⟩ := tidy.contents_eq_some_iff.mp given
          obtain rfl := List.mem_singleton.mp single
          exact ⟨same, empty⟩
      · refine iff_of_false nofun ?_
        rintro ⟨others, -⟩
        have named : ∀ entry ∈ (key, place, inner) :: second :: rest,
            entry.1.text = level.word := by
          intro entry member
          by_contra different
          exact contents_eq_none_iff.mp (others _ different) entry member rfl
        refine (List.nodup_cons.mp tidy.distinct).1 ?_
        have same : second.1.text = key.text :=
          (named second (List.mem_cons_of_mem _ List.mem_cons_self)).trans
            (named (key, place, inner) List.mem_cons_self).symm
        exact List.mem_map.mpr ⟨second, List.mem_cons_self, same⟩
  | _ => exact iff_of_false nofun id

end Level


/-! ## The files of certificates and keys -/

namespace TlsFiles

/-- What there is a key for in the table of certificates and keys. -/
inductive Field
  | authority
  | certificate
  | key
  | domain
  deriving DecidableEq

namespace Field

/-- The key of a field. -/
def name : Field → String
  | .authority => "ca_cert"
  | .certificate => "client_cert"
  | .key => "client_key"
  | .domain => "domain"

/-- The place of a field in an array. -/
def position : Field → Nat
  | .authority => 0
  | .certificate => 1
  | .key => 2
  | .domain => 3

end Field

namespace Setting

/-- The field that a setting is for. -/
def field : Setting → Field
  | .authority _ => .authority
  | .certificate _ => .certificate
  | .key _ => .key
  | .domain _ => .domain

/-- A path and a name are stated by a text. -/
def IsStatedBy : Setting → Datum → Prop
  | .authority path, datum | .certificate path, datum | .key path, datum =>
      ∃ text, datum = .string text ∧ Text.octets text = path
  | .domain name, datum => datum = .string name

end Setting

/-- The setting of a field, if it has been read. -/
def Draft.setting? (draft : Draft) : Field → Option Setting
  | .authority => draft.authority?.map .authority
  | .certificate => draft.certificate?.map .certificate
  | .key => draft.key?.map .key
  | .domain => draft.domain?.map .domain

/-- How the table of certificates and keys is understood. -/
def format : Format Draft Field Setting where
  name := Field.name
  field := Setting.field
  IsStatedBy := Setting.IsStatedBy
  setting? := Draft.setting?

/-- What is read for a field. -/
def Field.read
    (field : Field)
    (span : Span)
    (value : Value) : Except Located Setting :=
  match field with
  | .authority => (located span value.asPath).map .authority
  | .certificate => (located span value.asPath).map .certificate
  | .key => (located span value.asPath).map .key
  | .domain => (located span (value.asText "a string")).map .domain

theorem Field.read_eq_ok_iff
    {field : Field}
    {span : Span}
    {value : Value}
    {setting : Setting} :
    field.read span value = .ok setting ↔
      setting.field = field ∧ setting.IsStatedBy value.datum := by
  cases field <;> cases setting <;>
    simp [Field.read, map_eq_ok_iff, located_eq_ok_iff, Value.asPath_eq_ok_iff,
      Value.asText_eq_ok_iff, Setting.field, Setting.IsStatedBy]

theorem add_eq_map_read
    (draft : Draft)
    (field : Field)
    (place span : Span)
    (value : Value) :
    draft.add (⟨field.name, place⟩, span, value) =
      (field.read span value).map (Setting.apply draft) := by
  cases field <;> (rw [Field.read, map_map]; rfl)

theorem add_of_unknown
    {draft : Draft}
    {key : Key}
    {span : Span}
    {value : Value}
    (unknown : ∀ field : Field, field.name ≠ key.text) :
    draft.add (key, span, value) = (ignore span value).map fun _ => draft := by
  rw [Draft.add.eq_def]
  dsimp only
  split
  · next same => exact absurd same.symm (unknown .authority)
  · next same => exact absurd same.symm (unknown .certificate)
  · next same => exact absurd same.symm (unknown .key)
  · next same => exact absurd same.symm (unknown .domain)
  · rfl

/-- The table of certificates and keys is read as it is understood. -/
theorem reads : format.Reads Draft.add Setting.apply where
  injective := by
    intro left right
    cases left <;> cases right <;> decide
  known := by
    intro field place span value before after _
    change before.add (⟨field.name, place⟩, span, value) = _ ↔ _
    rw [add_eq_map_read, map_eq_ok_iff]
    simp only [Field.read_eq_ok_iff, and_assoc]
    rfl
  unknown := by
    intro key span value before after tidy unknown
    rw [add_of_unknown unknown, map_eq_ok_iff]
    simp [ignore_eq_ok_iff tidy]
  setting?_apply := by
    intro draft setting field
    cases setting <;> cases field <;> rfl
  ext := by
    intro left right same
    obtain ⟨authority?, certificate?, key?, domain?⟩ := left
    obtain ⟨authorityToo?, certificateToo?, keyToo?, domainToo?⟩ := right
    obtain rfl := Option.map_injective (fun _ _ => Setting.authority.inj) (same .authority)
    obtain rfl := Option.map_injective (fun _ _ => Setting.certificate.inj) (same .certificate)
    obtain rfl := Option.map_injective (fun _ _ => Setting.key.inj) (same .key)
    obtain rfl := Option.map_injective (fun _ _ => Setting.domain.inj) (same .domain)
    rfl

/-- What has been read when some files are complete. -/
def draft (files : TlsFiles) : Draft :=
  ⟨some files.authority, files.certificate?, files.key?, files.domain?⟩

theorem complete_eq_ok_iff
    {draft : Draft}
    {files : TlsFiles} :
    draft.complete = .ok files ↔ draft = files.draft := by
  obtain ⟨authority?, certificate?, key?, domain?⟩ := draft
  obtain ⟨authority, certificate, key, domain⟩ := files
  cases authority? <;> simp [Draft.complete, TlsFiles.draft]

/-- Files are stated by a table, or by an array with a place for each field. -/
def IsStatedBy (files : TlsFiles) : Datum → Prop
  | .table contents => format.Describes contents .empty files.draft
  | .array items => ∀ field : Field,
      format.Sets field items[field.position]? none (files.draft.setting? field)
  | _ => False

theorem item?_eq_ok_iff
    {field : Field}
    {readItem : Value → Except Complaint α}
    {make : α → Setting}
    (reads : ∀ span value, field.read span value = (located span (readItem value)).map make)
    (injective : Function.Injective make)
    {items : List (Span × Value)}
    {result? : Option α} :
    item? items field.position readItem = .ok result? ↔
      format.Sets field (itemData items)[field.position]? none (result?.map make) := by
  rw [itemData_eq, List.getElem?_map, item?]
  cases items[field.position]? with
  | none => cases result? <;> simp [Format.Sets]
  | some item =>
      obtain ⟨span, value⟩ := item
      have accepted : ∀ setting, (setting.field = field ∧ setting.IsStatedBy value.datum) ↔
          ∃ result, located span (readItem value) = .ok result ∧ make result = setting := by
        intro setting
        rw [← map_eq_ok_iff, ← reads, Field.read_eq_ok_iff]
      change (located span (readItem value)).map some = .ok result? ↔
        ∃ setting, setting.field = field ∧ setting.IsStatedBy value.datum ∧
          result?.map make = some setting
      rw [map_eq_ok_iff]
      constructor
      · rintro ⟨result, read, rfl⟩
        obtain ⟨same, stated⟩ := (accepted _).mpr ⟨result, read, rfl⟩
        exact ⟨make result, same, stated, rfl⟩
      · rintro ⟨setting, same, stated, made⟩
        obtain ⟨result, read, rfl⟩ := (accepted _).mp ⟨same, stated⟩
        exact ⟨result, read, (Option.map_injective injective made).symm⟩

/-- The array of some files has its items in the order of the fields. -/
theorem ofValue_array_eq_ok_iff
    {span : Span}
    {ofTables : Bool}
    {items : List (Span × Value)}
    {files : TlsFiles} :
    ofValue span (.array ofTables items) = .ok files ↔
      files.IsStatedBy (.array (itemData items)) := by
  have authority := fun result? => @item?_eq_ok_iff _ .authority Value.asPath Setting.authority
    (fun _ _ => rfl) (fun _ _ => Setting.authority.inj) items result?
  have certificate := fun result? => @item?_eq_ok_iff _ .certificate Value.asPath
    Setting.certificate (fun _ _ => rfl) (fun _ _ => Setting.certificate.inj) items result?
  have key := fun result? => @item?_eq_ok_iff _ .key Value.asPath Setting.key
    (fun _ _ => rfl) (fun _ _ => Setting.key.inj) items result?
  have domain := fun result? => @item?_eq_ok_iff _ .domain (Value.asText "a string")
    Setting.domain (fun _ _ => rfl) (fun _ _ => Setting.domain.inj) items result?
  have unfolded : ofValue span (.array ofTables items) =
      (item? items 0 Value.asPath).bind fun authority? =>
        authority?.elim (.error (span, .tooShort 0 "struct TlsConfig with 4 elements"))
          fun authority =>
            (item? items 1 Value.asPath).bind fun certificate? =>
              (item? items 2 Value.asPath).bind fun key? =>
                (item? items 3 (Value.asText "a string")).bind fun domain? =>
                  .ok ⟨authority, certificate?, key?, domain?⟩ := by
    refine congrArg (item? items 0 Value.asPath).bind (funext fun authority? => ?_)
    cases authority? <;> rfl
  rw [unfolded]
  constructor
  · intro read
    obtain ⟨authority?, readAuthority, read⟩ := bind_eq_ok_iff.mp read
    cases authority? with
    | none => cases read
    | some path =>
        obtain ⟨certificate?, readCertificate, read⟩ := bind_eq_ok_iff.mp read
        obtain ⟨key?, readKey, read⟩ := bind_eq_ok_iff.mp read
        obtain ⟨domain?, readDomain, read⟩ := bind_eq_ok_iff.mp read
        cases read
        intro field
        cases field
        · exact (authority _).mp readAuthority
        · exact (certificate _).mp readCertificate
        · exact (key _).mp readKey
        · exact (domain _).mp readDomain
  · intro stated
    have readAuthority := (authority (some files.authority)).mpr (stated .authority)
    have readCertificate := (certificate files.certificate?).mpr (stated .certificate)
    have readKey := (key files.key?).mpr (stated .key)
    have readDomain := (domain files.domain?).mpr (stated .domain)
    change item? items 0 _ = _ at readAuthority
    change item? items 1 _ = _ at readCertificate
    change item? items 2 _ = _ at readKey
    change item? items 3 _ = _ at readDomain
    rw [readAuthority, readCertificate, readKey, readDomain]
    rfl

theorem ofValue_eq_ok_iff
    {span : Span}
    {value : Value}
    {files : TlsFiles}
    (tidy : value.IsTidy) :
    ofValue span value = .ok files ↔ files.IsStatedBy value.datum := by
  cases value with
  | array ofTables items => exact ofValue_array_eq_ok_iff
  | table form entries =>
      change ((sortedEntries entries).foldlM Draft.add .empty).bind
        (fun draft => located span draft.complete) = _ ↔ _
      rw [bind_eq_ok_iff]
      simp only [located_eq_ok_iff, complete_eq_ok_iff, exists_eq_right,
        reads.foldlM_sortedEntries_eq_ok_iff (isTidy_table_iff.mp tidy)]
      rfl
  | _ => exact iff_of_false nofun id

end TlsFiles

/-! ## Configurations -/

namespace Config

/-- What there is a key for in the document of a configuration. -/
inductive Field
  | debugMode
  | authenticationCheck
  | connectSeconds
  | requestSeconds
  | tls
  | token
  | logLevel
  | logFile
  | verbose
  deriving DecidableEq

/-- The key of a field. -/
def Field.name : Field → String
  | .debugMode => "debug_mode"
  | .authenticationCheck => "auth_staleness_check"
  | .connectSeconds => "connect_timeout_secs"
  | .requestSeconds => "request_timeout_secs"
  | .tls => "tls"
  | .token => "token"
  | .logLevel => "log_level"
  | .logFile => "log_file"
  | .verbose => "verbose"

namespace Setting

/-- The field that a setting is for. -/
def field : Setting → Field
  | .debugMode _ => .debugMode
  | .authenticationCheck _ => .authenticationCheck
  | .connectSeconds _ => .connectSeconds
  | .requestSeconds _ => .requestSeconds
  | .tls _ => .tls
  | .token _ => .token
  | .logLevel _ => .logLevel
  | .logFile _ => .logFile
  | .verbose _ => .verbose

/-- Whether a setting is stated by a datum. -/
def IsStatedBy : Setting → Datum → Prop
  | .debugMode value, datum | .authenticationCheck value, datum | .verbose value, datum =>
      datum = .boolean value
  | .connectSeconds seconds, datum | .requestSeconds seconds, datum =>
      datum = .integer seconds.toNat
  | .tls files, datum => files.IsStatedBy datum
  | .token text, datum => datum = .string text
  | .logLevel level, datum => level.IsStatedBy datum
  | .logFile path, datum => ∃ text, datum = .string text ∧ Text.octets text = path

end Setting

/-- The setting of a field, if there is one. -/
def setting? (config : Config) : Field → Option Setting
  | .debugMode => some (.debugMode config.debugMode)
  | .authenticationCheck => some (.authenticationCheck config.authenticationCheck)
  | .connectSeconds => config.connectSeconds?.map .connectSeconds
  | .requestSeconds => some (.requestSeconds config.requestSeconds)
  | .tls => config.tls?.map .tls
  | .token => config.token?.map .token
  | .logLevel => some (.logLevel config.logLevel)
  | .logFile => config.logFile?.map .logFile
  | .verbose => some (.verbose config.verbose)

/-- How the document of a configuration is understood. -/
def format : Format Config Field Setting where
  name := Field.name
  field := Setting.field
  IsStatedBy := Setting.IsStatedBy
  setting? := setting?

/-- What is read for a field. -/
def Field.read
    (field : Field)
    (span : Span)
    (value : Value) : Except Located Setting :=
  match field with
  | .debugMode => (located span value.asTruth).map .debugMode
  | .authenticationCheck => (located span value.asTruth).map .authenticationCheck
  | .connectSeconds => (located span value.asSeconds).map .connectSeconds
  | .requestSeconds => (located span value.asSeconds).map .requestSeconds
  | .tls => (TlsFiles.ofValue span value).map .tls
  | .token => (located span (value.asText "a string")).map .token
  | .logLevel => (Level.ofValue span value).map .logLevel
  | .logFile => (located span value.asPath).map .logFile
  | .verbose => (located span value.asTruth).map .verbose

theorem Field.read_eq_ok_iff
    {field : Field}
    {span : Span}
    {value : Value}
    {setting : Setting}
    (tidy : value.IsTidy) :
    field.read span value = .ok setting ↔
      setting.field = field ∧ setting.IsStatedBy value.datum := by
  cases field <;> cases setting <;>
    simp [Field.read, map_eq_ok_iff, located_eq_ok_iff, Value.asTruth_eq_ok_iff,
      Value.asSeconds_eq_ok_iff, Value.asPath_eq_ok_iff, Value.asText_eq_ok_iff,
      TlsFiles.ofValue_eq_ok_iff tidy, Level.ofValue_eq_ok_iff tidy, Setting.field,
      Setting.IsStatedBy]

theorem add_eq_map_read
    (config : Config)
    (field : Field)
    (place span : Span)
    (value : Value) :
    config.add (⟨field.name, place⟩, span, value) =
      (field.read span value).map (Setting.apply config) := by
  cases field <;> (rw [Field.read, map_map]; rfl)

theorem add_of_unknown
    {config : Config}
    {key : Key}
    {span : Span}
    {value : Value}
    (unknown : ∀ field : Field, field.name ≠ key.text) :
    config.add (key, span, value) = (ignore span value).map fun _ => config := by
  rw [add.eq_def]
  dsimp only
  split
  · next same => exact absurd same.symm (unknown .debugMode)
  · next same => exact absurd same.symm (unknown .authenticationCheck)
  · next same => exact absurd same.symm (unknown .connectSeconds)
  · next same => exact absurd same.symm (unknown .requestSeconds)
  · next same => exact absurd same.symm (unknown .tls)
  · next same => exact absurd same.symm (unknown .token)
  · next same => exact absurd same.symm (unknown .logLevel)
  · next same => exact absurd same.symm (unknown .logFile)
  · next same => exact absurd same.symm (unknown .verbose)
  · rfl

/-- A configuration is made up of its settings. -/
theorem ext_setting?
    {left right : Config}
    (same : ∀ field, left.setting? field = right.setting? field) :
    left = right := by
  obtain ⟨debugMode, authenticationCheck, connectSeconds?, requestSeconds, tls?, token?, logLevel,
    logFile?, verbose⟩ := left
  obtain rfl := Setting.debugMode.inj (Option.some.inj (same .debugMode))
  obtain rfl := Setting.authenticationCheck.inj (Option.some.inj (same .authenticationCheck))
  obtain rfl := Option.map_injective (fun _ _ => Setting.connectSeconds.inj) (same .connectSeconds)
  obtain rfl := Setting.requestSeconds.inj (Option.some.inj (same .requestSeconds))
  obtain rfl := Option.map_injective (fun _ _ => Setting.tls.inj) (same .tls)
  obtain rfl := Option.map_injective (fun _ _ => Setting.token.inj) (same .token)
  obtain rfl := Setting.logLevel.inj (Option.some.inj (same .logLevel))
  obtain rfl := Option.map_injective (fun _ _ => Setting.logFile.inj) (same .logFile)
  obtain rfl := Setting.verbose.inj (Option.some.inj (same .verbose))
  rfl

/-- The document of a configuration is read as it is understood. -/
theorem reads : format.Reads add Setting.apply where
  injective := by
    intro left right
    cases left <;> cases right <;> decide
  known := by
    intro field place span value before after tidy
    change before.add (⟨field.name, place⟩, span, value) = _ ↔ _
    rw [add_eq_map_read, map_eq_ok_iff]
    simp only [Field.read_eq_ok_iff tidy, and_assoc]
    rfl
  unknown := by
    intro key span value before after tidy unknown
    rw [add_of_unknown unknown, map_eq_ok_iff]
    simp [ignore_eq_ok_iff tidy]
  setting?_apply := by
    intro config setting field
    cases setting <;> cases field <;> rfl
  ext _ _ := ext_setting?

/-- A document is accepted exactly if it describes a configuration, and that is the one that is
read. -/
theorem ofEntries_eq_ok_iff
    {entries : Entries}
    {config : Config}
    (tidy : AreTidy entries) :
    ofEntries entries = .ok config ↔ format.Describes (contents entries) unset config :=
  reads.foldlM_sortedEntries_eq_ok_iff tidy

end Config
end Switchboard
