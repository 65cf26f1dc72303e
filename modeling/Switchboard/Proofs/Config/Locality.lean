import Switchboard.Proofs.Config.Authorizing
import Switchboard.Proofs.Config.Reading

/-!
# What a configuration depends on

A configuration that is loaded from a file depends on the keys that are known, and each of its
fields on one of them.  The order of the keys, the way in which they are written and all other keys
do not matter, as long as the numbers behind the other keys can be represented.
-/

namespace Switchboard

open Toml

/-- There is a well-formed document in a file, and this is what it says. -/
def FileTree.Holds
    (files : FileTree)
    (path : Text.Octets)
    (said : Contents) : Prop :=
  ∃ text entries, files.read path = .ok text ∧ document? text.toList = some entries ∧
    contents entries = said

/-- Some files without what one of the keys sets; the authority's key may not be missing. -/
def TlsFiles.without (files : TlsFiles) : TlsFiles.Field → TlsFiles
  | .authority => files
  | .certificate => { files with certificate? := none }
  | .key => { files with key? := none }
  | .domain => { files with domain? := none }

namespace Config

/-- A configuration in which one field is what it is by default. -/
def restore (config : Config) : Field → Config
  | .debugMode => { config with debugMode := default.debugMode }
  | .authenticationCheck => { config with authenticationCheck := default.authenticationCheck }
  | .connectSeconds => { config with connectSeconds? := default.connectSeconds? }
  | .requestSeconds => { config with requestSeconds := default.requestSeconds }
  | .tls => { config with tls? := default.tls? }
  | .token => { config with token? := default.token? }
  | .logLevel => { config with logLevel := default.logLevel }
  | .logFile => { config with logFile? := default.logFile? }
  | .verbose => { config with verbose := default.verbose }

/-- Two documents say the same about certificates and keys; if both have a table of them, only the
keys that are known in the table count. -/
inductive AgreeOnTls : Option Datum → Option Datum → Prop
  | equal (datum? : Option Datum) : AgreeOnTls datum? datum?
  | tables {inner further : Contents}
      (same : ∀ field : TlsFiles.Field, inner field.name = further field.name) :
      AgreeOnTls (some (.table inner)) (some (.table further))

/-- Two documents say the same about the keys that are known. -/
structure AgreeOnKeys (said other : Contents) : Prop where
  plain : ∀ field : Field, field ≠ .tls → said field.name = other field.name
  tls : AgreeOnTls (said "tls") (other "tls")

/-- Numbers behind keys that are not known can be represented, in the table of certificates and
keys as well. -/
structure HasFittingRest (said : Contents) : Prop where
  outer : Format.RestFits Field.name said
  inner : ∀ inner, said "tls" = some (.table inner) → Format.RestFits TlsFiles.Field.name inner

/-- Two files give the same configuration, or a fault of the configuration each. -/
def LoadAlike (first second : Except ClientError Config) : Prop :=
  (∃ config, first = .ok config ∧ second = .ok config) ∨
    ∃ fault other, first = .error (.config fault) ∧ second = .error (.config other)

/-- How a configuration depends on the keys of the document from which it is loaded. -/
structure DependsOnKeys
    (files : FileTree)
    (path : Text.Octets)
    (said : Contents) : Prop where
  /-- Documents that say the same about the keys that are known are loaded alike, if the numbers
  behind the other keys can be represented in both of them or in neither. -/
  alike : ∀ otherFiles otherPath other, otherFiles.Holds otherPath other →
    AgreeOnKeys said other → (HasFittingRest said ↔ HasFittingRest other) →
      LoadAlike (load files path) (load otherFiles otherPath)
  /-- Without a key only its field is another, and that is what it is by default. -/
  without : ∀ config field, load files path = .ok config →
    ∀ otherFiles otherPath,
      otherFiles.Holds otherPath (Function.update said field.name none) →
        load otherFiles otherPath = .ok (config.restore field)
  /-- Without a key in the table of certificates and keys, which need not be there, only its field
  is another, and that is nothing. -/
  withoutInTls : ∀ config inner field, load files path = .ok config →
    said "tls" = some (.table inner) → field ≠ TlsFiles.Field.authority →
      ∃ tls, config.tls? = some tls ∧ ∀ otherFiles otherPath,
        otherFiles.Holds otherPath (Function.update said "tls"
          (some (.table (Function.update inner field.name none)))) →
          load otherFiles otherPath = .ok { config with tls? := some (tls.without field) }

variable {files otherFiles : FileTree} {path otherPath : Text.Octets} {said other : Contents}
  {config : Config}

/-! ## Loading -/

/-- What is loaded is what the document describes. -/
theorem load_eq_ok_iff (holds : files.Holds path said) :
    load files path = .ok config ↔ format.Describes said unset config := by
  obtain ⟨text, entries, reads, describes, rfl⟩ := holds
  rw [← ofEntries_eq_ok_iff (areTidy_of_document? describes), load, reads]
  dsimp only
  rw [parse, describes]
  exact mapError_eq_ok_iff.trans mapError_eq_ok_iff

/-- Loading ends with a configuration or with a fault of the configuration. -/
theorem load_cases
    (files : FileTree)
    (path : Text.Octets) :
    (∃ config, load files path = .ok config) ∨
      ∃ fault, load files path = .error (.config fault) := by
  rw [load]
  cases files.read path with
  | error fault => exact Or.inr ⟨_, rfl⟩
  | ok text =>
      dsimp only
      cases parse text.toList with
      | error fault => exact Or.inr ⟨_, rfl⟩
      | ok config => exact Or.inl ⟨_, rfl⟩

/-- What is set for a missing key is what it is by default. -/
theorem unset_eq_default : unset = default := rfl

/-- A document that describes nothing is loaded with what is set by default. -/
theorem load_of_empty (holds : files.Holds path .empty) : load files path = .ok default :=
  (load_eq_ok_iff holds).mpr (reads.describes_empty_iff.mpr unset_eq_default)

/-- If a document is given a table of certificates and keys, it is loaded with what the table
states. -/
theorem load_update_tls
    {tls : TlsFiles}
    {inner : Contents}
    (described : format.Describes said unset config)
    (stated : tls.IsStatedBy (.table inner))
    (holds : files.Holds path (Function.update said "tls" (some (.table inner)))) :
    load files path = .ok { config with tls? := some tls } := by
  refine (load_eq_ok_iff holds).mpr (described.update reads.injective .tls ?_ ?_)
  · exact ⟨.tls tls, rfl, stated, rfl⟩
  · intro other different
    cases other <;> first | rfl | exact absurd rfl different

/-- A table of certificates and keys states what is set for them. -/
theorem exists_tls_of_describes
    {inner : Contents}
    (described : format.Describes said unset config)
    (secured : said "tls" = some (.table inner)) :
    ∃ tls, config.tls? = some tls ∧ tls.IsStatedBy (.table inner) := by
  have set := described.fields .tls
  change format.Sets .tls (said "tls") _ (config.tls?.map .tls) at set
  rw [secured] at set
  obtain ⟨setting, sameField, stated, made⟩ := set
  cases setting <;> cases sameField
  exact ⟨_, Option.map_injective (fun _ _ => Setting.tls.inj) made, stated⟩

/-! ## Agreement -/

/-- If all numbers can be represented, so can those behind keys that are not known. -/
theorem HasFittingRest.of_fits (fits : Datum.Fits (.table said)) : HasFittingRest said where
  outer name datum _ := fits_table_iff.mp fits name datum
  inner _ secured name datum _ :=
    fits_table_iff.mp (fits_table_iff.mp fits _ _ secured) name datum

/-- Only then is a document accepted. -/
theorem HasFittingRest.of_describes
    (described : format.Describes said unset config) :
    HasFittingRest said where
  outer := described.rest
  inner inner secured := by
    obtain ⟨tls, -, stated⟩ := exists_tls_of_describes described secured
    exact Format.Describes.rest stated

theorem LoadAlike.eq_ok
    {first second : Except ClientError Config}
    (alike : LoadAlike first second)
    (loaded : first = .ok config) :
    second = .ok config := by
  obtain ⟨_, rfl, same⟩ | ⟨_, _, rfl, -⟩ := alike
  · cases loaded
    exact same
  · cases loaded

theorem AgreeOnTls.symm
    {datum? other? : Option Datum}
    (agree : AgreeOnTls datum? other?) :
    AgreeOnTls other? datum? := by
  cases agree with
  | equal => exact .equal _
  | tables same => exact .tables fun field => (same field).symm

theorem AgreeOnKeys.symm (agree : AgreeOnKeys said other) : AgreeOnKeys other said where
  plain field outside := (agree.plain field outside).symm
  tls := agree.tls.symm

/-- What is set for certificates and keys depends on the keys that are known. -/
theorem AgreeOnTls.sets
    {datum? other? : Option Datum}
    {before after : Option Setting}
    (agree : AgreeOnTls datum? other?)
    (fits : ∀ inner, other? = some (.table inner) → Format.RestFits TlsFiles.Field.name inner)
    (set : format.Sets .tls datum? before after) :
    format.Sets .tls other? before after := by
  cases agree with
  | equal => exact set
  | @tables inner further same =>
      obtain ⟨setting, sameField, stated, made⟩ := set
      refine ⟨setting, sameField, ?_, made⟩
      cases setting <;> cases sameField
      refine ⟨fits further rfl, fun field => ?_⟩
      change TlsFiles.format.Sets field (further field.name) _ _
      rw [← same field]
      exact stated.fields field

theorem AgreeOnKeys.describes
    (agree : AgreeOnKeys said other)
    (fits : HasFittingRest other)
    (described : format.Describes said unset config) :
    format.Describes other unset config where
  rest := fits.outer
  fields := by
    intro field
    have set := described.fields field
    change format.Sets field (said field.name) _ _ at set
    change format.Sets field (other field.name) _ _
    by_cases secured : field = .tls
    · subst secured
      exact agree.tls.sets fits.inner set
    · rw [← agree.plain field secured]
      exact set

/-- What is loaded from a document is loaded from any other that agrees with it, if the numbers in
the other can be represented like those in the first. -/
theorem AgreeOnKeys.load_eq_ok
    (agree : AgreeOnKeys said other)
    (fits : HasFittingRest said → HasFittingRest other)
    (holds : files.Holds path said)
    (otherHolds : otherFiles.Holds otherPath other)
    (loaded : load files path = .ok config) :
    load otherFiles otherPath = .ok config := by
  have described := (load_eq_ok_iff holds).mp loaded
  have otherFits := fits (.of_describes described)
  exact (load_eq_ok_iff otherHolds).mpr (agree.describes otherFits described)

theorem AgreeOnKeys.loadAlike
    (agree : AgreeOnKeys said other)
    (fits : HasFittingRest said ↔ HasFittingRest other)
    (holds : files.Holds path said)
    (otherHolds : otherFiles.Holds otherPath other) :
    LoadAlike (load files path) (load otherFiles otherPath) := by
  rcases load_cases files path with ⟨config, loaded⟩ | ⟨fault, failed⟩
  · exact Or.inl ⟨config, loaded, agree.load_eq_ok fits.mp holds otherHolds loaded⟩
  · rcases load_cases otherFiles otherPath with ⟨config, loaded⟩ | ⟨otherFault, otherFailed⟩
    · rw [agree.symm.load_eq_ok fits.mpr otherHolds holds loaded] at failed
      cases failed
    · exact Or.inr ⟨fault, otherFault, failed, otherFailed⟩

/-! ## Missing keys -/

theorem setting?_restore_self
    (config : Config)
    (field : Field) :
    (config.restore field).setting? field = default.setting? field := by
  cases field <;> rfl

theorem setting?_restore_of_ne
    (config : Config)
    {field other : Field}
    (different : other ≠ field) :
    (config.restore field).setting? other = config.setting? other := by
  cases field <;> cases other <;> first | rfl | exact absurd rfl different

theorem load_restore
    {field : Field}
    (holds : files.Holds path said)
    (loaded : load files path = .ok config)
    (otherHolds : otherFiles.Holds otherPath (Function.update said field.name none)) :
    load otherFiles otherPath = .ok (config.restore field) := by
  have described := (load_eq_ok_iff holds).mp loaded
  refine (load_eq_ok_iff otherHolds).mpr (described.update reads.injective field ?_ ?_)
  · -- Missing keys and defaults are filled in separately; here they have to be the same.
    change (config.restore field).setting? field = unset.setting? field
    rw [unset_eq_default, setting?_restore_self]
  · exact fun _ => setting?_restore_of_ne config

theorem setting?_without_self
    (tls : TlsFiles)
    {field : TlsFiles.Field}
    (optional : field ≠ .authority) :
    (tls.without field).draft.setting? field = none := by
  cases field <;> first | rfl | exact absurd rfl optional

theorem setting?_without_of_ne
    (tls : TlsFiles)
    {field other : TlsFiles.Field}
    (different : other ≠ field) :
    (tls.without field).draft.setting? other = tls.draft.setting? other := by
  cases field <;> cases other <;> first | rfl | exact absurd rfl different

theorem isStatedBy_without
    {tls : TlsFiles}
    {inner : Contents}
    {field : TlsFiles.Field}
    (optional : field ≠ .authority)
    (stated : tls.IsStatedBy (.table inner)) :
    (tls.without field).IsStatedBy (.table (Function.update inner field.name none)) := by
  refine Format.Describes.update stated TlsFiles.reads.injective field ?_ ?_
  · change (tls.without field).draft.setting? field = TlsFiles.Draft.empty.setting? field
    rw [setting?_without_self tls optional]
    cases field <;> rfl
  · exact fun _ => setting?_without_of_ne tls

/-! ## One document in a tree -/

/-- Where the only document of a tree is. -/
def onlyPath : Text.Octets := Text.octets "switchboard.toml"

/-- A tree in which there is nothing but a document. -/
def onlyDocument (text : String) : FileTree :=
  ⟨[([onlyPath], .file (Text.octets text))], []⟩

theorem holds_onlyDocument
    {text : String}
    (stated : ∃ entries, document? text.toList = some entries ∧ contents entries = said) :
    (onlyDocument text).Holds onlyPath said := by
  obtain ⟨entries, described, given⟩ := stated
  exact ⟨text, entries, read_eq_ok_iff.mpr rfl, described, given⟩

/-- What a table says in which there are an authority and a domain. -/
def securedTable : Contents :=
  Function.update (Function.update Contents.empty "ca_cert" (some (.string "c"))) "domain"
    (some (.string "d"))

theorem fits_securedTable : Datum.Fits (.table securedTable) :=
  fits_table_update (.string "d") (fits_table_update (.string "c") fits_table_empty)

/-- What a document says in which there is nothing but such a table. -/
def securedDocument : Contents :=
  Function.update Contents.empty "tls" (some (.table securedTable))

theorem holds_securedDocument :
    (onlyDocument "[tls]\ndomain = 'd'\nca_cert = 'c'\n").Holds onlyPath securedDocument := by
  refine holds_onlyDocument ?_
  simp only [String.reduceToList]
  exact ⟨_, rfl, rfl⟩

theorem hasFittingRest_securedDocument : HasFittingRest securedDocument :=
  .of_fits (fits_table_update fits_securedTable fits_table_empty)

theorem stated_securedTable :
    TlsFiles.IsStatedBy ⟨Text.octets "c", none, none, some "d"⟩ (.table securedTable) := by
  refine ⟨hasFittingRest_securedDocument.inner securedTable rfl, fun field => ?_⟩
  cases field
  case authority => exact ⟨.authority _, rfl, ⟨"c", rfl, rfl⟩, rfl⟩
  case domain => exact ⟨.domain _, rfl, rfl, rfl⟩
  all_goals rfl

/-- What a document says in which there are also keys that are not known. -/
def extendedDocument : Contents :=
  Function.update (Function.update Contents.empty "x" (some (.array [.float true]))) "tls"
    (some (.table (Function.update securedTable "y" (some (.integer 2)))))

/-- The keys are in another order as well. -/
theorem holds_extendedDocument :
    (onlyDocument "tls.y = 2\ntls.ca_cert = \"c\"\nx = [1.5]\ntls.domain = \"d\"\n").Holds onlyPath
      extendedDocument := by
  rw [extendedDocument, securedTable, Function.update_comm (by decide : "ca_cert" ≠ "domain")]
  refine holds_onlyDocument ?_
  simp only [String.reduceToList]
  exact ⟨_, rfl, rfl⟩

theorem hasFittingRest_extendedDocument : HasFittingRest extendedDocument := by
  have number : Datum.Fits (.array [.float true]) := .array (List.forall_mem_singleton.mpr .float)
  have two : Datum.Fits (.integer 2) := .integer (by decide) (by decide)
  exact .of_fits (fits_table_update (fits_table_update two fits_securedTable)
    (fits_table_update number fits_table_empty))

theorem agree_extendedDocument : AgreeOnKeys securedDocument extendedDocument := by
  refine ⟨fun field different => ?_, .tables fun field => ?_⟩
  · cases field <;> first | rfl | exact absurd rfl different
  · cases field <;> rfl

/-! ## Documents -/

/-- What is loaded depends on the keys that are known, and each field on its own key. -/
theorem depends_on_keys (holds : files.Holds path said) :
    DependsOnKeys files path said where
  alike _ _ _ otherHolds agree fits := agree.loadAlike fits holds otherHolds
  without _ _ loaded _ _ := load_restore holds loaded
  withoutInTls := by
    intro config inner field loaded secured optional
    have described := (load_eq_ok_iff holds).mp loaded
    obtain ⟨tls, present, stated⟩ := exists_tls_of_describes described secured
    exact ⟨tls, present, fun _ _ =>
      load_update_tls described (isStatedBy_without optional stated)⟩

/-- Without the table, without the domain, and with keys in another order and among others. -/
theorem load_securedDocument :
    ∃ config tls, config.tls? = some tls ∧
      load (onlyDocument "[tls]\ndomain = 'd'\nca_cert = 'c'\n") onlyPath = .ok config ∧
      load (onlyDocument "") onlyPath = .ok (config.restore .tls) ∧
      load (onlyDocument "[tls]\nca_cert = 'c'\n") onlyPath =
        .ok { config with tls? := some (tls.without .domain) } ∧
      load (onlyDocument "tls.y = 2\ntls.ca_cert = \"c\"\nx = [1.5]\ntls.domain = \"d\"\n")
        onlyPath = .ok config := by
  have withoutTls : (onlyDocument "").Holds onlyPath
      (Function.update securedDocument "tls" none) := by
    have nothing : Function.update Contents.empty "tls" none = Contents.empty :=
      Function.update_eq_self ..
    rw [securedDocument, Function.update_idem, nothing]
    exact holds_onlyDocument ⟨[], rfl, rfl⟩
  have withoutDomain : (onlyDocument "[tls]\nca_cert = 'c'\n").Holds onlyPath
      (Function.update securedDocument "tls"
        (some (.table (Function.update securedTable "domain" none)))) := by
    have shorter : Function.update securedTable "domain" none =
        Function.update Contents.empty "ca_cert" (some (.string "c")) :=
      (Function.update_idem ..).trans (Function.update_eq_self ..)
    rw [securedDocument, Function.update_idem, shorter]
    refine holds_onlyDocument ?_
    simp only [String.reduceToList]
    exact ⟨_, rfl, rfl⟩
  have loaded := load_update_tls (reads.describes_empty_iff.mpr unset_eq_default)
    stated_securedTable holds_securedDocument
  have depends := depends_on_keys holds_securedDocument
  obtain ⟨tls, present, shortened⟩ :=
    depends.withoutInTls _ securedTable .domain loaded rfl (by decide)
  have alike := depends.alike _ _ _ holds_extendedDocument agree_extendedDocument
    (iff_of_true hasFittingRest_securedDocument hasFittingRest_extendedDocument)
  exact ⟨_, tls, present, loaded, depends.without _ .tls loaded _ _ withoutTls,
    shortened _ _ withoutDomain, alike.eq_ok loaded⟩

/-- Documents that say the same about the keys that are known need not be loaded alike: one says
nothing, and behind the only key of the other is a number that cannot be represented. -/
theorem not_loadAlike_beyond_precision :
    ∃ said other, (onlyDocument "").Holds onlyPath said ∧
      (onlyDocument "x = 1e400\n").Holds onlyPath other ∧ AgreeOnKeys said other ∧
        ¬LoadAlike (load (onlyDocument "") onlyPath)
          (load (onlyDocument "x = 1e400\n") onlyPath) := by
  have holds : (onlyDocument "").Holds onlyPath .empty := holds_onlyDocument ⟨[], rfl, rfl⟩
  have otherHolds : (onlyDocument "x = 1e400\n").Holds onlyPath
      (Function.update Contents.empty "x" (some (.float false))) := by
    refine holds_onlyDocument ?_
    simp only [String.reduceToList]
    exact ⟨_, rfl, rfl⟩
  refine ⟨_, _, holds, otherHolds, ⟨fun field _ => ?_, .equal none⟩, fun alike => ?_⟩
  · cases field <;> rfl
  · have described := (load_eq_ok_iff otherHolds).mp (alike.eq_ok (load_of_empty holds))
    have fits : Datum.Fits (.float false) :=
      described.rest "x" _ (fun field => by cases field <;> decide) rfl
    cases fits_float_iff.mp fits

end Config
end Switchboard
