import Mathlib.Data.List.Nodup
import Mathlib.Data.List.Perm.Basic
import Switchboard.Config.Decode

/-!
# Settings in any order

The entries of a document are visited in the order of their keys.  Entries with different keys
set different fields, and so every order leads to the same configuration.
-/

namespace Switchboard

open Toml

/-! ## What entries give -/

section Gives

variable {State Setting : Type} {add : State → Key × Span × Value → Except Located State}
variable {name : Setting → String} {apply : State → Setting → State}

/-- An entry has the key of a setting, and whatever has been read before, it makes the setting
and nothing else. -/
def Gives
    (add : State → Key × Span × Value → Except Located State)
    (name : Setting → String)
    (apply : State → Setting → State)
    (entry : Key × Span × Value)
    (setting : Setting) : Prop :=
  entry.1.text = name setting ∧ ∀ state, add state entry = .ok (apply state setting)

theorem foldlM_of_gives
    {entries : Entries}
    {settings : List Setting}
    (gives : List.Forall₂ (Gives add name apply) entries settings)
    (state : State) :
    entries.foldlM add state = .ok (settings.foldl apply state) := by
  induction gives generalizing state with
  | nil => rfl
  | cons first _ inductionHypothesis =>
      rw [List.foldlM_cons, first.2, List.foldl_cons]
      exact inductionHypothesis _

/-- Settings with different names can be made in any order. -/
theorem foldl_of_perm
    (independent : ∀ first second, name first ≠ name second → ∀ state,
      apply (apply state first) second = apply (apply state second) first)
    {settings others : List Setting}
    (perm : settings.Perm others)
    (nodup : (settings.map name).Nodup)
    (state : State) :
    settings.foldl apply state = others.foldl apply state := by
  apply perm.foldl_eq'
  intro first member second other state
  by_cases same : name first = name second
  · rw [List.inj_on_of_nodup_map nodup member other same]
  · exact independent first second same state

/-- The entries of a table make their settings, whatever the order of the keys is. -/
theorem foldlM_sortedEntries
    (independent : ∀ first second, name first ≠ name second → ∀ state,
      apply (apply state first) second = apply (apply state second) first)
    {entries : Entries}
    {settings : List Setting}
    (gives : List.Forall₂ (Gives add name apply) entries settings)
    (nodup : (settings.map name).Nodup)
    (state : State) :
    (sortedEntries entries).foldlM add state = .ok (settings.foldl apply state) := by
  obtain ⟨sorted, givesSorted, perm⟩ :=
    List.perm_comp_forall₂ (List.mergeSort_perm entries _) gives
  have sortedNodup : (sorted.map name).Nodup := (perm.map name).nodup_iff.mpr nodup
  rw [sortedEntries, foldlM_of_gives givesSorted, foldl_of_perm independent perm sortedNodup]

end Gives

/-- What may be left out has at most its own name. -/
theorem sublist_optional
    {name : β → String}
    {setting : α → β}
    {text : String}
    (named : ∀ value, name (setting value) = text)
    (value? : Option α) :
    ((value?.map setting).toList.map name).Sublist [text] := by
  cases value? with
  | none => exact List.nil_sublist _
  | some value => exact (congrArg (fun first => [first]) (named value)) ▸ List.Sublist.refl _

/-! ## The files of certificates and keys -/

namespace TlsFiles

/-- What a key in the table of certificates and keys sets. -/
inductive Setting
  | authority (path : Text.Octets)
  | certificate (path : Text.Octets)
  | key (path : Text.Octets)
  | domain (name : String)

namespace Setting

/-- The key. -/
def name : Setting → String
  | .authority _ => "ca_cert"
  | .certificate _ => "client_cert"
  | .key _ => "client_key"
  | .domain _ => "domain"

/-- The files with the setting. -/
def apply (draft : Draft) : Setting → Draft
  | .authority path => { draft with authority? := some path }
  | .certificate path => { draft with certificate? := some path }
  | .key path => { draft with key? := some path }
  | .domain name => { draft with domain? := some name }

/-- Different keys set different fields. -/
theorem apply_independent
    (first second : Setting)
    (differ : first.name ≠ second.name)
    (draft : Draft) :
    apply (apply draft first) second = apply (apply draft second) first := by
  cases first <;> cases second <;> first | rfl | exact absurd rfl differ

end Setting

/-- All that is set in the table of some files. -/
def settings (files : TlsFiles) : List Setting :=
  .authority files.authority :: ((files.certificate?.map .certificate).toList ++
    (files.key?.map .key).toList ++ (files.domain?.map .domain).toList)

theorem sublist_settings (files : TlsFiles) :
    (files.settings.map Setting.name).Sublist
      ("ca_cert" :: (["client_cert"] ++ ["client_key"] ++ ["domain"])) := by
  rw [settings, List.map_cons, List.map_append, List.map_append]
  refine .cons_cons _ (.append (.append (sublist_optional ?_ _) (sublist_optional ?_ _))
    (sublist_optional ?_ _))
  all_goals exact fun _ => rfl

theorem nodup_settings (files : TlsFiles) :
    (files.settings.map Setting.name).Nodup :=
  (sublist_settings files).nodup (by decide)

/-- The settings of some files make up these files. -/
theorem complete_settings (files : TlsFiles) :
    (files.settings.foldl Setting.apply .empty).complete = .ok files := by
  obtain ⟨authority, certificate?, key?, domain?⟩ := files
  cases certificate? <;> cases key? <;> cases domain? <;> rfl

end TlsFiles

/-! ## Configurations -/

namespace Config

/-- What a key of a configuration sets. -/
inductive Setting
  | debugMode (value : Bool)
  | authenticationCheck (value : Bool)
  | connectSeconds (seconds : UInt64)
  | requestSeconds (seconds : UInt64)
  | tls (files : TlsFiles)
  | token (text : String)
  | logLevel (level : Level)
  | logFile (path : Text.Octets)
  | verbose (value : Bool)

namespace Setting

/-- The key. -/
def name : Setting → String
  | .debugMode _ => "debug_mode"
  | .authenticationCheck _ => "auth_staleness_check"
  | .connectSeconds _ => "connect_timeout_secs"
  | .requestSeconds _ => "request_timeout_secs"
  | .tls _ => "tls"
  | .token _ => "token"
  | .logLevel _ => "log_level"
  | .logFile _ => "log_file"
  | .verbose _ => "verbose"

/-- The configuration with the setting. -/
def apply (config : Config) : Setting → Config
  | .debugMode value => { config with debugMode := value }
  | .authenticationCheck value => { config with authenticationCheck := value }
  | .connectSeconds seconds => { config with connectSeconds? := some seconds }
  | .requestSeconds seconds => { config with requestSeconds := seconds }
  | .tls files => { config with tls? := some files }
  | .token text => { config with token? := some text }
  | .logLevel level => { config with logLevel := level }
  | .logFile path => { config with logFile? := some path }
  | .verbose value => { config with verbose := value }

/-- Different keys set different fields. -/
theorem apply_independent
    (first second : Setting)
    (differ : first.name ≠ second.name)
    (config : Config) :
    apply (apply config first) second = apply (apply config second) first := by
  cases first <;> cases second <;> first | rfl | exact absurd rfl differ

end Setting

/-- All that is set outside of the table of certificates and keys. -/
def plainSettings (config : Config) : List Setting :=
  .debugMode config.debugMode :: .authenticationCheck config.authenticationCheck ::
    ((config.connectSeconds?.map .connectSeconds).toList ++
      .requestSeconds config.requestSeconds :: ((config.token?.map .token).toList ++
        .logLevel config.logLevel :: ((config.logFile?.map .logFile).toList ++
          [.verbose config.verbose])))

/-- All that is set by the document of a configuration. -/
def settings (config : Config) : List Setting :=
  config.plainSettings ++ (config.tls?.map .tls).toList

theorem sublist_plainSettings (config : Config) :
    (config.plainSettings.map Setting.name).Sublist
      ("debug_mode" :: "auth_staleness_check" :: (["connect_timeout_secs"] ++
        "request_timeout_secs" :: (["token"] ++
          "log_level" :: (["log_file"] ++ ["verbose"])))) := by
  simp only [plainSettings, List.map_cons, List.map_append, List.map_nil]
  refine .cons_cons _ (.cons_cons _ (.append (sublist_optional ?_ _) (.cons_cons _
    (.append (sublist_optional ?_ _) (.cons_cons _ (.append (sublist_optional ?_ _)
      (.refl _)))))))
  all_goals exact fun _ => rfl

theorem nodup_settings (config : Config) :
    (config.settings.map Setting.name).Nodup := by
  have named : ∀ files, Setting.name (.tls files) = "tls" := fun _ => rfl
  rw [settings, List.map_append]
  exact ((sublist_plainSettings config).append (sublist_optional named config.tls?)).nodup
    (by decide)

/-- The settings of a configuration make up the configuration. -/
theorem foldl_settings (config : Config) :
    config.settings.foldl Setting.apply unset = config := by
  obtain ⟨debugMode, authenticationCheck, connectSeconds?, requestSeconds, tls?, token?, logLevel,
    logFile?, verbose⟩ := config
  cases connectSeconds? <;> cases tls? <;> cases token? <;> cases logFile? <;> rfl

end Config
end Switchboard
