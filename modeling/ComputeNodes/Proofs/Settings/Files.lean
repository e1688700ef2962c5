/-
What loading settings does to the log.

Loading goes through four stages: the files are read and merged, what they say about logging is
taken out, the sinks are replaced, and the settings of the provider are looked at.  Any stage but
the third one may find a fault of the configuration, and the log is changed by the third one alone.
So a fault that is found leaves the sinks as they are exactly if nothing was said about logging that
could be followed (`load_refused_sinks`).

Something is said about logging only if the entry for it holds anything.  One that is false, zero or
empty is passed over like one that is not there, also where it is not a table at all
(`load_notTable_iff`).
-/
import ComputeNodes.Proofs.Logging.Registry
import ComputeNodes.Proofs.Settings.Admission
import ComputeNodes.Proofs.Value.Merge
import ComputeNodes.Settings.Files

namespace ComputeNodes

/-! ### What a document says about logging -/

namespace LogSettings

/-- Whether a document says to log in this way: in a table that is not empty, in which a file is a
text, and a level can be written out. -/
def SaidBy (settings : LogSettings) (document : Table) : Prop :=
  ∃ t : Table, document.find? "logging" = some (.table t) ∧ t ≠ [] ∧
    t.find? "file" = settings.file.map .text ∧
    (∀ value, t.find? "level" = some value → value.isWritable = true) ∧
    settings.level = ((t.find? "level").map Value.plain).getD "INFO"

variable {document : Table} {settings : LogSettings} {value : Value}

theorem ofDocument_of_isNothing (hentry : document.find? "logging" = some value)
    (h : value.isNothing = true) : ofDocument document = .ok none := by
  rw [ofDocument, hentry]
  simp [h]

theorem ofDocument_of_not_isTable (hentry : document.find? "logging" = some value)
    (h : value.isNothing = false) (hnot : ¬ value.IsTable) :
    ofDocument document = .error (.configuration (.loggingNotTable value.typeName)) := by
  rw [ofDocument, hentry]
  cases value with
  | table t => exact absurd (Value.isTable_table t) hnot
  | _ => simp [h]

/-- The log file that a table names. -/
def fileIn (t : Table) : Except Error (Option String) :=
  match t.find? "file" with
  | none => .ok none
  | some (.text path) => .ok (some path)
  | some _ => .error (.configuration .logFileNotText)

/-- The level that a table names. -/
def levelIn (t : Table) : Except Error String :=
  match t.find? "level" with
  | none => .ok "INFO"
  | some value => (value.writable.mapError .whole).map Value.plain

theorem fileIn_eq_ok_iff {t : Table} {file : Option String} :
    fileIn t = .ok file ↔ t.find? "file" = file.map .text := by
  unfold fileIn
  cases t.find? "file" with
  | none => cases file <;> simp
  | some value => cases value <;> cases file <;> simp

theorem levelIn_eq_ok_iff {t : Table} {level : String} : levelIn t = .ok level ↔
    (∀ value, t.find? "level" = some value → value.isWritable = true) ∧
      level = ((t.find? "level").map Value.plain).getD "INFO" := by
  unfold levelIn
  cases t.find? "level" with
  | none => simp [eq_comm (a := level)]
  | some value =>
    unfold Value.writable
    cases hwritable : value.isWritable <;>
      simp [hwritable, Except.mapError, Except.map, eq_comm (a := level)]

/-- A table that is not empty is asked for a file first, and then for a level. -/
theorem ofDocument_of_table {t : Table} (hentry : document.find? "logging" = some (.table t))
    (ht : t ≠ []) : ofDocument document = (do
      let file ← fileIn t
      let level ← levelIn t
      return some { level, file }) := by
  have hsome : (Value.table t).isNothing = false := by simpa [Value.isNothing] using ht
  rw [ofDocument, hentry]
  simp only [hsome, Bool.false_eq_true, if_false, fileIn, levelIn]
  cases t.find? "level" <;> rcases t.find? "file" with _ | ⟨⟨⟩⟩ <;> rfl

/-- What is said about logging is followed if it can be. -/
theorem ofDocument_eq_some_iff :
    ofDocument document = .ok (some settings) ↔ settings.SaidBy document := by
  constructor
  · intro h
    cases hentry : document.find? "logging" with
    | none => rw [ofDocument, hentry] at h; cases h
    | some value =>
      cases hnothing : value.isNothing with
      | true => rw [ofDocument_of_isNothing hentry hnothing] at h; cases h
      | false =>
        by_cases htable : value.IsTable
        · obtain ⟨t, rfl⟩ := htable
          have ht : t ≠ [] := by simpa [Value.isNothing] using hnothing
          rw [ofDocument_of_table hentry ht] at h
          obtain ⟨file, hfile, h⟩ := Error.bind_eq_ok.mp h
          obtain ⟨level, hlevel, h⟩ := Error.bind_eq_ok.mp h
          cases h
          exact ⟨t, hentry, ht, fileIn_eq_ok_iff.mp hfile, levelIn_eq_ok_iff.mp hlevel⟩
        · rw [ofDocument_of_not_isTable hentry hnothing htable] at h
          cases h
  · rintro ⟨t, hentry, ht, hfile, hlevel⟩
    rw [ofDocument_of_table hentry ht, fileIn_eq_ok_iff.mpr hfile]
    show (levelIn t >>= fun level => _) = _
    rw [levelIn_eq_ok_iff.mpr hlevel]
    rfl

end LogSettings

theorem SettingsFiles.load_of_toOption {files : SettingsFiles} {document : Table}
    (h : files.load.toOption = some document) : files.load = .ok document := by
  cases hload : files.load with
  | error error => rw [hload] at h; cases h
  | ok found => rw [hload] at h; cases h; rfl

namespace Settings

open Logging (Level Log shortestPath)

variable {files : SettingsFiles} {document : Table} {log log' : Log}

/-- What a document says about the provider. -/
def providerIn (document : Table) : Value := (document.find? "provider").getD (.table [])

/-! ### The stages of loading -/

theorem load_of_unread {error : Error} (h : files.load = .error error) (log : Log) :
    (load files).perform log = (.error error, log) := by
  rw [load, Logging.Work.perform_ofExcept_bind_error h]

theorem load_of_faultyLogging {error : Error} (h : files.load = .ok document)
    (hlogging : LogSettings.ofDocument document = .error error) (log : Log) :
    (load files).perform log = (.error error, log) := by
  rw [load, Logging.Work.perform_ofExcept_bind h,
    Logging.Work.perform_ofExcept_bind_error hlogging]

theorem load_of_noLogging (h : files.load = .ok document)
    (hlogging : LogSettings.ofDocument document = .ok none) (log : Log) :
    (load files).perform log = (ofValue (providerIn document), log) := by
  rw [load, Logging.Work.perform_ofExcept_bind h, Logging.Work.perform_ofExcept_bind hlogging]
  rfl

/-- The sinks are replaced before the settings of the provider are looked at. -/
theorem load_of_logging {settings : LogSettings} (h : files.load = .ok document)
    (hlogging : LogSettings.ofDocument document = .ok (some settings)) (log : Log) :
    (load files).perform log =
      match (Logging.Work.configure (.text settings.level) settings.file).perform log with
      | (.ok (), log') => (ofValue (providerIn document), log')
      | (.error error, log') => (.error error, log') := by
  rw [load, Logging.Work.perform_ofExcept_bind h, Logging.Work.perform_ofExcept_bind hlogging]
  dsimp only
  rw [Logging.Work.perform_bind]
  rcases (Logging.Work.configure (.text settings.level) settings.file).perform log with ⟨r, log'⟩
  cases r <;> rfl

/-! ### Faults of the configuration -/

/-- The sinks that log settings put in the place of others. -/
def sinksFor (settings : LogSettings) (sinks : Logging.Sinks) : Logging.Sinks :=
  sinks.replaced (Level.threshold settings.level) ((settings.file.bind nonEmpty?).map shortestPath)

/-- A fault behind the sinks is one of the provider. -/
theorem load_of_logging_fault {settings : LogSettings} {fault : ConfigurationFault}
    (h : files.load = .ok document)
    (hlogging : LogSettings.ofDocument document = .ok (some settings))
    (hrun : (load files).perform log = (.error (.configuration fault), log')) :
    ofValue (providerIn document) = .error (.configuration fault) ∧
      log'.sinks = sinksFor settings log.sinks := by
  rw [load_of_logging h hlogging, Logging.Work.perform_configure] at hrun
  unfold sinksFor
  cases hpath : settings.file.bind nonEmpty? with
  | none =>
    rw [hpath] at hrun
    obtain ⟨hfault, rfl⟩ := Prod.mk.inj hrun
    exact ⟨hfault, rfl⟩
  | some path =>
    rw [hpath] at hrun
    dsimp only at hrun
    split at hrun
    next hconfigured =>
      split at hconfigured
      next => cases hconfigured
      next =>
        obtain ⟨-, rfl⟩ := Prod.mk.inj hconfigured
        obtain ⟨hfault, rfl⟩ := Prod.mk.inj hrun
        exact ⟨hfault, rfl⟩
    next hconfigured =>
      split at hconfigured
      next =>
        -- a path that cannot be opened is an error, but not one of the configuration
        cases hconfigured
        cases hrun
      next => cases hconfigured

/-- **What a fault of the configuration leaves behind.**  The log is as it was, unless something was
said about logging that could be followed.  Then the fault is one of the provider, and the sinks
have been replaced: behind the handlers of others there is one on the console, and then the one in
the file that was named. -/
theorem load_refused_sinks {fault : ConfigurationFault}
    (hrun : (load files).perform log = (.error (.configuration fault), log')) :
    ((∀ document settings, files.load = .ok document → ¬ LogSettings.SaidBy settings document) →
        log' = log) ∧
      ∀ document settings, files.load = .ok document → LogSettings.SaidBy settings document →
        ofValue (providerIn document) = .error (.configuration fault) ∧
          log'.sinks = sinksFor settings log.sinks ∧ log'.sinks ≠ log.sinks ∧
          (log.sinks.IsSound → log'.sinks.attached = log.sinks.others.map .foreign
            ++ (log.sinks.replacements (Level.threshold settings.level)
              ((settings.file.bind nonEmpty?).map shortestPath)).map
                fun (id, sink) => .own id sink) := by
  constructor
  · intro hsilent
    cases hload : files.load with
    | error error =>
      rw [load_of_unread hload] at hrun
      exact (Prod.mk.inj hrun).2.symm
    | ok document =>
      cases hlogging : LogSettings.ofDocument document with
      | error error =>
        rw [load_of_faultyLogging hload hlogging] at hrun
        exact (Prod.mk.inj hrun).2.symm
      | ok said =>
        cases said with
        | none =>
          rw [load_of_noLogging hload hlogging] at hrun
          exact (Prod.mk.inj hrun).2.symm
        | some settings =>
          exact absurd (LogSettings.ofDocument_eq_some_iff.mp hlogging)
            (hsilent document settings hload)
  · intro document settings hload hsaid
    obtain ⟨hfault, hsinks⟩ :=
      load_of_logging_fault hload (LogSettings.ofDocument_eq_some_iff.mpr hsaid) hrun
    rw [hsinks]
    exact ⟨hfault, rfl, Logging.Sinks.replaced_ne _ _ _,
      fun hsound => Logging.Sinks.attached_replaced hsound _ _⟩

/-- A project whose provider is a number, and that says how to log. -/
def numberedProvider : SettingsFiles where
  shared := .missing
  project := .bytes "provider = 1\n[logging]\nlevel = \"ERROR\"\n".toUTF8

/-- What is read from it. -/
def numberedDocument : Table :=
  [("provider", .int 1), ("logging", .table [("level", .text "ERROR")])]

/-- The log that loading it leaves when nothing was attached before. -/
def numberedLog : Log := Log.bare.withSinks (sinksFor { level := "ERROR" } {})

theorem numberedProvider_load : numberedProvider.load = .ok numberedDocument :=
  SettingsFiles.load_of_toOption (by decide +kernel)

theorem numberedProvider_perform : (load numberedProvider).perform .bare
    = (.error (.configuration (.providerNotTable "int")), numberedLog) := by
  have hlogging : LogSettings.ofDocument numberedDocument = .ok (some { level := "ERROR" }) := rfl
  rw [load_of_logging numberedProvider_load hlogging, Logging.Work.perform_configure]
  rfl

/-- The provider is turned down when the sinks have been replaced. -/
theorem load_numberedProvider :
    (load numberedProvider).perform .bare
        = (.error (.configuration (.providerNotTable "int")), numberedLog) ∧
      Log.bare.sinks.attached = [] ∧
      numberedLog.sinks.attached = [.own 1 { target := .console .standardError, threshold := 40 }]
      := by
  exact ⟨numberedProvider_perform, rfl, by decide +kernel⟩

/-- Files in which the entry for logging is a number. -/
def numberedLogging : SettingsFiles where
  shared := .bytes "logging = 1\n".toUTF8
  project := .missing

/-- What is read from them. -/
def numberedLoggingDocument : Table := [("logging", .int 1), ("provider", .table [])]

theorem numberedLogging_load : numberedLogging.load = .ok numberedLoggingDocument :=
  SettingsFiles.load_of_toOption (by decide +kernel)

theorem numberedLogging_perform (log : Log) : (load numberedLogging).perform log
    = (.error (.configuration (.loggingNotTable "int")), log) :=
  load_of_faultyLogging numberedLogging_load rfl log

theorem load_refused_sinks_numbers :
    ((load numberedProvider).perform .bare
        = (.error (.configuration (.providerNotTable "int")), numberedLog) ∧
      numberedLog.sinks = sinksFor { level := "ERROR" } {} ∧ numberedLog.sinks ≠ {} ∧
      numberedLog.sinks.attached
        = [.own 1 ⟨.console .standardError, Level.threshold "ERROR"⟩]) ∧
    ∀ log, (load numberedLogging).perform log
      = (.error (.configuration (.loggingNotTable "int")), log) := by
  have hsaid : LogSettings.SaidBy { level := "ERROR" } numberedDocument :=
    LogSettings.ofDocument_eq_some_iff.mp rfl
  obtain ⟨-, hreplaced⟩ := load_refused_sinks numberedProvider_perform
  obtain ⟨-, hsinks, hne, hattached⟩ := hreplaced numberedDocument _ numberedProvider_load hsaid
  exact ⟨⟨numberedProvider_perform, hsinks, hne, hattached rfl⟩, numberedLogging_perform⟩

/-! ### Entries that hold nothing -/

/-- Whether loading finds a fault of the configuration and leaves the sinks as they are. -/
def Refuses (files : SettingsFiles) (log : Log) : Prop :=
  ∃ fault log', (load files).perform log = (.error (.configuration fault), log') ∧
    log'.sinks = log.sinks

/-- **An entry for logging that is not a table** is turned down with the sinks as they are if it
holds something.  One that holds nothing is passed over, and the settings of the provider are looked
at as if it were not there. -/
theorem load_notTable_iff {value : Value} (hload : files.load = .ok document)
    (hentry : document.find? "logging" = some value) (hnot : ¬ value.IsTable) (log : Log) :
    (Refuses files log ↔ value.isNothing = false ∨
        ∃ fault, ofValue (providerIn document) = .error (.configuration fault)) ∧
      (value.isNothing = false → (load files).perform log
        = (.error (.configuration (.loggingNotTable value.typeName)), log)) ∧
      (value.isNothing = true → (load files).perform log
        = (ofValue (providerIn document), log)) := by
  have hsomething (h : value.isNothing = false) := load_of_faultyLogging hload
    (LogSettings.ofDocument_of_not_isTable hentry h hnot) log
  have hnothing (h : value.isNothing = true) := load_of_noLogging hload
    (LogSettings.ofDocument_of_isNothing hentry h) log
  refine ⟨⟨?_, ?_⟩, hsomething, hnothing⟩
  · rintro ⟨fault, log', hrun, -⟩
    cases h : value.isNothing with
    | false => exact .inl rfl
    | true =>
      rw [hnothing h] at hrun
      exact .inr ⟨fault, (Prod.mk.inj hrun).1⟩
  · rintro (h | ⟨fault, hfault⟩)
    · exact ⟨_, log, hsomething h, rfl⟩
    · cases h : value.isNothing with
      | false => exact ⟨_, log, hsomething h, rfl⟩
      | true => exact ⟨fault, log, by rw [hnothing h, hfault], rfl⟩

/-- A project in which the entry for logging is false. -/
def falseLogging : SettingsFiles where
  shared := .missing
  project := .bytes "logging = false\n".toUTF8

/-- What is read from it. -/
def falseLoggingDocument : Table := [("logging", .bool false), ("provider", .table [])]

theorem falseLogging_load : falseLogging.load = .ok falseLoggingDocument :=
  SettingsFiles.load_of_toOption (by decide +kernel)

/-- Its entry for logging is not turned down. -/
theorem load_falseLogging :
    falseLogging.load = .ok falseLoggingDocument ∧
      falseLoggingDocument.find? "logging" = some (.bool false) ∧
      (load falseLogging).perform {} = (.ok {}, {}) ∧ ¬ Refuses falseLogging {} := by
  have husual : ofValue (providerIn falseLoggingDocument) = .ok {} := by
    show ofTable [] = _
    simp only [ofTable, Entries.keys, List.map_nil, List.filter_nil, List.mergeSort_nil]
    rfl
  have hrun : (load falseLogging).perform {} = (.ok {}, {}) := by
    rw [load_of_noLogging falseLogging_load rfl, husual]
  refine ⟨falseLogging_load, rfl, hrun, ?_⟩
  rintro ⟨fault, log', hfault, -⟩
  rw [hrun] at hfault
  cases hfault

theorem load_notTable_iff_number :
    numberedLogging.load = .ok numberedLoggingDocument ∧
      numberedLoggingDocument.find? "logging" = some (.int 1) ∧ ¬ (Value.int 1).IsTable ∧
      ∀ log, Refuses numberedLogging log := by
  have hnot : ¬ (Value.int 1).IsTable := fun ⟨_, h⟩ => nomatch h
  refine ⟨numberedLogging_load, rfl, hnot, fun log => ?_⟩
  obtain ⟨hrefuses, -⟩ := load_notTable_iff numberedLogging_load rfl hnot log
  exact hrefuses.mpr (.inl rfl)

end Settings

end ComputeNodes
