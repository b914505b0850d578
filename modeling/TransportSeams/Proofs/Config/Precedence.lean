import TransportSeams.Config.Load

/-!
Configurations by precedence. Whatever files there are and however they are parsed, a setting is the
one of the command line where that has one, else the one of the file that is named, else the
standard one. Loading fails for three reasons: the file cannot be read, it is malformed, or a
setting that counts in the end is not allowed. What is loaded names each disabled backend, and the
enabled ones are all the others.
-/

set_option autoImplicit false
set_option relaxedAutoImplicit false

namespace TransportSeams

namespace Path

theorem isAbsolute_absolutize {base : Path} (rooted : base.isAbsolute = true) (path : Path) :
    (base.absolutize path).isAbsolute = true := by
  unfold absolutize
  split
  · assumption
  · rename_i relative
    have first : base.text.toList.head? = some '/' := of_decide_eq_true rooted
    have written : base.text ≠ "" := by
      intro bare
      rw [bare] at first
      cases first
    unfold join
    rw [if_neg relative]
    split <;>
      simp [isAbsolute, String.toList_append, List.head?_append, first]

end Path

namespace Backend

theorem ofName?_eq_some {name : String} {backend : Backend} :
    ofName? name = some backend ↔ backend.name = name := by
  constructor
  · intro found
    have named := List.find?_some found
    exact of_decide_eq_true named
  · rintro rfl
    exact ofName?_name backend

theorem ofName?_eq_none {name : String} :
    ofName? name = none ↔ ∀ backend : Backend, backend.name ≠ name := by
  rw [Option.eq_none_iff_forall_ne_some]
  exact forall_congr' fun backend => not_congr ofName?_eq_some

end Backend

namespace Config

inductive Report where
  | unreadable (fault : IoFault)
  | malformed (detail : String)
  | sets (file : ConfigFile)

def report (parse : String → Except String ConfigFile) (read : Path → Except IoFault String)
    (overrides : Overrides) (directory : Path) : Report :=
  match overrides.configPath? with
  | none => .sets .empty
  | some path =>
    match read (directory.absolutize path) with
    | .error fault => .unreadable fault
    | .ok text =>
      match parse text with
      | .error detail => .malformed detail
      | .ok file => .sets file

/-- The settings of the command line over those of a file over the standard ones. -/
def settled (overrides : Overrides) (directory : Path) (file : ConfigFile) : Config where
  disabled := file.disabled?.getD []
  acquireLimit := file.acquireLimit?.getD 1024
  logging :=
    ⟨(overrides.logPath?.or file.logPath?).map directory.absolutize,
      file.maxPayloadBytes?.getD 4096, file.budgetBytes?.getD (50 * 1024 * 1024)⟩

section Files

variable (parse : String → Except String ConfigFile) (read : Path → Except IoFault String)
  (overrides : Overrides) (directory : Path)

/-- The settings that the file has which the command line names; no file sets nothing. -/
def Provides (file : ConfigFile) : Prop :=
  (overrides.configPath? = none ∧ file = .empty) ∨
    ∃ path text, overrides.configPath? = some path ∧
      read (directory.absolutize path) = .ok text ∧ parse text = .ok file

def IsUnreadable (fault : IoFault) : Prop :=
  ∃ path, overrides.configPath? = some path ∧ read (directory.absolutize path) = .error fault

def IsMalformed (detail : String) : Prop :=
  ∃ path text, overrides.configPath? = some path ∧
    read (directory.absolutize path) = .ok text ∧ parse text = .error detail

variable {parse read overrides directory}

theorem report_eq_sets {file : ConfigFile} :
    report parse read overrides directory = .sets file ↔
      Provides parse read overrides directory file := by
  unfold report Provides
  cases named : overrides.configPath? with
  | none => simp [eq_comm]
  | some path =>
    cases held : read (directory.absolutize path) with
    | error fault => simp [held]
    | ok text => cases parsed : parse text <;> simp [held, parsed]

theorem report_eq_unreadable {fault : IoFault} :
    report parse read overrides directory = .unreadable fault ↔
      IsUnreadable read overrides directory fault := by
  unfold report IsUnreadable
  cases named : overrides.configPath? with
  | none => simp
  | some path =>
    cases held : read (directory.absolutize path) with
    | error fault => simp [held]
    | ok text => cases parsed : parse text <;> simp [held, parsed]

theorem report_eq_malformed {detail : String} :
    report parse read overrides directory = .malformed detail ↔
      IsMalformed parse read overrides directory detail := by
  unfold report IsMalformed
  cases named : overrides.configPath? with
  | none => simp
  | some path =>
    cases held : read (directory.absolutize path) with
    | error fault => simp [held]
    | ok text => cases parsed : parse text <;> simp [held, parsed]

theorem override_merge (file : ConfigFile) :
    (standard.merge file).override overrides directory = settled overrides directory file := by
  simp [override, withLogPath, merge, standard, settled, defaultAcquireLimit,
    defaultMaxPayloadBytes, defaultBudgetBytes]

theorem load_eq :
    load (fun path => (read path).mapError SeamError.io) overrides directory parse =
      match report parse read overrides directory with
      | .unreadable fault => .error (.io fault)
      | .malformed detail => .error (.configParse detail)
      | .sets file =>
        match (settled overrides directory file).fault? with
        | some fault => .error (.invalidConfig fault)
        | none => .ok (settled overrides directory file) := by
  have checked (file : ConfigFile) :
      (match ((standard.merge file).override overrides directory).fault? with
        | some fault => throw (.invalidConfig fault)
        | none => return (standard.merge file).override overrides directory :
          Except SeamError Config) =
      match (settled overrides directory file).fault? with
      | some fault => .error (.invalidConfig fault)
      | none => .ok (settled overrides directory file) := by
    rw [override_merge]
    cases (settled overrides directory file).fault? <;> rfl
  unfold load loadFile report
  cases named : overrides.configPath? with
  | none => exact checked .empty
  | some path =>
    cases held : read (directory.absolutize path) with
    | error fault => simp only [held]; rfl
    | ok text =>
      have opened : (Except.ok text).mapError SeamError.io = .ok text := rfl
      simp only [held, opened, bind, Except.bind]
      cases parse text with
      | error detail => rfl
      | ok file => exact checked file

end Files

def IsInvalid (config : Config) : Prop :=
  config.acquireLimit = 0 ∨ config.logging.maxPayloadBytes = 0 ∨
    ∃ name ∈ config.disabled, ∀ backend : Backend, backend.name ≠ name

theorem fault?_eq_none {config : Config} : config.fault? = none ↔
    0 < config.acquireLimit ∧ 0 < config.logging.maxPayloadBytes ∧
      ∀ name ∈ config.disabled, (Backend.ofName? name).isSome = true := by
  unfold fault?
  split
  · rename_i zero
    simp [zero]
  · rename_i limit
    split
    · rename_i zero
      simp [zero]
    · rename_i payload
      simp [Nat.pos_of_ne_zero limit, Nat.pos_of_ne_zero payload, Option.isSome_iff_ne_none]

theorem not_isInvalid_iff {config : Config} : ¬config.IsInvalid ↔ config.fault? = none := by
  rw [fault?_eq_none, IsInvalid]
  simp only [← Backend.ofName?_eq_none, Option.isSome_iff_ne_none, Nat.pos_iff_ne_zero, not_or,
    not_exists, not_and, ne_eq]

theorem names_disabledBackends {config : Config} (valid : ¬config.IsInvalid) :
    config.disabledBackends.map Backend.name = config.disabled := by
  have known := (fault?_eq_none.1 (not_isInvalid_iff.1 valid)).2.2
  unfold disabledBackends
  generalize config.disabled = names at known ⊢
  induction names with
  | nil => rfl
  | cons name rest ih =>
    obtain ⟨first, others⟩ := List.forall_mem_cons.1 known
    obtain ⟨backend, found⟩ := Option.isSome_iff_exists.1 first
    rw [List.filterMap_cons_some found, List.map_cons, ih others, Backend.ofName?_eq_some.1 found]

theorem mem_enabledBackends {config : Config} {backend : Backend} :
    backend ∈ config.enabledBackends ↔ backend.name ∉ config.disabled := by
  have disabled : backend ∈ config.disabledBackends ↔ backend.name ∈ config.disabled := by
    unfold disabledBackends
    simp only [List.mem_filterMap, Backend.ofName?_eq_some]
    exact ⟨fun ⟨_, listed, same⟩ => same ▸ listed, fun listed => ⟨_, listed, rfl⟩⟩
  simp [enabledBackends, Backend.mem_all, disabled]

/-- What a configuration that was loaded can be relied on for. -/
structure IsUsable (config : Config) (directory : Path) : Prop where
  acquires : 0 < config.acquireLimit
  logs : 0 < config.logging.maxPayloadBytes
  disabled : config.disabledBackends.map Backend.name = config.disabled
  ordered : config.enabledBackends.Sublist Backend.all
  enabled (backend : Backend) : backend ∈ config.enabledBackends ↔ backend.name ∉ config.disabled
  rooted : directory.isAbsolute = true → ∀ path ∈ config.logging.path?, path.isAbsolute = true

theorem isUsable_settled {overrides : Overrides} {directory : Path} {file : ConfigFile}
    (valid : ¬(settled overrides directory file).IsInvalid) :
    (settled overrides directory file).IsUsable directory where
  acquires := Nat.pos_of_ne_zero fun zero => valid (.inl zero)
  logs := Nat.pos_of_ne_zero fun zero => valid (.inr (.inl zero))
  disabled := names_disabledBackends valid
  ordered := List.filter_sublist
  enabled _ := mem_enabledBackends
  rooted seen path member := by
    obtain ⟨written, -, rfl⟩ := Option.map_eq_some_iff.1 member
    exact Path.isAbsolute_absolutize seen written

section Outcome

variable {parse : String → Except String ConfigFile} {read : Path → Except IoFault String}
  {overrides : Overrides} {directory : Path}

theorem isInvalid_iff {config : Config} : config.IsInvalid ↔ config.fault? ≠ none := by
  rw [Ne, ← not_isInvalid_iff, Classical.not_not]

inductive IsRefused (parse : String → Except String ConfigFile)
    (read : Path → Except IoFault String) (overrides : Overrides) (directory : Path) :
    SeamError → Prop where
  | unreadable {fault : IoFault} : IsUnreadable read overrides directory fault →
    IsRefused parse read overrides directory (.io fault)
  | malformed {detail : String} : IsMalformed parse read overrides directory detail →
    IsRefused parse read overrides directory (.configParse detail)
  | invalid {file : ConfigFile} {fault : ConfigFault} :
    Provides parse read overrides directory file →
      (settled overrides directory file).fault? = some fault →
        IsRefused parse read overrides directory (.invalidConfig fault)

theorem load_eq_error {error : SeamError} :
    load (fun path => (read path).mapError SeamError.io) overrides directory parse =
        .error error ↔
      IsRefused parse read overrides directory error := by
  rw [load_eq]
  constructor
  · intro failed
    cases came : report parse read overrides directory with
    | unreadable fault =>
      rw [came] at failed
      cases failed
      exact .unreadable (report_eq_unreadable.1 came)
    | malformed detail =>
      rw [came] at failed
      cases failed
      exact .malformed (report_eq_malformed.1 came)
    | sets file =>
      rw [came] at failed
      dsimp only at failed
      cases wrong : (settled overrides directory file).fault? with
      | none =>
        rw [wrong] at failed
        cases failed
      | some fault =>
        rw [wrong] at failed
        cases failed
        exact .invalid (report_eq_sets.1 came) wrong
  · rintro (unreadable | malformed | ⟨provides, wrong⟩)
    · rw [report_eq_unreadable.2 unreadable]
    · rw [report_eq_malformed.2 malformed]
    · rw [report_eq_sets.2 provides]
      dsimp only
      rw [wrong]

theorem load_eq_ok {config : Config} :
    load (fun path => (read path).mapError SeamError.io) overrides directory parse = .ok config ↔
      ∃ file, Provides parse read overrides directory file ∧
        ¬(settled overrides directory file).IsInvalid ∧
          config = settled overrides directory file := by
  simp only [← report_eq_sets, not_isInvalid_iff, load_eq]
  cases report parse read overrides directory with
  | unreadable fault => simp
  | malformed detail => simp
  | sets file => cases wrong : (settled overrides directory file).fault? <;> simp [wrong, eq_comm]

theorem fault?_of_load_eq_ok {config : Config}
    (loaded : load (fun path => (read path).mapError SeamError.io) overrides directory parse =
      .ok config) : config.fault? = none := by
  obtain ⟨file, -, valid, rfl⟩ := load_eq_ok.1 loaded
  exact not_isInvalid_iff.1 valid

end Outcome

/-- When loading fails, and what it gives otherwise. -/
structure LoadsByPrecedence (parse : String → Except String ConfigFile)
    (read : Path → Except IoFault String) (overrides : Overrides) (directory : Path)
    (loaded : Except SeamError Config) : Prop where
  io (fault : IoFault) : loaded = .error (.io fault) ↔ IsUnreadable read overrides directory fault
  configParse (detail : String) : loaded = .error (.configParse detail) ↔
    IsMalformed parse read overrides directory detail
  invalidConfig : (∃ fault, loaded = .error (.invalidConfig fault)) ↔
    ∃ file, Provides parse read overrides directory file ∧
      (settled overrides directory file).IsInvalid
  settles (config : Config) : loaded = .ok config ↔
    ∃ file, Provides parse read overrides directory file ∧
      ¬(settled overrides directory file).IsInvalid ∧ config = settled overrides directory file
  usable (config : Config) : loaded = .ok config → config.IsUsable directory

/-- With every file system and every parser, loading fails exactly for the reasons that there are,
each in its turn, and gives else the settings by precedence. -/
theorem load_byPrecedence (parse : String → Except String ConfigFile)
    (read : Path → Except IoFault String) (overrides : Overrides) (directory : Path) :
    LoadsByPrecedence parse read overrides directory
      (load (fun path => (read path).mapError SeamError.io) overrides directory parse) where
  io fault := by
    rw [load_eq_error]
    exact ⟨fun | .unreadable unreadable => unreadable, .unreadable⟩
  configParse detail := by
    rw [load_eq_error]
    exact ⟨fun | .malformed malformed => malformed, .malformed⟩
  invalidConfig := by
    simp only [load_eq_error, isInvalid_iff, Option.ne_none_iff_exists']
    constructor
    · rintro ⟨fault, refused⟩
      cases refused with
      | invalid provides wrong => exact ⟨_, provides, fault, wrong⟩
    · rintro ⟨file, provides, fault, wrong⟩
      exact ⟨fault, .invalid provides wrong⟩
  settles _ := load_eq_ok
  usable config loaded := by
    obtain ⟨file, -, valid, rfl⟩ := load_eq_ok.1 loaded
    exact isUsable_settled valid

end Config

end TransportSeams
