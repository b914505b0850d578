import TransportSeams.Command.Rehearsal
import TransportSeams.Proofs.Config.Precedence
import TransportSeams.Proofs.SelfCheck.Outcome

/-!
The outcome of the command, whatever its words are and however they and the configuration file are
read. Either it is refused before it has changed anything, or it ends with exit code 0 and has
written the seams, or what the self-check counted, or both. The self-check does not fail with a
configuration that could be loaded, so there is no other exit code.
-/

set_option autoImplicit false
set_option relaxedAutoImplicit false

namespace TransportSeams

namespace Rehearsing

variable {α β : Type}

def on (step : Rehearsing α) (rehearsal : Rehearsal) : Except SeamError α × Rehearsal :=
  (step.run.run rehearsal).run

@[simp]
theorem on_pure (a : α) (rehearsal : Rehearsal) :
    (pure a : Rehearsing α).on rehearsal = (.ok a, rehearsal) :=
  rfl

@[simp]
theorem on_throw (error : SeamError) (rehearsal : Rehearsal) :
    (throw error : Rehearsing α).on rehearsal = (.error error, rehearsal) :=
  rfl

theorem on_bind (step : Rehearsing α) (next : α → Rehearsing β) (rehearsal : Rehearsal) :
    (step >>= next).on rehearsal =
      match step.on rehearsal with
      | (.ok a, left) => (next a).on left
      | (.error error, left) => (.error error, left) := by
  show (ExceptT.bindCont next (step.on rehearsal).1 : StateM Rehearsal (Except SeamError β))
    (step.on rehearsal).2 = _
  rcases step.on rehearsal with ⟨outcome, left⟩
  cases outcome <;> rfl

@[simp]
theorem on_get (rehearsal : Rehearsal) :
    (get : Rehearsing Rehearsal).on rehearsal = (.ok rehearsal, rehearsal) :=
  rfl

@[simp]
theorem on_writeLine (line : String) (rehearsal : Rehearsal) :
    on (Rehearsal.host.writeLine line) rehearsal =
      (.ok (), { rehearsal with terminal := rehearsal.terminal.writeLine line }) :=
  rfl

@[simp]
theorem on_record (entry : LogRecord) (rehearsal : Rehearsal) :
    on (Rehearsal.host.record entry) rehearsal =
      (.ok (), { rehearsal with log := rehearsal.log.record entry }) :=
  rfl

theorem on_readText (path : Path) (rehearsal : Rehearsal) :
    on (Rehearsal.host.readText path) rehearsal = (rehearsal.files.read path, rehearsal) := by
  simp only [Rehearsal.host, on_bind, on_get]
  cases rehearsal.files.read path <;> rfl

variable (parse : String → Except String ConfigFile)

theorem on_loadFile (overrides : Overrides) (directory : Path) (rehearsal : Rehearsal) :
    on (Config.loadFile Rehearsal.host.readText overrides directory parse) rehearsal =
      (Config.loadFile rehearsal.files.read overrides directory parse, rehearsal) := by
  unfold Config.loadFile
  cases overrides.configPath? with
  | none => rfl
  | some path =>
    simp only [on_bind, on_readText]
    cases rehearsal.files.read (directory.absolutize path) with
    | error error => rfl
    | ok text =>
      dsimp only [bind, Except.bind]
      cases parse text <;> rfl

theorem on_load (overrides : Overrides) (directory : Path) (rehearsal : Rehearsal) :
    on (Config.load Rehearsal.host.readText overrides directory parse) rehearsal =
      (Config.load rehearsal.files.read overrides directory parse, rehearsal) := by
  unfold Config.load
  simp only [on_bind, on_loadFile]
  cases Config.loadFile rehearsal.files.read overrides directory parse with
  | error error => rfl
  | ok file =>
    dsimp only [bind, Except.bind]
    cases ((Config.standard.merge file).override overrides directory).fault? <;> rfl

end Rehearsing

namespace Command

variable {ω : Type}

inductive IsRefused (readers : Readers ω) (files : MemoryFiles) (directory : Path)
    (words : List ω) : SeamError → Prop where
  | unread {detail : String} : readers.commandLine words = .error detail →
    IsRefused readers files directory words (.cli (.usage detail))
  | idle {arguments : Arguments} :
    readers.commandLine words = .ok (.work arguments) → arguments.hasWork = false →
      IsRefused readers files directory words (.cli .nothingToDo)
  | unconfigured {arguments : Arguments} {error : SeamError} :
    readers.commandLine words = .ok (.work arguments) → arguments.hasWork = true →
      Config.IsRefused readers.configFile files.text arguments.overrides directory error →
        IsRefused readers files directory words error

/-- The lines that answer the arguments: the seams if they ask for them, then what the self-check
counted if they ask for it. -/
def answer (arguments : Arguments) (config : Config) : List String :=
  (if arguments.listSeams then config.seamListing else []) ++
    if arguments.selfCheck then [(SelfCheck.expected config).text] else []

end Command

namespace Rehearsal

/-- The rehearsal with the run log of the configuration going, and the directory for it made. -/
def logging (rehearsal : Rehearsal) (config : Config) : Rehearsal :=
  match config.logger? with
  | none => rehearsal
  | some logger =>
    { rehearsal with
      files := (logger.path.parent?.map rehearsal.files.makeDirectory).getD rehearsal.files
      log := rehearsal.log.activate logger }

structure Writes (lines : List String) (before after : Rehearsal) : Prop where
  output : after.terminal.outputLines = before.terminal.outputLines ++ lines
  errors : after.terminal.errorLines = before.terminal.errorLines
  printed : after.printed = before.printed
  files : after.files = before.files
  logger : after.log.logger? = before.log.logger?

namespace Writes

variable {lines more : List String} {before middle after : Rehearsal}

theorem none (rehearsal : Rehearsal) : Writes [] rehearsal rehearsal :=
  ⟨(List.append_nil _).symm, rfl, rfl, rfl, rfl⟩

theorem append (first : Writes lines before middle) (second : Writes more middle after) :
    Writes (lines ++ more) before after where
  output := by rw [second.output, first.output, List.append_assoc]
  errors := second.errors.trans first.errors
  printed := second.printed.trans first.printed
  files := second.files.trans first.files
  logger := second.logger.trans first.logger

theorem line (rehearsal : Rehearsal) (text : String) :
    Writes [text] rehearsal { rehearsal with terminal := rehearsal.terminal.writeLine text } :=
  ⟨List.reverse_cons, rfl, rfl, rfl, rfl⟩

theorem record (rehearsal : Rehearsal) (entry : LogRecord) :
    Writes [] rehearsal { rehearsal with log := rehearsal.log.record entry } where
  output := (List.append_nil _).symm
  errors := rfl
  printed := rfl
  files := rfl
  logger := by
    unfold RunLog.record
    split <;> rfl

end Writes

end Rehearsal

namespace Command

open Rehearsal

variable {config : Config} {arguments : Arguments} {directory : Path}
  {parse : String → Except String ConfigFile}

theorem on_openLog (config : Config) (rehearsal : Rehearsal) :
    Rehearsing.on (openLog host config) rehearsal = (.ok (), rehearsal.logging config) := by
  unfold openLog Rehearsal.logging
  cases config.logger? with
  | none => rfl
  | some logger =>
    dsimp only
    cases logger.path.parent? <;> rfl

theorem on_writeLines (lines : List String) (rehearsal : Rehearsal) :
    ∃ after, Rehearsing.on (lines.forM host.writeLine) rehearsal = (.ok (), after) ∧
      Writes lines rehearsal after := by
  induction lines generalizing rehearsal with
  | nil => exact ⟨rehearsal, rfl, .none rehearsal⟩
  | cons line rest ih =>
    obtain ⟨after, run, writes⟩ :=
      ih { rehearsal with terminal := rehearsal.terminal.writeLine line }
    refine ⟨after, ?_, (Writes.line rehearsal line).append writes⟩
    show Rehearsing.on (host.writeLine line >>= fun _ => rest.forM host.writeLine) rehearsal = _
    rw [Rehearsing.on_bind]
    exact run

theorem on_records (events : List Event) (rehearsal : Rehearsal) :
    ∃ after, Rehearsing.on (events.forM fun event => host.record event.record) rehearsal =
      (.ok (), after) ∧ Writes [] rehearsal after := by
  induction events generalizing rehearsal with
  | nil => exact ⟨rehearsal, rfl, .none rehearsal⟩
  | cons event rest ih =>
    obtain ⟨after, run, writes⟩ := ih { rehearsal with log := rehearsal.log.record event.record }
    refine ⟨after, ?_, (Writes.record rehearsal event.record).append writes⟩
    show Rehearsing.on (host.record event.record >>= fun _ =>
      rest.forM fun event => host.record event.record) rehearsal = _
    rw [Rehearsing.on_bind]
    exact run

theorem on_selfCheck (accepted : config.fault? = none) (rehearsal : Rehearsal) :
    ∃ after, Rehearsing.on (selfCheck host config) rehearsal = (.ok true, after) ∧
      Writes [(SelfCheck.expected config).text] rehearsal after := by
  obtain ⟨limit, -, -⟩ := Config.fault?_eq_none.1 accepted
  obtain ⟨left, checked⟩ := SelfCheck.run_ok (fun _ => limit) World.initial
  have run : (SelfCheck.run config).outcome.run World.initial =
    (.ok (SelfCheck.expected config), left) := checked
  obtain ⟨noted, records, keeps⟩ := on_records left.events rehearsal
  refine ⟨_, ?_, keeps.append (Writes.line noted (SelfCheck.expected config).text)⟩
  simp only [selfCheck, run, Rehearsing.on_bind, records, Rehearsing.on_writeLine]
  rfl

def check (arguments : Arguments) (config : Config) : Rehearsing UInt32 := do
  if arguments.selfCheck then
    return if ← selfCheck host config then 0 else 1
  return 0

theorem on_check (accepted : config.fault? = none) (rehearsal : Rehearsal) :
    ∃ after, (check arguments config).on rehearsal = (.ok 0, after) ∧
      Writes (if arguments.selfCheck then [(SelfCheck.expected config).text] else []) rehearsal
        after := by
  unfold check
  split
  · obtain ⟨after, run, writes⟩ := on_selfCheck accepted rehearsal
    refine ⟨after, ?_, writes⟩
    rw [Rehearsing.on_bind, run]
    rfl
  · exact ⟨rehearsal, rfl, .none rehearsal⟩

theorem on_work (asked : arguments.hasWork = true) {rehearsal : Rehearsal}
    (loaded : Config.load rehearsal.files.read arguments.overrides directory parse = .ok config) :
    ∃ after, Rehearsing.on (work parse host directory arguments) rehearsal = (.ok 0, after) ∧
      Writes (answer arguments config) (rehearsal.logging config) after := by
  have accepted := Config.fault?_of_load_eq_ok loaded
  let started : LogRecord :=
    (Event.runStarted arguments.listSeams arguments.selfCheck config.disabled).record
  let logging : Rehearsal :=
    { rehearsal.logging config with log := (rehearsal.logging config).log.record started }
  have recorded : Writes [] (rehearsal.logging config) logging := Writes.record _ started
  unfold work answer
  rw [if_pos asked]
  simp only [Rehearsing.on_bind, Rehearsing.on_load, loaded, on_openLog, Rehearsing.on_record]
  split
  · obtain ⟨listed, lists, first⟩ := on_writeLines config.seamListing logging
    obtain ⟨after, run, second⟩ := on_check accepted listed
    refine ⟨after, ?_, recorded.append (first.append second)⟩
    rw [Rehearsing.on_bind, lists]
    exact run
  · obtain ⟨after, run, writes⟩ := on_check accepted logging
    exact ⟨after, run, recorded.append writes⟩

theorem on_work_idle (idle : arguments.hasWork = false) (rehearsal : Rehearsal) :
    Rehearsing.on (work parse host directory arguments) rehearsal =
      (.error (.cli .nothingToDo), rehearsal) := by
  unfold work
  rw [if_neg (by simp [idle])]
  rfl

theorem on_work_unconfigured {error : SeamError} (asked : arguments.hasWork = true)
    {rehearsal : Rehearsal}
    (refused : Config.IsRefused parse rehearsal.files.text arguments.overrides directory error) :
    Rehearsing.on (work parse host directory arguments) rehearsal =
      (.error error, rehearsal) := by
  have failed : Config.load rehearsal.files.read arguments.overrides directory parse =
    .error error := Config.load_eq_error.2 refused
  unfold work
  rw [if_pos asked]
  simp only [Rehearsing.on_bind, Rehearsing.on_load, failed]

variable {ω : Type} {readers : Readers ω} {words : List ω}

theorem on_run_work (rehearsal : Rehearsal)
    (parsed : readers.commandLine words = .ok (.work arguments)) :
    Rehearsing.on (runWith readers host directory words) rehearsal =
      Rehearsing.on (work readers.configFile host directory arguments) rehearsal := by
  unfold runWith
  rw [parsed]

theorem on_run_shown (rehearsal : Rehearsal) {text : String}
    (parsed : readers.commandLine words = .ok (.shown text)) :
    Rehearsing.on (runWith readers host directory words) rehearsal =
      (.ok 0, rehearsal.print text) := by
  unfold runWith
  rw [parsed]
  rfl

theorem IsRefused.on_run {error : SeamError} {rehearsal : Rehearsal}
    (refused : IsRefused readers rehearsal.files directory words error) :
    Rehearsing.on (runWith readers host directory words) rehearsal = (.error error, rehearsal) := by
  cases refused with
  | unread fault =>
    unfold runWith
    rw [fault]
    rfl
  | idle parsed idle => rw [on_run_work rehearsal parsed, on_work_idle idle]
  | unconfigured parsed asked refused =>
    rw [on_run_work rehearsal parsed, on_work_unconfigured asked refused]

theorem run_cases (readers : Readers ω) (directory : Path) (words : List ω) (files : MemoryFiles) :
    (∃ error, IsRefused readers files directory words error) ∨
      (∃ text, readers.commandLine words = .ok (.shown text)) ∨
      ∃ arguments config, readers.commandLine words = .ok (.work arguments) ∧
        arguments.hasWork = true ∧
          Config.load files.read arguments.overrides directory readers.configFile = .ok config := by
  cases parsed : readers.commandLine words with
  | error fault => exact .inl ⟨_, .unread parsed⟩
  | ok invocation =>
    cases invocation with
    | shown text => exact .inr (.inl ⟨text, rfl⟩)
    | work arguments =>
      cases asked : arguments.hasWork with
      | false => exact .inl ⟨_, .idle parsed asked⟩
      | true =>
        cases loaded :
            Config.load files.read arguments.overrides directory readers.configFile with
        | error error =>
          exact .inl ⟨error, .unconfigured parsed asked (Config.load_eq_error.1 loaded)⟩
        | ok config => exact .inr (.inr ⟨arguments, config, rfl, asked, loaded⟩)

/-- However words and configuration files are read: the command is refused for one of the reasons,
and changes nothing then. Otherwise it prints the text that it is asked for, or it answers the
arguments under a configuration that it has loaded and that passes the self-check; its exit code
is 0. -/
theorem run_rehearsed (readers : Readers ω) (directory : Path) (words : List ω)
    (rehearsal : Rehearsal) :
    let ended := Rehearsing.on (runWith readers host directory words) rehearsal
    (∀ error, ended.1 = .error error ↔ IsRefused readers rehearsal.files directory words error) ∧
    (∀ error, ended.1 = .error error → ended.2 = rehearsal) ∧
    ∀ code, ended.1 = .ok code → code = 0 ∧
      ((∃ text, readers.commandLine words = .ok (.shown text) ∧
          ended.2 = rehearsal.print text) ∨
        ∃ arguments config, readers.commandLine words = .ok (.work arguments) ∧
          arguments.hasWork = true ∧
          Config.load rehearsal.files.read arguments.overrides directory readers.configFile =
            .ok config ∧
          ((SelfCheck.run config).on .initial).1 = .ok (SelfCheck.expected config) ∧
          Writes (answer arguments config) (rehearsal.logging config) ended.2) := by
  intro ended
  have failing {error : SeamError} (failed : ended.1 = .error error) :
      IsRefused readers rehearsal.files directory words error ∧ ended.2 = rehearsal := by
    rcases run_cases readers directory words rehearsal.files with
      ⟨other, refused⟩ | ⟨text, shown⟩ | ⟨arguments, config, parsed, asked, loaded⟩
    · have run : ended = (.error other, rehearsal) := refused.on_run
      rw [run] at failed ⊢
      cases failed
      exact ⟨refused, rfl⟩
    · have run : ended = _ := on_run_shown rehearsal shown
      rw [run] at failed
      cases failed
    · obtain ⟨after, run, -⟩ := on_work asked loaded
      have run : ended = _ := (on_run_work rehearsal parsed).trans run
      rw [run] at failed
      cases failed
  refine ⟨fun error => ⟨fun failed => (failing failed).1, fun refused => ?_⟩,
    fun error failed => (failing failed).2, fun code passed => ?_⟩
  · exact congrArg Prod.fst refused.on_run
  · rcases run_cases readers directory words rehearsal.files with
      ⟨other, refused⟩ | ⟨text, shown⟩ | ⟨arguments, config, parsed, asked, loaded⟩
    · have run : ended = (.error other, rehearsal) := refused.on_run
      rw [run] at passed
      cases passed
    · have run : ended = _ := on_run_shown rehearsal shown
      rw [run] at passed ⊢
      cases passed
      exact ⟨rfl, .inl ⟨text, shown, rfl⟩⟩
    · obtain ⟨after, run, writes⟩ := on_work asked loaded
      have run : ended = _ := (on_run_work rehearsal parsed).trans run
      obtain ⟨left, checked⟩ := SelfCheck.run_ok
        (fun _ => (Config.fault?_eq_none.1 (Config.fault?_of_load_eq_ok loaded)).1) World.initial
      rw [run] at passed ⊢
      cases passed
      exact ⟨rfl, .inr ⟨arguments, config, parsed, asked, loaded, by rw [checked], writes⟩⟩

end Command

end TransportSeams
