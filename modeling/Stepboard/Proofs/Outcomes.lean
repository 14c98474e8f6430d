import Stepboard.Proofs.BackEnds
import Stepboard.Proofs.Directories
/-!
# What the command comes to

Once the settings are resolved and the log file is there, the command goes through its checks one by
one (`Command.check_cases`), and asks a back end at most once, after all of them
(`Command.load_cases`). It either fails before any session or comes to what its session comes to
(`Command.outcome_cases`), and prints the last words of that on one of its two outputs
(`Command.play_spec`). The one check that may break down is that for the program, since what stands
at its path may be concealed (`Command.has_outcome_iff`).
-/

namespace Stepboard

namespace Arguments

theorem read_positional {name : String} (hdashes : name ≠ "--")
    (hrole : role name.toList = .positional) : read [name] = .ok (.run name) := by
  unfold read readFrom
  rw [if_neg hdashes, hrole]
  rfl

end Arguments

namespace Path

theorem ofString_name {name : String} (hslash : '/' ∉ name.toList) (hempty : name ≠ "")
    (hdot : name ≠ ".") : ofString name = { names := [LooseText.whole name] } := by
  have hparts : (LooseText.whole name).parts '/' = [LooseText.whole name] := by
    simp [LooseText.parts, Text.parts, Text.splitAt_of_not_mem hslash]
  have hroot : rootOf name.toList = "" := by
    unfold rootOf
    split <;> simp_all
  unfold ofString ofText
  simp [hparts, LooseText.leading, hroot, hempty, hdot]

end Path

namespace Settings

theorem keeps_record (s : Settings) (r : Record) (files : Files) :
    files.Keeps (s.record r files) := by
  unfold record LogTarget.write
  split_ifs
  · split
    case h_1 p line _ _ =>
      rcases LogTarget.filePath? files p with _ | place
      · exact .refl files
      · dsimp only
        rcases happend : files.append place (Utf8.encode line.toList) with e | written
        · exact .refl files
        · exact Files.keeps_change happend
    case h_2 => exact .refl files
  · exact .refl files

/-- Once the directories of the simulator's log files are ready, they are there and stay. -/
theorem prepareLogs_spec {s : Settings} {files ready : Files}
    (h : s.prepareLogs files = .ok () ready) :
    files.Keeps ready ∧ ready.isDirectory s.outputLog.parent = true
      ∧ ready.isDirectory s.messageLog.parent = true := by
  obtain ⟨_, between, houtput, hmessages⟩ := Reading.bind_ok h
  obtain ⟨keeps, hdir⟩ := FileWork.ensureDirectories_spec houtput
  obtain ⟨keeps', hdir'⟩ := FileWork.ensureDirectories_spec hmessages
  exact ⟨keeps.trans keeps', Files.isDirectory_keeps keeps' hdir, hdir'⟩

end Settings

namespace Session

variable {σ : Type}

theorem code_run_cases {host : Host σ} {s : Session σ} {keys : List String} {code : Nat}
    (h : (s.run host keys).code = .ok code) : code = exitOk ∨ code = exitFatal := by
  unfold run Run.finish at h
  dsimp only at h
  split at h
  · exact .inl (Except.ok.inj h).symm
  · exact .inr (Except.ok.inj h).symm
  · cases h

end Session

/-- What a console is handed to print, and on which output, if it is handed anything. -/
def Writing.printing? : Writing → Option (Channel × Printing)
  | printing on p => some (on, p)
  | _ => none

namespace Outcome

variable {σ : Type} (notes : List Record) (outcome : Outcome σ)

/-- What is printed by a console, and on which outputs. -/
def printings : List (Channel × Printing) :=
  outcome.written.filterMap Writing.printing?

theorem printing?_notices : (Command.notices notes).filterMap Writing.printing? = [] := by
  simp [Command.notices, Writing.printing?]

theorem printing?_complaints (settings : Settings) :
    (settings.complaints notes).filterMap Writing.printing? = [] := by
  simp [Settings.complaints, Writing.printing?]

theorem printings_afterNotes :
    (Command.afterNotes notes outcome).printings = outcome.printings := by
  rw [printings, Command.afterNotes, List.filterMap_append, printing?_notices, List.nil_append,
    printings]

/-- A run that ended with one before any session began, and printed one thing, among the errors,
after whatever was told of records. -/
structure Failed : Prop where
  ending : outcome.ending = .done exitFatal
  session : outcome.session = none
  written : ∃ (unwritable : List Record) (p : Printing), outcome.written
    = Command.notices notes ++ unwritable.map .complaint ++ [.printing .errors p]

/-- A run that came to what its session came to. The last words of the session, if there are any,
are all that is printed: once, on the output if it went well and among the errors if not. -/
structure Played (settings : Settings) (finish : Finish σ) (code : Nat) : Prop where
  session : outcome.session = some finish
  finished : finish.code = .ok code
  ending : outcome.ending = .done code
  written : outcome.written = Command.notices notes ++ settings.complaints finish.session.notes
    ++ Command.lastWords code finish.session.board.exitMessage
  printed : ∃ on, (code = exitOk ∧ on = .output ∨ code = exitFatal ∧ on = .errors)
    ∧ outcome.printings = if finish.session.board.exitMessage = "" then []
      else [(on, { text := finish.session.board.exitMessage })]

variable {outcome}

theorem Failed.afterNotes (h : Failed [] outcome) :
    Failed notes (Command.afterNotes notes outcome) := by
  obtain ⟨hending, hsession, unwritable, p, hwritten⟩ := h
  refine ⟨hending, hsession, unwritable, p, ?_⟩
  rw [List.append_assoc, Command.afterNotes, hwritten]
  rfl

theorem Played.afterNotes {settings : Settings} {finish : Finish σ} {code : Nat}
    (h : Played [] outcome settings finish code) :
    Played notes (Command.afterNotes notes outcome) settings finish code := by
  obtain ⟨hsession, hfinished, hending, hwritten, hprinted⟩ := h
  refine ⟨hsession, hfinished, hending, ?_, by rwa [printings_afterNotes]⟩
  rw [List.append_assoc, Command.afterNotes, hwritten]
  rfl

end Outcome

namespace Backend

variable {σ : Type}

theorem notes_load {registry : Registry (Backend σ)} (record : Record → Files → Files)
    {spec : LooseText} {backend : Backend σ} (request : LoadRequest)
    (h : registry.resolve spec = .ok backend) :
    (load registry record (.str spec) request).notes = [loadNote request.program spec] := by
  have hsetting : registry.resolveSetting (.str spec) = .ok backend := h
  unfold load
  rw [isTrue_of_resolve h, hsetting]
  rfl

theorem not_breaks {setting : Json.Value}
    (h : setting = .null
      ∨ ∃ spec : LooseText, setting = .str spec ∧ ∀ rest : LooseText, spec ≠ "." ++ rest) :
    ¬ Breaks setting := by
  rcases h with rfl | ⟨spec, rfl, hdot⟩
  · exact fun h => nomatch h
  · rintro ⟨rest, path, hspec⟩
    have hhead : spec.symbols.head? = some (.char '.') := by
      rw [hspec.symbols, LooseText.symbols_append]
      rfl
    obtain ⟨rest', hrest'⟩ := Registry.dotted_iff_head?.mpr hhead
    exact hdot rest' hrest'

end Backend

namespace Command

variable {σ : Type} (c : Command σ) (settings : Settings) (program : Path)

/-- What a back end is asked by the command. -/
def asked (ready : Files) (spec : LooseText) : LoadRequest :=
  Backend.asked settings.record spec
    { program, outputLog := settings.outputLog, messageLog := settings.messageLog, files := ready }

/-- All that has to be so before a back end is asked: the program is a file, the keys come from a
terminal, and the setting leads to the back end. -/
structure Asks (files : Files) (spec : LooseText) (backend : Backend σ) : Prop where
  isFile : files.isFile program = .ok true
  isTerminal : c.isTerminal = true
  setting : settings.backend = .str spec
  resolved : c.registry.resolve spec = .ok backend

def finishOf (spec : LooseText) (loaded : Loaded σ) : Finish σ :=
  (c.begin settings program [Backend.loadNote program spec] loaded).run (hostOf settings loaded)
    c.keys

section Run

variable {c settings program} {files ready : Files} {spec : LooseText} {backend : Backend σ}
  {loaded : Loaded σ}

theorem Asks.eq {spec' : LooseText} {backend' : Backend σ}
    (h : c.Asks settings program files spec backend)
    (h' : c.Asks settings program files spec' backend') : spec' = spec ∧ backend' = backend := by
  obtain rfl : spec' = spec := Json.Value.str.inj (h'.setting.symm.trans h.setting)
  exact ⟨rfl, Except.ok.inj (h'.resolved.symm.trans h.resolved)⟩

theorem Asks.not_conceals (h : c.Asks settings program files spec backend) :
    ¬ files.Conceals program := by
  rcases files.isFile_cases program with ⟨-, e, hfile⟩ | ⟨hnot, -⟩
  · cases hfile.symm.trans h.isFile
  · exact hnot

/-- A back end is asked among files where the log files have their directories. -/
theorem files_asked (program : Path) (hready : settings.prepareLogs files = .ok () ready)
    (spec : LooseText) :
    let request := asked settings program ready spec
    files.Keeps request.files ∧ request.files.isDirectory settings.outputLog.parent = true
      ∧ request.files.isDirectory settings.messageLog.parent = true := by
  intro request
  obtain ⟨keeps, houtput, hmessage⟩ := Settings.prepareLogs_spec hready
  have keeps' : ready.Keeps request.files :=
    Settings.keeps_record settings (Backend.loadNote program spec) ready
  exact ⟨keeps.trans keeps', Files.isDirectory_keeps keeps' houtput,
    Files.isDirectory_keeps keeps' hmessage⟩

theorem session_play (notes : List Record) : (c.play settings program notes loaded).session
    = some ((c.begin settings program notes loaded).run (hostOf settings loaded) c.keys) := by
  unfold play
  dsimp only
  split <;> rfl

theorem printing?_lastWords {code : Nat} (hcode : code = exitOk ∨ code = exitFatal)
    (message : String) : ∃ on, (code = exitOk ∧ on = .output ∨ code = exitFatal ∧ on = .errors)
      ∧ (lastWords code message).filterMap Writing.printing?
        = if message = "" then [] else [(on, { text := message })] := by
  unfold lastWords
  simp only [String.isEmpty_iff]
  rcases hcode with rfl | rfl
  · rw [if_pos (rfl : exitOk = exitOk)]
    exact ⟨.output, .inl ⟨rfl, rfl⟩, by split_ifs <;> rfl⟩
  · rw [if_neg (by decide : exitFatal ≠ exitOk)]
    exact ⟨.errors, .inr ⟨rfl, rfl⟩, by split_ifs <;> rfl⟩

theorem play_spec {code : Nat} (h : (c.finishOf settings program spec loaded).code = .ok code) :
    (c.play settings program [Backend.loadNote program spec] loaded).Played [] settings
      (c.finishOf settings program spec loaded) code := by
  have hcode := Session.code_run_cases h
  generalize hfinish : c.finishOf settings program spec loaded = finish at h ⊢
  have hplay : c.play settings program [Backend.loadNote program spec] loaded
      = { ending := .done code
          files := loaded.files finish.session.world
          session := some finish
          written := settings.complaints finish.session.notes
            ++ lastWords code finish.session.board.exitMessage } := by
    unfold finishOf at hfinish
    unfold play
    simp only [hfinish, h]
  rw [hplay]
  refine ⟨rfl, h, rfl, rfl, ?_⟩
  rw [Outcome.printings, List.filterMap_append, Outcome.printing?_complaints, List.nil_append]
  exact printing?_lastWords hcode _

theorem failed_failLoad (settings : Settings) {e : LoadError} (report : LoadReport σ)
    (he : e.isReported = true) : (failLoad settings e report).Failed [] := by
  unfold failLoad
  rw [if_pos he]
  exact ⟨rfl, rfl, _, _, rfl⟩

/-- Loading asks no back end and fails, or asks the one that the setting leads to. -/
theorem load_cases (hnot : ¬ Backend.Breaks settings.backend)
    (hforeseen : ∀ spec backend, settings.backend = .str spec →
      c.registry.resolve spec = .ok backend →
      ∀ request message, backend request ≠ .error (.broken message)) :
    let outcome := c.load settings program files
    (outcome.Failed [] ∧ outcome.requests = []
        ∧ ∀ spec backend, settings.backend = .str spec → c.registry.resolve spec ≠ .ok backend)
      ∨ ∃ spec backend, settings.backend = .str spec ∧ c.registry.resolve spec = .ok backend
        ∧ outcome.requests = [asked settings program files spec]
        ∧ ((∃ e, backend (asked settings program files spec) = .error e ∧ outcome.Failed [])
          ∨ ∃ loaded, backend (asked settings program files spec) = .ok loaded
            ∧ outcome.session = some (c.finishOf settings program spec loaded)
            ∧ ∀ code, (c.finishOf settings program spec loaded).code = .ok code →
              outcome.Played [] settings (c.finishOf settings program spec loaded) code) := by
  have hcases := Backend.load_cases c.registry settings.record settings.backend
    { program, outputLog := settings.outputLog, messageLog := settings.messageLog, files }
  unfold load
  rcases hcases with ⟨e, hsetting, hrequests, hresult⟩ |
    ⟨spec, backend, hspec, hresolve, hrequests, hresult⟩
  · have hreported := (Backend.missed_escapes_iff hsetting).not.mpr hnot
    rw [Bool.not_eq_false] at hreported
    obtain ⟨hending, hsession, hwritten⟩ := failed_failLoad settings _ hreported
    simp only [hresult, hrequests]
    refine .inl ⟨⟨hending, hsession, hwritten⟩, trivial, ?_⟩
    intro spec backend hspec hresolve
    rw [hspec] at hsetting
    cases hsetting.symm.trans hresolve
  · refine .inr ⟨spec, backend, hspec, hresolve, hrequests, ?_⟩
    have hnotes := Backend.notes_load settings.record
      { program, outputLog := settings.outputLog, messageLog := settings.messageLog, files }
      hresolve
    rw [← hspec] at hnotes
    -- Only what is asked, noted and answered matters from here on.
    generalize Backend.load c.registry settings.record settings.backend _ = report
      at hresult hnotes ⊢
    rw [asked]
    cases hanswer : backend (Backend.asked settings.record spec _) with
    | error e =>
      rw [hanswer] at hresult
      have hreported : (e.toLoadError program).isReported = true := by
        cases e with
        | broken message => exact absurd hanswer (hforeseen spec backend hspec hresolve _ message)
        | _ => rfl
      obtain ⟨hending, hsession, hwritten⟩ := failed_failLoad settings report hreported
      simp only [hresult, Except.mapError]
      exact .inl ⟨e, rfl, ⟨hending, hsession, hwritten⟩⟩
    | ok loaded =>
      rw [hanswer] at hresult
      simp only [hresult, Except.mapError, hnotes]
      refine .inr ⟨loaded, rfl, session_play _, fun code hcode => ?_⟩
      obtain ⟨hsession, hfinished, hending, hwritten, hprinted⟩ := play_spec hcode
      exact ⟨hsession, hfinished, hending, hwritten, hprinted⟩

/-- The checks break down on a path at which what stands is concealed, or the run fails at one of
them, or it goes on to load the program. -/
theorem check_cases (c : Command σ) (program : Path)
    (hready : settings.prepareLogs files = .ok () ready) :
    let outcome := c.check settings program files
    (files.Conceals program
        ∧ ∃ e, outcome = { ending := .escaped (.files ⟨e, program.text⟩), files })
      ∨ ¬ files.Conceals program
        ∧ (((∃ p, outcome = fail p files)
            ∧ ¬ (files.isFile program = .ok true ∧ c.isTerminal = true))
          ∨ files.isFile program = .ok true ∧ c.isTerminal = true
            ∧ outcome = c.load settings program ready) := by
  unfold check
  rcases files.isFile_cases program with ⟨hconceals, e, hfile⟩ | ⟨hnot, found, hfile⟩
  · exact .inl ⟨hconceals, e, by rw [hfile]⟩
  · refine .inr ⟨hnot, ?_⟩
    cases found with
    | false => exact .inl ⟨⟨_, by rw [hfile]⟩, by simp [hfile]⟩
    | true =>
      rw [hfile]
      cases hterminal : c.isTerminal with
      | false => exact .inl ⟨⟨_, rfl⟩, by simp⟩
      | true => exact .inr ⟨rfl, rfl, by rw [hready]; rfl⟩

/-- A run breaks down on a path at which what stands is concealed, or fails without asking a back
end, or asks the one that its setting leads to. -/
theorem outcome_cases (c : Command σ) (program : Path)
    (hready : settings.prepareLogs files = .ok () ready)
    (hnot : ¬ Backend.Breaks settings.backend)
    (hforeseen : ∀ spec backend, settings.backend = .str spec →
      c.registry.resolve spec = .ok backend →
      ∀ request message, backend request ≠ .error (.broken message)) :
    let outcome := c.check settings program files
    (files.Conceals program
        ∧ ∃ e, outcome = { ending := .escaped (.files ⟨e, program.text⟩), files })
      ∨ (¬ files.Conceals program ∧ outcome.Failed [] ∧ outcome.requests = []
        ∧ ∀ spec backend, ¬ c.Asks settings program files spec backend)
      ∨ ∃ spec backend, c.Asks settings program files spec backend
        ∧ outcome.requests = [asked settings program ready spec]
        ∧ ((∃ e, backend (asked settings program ready spec) = .error e ∧ outcome.Failed [])
          ∨ ∃ loaded, backend (asked settings program ready spec) = .ok loaded
            ∧ outcome.session = some (c.finishOf settings program spec loaded)
            ∧ ∀ code, (c.finishOf settings program spec loaded).code = .ok code →
              outcome.Played [] settings (c.finishOf settings program spec loaded) code) := by
  intro outcome
  rcases check_cases c program hready with hconceals |
    ⟨hnot', ⟨⟨p, hcheck⟩, hmissed⟩ | ⟨hfile, hterminal, hcheck⟩⟩
  · exact .inl hconceals
  · refine .inr (.inl ⟨hnot', ?_, ?_, fun spec backend hasks =>
      hmissed ⟨hasks.isFile, hasks.isTerminal⟩⟩)
    · rw [show outcome = _ from hcheck]
      exact ⟨rfl, rfl, [], p, rfl⟩
    · rw [show outcome = _ from hcheck]
      rfl
  · rw [show outcome = _ from hcheck]
    rcases load_cases hnot hforeseen with
      ⟨hfailed, hrequests, hnone⟩ | ⟨spec, backend, hspec, hresolve, hrest⟩
    · exact .inr (.inl ⟨hnot', hfailed, hrequests, fun spec backend hasks =>
        hnone spec backend hasks.setting hasks.resolved⟩)
    · exact .inr (.inr ⟨spec, backend, ⟨hfile, hterminal, hspec, hresolve⟩, hrest⟩)

theorem run_eq_check {name : String} (hargs : Arguments.read c.arguments = .ok (.run name))
    (hsettings : (Settings.resolve c.around none none).2 = .ok settings)
    (hlog : settings.logFile.prepare c.around.files = .ok () files) :
    c.run = afterNotes (Settings.resolve c.around none none).1
      (c.check settings (Path.ofString name) files) := by
  simp only [run, hargs, hsettings, configure, hlog]

/-- Once the settings are resolved and the log files have their places, a run ends with a code
unless what stands at the path of the program is concealed. It asks one back end at most, after all
checks have passed and where the log files have their directories. Without a loaded program it fails
before any session; with one it comes to what the session comes to. -/
theorem has_outcome_iff {c : Command σ} {name : String} {settings : Settings} {files ready : Files}
    (hargs : Arguments.read c.arguments = .ok (.run name))
    (hsettings : (Settings.resolve c.around none none).2 = .ok settings)
    (hlog : settings.logFile.prepare c.around.files = .ok () files)
    (hready : settings.prepareLogs files = .ok () ready)
    (hbackend : settings.backend = .null ∨ ∃ spec : LooseText,
      settings.backend = .str spec ∧ ∀ rest : LooseText, spec ≠ "." ++ rest)
    (hforeseen : ∀ spec backend, settings.backend = .str spec →
      c.registry.resolve spec = .ok backend →
      ∀ request message, backend request ≠ .error (.broken message))
    (hcontained : ∀ finish, c.run.session = some finish → ∃ code, finish.code = .ok code) :
    let program := Path.ofString name
    let notes := (Settings.resolve c.around none none).1
    let outcome := c.run
    ((∃ code, outcome.ending = .done code) ↔ ¬ files.Conceals program)
      ∧ ((outcome.requests = [] ∧ ∀ spec backend, ¬ c.Asks settings program files spec backend)
        ∨ ∃ spec backend, c.Asks settings program files spec backend
          ∧ outcome.requests = [asked settings program ready spec]
          ∧ (asked settings program ready spec).files.isFile program = .ok true
          ∧ (asked settings program ready spec).files.isDirectory settings.outputLog.parent = true
          ∧ (asked settings program ready spec).files.isDirectory settings.messageLog.parent = true)
      ∧ ((¬ ∃ spec backend loaded, c.Asks settings program files spec backend
            ∧ backend (asked settings program ready spec) = .ok loaded) →
          outcome.session = none ∧ (¬ files.Conceals program → outcome.Failed notes))
      ∧ ∀ spec backend loaded, c.Asks settings program files spec backend →
        backend (asked settings program ready spec) = .ok loaded →
        ∃ code, outcome.Played notes settings (c.finishOf settings program spec loaded) code := by
  intro program notes outcome
  have hrun : outcome = afterNotes notes (c.check settings program files) :=
    run_eq_check hargs hsettings hlog
  have hcases := outcome_cases c program hready (Backend.not_breaks hbackend) hforeseen
  change ∀ finish, outcome.session = some finish → _ at hcontained
  clear_value outcome
  subst hrun
  -- From here on only what the checks came to matters, and not how.
  generalize c.check settings program files = checked at hcontained hcases ⊢
  rcases hcases with ⟨hconceals, e, rfl⟩ | ⟨hnot, hfailed, hrequests, hnone⟩ |
    ⟨spec, backend, hasks, hrequests, hcame⟩
  · exact ⟨iff_of_false (fun h => nomatch h) (not_not.mpr hconceals),
      .inl ⟨rfl, fun spec backend hasks => hasks.not_conceals hconceals⟩,
      fun _ => ⟨rfl, fun hnot => absurd hconceals hnot⟩,
      fun spec backend loaded hasks => absurd hconceals hasks.not_conceals⟩
  · exact ⟨iff_of_true ⟨exitFatal, hfailed.ending⟩ hnot, .inl ⟨hrequests, hnone⟩,
      fun _ => ⟨hfailed.session, fun _ => hfailed.afterNotes notes⟩,
      fun spec backend loaded hasks => absurd hasks (hnone spec backend)⟩
  · obtain ⟨keeps, houtput, hmessage⟩ := files_asked program hready spec
    have hfile := Files.isFile_keeps keeps hasks.isFile
    refine ⟨iff_of_true ?ends hasks.not_conceals,
      .inr ⟨spec, backend, hasks, hrequests, hfile, houtput, hmessage⟩, ?fails, ?plays⟩ <;>
      rcases hcame with ⟨e, hanswer, hfailed⟩ | ⟨loaded, hanswer, hsession, hplayed⟩
    case ends.inl => exact ⟨exitFatal, hfailed.ending⟩
    case ends.inr =>
      obtain ⟨code, hcode⟩ := hcontained _ hsession
      exact ⟨code, (hplayed code hcode).ending⟩
    case fails.inl => exact fun _ => ⟨hfailed.session, fun _ => hfailed.afterNotes notes⟩
    case fails.inr => exact fun hnone => absurd ⟨spec, backend, loaded, hasks, hanswer⟩ hnone
    case plays.inl =>
      intro spec' backend' loaded' hasks' hanswer'
      obtain ⟨rfl, rfl⟩ := hasks.eq hasks'
      cases hanswer.symm.trans hanswer'
    case plays.inr =>
      intro spec' backend' loaded' hasks' hanswer'
      obtain ⟨rfl, rfl⟩ := hasks.eq hasks'
      obtain rfl := Except.ok.inj (hanswer.symm.trans hanswer')
      obtain ⟨code, hcode⟩ := hcontained _ hsession
      exact ⟨code, (hplayed code hcode).afterNotes notes⟩

end Run

end Command

namespace Scripted

def labSettings : Settings :=
  { plainSettings with backend := .str "lab.machines:make" }

def labFiles : Files where
  workingPlace := []
  entries := [(["p.s"], .file []), ([".spimdash"], .directory)]

theorem lab_not_dotted (rest : LooseText) :
    LooseText.whole "lab.machines:make" ≠ "." ++ rest := fun h => by
  have hhead := Registry.dotted_iff_head?.mp ⟨rest, h⟩
  cases hhead

theorem prepareLogs_lab :
    labSettings.prepareLogs (naming "lab.machines:make").files = .ok () labFiles := by
  have hmade : (naming "lab.machines:make").files.ensureDirectory labSettings.outputLog.parent
      = .ok labFiles := by decide +kernel
  have hthere : labFiles.ensureDirectory labSettings.messageLog.parent = .ok labFiles := by
    decide +kernel
  unfold Settings.prepareLogs
  simp only [Bind.bind, EStateM.bind, FileWork.ensureDirectories_of_ok hmade,
    FileWork.ensureDirectories_of_ok hthere]

/-- The user types a step, a key that puts the fault box away, a step and a quit key. -/
def labCommand : Command Nat :=
  { namingCommand "lab.machines:make" with typed := [115, 120, 115, 113] }

/-- The machine is made and steps until its undefined symbol stops it, which is all that is written,
among the errors. -/
theorem outcome_of_lab :
    labCommand.run.ending = .done exitFatal
      ∧ labCommand.run.requests
        = [Command.asked labSettings (Path.ofString "p.s") labFiles "lab.machines:make"]
      ∧ labCommand.run.written
        = [.printing .errors { text := "undefined symbols before executing 0x00400004:\nf" }]
      ∧ labCommand.run.printings
        = [(.errors, { text := "undefined symbols before executing 0x00400004:\nf" })] := by
  have hcode : labCommand.run.session.map (·.code) = some (.ok exitFatal) := by decide +kernel
  have hcontained : ∀ finish, labCommand.run.session = some finish →
      ∃ code, finish.code = .ok code := by
    intro finish hfinish
    rw [hfinish] at hcode
    exact ⟨exitFatal, Option.some.inj hcode⟩
  have hasks : labCommand.Asks labSettings (Path.ofString "p.s") (naming "lab.machines:make").files
      "lab.machines:make" counting :=
    ⟨by decide +kernel, rfl, rfl, by rfl⟩
  have hargs : Arguments.read labCommand.arguments = .ok (.run "p.s") := by rfl
  have hsettings : (Settings.resolve labCommand.around none none).2 = .ok labSettings := by rfl
  have hlog : labSettings.logFile.prepare labCommand.around.files
      = .ok () (naming "lab.machines:make").files := by rfl
  obtain ⟨-, hasked, -, hplays⟩ := Command.has_outcome_iff hargs hsettings hlog prepareLogs_lab
    (.inr ⟨_, rfl, lab_not_dotted⟩) (fun spec backend _ => foreseen_of_machines spec backend)
    hcontained
  obtain ⟨code, hsession, hfinished, hending, hwritten, on, hon, hprinted⟩ := hplays _ _ _ hasks rfl
  rw [hsession] at hcode
  obtain rfl : code = exitFatal := Except.ok.inj (hfinished.symm.trans (Option.some.inj hcode))
  refine ⟨hending, ?requests, hwritten.trans (by decide +kernel), ?printed⟩
  case requests =>
    rcases hasked with ⟨-, hnone⟩ | ⟨spec, backend, hasks', hrequests, -⟩
    · exact absurd hasks (hnone _ _)
    · obtain ⟨rfl, rfl⟩ := hasks.eq hasks'
      exact hrequests
  case printed =>
    rcases hon with ⟨hok, -⟩ | ⟨-, rfl⟩
    · cases hok
    · exact hprinted.trans (by decide +kernel)

/-- A name that has one byte more than a name can have. -/
def longName : String := String.ofList (List.replicate 256 'a')

theorem toList_longName : longName.toList = List.replicate 256 'a' :=
  String.toList_ofList

theorem longName_ne {s : String} (h : s.utf8ByteSize ≠ 256) : longName ≠ s := by
  rintro rfl
  exact h (by decide +kernel)

theorem ofString_longName : Path.ofString longName = { names := [LooseText.whole longName] } :=
  Path.ofString_name (by rw [toList_longName]; decide +kernel) (longName_ne (by decide))
    (longName_ne (by decide))

def longCommand : Command Nat :=
  { namingCommand "lab.machines:make" with arguments := [longName] }

/-- The name of a program may be too long, and then the run has no exit code though no file of that
name is there. -/
theorem run_escapes_of_long_name :
    Arguments.read longCommand.arguments = .ok (.run longName)
      ∧ (Settings.resolve longCommand.around none none).2 = .ok labSettings
      ∧ labSettings.logFile.prepare longCommand.around.files = .ok () longCommand.around.files
      ∧ labSettings.prepareLogs longCommand.around.files = .ok () labFiles
      ∧ (∃ spec : LooseText, labSettings.backend = .str spec
        ∧ ∀ rest : LooseText, spec ≠ "." ++ rest)
      ∧ (∀ spec backend, machines.resolve spec = .ok backend →
        ∀ request message, backend request ≠ .error (.broken message))
      ∧ longCommand.run.session = none
      ∧ longCommand.around.files.isFile (Path.ofString longName) ≠ .ok true
      ∧ longCommand.run.ending
        = .escaped (.files ⟨.tooLong, (Path.ofString longName).text⟩)
      ∧ longCommand.run.written = [] := by
  have hread : Arguments.read longCommand.arguments = .ok (.run longName) :=
    Arguments.read_positional (longName_ne (by decide)) (by rw [toList_longName]; decide +kernel)
  have hsettings : (Settings.resolve longCommand.around none none).2 = .ok labSettings := by rfl
  have hnotes : (Settings.resolve longCommand.around none none).1 = [] := by rfl
  have hlog : labSettings.logFile.prepare longCommand.around.files
      = .ok () longCommand.around.files := by rfl
  have hlong : longCommand.around.files.lookup (Path.ofString longName) = .error .tooLong := by
    rw [Files.lookup_eq_tooLong_iff rfl, ofString_longName]
    refine ⟨?_, .inr ⟨[], longName, [], [], rfl, rfl, ⟨rfl, rfl⟩, by decide +kernel⟩⟩
    simp only [Path.isImpossible, List.any_cons, List.any_nil, LooseText.isImpossible,
      toList_longName]
    decide +kernel
  have hfile : longCommand.around.files.isFile (Path.ofString longName) = .error .tooLong := by
    rw [Files.isFile, hlong]
    rfl
  have hrun : longCommand.run
      = { ending := .escaped (.files ⟨.tooLong, (Path.ofString longName).text⟩)
          files := longCommand.around.files } := by
    rw [Command.run_eq_check hread hsettings hlog, hnotes, Command.check, hfile]
    rfl
  rw [hrun, hfile]
  have hne : (.error .tooLong : Except FileError Bool) ≠ .ok true := by decide
  exact ⟨hread, hsettings, hlog, prepareLogs_lab, ⟨_, rfl, lab_not_dotted⟩, foreseen_of_machines,
    rfl, hne, rfl, rfl⟩

end Scripted

end Stepboard
