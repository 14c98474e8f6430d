import Stepboard.Proofs.Related
import Stepboard.Proofs.SettingsErrors
/-!
# What settings are resolved to

A setting has its value from a variable, the settings file or the defaults (`Gives`), and what a
value stands for is told for each kind of setting apart (`StandsFor`, `PlacedAt`, `Directs`).
Settings are resolved just as these relations say together (`ofMembers_eq_ok_iff_resolved`). Only
what the members of a file are counts, and not their order (`valueOf_of_perm`), and only those that
are settings are among the names of what is resolved (`keys_entries`).
-/

namespace Stepboard

theorem Memory.Base.ofRadix_eq_ok_iff {radix : Option Int} {b : Base} :
    ofRadix radix = .ok b ↔ b.radix = radix := by
  constructor
  · intro h
    unfold ofRadix at h
    split at h
    · cases h
      rfl
    · split_ifs at h with hten hsixteen
      · cases h
        rw [hten]
        rfl
      · cases h
        rw [hsixteen]
        rfl
  · rintro rfl
    exact ofRadix_radix b

theorem Environment.nonEmpty?_eq_some_iff {env : Environment} {name : String} {t : LooseText} :
    env.nonEmpty? name = some t ↔ env.lookup name = some t ∧ t ≠ "" := by
  simp [nonEmpty?, Option.filter_eq_some_iff]

theorem Environment.nonEmpty?_eq_none_iff {env : Environment} {name : String} :
    env.nonEmpty? name = none ↔ ∀ t, env.lookup name = some t → t = "" := by
  simp [nonEmpty?, Option.filter_eq_none_iff]

namespace Settings

section Sources

variable (env : Environment) (members : Members)

/-- A variable has the back end in its place. -/
def BackendNamed : Prop :=
  ∃ t, env.lookup backendVariable = some t ∧ t ≠ ""

/-- Where a setting has its value from: the back end from its variable, if that is not empty, and
else each from the file, if it is there, or from the defaults. -/
inductive Gives : LooseText → Json.Value → Prop
  | named {t : LooseText} (ht : env.lookup backendVariable = some t) (hne : t ≠ "") :
      Gives "backend" (.str t)
  | given {key : LooseText} {value : Json.Value} (hkey : key = "backend" → ¬ BackendNamed env)
      (hmem : (key, value) ∈ members) : Gives key value
  | default {key : LooseText} {value : Json.Value} (hkey : key = "backend" → ¬ BackendNamed env)
      (hnot : key ∉ members.map Prod.fst) (hmem : (key, value) ∈ defaults) : Gives key value

variable {members} {key : LooseText} {value : Json.Value}

theorem valueOf_eq_iff (hnodup : (members.map Prod.fst).Nodup)
    (hkey : key ∈ defaults.map Prod.fst) : value = valueOf members key
      ↔ (key, value) ∈ members ∨ key ∉ members.map Prod.fst ∧ (key, value) ∈ defaults := by
  have hdefaults : (defaults.map Prod.fst).Nodup := by decide
  rw [← Keyed.lookup_eq_some_iff_mem hnodup, ← Keyed.lookup_eq_some_iff_mem hdefaults,
    ← Keyed.lookup_eq_none_iff, valueOf_eq hnodup hkey]
  cases hlookup : members.lookup key with
  | some v => simp [eq_comm]
  | none =>
    cases hdefault : defaults.lookup key with
    | some v => simp [eq_comm]
    | none => exact absurd hkey (Keyed.lookup_eq_none_iff.mp hdefault)

theorem gives_iff (hnodup : (members.map Prod.fst).Nodup) (hkey : key ∈ defaults.map Prod.fst)
    (hback : key = "backend" → ¬ BackendNamed env) :
    Gives env members key value ↔ value = valueOf members key := by
  rw [valueOf_eq_iff hnodup hkey]
  constructor
  · rintro (⟨hs, hne⟩ | ⟨-, hmem⟩ | ⟨-, hnot, hmem⟩)
    · exact absurd ⟨_, hs, hne⟩ (hback rfl)
    · exact .inl hmem
    · exact .inr ⟨hnot, hmem⟩
  · rintro (hmem | ⟨hnot, hmem⟩)
    · exact .given hback hmem
    · exact .default hback hnot hmem

theorem gives_backend_iff (hnodup : (members.map Prod.fst).Nodup) :
    Gives env members "backend" value ↔ value = backendOf env members := by
  unfold backendOf
  cases hnamed : env.nonEmpty? backendVariable with
  | none =>
    have hback : ¬ BackendNamed env := fun ⟨s, hs, hne⟩ =>
      hne (Environment.nonEmpty?_eq_none_iff.mp hnamed s hs)
    exact gives_iff env hnodup (by decide) fun _ => hback
  | some s =>
    obtain ⟨hs, hne⟩ := Environment.nonEmpty?_eq_some_iff.mp hnamed
    constructor
    · intro h
      cases h with
      | named hs' hne' => rw [Option.some.inj (hs.symm.trans hs')]
      | given hkey _ => exact absurd ⟨s, hs, hne⟩ (hkey rfl)
      | default hkey _ _ => exact absurd ⟨s, hs, hne⟩ (hkey rfl)
    · rintro rfl
      exact .named hs hne

/-- What is told of the value that a setting other than the back end has from its source is told of
its value. -/
theorem exists_gives_iff (hnodup : (members.map Prod.fst).Nodup)
    (hkey : key ∈ (defaults.map Prod.fst).tail) {p : Json.Value → Prop} :
    (∃ value, Gives env members key value ∧ p value) ↔ p (valueOf members key) := by
  have hback : key = "backend" → ¬ BackendNamed env := by
    rintro rfl
    exact absurd hkey (by decide)
  simp only [gives_iff env hnodup (List.mem_of_mem_tail hkey) hback, exists_eq_left]

end Sources

/-- A value that stands for a radix, a fraction being dropped. -/
inductive StandsFor : Json.Value → Option Int → Prop
  | null : StandsFor .null none
  | int {n : Int} (hn : n = 10 ∨ n = 16) : StandsFor (.int n) (some n)
  | float {negative : Bool} {mantissa : Nat} {exponent : Int} {n : Nat} (hn : n = 10 ∨ n = 16)
      (hlow : n ≤ Binary64.value negative mantissa exponent)
      (hhigh : Binary64.value negative mantissa exponent < n + 1) :
      StandsFor (.float (.finite negative mantissa exponent)) (some n)
  | str {s : String} {n : Int} (hn : n = 10 ∨ n = 16)
      (hs : Text.readInteger Json.maxDigits s = some n) : StandsFor (.str s) (some n)

section Bases

variable {key : String} {value : Json.Value}

theorem standsFor_some_iff {n : Int} :
    StandsFor value (some n) ↔ (n = 10 ∨ n = 16) ∧ integerOf key value = .ok n := by
  constructor
  · rintro (_ | hn | @⟨_, _, _, n, hn, hlow, hhigh⟩ | ⟨hn, hs⟩)
    · exact ⟨hn, rfl⟩
    · have htruncate := (Binary64.truncate_eq_iff (by omega)).mpr ⟨hlow, hhigh⟩
      exact ⟨by omega, congrArg Except.ok htruncate⟩
    · refine ⟨hn, ?_⟩
      simp only [integerOf, hs]
  · rintro ⟨hn, h⟩
    cases value with
    | null | arr _ | obj _ => cases h
    | bool b =>
      cases b <;> cases h <;> omega
    | int m =>
      cases h
      exact .int hn
    | float x =>
      cases x with
      | nan | infinite _ => cases h
      | finite negative mantissa exponent =>
        obtain ⟨m, rfl⟩ : ∃ m : Nat, n = m := ⟨n.toNat, by omega⟩
        have hm : m = 10 ∨ m = 16 := by omega
        obtain ⟨hlow, hhigh⟩ := (Binary64.truncate_eq_iff (by omega)).mp (Except.ok.inj h)
        exact .float hm hlow hhigh
    | str t =>
      cases t with
      | torn _ _ _ => cases h
      | whole s =>
        unfold integerOf at h
        dsimp only at h
        split at h
        case h_1 m hm =>
          cases h
          exact .str hn hm
        · cases h

theorem baseOf_eq_ok_iff_of_ne_null {b : Memory.Base} (hne : value ≠ .null) :
    baseOf key value = .ok b ↔ ∃ n, integerOf key value = .ok n ∧ b.radix = some n := by
  rcases h : integerOf key value with e | n
  · rw [baseOf_of_error key hne h]
    simp
  · simp only [baseOf_eq_mapError key h, ← Memory.Base.ofRadix_eq_ok_iff]
    rcases hradix : Memory.Base.ofRadix (some n) with e | b' <;> simp [Except.mapError, hradix]

theorem baseOf_eq_ok_iff {b : Memory.Base} :
    baseOf key value = .ok b ↔ StandsFor value b.radix := by
  by_cases hnull : value = .null
  · subst hnull
    have hbase : baseOf key .null = .ok .binary := rfl
    rw [hbase]
    constructor
    · rintro ⟨⟩
      exact .null
    · intro h
      cases b <;> first | rfl | cases h
  · rw [baseOf_eq_ok_iff_of_ne_null hnull]
    constructor
    · rintro ⟨n, hn, hradix⟩
      have hten : n = 10 ∨ n = 16 := by
        cases b <;> simp [Memory.Base.radix] at hradix <;> omega
      rw [hradix]
      exact standsFor_some_iff.mpr ⟨hten, hn⟩
    · intro hstands
      cases hradix : b.radix with
      | none =>
        rw [hradix] at hstands
        cases hstands
        exact absurd rfl hnull
      | some n =>
        rw [hradix] at hstands
        exact ⟨n, (standsFor_some_iff.mp hstands).2, rfl⟩

end Bases

/-- A text in capitals, as far as the names of levels need it. -/
def capitals (s : String) : String :=
  String.ofList (s.toList.map capital)

theorem levelOf_eq_ok_iff {value : Json.Value} {level : Level} :
    levelOf value = .ok level ↔ level.name = capitals value.asText.shown := by
  have hfind : ∀ name, Level.all.find? (·.name == name) = some level ↔ level.name = name := by
    intro name
    constructor
    · intro h
      simpa using List.find?_some h
    · rintro rfl
      cases level <;> decide
  rw [← hfind]
  unfold levelOf capitals
  dsimp only
  rcases Level.all.find? _ with _ | l <;> simp

/-- The place of a log file by its value: its path, with the home directory put in, if that is
absolute, and else the same path in the state directory. -/
def PlacedAt (around : Surroundings) (state : Path) (value : Json.Value) (p : Path) : Prop :=
  ∃ t q, value = .str t ∧ t ≠ "" ∧ expandHome around (Path.ofText t) = .ok q
    ∧ p = if q.isAbsolute then q else ⟨state.root, state.names ++ q.names⟩

/-- Where records go by the value of their setting. One that counts as false is kept. -/
def Directs (around : Surroundings) (state : Path) (value : Json.Value) : LogTarget → Prop
  | .file p => PlacedAt around state value p
  | .nowhere v => value.isTrue = false ∧ v = value

section Placed

variable {around : Surroundings} {state : Path} {value : Json.Value}

theorem placedAt_iff {p : Path} :
    PlacedAt around state value p ↔ value.isTrue = true ∧ logPath around state value = .ok p := by
  unfold PlacedAt
  cases value with
  | str t =>
    rw [Json.Value.isTrue_str_iff]
    constructor
    · rintro ⟨_, q, ⟨⟩, hne, hq, rfl⟩
      exact ⟨hne, by rw [logPath, hq]; rfl⟩
    · rintro ⟨hne, h⟩
      rcases hq : expandHome around (Path.ofText t) with e | q <;> rw [logPath, hq] at h <;>
        cases h
      exact ⟨t, q, rfl, hne, hq, rfl⟩
  | _ => simp [logPath]

theorem targetOf_eq_ok_iff {target : LogTarget} :
    targetOf around state value = .ok target ↔ Directs around state value target := by
  unfold targetOf Directs
  cases target with
  | file p =>
    dsimp only
    rw [placedAt_iff]
    rcases value.isTrue with _ | _
    · simp
    · rcases logPath around state value with e | q <;> simp [Except.map]
  | nowhere v =>
    rcases value.isTrue with _ | _
    · simp [eq_comm]
    · rcases logPath around state value with e | q <;> simp [Except.map]

end Placed

/-- Settings as they are resolved from the members of a file, an environment and what surrounds the
process. -/
@[mk_iff]
structure Resolved (around : Surroundings) (env : Environment) (members : Members) (s : Settings) :
    Prop where
  backend : Gives env members "backend" s.backend
  outputLog : ∃ value, Gives env members "output_log" value
    ∧ PlacedAt around s.stateDirectory value s.outputLog
  messageLog : ∃ value, Gives env members "message_log" value
    ∧ PlacedAt around s.stateDirectory value s.messageLog
  hexRegisters : ∃ value, Gives env members "hex_registers" value ∧ s.hexRegisters = value.isTrue
  dataBase : ∃ value, Gives env members "data_base" value ∧ StandsFor value s.dataBase.radix
  stackBase : ∃ value, Gives env members "stack_base" value ∧ StandsFor value s.stackBase.radix
  logFile : ∃ value, Gives env members "log_file" value
    ∧ Directs around s.stateDirectory value s.logFile
  logLevel : ∃ value, Gives env members "log_level" value
    ∧ s.logLevel.name = capitals value.asText.shown
  stateDirectory : stateDirectoryOf around env = .ok s.stateDirectory

section Members

variable {around : Surroundings} {env : Environment} {members : Members} {s : Settings}

theorem required_bind_eq_ok_iff {α : Type} {key : String} {f : Json.Value → Except SettingsError α}
    {a : α} : required members key >>= f = .ok a
      ↔ (valueOf members key).isTrue = true ∧ f (valueOf members key) = .ok a := by
  unfold required
  dsimp only
  rw [bind_eq_ok_iff]
  split_ifs with htrue <;> simp [htrue]

theorem ofMembers_eq_ok_iff : ofMembers around env members = .ok s
    ↔ s.backend = backendOf env members
      ∧ PlacedAt around s.stateDirectory (valueOf members "output_log") s.outputLog
      ∧ PlacedAt around s.stateDirectory (valueOf members "message_log") s.messageLog
      ∧ s.hexRegisters = (valueOf members "hex_registers").isTrue
      ∧ StandsFor (valueOf members "data_base") s.dataBase.radix
      ∧ StandsFor (valueOf members "stack_base") s.stackBase.radix
      ∧ Directs around s.stateDirectory (valueOf members "log_file") s.logFile
      ∧ s.logLevel.name = capitals (valueOf members "log_level").asText.shown
      ∧ stateDirectoryOf around env = .ok s.stateDirectory := by
  constructor
  · intro h
    obtain ⟨dataBase, hdata, h⟩ := bind_eq_ok_iff.mp h
    obtain ⟨stackBase, hstack, h⟩ := bind_eq_ok_iff.mp h
    obtain ⟨level, hlevel, h⟩ := bind_eq_ok_iff.mp h
    obtain ⟨houtput, h⟩ := required_bind_eq_ok_iff.mp h
    obtain ⟨hmessages, h⟩ := required_bind_eq_ok_iff.mp h
    obtain ⟨state, hstate, h⟩ := bind_eq_ok_iff.mp h
    obtain ⟨outputLog, houtputLog, h⟩ := bind_eq_ok_iff.mp h
    obtain ⟨messageLog, hmessageLog, h⟩ := bind_eq_ok_iff.mp h
    obtain ⟨target, htarget, h⟩ := bind_eq_ok_iff.mp h
    cases h
    exact ⟨rfl, placedAt_iff.mpr ⟨houtput, houtputLog⟩, placedAt_iff.mpr ⟨hmessages, hmessageLog⟩,
      rfl, baseOf_eq_ok_iff.mp hdata, baseOf_eq_ok_iff.mp hstack, targetOf_eq_ok_iff.mp htarget,
      levelOf_eq_ok_iff.mp hlevel, hstate⟩
  · obtain ⟨backend, outputLog, messageLog, hexRegisters, dataBase, stackBase, logFile, logLevel,
      stateDirectory⟩ := s
    rintro ⟨rfl, houtput, hmessages, rfl, hdata, hstack, htarget, hlevel, hstate⟩
    obtain ⟨houtput, houtputLog⟩ := placedAt_iff.mp houtput
    obtain ⟨hmessages, hmessageLog⟩ := placedAt_iff.mp hmessages
    refine bind_eq_ok_iff.mpr ⟨dataBase, baseOf_eq_ok_iff.mpr hdata, ?_⟩
    refine bind_eq_ok_iff.mpr ⟨stackBase, baseOf_eq_ok_iff.mpr hstack, ?_⟩
    refine bind_eq_ok_iff.mpr ⟨logLevel, levelOf_eq_ok_iff.mpr hlevel, ?_⟩
    refine required_bind_eq_ok_iff.mpr ⟨houtput, required_bind_eq_ok_iff.mpr ⟨hmessages, ?_⟩⟩
    refine bind_eq_ok_iff.mpr ⟨stateDirectory, hstate, ?_⟩
    refine bind_eq_ok_iff.mpr ⟨outputLog, houtputLog, ?_⟩
    refine bind_eq_ok_iff.mpr ⟨messageLog, hmessageLog, ?_⟩
    exact bind_eq_ok_iff.mpr ⟨logFile, targetOf_eq_ok_iff.mpr htarget, rfl⟩

theorem ofMembers_eq_ok_iff_resolved (hnodup : (members.map Prod.fst).Nodup) :
    ofMembers around env members = .ok s ↔ Resolved around env members s := by
  rw [ofMembers_eq_ok_iff, resolved_iff, gives_backend_iff env hnodup]
  simp (disch := decide) only [exists_gives_iff env hnodup]

end Members

/-- What is resolved is known from the values of the settings, the back end, the state directory and
the home directories. -/
theorem ofMembers_congr {around around' : Surroundings} {env env' : Environment}
    {members members' : Members}
    (hvalues : ∀ key ∈ defaults.map Prod.fst, valueOf members' key = valueOf members key)
    (hbackend : backendOf env' members' = backendOf env members)
    (hstate : stateDirectoryOf around' env' = stateDirectoryOf around env)
    (hhome : ∀ p, expandHome around' p = expandHome around p) :
    ofMembers around' env' members' = ofMembers around env members := by
  have hlog : ∀ state value, logPath around' state value = logPath around state value := by
    intro state value
    cases value with
    | str t => rw [logPath, logPath, hhome]
    | _ => rfl
  have htarget : ∀ state value, targetOf around' state value = targetOf around state value := by
    intro state value
    rw [targetOf, targetOf, hlog]
  unfold ofMembers required
  simp (disch := decide) only [hvalues, hbackend, hstate, hlog, htarget]

theorem valueOf_of_perm {members members' unknown : Members}
    (hnodup : (members'.map Prod.fst).Nodup) (hperm : members'.Perm (members ++ unknown))
    (hunknown : ∀ m ∈ unknown, m.1 ∉ defaults.map Prod.fst) :
    ∀ key ∈ defaults.map Prod.fst, valueOf members' key = valueOf members key := by
  intro key hkey
  have hnot : unknown.lookup key = none := by
    rw [Keyed.lookup_eq_none_iff]
    intro hmem
    obtain ⟨m, hm, rfl⟩ := List.mem_map.mp hmem
    exact hunknown m hm hkey
  have hboth : ((members ++ unknown).map Prod.fst).Nodup :=
    (hperm.map Prod.fst).nodup_iff.mp hnodup
  have hnodup' : (members.map Prod.fst).Nodup := by
    rw [List.map_append] at hboth
    exact (List.nodup_append.mp hboth).1
  rw [valueOf_eq hnodup hkey, valueOf_eq hnodup' hkey, Keyed.lookup_of_perm hperm hboth,
    List.lookup_append, hnot, Option.or_none]

/-- A setting as it is resolved. -/
inductive Entry where
  | value (v : Json.Value)
  | flag (b : Bool)
  | base (radix : Option Int)
  | level (name : String)
  | path (p : Path)

/-- What settings are made of, by their names: what became of each value, and the state
directory. -/
def madeValues (s : Settings) : List (LooseText × Entry) :=
  [("backend", .value s.backend), ("data_base", .base s.dataBase.radix),
   ("stack_base", .base s.stackBase.radix), ("hex_registers", .flag s.hexRegisters),
   ("log_level", .level s.logLevel.name), ("output_log", .path s.outputLog),
   ("message_log", .path s.messageLog),
   ("log_file", match s.logFile with | .nowhere v => .value v | .file p => .path p),
   ("state_dir", .path s.stateDirectory)]

/-- Resolved settings by name: the members of the file are merged into the defaults, and what they
are made of is put there. -/
def entries (s : Settings) (members : Members) : List (LooseText × Entry) :=
  Keyed.setAll ((merge members).map fun m => (m.1, .value m.2)) s.madeValues

section Entries

variable (s : Settings) (members : Members)

theorem keys_madeValues : s.madeValues.map Prod.fst
    = ["backend", "data_base", "stack_base", "hex_registers", "log_level", "output_log",
      "message_log", "log_file", "state_dir"] := rfl

/-- The names are those of the defaults and that of the state directory. -/
theorem keys_entries : (s.entries members).map Prod.fst
    = defaults.map Prod.fst ++ [LooseText.whole "state_dir"] := by
  have hmerged : ((merge members).map fun m => (m.1, Entry.value m.2)).map Prod.fst
      = defaults.map Prod.fst := by
    rw [← keys_merge members, List.map_map]
    rfl
  rw [entries, Keyed.keys_setAll, hmerged, keys_madeValues]
  decide

/-- Each name has what settings are made of. -/
theorem lookup_entries {key : LooseText} {entry : Entry} (h : (key, entry) ∈ s.madeValues) :
    (s.entries members).lookup key = some entry := by
  have hnodup : (s.madeValues.map Prod.fst).Nodup := by
    rw [keys_madeValues]
    decide
  rw [entries, Keyed.lookup_setAll hnodup, (Keyed.lookup_eq_some_iff_mem hnodup).mpr h]
  rfl

end Entries

/-- Settings are resolved just as told by their sources: the back end's variable if it is not empty,
else the file, else the defaults. They have the names of the defaults and of the state directory,
whatever names the file has, bases in which words can be written, and one of the levels. And neither
more members that are no settings nor another order of the members changes what comes of a file. -/
theorem settings_are_resolved (around : Surroundings) (path : Option LooseText)
    (environ : Option Environment) :
    let env := environ.getD around.environ
    let loaded := loadMembers around.files around.nesting (fileAsked path env)
    (∀ settings, (resolve around path environ).2 = .ok settings
        ↔ ∃ members, loaded = .ok members ∧ Resolved around env members settings)
      ∧ (∀ settings, (resolve around path environ).2 = .ok settings →
          (∃ members, loaded = .ok members
              ∧ (settings.entries members).map Prod.fst
                = defaults.map Prod.fst ++ [LooseText.whole "state_dir"]
              ∧ ∀ e ∈ settings.madeValues, (settings.entries members).lookup e.1 = some e.2)
            ∧ (∀ b ∈ [settings.dataBase, settings.stackBase],
              b.radix ∈ [some 10, some 16, none] ∧ Memory.Base.ofRadix b.radix = .ok b)
            ∧ settings.logLevel.name ∈ ["DEBUG", "INFO", "WARNING", "ERROR"])
      ∧ ∀ (files' : Files) (path' : Option LooseText) (members members' unknown : Members),
          files'.workingDirectory? = around.files.workingDirectory? →
          loaded = .ok members →
          loadMembers files' around.nesting (fileAsked path' env) = .ok members' →
          members'.Perm (members ++ unknown) → (∀ m ∈ unknown, m.1 ∉ defaults.map Prod.fst) →
          (resolve { around with files := files' } path' environ).2
            = (resolve around path environ).2 := by
  intro env loaded
  refine ⟨fun settings => ?_, fun settings hsettings => ⟨?_, ?_, ?_⟩, ?_⟩
  · rcases resolve_cases around path environ rfl with ⟨e, he, h⟩ | ⟨members, hm, h⟩ <;> rw [h]
    · refine iff_of_false nofun ?_
      rintro ⟨members, hm, -⟩
      cases he.symm.trans hm
    · rw [ofMembers_eq_ok_iff_resolved (nodup_of_loadMembers hm)]
      constructor
      · exact fun hresolved => ⟨members, hm, hresolved⟩
      · rintro ⟨_, hm', hresolved⟩
        cases hm.symm.trans hm'
        exact hresolved
  · rcases resolve_cases around path environ rfl with ⟨e, -, h⟩ | ⟨members, hm, -⟩
    · cases h.symm.trans hsettings
    · exact ⟨members, hm, keys_entries settings members,
        fun _ he => lookup_entries settings members he⟩
  · intro b _
    cases b <;> decide
  · cases settings.logLevel <;> decide
  · intro files' path' members members' unknown hplace hm hm' hperm hunknown
    have hvalues := valueOf_of_perm (nodup_of_loadMembers hm') hperm hunknown
    have hbackend : backendOf env members' = backendOf env members := by
      rw [backendOf, backendOf, hvalues "backend" (by decide)]
    have hstate : stateDirectoryOf { around with files := files' } env
        = stateDirectoryOf around env := by
      simp only [stateDirectoryOf, processStateDirectory, hplace]
    rw [resolve_of_load around path environ rfl hm,
      resolve_of_load { around with files := files' } path' environ rfl hm']
    exact ofMembers_congr hvalues hbackend hstate fun _ => rfl

end Settings

namespace Scripted

def orderedSettings : String := "\x7b\"output_log\": \"/a\", \"data_base\": \"10\"\x7d"

def shuffledSettings : String :=
  "\x7b\"data_base\": \"10\", \"color\": 1, \"output_log\": \"/a\"\x7d"

set_option maxRecDepth 4000 in
theorem read_orderedSettings : Json.read 64 orderedSettings.toList
    = .ok (.obj [("output_log", .str "/a"), ("data_base", .str "10")]) := by
  cbv

set_option maxRecDepth 4000 in
theorem read_shuffledSettings : Json.read 64 shuffledSettings.toList
    = .ok (.obj [("data_base", .str "10"), ("color", .int 1), ("output_log", .str "/a")]) := by
  cbv

theorem workingDirectory?_configured (text : String) :
    (configured text).files.workingDirectory? = some ⟨"/", []⟩ := rfl

/-- The same settings come of two files, one of which has another order and a member more. -/
theorem shuffled_settings_are_resolved : ∃ settings,
    (Settings.resolve (configured orderedSettings) none none).2 = .ok settings
      ∧ (Settings.resolve (configured shuffledSettings) none none).2 = .ok settings
      ∧ settings.outputLog = ⟨"/", ["a"]⟩
      ∧ settings.messageLog = ⟨"/", [".spimdash", "messages.log"]⟩
      ∧ settings.dataBase = .decimal ∧ settings.stackBase = .hexadecimal := by
  have hordered := loadMembers_configured (by decide +kernel) (by decide +kernel)
    read_orderedSettings
  have hshuffled := loadMembers_configured (by decide +kernel) (by decide +kernel)
    read_shuffledSettings
  obtain ⟨-, -, hsame⟩ := Settings.settings_are_resolved (configured orderedSettings) none none
  have hperm := List.perm_append_singleton (LooseText.whole "output_log", Json.Value.str "/a")
    [("data_base", Json.Value.str "10"), ("color", Json.Value.int 1)]
  have hplace := (workingDirectory?_configured shuffledSettings).trans
    (workingDirectory?_configured orderedSettings).symm
  have hfiles := hsame (configured shuffledSettings).files none _ _ [("color", .int 1)] hplace
    hordered hshuffled hperm (by simp [Settings.defaults])
  have hresolved := Settings.resolve_of_load (configured orderedSettings) none none rfl hordered
  exact ⟨_, hresolved.trans rfl, (hfiles.trans hresolved).trans rfl, rfl, rfl, rfl, rfl⟩

end Scripted

end Stepboard
