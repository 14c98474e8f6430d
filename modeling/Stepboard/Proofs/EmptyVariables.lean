import Stepboard.Proofs.ResolvedSettings
/-!
# Empty variables

An empty variable is taken as one that is not set, but for the one of the state directory, which is
looked up once more among those of the process, and is then taken even if it is empty. Which state
directory it is does not bear on whether settings are resolved, nor on the error if they are not
(`failsAlike_ofMembers`), so that it is seen just when they are.
-/

namespace Stepboard

namespace Environment

/-- Two environments that differ in one variable, which is empty in the first and not set in the
second. -/
structure Empties (name : String) (empty unset : Environment) : Prop where
  isEmpty : empty.lookup name = some ""
  isUnset : unset.lookup name = none
  others : ∀ other, other ≠ name → empty.lookup other = unset.lookup other

theorem Empties.nonEmpty?_eq {name : String} {empty unset : Environment}
    (h : Empties name empty unset) (other : String) :
    empty.nonEmpty? other = unset.nonEmpty? other := by
  unfold nonEmpty?
  by_cases hother : other = name
  · rw [hother, h.isEmpty, h.isUnset]
    rfl
  · rw [h.others other hother]

end Environment

namespace Settings

section FailsAlike

variable {ε α α' β β' : Type}

/-- Failing by the same errors. -/
def FailsAlike (x : Except ε α) (y : Except ε β) : Prop :=
  ∀ e, x = .error e ↔ y = .error e

theorem FailsAlike.refl (x : Except ε α) : FailsAlike x x :=
  fun _ => .rfl

theorem FailsAlike.ok (a : α) (b : β) : FailsAlike (.ok a : Except ε α) (.ok b) :=
  fun _ => iff_of_false nofun nofun

theorem map_eq_error_iff {x : Except ε α} {f : α → α'} {e : ε} :
    x.map f = .error e ↔ x = .error e := by
  rcases x with e' | a <;> simp [Except.map]

theorem FailsAlike.map {x : Except ε α} {y : Except ε β} (h : FailsAlike x y) (f : α → α')
    (g : β → β') : FailsAlike (x.map f) (y.map g) := by
  intro e
  rw [map_eq_error_iff, map_eq_error_iff]
  exact h e

theorem FailsAlike.bind {x : Except ε α} {y : Except ε β} {f : α → Except ε α'}
    {g : β → Except ε β'} (h : FailsAlike x y)
    (hf : ∀ a b, x = .ok a → y = .ok b → FailsAlike (f a) (g b)) :
    FailsAlike (x >>= f) (y >>= g) := by
  rcases x with e | a
  · rw [(h e).mp rfl]
    intro e'
    constructor <;>
      rintro ⟨⟩ <;> rfl
  · rcases y with e | b
    · cases (h e).mpr rfl
    · exact hf a b rfl rfl

/-- What follows the same fails alike if it does so for whatever came of that. -/
theorem FailsAlike.bind_same {x : Except ε α} {f : α → Except ε α'} {g : α → Except ε β'}
    (hf : ∀ a, FailsAlike (f a) (g a)) : FailsAlike (x >>= f) (x >>= g) := by
  refine (refl x).bind fun a b ha hb => ?_
  cases ha.symm.trans hb
  exact hf a

end FailsAlike

section State

variable {around around' : Surroundings}
  (hhome : ∀ p, expandHome around' p = expandHome around p)
include hhome

theorem failsAlike_logPath (state state' : Path) (value : Json.Value) :
    FailsAlike (logPath around' state' value) (logPath around state value) := by
  cases value with
  | str s =>
    unfold logPath
    dsimp only
    rw [hhome]
    exact (FailsAlike.refl _).map _ _
  | _ => exact .refl _

theorem failsAlike_targetOf (state state' : Path) (value : Json.Value) :
    FailsAlike (targetOf around' state' value) (targetOf around state value) := by
  unfold targetOf
  split_ifs
  · exact (failsAlike_logPath hhome state state' value).map _ _
  · exact .ok _ _

theorem failsAlike_ofMembers {env env' : Environment}
    (hstate : FailsAlike (stateDirectoryOf around' env') (stateDirectoryOf around env))
    (members : Members) :
    FailsAlike (ofMembers around' env' members) (ofMembers around env members) := by
  unfold ofMembers
  refine .bind_same fun dataBase => .bind_same fun stackBase => .bind_same fun level => ?_
  refine .bind_same fun output => .bind_same fun messages => hstate.bind fun _ _ _ _ => ?_
  refine (failsAlike_logPath hhome _ _ output).bind fun _ _ _ _ => ?_
  refine (failsAlike_logPath hhome _ _ messages).bind fun _ _ _ _ => ?_
  exact (failsAlike_targetOf hhome _ _ _).bind fun _ _ _ _ => .ok _ _

end State

section Variables

variable {name : String} {empty unset : Environment} (h : Environment.Empties name empty unset)
include h

theorem fileAsked_of_empties (path : Option LooseText) :
    fileAsked path empty = fileAsked path unset := by
  unfold fileAsked
  rw [h.nonEmpty?_eq]

theorem backendOf_of_empties (members : Members) :
    backendOf empty members = backendOf unset members := by
  unfold backendOf
  rw [h.nonEmpty?_eq]

theorem stateDirectoryOf_of_empties (around : Surroundings) :
    stateDirectoryOf around empty = stateDirectoryOf around unset := by
  unfold stateDirectoryOf
  rw [h.nonEmpty?_eq]

/-- A variable of an environment that is given is never taken if it is empty. -/
theorem resolve_of_empties (around : Surroundings) (path : Option LooseText) :
    resolve around path (some empty) = resolve around path (some unset) := by
  unfold resolve
  simp only [Option.getD_some]
  rw [fileAsked_of_empties h]
  rcases loadMembers around.files around.nesting _ with e | members
  · rfl
  · dsimp only
    rw [ofMembers_congr (fun _ _ => rfl) (backendOf_of_empties h members)
      (stateDirectoryOf_of_empties h around) fun _ => rfl]

variable (around : Surroundings)

theorem expandHome_of_empties (hhome : name ≠ "HOME") (p : Path) :
    expandHome { around with environ := empty } p
      = expandHome { around with environ := unset } p := by
  have hdirectory : ∀ user, homeDirectory { around with environ := empty } user
      = homeDirectory { around with environ := unset } user := by
    intro user
    unfold homeDirectory
    rw [h.others "HOME" hhome.symm]
  unfold expandHome
  simp only [hdirectory]

theorem ofMembers_of_empties (hhome : name ≠ "HOME") (hne : name ≠ stateVariable)
    (members : Members) : ofMembers { around with environ := empty } empty members
      = ofMembers { around with environ := unset } unset members := by
  have hstate : stateDirectoryOf { around with environ := empty } empty
      = stateDirectoryOf { around with environ := unset } unset := by
    rw [stateDirectoryOf_of_empties h]
    unfold stateDirectoryOf processStateDirectory
    rw [h.others _ hne.symm]
  exact ofMembers_congr (fun _ _ => rfl) (backendOf_of_empties h members) hstate
    (expandHome_of_empties h around hhome)

end Variables

section Process

variable {env : Environment} (around : Surroundings)

/-- Where its variable is empty or not set, the state directory is known from the working directory,
which is asked for even if its name is not needed. -/
theorem stateDirectoryOf_of_none (h : env.nonEmpty? stateVariable = none) :
    stateDirectoryOf { around with environ := env } env
      = if around.files.workingRemoved then .error .adrift
        else .ok (((env.lookup stateVariable).map Path.ofText).getD
          ⟨"/", around.files.workingPlace ++ [LooseText.whole ".spimdash"]⟩) := by
  rw [stateDirectoryOf, h]
  dsimp only
  rw [processStateDirectory, Files.workingDirectory?]
  cases around.files.workingRemoved
  · cases env.lookup stateVariable <;> rfl
  · rfl

theorem stateDirectoryOf_of_ok {env : Environment} {members : Members} {settings : Settings}
    (h : ofMembers around env members = .ok settings) :
    stateDirectoryOf around env = .ok settings.stateDirectory := by
  obtain ⟨-, -, -, -, -, -, -, -, hstate⟩ := ofMembers_eq_ok_iff.mp h
  exact hstate

theorem eq_of_ite_error_eq_ok {ε α : Type} {p : Bool} {e : ε} {a b : α}
    (h : (if p then .error e else .ok a : Except ε α) = .ok b) : b = a := by
  cases p
  · exact (Except.ok.inj h).symm
  · cases h

/-- With an empty variable of the state directory and without it settings fail alike, or are
resolved to settings with different state directories. -/
theorem ofMembers_of_empty_state {empty unset : Environment}
    (h : Environment.Empties stateVariable empty unset) (members : Members) :
    (∃ e, ofMembers { around with environ := empty } empty members = .error e
        ∧ ofMembers { around with environ := unset } unset members = .error e)
      ∨ ∃ settings' settings,
        ofMembers { around with environ := empty } empty members = .ok settings'
          ∧ ofMembers { around with environ := unset } unset members = .ok settings
          ∧ settings'.stateDirectory = ⟨"", []⟩
          ∧ settings.stateDirectory
            = ⟨"/", around.files.workingPlace ++ [LooseText.whole ".spimdash"]⟩ := by
  have hnone : unset.nonEmpty? stateVariable = none := by
    rw [Environment.nonEmpty?, h.isUnset]
    rfl
  have hempty := stateDirectoryOf_of_none around ((h.nonEmpty?_eq _).trans hnone)
  have hunset := stateDirectoryOf_of_none around hnone
  rw [h.isEmpty] at hempty
  rw [h.isUnset] at hunset
  have hstate : FailsAlike (stateDirectoryOf { around with environ := empty } empty)
      (stateDirectoryOf { around with environ := unset } unset) := by
    rw [hempty, hunset]
    split_ifs
    · exact .refl _
    · exact .ok _ _
  have hfails := failsAlike_ofMembers (expandHome_of_empties h around (by decide)) hstate members
  rcases hof : ofMembers { around with environ := unset } unset members with e | settings
  · exact .inl ⟨e, (hfails e).mpr hof, rfl⟩
  · rcases hof' : ofMembers { around with environ := empty } empty members with e | settings'
    · cases ((hfails e).mp hof').symm.trans hof
    · exact .inr ⟨settings', settings, rfl, rfl,
        eq_of_ite_error_eq_ok (hempty.symm.trans (stateDirectoryOf_of_ok _ hof')),
        eq_of_ite_error_eq_ok (hunset.symm.trans (stateDirectoryOf_of_ok _ hof))⟩

end Process

/-- An empty variable counts as one that is not set, but that of the state directory does not where
settings can be resolved: the state directory is then the working directory, and not the one in it.
In an environment that is given apart from the process it never counts. -/
theorem empty_variable_counts_as_unset_iff (around : Surroundings) (path : Option LooseText)
    (name : String) (hname : name ∈ [configVariable, backendVariable, stateVariable])
    (empty unset : Environment) (h : Environment.Empties name empty unset) :
    let ofEmpty := resolve { around with environ := empty } path none
    let ofUnset := resolve { around with environ := unset } path none
    (ofEmpty = ofUnset ↔ name ≠ stateVariable ∨ ∃ e, ofUnset.2 = .error e)
      ∧ (name = stateVariable → ∀ settings, ofUnset.2 = .ok settings →
          settings.stateDirectory
              = ⟨"/", around.files.workingPlace ++ [LooseText.whole ".spimdash"]⟩
            ∧ ∃ settings', ofEmpty.2 = .ok settings' ∧ settings'.stateDirectory = ⟨"", []⟩)
      ∧ resolve around path (some empty) = resolve around path (some unset) := by
  intro ofEmpty ofUnset
  refine and_assoc.mp ⟨?_, resolve_of_empties h around path⟩
  have hhome : name ≠ "HOME" := by
    rintro rfl
    exact absurd hname (by decide)
  have hasked := fileAsked_of_empties h path
  rcases hload : loadMembers around.files around.nesting (fileAsked path unset) with e | members
  · have hofEmpty : ofEmpty = ([], .error e) := by
      simp only [ofEmpty, resolve, Option.getD_none, hasked, hload]
    have hofUnset : ofUnset = ([], .error e) := by
      simp only [ofUnset, resolve, Option.getD_none, hload]
    rw [hofEmpty, hofUnset]
    exact ⟨iff_of_true rfl (.inr ⟨e, rfl⟩), fun _ settings hok => nomatch hok⟩
  · have hofEmpty : ofEmpty
        = (unknownNotes members, ofMembers { around with environ := empty } empty members) := by
      simp only [ofEmpty, resolve, Option.getD_none, hasked, hload]
    have hofUnset : ofUnset
        = (unknownNotes members, ofMembers { around with environ := unset } unset members) := by
      simp only [ofUnset, resolve, Option.getD_none, hload]
    rw [hofEmpty, hofUnset]
    by_cases hstate : name = stateVariable
    · subst hstate
      rcases ofMembers_of_empty_state around h members with
        ⟨e, hempty, hunset⟩ | ⟨settings', settings, hempty, hunset, hdirectory', hdirectory⟩ <;>
        rw [hempty, hunset]
      · exact ⟨iff_of_true rfl (.inr ⟨e, rfl⟩), fun _ settings hok => nomatch hok⟩
      · refine ⟨iff_of_false (fun heq => ?_) ?_, fun _ _ hok => ?_⟩
        · cases (Prod.mk.inj heq).2
          have hroot : "/" = "" := congrArg Path.root (hdirectory.symm.trans hdirectory')
          exact absurd hroot (by decide)
        · rintro (hne | ⟨e, he⟩)
          · exact hne rfl
          · cases he
        · cases hok
          exact ⟨hdirectory, settings', rfl, hdirectory'⟩
    · rw [ofMembers_of_empties h around hhome hstate]
      exact ⟨iff_of_true rfl (.inl hstate), fun heq => absurd heq hstate⟩

end Settings

namespace Scripted

/-- A process in a directory without files. -/
def unconfigured (environ : Environment) : Surroundings where
  environ
  files := { workingPlace := ["w"] }
  nesting := 64

theorem empties_nil (name : String) : Environment.Empties name [(name, "")] [] where
  isEmpty := by simp
  isUnset := rfl
  others other hother := by rw [List.lookup_cons, beq_false_of_ne hother]

/-- An empty variable of the back end is taken as one that is not set. -/
theorem empty_backend_counts_as_unset :
    backendVariable ∈ [configVariable, backendVariable, stateVariable]
      ∧ Environment.Empties backendVariable [(backendVariable, "")] []
      ∧ Settings.resolve (unconfigured [(backendVariable, "")]) none none
        = Settings.resolve (unconfigured []) none none := by
  have hmem : backendVariable ∈ [configVariable, backendVariable, stateVariable] := by decide
  obtain ⟨hsame, -, -⟩ := Settings.empty_variable_counts_as_unset_iff (unconfigured []) none
    backendVariable hmem _ _ (empties_nil backendVariable)
  exact ⟨hmem, empties_nil _, hsame.mpr (.inl (by decide))⟩

/-- An empty variable of the state directory is not: the logs are then in the working directory. -/
theorem empty_state_directory_counts :
    Environment.Empties stateVariable [(stateVariable, "")] []
      ∧ Settings.resolve (unconfigured [(stateVariable, "")]) none none
        ≠ Settings.resolve (unconfigured []) none none
      ∧ ∃ settings settings',
        (Settings.resolve (unconfigured [(stateVariable, "")]) none none).2 = .ok settings
          ∧ (Settings.resolve (unconfigured []) none none).2 = .ok settings'
          ∧ settings.stateDirectory = ⟨"", []⟩
          ∧ settings.outputLog = ⟨"", ["output.log"]⟩
          ∧ settings'.stateDirectory = ⟨"/", ["w", ".spimdash"]⟩
          ∧ settings'.outputLog = ⟨"/", ["w", ".spimdash", "output.log"]⟩ := by
  refine ⟨empties_nil _, fun h => ?_, _, _, rfl, rfl, rfl, rfl, rfl, rfl⟩
  have hdirectories : (Except.ok ⟨"", []⟩ : Except SettingsError Path)
      = .ok ⟨"/", ["w", ".spimdash"]⟩ := congrArg (·.2.map Settings.stateDirectory) h
  exact absurd (Except.ok.inj hdirectories) (by decide)

end Scripted

end Stepboard
