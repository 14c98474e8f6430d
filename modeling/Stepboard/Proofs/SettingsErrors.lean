import Mathlib
import Stepboard.Command
import Stepboard.Proofs.Directories
import Stepboard.Proofs.MergedSettings
/-!
# Which settings are refused

Most errors in settings are answered with the usage, but some escape. Settings are resolved in
stages, and an error escapes just if it does at a stage that is reached (`escapes_bind_iff`). So the
settings that escape are known from what each stage takes and lets escape: a base takes what stands
for ten or sixteen, a fraction being dropped, and lets what is infinite escape
(`ok_baseOf_iff`, `escapes_baseOf_iff`).
-/

namespace Stepboard

namespace Binary64

/-- The number that a sign, a mantissa and an exponent stand for. -/
def value (negative : Bool) (mantissa : Nat) (exponent : Int) : ℚ :=
  (if negative then -1 else 1) * (mantissa * 2 ^ exponent)

theorem magnitude_eq (mantissa : Nat) (exponent : Int) :
    (mantissa : ℚ) * 2 ^ exponent
      = (mantissa * 2 ^ exponent.toNat : Nat) / (2 ^ (-exponent).toNat : Nat) := by
  have hsplit : exponent = (exponent.toNat : Int) - ((-exponent).toNat : Int) := by omega
  have hpower : (2 : ℚ) ^ exponent = 2 ^ exponent.toNat / 2 ^ (-exponent).toNat := by
    conv_lhs => rw [hsplit]
    rw [zpow_sub₀ two_ne_zero, zpow_natCast, zpow_natCast]
  rw [hpower, ← mul_div_assoc]
  push_cast
  rfl

/-- The integer part of a number is a positive one just if the number is at it or above, and below
the next. -/
theorem truncate_eq_iff {negative : Bool} {mantissa : Nat} {exponent : Int} {n : Nat}
    (hn : 0 < n) : truncate negative mantissa exponent = n
      ↔ n ≤ value negative mantissa exponent ∧ value negative mantissa exponent < n + 1 := by
  have htruncate : truncate negative mantissa exponent = if negative
      then -((mantissa * 2 ^ exponent.toNat / 2 ^ (-exponent).toNat : Nat) : Int)
      else ((mantissa * 2 ^ exponent.toNat / 2 ^ (-exponent).toNat : Nat) : Int) := rfl
  have hd : 0 < 2 ^ (-exponent).toNat := Nat.two_pow_pos _
  rw [htruncate, value, magnitude_eq]
  generalize mantissa * 2 ^ exponent.toNat = m
  generalize 2 ^ (-exponent).toNat = d at hd ⊢
  have hd' : (0 : ℚ) < d := by exact_mod_cast hd
  cases negative with
  | false =>
    have hquotient : ((m / d : Nat) : Int) = n ↔ n * d ≤ m ∧ m < (n + 1) * d := by
      rw [Nat.cast_inj, Nat.div_eq_iff hd, Nat.add_mul]
      omega
    rw [if_neg Bool.false_ne_true, if_neg Bool.false_ne_true, hquotient, one_mul,
      le_div_iff₀ hd', div_lt_iff₀ hd']
    norm_cast
  | true =>
    have hquotient : (0 : ℚ) ≤ m / d := by positivity
    have hn' : (0 : ℚ) < n := by exact_mod_cast hn
    rw [if_pos rfl, if_pos rfl]
    refine iff_of_false (fun h => ?_) fun h => ?_
    · generalize m / d = q at h
      omega
    · linarith [h.1]

end Binary64

namespace Settings

/-- A value that stands for a base, or for none. -/
def NamesBase : Json.Value → Prop
  | .null => True
  | .int n => n = 10 ∨ n = 16
  | .float (.finite negative mantissa exponent) =>
    let x := Binary64.value negative mantissa exponent
    10 ≤ x ∧ x < 11 ∨ 16 ≤ x ∧ x < 17
  | .str (.whole s) =>
    Text.readInteger Json.maxDigits s = some 10 ∨ Text.readInteger Json.maxDigits s = some 16
  | _ => False

section Escapes

variable {α β : Type}

/-- Work that fails by an error which is not answered with the usage. -/
def Escapes (x : Except SettingsError α) : Prop :=
  ∃ e, x = .error e ∧ e.isUsage = false

@[simp] theorem not_escapes_ok (a : α) : ¬ Escapes (.ok a : Except SettingsError α) :=
  fun ⟨_, h, _⟩ => nomatch h

@[simp] theorem escapes_error_iff (e : SettingsError) :
    Escapes (.error e : Except SettingsError α) ↔ e.isUsage = false :=
  ⟨fun ⟨_, h, he⟩ => Except.error.inj h ▸ he, fun he => ⟨e, rfl, he⟩⟩

/-- A stage is followed by the same, whatever it came to. -/
theorem escapes_bind_iff {x : Except SettingsError α} {f : α → Except SettingsError β}
    {escapes ok rest : Prop} (hx : Escapes x ↔ escapes) (hok : (∃ a, x = .ok a) ↔ ok)
    (hf : ∀ a, Escapes (f a) ↔ rest) : Escapes (x >>= f) ↔ escapes ∨ ok ∧ rest := by
  rw [← hx, ← hok]
  rcases x with e | a
  · have hbind : (Except.error e >>= f) = .error e := rfl
    rw [hbind, escapes_error_iff, escapes_error_iff]
    simp
  · have hbind : (Except.ok a >>= f) = f a := rfl
    rw [hbind, hf a]
    simp

theorem escapes_bind_of_not {x : Except SettingsError α} {f : α → Except SettingsError β}
    {rest : Prop} (hx : ¬ Escapes x) (hf : ∀ a, Escapes (f a) ↔ rest) :
    Escapes (x >>= f) ↔ (∃ a, x = .ok a) ∧ rest :=
  (escapes_bind_iff (iff_false_intro hx) .rfl hf).trans (by simp)

theorem escapes_map {x : Except SettingsError α} {f : α → β} :
    Escapes (x.map f) ↔ Escapes x := by
  rcases x with e | a
  · exact (escapes_error_iff e).trans (escapes_error_iff e).symm
  · exact iff_of_false (not_escapes_ok _) (not_escapes_ok _)

end Escapes

section Bases

variable (key : String) {value : Json.Value}

theorem baseOf_of_error {e : SettingsError} (hne : value ≠ .null)
    (h : integerOf key value = .error e) : baseOf key value = .error e := by
  unfold baseOf
  cases value with
  | null => exact absurd rfl hne
  | _ => simp only [h]

theorem baseOf_eq_mapError {n : Int} (h : integerOf key value = .ok n) :
    baseOf key value = (Memory.Base.ofRadix (some n)).mapError fun _ =>
      .badBase key (Numeral.decimal n) := by
  unfold baseOf
  cases value with
  | null => cases h
  | _ =>
    simp only [h]
    rcases Memory.Base.ofRadix (some n) with e | b <;> rfl

theorem baseOf_of_integer {n : Int} (h : integerOf key value = .ok n) :
    (∃ b, (n = 10 ∨ n = 16) ∧ baseOf key value = .ok b)
      ∨ ¬ (n = 10 ∨ n = 16) ∧ baseOf key value = .error (.badBase key (Numeral.decimal n)) := by
  rw [baseOf_eq_mapError key h]
  unfold Memory.Base.ofRadix
  by_cases hten : n = 10
  · exact .inl ⟨.decimal, .inl hten, by simp only [if_pos hten]; rfl⟩
  · by_cases hsixteen : n = 16
    · exact .inl ⟨.hexadecimal, .inr hsixteen, by simp only [if_neg hten, if_pos hsixteen]; rfl⟩
    · exact .inr ⟨by tauto, by simp only [if_neg hten, if_neg hsixteen]; rfl⟩

theorem ok_baseOf_of_integer {n : Int} (h : integerOf key value = .ok n) :
    (∃ b, baseOf key value = .ok b) ↔ n = 10 ∨ n = 16 := by
  rcases baseOf_of_integer key h with ⟨b, hn, hb⟩ | ⟨hn, hb⟩ <;> rw [hb]
  · exact iff_of_true ⟨b, rfl⟩ hn
  · exact iff_of_false (fun ⟨_, h⟩ => nomatch h) hn

theorem ok_baseOf_of_error {e : SettingsError} (hne : value ≠ .null)
    (h : integerOf key value = .error e) : ¬ ∃ b, baseOf key value = .ok b := by
  rw [baseOf_of_error key hne h]
  exact fun ⟨_, h⟩ => nomatch h

theorem not_escapes_of_integer {n : Int} (h : integerOf key value = .ok n) :
    ¬ Escapes (baseOf key value) := by
  rcases baseOf_of_integer key h with ⟨b, -, hb⟩ | ⟨-, hb⟩ <;> rw [hb]
  · exact not_escapes_ok b
  · simp [SettingsError.isUsage]

theorem ok_baseOf_iff (value : Json.Value) :
    (∃ b, baseOf key value = .ok b) ↔ NamesBase value := by
  cases value with
  | null => exact iff_of_true ⟨_, rfl⟩ trivial
  | bool b =>
    refine (ok_baseOf_of_integer key rfl).trans (iff_of_false ?_ not_false)
    cases b <;> decide
  | int n => exact ok_baseOf_of_integer key rfl
  | float x =>
    cases x with
    | nan | infinite _ => exact iff_of_false (ok_baseOf_of_error key nofun rfl) not_false
    | finite negative mantissa exponent =>
      refine (ok_baseOf_of_integer key rfl).trans ?_
      have hten := @Binary64.truncate_eq_iff negative mantissa exponent 10 (by omega)
      have hsixteen := @Binary64.truncate_eq_iff negative mantissa exponent 16 (by omega)
      norm_num at hten hsixteen
      rw [hten, hsixteen]
      rfl
  | str t =>
    cases t with
    | torn _ _ _ => exact iff_of_false (ok_baseOf_of_error key nofun rfl) not_false
    | whole s =>
      rcases hs : Text.readInteger Json.maxDigits s with _ | n
      · have hread : integerOf key (.str s)
            = .error (.badBase key (Json.Value.str s).describe) := by
          simp only [integerOf, hs]
        exact iff_of_false (ok_baseOf_of_error key nofun hread) (by simp [NamesBase, hs])
      · have hread : integerOf key (.str s) = .ok n := by simp only [integerOf, hs]
        exact (ok_baseOf_of_integer key hread).trans (by simp [NamesBase, hs])
  | arr _ | obj _ => exact iff_of_false (ok_baseOf_of_error key nofun rfl) not_false

theorem not_escapes_of_badBase {text : String} (hne : value ≠ .null)
    (h : integerOf key value = .error (.badBase key text)) : ¬ Escapes (baseOf key value) := by
  rw [baseOf_of_error key hne h, escapes_error_iff]
  exact Bool.true_eq_false_eq_False

theorem escapes_baseOf_iff (value : Json.Value) :
    Escapes (baseOf key value) ↔ ∃ negative, value = .float (.infinite negative) := by
  cases value with
  | null => exact iff_of_false (not_escapes_ok _) (by simp)
  | bool _ | int _ => exact iff_of_false (not_escapes_of_integer key rfl) (by simp)
  | float x =>
    cases x with
    | nan => exact iff_of_false (not_escapes_of_badBase key nofun rfl) (by simp)
    | infinite negative =>
      have hbase : baseOf key (.float (.infinite negative)) = .error .infiniteBase := rfl
      rw [hbase, escapes_error_iff]
      exact iff_of_true rfl ⟨negative, rfl⟩
    | finite _ _ _ => exact iff_of_false (not_escapes_of_integer key rfl) (by simp)
  | str t =>
    refine iff_of_false ?_ (by simp)
    cases t with
    | torn _ _ _ => exact not_escapes_of_badBase key nofun rfl
    | whole s =>
      rcases hs : Text.readInteger Json.maxDigits s with _ | n
      · exact not_escapes_of_badBase key nofun (by simp only [integerOf, hs]; rfl)
      · exact not_escapes_of_integer key (by simp only [integerOf, hs]; rfl)
  | arr _ | obj _ => exact iff_of_false (not_escapes_of_badBase key nofun rfl) (by simp)

end Bases

theorem not_escapes_levelOf (value : Json.Value) : ¬ Escapes (levelOf value) := by
  unfold levelOf
  dsimp only
  rcases Level.all.find? _ with _ | level
  · simp [SettingsError.isUsage]
  · exact not_escapes_ok level

section Paths

variable (around : Surroundings)

/-- A path that begins at the home directory of a user who has none that can be used. -/
def Homeless (p : Path) : Prop :=
  p.isAbsolute = false ∧ ∃ name names, p.names = name :: names ∧ startsAtHome name = true
    ∧ name.tail.isImpossible = false
    ∧ ∀ home, homeDirectory around name = some home → startsAtHome home = true

/-- A value that is no text, or a homeless path. -/
def NoPath : Json.Value → Prop
  | .str t => Homeless around (Path.ofText t)
  | _ => True

/-- A value that is a path, and can be looked up. -/
def PathGiven (value : Json.Value) : Prop :=
  ∃ t p, value = .str t ∧ expandHome around (Path.ofText t) = .ok p

/-- The state directory is asked for where no variable tells it and the working directory was
removed. -/
def Adrift (env : Environment) : Prop :=
  env.nonEmpty? stateVariable = none ∧ around.files.workingRemoved = true

theorem escapes_expandHome_iff (p : Path) :
    Escapes (expandHome around p) ↔ Homeless around p := by
  unfold expandHome Homeless
  rcases p.names with _ | ⟨name, names⟩
  · exact iff_of_false (not_escapes_ok p) (by simp)
  · simp only [List.cons.injEq]
    split_ifs with hplain himpossible
    · refine iff_of_false (not_escapes_ok p) ?_
      rintro ⟨habsolute, _, _, ⟨rfl, rfl⟩, hhome, -⟩
      simp [habsolute, hhome] at hplain
    · refine iff_of_false ?_ ?_
      · simp [SettingsError.isUsage]
      · rintro ⟨-, _, _, ⟨rfl, rfl⟩, -, hpossible, -⟩
        cases hpossible.symm.trans himpossible
    · simp only [Bool.or_eq_true, Bool.not_eq_true', not_or, Bool.not_eq_true,
        Bool.not_eq_false] at hplain
      simp only [Bool.not_eq_true] at himpossible
      rcases hhome : homeDirectory around name with _ | home
      · rw [escapes_error_iff]
        exact iff_of_true rfl
          ⟨hplain.1, name, names, ⟨rfl, rfl⟩, hplain.2, himpossible, by simp [hhome]⟩
      · dsimp only
        split_ifs with htilde
        · rw [escapes_error_iff]
          refine iff_of_true rfl
            ⟨hplain.1, name, names, ⟨rfl, rfl⟩, hplain.2, himpossible, fun home' h => ?_⟩
          rwa [← Option.some.inj (hhome.symm.trans h)]
        · refine iff_of_false (not_escapes_ok _) ?_
          rintro ⟨-, _, _, ⟨rfl, rfl⟩, -, -, hall⟩
          exact htilde (hall home hhome)

theorem stateDirectoryOf_cases (env : Environment) :
    (Adrift around env ∧ stateDirectoryOf around env = .error .adrift)
      ∨ ¬ Adrift around env ∧ ∃ p, stateDirectoryOf around env = .ok p := by
  unfold Adrift stateDirectoryOf processStateDirectory Files.workingDirectory?
  rcases env.nonEmpty? stateVariable with _ | t
  · cases around.files.workingRemoved with
    | true => exact .inl ⟨⟨rfl, rfl⟩, rfl⟩
    | false =>
      refine .inr ⟨by simp, ?_⟩
      rcases around.environ.lookup stateVariable with _ | t <;> exact ⟨_, rfl⟩
  · exact .inr ⟨by simp, _, rfl⟩

theorem escapes_stateDirectoryOf_iff (env : Environment) :
    Escapes (stateDirectoryOf around env) ↔ Adrift around env := by
  rcases stateDirectoryOf_cases around env with ⟨hadrift, h⟩ | ⟨hnot, p, h⟩ <;> rw [h]
  · exact iff_of_true ((escapes_error_iff _).mpr rfl) hadrift
  · exact iff_of_false (not_escapes_ok p) hnot

theorem ok_stateDirectoryOf_iff (env : Environment) :
    (∃ p, stateDirectoryOf around env = .ok p) ↔ ¬ Adrift around env := by
  rcases stateDirectoryOf_cases around env with ⟨hadrift, h⟩ | ⟨hnot, p, h⟩ <;> rw [h]
  · exact iff_of_false (fun ⟨_, h⟩ => nomatch h) (not_not.mpr hadrift)
  · exact iff_of_true ⟨p, rfl⟩ hnot

variable (state : Path) (value : Json.Value)

theorem escapes_logPath_iff : Escapes (logPath around state value) ↔ NoPath around value := by
  cases value with
  | str t => exact escapes_map.trans (escapes_expandHome_iff around _)
  | _ => exact iff_of_true ((escapes_error_iff _).2 rfl) trivial

theorem escapes_targetOf_iff :
    Escapes (targetOf around state value) ↔ value.isTrue = true ∧ NoPath around value := by
  unfold targetOf
  rcases value.isTrue with _ | _
  · exact iff_of_false (not_escapes_ok _) (by simp)
  · simp only [if_true, true_and]
    exact escapes_map.trans (escapes_logPath_iff around state value)

end Paths

/-- Members of a settings file by which the resolution fails with an error that is not answered with
the usage, told in the order in which they are looked at. -/
def Unforeseen (around : Surroundings) (env : Environment) (members : Members) : Prop :=
  let dataBase := valueOf members "data_base"
  let stackBase := valueOf members "stack_base"
  let output := valueOf members "output_log"
  let messages := valueOf members "message_log"
  let log := valueOf members "log_file"
  (∃ negative, dataBase = .float (.infinite negative)) ∨ NamesBase dataBase ∧
  ((∃ negative, stackBase = .float (.infinite negative)) ∨ NamesBase stackBase ∧
  (∃ level, levelOf (valueOf members "log_level") = .ok level) ∧
  output.isTrue = true ∧ messages.isTrue = true ∧
  (Adrift around env ∨
  NoPath around output ∨ PathGiven around output ∧
  (NoPath around messages ∨ PathGiven around messages ∧
  log.isTrue = true ∧ NoPath around log)))

theorem escapes_required_bind_iff {α : Type} {members : Members} {key : String}
    {f : Json.Value → Except SettingsError α} {rest : Prop}
    (hf : Escapes (f (valueOf members key)) ↔ rest) : Escapes (required members key >>= f)
      ↔ (valueOf members key).isTrue = true ∧ rest := by
  unfold required
  dsimp only
  rcases h : (valueOf members key).isTrue with _ | _
  · exact iff_of_false (by simp [Bind.bind, Except.bind, SettingsError.isUsage])
      (by simp)
  · simp only [if_true, true_and]
    exact hf

theorem ok_logPath_iff {around : Surroundings} {state : Path} {value : Json.Value} :
    (∃ p, logPath around state value = .ok p) ↔ PathGiven around value := by
  cases value with
  | str t =>
    unfold logPath PathGiven
    rcases h : expandHome around (Path.ofText t) with e | p
    · simp [h, Except.map]
    · simp [h, Except.map]
  | _ => simp [logPath, PathGiven]

theorem or_not_and_iff {p q : Prop} : p ∨ ¬ p ∧ q ↔ p ∨ q := by
  tauto

theorem escapes_ofMembers_iff (around : Surroundings) (env : Environment) (members : Members) :
    Escapes (ofMembers around env members) ↔ Unforeseen around env members := by
  unfold ofMembers Unforeseen
  refine escapes_bind_iff (escapes_baseOf_iff _ _) (ok_baseOf_iff _ _) fun _ => ?_
  refine escapes_bind_iff (escapes_baseOf_iff _ _) (ok_baseOf_iff _ _) fun _ => ?_
  refine escapes_bind_of_not (not_escapes_levelOf _) fun _ => ?_
  refine escapes_required_bind_iff (escapes_required_bind_iff ?_)
  refine (escapes_bind_iff (escapes_stateDirectoryOf_iff _ _) (ok_stateDirectoryOf_iff _ _)
    fun _ => ?_).trans or_not_and_iff
  refine escapes_bind_iff (escapes_logPath_iff _ _ _) ok_logPath_iff fun _ => ?_
  refine escapes_bind_iff (escapes_logPath_iff _ _ _) ok_logPath_iff fun _ => ?_
  refine (escapes_bind_iff (escapes_targetOf_iff _ _ _) .rfl fun _ =>
    iff_false_intro (not_escapes_ok _)).trans ?_
  simp

section File

variable (files : Files) (nesting : Nat)

/-- A settings file that cannot be read by its path, though nothing tells that it is not there, or
whose text lies too deep in brackets. -/
def Unreadable (path : LooseText) : Prop :=
  let p := Path.ofText path
  files.Conceals p ∨ files.lookup p = .ok .directory
    ∨ (∃ bytes e, files.lookup p = .ok (.file bytes) ∧ files.refusalAt? p .read = some e)
    ∨ ∃ bytes chars container, files.readBytes p = .ok bytes
      ∧ Utf8.decodeStrict bytes = .ok chars
      ∧ Json.read nesting (Text.unixNewlines chars) = .error (.tooDeep container)

theorem escapes_readMembers_iff (path : LooseText) :
    Escapes (readMembers files nesting path) ↔ Unreadable files nesting path := by
  unfold readMembers Unreadable Files.Conceals Files.hasEntry Files.readBytes
  dsimp only
  rcases files.lookup (Path.ofText path) with e | entry
  · cases h : e.isAbsence <;> simp [h, SettingsError.isUsage]
  · dsimp only
    rcases files.refusalAt? (Path.ofText path) .read with _ | e
    · cases entry with
      | directory => simp [SettingsError.isUsage]
      | file bytes =>
        dsimp only
        rcases hchars : Utf8.decodeStrict bytes with e | chars
        · simp [SettingsError.isUsage, hchars]
        · rcases hjson : Json.read nesting (Text.unixNewlines chars) with e | value
          · cases e <;> simp [SettingsError.isUsage, hchars, hjson]
          · cases value <;> simp [SettingsError.isUsage, hchars, hjson]
    · cases entry <;> simp [SettingsError.isUsage]

end File

section Resolve

variable (around : Surroundings) (path : Option LooseText) (environ : Option Environment)

theorem resolve_cases {env : Environment} (henv : env = environ.getD around.environ) :
    (∃ e, loadMembers around.files around.nesting (fileAsked path env) = .error e
        ∧ (resolve around path environ).2 = .error e)
      ∨ ∃ members, loadMembers around.files around.nesting (fileAsked path env) = .ok members
        ∧ (resolve around path environ).2 = ofMembers around env members := by
  subst henv
  unfold resolve
  dsimp only
  rcases loadMembers around.files around.nesting _ with e | members
  · exact .inl ⟨e, rfl, rfl⟩
  · exact .inr ⟨members, rfl, rfl⟩

theorem resolve_of_load {env : Environment} {members : Members}
    (henv : env = environ.getD around.environ)
    (hload : loadMembers around.files around.nesting (fileAsked path env) = .ok members) :
    (resolve around path environ).2 = ofMembers around env members := by
  rcases resolve_cases around path environ henv with ⟨e, he, -⟩ | ⟨_, hm, h⟩
  · cases hload.symm.trans he
  · cases hload.symm.trans hm
    exact h

theorem escapes_resolve_iff {env : Environment} (henv : env = environ.getD around.environ) :
    Escapes (resolve around path environ).2
      ↔ (∃ p, fileAsked path env = some p ∧ Unreadable around.files around.nesting p)
        ∨ ∃ members, loadMembers around.files around.nesting (fileAsked path env) = .ok members
          ∧ Unforeseen around env members := by
  have hload : Escapes (loadMembers around.files around.nesting (fileAsked path env))
      ↔ ∃ p, fileAsked path env = some p ∧ Unreadable around.files around.nesting p := by
    rcases fileAsked path env with _ | p
    · exact iff_of_false (not_escapes_ok _) (by simp)
    · refine (escapes_readMembers_iff around.files around.nesting p).trans ?_
      simp
  rw [← hload]
  rcases resolve_cases around path environ henv with ⟨e, he, h⟩ | ⟨members, hm, h⟩ <;> rw [h]
  · rw [he, escapes_error_iff, escapes_error_iff]
    simp
  · rw [hm, escapes_ofMembers_iff]
    simp

/-- Settings that are resolved have both their bases from values that stand for one. -/
theorem namesBase_of_ok {env : Environment} (henv : env = environ.getD around.environ)
    {settings : Settings} (h : (resolve around path environ).2 = .ok settings) :
    ∃ members, loadMembers around.files around.nesting (fileAsked path env) = .ok members
      ∧ NamesBase (valueOf members "data_base") ∧ NamesBase (valueOf members "stack_base") := by
  rcases resolve_cases around path environ henv with ⟨e, -, h'⟩ | ⟨members, hm, h'⟩ <;> rw [h'] at h
  · cases h
  · refine ⟨members, hm, ?_⟩
    rw [← ok_baseOf_iff "data_base", ← ok_baseOf_iff "stack_base"]
    unfold ofMembers at h
    rcases hdata : baseOf "data_base" (valueOf members "data_base") with e | b
    · rw [hdata] at h
      cases h
    · rcases hstack : baseOf "stack_base" (valueOf members "stack_base") with e | b'
      · rw [hdata, hstack] at h
        cases h
      · exact ⟨⟨b, rfl⟩, b', rfl⟩

end Resolve

end Settings

namespace Command

variable {σ : Type}

/-- An error in the settings is answered with the usage, exit code and all, before anything is done,
unless it is one of those that escape. What was noted before is told first. -/
theorem run_of_settings_error {c : Command σ} {program : String} {e : SettingsError}
    (ha : Arguments.read c.arguments = .ok (.run program))
    (he : (Settings.resolve c.around none none).2 = .error e) :
    let outcome := if e.isUsage then c.refuse e.message
      else { ending := .escaped (.settings e), files := c.around.files }
    c.run = afterNotes (Settings.resolve c.around none none).1 outcome := by
  unfold run
  rw [ha]
  dsimp only
  rw [he]
  rfl

/-- Resolving settings fails with the usage or not at all unless the settings file cannot be read or
is read but unusable, in the ways told. It succeeds only if each base is missing in the file or
given by a value that stands for one. And just the errors that are answered with the usage end the
command with the exit code for it; the usage comes after what is told of members that are no
settings, and nothing else is written. -/
theorem settings_fail_with_usage_iff (c : Command σ) (path : Option LooseText)
    (environ : Option Environment) :
    let env := environ.getD c.around.environ
    let asked := Settings.fileAsked path env
    let resolved := (Settings.resolve c.around path environ).2
    ((∀ e, resolved = .error e → e.isUsage = true)
        ↔ ¬ ((∃ p, asked = some p ∧ Settings.Unreadable c.around.files c.around.nesting p)
          ∨ ∃ members,
            Settings.loadMembers c.around.files c.around.nesting asked = .ok members
              ∧ Settings.Unforeseen c.around env members))
      ∧ (∀ settings, resolved = .ok settings →
          ∃ members, Settings.loadMembers c.around.files c.around.nesting asked = .ok members
            ∧ ∀ key ∈ (["data_base", "stack_base"] : List LooseText), ∀ value,
              members.lookup key = some value → Settings.NamesBase value)
      ∧ ∀ program e, Arguments.read c.arguments = .ok (.run program) →
          (Settings.resolve c.around none none).2 = .error e →
          if e.isUsage then
            c.run.ending = .refused ∧ c.run.ending.code = 2
              ∧ c.run.written = notices (Settings.resolve c.around none none).1
                ++ [.text .errors (Arguments.refusal e.message)]
              ∧ c.run.files = c.around.files
          else c.run.ending = .escaped (.settings e) := by
  intro env asked resolved
  refine ⟨?_, fun settings h => ?_, fun program e ha he => ?_⟩
  · rw [← Settings.escapes_resolve_iff c.around path environ rfl]
    simp [Settings.Escapes, resolved]
  · obtain ⟨members, hm, hdata, hstack⟩ :=
      Settings.namesBase_of_ok c.around path environ rfl h
    refine ⟨members, hm, fun key hkey value hvalue => ?_⟩
    have hgiven : key ∈ Settings.defaults.map Prod.fst →
        Settings.valueOf members key = value := by
      intro hknown
      rw [Settings.valueOf_eq (Settings.nodup_of_loadMembers hm) hknown, hvalue]
      rfl
    simp only [List.mem_cons, List.not_mem_nil, or_false] at hkey
    rcases hkey with rfl | rfl
    · rwa [hgiven (by decide)] at hdata
    · rwa [hgiven (by decide)] at hstack
  · rw [run_of_settings_error ha he]
    rcases e.isUsage with _ | _
    · rfl
    · exact ⟨rfl, rfl, rfl, rfl⟩

end Command

namespace Scripted

/-- A process with a settings file. -/
def configured (text : String) : Surroundings where
  environ := [(configVariable, "cfg.json")]
  files := { workingPlace := [], entries := [(["cfg.json"], .file (Utf8.encode text.toList))] }
  nesting := 64

/-- A command that is run with a settings file. -/
def configuredCommand (text : String) : Command Unit where
  arguments := ["p.s"]
  around := configured text
  registry := []
  width := 60
  height := 22

section Configured

variable {text : String} {members : Settings.Members}
  (hchars : Utf8.decodeStrict (Utf8.encode text.toList) = .ok text.toList)
  (hplain : Text.unixNewlines text.toList = text.toList)
  (hjson : Json.read 64 text.toList = .ok (.obj members))
include hchars hplain hjson

theorem loadMembers_configured : Settings.loadMembers (configured text).files 64
    (Settings.fileAsked none (configured text).environ) = .ok members := by
  have hbytes : (configured text).files.readBytes (Path.ofText "cfg.json")
      = .ok (Utf8.encode text.toList) := rfl
  have hentry : (configured text).files.hasEntry (Path.ofText "cfg.json") = .ok true := rfl
  change Settings.readMembers (configured text).files 64 "cfg.json" = .ok members
  unfold Settings.readMembers
  simp only [hentry, hbytes, hchars, hplain, hjson]

theorem resolve_configured : Settings.resolve (configured text) none none
    = (Settings.unknownNotes members,
      Settings.ofMembers (configured text) (configured text).environ members) := by
  unfold Settings.resolve
  simp only [Option.getD_none]
  rw [show (configured text).nesting = 64 from rfl, loadMembers_configured hchars hplain hjson]

end Configured

def infiniteBase : String := "\x7b\"data_base\": Infinity\x7d"

set_option maxRecDepth 4000 in
theorem read_infiniteBase : Json.read 64 infiniteBase.toList
    = .ok (.obj [("data_base", .float (.infinite false))]) := by
  cbv

/-- An infinite base escapes from the command, and a base with a fraction is taken. -/
theorem settings_escape_of_infinite_base :
    (Settings.resolve (configured infiniteBase) none none).2 = .error .infiniteBase
      ∧ SettingsError.infiniteBase.isUsage = false
      ∧ (configuredCommand infiniteBase).run.ending = .escaped (.settings .infiniteBase)
      ∧ ∃ settings, Settings.ofMembers (configured infiniteBase) []
          [("data_base", .float (Binary64.ofDecimal false 165 (-1)))] = .ok settings
        ∧ settings.dataBase = .hexadecimal := by
  have hresolved := resolve_configured (by decide +kernel) (by decide +kernel) read_infiniteBase
  have herror : (Settings.resolve (configured infiniteBase) none none).2
      = .error .infiniteBase := by
    rw [hresolved]
    rfl
  have hread : Arguments.read (configuredCommand infiniteBase).arguments = .ok (.run "p.s") := by
    rfl
  have hrun := Command.run_of_settings_error hread herror
  exact ⟨herror, rfl, by rw [hrun]; rfl, _, rfl, rfl⟩

/-- A settings file with a member that is no setting, and a wrong base. -/
def wrongBase : String := "\x7b\"color\": 1, \"data_base\": 12\x7d"

set_option maxRecDepth 4000 in
theorem read_wrongBase : Json.read 64 wrongBase.toList
    = .ok (.obj [("color", .int 1), ("data_base", .int 12)]) := by
  cbv

/-- A wrong base is answered with the usage, after it is told that there is no such setting as the
other one. -/
theorem wrong_base_ends_with_usage :
    (Settings.resolve (configured wrongBase) none none).2 = .error (.badBase "data_base" "12")
      ∧ (configuredCommand wrongBase).run.ending.code = 2
      ∧ ∀ console : Console, console.shown .errors (configuredCommand wrongBase).run.written
        = "ignoring unknown config key 'color'\n"
          ++ Arguments.refusal "data_base must be 10, 16 or null, got 12" := by
  have hresolved := resolve_configured (by decide +kernel) (by decide +kernel) read_wrongBase
  have hbase : Settings.baseOf "data_base"
      (Settings.valueOf [("color", .int 1), ("data_base", .int 12)] "data_base")
        = .error (.badBase "data_base" "12") := by decide +kernel
  have herror : (Settings.resolve (configured wrongBase) none none).2
      = .error (.badBase "data_base" "12") := by
    rw [hresolved, Settings.ofMembers, hbase]
    rfl
  have hnotes : Command.notices (Settings.resolve (configured wrongBase) none none).1
      = [.text .errors "ignoring unknown config key 'color'\n"] := by
    rw [hresolved]
    decide +kernel
  obtain ⟨-, -, husage⟩ :=
    Command.settings_fail_with_usage_iff (configuredCommand wrongBase) none none
  obtain ⟨-, hcode, hwritten, -⟩ := husage "p.s" _ (by rfl) herror
  have haround : (configuredCommand wrongBase).around = configured wrongBase := rfl
  refine ⟨herror, hcode, fun console => ?_⟩
  rw [hwritten, haround, hnotes]
  rfl

end Scripted

end Stepboard
