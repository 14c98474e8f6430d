import Mathlib.Tactic.SplitIfs
import Stepboard.Files.Tree
/-!
# Directories are made and stay

Making directories and writing to files leaves every directory a directory and every file a file
(`Files.Keeps`), so that whatever a path led to it still leads to. Once the directories of a path
are ensured, its directory is there (`FileWork.ensureDirectories_spec`). Whether a path leads to a
file can be told unless what stands there is concealed (`Files.isFile_cases`): the system refuses to
tell it, or the path is too long, as a whole or by one of its names (`Files.lookup_eq_tooLong_iff`).
-/

namespace Stepboard

namespace Files

/-- Files among which what stood somewhere before still does, though files may hold other bytes. -/
structure Keeps (fs fs' : Files) : Prop where
  workingPlace : fs'.workingPlace = fs.workingPlace
  workingRemoved : fs'.workingRemoved = fs.workingRemoved
  refusals : fs'.refusals = fs.refusals
  directory {place : Place} :
    fs.entryAt? place = some .directory → fs'.entryAt? place = some .directory
  file {place : Place} {bytes : List UInt8} :
    fs.entryAt? place = some (.file bytes) → ∃ bytes', fs'.entryAt? place = some (.file bytes')

variable {fs fs' : Files} {p : Path}

theorem Keeps.refl (fs : Files) : fs.Keeps fs :=
  ⟨rfl, rfl, rfl, id, fun h => ⟨_, h⟩⟩

theorem Keeps.trans {fs'' : Files} (h : fs.Keeps fs') (h' : fs'.Keeps fs'') : fs.Keeps fs'' where
  workingPlace := h'.workingPlace.trans h.workingPlace
  workingRemoved := h'.workingRemoved.trans h.workingRemoved
  refusals := h'.refusals.trans h.refusals
  directory hd := h'.directory (h.directory hd)
  file hf := by
    obtain ⟨_, hf'⟩ := h.file hf
    exact h'.file hf'

section Put

variable (place : Place) (entry : Entry)

theorem entryAt?_put (q : Place) :
    (fs.put place entry).entryAt? q = if q = place then some entry else fs.entryAt? q := by
  have hlookup := Keyed.lookup_set fs.entries place entry q
  have hstanding : (fs.put place entry).standing = fs.standing := rfl
  simp only [beq_iff_eq] at hlookup
  unfold entryAt?
  rw [hstanding, put, hlookup]
  split_ifs <;> rfl

end Put

theorem keeps_put {place : Place} (hnone : fs.entryAt? place = none) (entry : Entry) :
    fs.Keeps (fs.put place entry) where
  workingPlace := rfl
  workingRemoved := rfl
  refusals := rfl
  directory {q} h := by
    have hne : q ≠ place := fun hq => by simp [← hq, h] at hnone
    rw [entryAt?_put, if_neg hne, h]
  file {q bytes} h := by
    have hne : q ≠ place := fun hq => by simp [← hq, h] at hnone
    exact ⟨bytes, by rw [entryAt?_put, if_neg hne, h]⟩

theorem keeps_put_file {place : Place} {old : List UInt8}
    (hfile : fs.entryAt? place = some (.file old)) (new : List UInt8) :
    fs.Keeps (fs.put place (.file new)) where
  workingPlace := rfl
  workingRemoved := rfl
  refusals := rfl
  directory {q} h := by
    have hne : q ≠ place := fun hq => by simp [← hq, h] at hfile
    rw [entryAt?_put, if_neg hne, h]
  file {q bytes} h := by
    rw [entryAt?_put]
    split_ifs
    · exact ⟨new, rfl⟩
    · exact ⟨bytes, h⟩

theorem guarded_eq_ok_iff {α : Type} {place : Place} {access : Access}
    {work : Except FileError α} {a : α} : fs.guarded place access work = .ok a
      ↔ fs.refusal? place access = none ∧ work = .ok a := by
  unfold guarded
  rcases fs.refusal? place access with _ | e <;> simp

theorem lookup_eq_ok_iff {entry : Entry} : fs.lookup p = .ok entry
    ↔ ∃ place, fs.place p = .ok place ∧ fs.refusal? place .look = none
      ∧ fs.entryAt? place = some entry := by
  unfold lookup
  rcases fs.place p with e | place
  · simp
  · simp only [guarded_eq_ok_iff, Except.ok.injEq, exists_eq_left']
    rcases h : fs.entryAt? place with _ | found <;> simp

/-- What stands at a path cannot be told, not even that nothing does. -/
def Conceals (fs : Files) (p : Path) : Prop :=
  ∃ e, fs.lookup p = .error e ∧ e.isAbsence = false

theorem isFile_eq_true_iff : fs.isFile p = .ok true
    ↔ ∃ bytes, fs.lookup p = .ok (.file bytes) := by
  unfold isFile
  rcases fs.lookup p with e | _ | _
  · simp only [reduceCtorEq, exists_false, iff_false]
    split_ifs <;> simp
  · simp
  · simp

theorem isDirectory_iff : fs.isDirectory p = true ↔ fs.lookup p = .ok .directory := by
  unfold isDirectory
  rcases fs.lookup p with e | _ | _ <;> simp

/-- Whether something is a file can be told unless it is concealed. -/
theorem isFile_cases (fs : Files) (p : Path) :
    (fs.Conceals p ∧ ∃ e, fs.isFile p = .error e)
      ∨ ¬ fs.Conceals p ∧ ∃ b, fs.isFile p = .ok b := by
  unfold isFile Conceals
  rcases fs.lookup p with e | _ | _
  · cases h : e.isAbsence <;> simp [h]
  · simp
  · simp

/-- A file in a directory that may not be entered is concealed. -/
example : Conceals
    { workingPlace := [], entries := [(["d"], .directory), (["d", "p.s"], .file [])]
      refusals := [((["d"], .enter), .denied)] } (Path.ofString "d/p.s") :=
  ⟨.refused .denied, by rfl, rfl⟩

theorem follow_cons {place : Place} (hdir : fs.entryAt? place = some .directory)
    (henter : fs.refusal? place .enter = none) (name : LooseText) (names : List LooseText) :
    fs.follow place (name :: names) = if maxNameSize < name.byteSize then .error .tooLong
      else fs.follow (if name = ".." then place.dropLast else place ++ [name]) names := by
  simp only [follow, hdir, guarded, henter]

theorem follow_cons_of_not {place : Place} (h : ¬ (fs.entryAt? place = some .directory
    ∧ fs.refusal? place .enter = none)) (name : LooseText) (names : List LooseText) :
    ∃ e, fs.follow place (name :: names) = .error e ∧ e ≠ .tooLong := by
  unfold follow guarded
  rcases hentry : fs.entryAt? place with _ | _ | _
  · exact ⟨_, rfl, nofun⟩
  · exact ⟨_, rfl, nofun⟩
  · rcases henter : fs.refusal? place .enter with _ | e
    · exact absurd ⟨hentry, henter⟩ h
    · exact ⟨_, rfl, nofun⟩

/-- Names are too long to follow if a name has too many bytes that stands below a directory which
the names before it lead to, and which may be entered. -/
theorem follow_eq_tooLong_iff {names : List LooseText} {place : Place} :
    fs.follow place names = .error .tooLong
      ↔ ∃ before name after reached, names = before ++ name :: after
        ∧ fs.follow place before = .ok reached
        ∧ (fs.entryAt? reached = some .directory ∧ fs.refusal? reached .enter = none)
        ∧ maxNameSize < name.byteSize := by
  induction names generalizing place with
  | nil => simp [follow]
  | cons first names ih =>
    by_cases hopen : fs.entryAt? place = some .directory ∧ fs.refusal? place .enter = none
    · have hfollow := fs.follow_cons hopen.1 hopen.2
      by_cases hlong : maxNameSize < first.byteSize
      · rw [hfollow, if_pos hlong]
        exact iff_of_true rfl ⟨[], first, names, place, rfl, rfl, hopen, hlong⟩
      · rw [hfollow, if_neg hlong, ih]
        constructor
        · rintro ⟨before, name, after, reached, rfl, hreached, hrest⟩
          refine ⟨first :: before, name, after, reached, rfl, ?_, hrest⟩
          rw [hfollow, if_neg hlong, hreached]
        · rintro ⟨_ | ⟨_, before⟩, name, after, reached, hnames, hreached, hend, hsize⟩
          · exact absurd ((List.cons.inj hnames).1 ▸ hsize) hlong
          · obtain ⟨rfl, rfl⟩ := List.cons.inj hnames
            rw [hfollow, if_neg hlong] at hreached
            exact ⟨before, name, after, reached, rfl, hreached, hend, hsize⟩
    · have hstop := fs.follow_cons_of_not hopen
      refine iff_of_false (fun h => ?_) ?_
      · obtain ⟨e, he, hne⟩ := hstop first names
        exact hne (Except.error.inj (he.symm.trans h))
      · rintro ⟨_ | ⟨_, before⟩, name, after, reached, hnames, hreached, hend, hsize⟩
        · cases hreached
          exact hopen hend
        · obtain ⟨e, he, -⟩ := hstop _ before
          cases he.symm.trans hreached

/-- A path is too long if it has too many bytes, or if a name that it leads to a directory for has
too many. -/
theorem lookup_eq_tooLong_iff (hthere : fs.workingRemoved = false) :
    fs.lookup p = .error .tooLong ↔ p.isImpossible = false ∧ (maxPathSize < p.text.byteSize
      ∨ ∃ before name after reached, p.names = before ++ name :: after
        ∧ fs.follow (if p.isAbsolute then [] else fs.workingPlace) before = .ok reached
        ∧ (fs.entryAt? reached = some .directory ∧ fs.refusal? reached .enter = none)
        ∧ maxNameSize < name.byteSize) := by
  have hplace : fs.lookup p = .error .tooLong ↔ fs.place p = .error .tooLong := by
    unfold lookup guarded
    rcases fs.place p with e | place
    · simp
    · dsimp only
      rcases fs.refusal? place .look with _ | e
      · rcases fs.entryAt? place <;> simp
      · simp
  rw [hplace, ← follow_eq_tooLong_iff]
  unfold place followHere
  by_cases himpossible : p.isImpossible = true
  · simp [himpossible]
  · by_cases hsize : maxPathSize < p.text.byteSize
    · simp [himpossible, hsize]
    · cases habsolute : p.isAbsolute <;> simp [himpossible, hsize, hthere]

section Keeps

variable (keeps : fs.Keeps fs')

include keeps

theorem refusal?_keeps (place : Place) (access : Access) :
    fs'.refusal? place access = fs.refusal? place access := by
  unfold refusal?
  rw [keeps.refusals]

theorem follow_keeps : ∀ (names : List LooseText) {place found : Place},
    fs.follow place names = .ok found → fs'.follow place names = .ok found
  | [], _, _, h => h
  | name :: names, place, found, h => by
    unfold follow at h ⊢
    rcases hentry : fs.entryAt? place with _ | _ | _
    · simp only [hentry] at h
      cases h
    · simp only [hentry] at h
      cases h
    · simp only [hentry, guarded_eq_ok_iff] at h
      simp only [keeps.directory hentry, guarded_eq_ok_iff, refusal?_keeps keeps]
      refine ⟨h.1, ?_⟩
      obtain ⟨-, h⟩ := h
      split_ifs at h ⊢
      · exact follow_keeps names h
      · exact follow_keeps names h

theorem followHere_keeps {names : List LooseText} {found : Place}
    (h : fs.followHere names = .ok found) : fs'.followHere names = .ok found := by
  have hstanding : fs'.standing = fs.standing := by
    unfold standing
    rw [keeps.workingRemoved, keeps.workingPlace]
  unfold followHere at h ⊢
  rw [keeps.workingRemoved, hstanding, keeps.workingPlace]
  split_ifs at h ⊢
  · rcases names with _ | ⟨name, names⟩
    · exact h
    · dsimp only at h ⊢
      split_ifs at h ⊢
      exact follow_keeps keeps _ h
  · exact follow_keeps keeps _ h

theorem place_keeps {found : Place} (h : fs.place p = .ok found) : fs'.place p = .ok found := by
  unfold place at h ⊢
  split_ifs at h ⊢
  · exact follow_keeps keeps _ h
  · exact followHere_keeps keeps h

theorem isFile_keeps (h : fs.isFile p = .ok true) : fs'.isFile p = .ok true := by
  simp only [isFile_eq_true_iff, lookup_eq_ok_iff] at h ⊢
  obtain ⟨bytes, place, hplace, hlook, hentry⟩ := h
  obtain ⟨bytes', hentry'⟩ := keeps.file hentry
  exact ⟨bytes', place, place_keeps keeps hplace, (refusal?_keeps keeps _ _).trans hlook, hentry'⟩

theorem isDirectory_keeps (h : fs.isDirectory p = true) : fs'.isDirectory p = true := by
  rw [isDirectory_iff, lookup_eq_ok_iff] at h ⊢
  obtain ⟨place, hplace, hlook, hentry⟩ := h
  exact ⟨place, place_keeps keeps hplace, (refusal?_keeps keeps _ _).trans hlook,
    keeps.directory hentry⟩

end Keeps

theorem keeps_change {f : List UInt8 → List UInt8} (h : fs.change p f = .ok fs') :
    fs.Keeps fs' := by
  unfold change at h
  rcases hplace : fs.place p with e | place
  · rw [hplace] at h
    cases h
  · rcases hentry : fs.entryAt? place with _ | bytes | _
    · simp only [hplace, hentry, guarded_eq_ok_iff, Except.ok.injEq] at h
      exact h.2 ▸ keeps_put hentry _
    · simp only [hplace, hentry, guarded_eq_ok_iff, Except.ok.injEq] at h
      exact h.2 ▸ keeps_put_file hentry _
    · simp only [hplace, hentry] at h
      cases h

theorem makeDirectory_spec (h : fs.makeDirectory p = .ok fs') :
    fs.Keeps fs' ∧ fs'.isDirectory p = true := by
  unfold makeDirectory at h
  rcases hplace : fs.place p with e | place
  · rw [hplace] at h
    cases h
  · rcases hentry : fs.entryAt? place with _ | _
    · simp only [hplace, hentry, guarded_eq_ok_iff, Except.ok.injEq] at h
      obtain ⟨hlook, -, rfl⟩ := h
      have keeps := keeps_put hentry .directory
      refine ⟨keeps, isDirectory_iff.mpr (lookup_eq_ok_iff.mpr ⟨place, place_keeps keeps hplace,
        (refusal?_keeps keeps _ _).trans hlook, ?_⟩)⟩
      rw [entryAt?_put, if_pos rfl]
    · simp only [hplace, hentry, guarded_eq_ok_iff, reduceCtorEq, and_false] at h

theorem ensureDirectory_spec (h : fs.ensureDirectory p = .ok fs') :
    fs.Keeps fs' ∧ fs'.isDirectory p = true := by
  unfold ensureDirectory at h
  rcases hmake : fs.makeDirectory p with e | made
  · by_cases hdir : fs.isDirectory p = true
    · have hsame : fs' = fs := by
        cases e <;> simp_all
      subst hsame
      exact ⟨.refl fs', hdir⟩
    · cases e <;> simp [hmake, hdir] at h
  · rw [hmake] at h
    cases h
    exact makeDirectory_spec hmake

end Files

namespace FileWork

variable {fs fs' : Files}

theorem naming_eq_ok {p : Path} {change : Files → Except FileError Files}
    (h : naming p change fs = .ok () fs') : change fs = .ok fs' := by
  unfold naming at h
  rcases hchange : change fs with e | made
  · rw [hchange] at h
    cases h
  · rw [hchange] at h
    cases h
    rfl

theorem ensureReversed_spec (root : String) : ∀ (names : List LooseText) {fs fs' : Files},
    ensureReversed root names fs = .ok () fs' →
      fs.Keeps fs' ∧ fs'.isDirectory ⟨root, names.reverse⟩ = true
  | [], _, _, h => Files.ensureDirectory_spec (naming_eq_ok h)
  | name :: above, fs, fs', h => by
    unfold ensureReversed at h
    dsimp only at h
    rcases hensure : fs.ensureDirectory ⟨root, (name :: above).reverse⟩ with e | made
    · cases e with
      | missing =>
        rcases habove : ensureReversed root above fs with ⟨_, between⟩ | ⟨_, between⟩
        · simp only [hensure, habove] at h
          obtain ⟨keeps, -⟩ := ensureReversed_spec root above habove
          obtain ⟨keeps', hdir⟩ := Files.ensureDirectory_spec (naming_eq_ok h)
          exact ⟨keeps.trans keeps', hdir⟩
        · simp only [hensure, habove] at h
          cases h
      | _ =>
        simp only [hensure] at h
        cases h
    · simp only [hensure] at h
      cases h
      exact Files.ensureDirectory_spec hensure

theorem ensureDirectories_of_ok {p : Path} (h : fs.ensureDirectory p = .ok fs') :
    ensureDirectories p fs = .ok () fs' := by
  unfold ensureDirectories
  rcases hnames : p.names.reverse with _ | ⟨name, above⟩
  · have hp : p = ⟨p.root, []⟩ := by rw [← List.reverse_eq_nil_iff.mp hnames]
    rw [hp] at h
    simp only [ensureReversed, naming, h]
  · have hp : p = ⟨p.root, (name :: above).reverse⟩ := by rw [← hnames, List.reverse_reverse]
    rw [hp] at h
    simp only [ensureReversed, h]

/-- Ensuring the directories of a path leaves a directory there, and all else where it was. -/
theorem ensureDirectories_spec {p : Path} (h : ensureDirectories p fs = .ok () fs') :
    fs.Keeps fs' ∧ fs'.isDirectory p = true := by
  have hspec := ensureReversed_spec p.root p.names.reverse h
  rwa [List.reverse_reverse] at hspec

end FileWork

end Stepboard
