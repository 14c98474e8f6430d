import Mathlib.Tactic.SplitIfs
import Stepboard.Proofs.Related
import Stepboard.Settings
/-!
# Settings by the file and by default

An object that is read has no name twice (`Json.nodup_of_read`), so that only what its members are
counts, and not their order. Merging them into the defaults leaves the names of the settings as they
are (`Settings.keys_merge`), whatever other names the members have, and gives each its value by the
file, if it is there, and else by default (`Settings.lookup_merge`).
-/

namespace Stepboard

namespace Json

theorem nodup_readMembers {depth : Nat} {before all : List (LooseText × Value)} {c : Cursor}
    {d : Shorter c} (h : readMembers depth before c = .ok (all, d))
    (hbefore : (before.map Prod.fst).Nodup) : (all.map Prod.fst).Nodup := by
  -- What follows a comma is shorter, and has the member before it among those that came before.
  induction hn : c.size using Nat.strongRecOn generalizing before c with
  | ind n ih =>
    subst hn
    rw [readMembers] at h
    obtain ⟨⟨name, e⟩, -, h⟩ := bind_eq_ok_iff.mp h
    obtain ⟨⟨value, e'⟩, -, h⟩ := bind_eq_ok_iff.mp h
    have hmembers : ((Keyed.set before name value).map Prod.fst).Nodup := by
      rw [Keyed.keys_set]
      exact Keyed.nodup_addKey hbefore name
    dsimp only at h
    split at h
    · cases h
      exact hmembers
    · obtain ⟨⟨rest, f⟩, hrest, h⟩ := bind_eq_ok_iff.mp h
      cases h
      exact ih _ ((e.of e').skipSpace.of (pass _ _)).2 hrest hmembers rfl
    · cases h

theorem readWord_ne_obj {cs : List Char} {members : List (LooseText × Value)} {n : Nat} :
    readWord cs ≠ some (.obj members, n) := by
  intro h
  obtain ⟨w, hw, hvalue⟩ := Option.map_eq_some_iff.mp h
  have hmem := List.mem_of_find?_eq_some hw
  simp only [words, List.mem_cons, List.not_mem_nil, or_false] at hmem
  rcases hmem with rfl | rfl | rfl | rfl | rfl | rfl <;> cases hvalue

theorem readNumber_ne_obj {cs : List Char} {members : List (LooseText × Value)} {n : Nat} :
    readNumber cs ≠ .ok (some (.obj members, n)) := by
  intro h
  unfold readNumber at h
  extract_lets negative signLength integer fraction pointLength length at h
  split at h
  · cases h
  · split at h
    · split at h <;> cases h
    · cases h

theorem readAtom_ne_obj {c : Cursor} {hne : c.rest ≠ []} {members : List (LooseText × Value)}
    {d : Shorter c} : readAtom c hne ≠ .ok (.obj members, d) := by
  intro h
  unfold readAtom at h
  split at h
  case h_1 v n hword =>
    split_ifs at h
    cases h
    exact readWord_ne_obj hword
  case h_2 =>
    split at h
    · cases h
    · cases h
    case h_3 v n hnumber =>
      split_ifs at h
      cases h
      exact readNumber_ne_obj hnumber

/-- No name comes twice in an object that is read. -/
theorem nodup_of_readValue {depth : Nat} {c : Cursor} {members : List (LooseText × Value)}
    {d : Shorter c} (h : readValue depth c = .ok (.obj members, d)) :
    (members.map Prod.fst).Nodup := by
  rw [readValue] at h
  split at h
  · cases h
  · obtain ⟨⟨s, e⟩, -, h⟩ := bind_eq_ok_iff.mp h
    cases h
  · dsimp only at h
    split_ifs at h
    split at h
    · cases h
    · obtain ⟨⟨items, e⟩, -, h⟩ := bind_eq_ok_iff.mp h
      cases h
  · dsimp only at h
    split_ifs at h
    split at h
    · cases h
      exact List.nodup_nil
    · obtain ⟨⟨all, e⟩, hall, h⟩ := bind_eq_ok_iff.mp h
      cases h
      exact nodup_readMembers hall List.nodup_nil
  · exact absurd h readAtom_ne_obj

theorem nodup_of_read {depth : Nat} {text : List Char} {members : List (LooseText × Value)}
    (h : read depth text = .ok (.obj members)) : (members.map Prod.fst).Nodup := by
  unfold read at h
  split_ifs at h
  obtain ⟨⟨value, d⟩, hvalue, h⟩ := bind_eq_ok_iff.mp h
  dsimp only at h
  split_ifs at h
  cases h
  exact nodup_of_readValue hvalue

end Json

namespace Settings

theorem nodup_of_loadMembers {files : Files} {nesting : Nat} {path : Option LooseText}
    {members : Members} (h : loadMembers files nesting path = .ok members) :
    (members.map Prod.fst).Nodup := by
  cases path with
  | none =>
    cases h
    exact List.nodup_nil
  | some path =>
    unfold loadMembers readMembers at h
    dsimp only at h
    split at h
    case h_3 =>
      split at h
      · cases h
      · split at h
        · cases h
        · split at h
          · cases h
          case h_2 hread =>
            cases h
            exact Json.nodup_of_read hread
          · cases h
    all_goals cases h

theorem isKnown_iff {key : LooseText} : isKnown key = true ↔ key ∈ defaults.map Prod.fst := by
  unfold isKnown
  cases h : defaults.lookup key with
  | none => exact iff_of_false (by simp) (Keyed.lookup_eq_none_iff.mp h)
  | some value =>
    refine iff_of_true rfl (Decidable.of_not_not fun hnot => ?_)
    cases h.symm.trans (Keyed.lookup_eq_none_iff.mpr hnot)

section Merge

variable {members : Members} {key : LooseText}

/-- The settings are those of the defaults, whatever is in the file. -/
theorem keys_merge (members : Members) :
    (merge members).map Prod.fst = defaults.map Prod.fst := by
  rw [merge, Keyed.keys_setAll]
  refine Keyed.foldl_addKey_of_mem fun name hname => ?_
  obtain ⟨m, hm, rfl⟩ := List.mem_map.mp hname
  exact isKnown_iff.mp (List.mem_filter.mp hm).2

/-- A setting has its value by the file, if it is there, and else by default. -/
theorem lookup_merge (hnodup : (members.map Prod.fst).Nodup) (hkey : key ∈ defaults.map Prod.fst) :
    (merge members).lookup key = (members.lookup key).or (defaults.lookup key) := by
  have hsublist : ((members.filter fun m => isKnown m.1).map Prod.fst).Sublist
      (members.map Prod.fst) := List.filter_sublist.map Prod.fst
  rw [merge, Keyed.lookup_setAll (hsublist.nodup hnodup), Keyed.lookup_filter,
    if_pos (isKnown_iff.mpr hkey)]

theorem valueOf_eq (hnodup : (members.map Prod.fst).Nodup) (hkey : key ∈ defaults.map Prod.fst) :
    valueOf members key = ((members.lookup key).or (defaults.lookup key)).getD .null := by
  rw [valueOf, lookup_merge hnodup hkey]

end Merge

end Settings

end Stepboard
