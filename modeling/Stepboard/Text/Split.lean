/-!
# Splitting text

A list cut at every occurrence of an item, and at the first alone. Joining the parts again gives the
list back. Texts are cut at characters.
-/

namespace Stepboard.Text

variable {α : Type} [DecidableEq α]

/-- Cuts a list at an item, keeping empty parts. -/
def splitAt (sep : α) : List α → List (List α)
  | [] => [[]]
  | c :: cs =>
    if c = sep then [] :: splitAt sep cs
    else
      match splitAt sep cs with
      | [] => [[c]]
      | part :: parts => (c :: part) :: parts

/-- The parts of a string between the occurrences of a character. -/
def parts (sep : Char) (s : String) : List String :=
  (splitAt sep s.toList).map String.ofList

/-- Cuts a list at the first occurrence of an item, if there is one. -/
def cutAt (sep : α) : List α → Option (List α × List α)
  | [] => none
  | c :: cs =>
    if c = sep then some ([], cs) else (cutAt sep cs).map fun cut => (c :: cut.1, cut.2)

theorem splitAt_ne_nil (sep : α) (cs : List α) : splitAt sep cs ≠ [] := by
  cases cs with
  | nil => simp [splitAt]
  | cons c cs =>
    simp only [splitAt]
    split
    · simp
    · split <;> simp

theorem intercalate_splitAt (sep : α) (cs : List α) :
    [sep].intercalate (splitAt sep cs) = cs := by
  induction cs with
  | nil => rfl
  | cons c cs ih =>
    simp only [splitAt]
    split
    · next h =>
      match hs : splitAt sep cs with
      | [] => exact absurd hs (splitAt_ne_nil sep cs)
      | part :: parts =>
        rw [hs] at ih
        simp [List.intercalate, List.intersperse, h, ← ih]
    · split
      · next hs => exact absurd hs (splitAt_ne_nil sep cs)
      · next part parts hs =>
        rw [hs] at ih
        cases parts <;> simpa [List.intercalate, List.intersperse] using ih

theorem splitAt_append {sep : α} {before : List α} (h : sep ∉ before) (after : List α) :
    splitAt sep (before ++ sep :: after) = before :: splitAt sep after := by
  induction before with
  | nil => simp [splitAt]
  | cons c cs ih =>
    rw [List.mem_cons, not_or] at h
    simp only [List.cons_append, splitAt, ih h.2, if_neg (Ne.symm h.1)]

theorem splitAt_of_not_mem {sep : α} {cs : List α} (h : sep ∉ cs) :
    splitAt sep cs = [cs] := by
  induction cs with
  | nil => rfl
  | cons c cs ih =>
    rw [List.mem_cons, not_or] at h
    simp only [splitAt, ih h.2, if_neg (Ne.symm h.1)]

theorem splitAt_intercalate {sep : α} {parts : List (List α)} (hne : parts ≠ [])
    (h : ∀ part ∈ parts, sep ∉ part) : splitAt sep ([sep].intercalate parts) = parts := by
  induction parts with
  | nil => exact absurd rfl hne
  | cons part parts ih =>
    have hpart := h part List.mem_cons_self
    cases parts with
    | nil => rw [List.intercalate_singleton, splitAt_of_not_mem hpart]
    | cons next parts =>
      rw [List.intercalate_cons_cons, List.append_assoc, List.singleton_append,
        splitAt_append hpart, ih (by simp) fun part hp => h part (List.mem_cons_of_mem _ hp)]

theorem not_mem_of_mem_splitAt {sep : α} {cs part : List α}
    (h : part ∈ splitAt sep cs) : sep ∉ part := by
  induction cs generalizing part with
  | nil =>
    simp only [splitAt, List.mem_singleton] at h
    simp [h]
  | cons c cs ih =>
    simp only [splitAt] at h
    split at h
    · rcases List.mem_cons.mp h with rfl | h
      · simp
      · exact ih h
    · next hc =>
      split at h
      · next hs => exact absurd hs (splitAt_ne_nil sep cs)
      · next first rest hs =>
        rw [hs] at ih
        rcases List.mem_cons.mp h with rfl | h
        · have hfirst := ih List.mem_cons_self
          simp [Ne.symm hc, hfirst]
        · exact ih (List.mem_cons_of_mem _ h)

theorem cutAt_append {sep : α} {before : List α} (h : sep ∉ before) (after : List α) :
    cutAt sep (before ++ sep :: after) = some (before, after) := by
  induction before with
  | nil => simp [cutAt]
  | cons c cs ih =>
    rw [List.mem_cons, not_or] at h
    simp only [List.cons_append, cutAt, ih h.2, if_neg (Ne.symm h.1), Option.map_some]

theorem cutAt_eq_some {sep : α} {cs before after : List α}
    (h : cutAt sep cs = some (before, after)) : cs = before ++ sep :: after ∧ sep ∉ before := by
  induction cs generalizing before with
  | nil => simp [cutAt] at h
  | cons c cs ih =>
    simp only [cutAt] at h
    split at h
    · next hc =>
      simp only [Option.some.injEq, Prod.mk.injEq] at h
      obtain ⟨rfl, rfl⟩ := h
      simp [hc]
    · next hc =>
      obtain ⟨⟨b, a⟩, hb, he⟩ := Option.map_eq_some_iff.mp h
      simp only [Prod.mk.injEq] at he
      obtain ⟨rfl, rfl⟩ := he
      obtain ⟨rfl, hn⟩ := ih hb
      exact ⟨rfl, by simp [Ne.symm hc, hn]⟩

end Stepboard.Text
