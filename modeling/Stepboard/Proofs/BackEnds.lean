import Mathlib
import Stepboard.Command
import Stepboard.Proofs.Endings
/-!
# Which back ends load

A specification names a module and a path from one of its members on, and a back end is found just
if each name on the path is that of a member of what the names before it lead to, and the last can
be called (`resolve_eq_ok_iff`). The names are those between the dots after the first colon, in one
way only, since `Text.cutAt` and `LooseText.parts` undo what joins them. Every way to miss a back
end is told to the user but one, a module named from where nothing is (`resolve_escapes_iff`); so
loading fails untold only on such names, and on settings that are no text (`load_answers`).
-/

namespace Stepboard

namespace LooseText

theorem symbols_injective : Function.Injective symbols :=
  fun _ _ => symbols_inj.mp

/-- The symbols of names with dots between them. -/
def dotted (path : List LooseText) : List Symbol :=
  [Symbol.char '.'].intercalate (path.map symbols)

theorem parts_dotted {path : List LooseText} (hne : path ≠ [])
    (h : ∀ name ∈ path, .char '.' ∉ name.symbols) : (ofSymbols (dotted path)).parts '.' = path := by
  have hparts : ∀ part ∈ path.map symbols, .char '.' ∉ part := by
    rw [List.forall_mem_map]
    exact h
  refine List.map_injective_iff.mpr symbols_injective ?_
  rw [map_symbols_parts, symbols_ofSymbols, dotted,
    Text.splitAt_intercalate (by simpa using hne) hparts]

theorem dotted_parts (t : LooseText) : dotted (t.parts '.') = t.symbols := by
  rw [dotted, map_symbols_parts, Text.intercalate_splitAt]

theorem not_mem_of_mem_parts {t name : LooseText} (h : name ∈ t.parts '.') :
    .char '.' ∉ name.symbols := by
  have hpart : name.symbols ∈ Text.splitAt (.char '.') t.symbols := by
    rw [← map_symbols_parts]
    exact List.mem_map_of_mem h
  exact Text.not_mem_of_mem_splitAt hpart

theorem symbols_eq_nil_iff {t : LooseText} : t.symbols = [] ↔ t = "" :=
  symbols_inj (u := "")

theorem exists_symbols_eq_cons {t : LooseText} (h : t ≠ "") : ∃ x xs, t.symbols = x :: xs :=
  List.ne_nil_iff_exists_cons.mp (symbols_eq_nil_iff.not.mpr h)

@[simp] theorem dotted_singleton (name : LooseText) : dotted [name] = name.symbols := by
  simp [dotted]

theorem dotted_append (name part : LooseText) (parts : List LooseText) :
    dotted ((name ++ "." ++ part) :: parts) = dotted (name :: part :: parts) := by
  cases parts with
  | nil => simp [dotted, List.intercalate_cons_cons]
  | cons next parts => simp [dotted, List.intercalate_cons_cons]

end LooseText

namespace Item

variable {φ : Type}

/-- What names lead to from an item: each is the name of a member of what those before it lead
to. -/
inductive Leads : Item φ → List LooseText → Item φ → Prop where
  | here (item : Item φ) : Leads item [] item
  | member {item next target : Item φ} {name : LooseText} {names : List LooseText}
      (hnext : item.member? name = some next) (htarget : Leads next names target) :
      Leads item (name :: names) target

theorem leads_cons_iff {item target : Item φ} {name : LooseText} {names : List LooseText} :
    item.Leads (name :: names) target
      ↔ ∃ next, item.member? name = some next ∧ next.Leads names target := by
  constructor
  · rintro (_ | ⟨hnext, htarget⟩)
    exact ⟨_, hnext, htarget⟩
  · rintro ⟨next, hnext, htarget⟩
    exact .member hnext htarget

theorem follow_eq_ok_iff {item target : Item φ} {names : List LooseText} :
    item.follow names = .ok target ↔ item.Leads names target := by
  induction names generalizing item with
  | nil =>
    constructor
    · rintro ⟨⟩
      exact .here _
    · rintro ⟨⟩
      rfl
  | cons name names ih =>
    rw [leads_cons_iff]
    cases hnext : item.member? name with
    | none => simp [follow, hnext]
    | some next => simp [follow, hnext, ih]

end Item

namespace Registry

variable {φ : Type} (r : Registry φ)

/-- A specification of a back end: the name of a module and, after the first colon, the names on a
path, with dots between them. -/
structure Specifies (spec moduleName : LooseText) (path : List LooseText) : Prop where
  symbols : spec.symbols = moduleName.symbols ++ .char ':' :: LooseText.dotted path
  beforeColon : .char ':' ∉ moduleName.symbols
  betweenDots : ∀ name ∈ path, .char '.' ∉ name.symbols
  named : moduleName ≠ ""
  pathGiven : LooseText.dotted path ≠ []

section Resolve

variable {r} {spec moduleName : LooseText} {path : List LooseText}

theorem Specifies.path_ne_nil (h : Specifies spec moduleName path) : path ≠ [] := by
  rintro rfl
  exact h.pathGiven rfl

theorem Specifies.cut (h : Specifies spec moduleName path) :
    Text.cutAt (.char ':') spec.symbols
      = some (moduleName.symbols, LooseText.dotted path) := by
  rw [h.symbols, Text.cutAt_append h.beforeColon]

/-- A cut text with something on both sides of the colon specifies what stands there. -/
theorem specifies_of_cut {m a : Symbol} {ms as : List Symbol}
    (h : Text.cutAt (.char ':') spec.symbols = some (m :: ms, a :: as)) :
    Specifies spec (.ofSymbols (m :: ms)) ((LooseText.ofSymbols (a :: as)).parts '.') := by
  obtain ⟨hsymbols, hcolon⟩ := Text.cutAt_eq_some h
  refine ⟨?_, by rwa [LooseText.symbols_ofSymbols], fun name => LooseText.not_mem_of_mem_parts,
    ?_, ?_⟩
  · rw [LooseText.dotted_parts, LooseText.symbols_ofSymbols, LooseText.symbols_ofSymbols, hsymbols]
  · rw [ne_eq, ← LooseText.symbols_eq_nil_iff, LooseText.symbols_ofSymbols]
    exact List.cons_ne_nil m ms
  · rw [LooseText.dotted_parts, LooseText.symbols_ofSymbols]
    exact List.cons_ne_nil a as

theorem resolve_of_not_specifies (h : ∀ moduleName path, ¬ Specifies spec moduleName path) :
    r.resolve spec = .error (.malformed spec) := by
  unfold resolve
  split
  · next hcut => exact absurd (specifies_of_cut hcut) (h _ _)
  · rfl

/-- What is reached from a module is what can be called at the end of the path. -/
theorem reach_eq_ok_iff {item : Item φ} {f : φ} : reach spec item path = .ok f
    ↔ ∃ target, item.Leads path target ∧ target.call? = some f := by
  constructor
  · intro h
    unfold reach at h
    cases hfollow : item.follow path with
    | error name =>
      rw [hfollow] at h
      cases h
    | ok target =>
      cases hcall : target.call? with
      | none =>
        simp only [hfollow, hcall] at h
        cases h
      | some g =>
        simp only [hfollow, hcall, Except.ok.injEq] at h
        exact ⟨target, Item.follow_eq_ok_iff.mp hfollow, hcall.trans (congrArg some h)⟩
  · rintro ⟨target, hleads, hcall⟩
    unfold reach
    simp only [Item.follow_eq_ok_iff.mpr hleads, hcall]

/-- Whatever is missed on a path is told to the user. -/
theorem isReported_of_reach {item : Item φ} {e : LoadError} (h : reach spec item path = .error e) :
    e.isReported = true := by
  unfold reach at h
  cases hfollow : item.follow path with
  | error name =>
    simp only [hfollow, Except.error.injEq] at h
    rw [← h]
    rfl
  | ok target =>
    cases hcall : target.call? with
    | none =>
      simp only [hfollow, hcall, Except.error.injEq] at h
      rw [← h]
      rfl
    | some f =>
      simp only [hfollow, hcall] at h
      cases h

theorem resolve_of_specifies (h : Specifies spec moduleName path) :
    r.resolve spec
      = (r.find moduleName).bind fun members => reach spec (.plain members) path := by
  obtain ⟨m, ms, hm⟩ := LooseText.exists_symbols_eq_cons h.named
  obtain ⟨a, as, ha⟩ := List.ne_nil_iff_exists_cons.mp h.pathGiven
  unfold resolve
  rw [h.cut, hm, ha]
  dsimp only
  rw [← hm, ← ha, LooseText.ofSymbols_symbols,
    LooseText.parts_dotted h.path_ne_nil h.betweenDots]
  cases r.find moduleName <;> rfl

/-- A specification leads to what can be called at the end of its path. -/
theorem resolve_eq_ok_iff {f : φ} : r.resolve spec = .ok f
    ↔ ∃ moduleName path members target, Specifies spec moduleName path
      ∧ r.find moduleName = .ok members ∧ (Item.plain members).Leads path target
      ∧ target.call? = some f := by
  constructor
  · intro h
    by_cases hspec : ∃ moduleName path, Specifies spec moduleName path
    · obtain ⟨moduleName, path, hspec⟩ := hspec
      rw [resolve_of_specifies hspec] at h
      cases hfind : r.find moduleName with
      | error e =>
        rw [hfind] at h
        cases h
      | ok members =>
        rw [hfind] at h
        obtain ⟨target, hleads, hcall⟩ := reach_eq_ok_iff.mp h
        exact ⟨moduleName, path, members, target, hspec, hfind, hleads, hcall⟩
    · push Not at hspec
      rw [resolve_of_not_specifies hspec] at h
      cases h
  · rintro ⟨moduleName, path, members, target, hspec, hfind, hleads, hcall⟩
    rw [resolve_of_specifies hspec, hfind]
    exact reach_eq_ok_iff.mpr ⟨target, hleads, hcall⟩

/-- A module that is gone to is the one of that full name. -/
theorem lookup_of_enter {name : LooseText} {parts : List LooseText}
    {members found : List (LooseText × Item φ)} (hlookup : r.lookup name = some members)
    (h : r.enter name members parts = .ok found) :
    r.lookup (.ofSymbols (LooseText.dotted (name :: parts))) = some found := by
  induction parts generalizing name members with
  | nil =>
    cases h
    rwa [LooseText.dotted_singleton, LooseText.ofSymbols_symbols]
  | cons part parts ih =>
    rw [← LooseText.dotted_append]
    cases hinner : r.lookup (name ++ "." ++ part) with
    | some inner =>
      simp only [enter, hinner] at h
      exact ih hinner h
    | none =>
      simp only [enter, hinner] at h
      cases h

theorem lookup_of_find {found : List (LooseText × Item φ)} (h : r.find moduleName = .ok found) :
    r.lookup moduleName = some found := by
  unfold find at h
  cases hparts : moduleName.parts '.' with
  | nil =>
    rw [hparts] at h
    cases h
  | cons first rest =>
    rw [← LooseText.ofSymbols_symbols moduleName, ← LooseText.dotted_parts, hparts]
    cases hfirst : r.lookup first with
    | none =>
      simp only [hparts, hfirst] at h
      split at h <;> cases h
    | some members =>
      simp only [hparts, hfirst] at h
      split at h
      · cases h
      · cases henter : r.enter first members rest with
        | error e =>
          rw [henter] at h
          cases h
        | ok entered =>
          rw [henter] at h
          cases h
          exact lookup_of_enter hfirst henter

theorem dotted_iff_head? : (∃ rest, moduleName = "." ++ rest)
    ↔ moduleName.symbols.head? = some (.char '.') := by
  rw [List.head?_eq_some_iff]
  constructor
  · rintro ⟨rest, rfl⟩
    exact ⟨rest.symbols, LooseText.symbols_append "." rest⟩
  · rintro ⟨xs, hm⟩
    refine ⟨.ofSymbols xs, LooseText.symbols_inj.mp ?_⟩
    rw [hm, LooseText.symbols_append, LooseText.symbols_ofSymbols]
    rfl

/-- A module is found, or it is told that it is not, unless its name starts with a dot. -/
theorem find_cases (r : Registry φ) (hne : moduleName ≠ "") :
    ((∃ rest, moduleName = "." ++ rest) ∧ r.find moduleName = .error (.relative moduleName))
      ∨ (¬ ∃ rest, moduleName = "." ++ rest)
        ∧ ((∃ members, r.find moduleName = .ok members)
          ∨ ∃ e, r.find moduleName = .error (.noModule moduleName e)) := by
  obtain ⟨x, xs, hm⟩ := LooseText.exists_symbols_eq_cons hne
  have hsplit := LooseText.map_symbols_parts '.' moduleName
  rw [dotted_iff_head?, hm, List.head?_cons, Option.some.injEq]
  rw [hm] at hsplit
  unfold find
  rcases hparts : moduleName.parts '.' with _ | ⟨first, rest⟩
  · rw [hparts] at hsplit
    exact absurd hsplit.symm (Text.splitAt_ne_nil _ _)
  · rw [hparts, List.map_cons] at hsplit
    -- The first part is empty just if the name starts with a dot.
    have hfirst : first.isEmpty = true ↔ x = .char '.' := by
      rw [LooseText.isEmpty_iff, ← LooseText.symbols_eq_nil_iff]
      by_cases hx : x = .char '.'
      · rw [Text.splitAt, if_pos hx] at hsplit
        exact iff_of_true (List.cons.inj hsplit).1 hx
      · rw [Text.splitAt, if_neg hx] at hsplit
        refine iff_of_false (fun hnil => ?_) hx
        rw [hnil] at hsplit
        split at hsplit <;> cases hsplit
    dsimp only
    split_ifs with hempty
    · exact .inl ⟨hfirst.mp hempty, rfl⟩
    · refine .inr ⟨fun hx => hempty (hfirst.mpr hx), ?_⟩
      cases r.lookup first with
      | none => exact .inr ⟨_, rfl⟩
      | some members =>
        dsimp only
        cases r.enter first members rest with
        | error e => exact .inr ⟨e, rfl⟩
        | ok members => exact .inl ⟨members, rfl⟩

/-- A miss is not told to the user just if the module is named from where nothing is. -/
theorem resolve_escapes_iff : (∃ e, r.resolve spec = .error e ∧ e.isReported = false)
    ↔ ∃ rest path, Specifies spec ("." ++ rest) path := by
  by_cases hspec : ∃ moduleName path, Specifies spec moduleName path
  · obtain ⟨moduleName, path, hspec⟩ := hspec
    rcases find_cases r hspec.named with ⟨⟨rest, rfl⟩, hfind⟩ | ⟨hrest, hfind⟩
    · refine iff_of_true ⟨.relative ("." ++ rest), ?_, rfl⟩ ⟨rest, path, hspec⟩
      rw [resolve_of_specifies hspec, hfind]
      rfl
    · refine iff_of_false ?_ ?_
      · rintro ⟨e, he, hreported⟩
        rw [resolve_of_specifies hspec] at he
        rcases hfind with ⟨members, hfind⟩ | ⟨missing, hfind⟩
        · rw [hfind] at he
          rw [isReported_of_reach he] at hreported
          cases hreported
        · rw [hfind] at he
          cases he
          cases hreported
      · rintro ⟨rest, path', hspec'⟩
        have hcut := hspec.cut.symm.trans hspec'.cut
        rw [Option.some.injEq, Prod.mk.injEq, LooseText.symbols_inj] at hcut
        exact hrest ⟨rest, hcut.1⟩
  · push Not at hspec
    refine iff_of_false ?_ fun ⟨rest, path, h⟩ => hspec _ _ h
    rintro ⟨e, he, hreported⟩
    rw [resolve_of_not_specifies hspec] at he
    cases he
    cases hreported

end Resolve

end Registry

namespace Backend

variable {σ : Type}

/-- A setting that loading breaks down on: one that counts as true and is no text, or a text that
names a module from where nothing is. -/
def Breaks : Json.Value → Prop
  | .str spec => ∃ rest path, Registry.Specifies spec ("." ++ rest) path
  | setting => setting.isTrue = true

/-- What a back end is asked when a specification leads to it: the note of it is written down. -/
def asked (record : Record → Files → Files) (spec : LooseText) (request : LoadRequest) :
    LoadRequest :=
  { request with files := record (loadNote request.program spec) request.files }

theorem isTrue_of_resolve {registry : Registry (Backend σ)} {spec : LooseText} {backend : Backend σ}
    (h : registry.resolve spec = .ok backend) : (Json.Value.str spec).isTrue = true := by
  obtain ⟨moduleName, path, -, -, hspec, -⟩ := Registry.resolve_eq_ok_iff.mp h
  have hne : spec ≠ "" := by
    rintro rfl
    cases hspec.cut
  exact Json.Value.isTrue_str_iff.mpr hne

/-- What loading does: it asks the back end that the setting leads to, if there is one. -/
theorem load_cases (registry : Registry (Backend σ)) (record : Record → Files → Files)
    (setting : Json.Value) (request : LoadRequest) :
    let report := load registry record setting request
    (∃ e, registry.resolveSetting setting = .error e ∧ report.requests = []
        ∧ report.result = .error (if setting.isTrue = true then e else .unset))
      ∨ ∃ spec backend, setting = .str spec ∧ registry.resolve spec = .ok backend
        ∧ report.requests = [asked record spec request]
        ∧ report.result = (backend (asked record spec request)).mapError
            (·.toLoadError request.program) := by
  cases hsetting : registry.resolveSetting setting with
  | error e =>
    refine .inl ⟨e, rfl, ?_⟩
    unfold load
    rw [hsetting]
    cases setting.isTrue <;> exact ⟨rfl, rfl⟩
  | ok backend =>
    cases setting with
    | str spec =>
      refine .inr ⟨spec, backend, rfl, hsetting, ?_⟩
      unfold load
      rw [isTrue_of_resolve hsetting, hsetting]
      exact ⟨rfl, rfl⟩
    | _ => cases hsetting

/-- A setting that leads to no back end is told to the user unless loading breaks down on it. -/
theorem missed_escapes_iff {registry : Registry (Backend σ)} {setting : Json.Value} {e : LoadError}
    (h : registry.resolveSetting setting = .error e) :
    (if setting.isTrue = true then e else .unset).isReported = false ↔ Breaks setting := by
  cases setting with
  | str spec =>
    have hresolve : registry.resolve spec = .error e := h
    have hescapes : e.isReported = false ↔ Breaks (.str spec) := by
      rw [Breaks, ← Registry.resolve_escapes_iff (r := registry), hresolve]
      simp
    by_cases hspec : (Json.Value.str spec).isTrue = true
    · rw [if_pos hspec, hescapes]
    · have hempty : spec = "" := by simpa [Json.Value.isTrue_str_iff] using hspec
      rw [if_neg hspec]
      subst hempty
      refine iff_of_false (fun he => nomatch he) ?_
      rintro ⟨rest, path, hspec⟩
      cases hspec.cut
  | _ =>
    cases h
    unfold Breaks
    split <;> simp_all [LoadError.isReported]

/-- Loading either asks a back end once, which the specification led to, and comes to its simulator
or to its failure, or asks none because the setting leads to none. If the back ends fail in no
unforeseen way, then whatever stops it is told to the user unless loading breaks down on the
setting. A specification leads to what can be called at the end of the names on its path. -/
theorem load_answers (registry : Registry (Backend σ)) (record : Record → Files → Files)
    (setting : Json.Value) (request : LoadRequest)
    (hforeseen : ∀ spec backend, registry.resolve spec = .ok backend →
      ∀ request message, backend request ≠ .error (.broken message)) :
    let report := load registry record setting request
    ((∀ e, report.result = .error e → e.isReported = true) ↔ ¬ Breaks setting)
      ∧ ((report.requests = [] ∧ (∃ e, report.result = .error e)
          ∧ ∀ spec backend, setting = .str spec → registry.resolve spec ≠ .ok backend)
        ∨ ∃ spec backend, setting = .str spec ∧ registry.resolve spec = .ok backend
          ∧ report.requests = [asked record spec request]
          ∧ ((∃ loaded, backend (asked record spec request) = .ok loaded
              ∧ report.result = .ok loaded)
            ∨ ∃ e, backend (asked record spec request) = .error e
              ∧ report.result = .error (e.toLoadError request.program)))
      ∧ ∀ spec,
        ((∀ e, registry.resolve spec = .error e → e.isReported = true) ↔ ¬ Breaks (.str spec))
          ∧ ∀ backend, registry.resolve spec = .ok backend
            ↔ ∃ moduleName path members target, Registry.Specifies spec moduleName path
              ∧ registry.find moduleName = .ok members
              ∧ (Item.plain members).Leads path target ∧ target.call? = some backend := by
  intro report
  have hspecs : ∀ spec,
      (∀ e, registry.resolve spec = .error e → e.isReported = true) ↔ ¬ Breaks (.str spec) := by
    intro spec
    rw [Breaks, ← Registry.resolve_escapes_iff (r := registry)]
    simp
  refine ⟨?reported, ?called, fun spec => ⟨hspecs spec, fun _ => Registry.resolve_eq_ok_iff⟩⟩
  case reported =>
    rcases load_cases registry record setting request with
      ⟨e, hsetting, -, hresult⟩ | ⟨spec, backend, rfl, hresolve, -, hresult⟩
    · rw [← missed_escapes_iff hsetting, hresult]
      simp
    · refine iff_of_true (fun e he => ?_) ((hspecs spec).mp fun e he => ?_)
      · rw [hresult] at he
        cases hanswer : backend (asked record spec request) with
        | ok loaded =>
          rw [hanswer] at he
          cases he
        | error failure =>
          rw [hanswer] at he
          cases he
          cases failure with
          | broken message => exact absurd hanswer (hforeseen spec backend hresolve _ _)
          | _ => rfl
      · cases hresolve.symm.trans he
  case called =>
    rcases load_cases registry record setting request with
      ⟨e, hsetting, hrequests, hresult⟩ | ⟨spec, backend, rfl, hresolve, hrequests, hresult⟩
    · refine .inl ⟨hrequests, ⟨_, hresult⟩, ?_⟩
      rintro spec backend rfl hresolve
      cases hsetting.symm.trans hresolve
    · refine .inr ⟨spec, backend, rfl, hresolve, hrequests, ?_⟩
      rw [hresult]
      cases hanswer : backend (asked record spec request) with
      | ok loaded => exact .inl ⟨loaded, rfl, rfl⟩
      | error failure => exact .inr ⟨failure, rfl, rfl⟩

end Backend

namespace Scripted

/-- A back end that makes the machine which counts its steps. -/
def counting : Backend Nat := fun _ =>
  .ok { host := counterHost plainSettings, world := 0, files := fun _ => bare.files
        mapFiles := fun _ => id }

/-- A module in a package, with one back end in it. -/
def machines : Registry (Backend Nat) :=
  [("lab", [(Registry.placeMember, .plain [])]), ("lab.machines", [("make", .callable counting)])]

theorem eq_counting_of_resolve {spec : LooseText} {backend : Backend Nat}
    (h : machines.resolve spec = .ok backend) : backend = counting := by
  obtain ⟨moduleName, path, members, target, -, hfind, hleads, hcall⟩ :=
    Registry.resolve_eq_ok_iff.mp h
  have hflat : ∀ name next, members.lookup name = some next →
      next.members = [] ∧ (next.call? = some backend → backend = counting) := by
    intro name next hnext
    obtain ⟨before, after, hmembers, -⟩ :=
      List.lookup_eq_some_iff.mp (Registry.lookup_of_find hfind)
    obtain ⟨before', after', hitem, -⟩ := List.lookup_eq_some_iff.mp hnext
    have hin : (moduleName, members) ∈ machines := by simp [hmembers]
    have hin' : (name, next) ∈ members := by simp [hitem]
    simp only [machines, List.mem_cons, List.not_mem_nil, or_false, Prod.mk.injEq] at hin
    rcases hin with ⟨-, rfl⟩ | ⟨-, rfl⟩
    · simp only [List.mem_singleton, Prod.mk.injEq] at hin'
      obtain ⟨-, rfl⟩ := hin'
      exact ⟨rfl, fun h => nomatch h⟩
    · simp only [List.mem_singleton, Prod.mk.injEq] at hin'
      obtain ⟨-, rfl⟩ := hin'
      exact ⟨rfl, fun h => (Option.some.inj h).symm⟩
  rcases hleads with _ | ⟨hnext, hleads⟩
  · cases hcall
  · obtain ⟨hnone, hcalled⟩ := hflat _ _ hnext
    rcases hleads with _ | ⟨hinner, -⟩
    · exact hcalled hcall
    · rw [Item.member?, hnone] at hinner
      cases hinner

def loadRequest : LoadRequest where
  program := Path.ofString "p.s"
  outputLog := plainSettings.outputLog
  messageLog := plainSettings.messageLog
  files := bare.files

/-- A load without a log file. -/
def loading (setting : Json.Value) : LoadReport Nat :=
  Backend.load machines (fun _ files => files) setting loadRequest

theorem foreseen_of_machines (spec : LooseText) (backend : Backend Nat)
    (h : machines.resolve spec = .ok backend) (request : LoadRequest) (message : String) :
    backend request ≠ .error (.broken message) := by
  rw [eq_counting_of_resolve h]
  exact fun h => nomatch h

/-- The back end of a module in a package is asked once and makes its machine. -/
theorem load_answers_of_machines :
    (∀ spec backend, machines.resolve spec = .ok backend →
        ∀ request message, backend request ≠ .error (.broken message))
      ∧ (loading (.str "lab.machines:make")).requests = [loadRequest]
      ∧ (∃ loaded, (loading (.str "lab.machines:make")).result = .ok loaded)
      ∧ ¬ Backend.Breaks (.str "lab.machines:make") := by
  have hresolve : machines.resolve "lab.machines:make" = .ok counting := by rfl
  obtain ⟨hreported, hcalled, -⟩ := Backend.load_answers machines (fun _ files => files)
    (.str "lab.machines:make") loadRequest foreseen_of_machines
  rcases hcalled with ⟨-, -, hnone⟩ | ⟨spec, backend, hspec, hbackend, hrequests, hresult⟩
  · exact absurd hresolve (hnone _ _ rfl)
  · cases hspec
    cases hresolve.symm.trans hbackend
    rcases hresult with ⟨loaded, -, hloaded⟩ | ⟨e, hfailed, -⟩
    · refine ⟨foreseen_of_machines, hrequests, ⟨loaded, hloaded⟩, hreported.mp fun e he => ?_⟩
      cases hloaded.symm.trans he
    · cases hfailed

/-- The process of a user who names a back end by a variable. -/
def naming (spec : LooseText) : Surroundings where
  environ := [(backendVariable, spec)]
  files := { workingPlace := [], entries := [(["p.s"], .file [])] }
  nesting := 64

def namingCommand (spec : LooseText) : Command Nat where
  arguments := ["p.s"]
  around := naming spec
  registry := machines
  width := 60
  height := 22

/-- A variable may name a module from where nothing is, and a settings file may hold a number for a
back end. Loading breaks down on both, and so does the command. -/
theorem load_breaks_on_relative :
    (Settings.resolve (naming ".lab:make") none none).2
        = .ok { plainSettings with backend := .str ".lab:make" }
      ∧ (∀ spec backend, machines.resolve spec = .ok backend →
        ∀ request message, backend request ≠ .error (.broken message))
      ∧ (loading (.str ".lab:make")).result = .error (.relative ".lab")
      ∧ (LoadError.relative ".lab").isReported = false
      ∧ (namingCommand ".lab:make").run.ending = .escaped (.load (.relative ".lab"))
      ∧ Settings.ofMembers bare [] [("backend", .int 5)]
        = .ok { plainSettings with backend := .int 5 }
      ∧ (loading (.int 5)).result = .error (.notText "int")
      ∧ (LoadError.notText "int").isReported = false :=
  ⟨by rfl, foreseen_of_machines, by rfl, rfl, by rfl, by rfl, by rfl, rfl⟩

end Scripted

end Stepboard
