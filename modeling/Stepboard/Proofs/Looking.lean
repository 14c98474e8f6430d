import Stepboard.Proofs.Alike
import Stepboard.Proofs.Halts
/-!
# Looking around

A key that neither steps nor quits, taken while no fault box is up, leaves a session alike. So
putting one more of them among the keys of a run changes nothing of what is asked of the simulator,
of what the panes and the fault box tell of it, and of how the run ends (`alike_loopOver_look`),
whatever is in the log files in either run and whoever writes to them in between.
-/

namespace Stepboard

variable {σ τ : Type} {view : σ → τ}

/-- A key, and what becomes of the world while it is waited for. -/
structure Arrival (σ : Type) where
  key : String
  change : σ → σ := id

/-- Nothing becomes of a part of the world. -/
def Arrival.Spares (view : σ → τ) (a : Arrival σ) : Prop :=
  ∀ w, view (a.change w) = view w

/-- A key that arrives while nothing changes. -/
def Arrival.ofKey (key : String) : Arrival σ :=
  { key }

theorem Arrival.spares_ofKey (key : String) : (ofKey key).Spares view := fun _ => rfl

theorem Arrival.map_key_ofKey (keys : List String) :
    (keys.map (ofKey : String → Arrival σ)).map (·.key) = keys := by
  rw [List.map_map]
  exact List.map_id keys

namespace Session

variable (host : Host σ)

/-- Draws the screen and takes a key that arrives. -/
def arrive (s : Session σ) (a : Arrival σ) : Turn σ Bool :=
  let s := s.compose.1
  handleKey host { s with world := a.change s.world } a.key

/-- The loop with keys that arrive while the world changes around it. -/
def loopOver (s : Session σ) : List (Arrival σ) → Run σ
  | [] => { result := .ok (), session := s.compose.1, frames := [s.compose.2] }
  | a :: rest =>
    let t := s.arrive host a
    match t.result with
    | .ok true =>
      let r := loopOver t.session rest
      { r with frames := s.compose.2 :: r.frames }
    | .ok false =>
      { result := .ok (), session := t.session, frames := [s.compose.2],
        keysLeft := rest.map (·.key) }
    | .error e =>
      { result := .error e, session := t.session, frames := [s.compose.2],
        keysLeft := rest.map (·.key) }

/-- The run of a session with keys that arrive while the world changes around it. -/
def runOver (s : Session σ) (arrivals : List (Arrival σ)) : Finish σ :=
  let t := s.start host
  Run.finish host <|
    match t.result with
    | .ok _ => t.session.loopOver host arrivals
    | .error e => { result := .error e, session := t.session, keysLeft := arrivals.map (·.key) }

/-- The session in which the loop waits for its next key once some have arrived. -/
def waitsOver (s : Session σ) : List (Arrival σ) → Option (Session σ)
  | [] => some s.compose.1
  | a :: rest =>
    match (s.arrive host a).result with
    | .ok true => waitsOver (s.arrive host a).session rest
    | .ok false | .error _ => none

/-- The session in which a run waits for its next key once it has begun and some have arrived. -/
def awaitingOver (s : Session σ) (arrivals : List (Arrival σ)) : Option (Session σ) :=
  match (s.start host).result with
  | .ok _ => (s.start host).session.waitsOver host arrivals
  | .error _ => none

section Plain

theorem arrive_ofKey (s : Session σ) (key : String) :
    s.arrive host (.ofKey key) = s.compose.1.handleKey host key := rfl

/-- Where nothing changes around it, the loop is the one that takes keys. -/
theorem loopOver_keys : ∀ (keys : List String) (s : Session σ),
    s.loopOver host (keys.map Arrival.ofKey) = s.loop host keys
  | [], _ => rfl
  | key :: keys, s => by
    simp only [List.map_cons, loopOver, loop, arrive_ofKey, Arrival.map_key_ofKey]
    rcases (s.compose.1.handleKey host key).result with e | (_ | _)
    · rfl
    · rfl
    · simp only [loopOver_keys keys]

theorem runOver_keys (s : Session σ) (keys : List String) :
    s.runOver host (keys.map Arrival.ofKey) = s.run host keys := by
  unfold runOver run play
  dsimp only
  rcases (s.start host).result with e | b
  · simp only [Arrival.map_key_ofKey]
  · simp only [loopOver_keys]

theorem waitsOver_keys : ∀ (keys : List String) (s : Session σ),
    s.waitsOver host (keys.map Arrival.ofKey) = s.waits host keys
  | [], _ => rfl
  | key :: keys, s => by
    simp only [List.map_cons, waitsOver, waits, arrive_ofKey]
    rcases (s.compose.1.handleKey host key).result with e | (_ | _)
    · rfl
    · rfl
    · exact waitsOver_keys keys _

theorem awaitingOver_keys (s : Session σ) (keys : List String) :
    s.awaitingOver host (keys.map Arrival.ofKey) = s.awaiting host keys := by
  unfold awaitingOver awaiting
  dsimp only
  rcases (s.start host).result with e | b
  · rfl
  · exact waitsOver_keys host keys _

end Plain

end Session

/-- Two runs that went the same as far as the simulator is concerned. -/
structure Run.Alike (view : σ → τ) (r r' : Run σ) : Prop where
  result : r'.result = r.result
  session : r.session.Alike view r'.session
  keysLeft : r'.keysLeft = r.keysLeft

/-- Two finished sessions of which the simulator was asked the same, which tell the same of it, and
which ended the same. -/
structure Finish.Agrees (f f' : Finish σ) : Prop where
  code : f.code = f'.code
  keysLeft : f.keysLeft = f'.keysLeft
  calls : f.session.calls = f'.session.calls
  face : f.session.board.face = f'.session.board.face
  steps : f.session.board.steps = f'.session.board.steps
  overlay : f.session.board.overlay = f'.session.board.overlay
  exitMessage : f.session.board.exitMessage = f'.session.board.exitMessage

theorem Run.Alike.agrees {r r' : Run σ} (h : r.Alike view r') (host : Host σ) :
    (r.finish host).Agrees (r'.finish host) := by
  obtain ⟨result, s, frames, keysLeft⟩ := r
  obtain ⟨result', s', frames', keysLeft'⟩ := r'
  obtain ⟨hresult, hs, hkeys⟩ := h
  cases hresult
  cases hkeys
  rcases result with e | u
  · cases e with
    | undefined address symbols =>
      exact ⟨rfl, rfl, hs.calls.symm, hs.face.symm, hs.steps.symm, hs.overlay.symm, rfl⟩
    | fault _ | file _ | inverted _ | unsupported _ =>
      exact ⟨rfl, rfl, hs.calls.symm, hs.face.symm, hs.steps.symm, hs.overlay.symm,
        hs.exitMessage.symm⟩
  · exact ⟨rfl, rfl, hs.calls.symm, hs.face.symm, hs.steps.symm, hs.overlay.symm,
      hs.exitMessage.symm⟩

namespace Session

variable {host : Host σ} (hrecord : ∀ r w, view (host.record r w) = view w)
  (hread : ∀ id w, host.logFile id w ≠ .error .impossible)

include hrecord

/-- A session that has drawn its screen and waits while the world changes around the simulator. -/
theorem alike_waiting {a : Arrival σ} (ha : a.Spares view) (s : Session σ) :
    s.Alike view { s.compose.1 with world := a.change s.compose.1.world } := by
  have hdrawn := alike_compose hrecord s
  exact { hdrawn with world := (ha _).trans hdrawn.world }

include hread

theorem alike_arrive_look {look : Arrival σ} (ha : look.Spares view)
    (hstep : Action.ofKey look.key ≠ .step) (hquit : Action.ofKey look.key ≠ .quit)
    {s : Session σ} (ho : s.board.overlay = none) :
    (s.arrive host look).result = .ok true ∧ s.Alike view (s.arrive host look).session := by
  have hwaiting := alike_waiting hrecord ha s
  obtain ⟨hresult, hlook⟩ := alike_look hrecord hread (hwaiting.overlay.trans ho) hstep hquit
  exact ⟨hresult, hwaiting.trans hlook⟩

variable (hsim : host.simulator.DependsOn view)

include hsim

theorem alike_arrive {a a' : Arrival σ} (hkey : a.key = a'.key) (ha : a.Spares view)
    (ha' : a'.Spares view) {s s' : Session σ} (h : s.Alike view s') :
    (s.arrive host a).Alike view (s'.arrive host a') := by
  have hwaiting := ((alike_waiting hrecord ha s).symm.trans h).trans (alike_waiting hrecord ha' s')
  unfold arrive
  dsimp only
  rw [← hkey]
  exact alike_handleKey hrecord hread hsim hwaiting a.key

/-- Sessions that are alike go on the same with the same keys. -/
theorem alike_loopOver : ∀ {arrivals arrivals' : List (Arrival σ)},
    arrivals.map (·.key) = arrivals'.map (·.key) → (∀ a ∈ arrivals, a.Spares view) →
    (∀ a ∈ arrivals', a.Spares view) → ∀ {s s' : Session σ}, s.Alike view s' →
    (s.loopOver host arrivals).Alike view (s'.loopOver host arrivals')
  | [], [], _, _, _, s, s', h =>
    ⟨rfl, ((alike_compose hrecord s).symm.trans h).trans (alike_compose hrecord s'), rfl⟩
  | a :: rest, a' :: rest', hkeys, ha, ha', s, s', h => by
    simp only [List.map_cons, List.cons.injEq] at hkeys
    simp only [List.forall_mem_cons] at ha ha'
    have hturn := alike_arrive hrecord hread hsim hkeys.1 ha.1 ha'.1 h
    simp only [loopOver, hturn.result, ← hkeys.2]
    rcases (s.arrive host a).result with e | (_ | _)
    · exact ⟨rfl, hturn.session, rfl⟩
    · exact ⟨rfl, hturn.session, rfl⟩
    · obtain ⟨hresult, hsession, hleft⟩ := alike_loopOver hkeys.2 ha.2 ha'.2 hturn.session
      exact ⟨hresult, hsession, hleft⟩

/-- The loop goes on the same with one more key that only looks around. -/
theorem alike_loopOver_look {look : Arrival σ} (hlook : look.Spares view)
    (hstep : Action.ofKey look.key ≠ .step) (hquit : Action.ofKey look.key ≠ .quit)
    {rest rest' : List (Arrival σ)} (hrest : rest.map (·.key) = rest'.map (·.key))
    (hr : ∀ a ∈ rest, a.Spares view) (hr' : ∀ a ∈ rest', a.Spares view) :
    ∀ {before before' : List (Arrival σ)}, before.map (·.key) = before'.map (·.key) →
    (∀ a ∈ before, a.Spares view) → (∀ a ∈ before', a.Spares view) →
    ∀ {s s' x : Session σ}, s.Alike view s' → s.waitsOver host before = some x →
    x.board.overlay = none →
    (s.loopOver host (before ++ look :: rest)).Alike view (s'.loopOver host (before' ++ rest'))
  | [], [], _, _, _, s, s', x, h, hx, ho => by
    cases hx
    -- The key leaves the session alike, so that the loops go on the same with what is left.
    have hdrawn := alike_compose hrecord s
    obtain ⟨hresult, hturn⟩ :=
      alike_arrive_look hrecord hread hlook hstep hquit (hdrawn.overlay.symm.trans ho)
    simp only [List.nil_append, loopOver, hresult]
    obtain ⟨hres, hsession, hleft⟩ :=
      alike_loopOver hrecord hread hsim hrest hr hr' (hturn.symm.trans h)
    exact ⟨hres, hsession, hleft⟩
  | a :: before, a' :: before', hkeys, ha, ha', s, s', x, h, hx, ho => by
    simp only [List.map_cons, List.cons.injEq] at hkeys
    simp only [List.forall_mem_cons] at ha ha'
    have hturn := alike_arrive hrecord hread hsim hkeys.1 ha.1 ha'.1 h
    -- The loop still waits for a key, so it went on after this one.
    rcases hgo : (s.arrive host a).result with e | (_ | _) <;>
      simp only [waitsOver, hgo, reduceCtorEq] at hx
    simp only [List.cons_append, loopOver, hturn.result, hgo]
    obtain ⟨hres, hsession, hleft⟩ := alike_loopOver_look hlook hstep hquit hrest hr hr' hkeys.2
      ha.2 ha'.2 hturn.session hx ho
    exact ⟨hres, hsession, hleft⟩

omit hread in
/-- A run goes the same with one more key that only looks around. -/
theorem agrees_runOver_look {paths : LogId → Path} (hat : host.LogsAt paths)
    (before before' rest rest' : List (Arrival σ)) {look : Arrival σ}
    (hlook : look.Spares view) (hstep : Action.ofKey look.key ≠ .step)
    (hquit : Action.ofKey look.key ≠ .quit) (hbefore : before.map (·.key) = before'.map (·.key))
    (hrest : rest.map (·.key) = rest'.map (·.key))
    (hspares : ∀ a ∈ before ++ rest, a.Spares view)
    (hspares' : ∀ a ∈ before' ++ rest', a.Spares view) {s s' x : Session σ}
    (h : s.Alike view s') (hx : s.awaitingOver host before = some x)
    (ho : x.board.overlay = none) :
    (s.runOver host (before ++ look :: rest)).Agrees (s'.runOver host (before' ++ rest')) := by
  rw [List.forall_mem_append] at hspares hspares'
  unfold awaitingOver at hx
  rcases hs : (s.start host).result with e | b <;> simp only [hs, reduceCtorEq] at hx
  have hread := readable_of_start host hat hs
  have hstart := alike_start hrecord hread hsim h
  have hloop := alike_loopOver_look hrecord hread hsim hlook hstep hquit hrest hspares.2 hspares'.2
    hbefore hspares.1 hspares'.1 hstart.session hx ho
  unfold runOver
  simp only [hstart.result, hs]
  exact hloop.agrees host

end Session

namespace Session

variable (host : Host σ)

/-- Looking around never changes the run of a program. When a run waits for a key with no fault box
up, one more key that neither steps nor quits changes nothing of the steps asked of the simulator,
of what the board tells of it, and of how the run ends: whatever the log files hold in the run with
the key and in the run without it, and however the world changes around the simulator as they go. -/
theorem looking_keeps_run {paths : LogId → Path} (hsim : host.simulator.DependsOn view)
    (hrecord : ∀ r w, view (host.record r w) = view w) (hat : host.LogsAt paths) (program : String)
    (width height : Int) (options : ViewOptions) (world world' : σ)
    (hworld : view world' = view world) :
    (∀ (before : List String) (look : String) (rest : List String) (x : Session σ),
        Action.ofKey look ≠ .step → Action.ofKey look ≠ .quit →
        (fresh program width height options world).awaiting host before = some x →
        x.board.overlay = none →
        ((fresh program width height options world).run host (before ++ look :: rest)).Agrees
          ((fresh program width height options world').run host (before ++ rest)))
      ∧ ∀ (before before' rest rest' : List (Arrival σ)) (look : Arrival σ) (x : Session σ),
        Action.ofKey look.key ≠ .step → Action.ofKey look.key ≠ .quit →
        before.map (·.key) = before'.map (·.key) → rest.map (·.key) = rest'.map (·.key) →
        look.Spares view → (∀ a ∈ before ++ rest, a.Spares view) →
        (∀ a ∈ before' ++ rest', a.Spares view) →
        (fresh program width height options world).awaitingOver host before = some x →
        x.board.overlay = none →
        ((fresh program width height options world).runOver host (before ++ look :: rest)).Agrees
          ((fresh program width height options world').runOver host (before' ++ rest')) := by
  have hfresh : (fresh program width height options world).Alike view
      (fresh program width height options world') := ⟨rfl, rfl, rfl, rfl, rfl, rfl, rfl, hworld⟩
  refine ⟨fun before look rest x hstep hquit hx ho => ?_,
    fun before before' rest rest' look x hstep hquit hbefore hrest hlook hspares hspares' hx ho =>
      agrees_runOver_look hrecord hsim hat before before' rest rest' hlook hstep hquit hbefore hrest
        hspares hspares' hfresh hx ho⟩
  have hspares : ∀ keys keys' : List String,
      ∀ a ∈ keys.map Arrival.ofKey ++ keys'.map Arrival.ofKey, a.Spares view := by
    intro keys keys' a ha
    rw [← List.map_append] at ha
    obtain ⟨key, -, rfl⟩ := List.mem_map.1 ha
    exact Arrival.spares_ofKey key
  have hagrees := agrees_runOver_look hrecord hsim hat (before.map .ofKey) (before.map .ofKey)
    (rest.map .ofKey) (rest.map .ofKey) (Arrival.spares_ofKey look) hstep hquit rfl rfl
    (hspares before rest) (hspares before rest) hfresh ((awaitingOver_keys host _ before).trans hx)
    ho
  rw [← List.map_append, runOver_keys, ← List.map_cons, ← List.map_append, runOver_keys] at hagrees
  exact hagrees

end Session

/-- A recording simulator takes no notice of its record. -/
theorem Simulator.dependsOn_recording (sim : Simulator σ) :
    sim.recording.DependsOn Recorded.world := by
  have hrecorded : ∀ {α : Type} (q : Query σ α), (Query.recorded q).DependsOn Recorded.world := by
    intro α q r r' hr
    unfold Query.recorded recordedResult
    rw [hr]
    rcases q r'.world with ⟨a, w⟩ | ⟨e, w⟩
    · exact .ok a rfl
    · exact .error e rfl
  refine ⟨hrecorded _, fun call r r' hr => ?_, fun _ => hrecorded _, fun _ => hrecorded _,
    fun _ => hrecorded _, fun _ => hrecorded _, fun _ => hrecorded _, hrecorded _, hrecorded _,
    hrecorded _, hrecorded _⟩
  unfold recording
  dsimp only
  rw [hr]
  rcases sim.step call r'.world with ⟨goesOn, w⟩ | ⟨e, w⟩
  · exact .ok goesOn rfl
  · exact .error e rfl

namespace Scripted

/-- A log file with a line for each step asked of the simulator. -/
def tallyHost : Host (Recorded Bench) where
  simulator := simulator.recording
  logPath _ := "steps.log"
  logFile _ r := .ok (Utf8.encode (r.asked.flatMap fun _ => "step\n".toList))

/-- A machine that halts at its second step, some steps having been asked of it before. -/
def tallied (asked : List AskedStep) : Recorded Bench :=
  ⟨{ printed [] with events := [{}, { halt := true }] }, asked⟩

def tallySession (asked : List AskedStep) : Session (Recorded Bench) :=
  .fresh "p.s" 60 22 {} (tallied asked)

/-- With a tab key between two steps or without it, the program takes both and halts: with the log
file among all that the simulator may depend on, and in runs of which one begins with another line
in its log file and the other has all lines taken out of it on the way. -/
theorem tab_keeps_run :
    let steps := printedSession ["a", "b", "c", "d", "e", "f"]
    let looked := (tallySession []).runOver tallyHost
      ([.ofKey "s"] ++ { key := "tab", change := fun r => { r with asked := [] } }
        :: [.ofKey "s", .ofKey "q"])
    let plain := (tallySession [⟨singleStep 0, none⟩]).runOver tallyHost
      ([.ofKey "s"] ++ [.ofKey "s", .ofKey "q"])
    (steps.run printedHost (["s"] ++ "tab" :: ["s", "q"])).Agrees
        (steps.run printedHost (["s"] ++ ["s", "q"]))
      ∧ looked.Agrees plain ∧ looked.code = .ok exitOk ∧ looked.keysLeft = ["q"]
      ∧ looked.session.calls = [singleStep 0x400000, singleStep 0x400004] := by
  intro steps looked plain
  have hx : steps.awaiting printedHost ["s"]
      = some ((steps.awaiting printedHost ["s"]).get (by decide +kernel)) :=
    (Option.some_get _).symm
  have hsteps := (Session.looking_keeps_run printedHost simulator.dependsOn_id (fun _ _ => rfl)
    (logsAt_host _ _) "p.s" 60 22 {} _ _ rfl).1 ["s"] "tab" ["s", "q"] _ (by decide) (by decide) hx
    (by decide +kernel)
  have hat : tallyHost.LogsAt fun _ => Path.ofString "steps.log" := by
    intro id w
    have hpath : ¬ (Path.ofString "steps.log").isImpossible = true := by decide
    exact ⟨fun h => (nomatch h), fun h => absurd h hpath⟩
  have hx' : (tallySession []).awaitingOver tallyHost [.ofKey "s"]
      = some (((tallySession []).awaitingOver tallyHost [.ofKey "s"]).get (by decide +kernel)) :=
    (Option.some_get _).symm
  have hagrees := (Session.looking_keeps_run tallyHost (Simulator.dependsOn_recording simulator)
    (fun _ _ => rfl) hat "p.s" 60 22 {} (tallied []) (tallied [⟨singleStep 0, none⟩]) rfl).2
    [.ofKey "s"] [.ofKey "s"] [.ofKey "s", .ofKey "q"] [.ofKey "s", .ofKey "q"]
    { key := "tab", change := fun r => { r with asked := [] } } _ (by decide) (by decide) rfl rfl
    (fun _ => rfl) (by simp [Arrival.spares_ofKey]) (by simp [Arrival.spares_ofKey])
    hx' (by decide +kernel)
  exact ⟨hsteps, hagrees, by decide +kernel, by decide +kernel, by decide +kernel⟩

end Scripted

end Stepboard
