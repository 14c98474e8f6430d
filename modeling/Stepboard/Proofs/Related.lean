import Stepboard.Board.Content
/-!
# Related computations

A relation between the computations of two monads that `pure` and `bind` keep also relates what is
built from related reads in the same way: dumps, for which the reads of the words dumped and of
their bytes have to be related (`related_formatMemory`), and, where the relation relates failures as
well, all that the panes show of two simulators (`related_snapshot`).
-/

namespace Stepboard

theorem bind_eq_ok_iff {ε α β : Type} {x : Except ε α} {f : α → Except ε β} {b : β} :
    x >>= f = .ok b ↔ ∃ a, x = .ok a ∧ f a = .ok b := by
  cases x with
  | error e => exact iff_of_false (fun h => nomatch h) fun ⟨_, h, _⟩ => nomatch h
  | ok a =>
    constructor
    · exact fun h => ⟨a, rfl, h⟩
    · rintro ⟨_, ⟨⟩, h⟩
      exact h

namespace Reading

variable {ε σ α β : Type} {w w' : σ}

section Bind

variable {x : EStateM ε σ α} {f : α → EStateM ε σ β} {a : α} {b : β} {e : ε}

theorem bind_of_ok (h : x w = .ok a w') (f : α → EStateM ε σ β) : (x >>= f) w = f a w' := by
  simp only [Bind.bind, EStateM.bind, h]

theorem bind_of_error (h : x w = .error e w') (f : α → EStateM ε σ β) :
    (x >>= f) w = .error e w' := by
  simp only [Bind.bind, EStateM.bind, h]

theorem bind_ok (h : (x >>= f) w = .ok b w') : ∃ a v, x w = .ok a v ∧ f a v = .ok b w' := by
  rcases hx : x w with ⟨a, v⟩ | ⟨e, v⟩
  · exact ⟨a, v, rfl, (bind_of_ok hx f).symm.trans h⟩
  · cases (bind_of_error hx f).symm.trans h

theorem bind_error (h : (x >>= f) w = .error e w') :
    x w = .error e w' ∨ ∃ a v, x w = .ok a v ∧ f a v = .error e w' := by
  rcases hx : x w with ⟨a, v⟩ | ⟨e', v⟩
  · exact .inr ⟨a, v, rfl, (bind_of_ok hx f).symm.trans h⟩
  · cases (bind_of_error hx f).symm.trans h
    exact .inl rfl

end Bind

theorem lift_of_error {q : Query σ α} {e : QueryError} (h : q w = .error e w') :
    q.lift w = .error e.toFailure w' := by
  simp only [Query.lift, h]

theorem lift_eq_ok_iff {q : Query σ α} {a : α} : q.lift w = .ok a w' ↔ q w = .ok a w' := by
  unfold Query.lift
  rcases q w with ⟨b, v⟩ | ⟨e, v⟩ <;> simp

end Reading

/-- A relation between the computations of two monads that `pure` and `bind` keep. -/
structure MonadRel (m n : Type → Type) [Monad m] [Monad n] where
  Rel : {α : Type} → m α → n α → Prop
  pure {α : Type} (a : α) : Rel (pure a) (pure a)
  bind {α β : Type} {x : m α} {y : n α} {f : α → m β} {g : α → n β} :
    Rel x y → (∀ a, Rel (f a) (g a)) → Rel (x >>= f) (y >>= g)

namespace Memory

section

variable {m n : Type → Type} [Monad m] [Monad n] (R : MonadRel m n) {r : Reader m} {r' : Reader n}

/-- The reads of `count` words from an address on are related, and those of their bytes. -/
structure Reader.Related (r : Reader m) (r' : Reader n) (address : Int) (count : Nat) : Prop where
  word : ∀ i : Nat, i < count →
    R.Rel (r.readWord (address + wordSize * i)) (r'.readWord (address + wordSize * i))
  byte : ∀ i : Nat, i < wordSize * count →
    R.Rel (r.readByte (address + i)) (r'.readByte (address + i))

variable {R}

theorem Reader.Related.take {address : Int} {count k : Nat} (h : r.Related R r' address count)
    (hk : k ≤ count) : r.Related R r' address k :=
  ⟨fun i hi => h.word i (by omega), fun i hi => h.byte i (by simp only [wordSize] at *; omega)⟩

theorem Reader.Related.drop {address : Int} {count : Nat} (h : r.Related R r' address count)
    (k : Nat) : r.Related R r' (address + wordSize * k) (count - k) := by
  constructor
  · intro i hi
    have hword := h.word (k + i) (by omega)
    rwa [Int.natCast_add, Int.mul_add, ← Int.add_assoc] at hword
  · intro i hi
    have hbyte := h.byte (wordSize * k + i) (by simp only [wordSize] at *; omega)
    rwa [Int.natCast_add, Int.natCast_mul, ← Int.add_assoc] at hbyte

variable (R)

theorem related_readEach {read : Int → m Int} {read' : Int → n Int} (step : Int) :
    ∀ (count : Nat) (address : Int),
      (∀ i : Nat, i < count → R.Rel (read (address + step * i)) (read' (address + step * i))) →
        R.Rel (readEach read step address count) (readEach read' step address count)
  | 0, _, _ => R.pure []
  | count + 1, address, h => by
    have hfirst := h 0 (by omega)
    rw [Int.natCast_zero, Int.mul_zero, Int.add_zero] at hfirst
    refine R.bind hfirst fun _ => R.bind (related_readEach step count _ fun i hi => ?_) fun _ =>
      R.pure _
    have hnext := h (i + 1) (by omega)
    rwa [Int.natCast_succ, Int.mul_add, Int.mul_one, Int.add_comm (step * i), ← Int.add_assoc]
      at hnext

theorem related_zeroRunFrom : ∀ (limit count : Nat) (address : Int),
    (∀ i : Nat, i < limit →
      R.Rel (r.readWord (address + wordSize * i)) (r'.readWord (address + wordSize * i))) →
        R.Rel (zeroRunFrom r count address limit) (zeroRunFrom r' count address limit)
  | 0, count, _, _ => R.pure count
  | limit + 1, count, address, h => by
    have hfirst := h 0 (by omega)
    rw [Int.natCast_zero, Int.mul_zero, Int.add_zero] at hfirst
    refine R.bind hfirst fun w => ?_
    split
    · refine related_zeroRunFrom limit _ _ fun i hi => ?_
      have hnext := h (i + 1) (by omega)
      rwa [Int.natCast_succ, Int.mul_add, Int.mul_one, Int.add_comm (wordSize * i : Int),
        ← Int.add_assoc] at hnext
    · exact R.pure count

theorem related_readLine {address : Int} {count : Nat} (h : r.Related R r' address count) :
    R.Rel (readLine r address count) (readLine r' address count) := by
  refine R.bind (related_readEach R _ _ _ h.word) fun _ =>
    R.bind (related_readEach R _ _ _ fun i hi => ?_) fun _ => R.pure _
  rw [Int.one_mul]
  exact h.byte i hi

theorem related_linesFrom {address : Int} {remaining : Nat}
    (h : r.Related R r' address remaining) :
    R.Rel (linesFrom r address remaining) (linesFrom r' address remaining) := by
  induction remaining using Nat.strongRecOn generalizing address with
  | ind remaining ih =>
    unfold linesFrom
    split
    · exact R.pure []
    · refine R.bind (related_zeroRunFrom R _ _ _ h.word) fun run => ?_
      have hc := wordsToBoundary_pos address
      split
      · rename_i hrun
        simp only [minZeroRun] at hrun
        exact R.bind (ih _ (by omega) (h.drop run)) fun _ => R.pure _
      · exact R.bind (related_readLine R (h.take (Nat.min_le_left ..))) fun _ =>
          R.bind (ih _ (by omega) (h.drop _)) fun _ => R.pure _

theorem related_dumpLines {start stop : Int}
    (h : r.Related R r' (roundUp start wordSize) (wordCount (roundUp start wordSize) stop)) :
    R.Rel (dumpLines r start stop) (dumpLines r' start stop) := by
  simp only [dumpLines]
  split
  · exact R.pure []
  · split
    · exact related_linesFrom R h
    · exact R.bind (related_readLine R (h.take (Nat.min_le_left ..))) fun _ =>
        R.bind (related_linesFrom R (h.drop _)) fun _ => R.pure _

/-- Dumps of memories are related if the reads of the words dumped and of their bytes are. -/
theorem related_formatMemory {start stop : Int} (base : Base)
    (h : r.Related R r' (roundUp start wordSize) (wordCount (roundUp start wordSize) stop)) :
    R.Rel (formatMemory r start stop base) (formatMemory r' start stop base) :=
  R.bind (related_dumpLines R h) fun _ => R.pure _

end

end Memory

/-- A relation between readings in two kinds of state that also relates equal failures. -/
structure ReadingRel (σ τ : Type) extends MonadRel (EStateM Failure σ) (EStateM Failure τ) where
  throw {α : Type} (e : Failure) :
    Rel (throw e : EStateM Failure σ α) (throw e : EStateM Failure τ α)

/-- Two simulators that answer all questions in related ways. -/
structure Simulator.Related {σ τ : Type} (R : ReadingRel σ τ) (sim : Simulator σ)
    (sim' : Simulator τ) : Prop where
  currentPc : R.Rel sim.currentPc.lift sim'.currentPc.lift
  formatRegisters (hex : Bool) :
    R.Rel (sim.formatRegisters hex).lift (sim'.formatRegisters hex).lift
  disassemble (start : Int) : R.Rel (sim.disassemble start).lift (sim'.disassemble start).lift
  instructionAt (address : Int) :
    R.Rel (sim.instructionAt address).lift (sim'.instructionAt address).lift
  readWord (address : Int) : R.Rel (sim.readWord address).lift (sim'.readWord address).lift
  readByte (address : Int) : R.Rel (sim.readByte address).lift (sim'.readByte address).lift
  dataSegment : R.Rel sim.dataSegment.lift sim'.dataSegment.lift
  stackSegment : R.Rel sim.stackSegment.lift sim'.stackSegment.lift
  kernelDataSegment : R.Rel sim.kernelDataSegment.lift sim'.kernelDataSegment.lift

namespace Simulator

variable {σ τ : Type} {R : ReadingRel σ τ} {sim : Simulator σ} {sim' : Simulator τ}
  (h : sim.Related R sim')

include h

theorem related_currentListing : R.Rel sim.currentListing sim'.currentListing :=
  R.bind h.currentPc fun _ => R.bind (h.disassemble _) fun _ => R.pure _

theorem related_instructionText (pc : Int) :
    R.Rel (sim.instructionText pc) (sim'.instructionText pc) := by
  simp only [instructionText]
  split
  · exact R.pure ""
  · exact h.instructionAt pc

theorem related_listingContent (lines : List String) :
    R.Rel (sim.listingContent lines) (sim'.listingContent lines) :=
  R.bind h.currentPc fun pc => R.bind (related_instructionText h pc) fun _ => R.pure _

omit h in
theorem related_segment (R : ReadingRel σ τ) (label : String) (low high : Int) :
    R.Rel (segment label low high : Reading σ Memory.Segment) (segment label low high) := by
  simp only [segment]
  split
  · exact R.pure _
  · exact R.throw _

theorem related_dumpBlocks (radix : Option Int) : ∀ segments : List Memory.Segment,
    R.Rel (sim.dumpBlocks radix segments) (sim'.dumpBlocks radix segments)
  | [] => R.pure []
  | s :: rest => by
    refine R.bind ?_ fun b =>
      R.bind (Memory.related_formatMemory R.toMonadRel b
        ⟨fun _ _ => h.readWord _, fun _ _ => h.readByte _⟩) fun _ =>
      R.bind (related_dumpBlocks radix rest) fun _ => R.pure _
    simp only [base]
    split
    · exact R.pure _
    · exact R.throw _

theorem related_dataContent (radix : Option Int) :
    R.Rel (sim.dataContent radix) (sim'.dataContent radix) :=
  R.bind (R.bind h.dataSegment fun _ => R.bind h.kernelDataSegment fun _ =>
    R.bind (related_segment R _ _ _) fun _ => R.bind (related_segment R _ _ _) fun _ => R.pure _)
  fun segments => R.bind (related_dumpBlocks h radix segments) fun _ => R.pure _

theorem related_stackContent (radix : Option Int) :
    R.Rel (sim.stackContent radix) (sim'.stackContent radix) :=
  R.bind (R.bind h.stackSegment fun _ => R.bind (related_segment R _ _ _) fun _ => R.pure _)
  fun segments => R.bind (related_dumpBlocks h radix segments) fun _ => R.pure _

/-- What the panes show of two simulators that answer in related ways is related. -/
theorem related_snapshot (options : ViewOptions) (lines : List String) :
    R.Rel (sim.snapshot options lines) (sim'.snapshot options lines) :=
  R.bind (R.bind (h.formatRegisters _) fun _ => R.pure _) fun _ =>
  R.bind (related_listingContent h lines) fun _ =>
  R.bind (related_dataContent h _) fun _ =>
  R.bind (related_stackContent h _) fun _ =>
  R.bind h.currentPc fun pc =>
  R.bind (related_instructionText h pc) fun _ => R.pure _

end Simulator

end Stepboard
