import Mathlib.Data.List.Pairwise
import Stepboard.Proofs.DumpShape
import Stepboard.Proofs.Related
/-!
# What a dump reads

A dump asks for the words from the first whole one at or after its start up to its end, and for no
others (`formatMemory_noting`, `mem_noted`). These words decide which lines there are; the bytes are
then read for the lines that are not collapsed, and for them alone (`dumpLines_eq_mapM_fetch`).
-/

namespace Stepboard

/-- The same computation. -/
def MonadRel.same (m : Type → Type) [Monad m] : MonadRel m m where
  Rel x y := x = y
  pure _ := rfl
  bind hx hf := by rw [hx, funext hf]

/-- A computation that comes to a value without more ado. -/
def MonadRel.value (m : Type → Type) [Monad m] [LawfulMonad m] : MonadRel Id m where
  Rel x y := y = Pure.pure x.run
  pure _ := rfl
  bind {α β x y f g} hx hf := by
    rw [hx, pure_bind, hf]
    rfl

section Notes

variable {ε α : Type}

/-- What work came to, and what was noted by then. -/
def withNotes (x : Except ε α) (noted : List Int) : EStateM.Result ε (List Int) α :=
  match x with
  | .ok a => .ok a noted
  | .error e => .error e noted

theorem withNotes_eq_ok_iff {x : Except ε α} {noted noted' : List Int} {a : α} :
    withNotes x noted = .ok a noted' ↔ x = .ok a ∧ noted = noted' := by
  cases x <;> simp [withNotes]

variable (ε)

/-- The same work, with notes of one kind taken. -/
def MonadRel.notes (P : Int → Prop) : MonadRel (Except ε) (EStateM ε (List Int)) where
  Rel x y := ∀ noted, ∃ more, (∀ a ∈ more, P a) ∧ y noted = withNotes x (noted ++ more)
  pure a noted := ⟨[], by simp, by rw [List.append_nil]; rfl⟩
  bind {α β x y f g} hx hf noted := by
    obtain ⟨more, hmore, hy⟩ := hx noted
    cases x with
    | error e => exact ⟨more, hmore, Reading.bind_of_error hy g⟩
    | ok a =>
      obtain ⟨more', hmore', hg⟩ := hf a (noted ++ more)
      refine ⟨more ++ more', ?_, ?_⟩
      · simpa [or_imp, forall_and] using ⟨hmore, hmore'⟩
      · rw [List.append_assoc] at hg
        exact (Reading.bind_of_ok hy g).trans hg

/-- Work that can do without whatever was not noted. -/
def MonadRel.needs (seen : List Int) : MonadRel (Except Unit) (EStateM ε (List Int)) where
  Rel x y := ∀ noted a noted', y noted = .ok a noted' →
    noted ⊆ noted' ∧ (noted' ⊆ seen → x = .ok a)
  pure a noted b noted' h := by
    cases h
    exact ⟨List.Subset.refl _, fun _ => rfl⟩
  bind {α β x y f g} hx hf noted b noted' h := by
    obtain ⟨a, noted₁, hy, hg⟩ := Reading.bind_ok h
    obtain ⟨hle, hval⟩ := hx noted a noted₁ hy
    obtain ⟨hle', hval'⟩ := hf a noted₁ b noted' hg
    refine ⟨List.Subset.trans hle hle', fun hseen => ?_⟩
    rw [hval (List.Subset.trans hle' hseen)]
    exact hval' hseen

end Notes

namespace Memory

/-- The addresses of the words of a dump. -/
def InDump (start stop address : Int) : Prop :=
  ∃ i : Nat, address = wordAt (roundUp start wordSize) i ∧ address < stop

theorem inDump_wordAt {start stop : Int} {i : Nat} :
    i < wordCount (roundUp start wordSize) stop →
      InDump start stop (wordAt (roundUp start wordSize) i) :=
  fun h => ⟨i, rfl, (lt_wordCount_iff ..).mp h⟩

section Related

variable {m n : Type → Type} [Monad m] [Monad n] (R : MonadRel m n) {r : Reader m} {r' : Reader n}

/-- Related reads of the words of a dump, and of their bytes, are all that it hangs on. -/
theorem related_of_inDump {start stop : Int}
    (hword : ∀ a, InDump start stop a → R.Rel (r.readWord a) (r'.readWord a))
    (hbyte : ∀ a, InDump start stop a → ∀ j : Nat, j < wordSize →
      R.Rel (r.readByte (a + j)) (r'.readByte (a + j))) :
    r.Related R r' (roundUp start wordSize) (wordCount (roundUp start wordSize) stop) := by
  refine ⟨fun i hi => hword _ (inDump_wordAt hi), fun i hi => ?_⟩
  have hrel := hbyte _ (inDump_wordAt (Nat.div_lt_of_lt_mul hi)) (i % wordSize)
    (Nat.mod_lt i (by decide))
  have hat : wordAt (roundUp start wordSize) (i / wordSize) + (i % wordSize : Nat)
      = roundUp start wordSize + i := by
    simp only [wordAt, wordSize]
    omega
  rwa [hat] at hrel

end Related

section Asked

variable {ε : Type} (memory : Reader (Except ε))

/-- A memory that notes the addresses of the words that it is asked for. -/
def Reader.noting : Reader (EStateM ε (List Int)) where
  readWord address noted := withNotes (memory.readWord address) (noted ++ [address])
  readByte address noted := withNotes (memory.readByte address) noted

/-- A memory that tells no words but those at some addresses. -/
def Reader.only (seen : List Int) : Reader (Except Unit) where
  readWord address :=
    if address ∈ seen then (memory.readWord address).mapError fun _ => () else .error ()
  readByte address := (memory.readByte address).mapError fun _ => ()

theorem Reader.exists_holds : ∃ word byte, memory.Holds word byte := by
  refine ⟨fun a => (memory.readWord a).toOption.getD 0,
    fun a => (memory.readByte a).toOption.getD 0, fun h => ?_, fun h => ?_⟩ <;>
      simp [h, Except.toOption]

variable {memory} {start stop : Int} {base : Base}

theorem readWord_of_formatMemory {texts : List String}
    (h : formatMemory memory start stop base = .ok texts) {a : Int} (ha : InDump start stop a) :
    ∃ value, memory.readWord a = .ok value := by
  obtain ⟨word, byte, holds⟩ := memory.exists_holds
  obtain ⟨lines, hlines, -⟩ := bind_eq_ok_iff.mp h
  obtain ⟨i, rfl, hlt⟩ := ha
  exact ⟨_, (dumpLines_ok holds hlines).1 i ((lt_wordCount_iff ..).mpr hlt)⟩

variable (memory start stop base)

theorem formatMemory_noting : ∃ noted, (∀ a ∈ noted, InDump start stop a)
    ∧ formatMemory memory.noting start stop base []
      = withNotes (formatMemory memory start stop base) noted := by
  have hrelated : memory.Related (MonadRel.notes ε (InDump start stop)) memory.noting
      (roundUp start wordSize) (wordCount (roundUp start wordSize) stop) := by
    refine related_of_inDump _ (fun a ha noted => ⟨[a], by simpa using ha, rfl⟩)
      fun a _ j _ noted => ⟨[], by simp, ?_⟩
    rw [List.append_nil]
    rfl
  exact related_formatMemory _ base hrelated []

variable {memory start stop base}

/-- Were a word of a dump not asked for, the dump would come out without it. -/
theorem mem_noted {texts : List String} {noted : List Int}
    (h : formatMemory memory.noting start stop base [] = .ok texts noted) {a : Int}
    (ha : InDump start stop a) : a ∈ noted := by
  have hneeds : (memory.only noted).Related (MonadRel.needs ε noted) memory.noting
      (roundUp start wordSize) (wordCount (roundUp start wordSize) stop) := by
    refine related_of_inDump _ (fun b _ before v after hv => ?_) fun b _ j _ before v after hv => ?_
    · obtain ⟨hread, rfl⟩ := withNotes_eq_ok_iff.mp hv
      refine ⟨List.subset_append_left .., fun hseen => ?_⟩
      have hb : b ∈ noted := hseen (by simp)
      simp [Reader.only, hb, hread, Except.mapError]
    · obtain ⟨hread, rfl⟩ := withNotes_eq_ok_iff.mp hv
      exact ⟨List.Subset.refl _, fun _ => by simp [Reader.only, hread, Except.mapError]⟩
  have hdump := (related_formatMemory _ base hneeds [] texts noted h).2 (List.Subset.refl _)
  obtain ⟨value, hvalue⟩ := readWord_of_formatMemory hdump ha
  by_contra hout
  simp [Reader.only, hout] at hvalue

end Asked

section Plan

/-- A memory of words alone. -/
def Reader.ofWords (word : Int → Int) : Reader Id where
  readWord := word
  readByte _ := (0 : Int)

theorem Reader.readWord_ofWords (word : Int → Int) (a : Int) :
    (Reader.ofWords word).readWord a = (pure (word a) : Id Int) := rfl

theorem Reader.readByte_ofWords (word : Int → Int) (a : Int) :
    (Reader.ofWords word).readByte a = (pure ((fun _ => 0 : Int → Int) a) : Id Int) := rfl

/-- The lines that words come to in a dump, before any byte is read. -/
def linesOf (word : Int → Int) (start stop : Int) : List Line :=
  (dumpLines (Reader.ofWords word) start stop).run

namespace Line

variable {m : Type → Type} [Monad m]

/-- A line with its bytes, read if it shows any. -/
def fetch (readByte : Int → m Int) : Line → m Line
  | .zeros first last => pure (.zeros first last)
  | .data address words _ => do
    let bytes ← readEach readByte 1 address (wordSize * words.length)
    pure (.data address words bytes)

/-- The addresses of the bytes that a line shows. -/
def Shows : Line → Int → Prop
  | .zeros .., _ => False
  | .data address words _, b => address ≤ b ∧ b < address + wordSize * words.length

theorem fetch_congr {readByte readByte' : Int → m Int} {line : Line}
    (h : ∀ b, line.Shows b → readByte b = readByte' b) :
    line.fetch readByte = line.fetch readByte' := by
  cases line with
  | zeros first last => rfl
  | data address words bytes =>
    have hbytes : readEach readByte 1 address (wordSize * words.length)
        = readEach readByte' 1 address (wordSize * words.length) := by
      refine related_readEach (MonadRel.same m) 1 _ address fun i hi => h _ ?_
      simp only [Shows]
      omega
    simp only [fetch, hbytes]

end Line

theorem mapM_congr {m : Type → Type} [Monad m] [LawfulMonad m] {α β : Type} {f g : α → m β}
    {l : List α} (h : ∀ a ∈ l, f a = g a) : l.mapM f = l.mapM g := by
  induction l with
  | nil => simp
  | cons a l ih =>
    rw [List.mapM_cons, List.mapM_cons, h a List.mem_cons_self,
      ih fun b hb => h b (List.mem_cons_of_mem a hb)]

section Fetch

variable {m : Type → Type} [Monad m] [LawfulMonad m] {memory : Reader m} {word : Int → Int}

variable (hw : ∀ a, memory.readWord a = pure (word a))

include hw

theorem readLine_eq_fetch (address : Int) (count : Nat) :
    readLine memory address count
      = (readLine (Reader.ofWords word) address count).run.fetch memory.readByte := by
  rw [readLine_pure (Reader.readWord_ofWords word) (Reader.readByte_ofWords word)]
  simp only [readLine, readEach_pure hw, pure_bind, dataLine, Id.run_pure, Line.fetch,
    List.length_map, List.length_range]
  rfl

theorem zeroRun_eq_run (address : Int) (limit : Nat) :
    zeroRun memory address limit = pure (zeroRun (Reader.ofWords word) address limit).run :=
  related_zeroRunFrom (MonadRel.value m) limit 0 address fun _ _ => hw _

theorem linesFrom_eq_mapM_fetch (address : Int) (remaining : Nat) :
    linesFrom memory address remaining
      = (linesFrom (Reader.ofWords word) address remaining).run.mapM
          (Line.fetch memory.readByte) := by
  induction remaining using Nat.strongRecOn generalizing address with
  | ind remaining ih =>
    rw [linesFrom, linesFrom]
    split_ifs with h0
    · simp
    · rw [zeroRun_eq_run hw, pure_bind]
      have hc := wordsToBoundary_pos address
      simp only [Id.run_bind]
      split_ifs with hrun
      · simp only [minZeroRun] at hrun
        rw [ih _ (by omega)]
        simp [Line.fetch]
      · rw [ih _ (by omega), readLine_eq_fetch hw]
        simp

theorem dumpLines_eq_mapM_fetch (start stop : Int) :
    dumpLines memory start stop
      = (linesOf word start stop).mapM (Line.fetch memory.readByte) := by
  simp only [linesOf, dumpLines]
  split_ifs with h0 halign
  · simp
  · exact linesFrom_eq_mapM_fetch hw _ _
  · rw [readLine_eq_fetch hw, linesFrom_eq_mapM_fetch hw]
    simp

end Fetch

/-- The words decide the lines of a dump, whatever comes of reading their bytes. -/
theorem formatMemory_of_words {m : Type → Type} [Monad m] [LawfulMonad m] {memory : Reader m}
    {word : Int → Int} {start stop : Int}
    (hword : ∀ a, InDump start stop a → memory.readWord a = pure (word a)) (base : Base) :
    formatMemory memory start stop base
      = (linesOf word start stop).mapM (Line.fetch memory.readByte)
        >>= fun lines => pure (lines.map (Line.render base)) := by
  have htold : memory.Related (MonadRel.same m) ⟨fun a => pure (word a), memory.readByte⟩
      (roundUp start wordSize) (wordCount (roundUp start wordSize) stop) :=
    related_of_inDump _ hword fun _ _ _ _ => rfl
  have hsame := related_formatMemory _ base htold
  rw [hsame, formatMemory, dumpLines_eq_mapM_fetch fun _ => rfl]

end Plan

section Covers

variable {word byte : Int → Int} {address : Int} {n : Nat} {lines : List Line}

/-- The address that a line begins with, and the one that it ends before. -/
def Line.bounds : Line → Int × Int
  | .zeros first last => (first, last + wordSize)
  | .data first words _ => (first, first + wordSize * words.length)

theorem Covers.within (h : Covers word byte address n lines) :
    ∀ line ∈ lines, address ≤ line.bounds.1 ∧ line.bounds.2 ≤ address + wordSize * n := by
  induction h with
  | nil => exact fun line hline => absurd hline List.not_mem_nil
  | zeros pos _ _ ih =>
    rintro line (_ | ⟨_, hline⟩)
    · simp only [Line.bounds, wordSize]
      omega
    · have := ih line hline
      simp only [wordSize] at this ⊢
      omega
  | data pos _ _ ih =>
    rintro line (_ | ⟨_, hline⟩)
    · simp only [Line.bounds, dataLine, List.length_map, List.length_range, wordSize]
      omega
    · have := ih line hline
      simp only [wordSize] at this ⊢
      omega

/-- No line shows a byte of a run that another line collapses. -/
theorem Covers.not_shows (h : Covers word byte address n lines) {first last b : Int}
    (hzeros : .zeros first last ∈ lines) (hb : first ≤ b ∧ b < last + wordSize) :
    ∀ line ∈ lines, ¬ line.Shows b := by
  induction h with
  | nil => exact absurd hzeros List.not_mem_nil
  | zeros pos _ rest ih =>
    rcases hzeros with _ | ⟨_, hzeros⟩
    · rintro (⟨f, l⟩ | ⟨f, ws, bs⟩) (_ | ⟨_, hline⟩)
      · exact id
      · exact id
      · have := rest.within _ hline
        simp only [Line.bounds, Line.Shows, wordSize] at this hb ⊢
        omega
    · rintro line (_ | ⟨_, hline⟩)
      · exact id
      · exact ih hzeros line hline
  | data pos _ rest ih =>
    rcases hzeros with _ | ⟨_, hzeros⟩
    rintro line (_ | ⟨_, hline⟩)
    · have := rest.within _ hzeros
      simp only [Line.bounds, Line.Shows, dataLine, List.length_map, List.length_range, wordSize]
        at this hb ⊢
      omega
    · exact ih hzeros line hline

theorem covers_linesOf (word : Int → Int) (start stop : Int) :
    Covers word (fun _ => 0) (roundUp start wordSize) (wordCount (roundUp start wordSize) stop)
      (linesOf word start stop) := by
  obtain ⟨lines, hlines, hcovers⟩ :=
    dumpLines_covers (Reader.readWord_ofWords word) (Reader.readByte_ofWords word) start stop
  rwa [linesOf, hlines]

end Covers

section Fails

variable {ε α β : Type}

def Fails (x : Except ε α) : Prop :=
  ∃ e, x = .error e

theorem not_fails_iff {x : Except ε α} : ¬ Fails x ↔ ∃ a, x = .ok a := by
  cases x <;> simp [Fails]

theorem fails_bind_iff {x : Except ε α} {f : α → Except ε β} :
    Fails (x >>= f) ↔ Fails x ∨ ∃ a, x = .ok a ∧ Fails (f a) := by
  cases x <;> simp [Fails, Bind.bind, Except.bind]

theorem not_fails_pure (a : α) : ¬ Fails (pure a : Except ε α) :=
  fun ⟨_, h⟩ => nomatch h

theorem fails_map_iff {x : Except ε α} {f : α → β} :
    Fails (x >>= fun a => pure (f a)) ↔ Fails x := by
  rw [fails_bind_iff]
  simp [not_fails_pure]

theorem fails_mapM_iff {f : α → Except ε β} {l : List α} :
    Fails (l.mapM f) ↔ ∃ a ∈ l, Fails (f a) := by
  induction l with
  | nil => simp [not_fails_pure]
  | cons a l ih =>
    rw [List.mapM_cons, fails_bind_iff]
    simp only [fails_map_iff, ih, List.mem_cons, exists_eq_or_imp]
    constructor
    · rintro (h | ⟨_, -, h⟩)
      · exact .inl h
      · exact .inr h
    · rintro (h | h)
      · exact .inl h
      · by_cases ha : Fails (f a)
        · exact .inl ha
        · obtain ⟨b, hb⟩ := not_fails_iff.mp ha
          exact .inr ⟨b, hb, h⟩

theorem fails_fetch_iff {readByte : Int → Except ε Int} {line : Line} :
    Fails (line.fetch readByte) ↔ ∃ b, line.Shows b ∧ Fails (readByte b) := by
  cases line with
  | zeros first last => simp [Line.fetch, Line.Shows, not_fails_pure]
  | data address words bytes =>
    simp only [Line.fetch, fails_map_iff, readEach_eq_mapM, fails_mapM_iff, List.mem_range,
      Int.one_mul, Line.Shows]
    constructor
    · rintro ⟨i, hi, h⟩
      exact ⟨address + i, by omega, h⟩
    · rintro ⟨b, hb, h⟩
      refine ⟨(b - address).toNat, by omega, ?_⟩
      rwa [show address + ((b - address).toNat : Int) = b by omega]

end Fails

/-- A dump asks for no words but those from the first whole one at or after its start up to its end,
and unless it fails for all of these; two memories that agree on them and on their bytes have the
same dump. It fails exactly if one of these words cannot be read, or if all can and some byte of a
line that is not collapsed cannot; what the bytes of a collapsed run are, or whether they can be
read, is of no account. -/
theorem dump_reads_its_range {ε : Type} (memory : Reader (Except ε)) (start stop : Int)
    (base : Base) :
    (∃ noted, formatMemory memory.noting start stop base []
          = withNotes (formatMemory memory start stop base) noted
        ∧ (∀ a ∈ noted, InDump start stop a)
        ∧ (¬ Fails (formatMemory memory start stop base) →
          ∀ a, InDump start stop a → a ∈ noted))
      ∧ (∀ other : Reader (Except ε),
        (∀ a, InDump start stop a → other.readWord a = memory.readWord a
          ∧ ∀ j : Nat, j < wordSize → other.readByte (a + j) = memory.readByte (a + j)) →
        formatMemory other start stop base = formatMemory memory start stop base)
      ∧ (Fails (formatMemory memory start stop base)
        ↔ (∃ a, InDump start stop a ∧ Fails (memory.readWord a))
          ∨ ∃ word, (∀ a, InDump start stop a → memory.readWord a = .ok (word a))
            ∧ ∃ line ∈ linesOf word start stop, ∃ b, line.Shows b ∧ Fails (memory.readByte b))
      ∧ ∀ word, (∀ a, InDump start stop a → memory.readWord a = .ok (word a)) →
        ∀ first last, .zeros first last ∈ linesOf word start stop →
          ∀ readByte : Int → Except ε Int,
            (∀ b : Int, ¬ (first ≤ b ∧ b < last + wordSize) → readByte b = memory.readByte b) →
            formatMemory ⟨memory.readWord, readByte⟩ start stop base
              = formatMemory memory start stop base := by
  have hbytes : ∀ word, (∀ a, InDump start stop a → memory.readWord a = .ok (word a)) →
      (Fails (formatMemory memory start stop base)
        ↔ ∃ line ∈ linesOf word start stop, ∃ b, line.Shows b ∧ Fails (memory.readByte b)) := by
    intro word hword
    rw [formatMemory_of_words hword, fails_map_iff, fails_mapM_iff]
    simp only [fails_fetch_iff]
  refine ⟨?_, fun other hagree => ?_, ⟨fun hfails => ?_, ?_⟩, ?_⟩
  · obtain ⟨noted, hnoted, hrun⟩ := formatMemory_noting memory start stop base
    refine ⟨noted, hrun, hnoted, fun hfails a ha => ?_⟩
    obtain ⟨texts, htexts⟩ := not_fails_iff.mp hfails
    rw [htexts] at hrun
    exact mem_noted hrun ha
  · exact related_formatMemory (MonadRel.same _) base
      (related_of_inDump _ (fun a ha => (hagree a ha).1) fun a ha => (hagree a ha).2)
  · by_cases hword : ∃ a, InDump start stop a ∧ Fails (memory.readWord a)
    · exact .inl hword
    · obtain ⟨word, byte, holds⟩ := memory.exists_holds
      have htold : ∀ a, InDump start stop a → memory.readWord a = .ok (word a) := by
        intro a ha
        obtain ⟨value, hvalue⟩ := not_fails_iff.mp fun h => hword ⟨a, ha, h⟩
        rw [hvalue, holds.word hvalue]
      exact .inr ⟨word, htold, (hbytes word htold).mp hfails⟩
  · rintro (⟨a, ha, hfails⟩ | ⟨word, hword, hshown⟩)
    · by_contra hok
      obtain ⟨texts, htexts⟩ := not_fails_iff.mp hok
      obtain ⟨value, hvalue⟩ := readWord_of_formatMemory htexts ha
      exact not_fails_iff.mpr ⟨value, hvalue⟩ hfails
    · exact (hbytes word hword).mpr hshown
  · intro word hword first last hzeros readByte hsame
    have hother : ∀ a, InDump start stop a →
        (Reader.mk memory.readWord readByte).readWord a = .ok (word a) := hword
    rw [formatMemory_of_words hword, formatMemory_of_words hother]
    have hfetch : (linesOf word start stop).mapM (Line.fetch readByte)
        = (linesOf word start stop).mapM (Line.fetch memory.readByte) := by
      refine mapM_congr fun line hline => Line.fetch_congr fun b hb => hsame b fun hin => ?_
      exact (covers_linesOf word start stop).not_shows hzeros hin line hline hb
    rw [hfetch]

/-- The bytes of the collapsed line may be out of reach. -/
example : formatMemory ⟨island.readWord, fun a => if 16 ≤ a ∧ a < 32 then .error () else
    island.readByte a⟩ 5 61 .decimal = .ok islandDump := by
  decide +kernel

end Memory

end Stepboard
