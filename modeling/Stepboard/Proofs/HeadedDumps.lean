import Stepboard.Proofs.Lossless
import Stepboard.Proofs.Related
/-!
# Dumps of segments

The dump of segments is taken apart by its lines and its styles alone: each styled line is a
heading, and up to the blank line before the next one stands the dump of its segment
(`blocks_ofBlocks`). Its rows are of three kinds, and only collapsed lines are read as runs of zero
words (`parse?_text_iff`), since headings end in a bracket, whatever their labels, and the tag of a
line of words is followed by a blank, whatever its bytes. Reads may change the simulator in all of
this.
-/

namespace Stepboard

namespace Content

/-- The lines from each of some positions on, the last one before the next position left out. -/
def cutAt (lines : List String) : List Nat → List (List String)
  | [] => []
  | [p] => [lines.drop p]
  | p :: q :: rest => (lines.drop p).take (q - 1 - p) :: cutAt lines (q :: rest)

/-- The blocks that begin with the styled lines, without the lines between them. -/
def blocks (c : Content) : List (List String) :=
  cutAt c.lines (c.styles.map (·.1.toNat))

/-- Where blocks begin, the first at a position and each other after one more line. -/
def starts (position : Nat) : List (List String) → List Nat
  | [] => []
  | block :: blocks => position :: starts (position + block.length + 1) blocks

def stylesAt (positions : List Nat) : LineStyles :=
  positions.map fun p : Nat => ((p : Int), boldStyle)

theorem foldl_addBlock (blocks : List (List String)) (c : Content) (hc : c.lines ≠ []) :
    blocks.foldl addBlock c
      = { c with lines := c.lines ++ blocks.flatMap ("" :: ·)
                 styles := c.styles ++ stylesAt (starts (c.lines.length + 1) blocks) } := by
  induction blocks generalizing c with
  | nil => simp [starts, stylesAt]
  | cons block blocks ih =>
    have hadd : c.addBlock block
        = { c with lines := c.lines ++ "" :: block
                   styles := c.styles ++ stylesAt [c.lines.length + 1] } := by
      simp [addBlock, stylesAt, hc]
    have hlength : (c.lines ++ "" :: block).length + 1 = c.lines.length + 1 + block.length + 1 := by
      simp
      omega
    rw [List.foldl_cons, hadd, ih _ (by simp)]
    simp only [hlength, starts, stylesAt, List.flatMap_cons, List.map_cons, List.map_nil,
      List.append_assoc, List.cons_append, List.nil_append]

theorem ofBlocks_cons {block : List String} (hne : block ≠ []) (blocks : List (List String)) :
    ofBlocks (block :: blocks)
      = { lines := block ++ blocks.flatMap ("" :: ·)
          styles := stylesAt (starts 0 (block :: blocks)) } := by
  have hadd : addBlock {} block = { lines := block, styles := [(0, boldStyle)] } := rfl
  rw [ofBlocks, List.foldl_cons, hadd, foldl_addBlock blocks _ hne]
  simp [starts, stylesAt]

theorem cutAt_starts (before block : List String) (blocks : List (List String)) :
    cutAt (before ++ (block ++ blocks.flatMap ("" :: ·))) (starts before.length (block :: blocks))
      = block :: blocks := by
  induction blocks generalizing before block with
  | nil => simp [starts, cutAt]
  | cons next blocks ih =>
    have hrest := ih (before ++ (block ++ [""])) next
    have hlength : (before ++ (block ++ [""])).length = before.length + block.length + 1 := by
      simp
      omega
    have happend : before ++ (block ++ [""]) ++ (next ++ blocks.flatMap ("" :: ·))
        = before ++ (block ++ (next :: blocks).flatMap ("" :: ·)) := by simp
    rw [hlength, happend] at hrest
    have hcount : before.length + block.length + 1 - 1 - before.length = block.length := by omega
    rw [starts, starts, cutAt, hcount, List.drop_left, List.take_left]
    rw [starts] at hrest
    rw [hrest]

theorem map_fst_stylesAt (positions : List Nat) :
    (stylesAt positions).map (·.1.toNat) = positions := by
  simp [stylesAt, Function.comp_def]

/-- Content made of blocks tells them, if none is empty. -/
theorem blocks_ofBlocks {blocks : List (List String)} (hne : ∀ block ∈ blocks, block ≠ []) :
    (ofBlocks blocks).blocks = blocks := by
  cases blocks with
  | nil => rfl
  | cons block rest =>
    rw [ofBlocks_cons (hne block List.mem_cons_self), Content.blocks, map_fst_stylesAt]
    exact cutAt_starts [] block rest

end Content

namespace Memory

/-- A row of the dump of segments. -/
inductive Row where
  | heading (s : Segment)
  | separator
  | line (l : Line)

namespace Row

def text (base : Base) : Row → String
  | heading s => s.heading
  | separator => ""
  | line l => l.render base

def isHeading : Row → Bool
  | heading _ => true
  | _ => false

/-- The positions of the headings among rows, which are counted from a number on. -/
def headingsFrom (start : Nat) (rows : List Row) : List Nat :=
  (rows.zipIdx start).filterMap fun (row, i) => if row.isHeading then some i else none

/-- The rows of a segment and the lines of its dump. -/
def block (part : Segment × List Line) : List Row :=
  .heading part.1 :: part.2.map .line

/-- The rows of segments and the lines of their dumps. -/
def ofParts : List (Segment × List Line) → List Row
  | [] => []
  | part :: parts => block part ++ parts.flatMap fun part => .separator :: block part

theorem headingsFrom_append (start : Nat) (rows rows' : List Row) :
    headingsFrom start (rows ++ rows')
      = headingsFrom start rows ++ headingsFrom (start + rows.length) rows' := by
  rw [headingsFrom, List.zipIdx_append, List.filterMap_append]
  rfl

theorem headingsFrom_lines (start : Nat) (lines : List Line) :
    headingsFrom start (lines.map .line) = [] := by
  rw [headingsFrom, List.filterMap_eq_nil_iff]
  rintro ⟨row, i⟩ hmem
  obtain ⟨line, -, rfl⟩ := List.mem_map.mp (List.fst_mem_of_mem_zipIdx hmem)
  rfl

theorem headingsFrom_cons (start : Nat) (row : Row) (rows : List Row) :
    headingsFrom start (row :: rows)
      = (if row.isHeading then [start] else []) ++ headingsFrom (start + 1) rows := by
  cases row <;> rfl

theorem headingsFrom_block (start : Nat) (part : Segment × List Line) :
    headingsFrom start (block part) = [start] := by
  rw [block, headingsFrom_cons, headingsFrom_lines]
  rfl

section Parts

variable (base : Base)

/-- The texts of a segment's rows. -/
def texts (part : Segment × List Line) : List String :=
  part.1.heading :: part.2.map (Line.render base)

theorem map_text_block (part : Segment × List Line) :
    (block part).map (text base) = texts base part := by
  simp [block, texts, text, Function.comp_def]

theorem headingsFrom_parts (start : Nat) (part : Segment × List Line)
    (parts : List (Segment × List Line)) :
    headingsFrom start (block part ++ parts.flatMap fun part => .separator :: block part)
      = Content.starts start ((part :: parts).map (texts base)) := by
  induction parts generalizing start part with
  | nil => simp [headingsFrom_block, Content.starts]
  | cons next parts ih =>
    have hlength : start + (block part).length + 1 = start + (texts base part).length + 1 := by
      simp [block, texts]
    rw [headingsFrom_append, headingsFrom_block, List.flatMap_cons, List.singleton_append,
      List.cons_append, headingsFrom_cons, hlength, ih]
    rfl

/-- Content made of the texts of dumps shows their rows, and styles the headings. -/
theorem ofBlocks_texts (parts : List (Segment × List Line)) :
    Content.ofBlocks (parts.map (texts base))
      = { lines := (ofParts parts).map (text base)
          styles := Content.stylesAt (headingsFrom 0 (ofParts parts)) } := by
  cases parts with
  | nil => rfl
  | cons part parts =>
    have hne : texts base part ≠ [] := List.cons_ne_nil _ _
    rw [List.map_cons, Content.ofBlocks_cons hne, ← List.map_cons, ofParts,
      headingsFrom_parts base]
    simp [List.map_flatMap, List.flatMap_map, map_text_block, text]

end Parts

theorem parse?_heading (s : Segment) : ZeroRun.parse? s.heading = none := by
  have hline : s.heading.toList = (s.label ++ " [" ++ Numeral.hexWord s.low ++ "]..["
      ++ Numeral.hexWord s.high).toList ++ [']'] := by
    rw [Segment.heading, String.toList_append]
    rfl
  exact ZeroRun.parse?_eq_none_of_end hline (by decide) (by decide)

/-- Of the rows of a dump within the address space, only collapsed lines are read as runs. -/
theorem parse?_text_iff (base : Base) {row : Row}
    (hrow : ∀ first last : Int, row = .line (.zeros first last) →
      0 ≤ first ∧ first ≤ last ∧ last < wordLimit) (run : ZeroRun) :
    ZeroRun.parse? (row.text base) = some run
      ↔ ∃ first last : Int, row = .line (.zeros first last)
        ∧ run = ⟨first.toNat, last.toNat + wordSize⟩ := by
  rcases row with s | _ | (⟨first, last⟩ | ⟨address, words, bytes⟩)
  · rw [text, parse?_heading]
    simp
  · have hnone : ZeroRun.parse? "" = none := by decide
    rw [text, hnone]
    simp
  · obtain ⟨h0, hle, hlt⟩ := hrow first last rfl
    rw [text, ZeroRun.parse?_zeros_of_lt base h0 hle hlt]
    simp [eq_comm]
  · rw [text, parse?_data]
    simp

end Row

section Stateful

variable {ε σ : Type} {memory : Reader (EStateM ε σ)} {w w' : σ} {address : Int} {n : Nat}
  {lines : List Line}

theorem zeroRunFrom_le : ∀ {limit count : Nat} {address : Int} {w : σ} {run : Nat},
    zeroRunFrom memory count address limit w = .ok run w' → run ≤ count + limit
  | 0, count, address, w, run, h => by
    cases h
    exact Nat.le_refl _
  | limit + 1, count, address, w, run, h => by
    obtain ⟨value, v, -, h⟩ := Reading.bind_ok h
    split_ifs at h
    · have hle := zeroRunFrom_le h
      omega
    · cases h
      omega

theorem exists_data_of_readLine {line : Line} (h : readLine memory address n w = .ok line w') :
    ∃ words bytes, line = .data address words bytes := by
  obtain ⟨words, _, -, h⟩ := Reading.bind_ok h
  obtain ⟨bytes, _, -, h⟩ := Reading.bind_ok h
  cases h
  exact ⟨words, bytes, rfl⟩

/-- The collapsed lines are of words among the `n` from an address on. -/
def RunsWithin (address : Int) (n : Nat) (lines : List Line) : Prop :=
  ∀ first last, .zeros first last ∈ lines →
    ∃ i j, i ≤ j ∧ j < n ∧ first = wordAt address i ∧ last = wordAt address j

theorem RunsWithin.of_rest {k : Nat} (h : RunsWithin (address + wordSize * k) (n - k) lines) :
    RunsWithin address n lines := by
  intro first last hmem
  obtain ⟨i, j, hij, hj, rfl, rfl⟩ := h first last hmem
  exact ⟨k + i, k + j, by omega, by omega, wordAt_add .., wordAt_add ..⟩

theorem RunsWithin.cons_data {words bytes : List Int} (h : RunsWithin address n lines) :
    RunsWithin address n (.data address words bytes :: lines) := by
  rintro first last (_ | ⟨_, hmem⟩)
  exact h first last hmem

theorem runsWithin_linesFrom (h : linesFrom memory address n w = .ok lines w') :
    RunsWithin address n lines := by
  -- Both kinds of lines leave fewer words, so the induction is on their count.
  induction n using Nat.strongRecOn generalizing address w lines with
  | ind n ih =>
    unfold linesFrom at h
    split_ifs at h with h0
    · cases h
      exact fun _ _ hmem => absurd hmem List.not_mem_nil
    · obtain ⟨run, v, hrun, h⟩ := Reading.bind_ok h
      have hle := zeroRunFrom_le hrun
      split_ifs at h with hlong
      · simp only [minZeroRun] at hlong
        obtain ⟨rest, u, hrest, h⟩ := Reading.bind_ok h
        cases h
        have hwithin := (ih _ (by omega) hrest).of_rest
        rintro first last (_ | ⟨_, hmem⟩)
        · refine ⟨0, run - 1, by omega, by omega, (wordAt_zero address).symm, ?_⟩
          simp only [wordAt, wordSize]
          omega
        · exact hwithin first last hmem
      · have hcount := wordsToBoundary_pos address
        obtain ⟨line, u, hline, h⟩ := Reading.bind_ok h
        obtain ⟨words, bytes, rfl⟩ := exists_data_of_readLine hline
        obtain ⟨rest, u', hrest, h⟩ := Reading.bind_ok h
        cases h
        exact (ih _ (by omega) hrest).of_rest.cons_data

theorem runsWithin_dumpLines {start stop : Int} (h : dumpLines memory start stop w = .ok lines w') :
    RunsWithin (roundUp start wordSize) (wordCount (roundUp start wordSize) stop) lines := by
  simp only [dumpLines] at h
  split_ifs at h with h0 halign
  · cases h
    exact fun _ _ hmem => absurd hmem List.not_mem_nil
  · exact runsWithin_linesFrom h
  · obtain ⟨line, u, hline, h⟩ := Reading.bind_ok h
    obtain ⟨words, bytes, rfl⟩ := exists_data_of_readLine hline
    obtain ⟨rest, u', hrest, h⟩ := Reading.bind_ok h
    cases h
    exact (runsWithin_linesFrom hrest).of_rest.cons_data

end Stateful

end Memory

/-- Never failing, as a relation of work to itself. -/
def MonadRel.answers (ε σ : Type) : MonadRel (EStateM ε σ) (EStateM ε σ) where
  Rel x _ := ∀ w, ∃ a w', x w = .ok a w'
  pure a w := ⟨a, w, rfl⟩
  bind hx hf w := by
    obtain ⟨a, v, ha⟩ := hx w
    obtain ⟨b, u, hb⟩ := hf a v
    exact ⟨b, u, (Reading.bind_of_ok ha _).trans hb⟩

namespace Simulator

open Memory

variable {σ : Type}

section Dumps

variable (sim : Simulator σ)

/-- Every word and every byte can be read, in every state. -/
structure AnswersReads : Prop where
  word : ∀ address w, ∃ value w', sim.readWord address w = .ok value w'
  byte : ∀ address w, ∃ value w', sim.readByte address w = .ok value w'

/-- Segments are dumped one after the other, each in the state that the one before it left. -/
inductive DumpsInTurn (base : Base) : σ → List (Segment × List Line) → σ → Prop
  | nil (w : σ) : DumpsInTurn base w [] w
  | cons {w w₁ w₂ : σ} {s : Segment} {lines : List Line} {parts : List (Segment × List Line)}
      (hlines : dumpLines sim.memory s.low s.high w = .ok lines w₁)
      (htexts : formatMemory sim.memory s.low s.high base w
        = .ok (lines.map (Line.render base)) w₁)
      (hrest : DumpsInTurn base w₁ parts w₂) : DumpsInTurn base w ((s, lines) :: parts) w₂

end Dumps

variable {sim : Simulator σ}

theorem base_radix (b : Base) : (base b.radix : Reading σ Base) = pure b := by
  rw [base, Base.ofRadix_radix]

theorem dumpBlocks_ok {b : Base} : ∀ {segments : List Segment} {blocks : List (List String)}
    {w w' : σ}, sim.dumpBlocks b.radix segments w = .ok blocks w' →
      ∃ parts, parts.map Prod.fst = segments ∧ sim.DumpsInTurn b w parts w'
        ∧ blocks = parts.map (Row.texts b)
  | [], blocks, w, w', h => by
    cases h
    exact ⟨[], rfl, .nil w, rfl⟩
  | s :: rest, blocks, w, w', h => by
    rw [dumpBlocks, base_radix, pure_bind] at h
    obtain ⟨texts, v, htexts, h⟩ := Reading.bind_ok h
    obtain ⟨blocks', u, hblocks, h⟩ := Reading.bind_ok h
    cases h
    obtain ⟨parts, rfl, hrest, rfl⟩ := dumpBlocks_ok hblocks
    obtain ⟨lines, v', hlines, hrender⟩ := Reading.bind_ok htexts
    cases hrender
    exact ⟨(s, lines) :: parts, rfl, .cons hlines htexts hrest, rfl⟩

theorem dumpBlocks_answers (hanswers : sim.AnswersReads) (b : Base) : ∀ segments : List Segment,
    (MonadRel.answers Failure σ).Rel (sim.dumpBlocks b.radix segments)
      (sim.dumpBlocks b.radix segments)
  | [] => (MonadRel.answers Failure σ).pure []
  | s :: rest => by
    have hlift : ∀ q : Query σ Int, (∀ w, ∃ value w', q w = .ok value w') →
        (MonadRel.answers Failure σ).Rel q.lift q.lift := fun q hq w => by
      obtain ⟨value, w', h⟩ := hq w
      exact ⟨value, w', Reading.lift_eq_ok_iff.mpr h⟩
    rw [dumpBlocks, base_radix, pure_bind]
    exact MonadRel.bind _ (related_formatMemory _ b
        ⟨fun _ _ => hlift _ (hanswers.word _), fun _ _ => hlift _ (hanswers.byte _)⟩) fun _ =>
      MonadRel.bind _ (dumpBlocks_answers hanswers b rest) fun _ => MonadRel.pure _ _

/-- Runs of a dump in turn are within the address space if the segments are. -/
theorem DumpsInTurn.runs_within {b : Base} {w w' : σ} {parts : List (Segment × List Line)}
    (h : sim.DumpsInTurn b w parts w')
    (hrange : ∀ s ∈ parts.map Prod.fst, 0 ≤ s.low ∧ s.high ≤ wordLimit) :
    ∀ row ∈ Row.ofParts parts, ∀ first last : Int, row = .line (.zeros first last) →
      0 ≤ first ∧ first ≤ last ∧ last < wordLimit := by
  have hparts : ∀ part ∈ parts, ∀ first last : Int, .zeros first last ∈ part.2 →
      0 ≤ first ∧ first ≤ last ∧ last < wordLimit := by
    induction h with
    | nil => exact fun _ hpart => absurd hpart List.not_mem_nil
    | @cons w w₁ w₂ s lines parts hlines _ _ ih =>
      obtain ⟨hs, hrest⟩ := List.forall_mem_cons.mp hrange
      have hlow : 0 ≤ s.low := hs.1
      have hhigh : s.high ≤ wordLimit := hs.2
      rintro part (_ | ⟨_, hpart⟩) first last hmem
      · obtain ⟨i, j, hij, hj, rfl, rfl⟩ := runsWithin_dumpLines hlines first last hmem
        have hstart := roundUp_nonneg hlow
        have hstop := (lt_wordCount_iff _ _ j).mp hj
        simp only [wordAt, wordSize] at hstart hstop ⊢
        omega
      · exact ih hrest part hpart first last hmem
  rintro row hrow first last rfl
  have hblock : ∀ part, .line (.zeros first last) ∈ Row.block part →
      .zeros first last ∈ part.2 := by
    intro part hmem
    simpa [Row.block] using hmem
  cases parts with
  | nil => exact absurd hrow List.not_mem_nil
  | cons part parts =>
    rcases List.mem_append.mp hrow with hrow | hrow
    · exact hparts part List.mem_cons_self first last (hblock part hrow)
    · obtain ⟨next, hnext, hrow⟩ := List.mem_flatMap.mp hrow
      rcases hrow with _ | ⟨_, hrow⟩
      exact hparts next (List.mem_cons_of_mem _ hnext) first last (hblock next hrow)

/-- If a simulator answers all reads, its segments can be dumped. And whatever comes of a dump of
segments of the address space, its blocks are the heading of each segment in turn with the text of
its dump, its styled lines are the headings, and of all its lines just the collapsed ones are read
as runs, namely as their own. -/
theorem dump_is_taken_apart (sim : Simulator σ) (segments : List Segment)
    (hrange : ∀ s ∈ segments, 0 ≤ s.low ∧ s.high ≤ wordLimit) (b : Base) (w : σ) :
    (sim.AnswersReads → ∃ content w', sim.dumpContent segments b.radix w = .ok content w')
      ∧ ∀ content w', sim.dumpContent segments b.radix w = .ok content w' →
        ∃ parts, parts.map Prod.fst = segments ∧ sim.DumpsInTurn b w parts w'
          ∧ content.blocks = parts.map (Row.texts b)
          ∧ content.lines = (Row.ofParts parts).map (Row.text b)
          ∧ content.styles = Content.stylesAt (Row.headingsFrom 0 (Row.ofParts parts))
          ∧ ∀ row ∈ Row.ofParts parts, ∀ run, ZeroRun.parse? (row.text b) = some run
            ↔ ∃ first last : Int, row = .line (.zeros first last)
              ∧ run = ⟨first.toNat, last.toNat + wordSize⟩ := by
  refine ⟨fun hanswers => ?_, fun content w' h => ?_⟩
  · exact MonadRel.bind (MonadRel.answers Failure σ) (dumpBlocks_answers hanswers b segments)
      (fun blocks => MonadRel.pure _ (Content.ofBlocks blocks)) w
  · obtain ⟨blocks, v, hblocks, h⟩ := Reading.bind_ok h
    cases h
    obtain ⟨parts, rfl, hturn, rfl⟩ := dumpBlocks_ok hblocks
    have hne : ∀ block ∈ parts.map (Row.texts b), block ≠ [] := by
      intro block hblock
      obtain ⟨part, -, rfl⟩ := List.mem_map.mp hblock
      exact List.cons_ne_nil _ _
    refine ⟨parts, rfl, hturn, Content.blocks_ofBlocks hne, ?_, ?_, fun row hrow run =>
      Row.parse?_text_iff b (hturn.runs_within hrange row hrow) run⟩
    · rw [Row.ofBlocks_texts]
    · rw [Row.ofBlocks_texts]

end Simulator

namespace Scripted

/-- A machine that counts what is read of it. Its words below the address 0x20 are zero, and each of
its bytes is a bracket. -/
def readCounter : Simulator Nat where
  currentPc n := .ok 0 n
  step _ n := .ok false n
  formatRegisters _ n := .ok "" n
  disassemble _ n := .ok [] n
  instructionAt _ n := .ok "nop" n
  readWord address n := .ok (if address < 0x20 then 0 else n) (n + 1)
  readByte _ n := .ok 0x5d (n + 1)
  undefinedSymbols n := .ok "" n
  dataSegment n := .ok (0, 0) n
  stackSegment n := .ok (0, 0) n
  kernelDataSegment n := .ok (0, 0) n

/-- Two segments that overlap, and an empty one labelled like a collapsed line. -/
def overlappingSegments : List Memory.Segment :=
  [⟨"Stack", 0, 0x24, by decide⟩, ⟨"[00000000]..[00000010]  0", 8, 8, by decide⟩,
    ⟨"", 0x1c, 0x24, by decide⟩]

/-- What their dump shows. -/
def overlappingDump : Content where
  lines :=
    ["Stack [00000000]..[00000024]",
      "[00000000]..[0000001c]  00000000",
      "[00000020]  0000000a                                ]]]]",
      "",
      "[00000000]..[00000010]  0 [00000008]..[00000008]",
      "",
      " [0000001c]..[00000024]",
      "[0000001c]  00000000                                ]]]]",
      "[00000020]  00000015                                ]]]]"]
  styles := [(0, boldStyle), (4, boldStyle), (6, boldStyle)]

theorem answersReads_readCounter : readCounter.AnswersReads :=
  ⟨fun _ _ => ⟨_, _, rfl⟩, fun _ _ => ⟨_, _, rfl⟩⟩

/-- Of the four lines with a range of addresses, only the second line is read as one. -/
theorem overlapping_dump_is_taken_apart :
    (∃ content w', readCounter.dumpContent overlappingSegments (some 16) 0 = .ok content w')
      ∧ readCounter.dumpContent overlappingSegments (some 16) 0 = .ok overlappingDump 26
      ∧ ∃ parts, parts.map Prod.fst = overlappingSegments
        ∧ overlappingDump.blocks = parts.map (Memory.Row.texts .hexadecimal)
        ∧ overlappingDump.styles
          = Content.stylesAt (Memory.Row.headingsFrom 0 (Memory.Row.ofParts parts))
        ∧ ∀ row ∈ Memory.Row.ofParts parts, ∀ run,
          Memory.ZeroRun.parse? (row.text .hexadecimal) = some run
            ↔ ∃ first last : Int, row = .line (.zeros first last)
              ∧ run = ⟨first.toNat, last.toNat + Memory.wordSize⟩ := by
  obtain ⟨hdumped, happart⟩ := Simulator.dump_is_taken_apart readCounter
    overlappingSegments (by decide) .hexadecimal 0
  have hrun : readCounter.dumpContent overlappingSegments (some 16) 0
      = .ok overlappingDump 26 := by with_unfolding_all rfl
  obtain ⟨parts, hfst, -, hblocks, -, hstyles, hrows⟩ := happart _ _ hrun
  exact ⟨hdumped answersReads_readCounter, hrun, parts, hfst, hblocks, hstyles, hrows⟩

end Scripted

end Stepboard
