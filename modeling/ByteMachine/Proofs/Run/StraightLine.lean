import ByteMachine.Proofs.Output.Transcript
import ByteMachine.Proofs.Run.Failure
import ByteMachine.Proofs.Run.Iteration
import Mathlib.Logic.Function.Basic

/-!
# Straight-line programs

- A `Statement` is an instruction that computes or prints, with its operands; it never jumps and leaves the stack alone.
  `assemble` writes a list of statements as bytes, and `evaluate` computes its meaning in numbers, one statement after
  the other.
- A machine `Carries` a computation if its registers, its flags and its output are those of the computation. Where the
  bytes of a statement stand at the program counter, one cycle carries the statement out (`Carries.step`), and so as
  many cycles as a list has statements carry out the list (`Carries.cycles`), wherever in memory its bytes are.
- After a program there is an instruction to halt, or a zero, which is no opcode.

`run_straightLine` puts this together.
-/

namespace ByteMachine

/-! ## Statements -/

/-- An instruction that computes or prints, with its operands. -/
inductive Statement where
  | ldi (r : Register) (value : Byte)
  | prn (r : Register)
  | add (x y : Register)
  | mul (x y : Register)
  | cmp (x y : Register)
deriving DecidableEq

/-- What has been computed: the values of the registers, the byte of flags, and the values printed so far. -/
structure Computation where
  value : Register → Nat
  flags : Nat
  printed : List Nat

namespace Statement

def instruction : Statement → Instruction
  | ldi .. => .ldi
  | prn .. => .prn
  | add .. => .add
  | mul .. => .mul
  | cmp .. => .cmp

/-- The bytes of a statement. -/
def bytes : Statement → List Byte
  | ldi r value => [0x82, r.toByte, value]
  | prn r => [0x47, r.toByte]
  | add x y => [0xA0, x.toByte, y.toByte]
  | mul x y => [0xA2, x.toByte, y.toByte]
  | cmp x y => [0xA7, x.toByte, y.toByte]

/-- What a statement makes of a computation. -/
def apply (c : Computation) : Statement → Computation
  | ldi r value => { c with value := Function.update c.value r value.toNat }
  | prn r => { c with printed := c.printed ++ [c.value r] }
  | add x y => { c with value := Function.update c.value x ((c.value x + c.value y) % 256) }
  | mul x y => { c with value := Function.update c.value x (c.value x * c.value y % 256) }
  | cmp x y => { c with flags := if c.value x < c.value y then 4 else if c.value y < c.value x then 2 else 1 }

end Statement

/-- The bytes of a list of statements. -/
def assemble (program : List Statement) : List Byte := program.flatMap Statement.bytes

/-- Nothing computed yet: all registers are zero but the stack pointer, which is 244. -/
def Computation.initial : Computation := ⟨fun r => if r = .sp then 244 else 0, 0, []⟩

/-- The meaning of a list of statements. -/
def evaluate (program : List Statement) : Computation := program.foldl Statement.apply .initial

/-- The text of what has been printed. -/
def Computation.text (c : Computation) : String := unlines (c.printed.map Nat.repr)

variable {s s' : State} {w : Word} {c : Computation} {statement : Statement} {program : List Statement}
  {op a b : Byte} {code rest : List Byte} {memory : Memory}

theorem assemble_cons (statement : Statement) (program : List Statement) :
    assemble (statement :: program) = statement.bytes ++ assemble program := List.flatMap_cons

/-! ## Bytes in memory -/

/-- The cells from an address on hold these bytes; addresses wrap. -/
def Memory.Holds (memory : Memory) (address : Byte) (code : List Byte) : Prop :=
  ∀ k b, code[k]? = some b → memory.read (address + UInt8.ofNat k) = b

theorem Memory.Holds.left (h : memory.Holds a (code ++ rest)) : memory.Holds a code := by
  intro k b hb
  refine h k b ?_
  rw [List.getElem?_append_left (List.getElem?_eq_some_iff.1 hb).1, hb]

theorem Memory.Holds.right (h : memory.Holds a (code ++ rest)) :
    memory.Holds (a + UInt8.ofNat code.length) rest := by
  intro k b hb
  rw [UInt8.add_assoc, ← UInt8.ofNat_add]
  refine h (code.length + k) b ?_
  rw [List.getElem?_append_right (Nat.le_add_right _ _), Nat.add_sub_cancel_left, hb]

/-- An image stands in memory where it was placed. -/
theorem Memory.holds_overlay (memory : Memory) {image : List Byte} (h : image.length ≤ 256) :
    (memory.overlay image).Holds 0 image := by
  intro k b hb
  have hk : k < image.length := (List.getElem?_eq_some_iff.1 hb).1
  have hnat : (0 + UInt8.ofNat k).toNat = k := by
    rw [UInt8.zero_add, UInt8.toNat_ofNat', Nat.mod_eq_of_lt (by omega)]
  rw [read_overlay, hnat, hb, Option.getD_some]

theorem State.fetch_op (h : s.memory.Holds s.pc (op :: code)) : s.fetch.op = op := by
  simpa [State.fetch] using h 0 op rfl

theorem State.fetch_a (h : s.memory.Holds s.pc (op :: a :: code)) : s.fetch.a = a := by
  simpa [State.fetch] using h 1 a rfl

theorem State.fetch_b (h : s.memory.Holds s.pc (op :: a :: b :: code)) : s.fetch.b = b := by
  simpa [State.fetch] using h 2 b rfl

/-! ## One statement -/

/-- The registers and the flags of a state are those of a computation. -/
structure State.Agrees (s : State) (c : Computation) : Prop where
  value : ∀ r, (s.get r).toNat = c.value r
  flags : s.flags.byte.toNat = c.flags

theorem State.Agrees.set (h : s.Agrees c) (r : Register) {v : Byte} {n : Nat} (hv : v.toNat = n) :
    (s.set r v).Agrees { c with value := Function.update c.value r n } where
  value x := by
    show ((s.set r v).get x).toNat = Function.update c.value r n x
    rw [State.get_set, Function.update_apply]
    split
    · exact hv
    · exact h.value x
  flags := h.flags

/-- Going on to the next instruction changes no register and no flag. -/
theorem State.Agrees.advance (h : s.Agrees c) (op : Opcode) : (s.advance op).Agrees c := ⟨h.value, h.flags⟩

theorem State.Agrees.compare (h : s.Agrees c) (x y : Register) :
    { s with flags := .ofComparison (s.get x) (s.get y) }.Agrees (Statement.apply c (.cmp x y)) where
  value := h.value
  flags := by
    dsimp only [Statement.apply]
    rw [Flags.byte_ofComparison, ← h.value x, ← h.value y]
    simp only [UInt8.lt_iff_toNat_lt]
    split
    · rfl
    · split <;> rfl

/-- The first byte of a statement is the opcode of its instruction. -/
theorem Statement.fetch_op_eq (hcode : s.memory.Holds s.pc statement.bytes) :
    s.fetch.op = statement.instruction.opcode := by
  cases statement <;> exact State.fetch_op hcode

theorem Statement.length_bytes (statement : Statement) :
    statement.bytes.length = statement.instruction.opcode.length.toNat := by
  cases statement <;> simp [bytes, instruction, Instruction.opcode, Opcode.toNat_length]

/-- **What a statement does.** Where its bytes stand at the program counter, the state after its effect agrees with the
computation after it, and what it prints waits to be written. -/
theorem Statement.exists_effect (hcode : s.memory.Holds s.pc statement.bytes) (h : s.Agrees c)
    (hprinted : s.printed = none) : ∃ s', Effect s.fetch s statement.instruction s' ∧
      s'.Agrees (statement.apply c) ∧ s'.pc = s.pc + UInt8.ofNat statement.bytes.length ∧
      (statement.apply c).printed = c.printed ++ s'.printed.toList.map UInt8.toNat := by
  have hnext : s.next s.fetch.op = s.pc + UInt8.ofNat statement.bytes.length := by
    rw [State.next, statement.fetch_op_eq hcode, statement.length_bytes, UInt8.ofNat_toNat]
  have hregister {r : Register} {b : Byte} (hb : b = r.toByte) : b.toNat = r.val := hb ▸ r.toNat_toByte
  cases statement with
  | ldi r value =>
    have hvalue := State.fetch_b hcode
    refine ⟨_, .ldi (hregister (State.fetch_a hcode)), ?_, hnext, ?_⟩
    · exact (h.set r (congrArg UInt8.toNat hvalue)).advance _
    · simp [apply, State.advance, State.set, hprinted]
  | prn r =>
    refine ⟨_, .prn (hregister (State.fetch_a hcode)), ⟨h.value, h.flags⟩, hnext, ?_⟩
    simp [apply, State.advance, h.value]
  | add x y =>
    refine ⟨_, .add (hregister (State.fetch_a hcode)) (hregister (State.fetch_b hcode)), ?_, hnext, ?_⟩
    · exact (h.set x (by rw [UInt8.toNat_add, h.value, h.value])).advance _
    · simp [apply, State.advance, State.set, hprinted]
  | mul x y =>
    refine ⟨_, .mul (hregister (State.fetch_a hcode)) (hregister (State.fetch_b hcode)), ?_, hnext, ?_⟩
    · exact (h.set x (by rw [UInt8.toNat_mul, h.value, h.value])).advance _
    · simp [apply, State.advance, State.set, hprinted]
  | cmp x y =>
    refine ⟨_, .cmp (hregister (State.fetch_a hcode)) (hregister (State.fetch_b hcode)), ?_, hnext, ?_⟩
    · exact (h.compare x y).advance _
    · simp [apply, State.advance, hprinted]

namespace Machine

variable {m : Machine} {image : List Byte}

/-- The machine runs, refuses nothing, and has the registers, the flags and the output of a computation. -/
structure Carries (m : Machine) (c : Computation) : Prop where
  running : m.status = .running
  agrees : m.state.Agrees c
  sink : m.sink = ⟨c.text, none⟩
  halted : m.state.halted = false
  printed : m.state.printed = none

/-- What a state has to say that has not halted is what waits to be written. -/
theorem text_append_output {c' : Computation} (hhalted : s.halted = false)
    (hprinted : c'.printed = c.printed ++ s.printed.toList.map UInt8.toNat) : c.text ++ s.output = c'.text := by
  have hlines : (s.printed.toList.map UInt8.toNat).map Nat.repr = s.printed.toList.map Byte.decimal := List.map_map
  have houtput : s.output = unlines (s.printed.toList.map Byte.decimal) := by
    rw [State.output_eq_transcript, hhalted, transcript]
    simp
  rw [houtput, Computation.text, Computation.text, hprinted, List.map_append, hlines, unlines_append]

/-- **One cycle carries out one statement**, and memory stays as it is. -/
theorem Carries.step (h : m.Carries c) (hcode : m.state.memory.Holds m.state.pc statement.bytes) :
    m.step.machine.Carries (statement.apply c) ∧ m.step.machine.state.memory = m.state.memory ∧
      m.step.machine.state.pc = m.state.pc + UInt8.ofNat statement.bytes.length := by
  obtain ⟨s, heffect, hagrees, hpc, hprinted⟩ := statement.exists_effect hcode h.agrees h.printed
  have hs : m.Executes statement.instruction s :=
    ⟨h.running, Instruction.decode_eq_some_iff.2 (statement.fetch_op_eq hcode).symm, heffect⟩
  have hhalted : s.halted = false := by
    rw [heffect.halted, h.halted]
    cases statement <;> rfl
  have hmemory : s.memory = m.state.memory := by
    rw [heffect.memory]
    cases statement <;> rfl
  rw [(hs.step_of_unbounded (by rw [h.sink])).1, hhalted, h.sink]
  exact ⟨⟨rfl, ⟨hagrees.value, hagrees.flags⟩, by rw [text_append_output hhalted hprinted], hhalted, rfl⟩, hmemory, hpc⟩

/-- **As many cycles as there are statements carry them out**, one after the other. -/
theorem Carries.cycles (h : m.Carries c) (hcode : m.state.memory.Holds m.state.pc (assemble program)) :
    (m.cycles program.length).Carries (program.foldl Statement.apply c) ∧
      (m.cycles program.length).state.memory = m.state.memory ∧
      (m.cycles program.length).state.pc = m.state.pc + UInt8.ofNat (assemble program).length := by
  induction program generalizing m c with
  | nil => exact ⟨h, rfl, (UInt8.add_zero _).symm⟩
  | cons statement program ih =>
    rw [assemble_cons] at hcode ⊢
    obtain ⟨hcarries, hmemory, hpc⟩ := h.step hcode.left
    have hrest := hcode.right
    rw [← hpc, ← hmemory] at hrest
    obtain ⟨hcarries', hmemory', hpc'⟩ := ih hcarries hrest
    rw [cycles_step] at hcarries' hmemory' hpc'
    refine ⟨hcarries', hmemory'.trans hmemory, ?_⟩
    rw [List.length_cons, hpc', hpc, UInt8.add_assoc, ← UInt8.ofNat_add, List.length_append]

/-! ## The end of a program -/

/-- The instruction to halt writes the notice after what has been printed. -/
theorem Carries.halt (h : m.Carries c) (hop : m.state.fetch.op = 0x01) :
    m.step.result = .ok .halted ∧ m.step.machine = ⟨{ m.state with halted := true, pc := m.state.pc + 1 }, .halted,
      ⟨c.text ++ "Program Halted\n", none⟩⟩ := by
  have hs : m.Executes .hlt ({ m.state with halted := true }.advance m.state.fetch.op) :=
    ⟨h.running, Instruction.decode_eq_some_iff.2 hop.symm, .hlt⟩
  have houtput : ({ m.state with halted := true }.advance m.state.fetch.op).output = "Program Halted\n" := by
    rw [State.output_eq_transcript]
    simp only [State.advance, h.printed]
    rfl
  obtain ⟨hmachine, hresult⟩ := hs.step_of_unbounded (by rw [h.sink])
  refine ⟨hresult, ?_⟩
  rw [hmachine, houtput, h.sink, State.settled, State.advance, hop, ← h.printed]
  rfl

/-- A zero is no opcode. -/
theorem Carries.zero (h : m.Carries c) (hop : m.state.fetch.op = 0) :
    m.step.result = .error (.invalidInstruction 0 m.state.pc) ∧ m.step.machine = { m with status := .aborted } := by
  have hresult : m.step.result = .error (.invalidInstruction 0 m.state.pc) := by
    refine (step_invalidInstruction_iff h.running).2 ⟨?_, hop.symm, rfl⟩
    intro i
    rw [hop]
    cases i <;> decide
  exact ⟨hresult, step_machine_of_error hresult (by simp)⟩

/-! ## Programs -/

/-- The registers and the flags of a computation, the program counter at an address, and an image in memory with zeros
after it. -/
structure LeftWith (m : Machine) (c : Computation) (pc : Nat) (image : List Byte) : Prop where
  value : ∀ r, (m.state.get r).toNat = c.value r
  flags : m.state.flags.byte.toNat = c.flags
  pc : m.state.pc.toNat = pc % 256
  memory : m.state.memory.toList = image ++ List.replicate (256 - image.length) 0

theorem carries_loaded (h : image.length ≤ 256) : (loaded image).Carries .initial := by
  rw [loaded_eq h]
  refine ⟨rfl, ⟨?_, rfl⟩, rfl, rfl, rfl⟩
  intro r
  show (Registers.initial.get r).toNat = if r = .sp then 244 else 0
  rw [Registers.get_initial]
  split <;> rfl

/-- **A program is carried out from the start.** After its statements the rest of the image is next. -/
theorem cycles_loaded (h : (assemble program ++ rest).length ≤ 256) :
    let m := (loaded (assemble program ++ rest)).cycles program.length
    m.Carries (evaluate program) ∧ m.LeftWith (evaluate program) (assemble program).length (assemble program ++ rest) ∧
      m.state.memory = Memory.blank.overlay (assemble program ++ rest) ∧
      m.state.pc = UInt8.ofNat (assemble program).length := by
  have hcode : (loaded (assemble program ++ rest)).state.memory.Holds (loaded (assemble program ++ rest)).state.pc
      (assemble program ++ rest) := by
    rw [loaded_eq h]
    exact Memory.holds_overlay _ h
  obtain ⟨hcarries, hmemory, hpc⟩ := (carries_loaded h).cycles hcode.left
  have hstart : (loaded (assemble program ++ rest)).state.pc = 0 := by rw [loaded_eq h]; rfl
  have hblank : (loaded (assemble program ++ rest)).state.memory = Memory.blank.overlay (assemble program ++ rest) := by
    rw [loaded_eq h]
  rw [hstart, UInt8.zero_add] at hpc
  rw [hblank] at hmemory
  refine ⟨hcarries, ⟨hcarries.agrees.value, hcarries.agrees.flags, ?_, ?_⟩, hmemory, hpc⟩
  · rw [hpc, UInt8.toNat_ofNat']
  · rw [hmemory, Memory.toList_overlay_blank h]

/-- The byte after a program is fetched next. -/
theorem fetch_op_cycles_loaded (h : (assemble program ++ op :: rest).length ≤ 256) :
    ((loaded (assemble program ++ op :: rest)).cycles program.length).state.fetch.op = op := by
  obtain ⟨_, _, hmemory, hpc⟩ := cycles_loaded h
  have hcode := (Memory.holds_overlay Memory.blank h).right
  rw [UInt8.zero_add, ← hpc, ← hmemory] at hcode
  exact State.fetch_op hcode

/-- A program that nothing follows is carried out as well. -/
theorem cycles_loaded_all (h : (assemble program).length ≤ 256) :
    let m := (loaded (assemble program)).cycles program.length
    m.Carries (evaluate program) ∧ m.LeftWith (evaluate program) (assemble program).length (assemble program) ∧
      m.state.memory = Memory.blank.overlay (assemble program) ∧
      m.state.pc = UInt8.ofNat (assemble program).length := by
  rw [← List.append_nil (assemble program)] at h
  have hcycles := cycles_loaded h
  rwa [List.append_nil] at hcycles

/-- After it a zero is fetched. -/
theorem fetch_op_cycles_loaded_all (h : (assemble program).length ≤ 255) :
    ((loaded (assemble program)).cycles program.length).state.fetch.op = 0 := by
  obtain ⟨_, _, hmemory, hpc⟩ := cycles_loaded_all (Nat.le_succ_of_le h)
  show ((loaded (assemble program)).cycles program.length).state.memory.read _ = 0
  rw [hmemory, hpc, Memory.read_overlay, UInt8.toNat_ofNat_of_lt' (Nat.lt_succ_of_le h), List.getElem?_length,
    Option.getD_none, Memory.read_blank]

/-- **A straight-line program computes what its statements say**, one after the other, from a new machine. Followed by
the instruction to halt it stops after one cycle more than it has statements, with the notice after what it has printed.
Followed by nothing it stops at the zero after its last byte, without a notice. -/
theorem run_straightLine (h : (assemble program).length ≤ 255) :
    (∃ r, ((start {}).loadProgram (assemble program ++ [0x01])).result = .ok ((assemble program).length + 1) ∧
      (loaded (assemble program ++ [0x01])).Stops (program.length + 1) ∧
      (loaded (assemble program ++ [0x01])).run = some r ∧ r.result = .ok .halted ∧ r.machine.status = .halted ∧
      r.machine.LeftWith (evaluate program) ((assemble program).length + 1) (assemble program ++ [0x01]) ∧
      r.machine.sink.text = unlines ((evaluate program).printed.map Nat.repr ++ ["Program Halted"])) ∧
    ∃ r, ((start {}).loadProgram (assemble program)).result = .ok (assemble program).length ∧
      (loaded (assemble program)).run = some r ∧
      r.result = .error (.invalidInstruction 0 (UInt8.ofNat (assemble program).length)) ∧
      r.machine.status = .aborted ∧
      r.machine.LeftWith (evaluate program) (assemble program).length (assemble program) ∧
      r.machine.sink.text = unlines ((evaluate program).printed.map Nat.repr) := by
  constructor
  · have hlength : (assemble program ++ [0x01]).length ≤ 256 := by
      rw [List.length_append]
      exact Nat.succ_le_succ h
    obtain ⟨hcarries, hleft, _, _⟩ := cycles_loaded hlength
    obtain ⟨hresult, hmachine⟩ := hcarries.halt (fetch_op_cycles_loaded hlength)
    have hstops : (loaded (assemble program ++ [0x01])).Stops (program.length + 1) := by
      refine stops_succ hcarries.running ?_
      rw [cycles_succ, hmachine]
      simp
    refine ⟨_, ?_, hstops, run_of_stops hstops, hresult, ?_, ?_, ?_⟩
    · rw [loadProgram_of_length_le _ hlength, List.length_append, List.length_singleton]
    · rw [replyAfter, cycles_succ, hmachine]
    · rw [replyAfter, cycles_succ, hmachine]
      refine ⟨hleft.value, hleft.flags, ?_, hleft.memory⟩
      dsimp only
      rw [UInt8.toNat_add, hleft.pc, UInt8.toNat_one, Nat.mod_add_mod]
    · rw [replyAfter, cycles_succ, hmachine, unlines_append]
      rfl
  · obtain ⟨hcarries, hleft, _, hpc⟩ := cycles_loaded_all (Nat.le_succ_of_le h)
    obtain ⟨hresult, hmachine⟩ := hcarries.zero (fetch_op_cycles_loaded_all h)
    refine ⟨_, ?_, run_of_step_error hresult, ?_, ?_, ?_, ?_⟩
    · rw [loadProgram_of_length_le _ (Nat.le_succ_of_le h)]
    · rw [hpc]
    · rw [hmachine]
    · rw [hmachine]
      exact ⟨hleft.value, hleft.flags, hleft.pc, hleft.memory⟩
    · rw [hmachine, hcarries.sink]
      rfl

/-- A program that leaves one cell for the instruction to halt. Its sums, its product and the program counter after it
go beyond a byte, and it uses the stack pointer as any other register. -/
def fullMemory (x y : Register) : List Statement :=
  [.ldi x 200, .ldi .sp 100, .add x .sp, .mul .sp .sp, .cmp .sp x] ++ List.replicate 78 (.add y x) ++
    [.prn x, .prn y, .prn .sp]

theorem run_straightLine_fullMemory : (assemble (fullMemory 0 1)).length = 255 ∧
    (∃ r, (loaded (assemble (fullMemory 0 1) ++ [0x01])).run = some r ∧ r.result = .ok .halted ∧
      r.machine.state.pc.toNat = 0 ∧ (r.machine.state.get .sp).toNat = 16 ∧ r.machine.state.flags.byte.toNat = 4 ∧
      r.machine.sink.text = "44\n104\n16\nProgram Halted\n") ∧
    ∃ r, (loaded (assemble (fullMemory 0 1))).run = some r ∧ r.result = .error (.invalidInstruction 0 255) ∧
      r.machine.sink.text = "44\n104\n16\n" := by
  have hlength : (assemble (fullMemory 0 1)).length = 255 := by decide +kernel
  have hprinted : (evaluate (fullMemory 0 1)).printed = [44, 104, 16] := by decide +kernel
  have hsp : (evaluate (fullMemory 0 1)).value .sp = 16 := by decide +kernel
  have hflags : (evaluate (fullMemory 0 1)).flags = 4 := by decide +kernel
  obtain ⟨⟨r, _, _, hrun, hresult, _, hleft, htext⟩, r', _, hrun', hresult', _, _, htext'⟩ :=
    run_straightLine (Nat.le_of_eq hlength)
  rw [hprinted] at htext htext'
  refine ⟨hlength, ⟨r, hrun, hresult, ?_, ?_, ?_, ?_⟩, r', hrun', ?_, ?_⟩
  · rw [hleft.pc, hlength]
  · rw [hleft.value, hsp]
  · rw [hleft.flags, hflags]
  · rw [htext]
    decide
  · rw [hresult', hlength]
    rfl
  · rw [htext']
    decide

end Machine
end ByteMachine
