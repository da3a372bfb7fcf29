import ByteMachine.Proofs.Execution.Agreement
import ByteMachine.Proofs.Execution.Arithmetic

/-!
# What an opcode tells

An opcode `AABCDDDD` tells three things about its instruction, and they are true:

- `AA` is the number of operands. Whether the instruction succeeds and what it does depends on no byte after them
  (`execute_congr_word`).
- `B` is set for the instructions of the arithmetic unit (`isArithmetic_opcode`), and for no others
  (`execute_eq_arithmetic_iff`). They change the first operand, the flags and the program counter at most
  (`Effect.of_computes`); no other instruction sets the flags.
- `C` is set for the instructions that may jump (`setsCounter_opcode`). Each of them can go on elsewhere than at the
  next instruction (`exists_effect_of_jumps`), and no other instruction can.

`opcode_tells_layout` puts this together.
-/

namespace ByteMachine

namespace Opcode

/-- Bit `B`: the arithmetic unit carries out the instruction. -/
def isArithmetic (op : Opcode) : Bool := op.toNat.testBit 5

/-- Bit `C`: the instruction may set the program counter itself. -/
def setsCounter (op : Opcode) : Bool := op.toNat.testBit 4

end Opcode

variable {w w' : Word} {i : Instruction} {s s' : State} {op : Opcode}

theorem Instruction.isArithmetic_opcode (i : Instruction) : i.opcode.isArithmetic = i.computes := by
  cases i <;> rfl

theorem Instruction.setsCounter_opcode (i : Instruction) : i.opcode.setsCounter = i.jumps := by
  cases i <;> rfl

/-! ## Operands -/

/-- **An instruction looks at its operands only**, whether it succeeds or fails. -/
theorem execute_congr_word (hd : Instruction.decode w.op = some i) (h : w.Agree w' i) (s : State) :
    execute i w s = execute i w' s := by
  cases hr : w.refused? i with
  | some index => rw [execute_of_refused hr, execute_of_refused (h.refused?_eq ▸ hr)]
  | none =>
    obtain ⟨s', heffect⟩ := exists_effect (s := s) (Word.refused?_eq_none_iff.1 hr)
    have hd' : Instruction.decode w'.op = some i := h.op ▸ hd
    rw [(execute_eq_ok_iff hd).2 heffect, (execute_eq_ok_iff hd').2 (heffect.congr_word h)]

/-- Words with the opcode of `i` agree on it if they have the operands in common that the opcode counts. -/
theorem Word.agree_of_operandCount {a b a' b' : Byte} (hop : i.opcode = op) (ha : 1 ≤ op.operandCount → a = a')
    (hb : 2 ≤ op.operandCount → b = b') : Word.Agree ⟨op, a, b⟩ ⟨op, a', b'⟩ i := by
  subst hop
  have hlength := i.opcode.toNat_length
  have hcount := i.opcode.toNat_operandCount
  refine ⟨rfl, fun h => ha ?_, fun h => hb ?_⟩
  · rw [UInt8.le_iff_toNat_le, hcount]
    simp only [UInt8.toNat_one]
    omega
  · rw [UInt8.le_iff_toNat_le, hcount]
    simp only [UInt8.reduceToNat]
    omega

/-! ## The arithmetic unit -/

/-- The instructions of the arithmetic unit are exactly those that it carries out. -/
theorem execute_eq_arithmetic_iff : execute i = arithmetic ↔ i.computes := by
  constructor
  · intro h
    refine Decidable.byContradiction fun hi => ?_
    -- Under an opcode without an operation the unit fails, and every other instruction succeeds.
    have hunit : arithmetic ⟨0, 0, 0⟩ State.initial = .error (.unsupportedOperation 0) := rfl
    have hvalid : Word.Valid ⟨0, 0, 0⟩ i := ⟨fun _ => by decide, fun _ => by decide⟩
    obtain ⟨s', heffect⟩ := exists_effect (s := State.initial) hvalid
    have hok := (execute_eq_ok_iff_of_suits fun hc => absurd hc hi).2 heffect
    rw [h, hunit] at hok
    cases hok
  · exact execute_of_computes

/-- **What the arithmetic unit leaves alone**: all but the first operand, the flags and the program counter. -/
theorem Effect.of_computes (h : Effect w s i s') (hi : i.computes) : s'.memory = s.memory ∧ s'.halted = s.halted ∧
    s'.printed = s.printed ∧ ∀ r : Register, r.val ≠ w.a.toNat → s'.get r = s.get r := by
  have hpush : i.pushes = false := by cases i <;> first | rfl | contradiction
  have hpop : i.pops = false := by cases i <;> first | rfl | contradiction
  refine ⟨?_, ?_, ?_, fun r hr => ?_⟩
  · rw [h.memory, hpush]
    rfl
  · have hhlt : i ≠ .hlt := by
      rintro rfl
      contradiction
    simp [h.halted, hhlt]
  · refine h.printed ?_
    rintro rfl
    contradiction
  · exact h.get (fun _ => hr.symm) (by simp [hpush, hpop])

/-! ## Jumps -/

/-- **An instruction that may jump does so in some state**, with any registers as operands: where it stands at the
address that it goes to. -/
theorem exists_effect_of_jumps (hi : i.jumps) (hw : w.Valid i) :
    ∃ s s', Effect w s i s' ∧ s'.pc ≠ s.next w.op := by
  have first : 1 ≤ i.registerCount → ∃ r : Register, w.a.toNat = r.val := fun h => ⟨⟨_, hw.1 h⟩, rfl⟩
  cases i with
  | ret => exact ⟨{ State.initial with pc := State.initial.top }, _, .ret, (State.next_ne_pc _ _).symm⟩
  | call =>
    obtain ⟨r, hr⟩ := first (by decide)
    exact ⟨{ State.initial with pc := State.initial.lower.get r }, _, .call hr, (State.next_ne_pc _ _).symm⟩
  | jmp =>
    obtain ⟨r, hr⟩ := first (by decide)
    exact ⟨{ State.initial with pc := State.initial.get r }, _, .jmp hr, (State.next_ne_pc _ _).symm⟩
  | jeq =>
    obtain ⟨r, hr⟩ := first (by decide)
    exact ⟨{ State.initial with pc := State.initial.get r, flags := .compared .eq }, _, .jeq hr,
      (State.next_ne_pc _ _).symm⟩
  | jne =>
    obtain ⟨r, hr⟩ := first (by decide)
    exact ⟨{ State.initial with pc := State.initial.get r }, _, .jne hr, (State.next_ne_pc _ _).symm⟩
  | _ => contradiction

/-! ## The layout -/

/-- **An opcode tells the truth about its instruction.** Whether the instruction succeeds and what it does depends on no
byte after as many operands as `AA` says. If `C` is not set, then the instruction goes on with the byte after these
operands; if it is, then there are states, with any registers as operands, where it goes on elsewhere. The arithmetic
unit carries out the instruction iff `B` is set. If `B` is not set, then the instruction leaves the flags as they are;
if it is, then memory, what waits to be written, whether the state has halted and all registers but the first operand. -/
theorem opcode_tells_layout (hd : Instruction.decode op = some i) :
    (∀ (s : State) (a b a' b' : Byte), (1 ≤ op.operandCount → a = a') → (2 ≤ op.operandCount → b = b') →
      execute i ⟨op, a, b⟩ s = execute i ⟨op, a', b'⟩ s) ∧
    (op.setsCounter = false → ∀ a b s s', execute i ⟨op, a, b⟩ s = .ok s' →
      s'.pc = s.pc + 1 + op.operandCount) ∧
    (op.setsCounter = true → ∀ a b, Word.Valid ⟨op, a, b⟩ i → ∃ s s', execute i ⟨op, a, b⟩ s = .ok s' ∧
      s'.pc ≠ s.pc + 1 + op.operandCount) ∧
    (execute i = arithmetic ↔ op.isArithmetic = true) ∧
    (op.isArithmetic = false → ∀ a b s s', execute i ⟨op, a, b⟩ s = .ok s' → s'.flags = s.flags) ∧
    (op.isArithmetic = true → ∀ a b s s', execute i ⟨op, a, b⟩ s = .ok s' → s'.memory = s.memory ∧
      s'.halted = s.halted ∧ s'.printed = s.printed ∧ ∀ r : Register, r.val ≠ a.toNat → s'.get r = s.get r) := by
  have hop := Instruction.opcode_of_decode hd
  have hcomputes : op.isArithmetic = i.computes := hop ▸ i.isArithmetic_opcode
  have hjumps : op.setsCounter = i.jumps := hop ▸ i.setsCounter_opcode
  have heffect {a b : Byte} {s s' : State} : execute i ⟨op, a, b⟩ s = .ok s' ↔ Effect ⟨op, a, b⟩ s i s' :=
    execute_eq_ok_iff hd
  rw [hcomputes, hjumps]
  refine ⟨?_, ?_, ?_, execute_eq_arithmetic_iff, ?_, ?_⟩
  · intro s a b a' b' ha hb
    exact execute_congr_word hd (Word.agree_of_operandCount hop ha hb) s
  · intro hi a b s s' h
    rw [(heffect.1 h).pc hi, State.next_eq]
  · intro hi a b hvalid
    obtain ⟨s, s', h, hpc⟩ := exists_effect_of_jumps hi hvalid
    rw [State.next_eq] at hpc
    exact ⟨s, s', heffect.2 h, hpc⟩
  · intro hi a b s s' h
    refine (heffect.1 h).flags ?_
    rintro rfl
    contradiction
  · intro hi a b s s' h
    exact (heffect.1 h).of_computes hi

/-- A call looks at one operand and may jump, also to the lowered stack pointer, and the arithmetic unit does not carry
it out. It carries out a comparison, which leaves memory alone. -/
theorem opcode_tells_layout_callAndCompare :
    Instruction.decode 0x50 = some .call ∧ Instruction.decode 0xA7 = some .cmp ∧
      (∀ s, execute .call ⟨0x50, 7, 0⟩ s = execute .call ⟨0x50, 7, 0xFF⟩ s) ∧
      (∃ s s', execute .call ⟨0x50, 7, 0⟩ s = .ok s' ∧ s'.pc ≠ s.pc + 1 + 1) ∧
      execute .call ≠ arithmetic ∧ execute .cmp = arithmetic ∧
      ∀ s s', execute .cmp ⟨0xA7, 0, 1⟩ s = .ok s' → s'.memory = s.memory := by
  have hcall : Instruction.decode 0x50 = some .call := by decide
  have hcmp : Instruction.decode 0xA7 = some .cmp := by decide
  obtain ⟨hlook, _, hjump, hunit, _, _⟩ := opcode_tells_layout hcall
  obtain ⟨_, _, _, hunit', _, hleaves⟩ := opcode_tells_layout hcmp
  refine ⟨hcall, hcmp, fun s => ?_, hjump (by decide) 7 0 (by decide), ?_, hunit'.2 (by decide), fun s s' h => ?_⟩
  · exact hlook s 7 0 7 0xFF (fun _ => rfl) (fun h => absurd h (by decide))
  · rw [Ne, hunit]
    decide
  · exact (hleaves (by decide) 0 1 s s' h).1

end ByteMachine
