import ByteMachine.Proofs.Execution.Agreement
import ByteMachine.Proofs.Execution.Calls

/-!
# A byte passes through the stack

- A cell that is taken for the stack and given back keeps the byte that was put there (`State.raise_setTop_lower`), and
  a register that is assigned before the cell is given back keeps its value, but for the stack pointer, which moves up
  from it (`State.raise_set`).
- So a pop after a push moves a byte from one register to another (`chain_push_pop`), and a return after a call goes on
  behind the call (`chain_call_ret`).

`stack_passes_byte` says what this leaves of a state.
-/

namespace ByteMachine

/-- A call of an instruction under its own opcode. -/
def Call.proper (i : Instruction) (a b : Byte) : Call := ⟨i, ⟨i.opcode, a, b⟩⟩

variable {s t u : State} {c c' : Call}

/-! ## Giving a cell back -/

namespace State

/-- A cell that is taken and given back keeps the byte. -/
theorem raise_setTop_lower (s : State) (v : Byte) : (s.lower.setTop v).raise = s.poke (s.sp - 1) v := by
  change { s.lower.raise with memory := s.memory.write s.lower.sp v } = _
  rw [s.raise_lower, s.sp_lower]
  rfl

/-- A register that is assigned before the stack pointer moves up keeps its value; the stack pointer itself moves up
from it. -/
theorem raise_set (s : State) (r : Register) (v : Byte) :
    (s.set r v).raise = s.raise.set r (if r = Register.sp then v + 1 else v) := by
  by_cases hr : r = Register.sp
  · subst hr
    rw [if_pos rfl, raise, raise, sp_set_sp, set_set, set_set]
  · have hsp : (s.set r v).sp = s.sp := (s.get_set r _ v).trans (if_neg (Ne.symm hr))
    rw [if_neg hr, raise, raise, hsp, s.set_comm hr]

end State

/-! ## Calls under their own opcodes -/

namespace Call

theorem result_proper {i : Instruction} {a b : Byte} (h : Effect ⟨i.opcode, a, b⟩ s i t) :
    (proper i a b).result s = .ok t :=
  (execute_eq_ok_iff i.decode_opcode).2 h

theorem result_push (s : State) (r : Register) (x : Byte) :
    (proper .push r.toByte x).result s = .ok { s.lower.setTop (s.lower.get r) with pc := s.pc + 2 } := by
  have hnext : s.next Instruction.push.opcode = s.pc + 2 := rfl
  rw [← hnext]
  exact result_proper (.push r.toNat_toByte)

theorem result_pop (s : State) (r : Register) (x : Byte) :
    (proper .pop r.toByte x).result s = .ok { (s.set r s.top).raise with pc := s.pc + 2 } := by
  have hnext : s.next Instruction.pop.opcode = s.pc + 2 := rfl
  rw [← hnext]
  exact result_proper (.pop r.toNat_toByte)

theorem result_call (s : State) (r : Register) (x : Byte) :
    (proper .call r.toByte x).result s = .ok { s.lower.setTop (s.pc + 2) with pc := s.lower.get r } := by
  have hnext : s.next Instruction.call.opcode = s.pc + 2 := rfl
  rw [← hnext]
  exact result_proper (.call r.toNat_toByte)

theorem result_ret (s : State) (x y : Byte) :
    (proper .ret x y).result s = .ok { s.raise with pc := s.top } :=
  result_proper .ret

end Call

/-! ## Two calls -/

theorem State.chain_pair (h : c.result s = .ok t) (h' : c'.result t = .ok u) : s.chain [c, c'] = .ok u := by
  rw [chain, List.foldlM_cons]
  exact bind_eq_ok_iff.2 ⟨t, h, bind_eq_ok_iff.2 ⟨u, h', rfl⟩⟩

/-- **A pop after a push moves a byte** from one register to another. -/
theorem chain_push_pop (s : State) (a b : Register) (x y : Byte) :
    s.chain [.proper .push a.toByte x, .proper .pop b.toByte y] =
      .ok { (s.poke (s.sp - 1) (s.lower.get a)).set b
        (if b = Register.sp then s.lower.get a + 1 else s.lower.get a) with pc := s.pc + 4 } := by
  let t : State := { s.lower.setTop (s.lower.get a) with pc := s.pc + 2 }
  have htop : t.top = s.lower.get a := s.lower.top_setTop _
  have hraise : t.raise = { s.poke (s.sp - 1) (s.lower.get a) with pc := s.pc + 2 } := by
    rw [← s.raise_setTop_lower]
    rfl
  have hpc : s.pc + 2 + 2 = s.pc + 4 := UInt8.add_assoc _ _ _
  rw [State.chain_pair (Call.result_push s a x) (Call.result_pop t b y), htop, State.raise_set, hraise, ← hpc]
  rfl

/-- **A return after a call goes on behind the call.** -/
theorem chain_call_ret (s : State) (a : Register) (x y z : Byte) :
    s.chain [.proper .call a.toByte x, .proper .ret y z] =
      .ok { s.poke (s.sp - 1) (s.pc + 2) with pc := s.pc + 2 } := by
  let t : State := { s.lower.setTop (s.pc + 2) with pc := s.lower.get a }
  have htop : t.top = s.pc + 2 := s.lower.top_setTop _
  rw [State.chain_pair (Call.result_call s a x) (Call.result_ret t y z), htop, ← s.raise_setTop_lower]
  rfl

/-- **A byte passes through the stack**, also from the stack pointer and to it. It is the value of the register that is
pushed, which for the stack pointer is one below what it was. A pop after the push leaves the byte in the cell below the
stack and in the register that is popped, which for the stack pointer then moves up by one; the program counter is 4
further, and nothing else has changed, nor has the stack pointer if another register is popped. So to push a register
and pop it again restores all registers, also the stack pointer. To call and return restores them as well; it goes on
behind the call and leaves the address there in the cell below the stack. -/
theorem stack_passes_byte (s : State) (a b : Register) (x y z : Byte) :
    let v := if a = Register.sp then s.sp - 1 else s.get a
    (∃ s', s.chain [.proper .push a.toByte x, .proper .pop b.toByte y] = .ok s' ∧
      s' = { s with pc := s.pc + 4, memory := s.memory.write (s.sp - 1) v, registers := s'.registers } ∧
      ∀ r, s'.get r = if r = b then (if b = Register.sp then v + 1 else v) else s.get r) ∧
    s.chain [.proper .push a.toByte x, .proper .pop a.toByte y] =
      .ok { s with pc := s.pc + 4, memory := s.memory.write (s.sp - 1) v } ∧
    s.chain [.proper .call a.toByte x, .proper .ret y z] =
      .ok { s with pc := s.pc + 2, memory := s.memory.write (s.sp - 1) (s.pc + 2) } := by
  intro v
  have hv : s.lower.get a = v := s.get_lower a
  refine ⟨⟨_, hv ▸ chain_push_pop s a b x y, rfl, ?_⟩, ?_, chain_call_ret s a x y z⟩
  · intro r
    exact State.get_set _ b r _
  · -- The pop gives the register the value that it had, the stack pointer too.
    have hback : (if a = Register.sp then v + 1 else v) = s.get a := by
      by_cases ha : a = Register.sp
      · simp only [v, ha, if_true]
        exact UInt8.sub_add_cancel _ _
      · simp only [v, ha, if_false]
    have hkeeps : (s.poke (s.sp - 1) v).set a (s.get a) = s.poke (s.sp - 1) v := (s.poke (s.sp - 1) v).set_get a
    rw [chain_push_pop, hv, hback, hkeeps]
    rfl

/-- What is pushed of a stack pointer at 0 is 255. -/
example : (({ State.initial with registers := Registers.initial.set 7 0 }.chain
    [.proper .push 7 0, .proper .pop 0 0]).toOption.map fun s : State => s.registers.toList) =
      some [255, 0, 0, 0, 0, 0, 0, 0] := by
  decide +kernel

end ByteMachine
