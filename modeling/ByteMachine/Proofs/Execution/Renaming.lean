import ByteMachine.Proofs.Execution.Calls
import ByteMachine.Proofs.Execution.Effect
import Mathlib.Logic.Equiv.Basic

/-!
# Renaming registers

- A permutation of the registers renames what a state holds in them (`State.rename`) and the operands of a word that an
  instruction takes as registers (`Word.rename`). Bytes that name no register stay as they are.
- If the stack pointer keeps its number, every operation on states commutes with renaming (`State.set_rename`,
  `State.lower_rename`, ..), and so does every instruction (`execute_rename`).

`renaming_registers` says so of one instruction and of calls one after the other.
-/

namespace ByteMachine

variable (σ : Equiv.Perm Register)

/-- Another operand byte for every register; other bytes stay as they are. -/
def Byte.rename (index : Byte) : Byte :=
  match Register.ofByte? index with
  | some r => UInt8.ofNat (σ r).val
  | none => index

/-- The operands that `i` takes as registers are renamed, and nothing else. -/
def Word.rename (i : Instruction) (w : Word) : Word where
  op := w.op
  a := if 1 ≤ i.registerCount then w.a.rename σ else w.a
  b := if 2 ≤ i.registerCount then w.b.rename σ else w.b

/-- Every register has the value that the one of the old name had. -/
def Registers.rename (rs : Registers) : Registers := ⟨Vector.ofFn fun r => rs.get (σ.symm r)⟩

def State.rename (s : State) : State := { s with registers := s.registers.rename σ }

def Call.rename (c : Call) : Call := ⟨c.instruction, c.word.rename σ c.instruction⟩

/-! ## Operands -/

theorem operand_rename (index : Byte) : operand (index.rename σ) = (operand index).map σ := by
  unfold Byte.rename
  cases h : Register.ofByte? index with
  | none => simp [operand, h, Except.map]
  | some r =>
    have hnat : (UInt8.ofNat (σ r).val).toNat = (σ r).val :=
      UInt8.toNat_ofNat_of_lt' (Nat.lt_trans (σ r).isLt (by decide))
    simp [operand, h, Register.ofByte?_eq_some_iff.2 hnat, Except.map]

/-! ## States -/

namespace State

theorem get_rename (s : State) (r : Register) : (s.rename σ).get (σ r) = s.get r := by
  simp [get, rename, Registers.rename, Registers.get]

theorem set_rename (s : State) (r : Register) (v : Byte) : (s.rename σ).set (σ r) v = (s.set r v).rename σ := by
  have hregisters : (s.registers.rename σ).set (σ r) v = (s.registers.set r v).rename σ := by
    refine Registers.ext_get fun x => ?_
    obtain ⟨y, rfl⟩ := σ.surjective x
    have hget (rs : Registers) : (rs.rename σ).get (σ y) = rs.get y := by simp [Registers.rename, Registers.get]
    rw [hget, Registers.get_set, Registers.get_set, hget]
    simp
  simp only [set, rename, hregisters]

variable {σ} (hσ : σ Register.sp = Register.sp)

include hσ

theorem sp_rename (s : State) : (s.rename σ).sp = s.sp := by
  have h := s.get_rename σ Register.sp
  rwa [hσ] at h

theorem set_sp_rename (s : State) (v : Byte) :
    (s.rename σ).set Register.sp v = (s.set Register.sp v).rename σ := by
  have h := s.set_rename σ Register.sp v
  rwa [hσ] at h

theorem lower_rename (s : State) : (s.rename σ).lower = s.lower.rename σ := by
  rw [lower, sp_rename hσ, set_sp_rename hσ, lower]

theorem raise_rename (s : State) : (s.rename σ).raise = s.raise.rename σ := by
  rw [raise, sp_rename hσ, set_sp_rename hσ, raise]

theorem top_rename (s : State) : (s.rename σ).top = s.top := by
  rw [top, sp_rename hσ]
  rfl

theorem setTop_rename (s : State) (v : Byte) : (s.rename σ).setTop v = (s.setTop v).rename σ := by
  rw [setTop, sp_rename hσ]
  rfl

end State

/-! ## Instructions -/

/-- What is done with the register of an operand is done with the renamed one. -/
theorem bind_operand_rename {f g : Register → Except Trap State} (h : ∀ r, g (σ r) = (f r).map (State.rename σ))
    (index : Byte) : operand (index.rename σ) >>= g = (operand index >>= f).map (State.rename σ) := by
  rw [operand_rename]
  cases operand index with
  | error t => rfl
  | ok r => exact h r

theorem compute_rename (op : Opcode) (x y : Register) (s : State) :
    compute op (σ x) (σ y) (s.rename σ) = (compute op x y s).map (State.rename σ) := by
  unfold compute
  simp only [State.get_rename, State.set_rename]
  cases Instruction.decode op with
  | none => rfl
  | some i => cases i <;> rfl

variable {σ}

/-- **An instruction does with renamed registers what it does with the registers**, if the stack pointer keeps its
number. -/
theorem execute_rename (hσ : σ Register.sp = Register.sp) (i : Instruction) (w : Word) (s : State) :
    execute i (w.rename σ i) (s.rename σ) = (execute i w s).map (State.rename σ) := by
  cases i with
  | hlt => rfl
  | ret =>
    simp only [execute, State.raise_rename hσ, State.top_rename hσ]
    rfl
  | add | mul | cmp =>
    exact bind_operand_rename σ (fun x => bind_operand_rename σ (fun y => compute_rename σ w.op x y s) w.b) w.a
  | ldi =>
    refine bind_operand_rename σ (fun r => ?_) w.a
    rw [State.set_rename]
    rfl
  | prn =>
    refine bind_operand_rename σ (fun r => ?_) w.a
    rw [State.get_rename]
    rfl
  | push =>
    refine bind_operand_rename σ (fun r => ?_) w.a
    rw [State.lower_rename hσ, State.get_rename, State.setTop_rename hσ]
    rfl
  | pop =>
    refine bind_operand_rename σ (fun r => ?_) w.a
    rw [State.top_rename hσ, State.set_rename, State.raise_rename hσ]
    rfl
  | call =>
    refine bind_operand_rename σ (fun r => ?_) w.a
    rw [State.lower_rename hσ, State.get_rename, State.setTop_rename hσ]
    rfl
  | jmp | jeq | jne =>
    refine bind_operand_rename σ (fun r => ?_) w.a
    rw [State.get_rename]
    rfl

/-! ## Calls -/

theorem Call.result_rename (hσ : σ Register.sp = Register.sp) (c : Call) (s : State) :
    (c.rename σ).result (s.rename σ) = (c.result s).map (State.rename σ) :=
  execute_rename hσ c.instruction c.word s

theorem Call.leave_rename (hσ : σ Register.sp = Register.sp) (c : Call) (s : State) :
    (c.rename σ).leave (s.rename σ) = (c.leave s).rename σ := by
  rw [leave, leave, Call.result_rename hσ]
  cases c.result s <;> rfl

namespace State

theorem results_rename (hσ : σ Register.sp = Register.sp) (calls : List Call) (s : State) :
    (s.rename σ).results (calls.map (Call.rename σ)) = (s.results calls).map (Except.map (State.rename σ)) := by
  induction calls generalizing s with
  | nil => rfl
  | cons c calls ih => rw [List.map_cons, results, results, List.map_cons, c.result_rename hσ, c.leave_rename hσ, ih]

theorem after_rename (hσ : σ Register.sp = Register.sp) (calls : List Call) (s : State) :
    (s.rename σ).after (calls.map (Call.rename σ)) = (s.after calls).rename σ := by
  induction calls generalizing s with
  | nil => rfl
  | cons c calls ih =>
    rw [List.map_cons, after, List.foldl_cons, c.leave_rename hσ]
    exact ih (c.leave s)

theorem chain_rename (hσ : σ Register.sp = Register.sp) (calls : List Call) (s : State) :
    (s.rename σ).chain (calls.map (Call.rename σ)) = (s.chain calls).map (State.rename σ) := by
  induction calls generalizing s with
  | nil => rfl
  | cons c calls ih =>
    rw [List.map_cons, chain, chain, List.foldlM_cons, List.foldlM_cons, c.result_rename hσ]
    cases c.result s with
    | error t => rfl
    | ok s' => exact ih s'

end State

/-- **Registers are interchangeable** but for the stack pointer. An instruction, under any opcode, fails with renamed
operands in a renamed state for the same reason as without renaming, or leaves the same state but for the names of the
registers. The same is true of calls one after the other, whether they go on after a trap or stop there. -/
theorem renaming_registers (hσ : σ Register.sp = Register.sp) :
    (∀ i w s, execute i (w.rename σ i) (s.rename σ) = (execute i w s).map (State.rename σ)) ∧
    ∀ (calls : List Call) (s : State),
      (s.rename σ).results (calls.map (Call.rename σ)) = (s.results calls).map (Except.map (State.rename σ)) ∧
      (s.rename σ).after (calls.map (Call.rename σ)) = (s.after calls).rename σ ∧
      (s.rename σ).chain (calls.map (Call.rename σ)) = (s.chain calls).map (State.rename σ) :=
  ⟨execute_rename hσ, fun calls s => ⟨s.results_rename hσ calls, s.after_rename hσ calls, s.chain_rename hσ calls⟩⟩

/-- Two registers change their names: a sum goes to the other one, a constant keeps its value, and no register is
named by 8. -/
theorem renaming_registers_swap :
    let σ : Equiv.Perm Register := Equiv.swap 0 3
    let s := State.initial.set 0 5
    let calls : List Call := [⟨.add, ⟨0xA0, 0, 7⟩⟩, ⟨.prn, ⟨0x47, 8, 0⟩⟩, ⟨.ldi, ⟨0x82, 3, 0⟩⟩]
    σ Register.sp = Register.sp ∧
      calls.map (Call.rename σ) = [⟨.add, ⟨0xA0, 3, 7⟩⟩, ⟨.prn, ⟨0x47, 8, 0⟩⟩, ⟨.ldi, ⟨0x82, 0, 0⟩⟩] ∧
      (s.rename σ).after (calls.map (Call.rename σ)) = (s.after calls).rename σ ∧
      ((s.rename σ).after (calls.map (Call.rename σ))).get 3 = 0xF9 ∧
      (s.rename σ).chain (calls.map (Call.rename σ)) = .error (.invalidRegister 8) := by
  intro σ s calls
  have hσ : σ Register.sp = Register.sp := by decide
  obtain ⟨_, hafter, hchain⟩ := (renaming_registers hσ).2 calls s
  have hget : (s.after calls).get 0 = 0xF9 := by decide
  have htrap : s.chain calls = .error (.invalidRegister 8) := rfl
  refine ⟨hσ, by decide, hafter, ?_, ?_⟩
  · rw [hafter]
    exact ((s.after calls).get_rename σ 0).trans hget
  · rw [hchain, htrap]
    rfl

end ByteMachine
