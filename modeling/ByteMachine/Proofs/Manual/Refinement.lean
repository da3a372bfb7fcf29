import ByteMachine.Proofs.Cycle.Outcome
import ByteMachine.Proofs.Manual.Table

/-!
# Cycles follow the table

- `State.figures` reads a state as numbers; it forgets only a value that waits to be written (`figures_injective`).
- A row under way that has made `s` of the state is `Progress.on w s`: each term has the value that the state has there
  (`value_regA`, `value_top`, ..), and each assignment does what the instruction does (`perform_lower`,
  `perform_top`, ..).
- So the row of an instruction leaves what the instruction makes of the state (`carryOut_rowOf`) and changes only what
  it names (`keeps_of_effect`). A cycle with a sink that refuses nothing therefore is one cycle of the manual's machine
  (`step_follows_table`).
-/

namespace ByteMachine

open Manual

/-- A state in numbers. -/
def State.figures (s : State) : Figures where
  reg n := if h : n < 8 then (s.get ⟨n, h⟩).toNat else 0
  mem n := if n < 256 then (s.memory.read (UInt8.ofNat n)).toNat else 0
  flags := s.flags.byte.toNat
  pc := s.pc.toNat
  halted := s.halted

namespace State

variable (s : State)

theorem figures_reg (r : Register) : s.figures.reg r.val = (s.get r).toNat := dif_pos r.isLt

theorem figures_mem (x : Byte) : s.figures.mem x.toNat = (s.memory.read x).toNat := by
  simp [figures, x.toNat_lt]

theorem figures_set (r : Register) (v : Byte) :
    (s.set r v).figures = { s.figures with reg := fun n => if n = r.val then v.toNat else s.figures.reg n } := by
  simp only [figures, Figures.mk.injEq]
  refine ⟨funext fun n => ?_, rfl, rfl, rfl, rfl⟩
  by_cases hn : n < 8
  · simp only [hn, dite_true, get_set, Fin.ext_iff]
    split <;> rfl
  · have := r.isLt
    simp [hn]
    omega

theorem figures_setTop (v : Byte) :
    (s.setTop v).figures =
      { s.figures with mem := fun n => if n = s.sp.toNat then v.toNat else s.figures.mem n } := by
  simp only [figures, Figures.mk.injEq]
  refine ⟨rfl, funext fun n => ?_, rfl, rfl, rfl⟩
  by_cases hn : n < 256
  · have : UInt8.ofNat n = s.sp ↔ n = s.sp.toNat := by
      rw [← UInt8.toNat_inj, UInt8.toNat_ofNat_of_lt' hn]
    simp only [hn, if_true, setTop, Memory.read_write, this]
    split <;> rfl
  · have := s.sp.toNat_lt
    simp [hn]
    omega

/-- Figures tell states apart, but for a value that waits to be written. -/
theorem figures_injective {s s' : State} (h : s.figures = s'.figures) (hp : s.printed = s'.printed) : s = s' := by
  have hr : s.registers = s'.registers := Registers.ext_get fun r => by
    have hn : s.figures.reg r.val = s'.figures.reg r.val := by rw [h]
    rw [figures_reg, figures_reg] at hn
    exact UInt8.toNat_inj.1 hn
  have hm : s.memory = s'.memory := Memory.ext_read fun x => by
    have hn : s.figures.mem x.toNat = s'.figures.mem x.toNat := by rw [h]
    rw [figures_mem, figures_mem] at hn
    exact UInt8.toNat_inj.1 hn
  have hf : s.flags = s'.flags := Flags.byte_injective _ _ (UInt8.toNat_inj.1 (congrArg Figures.flags h))
  have hc : s.pc = s'.pc := UInt8.toNat_inj.1 (congrArg Figures.pc h)
  have hh : s.halted = s'.halted := congrArg Figures.halted h
  cases s
  cases s'
  simp_all

end State

namespace Manual

variable {w : Word} {s : State} {jumped : Bool} {text : String} {t u : Term} {x y v : Byte}

/-- A row under way that has made `s` of the state so far. -/
abbrev Progress.on (w : Word) (s : State) (jumped : Bool) (text : String) : Progress :=
  ⟨w.a.toNat, w.b.toNat, s.figures, jumped, text⟩

namespace Progress

/-! ## Terms -/

theorem value_regA {r : Register} (hr : w.a.toNat = r.val) :
    (on w s jumped text).value (.reg .regA) = (s.get r).toNat := by
  rw [← State.figures_reg, ← hr]
  rfl

theorem value_regB {r : Register} (hr : w.b.toNat = r.val) :
    (on w s jumped text).value (.reg .regB) = (s.get r).toNat := by
  rw [← State.figures_reg, ← hr]
  rfl

theorem value_sp : (on w s jumped text).value (.reg .sp) = s.sp.toNat := s.figures_reg Register.sp

theorem value_top : (on w s jumped text).value .top = s.top.toNat := by
  rw [State.top, ← State.figures_mem, ← value_sp]
  rfl

theorem value_add (hx : (on w s jumped text).value t = x.toNat) (hy : (on w s jumped text).value u = y.toNat) :
    (on w s jumped text).value (.add t u) = (x + y).toNat := by
  rw [value, hx, hy, UInt8.toNat_add]

/-- The address after a call. -/
theorem value_next : (on w s jumped text).value (.add .pc (.const 2)) = (s.pc + 2).toNat :=
  value_add (x := s.pc) (y := 2) rfl rfl

theorem value_sub (hx : (on w s jumped text).value t = x.toNat) (hy : (on w s jumped text).value u = y.toNat) :
    (on w s jumped text).value (.sub t u) = (x - y).toNat := by
  have := y.toNat_lt
  rw [value, hx, hy, UInt8.toNat_sub]
  omega

theorem value_mul (hx : (on w s jumped text).value t = x.toNat) (hy : (on w s jumped text).value u = y.toNat) :
    (on w s jumped text).value (.mul t u) = (x * y).toNat := by
  rw [value, hx, hy, UInt8.toNat_mul]

/-! ## Assignments -/

theorem perform_regA {r : Register} (hr : w.a.toNat = r.val) (hv : (on w s jumped text).value t = v.toNat) :
    (on w s jumped text).perform (.reg .regA t) = on w (s.set r v) jumped text := by
  rw [perform, hv]
  simp only [setReg, Name.index, on, hr, State.figures_set]

theorem perform_sp (hv : (on w s jumped text).value t = v.toNat) :
    (on w s jumped text).perform (.reg .sp t) = on w (s.set Register.sp v) jumped text := by
  rw [perform, hv]
  simp only [setReg, Name.index, on, State.figures_set]
  rfl

theorem perform_lower :
    (on w s jumped text).perform (.reg .sp (.sub (.reg .sp) (.const 1))) = on w s.lower jumped text :=
  perform_sp (value_sub value_sp (y := 1) rfl)

theorem perform_raise :
    (on w s jumped text).perform (.reg .sp (.add (.reg .sp) (.const 1))) = on w s.raise jumped text :=
  perform_sp (value_add value_sp (y := 1) rfl)

theorem perform_top (hv : (on w s jumped text).value t = v.toNat) :
    (on w s jumped text).perform (.top t) = on w (s.setTop v) jumped text := by
  have hsp : (on w s jumped text).reg .sp = s.sp.toNat := value_sp
  rw [perform, hv, hsp]
  simp only [setMem, on, State.figures_setTop]

theorem perform_pc (hv : (on w s jumped text).value t = v.toNat) :
    (on w s jumped text).perform (.pc t) = on w { s with pc := v } true text := by
  rw [perform, hv]
  rfl

/-- Flag E is the lowest bit. -/
theorem flags_mod_two (s : State) : decide (s.figures.flags % 2 = 1) = s.flags.isEqual := by
  rcases hf : s.flags with _ | (_ | _ | _) <;> simp only [State.figures, hf] <;> decide

theorem perform_pcIf_of_eq {equal : Bool} (he : s.flags.isEqual = equal)
    (hv : (on w s jumped text).value t = v.toNat) :
    (on w s jumped text).perform (.pcIf equal t) = on w { s with pc := v } true text := by
  rw [perform, if_pos ((flags_mod_two s).trans he)]
  exact perform_pc hv

theorem perform_pcIf_of_ne {equal : Bool} (he : s.flags.isEqual ≠ equal) :
    (on w s jumped text).perform (.pcIf equal t) = on w s jumped text := by
  rw [perform, if_neg fun h => he ((flags_mod_two s).symm.trans h)]

theorem perform_compare (hx : (on w s jumped text).value t = x.toNat) (hy : (on w s jumped text).value u = y.toNat) :
    (on w s jumped text).perform (.compare t u) = on w { s with flags := .ofComparison x y } jumped text := by
  have hf : (Flags.ofComparison x y).byte.toNat =
      if x.toNat < y.toNat then 4 else if y.toNat < x.toNat then 2 else 1 := by
    simp only [Flags.byte_ofComparison, UInt8.lt_iff_toNat_lt]
    split
    · rfl
    · split <;> rfl
  rw [perform, hx, hy, ← hf]
  rfl

theorem perform_print (hv : (on w s jumped text).value t = v.toNat) :
    (on w s jumped text).perform (.print t) =
      on w { s with printed := some v } jumped (text ++ (v.decimal ++ "\n")) := by
  rw [perform, hv]
  rfl

theorem perform_halt : (on w s jumped text).perform .halt =
    on w { s with halted := true } jumped (text ++ "Program Halted\n") := rfl

/-- The assignments of a row are made one after another. -/
theorem row_step {p q r : Progress} {e : Assignment} {es : List Assignment} (h : p.perform e = q)
    (hs : es.foldl perform q = r) : (e :: es).foldl perform p = r := by
  rw [List.foldl_cons, h, hs]

end Progress

/-! ## Rows -/

theorem isSome_row? (i : Instruction) : (row? i.opcode.toNat).isSome := by cases i <;> rfl

/-- The row of an instruction. -/
def rowOf (i : Instruction) : Row := (row? i.opcode.toNat).get (isSome_row? i)

/-- The rows of the table are those of the instructions. -/
theorem eq_rowOf {op : Opcode} {row : Row} (h : row? op.toNat = some row) :
    ∃ i, Instruction.decode op = some i ∧ row = rowOf i := by
  have hop : row.opcode = op.toNat := by simpa using List.find?_some h
  have hmem : ∃ i : Instruction, row.opcode = i.opcode.toNat := by
    have := List.mem_of_find?_eq_some h
    simp only [table, List.mem_cons, List.not_mem_nil, or_false] at this
    obtain rfl | rfl | rfl | rfl | rfl | rfl | rfl | rfl | rfl | rfl | rfl | rfl | rfl := this
    · exact ⟨.ldi, rfl⟩
    · exact ⟨.prn, rfl⟩
    · exact ⟨.hlt, rfl⟩
    · exact ⟨.add, rfl⟩
    · exact ⟨.mul, rfl⟩
    · exact ⟨.push, rfl⟩
    · exact ⟨.pop, rfl⟩
    · exact ⟨.call, rfl⟩
    · exact ⟨.ret, rfl⟩
    · exact ⟨.cmp, rfl⟩
    · exact ⟨.jmp, rfl⟩
    · exact ⟨.jeq, rfl⟩
    · exact ⟨.jne, rfl⟩
  obtain ⟨i, hi⟩ := hmem
  have hio : i.opcode = op := UInt8.toNat_inj.1 (hi.symm.trans hop)
  refine ⟨i, Instruction.decode_eq_some_iff.2 hio, ?_⟩
  subst hio
  simp [rowOf, h]

theorem figures_a (s : State) : s.figures.a = s.fetch.a.toNat := by
  rw [State.fetch, ← State.figures_mem, UInt8.toNat_add]
  rfl

theorem figures_b (s : State) : s.figures.b = s.fetch.b.toNat := by
  rw [State.fetch, ← State.figures_mem, UInt8.toNat_add]
  rfl

/-- A row that ends on `s'` after it has set the program counter leaves `s'`. -/
theorem carryOut_of_jumped {row : Row} {s' : State}
    (h : row.assignments.foldl Progress.perform (.on s.fetch s false "") = .on s.fetch s' true text) :
    s.figures.carryOut row = (s'.figures, text) := by
  rw [Figures.carryOut, figures_a, figures_b, h]
  rfl

/-- A row that ends on `s'` without having set the program counter leaves `s'` at the next instruction. -/
theorem carryOut_of_not_jumped {row : Row} {op : Opcode} {s' : State} (hop : row.opcode = op.toNat)
    (h : row.assignments.foldl Progress.perform (.on s.fetch s false "") = .on s.fetch s' false text)
    (hpc : s'.pc = s.pc) : s.figures.carryOut row = ((s'.advance op).figures, text) := by
  have hnext : (s'.next op).toNat = (s.figures.pc + 1 + row.opcode / 64) % 256 := by
    rw [State.next, hpc, UInt8.toNat_add, Opcode.toNat_length, hop, Nat.add_assoc, Nat.add_comm 1]
    rfl
  rw [Figures.carryOut, figures_a, figures_b, h, ← hnext]
  rfl

open Progress in
/-- The row of an instruction leaves what the instruction makes of the state. -/
theorem carryOut_rowOf {i : Instruction} {s' : State} (hd : Instruction.decode s.fetch.op = some i)
    (h : Effect s.fetch s i s') :
    ∃ text, s.figures.carryOut (rowOf i) = (s'.figures, text) ∧
      (s.printed = none → s.halted = false → text = s'.output) := by
  have hop : (rowOf i).opcode = s.fetch.op.toNat := by
    rw [← Instruction.opcode_of_decode hd]
    cases i <;> rfl
  have hout (hi : i ≠ .prn) (hi' : i ≠ .hlt) (hp : s.printed = none) (hh : s.halted = false) : "" = s'.output :=
    (h.output_eq_empty hi hi' hp hh).symm
  cases h with
  | ldi hr =>
    refine ⟨_, carryOut_of_not_jumped hop (row_step (perform_regA hr ?_) rfl) rfl, hout (by decide) (by decide)⟩
    rfl
  | prn hr =>
    refine ⟨_, carryOut_of_not_jumped hop (row_step (perform_print (value_regA hr)) rfl) rfl, fun _ hh => ?_⟩
    simp [State.output, State.advance, hh]
  | hlt =>
    refine ⟨_, carryOut_of_not_jumped hop (row_step perform_halt rfl) rfl, fun hp _ => ?_⟩
    simp [State.output, State.advance, hp, haltNotice]
  | add hx hy =>
    refine ⟨_, carryOut_of_not_jumped hop (row_step (perform_regA hx ?_) rfl) rfl, hout (by decide) (by decide)⟩
    exact value_add (value_regA hx) (value_regB hy)
  | mul hx hy =>
    refine ⟨_, carryOut_of_not_jumped hop (row_step (perform_regA hx ?_) rfl) rfl, hout (by decide) (by decide)⟩
    exact value_mul (value_regA hx) (value_regB hy)
  | cmp hx hy =>
    refine ⟨_, carryOut_of_not_jumped hop (row_step ?_ rfl) rfl, hout (by decide) (by decide)⟩
    exact perform_compare (value_regA hx) (value_regB hy)
  | push hr =>
    refine ⟨_, carryOut_of_not_jumped hop (row_step perform_lower (row_step ?_ rfl)) rfl,
      hout (by decide) (by decide)⟩
    exact perform_top (value_regA hr)
  | pop hr =>
    refine ⟨_, carryOut_of_not_jumped hop (row_step ?_ (row_step perform_raise rfl)) rfl,
      hout (by decide) (by decide)⟩
    exact perform_regA hr value_top
  | call hr =>
    rw [State.next_of_call hd] at hout ⊢
    exact ⟨_, carryOut_of_jumped (row_step perform_lower (row_step (perform_top value_next)
      (row_step (perform_pc (value_regA hr)) rfl))), hout (by decide) (by decide)⟩
  | ret =>
    exact ⟨_, carryOut_of_jumped (row_step (perform_pc value_top) (row_step perform_raise rfl)),
      hout (by decide) (by decide)⟩
  | jmp hr =>
    exact ⟨_, carryOut_of_jumped (row_step (perform_pc (value_regA hr)) rfl), hout (by decide) (by decide)⟩
  | jeq hr =>
    by_cases he : s.flags.isEqual = true
    · rw [if_pos he] at hout ⊢
      refine ⟨_, carryOut_of_jumped (row_step ?_ rfl), hout (by decide) (by decide)⟩
      exact perform_pcIf_of_eq he (value_regA hr)
    · rw [if_neg he] at hout ⊢
      refine ⟨_, carryOut_of_not_jumped hop (row_step ?_ rfl) rfl, hout (by decide) (by decide)⟩
      exact perform_pcIf_of_ne he
  | jne hr =>
    by_cases he : s.flags.isEqual = true
    · rw [if_pos he] at hout ⊢
      refine ⟨_, carryOut_of_not_jumped hop (row_step ?_ rfl) rfl, hout (by decide) (by decide)⟩
      exact perform_pcIf_of_ne (by simp [he])
    · rw [if_neg he] at hout ⊢
      refine ⟨_, carryOut_of_jumped (row_step ?_ rfl), hout (by decide) (by decide)⟩
      exact perform_pcIf_of_eq (by simpa using he) (value_regA hr)

/-- The operands that a row takes as registers are those that its instruction takes. -/
theorem valid_rowOf (i : Instruction) : (rowOf i).Valid w.a.toNat w.b.toNat ↔ w.Valid i := by
  have hfirst : (rowOf i).operands[0]? = some .register ↔ 1 ≤ i.registerCount := by cases i <;> decide
  have hsecond : (rowOf i).operands[1]? = some .register ↔ 2 ≤ i.registerCount := by cases i <;> decide
  rw [Row.Valid, Word.Valid, hfirst, hsecond]

/-- What the assignments of a row do not name is in `s'` what it is in `s`; a cell changes only below the stack. -/
structure Row.Keeps (row : Row) (a b : Nat) (s s' : State) : Prop where
  reg : ∀ r : Register, (∀ name, .reg name ∈ row.places → name.index a b ≠ r.val) → s'.get r = s.get r
  flags : .flags ∉ row.places → s'.flags = s.flags
  memory : .top ∉ row.places → s'.memory = s.memory
  halted : .halted ∉ row.places → s'.halted = s.halted
  cells : ∀ x, s'.memory.read x ≠ s.memory.read x → x = s.sp - 1 ∧ (row.opcode = 0x45 ∨ row.opcode = 0x50)

/-- An instruction changes only what its row names. -/
theorem keeps_of_effect {i : Instruction} {s' : State} (h : Effect w s i s') :
    (rowOf i).Keeps w.a.toNat w.b.toNat s s' where
  reg r hr := by
    refine h.get (fun ha => hr .regA ?_) (fun hp hsp => hr .sp ?_ (hsp ▸ rfl))
    · revert ha
      cases i <;> decide
    · revert hp
      cases i <;> decide
  flags hf := h.flags (by rintro rfl; exact hf (by decide))
  memory ht := by
    rw [h.memory, if_neg]
    revert ht
    cases i <;> decide
  halted hh := by
    have hi : i ≠ .hlt := by rintro rfl; exact hh (by decide)
    simp [h.halted, hi]
  cells x hx := by
    by_cases hp : i.pushes = true
    · rw [h.memory, if_pos hp, Memory.read_write] at hx
      refine ⟨Decidable.byContradiction fun hne => hx (if_neg hne), ?_⟩
      revert hp
      cases i <;> decide
    · rw [h.memory, if_neg hp] at hx
      exact absurd rfl hx

/-- **A cycle follows the table.** With a sink that refuses nothing, a cycle on an opcode of the table whose register
operands name registers leaves exactly the state that the manual's machine computes and writes its text. -/
theorem step_follows_table {m : Machine} {row : Row} (hm : m.status = .running) (hsink : m.sink.bound = none)
    (hrow : row? m.state.figures.op = some row) (hv : row.Valid m.state.figures.a m.state.figures.b) :
    ∃ figures text, m.state.figures.cycle = some (figures, text) ∧
      (∀ s, s = m.step.machine.state ↔ s.figures = figures ∧ s.printed = none) ∧
      row.Keeps m.state.figures.a m.state.figures.b m.state m.step.machine.state ∧
      m.step.result = .ok m.step.machine.status ∧
      m.step.machine.status = (if figures.halted then .halted else .running) ∧
      m.step.machine.sink.bound = none ∧
      (m.state.printed = none → m.state.halted = false → m.step.machine.sink.text = m.sink.text ++ text) := by
  have hop : m.state.figures.op = m.state.fetch.op.toNat := m.state.figures_mem m.state.pc
  rw [hop] at hrow
  obtain ⟨i, hd, rfl⟩ := eq_rowOf hrow
  have hvalid : m.state.fetch.Valid i := by
    rw [← valid_rowOf, ← figures_a, ← figures_b]
    exact hv
  obtain ⟨s', he⟩ := exists_effect hvalid
  obtain ⟨text, hcarry, htext⟩ := carryOut_rowOf hd he
  have hx : m.Executes i s' := ⟨hm, hd, he⟩
  obtain ⟨hmachine, hresult⟩ := hx.step_of_unbounded hsink
  have hcycle : m.state.figures.cycle = some (s'.figures, text) := by
    rw [Figures.cycle, hop, hrow]
    exact (if_pos hv).trans (congrArg some hcarry)
  rw [hmachine]
  refine ⟨s'.figures, text, hcycle, fun s => ?_, ?_, hresult, rfl, rfl, fun hp hh => ?_⟩
  · constructor
    · rintro rfl
      exact ⟨rfl, rfl⟩
    · rintro ⟨hfig, hp⟩
      exact State.figures_injective hfig hp
  · rw [figures_a, figures_b]
    have hk := keeps_of_effect he
    exact ⟨hk.reg, hk.flags, hk.memory, hk.halted, hk.cells⟩
  · rw [htext hp hh]

/-- A push of the stack pointer, with the opcode in the last cell, its operand in the first one and the stack about to
wrap onto the opcode. -/
def pushAtEnd : Machine :=
  ⟨{ State.initial with
      registers := Registers.initial.set Register.sp 0
      pc := 0xFF
      memory := (Memory.blank.write 0xFF 0x45).write 0 7 }, .running, {}⟩

theorem step_follows_table_pushAtEnd :
    pushAtEnd.status = .running ∧ pushAtEnd.sink.bound = none ∧
      row? pushAtEnd.state.figures.op = some (rowOf .push) ∧
      (rowOf .push).Valid pushAtEnd.state.figures.a pushAtEnd.state.figures.b ∧
      ∃ figures text, pushAtEnd.state.figures.cycle = some (figures, text) ∧
        pushAtEnd.step.machine.state.figures = figures ∧ figures.mem 0xFF = 0xFF ∧ figures.pc = 1 := by
  have hrow : row? pushAtEnd.state.figures.op = some (rowOf .push) := rfl
  have hv : (rowOf .push).Valid pushAtEnd.state.figures.a pushAtEnd.state.figures.b := by decide
  obtain ⟨figures, text, hcycle, hstate, _⟩ := step_follows_table (m := pushAtEnd) rfl rfl hrow hv
  have hfig := ((hstate _).1 rfl).1
  refine ⟨rfl, rfl, hrow, hv, figures, text, hcycle, hfig, ?_, ?_⟩
  · rw [← hfig]
    decide
  · rw [← hfig]
    decide

end Manual
end ByteMachine
