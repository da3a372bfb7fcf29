import ByteMachine.Log.Message

/-!
# Traces can be read

- Two hexadecimal digits tell their byte (`digitValue_toUpper`), wherever in a text they stand (`StandsAt.byteAt_eq`).
- Each byte of a trace stands in a column of its own in the text of the trace (`Trace.standsAt_pc`,
  `Trace.standsAt_word`, `Trace.standsAt_register`), so the trace can be read back from it, also if more text follows
  (`Trace.read_text`).
- So a message shows whether it names the instruction to print, and then the value that will be printed
  (`announced?_executing`).
-/

namespace ByteMachine

/-! ## Bytes in columns -/

/-- The number that an upper-case hexadecimal digit stands for. -/
def digitValue (c : Char) : Nat := if c.isDigit then c.toNat - '0'.toNat else c.toNat - 'A'.toNat + 10

/-- The byte whose digits stand in a column of a text. -/
def byteAt (text : List Char) (column : Nat) : Byte :=
  UInt8.ofNat (16 * digitValue (text.getD column '0') + digitValue (text.getD (column + 1) '0'))

/-- The digits of a byte stand in a column of a text. -/
def StandsAt (text : List Char) (column : Nat) (b : Byte) : Prop := (text.drop column).take 2 = b.upperHex.toList

variable {text : List Char} {column : Nat} {high low : Char} {b : Byte}

/-- The two characters that stand in a column. -/
theorem getElem?_of_pair (h : (text.drop column).take 2 = [high, low]) :
    text[column]? = some high ∧ text[column + 1]? = some low := by
  have hhigh := congrArg (·[0]?) h
  have hlow := congrArg (·[1]?) h
  simpa using And.intro hhigh hlow

theorem byteAt_of_pair (h : (text.drop column).take 2 = [high, low]) :
    byteAt text column = UInt8.ofNat (16 * digitValue high + digitValue low) := by
  obtain ⟨hhigh, hlow⟩ := getElem?_of_pair h
  rw [byteAt, List.getD_eq_getElem?_getD, List.getD_eq_getElem?_getD, hhigh, hlow, Option.getD_some, Option.getD_some]

theorem digitValue_toUpper {d : Nat} (h : d < 16) : digitValue (Nat.digitChar d).toUpper = d := by
  have hall : ∀ d < 16, digitValue (Nat.digitChar d).toUpper = d := by decide
  exact hall d h

theorem Byte.toList_upperHex (b : Byte) :
    b.upperHex.toList = [(Nat.digitChar (b.toNat / 16)).toUpper, (Nat.digitChar (b.toNat % 16)).toUpper] := by
  rw [upperHex, String.toList_ofList]
  rfl

@[simp] theorem Byte.length_upperHex (b : Byte) : b.upperHex.toList.length = 2 := by
  rw [toList_upperHex]
  rfl

theorem standsAt_append (front : List Char) (b : Byte) (back : List Char) (h : front.length = column) :
    StandsAt (front ++ (b.upperHex.toList ++ back)) column b := by
  rw [StandsAt, List.drop_left' h, List.take_left' b.length_upperHex]

/-- The digits of a byte are read as the byte. -/
theorem StandsAt.byteAt_eq (h : StandsAt text column b) : byteAt text column = b := by
  have hhigh : b.toNat / 16 < 16 := by
    have := b.toNat_lt
    omega
  have hlow : b.toNat % 16 < 16 := Nat.mod_lt _ (by decide)
  have hsum : 16 * (b.toNat / 16) + b.toNat % 16 = b.toNat := Nat.div_add_mod _ _
  rw [byteAt_of_pair (h.trans b.toList_upperHex), digitValue_toUpper hhigh, digitValue_toUpper hlow, hsum,
    UInt8.ofNat_toNat]

/-- The digits of some bytes, each after a blank. -/
def row (values : List Byte) : List Char := values.flatMap fun value => " ".toList ++ value.upperHex.toList

theorem row_append (values more : List Byte) : row (values ++ more) = row values ++ row more := List.flatMap_append

theorem row_cons (value : Byte) (values : List Byte) :
    row (value :: values) = " ".toList ++ (value.upperHex.toList ++ row values) := by
  rw [row, List.flatMap_cons, List.append_assoc, row]

theorem length_row (values : List Byte) : (row values).length = 3 * values.length := by
  induction values with
  | nil => rfl
  | cons value values ih =>
    rw [row_cons, List.length_append, List.length_append, Byte.length_upperHex, ih, List.length_cons]
    have hblank : " ".toList.length = 1 := rfl
    omega

/-- The bytes of a row stand three columns apart. -/
theorem standsAt_row (front back : List Char) {values : List Byte} {k : Nat} (hk : k < values.length)
    (h : front.length + (3 * k + 1) = column) : StandsAt (front ++ (row values ++ back)) column values[k] := by
  have hvalues : row values = row (values.take k ++ values[k] :: values.drop (k + 1)) := by
    rw [List.getElem_cons_drop, List.take_append_drop]
  have hlength : (front ++ (row (values.take k) ++ " ".toList)).length = column := by
    rw [List.length_append, List.length_append, length_row, List.length_take_of_le (Nat.le_of_lt hk), ← h]
    rfl
  have hstands := standsAt_append _ values[k] (row (values.drop (k + 1)) ++ back) hlength
  rw [hvalues, row_append, row_cons]
  simpa only [List.append_assoc] using hstands

/-! ## Traces in columns -/

namespace Trace

/-- How many characters the text of a trace has. -/
def width : Nat := 46

/-- Reads a trace from its columns: `TRACE: PC | OP AA BB | R0 R1 R2 R3 R4 R5 R6 R7`. -/
def read (text : List Char) : Trace where
  pc := byteAt text 7
  word := ⟨byteAt text 12, byteAt text 15, byteAt text 18⟩
  registers := ⟨Vector.ofFn fun r => byteAt text (23 + 3 * r.val)⟩

variable (t : Trace)

/-- The text of a trace up to the bytes at the program counter. -/
def front : String := "TRACE: " ++ t.pc.upperHex ++ " |"

theorem length_front : t.front.toList.length = 11 := by
  rw [front, String.toList_append, String.toList_append, List.length_append, List.length_append, Byte.length_upperHex]
  rfl

/-- The text of a trace is a byte and two rows. -/
theorem toList_text : t.text.toList = t.front.toList ++ (row [t.word.op, t.word.a, t.word.b] ++
    (" |".toList ++ row t.registers.toList)) := by
  have hblank : " | ".toList = " |".toList ++ " ".toList := rfl
  delta text
  rw [front, row_cons, row_cons, row_cons, row, row]
  simp only [String.toList_append, String.toList_join, List.flatMap_map, List.append_assoc, hblank, List.flatMap_nil,
    List.nil_append]

/-- **The text of a trace has one width.** -/
theorem length_text : t.text.toList.length = width := by
  rw [toList_text, List.length_append, List.length_append, List.length_append, length_front, length_row, length_row,
    Registers.toList, Vector.length_toList]
  rfl

theorem standsAt_pc (back : List Char) : StandsAt (t.text.toList ++ back) 7 t.pc := by
  rw [toList_text, front, String.toList_append, String.toList_append]
  simp only [List.append_assoc]
  exact standsAt_append "TRACE: ".toList t.pc _ rfl

/-- The first row starts at column 11. -/
theorem standsAt_word (back : List Char) {k : Nat} (hk : k < 3) :
    StandsAt (t.text.toList ++ back) (12 + 3 * k) [t.word.op, t.word.a, t.word.b][k] := by
  rw [toList_text, List.append_assoc, List.append_assoc]
  refine standsAt_row _ _ hk ?_
  rw [length_front]
  omega

/-- The second row starts at column 22. -/
theorem standsAt_register (back : List Char) (r : Register) :
    StandsAt (t.text.toList ++ back) (23 + 3 * r.val) (t.registers.get r) := by
  have hr : r.val < t.registers.toList.length := by simp [Registers.toList]
  have hcolumn : (t.front.toList ++ (row [t.word.op, t.word.a, t.word.b] ++ " |".toList)).length + (3 * r.val + 1) =
      23 + 3 * r.val := by
    rw [List.length_append, List.length_append, length_front, length_row]
    simp
    omega
  have hget : t.registers.toList[r.val] = t.registers.get r := by simp [Registers.toList, Registers.get]
  have hstands := standsAt_row _ back hr hcolumn
  simp only [List.append_assoc] at hstands
  rwa [toList_text, List.append_assoc, List.append_assoc, List.append_assoc, ← hget]

/-- **A trace can be read from its text**, also if more text follows. -/
theorem read_text (back : List Char) : read (t.text.toList ++ back) = t := by
  have hregisters : (read (t.text.toList ++ back)).registers = t.registers := by
    refine Registers.ext_get fun r => ?_
    rw [← (t.standsAt_register back r).byteAt_eq]
    simp [read, Registers.get]
  rw [read, Trace.mk.injEq, Word.mk.injEq]
  exact ⟨(t.standsAt_pc back).byteAt_eq, ⟨(t.standsAt_word back (k := 0) (by decide)).byteAt_eq,
    (t.standsAt_word back (k := 1) (by decide)).byteAt_eq, (t.standsAt_word back (k := 2) (by decide)).byteAt_eq⟩,
    hregisters⟩

end Trace

/-! ## Lines of the log -/

/-- What is seen of a message. -/
structure LogLine where
  level : String
  text : String
deriving DecidableEq

def Message.line (message : Message) : LogLine := ⟨message.level, message.text⟩

/-- The value that a line announces: if it names the instruction to print and the first operand a register, the value
that the line shows of that register. -/
def LogLine.announced? (line : LogLine) : Option Byte :=
  if line.level = "TRACE" ∧ line.text.toList.drop Trace.width = " PRN".toList then
    let trace := Trace.read line.text.toList
    (Register.ofByte? trace.word.a).map trace.registers.get
  else none

theorem Instruction.mnemonic_eq_iff (i : Instruction) : i.mnemonic.toList = "PRN".toList ↔ i = .prn := by
  cases i <;> decide

/-- **The line of an instruction to print announces** what the state has in the register. -/
theorem announced?_executing (t : Trace) (i : Instruction) : (Message.executing t i).line.announced? =
    if i = .prn then (Register.ofByte? t.word.a).map t.registers.get else none := by
  have htext : (Message.executing t i).line.text.toList = t.text.toList ++ (" ".toList ++ i.mnemonic.toList) := by
    rw [← List.append_assoc, ← String.toList_append, ← String.toList_append]
    rfl
  have hprn : " ".toList ++ i.mnemonic.toList = " PRN".toList ↔ i = .prn := by
    rw [← i.mnemonic_eq_iff]
    exact List.append_right_inj " ".toList
  have hlevel : (Message.executing t i).line.level = "TRACE" := rfl
  simp only [LogLine.announced?, htext, t.read_text, List.drop_left' t.length_text, hprn, hlevel, true_and]

/-- Only a trace announces something. -/
theorem announced?_of_level_ne {line : LogLine} (h : line.level ≠ "TRACE") : line.announced? = none :=
  if_neg fun hline => h hline.1

end ByteMachine
