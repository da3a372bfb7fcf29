import Mathlib.Data.List.Forall2
import ByteMachine.Machine.Basic
import ByteMachine.Proofs.Output.Columns

/-!
# Traces are lossless

- A field of a text is two upper-case hexadecimal digits from a column on. It is read as a byte exactly if they are the
  digits of the byte (`fieldAt?_eq_some_iff`).
- The text of a trace has twelve fields at fixed columns, and between them it has marks that do not depend on the trace
  (`Trace.LaidOut`). Exactly the text of the trace is laid out like that (`Trace.laidOut_iff`).

`trace_is_lossless` says what this means for a machine.
-/

namespace ByteMachine

/-! ## Fields -/

/-- The upper-case hexadecimal digits. -/
def hexDigits : List Char := "0123456789ABCDEF".toList

/-- The byte that two upper-case hexadecimal digits from a column on stand for. Other characters, or the end of the
text, are no field. -/
def fieldAt? (text : List Char) (column : Nat) : Option Byte :=
  if column + 2 ≤ text.length ∧ ((text.drop column).take 2).all (· ∈ hexDigits) then some (byteAt text column) else none

variable {text : List Char} {column : Nat} {c high low : Char} {b : Byte}

theorem mem_hexDigits_iff : c ∈ hexDigits ↔ ∃ d < 16, (Nat.digitChar d).toUpper = c := by
  have hdigits : hexDigits = (List.range 16).map fun d => (Nat.digitChar d).toUpper := by decide
  simp only [hdigits, List.mem_map, List.mem_range]

/-- Two digits are the digits of the byte that they stand for. -/
theorem toList_upperHex_of_digits (hhigh : high ∈ hexDigits) (hlow : low ∈ hexDigits)
    (hb : b = UInt8.ofNat (16 * digitValue high + digitValue low)) : b.upperHex.toList = [high, low] := by
  obtain ⟨d, hd, rfl⟩ := mem_hexDigits_iff.1 hhigh
  obtain ⟨e, he, rfl⟩ := mem_hexDigits_iff.1 hlow
  rw [digitValue_toUpper hd, digitValue_toUpper he] at hb
  have hnat : b.toNat = 16 * d + e := by
    rw [hb, UInt8.toNat_ofNat']
    omega
  have hdiv : b.toNat / 16 = d := by omega
  have hmod : b.toNat % 16 = e := by omega
  rw [Byte.toList_upperHex, hdiv, hmod]

/-- **A field is read as a byte** exactly if the digits of the byte stand there. -/
theorem fieldAt?_eq_some_iff : fieldAt? text column = some b ↔ StandsAt text column b := by
  simp only [fieldAt?, Option.ite_none_right_eq_some, Option.some.injEq, List.all_eq_true, decide_eq_true_eq]
  constructor
  · rintro ⟨⟨hlength, hdigits⟩, hb⟩
    have htwo : ((text.drop column).take 2).length = 2 := by
      rw [List.length_take, List.length_drop]
      omega
    obtain ⟨high, low, hpair⟩ := List.length_eq_two.1 htwo
    rw [hpair] at hdigits
    rw [byteAt_of_pair hpair] at hb
    rw [StandsAt, hpair, toList_upperHex_of_digits (hdigits high (by simp)) (hdigits low (by simp)) hb.symm]
  · intro h
    have hlength := congrArg List.length h
    rw [List.length_take, List.length_drop, Byte.length_upperHex] at hlength
    refine ⟨⟨by omega, ?_⟩, h.byteAt_eq⟩
    have hb := b.toNat_lt
    rw [h, Byte.toList_upperHex, List.forall_mem_cons, List.forall_mem_singleton]
    exact ⟨mem_hexDigits_iff.2 ⟨_, by omega, rfl⟩, mem_hexDigits_iff.2 ⟨_, by omega, rfl⟩⟩

/-- Where the same byte stands, texts have the same two characters. -/
theorem StandsAt.getElem?_eq {text' : List Char} {k : Nat} (h : StandsAt text column b) (h' : StandsAt text' column b)
    (hk : k = column ∨ k = column + 1) : text[k]? = text'[k]? := by
  obtain ⟨hhigh, hlow⟩ := getElem?_of_pair (h.trans b.toList_upperHex)
  obtain ⟨hhigh', hlow'⟩ := getElem?_of_pair (h'.trans b.toList_upperHex)
  obtain rfl | rfl := hk
  · rw [hhigh, hhigh']
  · rw [hlow, hlow']

/-! ## The layout of a trace -/

/-- A text has the marks of a form, in which a point stands for any character. -/
def Marked (text form : List Char) : Prop := List.Forall₂ (fun c mark => mark = '.' ∨ c = mark) text form

theorem marked_self (text : List Char) : Marked text text := List.forall₂_same.2 fun _ _ => .inr rfl

theorem Marked.append {form text' form' : List Char} (h : Marked text form) (h' : Marked text' form') :
    Marked (text ++ text') (form ++ form') := List.rel_append h h'

/-- Apart from the points the text is the form. -/
theorem Marked.getElem?_eq {form : List Char} {k : Nat} (h : Marked text form) (hk : form[k]? ≠ some '.') :
    text[k]? = form[k]? := by
  induction h generalizing k with
  | nil => rfl
  | cons hc _ ih =>
    cases k with
    | zero =>
      rw [List.getElem?_cons_zero, Ne, Option.some.injEq] at hk
      rw [List.getElem?_cons_zero, List.getElem?_cons_zero, hc.resolve_left hk]
    | succ k =>
      rw [List.getElem?_cons_succ] at hk
      rw [List.getElem?_cons_succ, List.getElem?_cons_succ, ih hk]

theorem marked_upperHex (b : Byte) : Marked b.upperHex.toList "..".toList := by
  rw [Byte.toList_upperHex]
  exact .cons (.inl rfl) (.cons (.inl rfl) .nil)

/-- The form of a row of bytes. -/
def rowForm (n : Nat) : List Char := (List.replicate n " ..".toList).flatten

theorem marked_row (values : List Byte) : Marked (row values) (rowForm values.length) := by
  induction values with
  | nil => exact .nil
  | cons value values ih =>
    rw [row_cons]
    exact (marked_self " ".toList).append ((marked_upperHex value).append ih)

namespace Trace

/-- Where the fields start: the program counter, the three bytes there, and the registers. -/
def columns : List Nat := [7, 12, 15, 18] ++ List.ofFn fun r : Register => 23 + 3 * r.val

/-- The bytes of a trace, in the order of the columns. -/
def fields (t : Trace) : List Byte := [t.pc, t.word.op, t.word.a, t.word.b] ++ List.ofFn t.registers.get

/-- The text of a trace with a point for each digit of a field. -/
def form : List Char := "TRACE: .. | .. .. .. | .. .. .. .. .. .. .. ..".toList

/-- A text has the marks of a trace, and the bytes of this trace in its fields. -/
structure LaidOut (t : Trace) (text : List Char) : Prop where
  marked : Marked text form
  fields : columns.map (fieldAt? text) = t.fields.map some

variable {t : Trace}

theorem LaidOut.length (h : t.LaidOut text) : text.length = 46 := h.marked.length_eq

/-- The points of the form are in the fields. -/
theorem exists_column {k : Nat} (h : form[k]? = some '.') : ∃ column ∈ columns, k = column ∨ k = column + 1 := by
  have hk : k < form.length := (List.getElem?_eq_some_iff.1 h).1
  have hall : ∀ k < form.length, form[k]? = some '.' → ∃ column ∈ columns, k = column ∨ k = column + 1 := by decide
  exact hall k hk h

theorem form_eq : form = "TRACE: .. |".toList ++ (rowForm 3 ++ (" |".toList ++ rowForm 8)) := by decide

/-- The text of a trace has the marks of a trace. -/
theorem marked_text (t : Trace) : Marked t.text.toList form := by
  have hfront : Marked t.front.toList "TRACE: .. |".toList := by
    have hsplit : "TRACE: .. |".toList = "TRACE: ".toList ++ ("..".toList ++ " |".toList) := rfl
    rw [front, String.toList_append, String.toList_append, List.append_assoc, hsplit]
    exact (marked_self _).append ((marked_upperHex t.pc).append (marked_self _))
  have hregisters : t.registers.toList.length = 8 := Vector.length_toList
  have hrow := marked_row t.registers.toList
  rw [hregisters] at hrow
  rw [toList_text, form_eq]
  exact hfront.append ((marked_row [t.word.op, t.word.a, t.word.b]).append ((marked_self " |".toList).append hrow))

/-- The text of a trace has the bytes of the trace in its fields. -/
theorem map_fieldAt?_text (t : Trace) : columns.map (fieldAt? t.text.toList) = t.fields.map some := by
  have hfield {column : Nat} {b : Byte} (h : StandsAt (t.text.toList ++ []) column b) :
      fieldAt? t.text.toList column = some b := by
    rw [List.append_nil] at h
    exact fieldAt?_eq_some_iff.2 h
  have hpc : fieldAt? t.text.toList 7 = some t.pc := hfield (t.standsAt_pc [])
  have hop : fieldAt? t.text.toList 12 = some t.word.op := hfield (t.standsAt_word [] (k := 0) (by decide))
  have ha : fieldAt? t.text.toList 15 = some t.word.a := hfield (t.standsAt_word [] (k := 1) (by decide))
  have hb : fieldAt? t.text.toList 18 = some t.word.b := hfield (t.standsAt_word [] (k := 2) (by decide))
  have hregisters : (fieldAt? t.text.toList ∘ fun r : Register => 23 + 3 * r.val) = some ∘ t.registers.get := by
    funext r
    rw [Function.comp_apply, Function.comp_apply]
    exact hfield (t.standsAt_register [] r)
  rw [columns, fields, List.map_append, List.map_append, List.map_ofFn, List.map_ofFn, hregisters]
  simp only [List.map_cons, List.map_nil, hpc, hop, ha, hb]

/-- In each field of a text that is laid out stands the byte that stands there in the text of the trace. -/
theorem LaidOut.exists_standsAt (h : t.LaidOut text) (hc : column ∈ columns) :
    ∃ b, StandsAt text column b ∧ StandsAt t.text.toList column b := by
  have hsame : fieldAt? text column = fieldAt? t.text.toList column :=
    List.map_inj_left.1 (h.fields.trans t.map_fieldAt?_text.symm) column hc
  obtain ⟨b, _, hb⟩ : ∃ b ∈ t.fields, some b = fieldAt? text column := by
    rw [← List.mem_map, ← h.fields]
    exact List.mem_map.2 ⟨column, hc, rfl⟩
  exact ⟨b, fieldAt?_eq_some_iff.1 hb.symm, fieldAt?_eq_some_iff.1 (hsame.symm.trans hb.symm)⟩

/-- **The text of a trace is the only one that is laid out** as a text of the trace. -/
theorem laidOut_iff : t.LaidOut text ↔ text = t.text.toList := by
  constructor
  · intro h
    refine List.ext_getElem? fun k => ?_
    -- A character is a digit in a field, or a mark that the form tells.
    by_cases hk : form[k]? = some '.'
    · obtain ⟨column, hc, hcolumn⟩ := exists_column hk
      obtain ⟨b, hb, hb'⟩ := h.exists_standsAt hc
      exact hb.getElem?_eq hb' hcolumn
    · rw [h.marked.getElem?_eq hk, t.marked_text.getElem?_eq hk]
  · intro h
    rw [h]
    exact ⟨t.marked_text, t.map_fieldAt?_text⟩

/-- **The text of a trace tells the trace.** -/
theorem text_eq_iff {t t' : Trace} : t.text = t'.text ↔ t = t' := by
  refine ⟨fun h => ?_, fun h => h ▸ rfl⟩
  have hread := t.read_text []
  rw [h, t'.read_text []] at hread
  exact hread.symm

end Trace

/-- **A trace is lossless.** The text of the trace of a machine has 46 characters. Two upper-case hexadecimal digits
stand at each of twelve fixed columns, and they are read as the program counter, the three bytes there, at addresses
that wrap, and the registers in order. No other text has these fields and the marks between them. So the texts of two
machines are equal exactly if the machines agree on all of these bytes. -/
theorem trace_is_lossless (m : Machine) :
    m.state.trace.text.length = 46 ∧
    Trace.columns.map (fieldAt? m.state.trace.text.toList) =
      ([m.state.pc, m.state.memory.read m.state.pc, m.state.memory.read (m.state.pc + 1),
        m.state.memory.read (m.state.pc + 2)] ++ List.ofFn m.state.get).map some ∧
    (∀ text : String, m.state.trace.LaidOut text.toList ↔ text = m.state.trace.text) ∧
    ∀ m' : Machine, m.state.trace.text = m'.state.trace.text ↔
      m.state.pc = m'.state.pc ∧ m.state.memory.read m.state.pc = m'.state.memory.read m'.state.pc ∧
      m.state.memory.read (m.state.pc + 1) = m'.state.memory.read (m'.state.pc + 1) ∧
      m.state.memory.read (m.state.pc + 2) = m'.state.memory.read (m'.state.pc + 2) ∧
      ∀ r, m.state.get r = m'.state.get r := by
  have hlaid : m.state.trace.LaidOut m.state.trace.text.toList := Trace.laidOut_iff.2 rfl
  refine ⟨?_, hlaid.fields, fun text => ?_, fun m' => ?_⟩
  · rw [← String.length_toList]
    exact hlaid.length
  · rw [Trace.laidOut_iff, String.toList_inj]
  · have hregisters : m.state.registers = m'.state.registers ↔ ∀ r, m.state.get r = m'.state.get r :=
      ⟨fun h r => congrArg (·.get r) h, Registers.ext_get⟩
    rw [Trace.text_eq_iff, State.trace, State.trace, Trace.mk.injEq, State.fetch, State.fetch, Word.mk.injEq,
      hregisters, and_assoc, and_assoc]

/-- The bytes after the last address are those at 0 and 1. -/
example : { State.initial with pc := 0xFF, memory := (Memory.blank.write 0xFF 0x82).write 1 0xAB }.trace.text =
    "TRACE: FF | 82 00 AB | 00 00 00 00 00 00 00 F4" := by
  decide +kernel

end ByteMachine
