import ByteMachine.Machine.Basic
import ByteMachine.Proofs.Image.Grammar
import Mathlib.Data.List.TakeWhile

/-!
# Writing a program as an image

- `Rendering text bytes` says that a text writes these bytes: each one stands on a line of its own, with blanks, a plus
  sign, further zeros and a comment as one likes, and among lines that hold no literal. A line ends with a line feed or
  with a carriage return and a line feed, and the last one may end with neither.
- Whether a carriage return belongs to a line or to its end does not matter (`literal?_concat_return`), so the lines of
  a rendering hold the bytes that it writes (`Rendering.exists_lines`), and every rendering is read back
  (`program_read_of_rendering`).
- `render` writes each byte as eight digits on a line, which is one of the renderings (`rendering_render`).

`rendering_round_trip` puts this together.
-/

namespace ByteMachine.Image

variable {before sign zeros digits after comment line text : List Char} {b : Byte} {bytes : List Byte} {n : Nat}

/-! ## Renderings -/

/-- The line writes this byte, with a plus sign and further zeros or without. -/
inductive Writes : List Char → Byte → Prop
  | intro {before sign zeros digits after comment : List Char} {b : Byte} :
      (∀ c ∈ before, Text.isBlank c) → sign = [] ∨ sign = ['+'] → (∀ c ∈ zeros, c = '0') →
      digits ≠ [] → (∀ c ∈ digits, c = '0' ∨ c = '1') → value digits = b.toNat →
      (∀ c ∈ after, Text.isBlank c) → comment = [] ∨ comment.head? = some '#' →
      Writes (before ++ sign ++ (zeros ++ digits) ++ after ++ comment) b

/-- What a line of a rendering gives: the byte that it writes, or nothing if it is blank, only a comment, or anything
else that is no literal. -/
inductive Gives : List Char → List Byte → Prop
  | byte {line : List Char} {b : Byte} : Writes line b → Gives line [b]
  | blank {before comment : List Char} : (∀ c ∈ before, Text.isBlank c) → comment = [] ∨ comment.head? = some '#' →
      Gives (before ++ comment) []
  | other {line : List Char} : (∀ b, ¬ Literal line b) → Gives line []

/-- The text writes these bytes, line by line. -/
inductive Rendering : List Char → List Byte → Prop
  | last {line : List Char} {bytes : List Byte} : Gives line bytes → '\n' ∉ line → Rendering line bytes
  | line {line ending rest : List Char} {bytes more : List Byte} : Gives line bytes → '\n' ∉ line →
      ending = ['\n'] ∨ ending = ['\r', '\n'] → Rendering rest more →
      Rendering (line ++ ending ++ rest) (bytes ++ more)

/-- A byte in eight binary digits. -/
def binary (b : Byte) : List Char := (Nat.toDigits 2 b.toNat).leftpad 8 '0'

/-- Each byte in eight digits on a line. -/
def render (bytes : List Byte) : List Char := bytes.flatMap fun b => binary b ++ ['\n']

/-! ## Digits -/

/-- Binary digits have the value that they have as digits of any base. -/
theorem value_eq_ofDigitChars (h : ∀ c ∈ digits, c = '0' ∨ c = '1') : value digits = Nat.ofDigitChars 2 digits 0 := by
  have hfold (n : Nat) :
      digits.foldl (fun n c => 2 * n + if c = '1' then 1 else 0) n = Nat.ofDigitChars 2 digits n := by
    induction digits generalizing n with
    | nil => rfl
    | cons c digits ih =>
      rw [List.foldl_cons, Nat.ofDigitChars_cons, ih fun d hd => h d (List.mem_cons_of_mem _ hd)]
      obtain rfl | rfl := h c List.mem_cons_self <;> rfl
  rw [← binaryValue_eq_value, binaryValue, hfold]

/-- Zeros in front do not count. -/
theorem value_zeros_append (hzeros : ∀ c ∈ zeros, c = '0') (hdigits : ∀ c ∈ digits, c = '0' ∨ c = '1') :
    value (zeros ++ digits) = value digits := by
  have hall : ∀ c ∈ zeros ++ digits, c = '0' ∨ c = '1' := by
    intro c hc
    obtain hc | hc := List.mem_append.1 hc
    · exact .inl (hzeros c hc)
    · exact hdigits c hc
  rw [value_eq_ofDigitChars hall, value_eq_ofDigitChars hdigits, List.eq_replicate_of_mem hzeros,
    Nat.ofDigitChars_append, Nat.ofDigitChars_replicate_zero, Nat.mul_zero]

theorem eq_zero_or_one_of_mem_toDigits {c : Char} (h : c ∈ Nat.toDigits 2 n) : c = '0' ∨ c = '1' := by
  induction n using Nat.strongRecOn with
  | ind n ih =>
    have hdigit : ∀ d < 2, d.digitChar = '0' ∨ d.digitChar = '1' := by decide
    rw [Nat.toDigits_eq_if (by decide)] at h
    split at h
    · rename_i hlt
      exact List.mem_singleton.1 h ▸ hdigit n hlt
    · obtain h | h := List.mem_append.1 h
      · exact ih (n / 2) (by omega) h
      · exact List.mem_singleton.1 h ▸ hdigit (n % 2) (Nat.mod_lt n (by decide))

theorem value_toDigits (n : Nat) : value (Nat.toDigits 2 n) = n := by
  rw [value_eq_ofDigitChars fun _ => eq_zero_or_one_of_mem_toDigits,
    Nat.ofDigitChars_toDigits (by decide) (by decide)]

theorem length_binary (b : Byte) : (binary b).length = 8 := by
  have hle : (Nat.toDigits 2 b.toNat).length ≤ 8 := Nat.toDigits_length 2 b.toNat 8 (by decide) b.toNat_lt
  simp only [binary, List.leftpad, List.length_append, List.length_replicate]
  omega

/-! ## Lines of a rendering -/

/-- A line that writes a byte holds a literal of it. -/
theorem Writes.literal (h : Writes line b) : Literal line b := by
  obtain ⟨hbefore, hsign, hzeros, hne, hdigits, hvalue, hafter, hcomment⟩ := h
  rename_i before sign zeros digits after comment
  have hlt := b.toNat_lt
  have hall : value (zeros ++ digits) = b.toNat := (value_zeros_append hzeros hdigits).trans hvalue
  refine .intro hbefore hsign (by simp [hne]) ?_ hafter hcomment (by omega) (by omega)
  intro c hc
  obtain hc | hc := List.mem_append.1 hc
  · exact .inl (hzeros c hc)
  · exact hdigits c hc

/-- A line of blanks and a comment holds no literal. -/
theorem literal?_blank (hbefore : ∀ c ∈ before, Text.isBlank c) (hcomment : comment = [] ∨ comment.head? = some '#') :
    literal? (before ++ comment) = none := by
  have hcode : code (before ++ comment) = [] := by
    rw [code, takeWhile_ne_sharp (fun c hc => ne_sharp_of_isBlank (hbefore c hc)) hcomment, Text.trim,
      List.dropWhile_eq_nil_iff.2 hbefore]
    rfl
  rw [literal?, hcode]
  rfl

/-- A line of a rendering is read as what it gives. -/
theorem Gives.toList_literal? (h : Gives line bytes) : (literal? line).toList = bytes := by
  cases h with
  | byte h => rw [literal?_iff.2 h.literal, Option.toList_some]
  | blank hbefore hcomment => rw [literal?_blank hbefore hcomment, Option.toList_none]
  | other h => rw [literal?_eq_none_iff.2 h, Option.toList_none]

theorem trim_concat {c : Char} (hc : Text.isBlank c) (text : List Char) : Text.trim (text ++ [c]) = Text.trim text := by
  rw [Text.trim, Text.trim, List.dropWhile_append]
  split
  · rename_i h
    simp [List.isEmpty_iff.1 h, hc]
  · simp [hc]

/-- A carriage return at the end of a line belongs to its blanks or to its comment. -/
theorem literal?_concat_return (line : List Char) : literal? (line ++ ['\r']) = literal? line := by
  have hcode : code (line ++ ['\r']) = code line := by
    rw [code, code, List.takeWhile_append]
    split
    · rename_i h
      have hline : line.takeWhile (· ≠ '#') = line := (List.takeWhile_sublist _).eq_of_length h
      rw [hline]
      exact trim_concat (by decide) line
    · rfl
  rw [literal?, hcode, literal?]

/-! ## Texts -/

/-- A line before a line feed is a line of the text, but for a carriage return at its end. -/
theorem lines_lineFeed {rest : List Char} {lines : List (List Char)} (hline : '\n' ∉ line) (hrest : Lines rest lines) :
    ∃ first, literal? first = literal? line ∧ Lines (line ++ '\n' :: rest) (first :: lines) := by
  by_cases hlast : line.getLast? = some '\r'
  · obtain ⟨init, rfl⟩ := List.getLast?_eq_some_iff.1 hlast
    refine ⟨init, (literal?_concat_return init).symm, ?_⟩
    rw [List.append_assoc]
    exact .returnLineFeed (fun h => hline (List.mem_append_left _ h)) hrest
  · exact ⟨line, rfl, .lineFeed hline hlast hrest⟩

/-- **The lines of a rendering hold the bytes that it writes.** -/
theorem Rendering.exists_lines (h : Rendering text bytes) : ∃ lines, Lines text lines ∧ Program lines bytes := by
  simp only [program_iff]
  induction h with
  | @last line bytes hgives hline =>
    rw [← hgives.toList_literal?]
    by_cases hempty : line = []
    · subst hempty
      exact ⟨[], .none, rfl⟩
    · exact ⟨[line], .unended hempty hline, by rw [filterMap_cons_eq, List.filterMap_nil, List.append_nil]⟩
  | @line line ending rest bytes more hgives hline hending _ ih =>
    obtain ⟨lines, hlines, rfl⟩ := ih
    rw [← hgives.toList_literal?]
    obtain rfl | rfl := hending
    · obtain ⟨first, hfirst, htext⟩ := lines_lineFeed hline hlines
      refine ⟨first :: lines, ?_, by rw [filterMap_cons_eq, hfirst]⟩
      rwa [List.append_assoc]
    · refine ⟨line :: lines, ?_, filterMap_cons_eq line lines⟩
      rw [List.append_assoc]
      exact .returnLineFeed hline hlines

/-- **Every rendering is read back**, unless its bytes are too many for memory. -/
theorem program_read_of_rendering (h : Rendering text bytes) :
    (read (encode text)).program = if bytes.length ≤ 256 then .ok bytes else .error (.tooLarge bytes.length) := by
  obtain ⟨lines, hlines, hbytes⟩ := h.exists_lines
  exact program_read_encode hlines hbytes

/-! ## Eight digits on a line -/

theorem writes_binary (b : Byte) : Writes (binary b) b := by
  have h : Writes ([] ++ [] ++ (List.replicate (8 - (Nat.toDigits 2 b.toNat).length) '0' ++ Nat.toDigits 2 b.toNat) ++
      [] ++ []) b :=
    .intro (by simp) (.inl rfl) (fun _ hc => List.eq_of_mem_replicate hc) Nat.toDigits_ne_nil
      (fun _ => eq_zero_or_one_of_mem_toDigits) (value_toDigits b.toNat) (by simp) (.inl rfl)
  rwa [List.append_nil, List.append_nil] at h

theorem lineFeed_not_mem_binary (b : Byte) : '\n' ∉ binary b := by
  intro h
  obtain h | h := List.mem_append.1 h
  · exact absurd (List.eq_of_mem_replicate h) (by decide)
  · exact absurd (eq_zero_or_one_of_mem_toDigits h) (by decide)

/-- Eight digits on a line for each byte are a rendering. -/
theorem rendering_render (bytes : List Byte) : Rendering (render bytes) bytes := by
  induction bytes with
  | nil => exact .last (.blank (fun _ hc => absurd hc List.not_mem_nil) (.inl rfl)) List.not_mem_nil
  | cons b bytes ih => exact .line (.byte (writes_binary b)) (lineFeed_not_mem_binary b) (.inl rfl) ih

/-- **Programs survive being written as images.** However the bytes of a program are written, loading the text into a
new machine answers how many they are and leaves them in memory with zeros after them. In turn the program of any image,
written with eight digits on each line, is read as the same program. So two texts that write the same bytes are read
alike: blanks, comments, line ends and the lines between do not matter. -/
theorem rendering_round_trip :
    (∀ text bytes, Rendering text bytes → bytes.length ≤ 256 → ∀ sink,
      ((Machine.start sink).loadImage (encode text)).result = .ok bytes.length ∧
      ((Machine.start sink).loadImage (encode text)).machine.state.memory.toList =
        bytes ++ List.replicate (256 - bytes.length) 0) ∧
    (∀ b : Byte, (binary b).length = 8) ∧
    (∀ image bytes, (read image).program = .ok bytes → (read (encode (render bytes))).program = .ok bytes) ∧
    ∀ text text' bytes, Rendering text bytes → Rendering text' bytes →
      (read (encode text)).program = (read (encode text')).program := by
  refine ⟨?_, length_binary, ?_, ?_⟩
  · intro text bytes h hlength sink
    have hread := program_read_of_rendering h
    rw [if_pos hlength] at hread
    rw [(Machine.start sink).loadImage_of_ok hread]
    exact ⟨rfl, Memory.toList_overlay_blank hlength⟩
  · intro image bytes h
    rw [program_read_of_rendering (rendering_render bytes), if_pos (length_le_of_program_read h)]
  · intro text text' bytes h h'
    rw [program_read_of_rendering h, program_read_of_rendering h']

/-- Two bytes with blanks of three kinds, a sign, zeros and comments, and three lines between that hold no literal. The
first byte stands before a carriage return and a line feed, the last one before a carriage return and the end. -/
def decorated : List Char :=
  "\u00a0+0010000010\t#1#0\r\n\n #1\r\n102\n0\u2003\r".toList

theorem rendering_decorated : Rendering decorated [0x82, 0] := by
  have hspace (c : Char) (hc : Text.isBlank c) : ∀ d ∈ [c], Text.isBlank d := List.forall_mem_singleton.2 hc
  have hfirst : Gives (['\u00a0'] ++ ['+'] ++ (['0', '0'] ++ ['1', '0', '0', '0', '0', '0', '1', '0']) ++ ['\t'] ++
      ['#', '1', '#', '0']) [0x82] :=
    .byte (.intro (hspace _ (by decide)) (.inr rfl) (by simp) (by simp) (by simp) (by decide) (hspace _ (by decide))
      (.inr rfl))
  have hblank : Gives ([] ++ []) [] := .blank (by simp) (.inl rfl)
  have hcomment : Gives ([' '] ++ ['#', '1']) [] := .blank (hspace _ (by decide)) (.inr rfl)
  have hother : Gives ['1', '0', '2'] [] := by
    have hnone : literal? ['1', '0', '2'] = none := by decide
    exact .other (literal?_eq_none_iff.1 hnone)
  have hlast : Gives ([] ++ [] ++ ([] ++ ['0']) ++ ['\u2003', '\r'] ++ []) [0] :=
    .byte (.intro (by simp) (.inl rfl) (by simp) (by simp) (by simp) (by decide)
      (List.forall_mem_cons.2 ⟨by decide, hspace _ (by decide)⟩) (.inl rfl))
  exact .line hfirst (by decide) (.inr rfl) (.line hblank (by decide) (.inl rfl)
    (.line hcomment (by decide) (.inr rfl) (.line hother (by decide) (.inl rfl) (.last hlast (by decide)))))

theorem rendering_round_trip_decorated : Rendering decorated [0x82, 0] ∧
    ((Machine.start {}).loadImage (encode decorated)).result = .ok 2 ∧
    ((Machine.start {}).loadImage (encode decorated)).machine.state.memory.toList =
      [0x82, 0] ++ List.replicate 254 0 := by
  obtain ⟨hresult, hmemory⟩ := rendering_round_trip.1 decorated [0x82, 0] rendering_decorated (by decide) {}
  exact ⟨rendering_decorated, hresult, hmemory⟩

end ByteMachine.Image
