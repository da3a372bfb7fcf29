import ByteMachine.Proofs.Cycle.Outcome

/-!
# Transcripts

- `transcript values halted` is the text of a machine that has printed these values and has halted or not: one line for
  each value, its decimal numeral, and last the notice of the halt. A line that is a numeral has no sign and no zero in
  front (`numeral_decimal`).
- The lines of a text can be told apart (`splitOn_unlines`), a notice is no numeral, and a numeral has one value. So a
  transcript tells the values in order and whether the machine has halted (`readTranscript_transcript`).
-/

namespace ByteMachine

/-- The text of some lines, each one ended by a line feed. -/
def unlines (lines : List String) : String := String.join (lines.map (· ++ "\n"))

/-- What a machine writes that prints these values and then halts, or does not. -/
def transcript (values : List Byte) (halted : Bool) : String :=
  unlines (values.map Byte.decimal ++ if halted then [haltNotice] else [])

/-- Reads a transcript: all lines but the notice are values, and the machine has halted if there is a notice. -/
def readTranscript (text : String) : List Byte × Bool :=
  let lines := (text.toList.splitOn '\n').dropLast
  ((lines.filter (· ≠ haltNotice.toList)).map fun line => UInt8.ofNat (Nat.ofDigitChars 10 line 0),
    haltNotice.toList ∈ lines)

/-- The last line of a text; what follows the last line feed is no line. -/
def lastLine? (text : String) : Option String := (text.toList.splitOn '\n').dropLast.getLast?.map String.ofList

/-! ## Numerals -/

/-- The text writes `n` in decimal digits, without a sign, and without a zero in front. -/
structure Numeral (text : String) (n : Nat) : Prop where
  isDigit : ∀ c ∈ text.toList, c.isDigit
  value : Nat.ofDigitChars 10 text.toList 0 = n
  leading : text.toList.head? = some '0' → text = "0"

variable {values : List Byte} {halted : Bool} {lines : List String} {b : Byte}

/-- The decimal digits of a positive number do not start with a zero. -/
theorem head?_toDigits {n : Nat} (h : 0 < n) : (Nat.toDigits 10 n).head? ≠ some '0' := by
  induction n using Nat.strongRecOn with
  | ind n ih =>
    rw [Nat.toDigits_eq_if (by decide)]
    split
    · rename_i hlt
      have hdigit : ∀ d < 10, 0 < d → [Nat.digitChar d].head? ≠ some '0' := by decide
      exact hdigit n hlt h
    · rw [List.head?_append, Option.or_of_isSome (List.isSome_head?.2 Nat.toDigits_ne_nil)]
      exact ih (n / 10) (by omega) (by omega)

/-- **The numeral of a byte is its decimal numeral.** -/
theorem numeral_decimal (b : Byte) : Numeral b.decimal b.toNat where
  isDigit c hc := by
    rw [Byte.decimal, Nat.toList_repr] at hc
    exact Nat.isDigit_of_mem_toDigits (by decide) (by decide) hc
  value := by rw [Byte.decimal, Nat.toList_repr, Nat.ofDigitChars_ten_toDigits]
  leading h := by
    rw [Byte.decimal, Nat.toList_repr] at h
    obtain hzero | hpos := Nat.eq_zero_or_pos b.toNat
    · rw [Byte.decimal, hzero]
      rfl
    · exact absurd h (head?_toDigits hpos)

/-! ## Lines -/

theorem unlines_append (lines more : List String) : unlines (lines ++ more) = unlines lines ++ unlines more := by
  rw [unlines, List.map_append, String.join_append, unlines, unlines]

/-- A machine that has not halted goes on with its transcript. -/
theorem transcript_append (values more : List Byte) (halted : Bool) :
    transcript (values ++ more) halted = transcript values false ++ transcript more halted := by
  rw [transcript, List.map_append, List.append_assoc, unlines_append, transcript, transcript]
  simp

theorem transcript_nil : transcript [] false = "" := rfl

/-- A cycle writes the transcript of what its state has to say. -/
theorem State.output_eq_transcript (s : State) : s.output = transcript s.printed.toList s.halted := by
  rw [output]
  cases s.printed <;> cases s.halted <;> simp [transcript, unlines]

/-- **A text can be cut into its lines again** if no line has a line feed in it. -/
theorem splitOn_unlines (h : ∀ line ∈ lines, '\n' ∉ line.toList) :
    (unlines lines).toList.splitOn '\n' = lines.map String.toList ++ [[]] := by
  induction lines with
  | nil => rfl
  | cons line lines ih =>
    have hfirst : (unlines (line :: lines)).toList = line.toList ++ '\n' :: (unlines lines).toList := by
      simp [unlines, String.join_cons]
    rw [hfirst, List.splitOn_append_cons_self_of_not_mem (h line List.mem_cons_self),
      ih fun l hl => h l (List.mem_cons_of_mem _ hl)]
    rfl

theorem lastLine?_unlines (h : ∀ line ∈ lines, '\n' ∉ line.toList) : lastLine? (unlines lines) = lines.getLast? := by
  rw [lastLine?, splitOn_unlines h, List.dropLast_concat, List.getLast?_map, Option.map_map]
  simp [Function.comp_def]

/-! ## Reading a transcript -/

theorem lineFeed_not_mem_decimal (b : Byte) : '\n' ∉ b.decimal.toList := by
  intro h
  exact absurd ((numeral_decimal b).isDigit _ h) (by decide)

theorem decimal_ne_haltNotice (b : Byte) : b.decimal.toList ≠ haltNotice.toList := by
  intro h
  have hdigit := (numeral_decimal b).isDigit 'P' (by rw [h]; decide)
  exact absurd hdigit (by decide)

/-- No line of a transcript has a line feed in it. -/
theorem lineFeed_not_mem_of_mem_lines {line : String}
    (h : line ∈ values.map Byte.decimal ++ if halted then [haltNotice] else []) : '\n' ∉ line.toList := by
  obtain h | h := List.mem_append.1 h
  · obtain ⟨value, _, rfl⟩ := List.mem_map.1 h
    exact lineFeed_not_mem_decimal value
  · cases halted with
    | false => exact absurd h List.not_mem_nil
    | true =>
      obtain rfl := List.mem_singleton.1 h
      decide

/-- The last line of a machine that has halted is the notice. -/
theorem lastLine?_transcript_true (values : List Byte) : lastLine? (transcript values true) = some haltNotice := by
  rw [transcript, lastLine?_unlines fun _ => lineFeed_not_mem_of_mem_lines, if_pos rfl, List.getLast?_concat]

/-- **A transcript can be read back.** -/
theorem readTranscript_transcript (values : List Byte) (halted : Bool) :
    readTranscript (transcript values halted) = (values, halted) := by
  have hlines : (transcript values halted).toList.splitOn '\n' =
      (values.map Byte.decimal ++ if halted then [haltNotice] else []).map String.toList ++ [[]] :=
    splitOn_unlines fun _ => lineFeed_not_mem_of_mem_lines
  have hvalue (value : Byte) : UInt8.ofNat (Nat.ofDigitChars 10 value.decimal.toList 0) = value := by
    rw [(numeral_decimal value).value, UInt8.ofNat_toNat]
  rw [readTranscript, hlines, List.dropLast_concat]
  cases halted <;> simp [List.filter_eq_self.2, decimal_ne_haltNotice, hvalue, Function.comp_def]

end ByteMachine
