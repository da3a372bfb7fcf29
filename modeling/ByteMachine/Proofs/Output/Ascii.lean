import ByteMachine.Proofs.Cycle.Outcome

/-!
# All output is ASCII

A text is ASCII if UTF-8 takes one byte for each of its characters. All that a machine writes is ASCII (`ascii_output`),
so the limit of a sink counts bytes as well as characters (`Sink.length_bytes`), and to cut off characters is to cut
off bytes (`Sink.bytes_ofList_take`).
-/

namespace ByteMachine

/-- Each character takes one byte. -/
def Ascii (text : String) : Prop := ∀ c ∈ text.toList, c.utf8Size = 1

theorem ascii_empty : Ascii "" := by
  intro c hc
  simp at hc

theorem Ascii.append {t u : String} (ht : Ascii t) (hu : Ascii u) : Ascii (t ++ u) := by
  intro c hc
  rw [String.toList_append, List.mem_append] at hc
  exact hc.elim (ht c) (hu c)

theorem ascii_decimal (b : Byte) : Ascii b.decimal := by
  intro c hc
  rw [Byte.decimal, Nat.toList_repr] at hc
  have hdigit := Nat.isDigit_of_mem_toDigits (by decide) (by decide) hc
  rw [Char.isDigit_iff_toNat] at hdigit
  rw [Char.utf8Size_eq_one_iff, UInt32.le_iff_toNat_le]
  exact Nat.le_trans hdigit.2 (by decide)

/-- What a cycle writes is ASCII. -/
theorem ascii_output (s : State) : Ascii s.output := by
  have hline : Ascii "\n" := by simp [Ascii]; decide
  have hnotice : Ascii (haltNotice ++ "\n") := by
    simp [Ascii, haltNotice]
    decide
  refine .append ?_ ?_
  · cases s.printed with
    | none => exact ascii_empty
    | some value => exact (ascii_decimal value).append hline
  · split
    · exact hnotice
    · exact ascii_empty

/-! ## The bytes of a sink -/

/-- The text of a sink in UTF-8. -/
def Sink.bytes (s : Sink) : List Byte := s.text.toUTF8.data.toList

theorem Sink.bytes_eq_map {s : Sink} (h : Ascii s.text) : s.bytes = s.text.toList.map fun c => c.val.toUInt8 := by
  have hflat : s.bytes = s.text.toList.flatMap String.utf8EncodeChar := by
    rw [bytes, String.toUTF8, ← String.utf8Encode_toList, List.utf8Encode, List.toList_data_toByteArray]
  rw [hflat, List.map_eq_flatMap, List.flatMap_def, List.flatMap_def]
  exact congrArg List.flatten (List.map_congr_left fun c hc => String.utf8EncodeChar_eq_singleton (h c hc))

theorem Sink.length_bytes {s : Sink} (h : Ascii s.text) : s.bytes.length = s.text.length := by
  rw [bytes_eq_map h, List.length_map, String.length_toList]

/-- Cutting off characters is cutting off bytes. -/
theorem Sink.bytes_ofList_take {s t : Sink} {n : Nat} (h : Ascii t.text)
    (hs : s.text = String.ofList (t.text.toList.take n)) : s.bytes = t.bytes.take n := by
  have hs' : Ascii s.text := by
    intro c hc
    rw [hs, String.toList_ofList] at hc
    exact h c (List.mem_of_mem_take hc)
  rw [bytes_eq_map h, bytes_eq_map hs', hs, String.toList_ofList, List.map_take]

end ByteMachine
