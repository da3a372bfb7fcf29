import ByteMachine.Proofs.Image.Encoding

/-!
# The lines of a text

- `Lines text lines` says what the lines of a text are: each one ends with a line feed, before which one carriage
  return is dropped, or it is what stands after the last line feed, if anything does.
- Cutting the bytes of a text gives the bytes of its lines (`lines_encode`), so every text has lines (`exists_lines`).
- Bytes are a text as soon as all their lines are (`isText_of_lines`): where lines are cut no character is cut.
-/

namespace ByteMachine.Image

/-- The lines of a text, without their line ends. -/
inductive Lines : List Char → List (List Char) → Prop
  | none : Lines [] []
  | unended {line : List Char} : line ≠ [] → '\n' ∉ line → Lines line [line]
  | lineFeed {line rest : List Char} {lines : List (List Char)} : '\n' ∉ line → line.getLast? ≠ some '\r' →
      Lines rest lines → Lines (line ++ '\n' :: rest) (line :: lines)
  | returnLineFeed {line rest : List Char} {lines : List (List Char)} : '\n' ∉ line →
      Lines rest lines → Lines (line ++ '\r' :: '\n' :: rest) (line :: lines)

/-- Induction along the pieces between separators. -/
theorem piecewise {α : Type} [DecidableEq α] {P : List α → Prop} (separator : α)
    (last : ∀ piece, separator ∉ piece → P piece)
    (more : ∀ piece rest, separator ∉ piece → P rest → P (piece ++ separator :: rest)) (l : List α) : P l := by
  induction hn : l.length using Nat.strongRecOn generalizing l with
  | ind n ih =>
    by_cases h : separator ∈ l
    · obtain ⟨piece, rest, rfl, hpiece⟩ := List.eq_append_cons_of_mem h
      have hlt : rest.length < n := by
        simp only [← hn, List.length_append, List.length_cons]
        omega
      exact more piece rest hpiece (ih _ hlt rest rfl)
    · exact last l h

/-- Every text has lines. -/
theorem exists_lines (text : List Char) : ∃ lines, Lines text lines := by
  induction text using piecewise '\n' with
  | last line h =>
    by_cases hline : line = []
    · exact ⟨[], hline ▸ .none⟩
    · exact ⟨[line], .unended hline h⟩
  | more line rest h ih =>
    obtain ⟨lines, hlines⟩ := ih
    by_cases hlast : line.getLast? = some '\r'
    · obtain ⟨init, rfl⟩ := List.getLast?_eq_some_iff.1 hlast
      refine ⟨init :: lines, ?_⟩
      rw [List.append_assoc]
      exact .returnLineFeed (fun hmem => h (List.mem_append_left _ hmem)) hlines
    · exact ⟨line :: lines, .lineFeed h hlast hlines⟩

/-! ## Cutting bytes -/

variable {line rest bytes : List Byte} {text init : List Char}

/-- What stands before the first line feed is the first line. -/
theorem lines_append_lineFeed (h : lineFeed ∉ line) :
    lines (line ++ lineFeed :: rest) = dropReturn line :: lines rest := by
  have hne : rest.splitOn lineFeed ≠ [] := List.splitOn_ne_nil _ _
  simp only [lines, List.splitOn_append_cons_self_of_not_mem h, List.dropLast_cons_of_ne_nil hne, List.map_cons,
    List.getLast?_cons_of_ne_nil hne, List.cons_append]

/-- Without a line feed there is one line at most. -/
theorem lines_of_not_mem (h : lineFeed ∉ line) : lines line = if line = [] then [] else [line] := by
  simp only [lines, List.splitOn_eq_singleton h]
  by_cases hline : line = [] <;> simp [hline]

theorem lineFeed_mem_encode_iff : lineFeed ∈ encode text ↔ '\n' ∈ text := mem_encode_iff (d := '\n') (by decide)

theorem encode_append_lineFeed (init rest : List Char) :
    encode (init ++ '\n' :: rest) = encode init ++ lineFeed :: encode rest := by
  rw [encode_append, encode_cons, utf8EncodeChar_of_ascii (by decide)]
  rfl

theorem encode_append_return (init : List Char) : encode (init ++ ['\r']) = encode init ++ [carriageReturn] :=
  encode_concat_of_ascii (by decide) init

theorem dropReturn_append_return (line : List Byte) : dropReturn (line ++ [carriageReturn]) = line := by
  rw [dropReturn, if_pos List.getLast?_concat, List.dropLast_concat]

theorem dropReturn_encode (h : text.getLast? ≠ some '\r') : dropReturn (encode text) = encode text :=
  if_neg fun hlast => h ((getLast?_encode_iff (d := '\r') (by decide)).1 hlast)

/-- Cutting the bytes of a text gives the bytes of its lines. -/
theorem lines_encode {lineTexts : List (List Char)} (h : Lines text lineTexts) :
    lines (encode text) = lineTexts.map encode := by
  induction h with
  | none => rfl
  | @unended line hne hline =>
    have hne' : encode line ≠ [] := by
      obtain ⟨c, cs, rfl⟩ := List.exists_cons_of_ne_nil hne
      simp [String.utf8EncodeChar_ne_nil]
    rw [lines_of_not_mem (mt lineFeed_mem_encode_iff.1 hline), if_neg hne']
    rfl
  | lineFeed hline hlast _ ih =>
    rw [encode_append_lineFeed, lines_append_lineFeed (mt lineFeed_mem_encode_iff.1 hline), dropReturn_encode hlast, ih]
    rfl
  | @returnLineFeed line rest lines hline _ ih =>
    have hreturn : '\n' ∉ line ++ ['\r'] := by simpa using hline
    have happend : line ++ '\r' :: '\n' :: rest = (line ++ ['\r']) ++ '\n' :: rest := by simp
    rw [happend, encode_append_lineFeed, lines_append_lineFeed (mt lineFeed_mem_encode_iff.1 hreturn),
      encode_append_return, dropReturn_append_return, ih]
    rfl

/-! ## Lines that are texts -/

/-- A carriage return at the end of a line does not keep it from being a text. -/
theorem isText_of_dropReturn (h : IsText (dropReturn line)) : IsText line := by
  unfold dropReturn at h
  split at h
  · rename_i hlast
    obtain ⟨init, rfl⟩ := List.getLast?_eq_some_iff.1 hlast
    rw [List.dropLast_concat] at h
    obtain ⟨text, rfl⟩ := h
    exact ⟨text ++ ['\r'], encode_append_return text⟩
  · exact h

/-- Bytes are a text if all their lines are. -/
theorem isText_of_lines (h : ∀ line ∈ lines bytes, IsText line) : IsText bytes := by
  induction bytes using piecewise lineFeed with
  | last line hline =>
    by_cases hempty : line = []
    · exact hempty ▸ isText_encode []
    · rw [lines_of_not_mem hline, if_neg hempty] at h
      exact h line (List.mem_singleton_self line)
  | more line rest hline ih =>
    rw [lines_append_lineFeed hline] at h
    obtain ⟨text, rfl⟩ := isText_of_dropReturn (h _ List.mem_cons_self)
    obtain ⟨text', rfl⟩ := ih fun line' hline' => h line' (List.mem_cons_of_mem _ hline')
    exact ⟨_, encode_append_lineFeed text text'⟩

/-- **Bytes are a text iff all their lines are.** -/
theorem isText_iff_lines : IsText bytes ↔ ∀ line ∈ lines bytes, IsText line := by
  refine ⟨?_, isText_of_lines⟩
  rintro ⟨text, rfl⟩ line hline
  obtain ⟨lineTexts, hlines⟩ := exists_lines text
  rw [lines_encode hlines] at hline
  obtain ⟨lineText, _, rfl⟩ := List.mem_map.1 hline
  exact isText_encode lineText

end ByteMachine.Image
