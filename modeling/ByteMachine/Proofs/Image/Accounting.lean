import ByteMachine.Proofs.Image.Grammar

/-!
# Every line is accounted for

- `Cut bytes lines` says what the lines of bytes are, whether or not they are texts: the rule of `Lines`, byte by byte.
  Bytes are cut in one way only, and it is the one that reading takes (`cut_iff`).
- `Reports texts log` says that a log names exactly the lines without a literal, each one once, by their numbers from 1
  on. The reports of skipped lines do (`reports_skips`), and each line is reported or gives a byte
  (`length_skips_add_length_bytes`).
- What stands after the first line that is no text makes no difference (`read_of_line_not_isText`).

`every_line_accounted` puts this together.
-/

namespace ByteMachine

/-- The number of the line that a message reports. -/
def Message.number? : Message → Option Nat
  | skipped number _ => some number
  | _ => none

namespace Image

/-- The lines of bytes, without their line ends. -/
inductive Cut : List Byte → List (List Byte) → Prop
  | empty : Cut [] []
  | unended {line : List Byte} : line ≠ [] → lineFeed ∉ line → Cut line [line]
  | feed {line rest : List Byte} {lines : List (List Byte)} : lineFeed ∉ line →
      line.getLast? ≠ some carriageReturn → Cut rest lines → Cut (line ++ lineFeed :: rest) (line :: lines)
  | returnFeed {line rest : List Byte} {lines : List (List Byte)} : lineFeed ∉ line →
      Cut rest lines → Cut (line ++ carriageReturn :: lineFeed :: rest) (line :: lines)

/-- The log names exactly the lines without a literal, each one by its number, in order. -/
structure Reports (texts : List (List Char)) (log : List Message) : Prop where
  exactly : ∀ message, message ∈ log ↔ ∃ n line,
    message = .skipped (n + 1) (String.ofList line) ∧ texts[n]? = some line ∧ ∀ b, ¬ Literal line b
  increasing : (log.filterMap Message.number?).Pairwise (· < ·)

variable {bytes : List Byte} {pieces : List (List Byte)} {texts : List (List Char)}

/-! ## Cutting -/

theorem cut_lines (bytes : List Byte) : Cut bytes (lines bytes) := by
  induction bytes using piecewise lineFeed with
  | last line h =>
    rw [lines_of_not_mem h]
    by_cases hline : line = []
    · rw [if_pos hline, hline]
      exact .empty
    · rw [if_neg hline]
      exact .unended hline h
  | more line rest h ih =>
    rw [lines_append_lineFeed h, dropReturn]
    by_cases hlast : line.getLast? = some carriageReturn
    · obtain ⟨init, rfl⟩ := List.getLast?_eq_some_iff.1 hlast
      rw [if_pos hlast, List.dropLast_concat, List.append_assoc]
      exact .returnFeed (fun hmem => h (List.mem_append_left _ hmem)) ih
    · rw [if_neg hlast]
      exact .feed h hlast ih

theorem Cut.lines_eq (h : Cut bytes pieces) : lines bytes = pieces := by
  induction h with
  | empty => rfl
  | unended hne hline => rw [lines_of_not_mem hline, if_neg hne]
  | feed hline hlast _ ih => rw [lines_append_lineFeed hline, dropReturn, if_neg hlast, ih]
  | @returnFeed line rest _ hline _ ih =>
    have hreturn : lineFeed ∉ line ++ [carriageReturn] := by simpa [hline] using (by decide : lineFeed ≠ carriageReturn)
    have happend : line ++ carriageReturn :: lineFeed :: rest = (line ++ [carriageReturn]) ++ lineFeed :: rest := by simp
    rw [happend, lines_append_lineFeed hreturn, dropReturn_append_return, ih]

/-- **Bytes are cut in one way only.** -/
theorem cut_iff : Cut bytes pieces ↔ lines bytes = pieces := by
  constructor
  · exact Cut.lines_eq
  · rintro rfl
    exact cut_lines bytes

/-! ## Reports -/

/-- What is reported of a line with its number. -/
def report? (entry : String × Nat) : Option Message :=
  if (literal? entry.1.toList).isNone then some (.skipped entry.2 entry.1) else none

theorem skips_eq (texts : List String) : skips texts = (texts.zipIdx 1).filterMap report? := rfl

theorem report?_eq_some_iff {text : String} {n : Nat} {message : Message} :
    report? (text, n) = some message ↔ literal? text.toList = none ∧ .skipped n text = message := by
  simp [report?]

theorem isSome_report? (entry : String × Nat) : (report? entry).isSome = decide (¬ (literal? entry.1.toList).isSome) := by
  unfold report?
  cases literal? entry.1.toList <;> rfl

theorem mem_skips_iff {message : Message} : message ∈ skips (texts.map String.ofList) ↔ ∃ n line,
    message = .skipped (n + 1) (String.ofList line) ∧ texts[n]? = some line ∧ ∀ b, ¬ Literal line b := by
  simp only [skips_eq, List.mem_filterMap, Prod.exists, List.mk_mem_zipIdx_iff_le_and_getElem?_sub, List.getElem?_map,
    Option.map_eq_some_iff, report?_eq_some_iff]
  constructor
  · rintro ⟨_, number, ⟨hle, line, hline, rfl⟩, hskip, rfl⟩
    obtain ⟨n, rfl⟩ := Nat.exists_eq_add_of_le' hle
    rw [String.toList_ofList, literal?_eq_none_iff] at hskip
    exact ⟨n, line, rfl, hline, hskip⟩
  · rintro ⟨n, line, rfl, hline, hskip⟩
    rw [← literal?_eq_none_iff] at hskip
    exact ⟨_, n + 1, ⟨Nat.le_add_left _ _, line, hline, rfl⟩, by rwa [String.toList_ofList], rfl⟩

/-- Lines are reported in order. -/
theorem pairwise_number_skips (texts : List String) : ((skips texts).filterMap Message.number?).Pairwise (· < ·) := by
  have hnumbers : ((texts.zipIdx 1).map Prod.snd).Pairwise (· < ·) := by
    rw [List.zipIdx_map_snd]
    exact List.pairwise_lt_range'
  have hnumber (entry : String × Nat) (n : Nat) (h : (report? entry).bind Message.number? = some n) : entry.2 = n := by
    obtain ⟨message, hmessage, hn⟩ := Option.bind_eq_some_iff.1 h
    obtain ⟨_, rfl⟩ := report?_eq_some_iff.1 hmessage
    exact Option.some.inj hn
  rw [skips_eq, List.filterMap_filterMap]
  refine (List.pairwise_map.1 hnumbers).filterMap _ fun entry entry' hlt n hn n' hn' => ?_
  rwa [← hnumber entry n hn, ← hnumber entry' n' hn']

/-- **What is reported is the lines without a literal**, each one once. -/
theorem reports_skips (texts : List (List Char)) : Reports texts (skips (texts.map String.ofList)) where
  exactly _ := mem_skips_iff
  increasing := pairwise_number_skips _

/-- **A line is reported or gives a byte**, and never both. -/
theorem length_skips_add_length_bytes (texts : List String) :
    (skips texts).length + (Image.bytes texts).length = texts.length := by
  have hskips : (skips texts).length = texts.countP fun text => ¬ (literal? text.toList).isSome :=
    calc (skips texts).length
      _ = (texts.zipIdx 1).countP ((fun text => ¬ (literal? text.toList).isSome) ∘ Prod.fst) := by
        rw [skips_eq, List.length_filterMap_eq_countP]
        exact List.countP_congr fun entry _ => by rw [isSome_report?]; rfl
      _ = texts.countP fun text => ¬ (literal? text.toList).isSome := by rw [← List.countP_map, List.zipIdx_map_fst]
  have hbytes : (Image.bytes texts).length = texts.countP fun text => (literal? text.toList).isSome :=
    List.length_filterMap_eq_countP
  rw [hskips, hbytes, Nat.add_comm]
  exact (List.length_eq_countP_add_countP _).symm

/-- **Every line is accounted for once.** The lines of an image are what stands before and between its line feeds and
after the last one. If all of them are texts, then those without a literal are reported and the others give the bytes of
the program, or of one that is too large, so there are as many reports and bytes as lines. If one of them is no text,
then the lines before the first such line are reported in this way, and nothing after it makes a difference. -/
theorem every_line_accounted (image : List Byte) :
    (∀ pieces, Cut image pieces ↔ lines image = pieces) ∧
    (∀ texts, lines image = texts.map encode → Reports texts (read image).log ∧ ∃ bytes, Program texts bytes ∧
      (read image).program = measured bytes ∧ (read image).log.length + bytes.length = (lines image).length) ∧
    (∀ texts line rest, lines image = texts.map encode ++ line :: rest → ¬ IsText line →
      (read image).program = .error (.unreadable .notText) ∧ Reports texts (read image).log ∧
        ∀ image' rest', lines image' = texts.map encode ++ line :: rest' → read image' = read image) ∧
    ∀ n line, (Message.skipped n line).text = "skipping line " ++ Nat.repr n ++ ": " ++ Text.quote line := by
  refine ⟨fun _ => cut_iff, ?_, ?_, fun _ _ => rfl⟩
  · intro texts h
    refine ⟨?_, texts.filterMap literal?, program_iff.2 rfl, ?_⟩
    · rw [read_of_texts h]
      exact reports_skips texts
    · rw [read_of_texts h, h, List.length_map, ← bytes_map_ofList, length_skips_add_length_bytes, List.length_map]
      exact ⟨rfl, rfl⟩
  · intro texts line rest h hline
    rw [read_of_line_not_isText h hline]
    exact ⟨rfl, reports_skips texts, fun _ _ h' => read_of_line_not_isText h' hline⟩

/-- A literal before a carriage return and a line feed, a line that ends with a carriage return before them, and a line
without a character. -/
def threeLines : List Byte := encode ['1', '\r', '\n', 'x', '\r', '\r', '\n', '\n']

/-- Two of three lines are reported; a line that is no text after them leaves no program, whatever follows. -/
theorem every_line_accounted_threeLines :
    Reports [['1'], ['x', '\r'], []] (read threeLines).log ∧ (read threeLines).program = .ok [1] ∧
      (read threeLines).log.length + 1 = 3 ∧
      Reports [['1'], ['x', '\r'], []] (read (threeLines ++ [0xFF, 0x0A])).log ∧
      read (threeLines ++ [0xFF, 0x0A, 0x31]) = read (threeLines ++ [0xFF, 0x0A]) := by
  have hlines : lines threeLines = [['1'], ['x', '\r'], []].map encode := by decide
  have hbroken : lines (threeLines ++ [0xFF, 0x0A]) = [['1'], ['x', '\r'], []].map encode ++ [0xFF] :: [] := by decide
  have hmore : lines (threeLines ++ [0xFF, 0x0A, 0x31]) = [['1'], ['x', '\r'], []].map encode ++ [0xFF] :: [[0x31]] := by
    decide
  have hnot : ¬ IsText [0xFF] := by
    rw [← isSome_text?_iff]
    decide +kernel
  obtain ⟨_, htexts, _⟩ := every_line_accounted threeLines
  obtain ⟨hreports, bytes, hbytes, hprogram, hlength⟩ := htexts _ hlines
  obtain ⟨_, _, hline, _⟩ := every_line_accounted (threeLines ++ [0xFF, 0x0A])
  obtain ⟨_, hreports', hrest⟩ := hline _ _ _ hbroken hnot
  have hone : bytes = [1] := by
    rw [← program_iff.1 hbytes]
    decide
  subst hone
  rw [hlines] at hlength
  exact ⟨hreports, hprogram, hlength, hreports', hrest _ _ hmore⟩

end Image
end ByteMachine
