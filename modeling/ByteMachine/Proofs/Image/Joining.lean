import ByteMachine.Proofs.Image.Accounting

/-!
# Images that are joined

- After a line feed a new line begins, so the lines of two images that are joined there are those of the one and then
  those of the other (`lines_append`). The whole is a text iff both images are (`isText_append_iff`).
- Lines are reported with the numbers that they have in the whole (`skips_append`). If the first image is a text, the
  other one is read as well (`log_append_of_isText`), and otherwise not (`log_append_of_not_isText`).
- `count?` tells how many literals were found, also if they are too many for memory. Two texts that are joined hold the
  literals of both (`program_append`).

`read_append` puts this together.
-/

namespace ByteMachine

/-- The same message about a line that stands `k` lines further down. -/
def Message.shift (k : Nat) : Message → Message
  | skipped number line => skipped (number + k) line
  | message => message

namespace Image

/-- The image is no text. -/
def Reading.NotText (r : Reading) : Prop := r.program = .error (.unreadable .notText)

/-- How many literals were found in an image that is a text. -/
def Reading.count? (r : Reading) : Option Nat :=
  match r.program with
  | .ok program => some program.length
  | .error (.tooLarge size) => some size
  | .error _ => none

variable {front back : List Byte}

/-! ## Lines -/

/-- A last piece without a line feed is empty. -/
theorem eq_nil_of_ended (h : front = [] ∨ front.getLast? = some lineFeed) (hline : lineFeed ∉ front) : front = [] := by
  obtain rfl | hlast := h
  · rfl
  · exact absurd (List.mem_of_getLast? hlast) hline

/-- What stands after the first line feed ends with one or is empty. -/
theorem ended_of_append {first : List Byte} (h : first ++ lineFeed :: front = [] ∨
    (first ++ lineFeed :: front).getLast? = some lineFeed) : front = [] ∨ front.getLast? = some lineFeed := by
  cases front with
  | nil => exact .inl rfl
  | cons b front =>
    right
    simpa [List.getLast?_append, List.getLast?_cons_cons] using h

/-- **Joining images joins their lines**, if a line ends where they are joined. -/
theorem lines_append (h : front = [] ∨ front.getLast? = some lineFeed) (back : List Byte) :
    lines (front ++ back) = lines front ++ lines back := by
  induction front using piecewise lineFeed with
  | last piece hpiece =>
    obtain rfl := eq_nil_of_ended h hpiece
    rfl
  | more piece front hpiece ih =>
    rw [List.append_assoc, List.cons_append, lines_append_lineFeed hpiece, lines_append_lineFeed hpiece,
      ih (ended_of_append h), List.cons_append]

/-- There are as many lines as line feeds. -/
theorem length_lines (h : front = [] ∨ front.getLast? = some lineFeed) :
    (lines front).length = front.count lineFeed := by
  induction front using piecewise lineFeed with
  | last piece hpiece =>
    obtain rfl := eq_nil_of_ended h hpiece
    rfl
  | more piece front hpiece ih =>
    rw [lines_append_lineFeed hpiece, List.length_cons, ih (ended_of_append h), List.count_append,
      List.count_eq_zero_of_not_mem hpiece, List.count_cons_self, Nat.zero_add]

/-! ## Texts -/

/-- Joined images are a text iff both are. -/
theorem isText_append_iff (h : front = [] ∨ front.getLast? = some lineFeed) :
    IsText (front ++ back) ↔ IsText front ∧ IsText back := by
  rw [isText_iff_lines, isText_iff_lines, isText_iff_lines, lines_append h, List.forall_mem_append]

/-- The lines of a text are texts. -/
theorem exists_lines_eq (h : IsText front) : ∃ texts : List (List Char), lines front = texts.map encode := by
  obtain ⟨text, rfl⟩ := h
  obtain ⟨texts, hlines⟩ := exists_lines text
  exact ⟨texts, lines_encode hlines⟩

theorem notText_iff : (read front).NotText ↔ ¬ IsText front := by
  constructor
  · intro hread h
    obtain ⟨texts, hlines⟩ := exists_lines_eq h
    rw [read_of_texts hlines, Reading.NotText, measured] at hread
    split at hread <;> simp at hread
  · exact program_read_of_not_isText

/-! ## Reports -/

/-- Further lines are reported with higher numbers. -/
theorem skips_append (texts texts' : List String) :
    skips (texts ++ texts') = skips texts ++ (skips texts').map (Message.shift texts.length) := by
  have hshift (text : String) (n : Nat) :
      report? (text, 1 + texts.length + n) = (report? (text, 1 + n)).map (Message.shift texts.length) := by
    rw [Nat.add_right_comm]
    unfold report?
    split <;> rfl
  have hmore : (texts'.zipIdx (1 + texts.length)).filterMap report? =
      ((texts'.zipIdx 1).filterMap report?).map (Message.shift texts.length) := by
    rw [List.map_filterMap, List.zipIdx_eq_map_add, List.filterMap_map, List.zipIdx_eq_map_add (i := 1),
      List.filterMap_map]
    exact congrArg (texts'.zipIdx.filterMap ·) (funext fun entry => hshift entry.1 entry.2)
  rw [skips_eq, List.zipIdx_append, List.filterMap_append, hmore]
  rfl

theorem log_read (image : List Byte) : (read image).log = skips (readable (lines image)) := rfl

/-- After a text the other image is read as well. -/
theorem log_append_of_isText (h : front = [] ∨ front.getLast? = some lineFeed) (htext : IsText front)
    (back : List Byte) : (read (front ++ back)).log =
      (read front).log ++ (read back).log.map (Message.shift (lines front).length) := by
  obtain ⟨texts, hlines⟩ := exists_lines_eq htext
  have hreadable : readable (lines front) = texts.map String.ofList := by rw [hlines, readable_map_encode]
  have happend : readable (lines (front ++ back)) = readable (lines front) ++ readable (lines back) := by
    rw [lines_append h, hreadable, hlines, readable_append]
  rw [log_read, log_read, log_read, happend, skips_append, hreadable, hlines, List.length_map, List.length_map]

/-- A line that is no text keeps the reader from all lines after it. -/
theorem readable_append_of_not_isText {pieces : List (List Byte)} (h : ¬ ∀ line ∈ pieces, IsText line)
    (more : List (List Byte)) : readable (pieces ++ more) = readable pieces := by
  induction pieces with
  | nil => exact absurd (fun _ hmem => absurd hmem List.not_mem_nil) h
  | cons line pieces ih =>
    rw [List.cons_append]
    by_cases hline : IsText line
    · have hrest : ¬ ∀ line ∈ pieces, IsText line := fun hall => h (List.forall_mem_cons.2 ⟨hline, hall⟩)
      obtain ⟨text, rfl⟩ := hline
      have hcons (pieces : List (List Byte)) : readable (encode text :: pieces) = String.ofList text :: readable pieces :=
        readable_append [text] pieces
      rw [hcons, hcons, ih hrest]
    · rw [readable_cons_of_not_isText hline, readable_cons_of_not_isText hline]

/-- After an image that is no text nothing is read. -/
theorem log_append_of_not_isText (h : front = [] ∨ front.getLast? = some lineFeed) (htext : ¬ IsText front)
    (back : List Byte) : (read (front ++ back)).log = (read front).log := by
  rw [log_read, log_read, lines_append h, readable_append_of_not_isText (mt isText_iff_lines.2 htext)]

/-! ## Programs -/

theorem count?_measured (program : List Byte) (log : List Message) :
    (Reading.mk (measured program) log).count? = some program.length := by
  unfold measured
  split <;> rfl

/-- As many literals are found as in both texts together. -/
theorem program_append (h : front = [] ∨ front.getLast? = some lineFeed) (hfront : IsText front)
    (hback : IsText back) : ∃ m n, (read front).count? = some m ∧ (read back).count? = some n ∧
      (m + n ≤ 256 → ∃ program more, (read front).program = .ok program ∧ (read back).program = .ok more ∧
        (read (front ++ back)).program = .ok (program ++ more)) ∧
      (256 < m + n → (read (front ++ back)).program = .error (.tooLarge (m + n))) := by
  obtain ⟨texts, hlines⟩ := exists_lines_eq hfront
  obtain ⟨texts', hlines'⟩ := exists_lines_eq hback
  have hjoined : lines (front ++ back) = (texts ++ texts').map encode := by
    rw [lines_append h, hlines, hlines', List.map_append]
  rw [read_of_texts hjoined, read_of_texts hlines, read_of_texts hlines', List.filterMap_append]
  generalize texts.filterMap literal? = program
  generalize texts'.filterMap literal? = more
  refine ⟨program.length, more.length, count?_measured _ _, count?_measured _ _, ?_, ?_⟩
  · intro hle
    refine ⟨program, more, measured_of_le (by omega), measured_of_le (by omega), measured_of_le ?_⟩
    rwa [List.length_append]
  · intro hlt
    rw [← List.length_append] at hlt ⊢
    exact measured_of_gt hlt

/-- **Reading joined images joins what is read from each**, if a line ends where they are joined. The whole is no text
iff one of the parts is none. Otherwise as many literals are found as in both parts together; if memory holds so many,
then both parts have programs, and the program of the whole is one after the other. The lines of the second part are
reported with numbers that are higher by the number of lines of the first part, unless that one is no text. -/
theorem read_append (h : front = [] ∨ front.getLast? = some lineFeed) (back : List Byte) :
    ((read (front ++ back)).NotText ↔ (read front).NotText ∨ (read back).NotText) ∧
    (¬ (read front).NotText → ¬ (read back).NotText → ∃ m n,
      (read front).count? = some m ∧ (read back).count? = some n ∧
      (m + n ≤ 256 → ∃ program more, (read front).program = .ok program ∧ (read back).program = .ok more ∧
        (read (front ++ back)).program = .ok (program ++ more)) ∧
      (256 < m + n → (read (front ++ back)).program = .error (.tooLarge (m + n)))) ∧
    (¬ (read front).NotText → (read (front ++ back)).log =
      (read front).log ++ (read back).log.map (Message.shift (lines front).length)) ∧
    ((read front).NotText → (read (front ++ back)).log = (read front).log) ∧
    (lines front).length = front.count lineFeed := by
  simp only [notText_iff, isText_append_iff h, not_and_or, not_not]
  exact ⟨trivial, program_append h, fun htext => log_append_of_isText h htext back,
    fun htext => log_append_of_not_isText h htext back, length_lines h⟩

/-- A literal and a line that is skipped, both ended. -/
def firstPart : List Byte := encode ['1', '\r', '\n', 'x', '\n']

/-- A comment and a literal that is not ended. -/
def secondPart : List Byte := encode ['#', '\n', '1', '0']

/-- The comment of the second image is the third line of both. -/
theorem read_append_parts : firstPart.getLast? = some lineFeed ∧
    (read (firstPart ++ secondPart)).program = .ok [1, 2] ∧
    (read (firstPart ++ secondPart)).log = [.skipped 2 "x", .skipped 3 "#"] ∧ (lines firstPart).length = 2 := by
  have hlast : firstPart.getLast? = some lineFeed := by decide
  have hfirst : read firstPart = ⟨.ok [1], [.skipped 2 "x"]⟩ := by
    have hlines : lines firstPart = [['1'], ['x']].map encode := by decide
    rw [read_of_texts hlines]
    exact congrArg₂ Reading.mk (by decide) (by decide)
  have hsecond : read secondPart = ⟨.ok [2], [.skipped 1 "#"]⟩ := by
    have hlines : lines secondPart = [['#'], ['1', '0']].map encode := by decide
    rw [read_of_texts hlines]
    exact congrArg₂ Reading.mk (by decide) (by decide)
  obtain ⟨_, hprogram, hlog, _, hlength⟩ := read_append (.inr hlast) secondPart
  rw [hfirst, hsecond] at hprogram hlog
  obtain ⟨m, n, hm, hn, hle, _⟩ := hprogram nofun nofun
  obtain rfl := Option.some.inj hm
  obtain rfl := Option.some.inj hn
  obtain ⟨program, more, hprogram, hmore, hjoined⟩ := hle (by decide)
  obtain rfl := Except.ok.inj hprogram
  obtain rfl := Except.ok.inj hmore
  rw [hlength] at hlog
  exact ⟨hlast, hjoined, hlog nofun, hlength⟩

end Image
end ByteMachine
