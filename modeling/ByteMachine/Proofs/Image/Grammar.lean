import ByteMachine.Image.Reading
import ByteMachine.Proofs.Image.Lines
import Mathlib.Data.Nat.Digits.Defs

/-!
# The grammar of program images

- `Literal line b` says that the line holds a literal of the byte `b`: blanks, a plus sign or none, binary digits of a
  number below 2^32, blanks, and a comment or none. The reader of a line follows this grammar (`literal?_iff`).
- `Program lines bytes` says that these are the bytes of the lines that hold one, and `Classified image result` says
  what becomes of an image: no text at all, too many literals, or a program. The reader classifies every image in this
  way and in no other (`program_read_iff_classified`).
- The reader takes the lines of an image up to the first that is no text. If all of them are texts, it gives their bytes,
  `measured` against memory (`read_of_texts`); otherwise it gives no program (`read_of_line_not_isText`).
-/

namespace ByteMachine.Image

/-- The number that binary digits write; the last digit counts 1 and each one before it twice as much. -/
def value (digits : List Char) : Nat := Nat.ofDigits 2 (digits.reverse.map fun c => if c = '1' then 1 else 0)

/-- The line holds a literal of this byte. -/
inductive Literal : List Char → Byte → Prop
  | intro {before sign digits after comment : List Char} {b : Byte} :
      (∀ c ∈ before, Text.isBlank c) → sign = [] ∨ sign = ['+'] →
      digits ≠ [] → (∀ c ∈ digits, c = '0' ∨ c = '1') →
      (∀ c ∈ after, Text.isBlank c) → comment = [] ∨ comment.head? = some '#' →
      value digits < 2 ^ 32 → b.toNat = value digits % 256 →
      Literal (before ++ sign ++ digits ++ after ++ comment) b

/-- The bytes of all lines that hold a literal, in order. -/
inductive Program : List (List Char) → List Byte → Prop
  | nil : Program [] []
  | literal {line : List Char} {b : Byte} {lines : List (List Char)} {bytes : List Byte} :
      Literal line b → Program lines bytes → Program (line :: lines) (b :: bytes)
  | skip {line : List Char} {lines : List (List Char)} {bytes : List Byte} :
      (∀ b, ¬ Literal line b) → Program lines bytes → Program (line :: lines) bytes

/-- What becomes of an image. -/
inductive Classified (image : List Byte) : Except LoadFault (List Byte) → Prop
  | notText : ¬ IsText image → Classified image (.error (.unreadable .notText))
  | tooLarge {text : List Char} {lines : List (List Char)} {bytes : List Byte} : encode text = image →
      Lines text lines → Program lines bytes → 256 < bytes.length → Classified image (.error (.tooLarge bytes.length))
  | program {text : List Char} {lines : List (List Char)} {bytes : List Byte} : encode text = image →
      Lines text lines → Program lines bytes → bytes.length ≤ 256 → Classified image (.ok bytes)

/-- A program if it fits in memory, or else the fault that it does not. -/
def measured (program : List Byte) : Except LoadFault (List Byte) :=
  if program.length ≤ 256 then .ok program else .error (.tooLarge program.length)

/-! ## Trimming -/

variable {text before core after : List Char}

theorem dropWhile_isBlank_append (hbefore : ∀ c ∈ before, Text.isBlank c) (hne : core ≠ [])
    (hcore : ∀ c ∈ core, Text.isBlank c = false) (rest : List Char) :
    (before ++ (core ++ rest)).dropWhile Text.isBlank = core ++ rest := by
  obtain ⟨c, cs, rfl⟩ := List.exists_cons_of_ne_nil hne
  rw [List.dropWhile_append_of_pos hbefore, List.cons_append, List.dropWhile_cons_of_neg]
  simp [hcore c List.mem_cons_self]

/-- Trimming leaves what stands between the blanks. -/
theorem trim_append (hbefore : ∀ c ∈ before, Text.isBlank c) (hne : core ≠ [])
    (hcore : ∀ c ∈ core, Text.isBlank c = false) (hafter : ∀ c ∈ after, Text.isBlank c) :
    Text.trim (before ++ core ++ after) = core := by
  have hreverse : (after.reverse ++ (core.reverse ++ [])).dropWhile Text.isBlank = core.reverse ++ [] :=
    dropWhile_isBlank_append (fun c hc => hafter c (List.mem_reverse.1 hc)) (by simpa using hne)
      (fun c hc => hcore c (List.mem_reverse.1 hc)) []
  rw [List.append_nil] at hreverse
  rw [Text.trim, List.append_assoc, dropWhile_isBlank_append hbefore hne hcore, List.reverse_append, hreverse,
    List.reverse_reverse]

/-- Trimming takes only blanks off. -/
theorem exists_eq_trim (text : List Char) : ∃ before after, text = before ++ Text.trim text ++ after ∧
    (∀ c ∈ before, Text.isBlank c) ∧ ∀ c ∈ after, Text.isBlank c := by
  have hblank (cs : List Char) : ∀ c ∈ cs.takeWhile Text.isBlank, Text.isBlank c :=
    List.all_eq_true.1 List.all_takeWhile
  refine ⟨text.takeWhile Text.isBlank, (((text.dropWhile Text.isBlank).reverse).takeWhile Text.isBlank).reverse, ?_,
    hblank text, fun c hc => hblank _ c (List.mem_reverse.1 hc)⟩
  rw [Text.trim, List.append_assoc, ← List.reverse_append, List.takeWhile_append_dropWhile, List.reverse_reverse,
    List.takeWhile_append_dropWhile]

/-! ## Lines -/

variable {line : List Char} {b : Byte} {sign digits comment : List Char}

theorem binaryValue_eq_value (digits : List Char) : binaryValue digits = value digits := by
  rw [value, Nat.ofDigits_eq_foldr, List.foldr_map, List.foldr_reverse, binaryValue]
  simp only [Nat.cast_ite, Nat.cast_one, Nat.cast_zero, Nat.add_comm]

theorem dropPlus_append (hsign : sign = [] ∨ sign = ['+']) (hne : digits ≠ [])
    (hdigits : ∀ c ∈ digits, c = '0' ∨ c = '1') : dropPlus (sign ++ digits) = digits := by
  obtain rfl | rfl := hsign
  · obtain ⟨c, cs, rfl⟩ := List.exists_cons_of_ne_nil hne
    obtain rfl | rfl := hdigits c List.mem_cons_self <;> rfl
  · rfl

theorem exists_eq_dropPlus (text : List Char) : ∃ sign, text = sign ++ dropPlus text ∧ (sign = [] ∨ sign = ['+']) := by
  unfold dropPlus
  split
  · exact ⟨['+'], rfl, .inr rfl⟩
  · exact ⟨[], rfl, .inl rfl⟩

theorem ne_sharp_of_isBlank {c : Char} (h : Text.isBlank c) : c ≠ '#' := by
  rintro rfl
  exact absurd h (by decide)

/-- What stands before the comment. -/
theorem takeWhile_ne_sharp (h : ∀ c ∈ text, c ≠ '#') (hcomment : comment = [] ∨ comment.head? = some '#') :
    (text ++ comment).takeWhile (· ≠ '#') = text := by
  rw [List.takeWhile_append_of_pos fun c hc => by simpa using h c hc]
  obtain rfl | hhead := hcomment
  · simp
  · obtain ⟨rest, rfl⟩ := List.head?_eq_some_iff.1 hhead
    simp

theorem code_append (hbefore : ∀ c ∈ before, Text.isBlank c) (hsign : sign = [] ∨ sign = ['+']) (hne : digits ≠ [])
    (hdigits : ∀ c ∈ digits, c = '0' ∨ c = '1') (hafter : ∀ c ∈ after, Text.isBlank c)
    (hcomment : comment = [] ∨ comment.head? = some '#') :
    code (before ++ sign ++ digits ++ after ++ comment) = sign ++ digits := by
  have hcore : ∀ c ∈ sign ++ digits, Text.isBlank c = false ∧ c ≠ '#' := by
    intro c hc
    have hc' : c = '+' ∨ c = '0' ∨ c = '1' := by
      obtain hc | hc := List.mem_append.1 hc
      · obtain rfl | rfl := hsign
        · contradiction
        · exact .inl (List.mem_singleton.1 hc)
      · exact .inr (hdigits c hc)
    obtain rfl | rfl | rfl := hc' <;> decide
  have hsharp : ∀ c ∈ before ++ (sign ++ digits) ++ after, c ≠ '#' := by
    intro c hc
    obtain hc | hc := List.mem_append.1 hc
    · obtain hc | hc := List.mem_append.1 hc
      · exact ne_sharp_of_isBlank (hbefore c hc)
      · exact (hcore c hc).2
    · exact ne_sharp_of_isBlank (hafter c hc)
  rw [code, List.append_assoc before, takeWhile_ne_sharp hsharp hcomment,
    trim_append hbefore (by simp [hne]) (fun c hc => (hcore c hc).1) hafter]

/-- Around the code of a line there are only blanks, and a comment after them. -/
theorem exists_eq_code (line : List Char) : ∃ before after comment, line = before ++ code line ++ after ++ comment ∧
    (∀ c ∈ before, Text.isBlank c) ∧ (∀ c ∈ after, Text.isBlank c) ∧
      (comment = [] ∨ comment.head? = some '#') := by
  obtain ⟨before, after, htrim, hbefore, hafter⟩ := exists_eq_trim (line.takeWhile (· ≠ '#'))
  refine ⟨before, after, line.dropWhile (· ≠ '#'), ?_, hbefore, hafter, ?_⟩
  · rw [code, ← htrim, List.takeWhile_append_dropWhile]
  · have hhead := List.head?_dropWhile_not (· ≠ '#') line
    cases hcomment : (line.dropWhile (· ≠ '#')).head? with
    | none => exact .inl (List.head?_eq_none_iff.1 hcomment)
    | some c =>
      rw [hcomment] at hhead
      exact .inr (congrArg some (by simpa using hhead))

/-- **The reader of a line follows the grammar.** -/
theorem literal?_iff : literal? line = some b ↔ Literal line b := by
  rw [literal?_eq_some_iff]
  constructor
  · rintro ⟨n, hn, hlt, rfl⟩
    obtain ⟨before, after, comment, hline, hbefore, hafter, hcomment⟩ := exists_eq_code line
    obtain ⟨sign, hcode, hsign⟩ := exists_eq_dropPlus (code line)
    obtain ⟨hne, hdigits, rfl⟩ := numeral?_eq_some_iff.1 hn
    generalize dropPlus (code line) = digits at *
    rw [binaryValue_eq_value] at hlt ⊢
    rw [hline, hcode, ← List.append_assoc before]
    exact .intro hbefore hsign hne hdigits hafter hcomment hlt UInt8.toNat_ofNat'
  · rintro ⟨hbefore, hsign, hne, hdigits, hafter, hcomment, hlt, hb⟩
    rename_i before sign digits after comment
    refine ⟨value digits, ?_, hlt, UInt8.toNat_inj.1 (UInt8.toNat_ofNat'.trans hb.symm)⟩
    rw [code_append hbefore hsign hne hdigits hafter hcomment, dropPlus_append hsign hne hdigits,
      numeral?_eq_some_iff]
    exact ⟨hne, hdigits, binaryValue_eq_value digits⟩

theorem literal?_eq_none_iff : literal? line = none ↔ ∀ b, ¬ Literal line b := by
  simp only [Option.eq_none_iff_forall_ne_some, ne_eq, literal?_iff]

/-! ## Images -/

variable {lines : List (List Char)} {bytes : List Byte} {image : List Byte}

theorem filterMap_cons_eq (line : List Char) (lines : List (List Char)) :
    (line :: lines).filterMap literal? = (literal? line).toList ++ lines.filterMap literal? := by
  cases h : literal? line <;> simp [h]

theorem program_iff : Program lines bytes ↔ lines.filterMap literal? = bytes := by
  constructor
  · intro h
    induction h with
    | nil => rfl
    | literal hb _ ih => rw [List.filterMap_cons_some (literal?_iff.2 hb), ih]
    | skip hskip _ ih => rw [List.filterMap_cons_none (literal?_eq_none_iff.2 hskip), ih]
  · rintro rfl
    induction lines with
    | nil => exact .nil
    | cons line lines ih =>
      cases hline : literal? line with
      | none =>
        rw [List.filterMap_cons_none hline]
        exact .skip (literal?_eq_none_iff.1 hline) ih
      | some b =>
        rw [List.filterMap_cons_some hline]
        exact .literal (literal?_iff.1 hline) ih

theorem measured_of_le (h : bytes.length ≤ 256) : measured bytes = .ok bytes := if_pos h

theorem measured_of_gt (h : 256 < bytes.length) : measured bytes = .error (.tooLarge bytes.length) :=
  if_neg (Nat.not_le.2 h)

/-- Programs that are not of one length are told apart, also if they are too large. -/
theorem length_eq_of_measured_eq {more : List Byte} (h : measured bytes = measured more) :
    bytes.length = more.length := by
  by_cases hle : bytes.length ≤ 256 <;> by_cases hle' : more.length ≤ 256 <;> simp_all [measured]

/-- Lines that are texts are read as they are, and then those after them. -/
theorem readable_append (texts : List (List Char)) (pieces : List (List Byte)) :
    readable (texts.map encode ++ pieces) = texts.map String.ofList ++ readable pieces := by
  induction texts with
  | nil => rfl
  | cons line texts ih =>
    simp only [readable, List.map_cons, List.cons_append, text?_encode, List.takeWhile_cons, Option.isSome_some, if_true,
      List.filterMap_cons, id] at ih ⊢
    rw [ih]

/-- Nothing is read from a line on that is no text. -/
theorem readable_cons_of_not_isText {line : List Byte} (h : ¬ IsText line) (pieces : List (List Byte)) :
    readable (line :: pieces) = [] := by
  have hline : (text? line).isSome = false := by
    rw [← isSome_text?_iff] at h
    exact eq_false_of_ne_true h
  rw [readable, List.map_cons, List.takeWhile_cons_of_neg (by simp [hline]), List.filterMap_nil]

/-- The lines of a text are read as they are. -/
theorem readable_map_encode (lines : List (List Char)) : readable (lines.map encode) = lines.map String.ofList := by
  rw [← List.append_nil (lines.map encode), readable_append]
  exact List.append_nil _

theorem bytes_map_ofList (lines : List (List Char)) :
    Image.bytes (lines.map String.ofList) = lines.filterMap literal? := by
  simp only [Image.bytes, List.filterMap_map, Function.comp_def, String.toList_ofList]

/-- If all lines are texts, each of them is reported or gives a byte. -/
theorem read_of_texts (h : Image.lines image = lines.map encode) :
    read image = ⟨measured (lines.filterMap literal?), skips (lines.map String.ofList)⟩ := by
  have hall : ((Image.lines image).all fun line => (text? line).isSome) = true := by
    rw [h, List.all_eq_true]
    intro line hline
    obtain ⟨text, _, rfl⟩ := List.mem_map.1 hline
    exact isSome_text?_iff.2 (isText_encode text)
  rw [read, if_pos hall, h, readable_map_encode, bytes_map_ofList, measured]

/-- If a line is no text, the lines before it are reported and there is no program. -/
theorem read_of_line_not_isText {line : List Byte} {rest : List (List Byte)}
    (h : Image.lines image = lines.map encode ++ line :: rest) (hline : ¬ IsText line) :
    read image = ⟨.error (.unreadable .notText), skips (lines.map String.ofList)⟩ := by
  have hall : ¬ ((Image.lines image).all fun line => (text? line).isSome) = true := by
    rw [h, List.all_eq_true]
    intro hall
    exact hline (isSome_text?_iff.1 (hall line (by simp)))
  have hreadable : readable (Image.lines image) = lines.map String.ofList := by
    rw [h, readable_append, readable_cons_of_not_isText hline, List.append_nil]
  rw [read, if_neg hall, hreadable]

/-- An image that is no text has no program. -/
theorem program_read_of_not_isText (h : ¬ IsText image) : (read image).program = .error (.unreadable .notText) := by
  rw [isText_iff_lines] at h
  refine if_neg fun hall => h fun line hline => ?_
  exact isSome_text?_iff.1 (List.all_eq_true.1 hall line hline)

/-- An image that is a text has the program of its lines, if that is not too large. -/
theorem program_read_encode {text : List Char} (hlines : Lines text lines) (hbytes : Program lines bytes) :
    (read (encode text)).program = if bytes.length ≤ 256 then .ok bytes else .error (.tooLarge bytes.length) := by
  rw [read_of_texts (lines_encode hlines), program_iff.1 hbytes, measured]

/-- **Reading classifies every image**, and says of one that is no text that it is not UTF-8. -/
theorem program_read_iff_classified (image : List Byte) (result : Except LoadFault (List Byte)) :
    ((read image).program = result ↔ Classified image result) ∧
      (LoadFault.unreadable .notText).message = "io error: stream did not contain valid UTF-8" := by
  refine ⟨⟨?_, ?_⟩, rfl⟩
  · rintro rfl
    by_cases h : IsText image
    · obtain ⟨text, rfl⟩ := h
      obtain ⟨lines, hlines⟩ := exists_lines text
      have hbytes := program_iff.2 (Eq.refl (lines.filterMap literal?))
      rw [program_read_encode hlines hbytes]
      split
      · exact .program rfl hlines hbytes ‹_›
      · exact .tooLarge rfl hlines hbytes (Nat.lt_of_not_le ‹_›)
    · rw [program_read_of_not_isText h]
      exact .notText h
  · rintro (h | ⟨rfl, hlines, hbytes, hlt⟩ | ⟨rfl, hlines, hbytes, hle⟩)
    · exact program_read_of_not_isText h
    · rw [program_read_encode hlines hbytes, if_neg (Nat.not_le.2 hlt)]
    · rw [program_read_encode hlines hbytes, if_pos hle]

end ByteMachine.Image
