import ByteMachine.Proofs.Image.Grammar

/-!
# Numerals of any width

- `Numeral line digits` says that a line holds binary digits and, but for blanks and a comment, nothing else. Its low
  byte is what the last eight digits write (`value_mod_256`).
- The line holds a literal iff the number is below 2^32 (`Numeral.literal?_eq`). So it keeps its place in the program,
  and those after it keep theirs, exactly for these numbers (`numeral_keeps_place_iff`). A numeral of a larger number is
  skipped like a line of any other kind, and all bytes after it move down by one (`wide_numeral_is_skipped`).
-/

namespace ByteMachine.Image

/-- Before its comment the line holds these binary digits, and nothing else but blanks around them. -/
inductive Numeral : List Char → List Char → Prop
  | intro {before digits after comment : List Char} : (∀ c ∈ before, Text.isBlank c) →
      digits ≠ [] → (∀ c ∈ digits, c = '0' ∨ c = '1') →
      (∀ c ∈ after, Text.isBlank c) → comment = [] ∨ comment.head? = some '#' →
      Numeral (before ++ digits ++ after ++ comment) digits

variable {line digits text : List Char} {before after : List (List Char)} {b : Byte} {first rest : List Byte}

/-- The low byte of a number is what its last eight binary digits write. -/
theorem value_mod_256 (digits : List Char) : value digits % 256 = value (digits.drop (digits.length - 8)) := by
  have hdigit : ∀ d ∈ digits.reverse.map fun c => if c = '1' then 1 else 0, d < 2 := by
    intro d hd
    obtain ⟨c, _, rfl⟩ := List.mem_map.1 hd
    split <;> decide
  have hmod := Nat.ofDigits_mod_pow_eq_ofDigits_take 8 (by decide) _ hdigit
  rw [← List.map_take, List.take_reverse] at hmod
  exact hmod

/-- A numeral gives the low byte of its number, if the number is below 2^32. -/
theorem Numeral.literal?_eq (h : Numeral line digits) :
    literal? line = if value digits < 2 ^ 32 then some (UInt8.ofNat (value digits)) else none := by
  obtain ⟨hbefore, hne, hdigits, hafter, hcomment⟩ := h
  have hcode := code_append hbefore (.inl (Eq.refl [])) hne hdigits hafter hcomment
  have hplus := dropPlus_append (.inl (Eq.refl [])) hne hdigits
  have hnumeral : numeral? digits = some (value digits) :=
    numeral?_eq_some_iff.2 ⟨hne, hdigits, binaryValue_eq_value digits⟩
  rw [List.append_nil] at hcode
  have hsize : UInt32.size = 2 ^ 32 := rfl
  rw [literal?, hcode, hplus, hnumeral, Option.filter_some, hsize]
  by_cases hlt : value digits < 2 ^ 32
  · rw [if_pos hlt, if_pos (decide_eq_true hlt), Option.map_some]
  · rw [if_neg hlt, if_neg (fun hdecide => hlt (of_decide_eq_true hdecide)), Option.map_none]

/-- **A numeral keeps its place iff its number is below 2^32**, however many digits it has. Then it stands in the program
as one byte, the low byte of the number, between the bytes of the lines before it and those of the lines after it. The
numeral of a larger number stands there not at all, so that the bytes of all later lines come one place too early. -/
theorem numeral_keeps_place_iff (hlines : Lines text (before ++ line :: after)) (hnumeral : Numeral line digits) :
    ∃ b first rest, b.toNat = value digits % 256 ∧ b.toNat = value (digits.drop (digits.length - 8)) ∧
      Program before first ∧ Program after rest ∧
      ((read (encode text)).program = measured (first ++ b :: rest) ↔ value digits < 2 ^ 32) ∧
      ((read (encode text)).program = measured (first ++ rest) ↔ 2 ^ 32 ≤ value digits) := by
  let b := UInt8.ofNat (value digits)
  let first := before.filterMap literal?
  let rest := after.filterMap literal?
  have hb : b.toNat = value digits % 256 := UInt8.toNat_ofNat'
  have hread : (read (encode text)).program = measured (first ++ ((literal? line).toList ++ rest)) := by
    rw [read_of_texts (lines_encode hlines), List.filterMap_append, filterMap_cons_eq]
  have hne : measured (first ++ b :: rest) ≠ measured (first ++ rest) := fun h => by
    simpa using length_eq_of_measured_eq h
  refine ⟨b, first, rest, hb, hb.trans (value_mod_256 digits), program_iff.2 rfl, program_iff.2 rfl, ?_⟩
  rw [hread, hnumeral.literal?_eq]
  by_cases hlt : value digits < 2 ^ 32
  · rw [if_pos hlt]
    exact ⟨iff_of_true rfl hlt, iff_of_false hne (Nat.not_le.2 hlt)⟩
  · rw [if_neg hlt]
    exact ⟨iff_of_false hne.symm hlt, iff_of_true rfl (Nat.le_of_not_lt hlt)⟩

/-- Forty zeros and nine digits, which write 258. -/
def padded : List Char := List.replicate 40 '0' ++ ['1', '0', '0', '0', '0', '0', '0', '1', '0']

/-- The numeral between blanks, before a comment. -/
def paddedLine : List Char := [' '] ++ padded ++ ['\t'] ++ ['#', '9']

/-- The line between two others. -/
def paddedText : List Char := ['1'] ++ '\r' :: '\n' :: (paddedLine ++ '\n' :: ['1', '1'])

/-- A numeral of 49 digits gives its low byte, because its number is small. -/
theorem numeral_keeps_place_iff_padded : Lines paddedText ([['1']] ++ paddedLine :: [['1', '1']]) ∧
    Numeral paddedLine padded ∧ padded.length = 49 ∧ (read (encode paddedText)).program = .ok [1, 2, 3] := by
  have hlines : Lines paddedText ([['1']] ++ paddedLine :: [['1', '1']]) :=
    .returnLineFeed (by decide) (.lineFeed (by decide) (by decide) (.unended (by decide) (by decide)))
  have hblank (c : Char) (hc : Text.isBlank c) : ∀ d ∈ [c], Text.isBlank d := List.forall_mem_singleton.2 hc
  have hnumeral : Numeral paddedLine padded :=
    .intro (hblank ' ' (by decide)) (by decide) (by simp [padded]) (hblank '\t' (by decide)) (.inr rfl)
  obtain ⟨b, first, rest, hb, _, hfirst, hrest, hkeeps, _⟩ := numeral_keeps_place_iff hlines hnumeral
  have hb' : b = 2 := UInt8.toNat_inj.1 (hb.trans (by decide))
  have hfirst' : first = [1] := (program_iff.1 hfirst).symm.trans (by decide)
  have hrest' : rest = [3] := (program_iff.1 hrest).symm.trans (by decide)
  subst hb' hfirst' hrest'
  exact ⟨hlines, hnumeral, by decide, hkeeps.2 (by decide)⟩

/-- The digits of 2^32. -/
def tooWide : List Char := '1' :: List.replicate 32 '0'

/-- The numeral between two others. -/
def tooWideText : List Char := ['1', '0'] ++ '\n' :: (tooWide ++ '\n' :: ['1', '1'])

/-- A numeral of 33 digits is skipped, and the byte of the next line takes its place. -/
theorem wide_numeral_is_skipped : Lines tooWideText ([['1', '0']] ++ tooWide :: [['1', '1']]) ∧
    Numeral tooWide tooWide ∧ value tooWide % 256 = 0 ∧ (read (encode tooWideText)).program = .ok [2, 3] ∧
    (read (encode tooWideText)).program ≠ .ok [2, 0, 3] := by
  have hlines : Lines tooWideText ([['1', '0']] ++ tooWide :: [['1', '1']]) :=
    .lineFeed (by decide) (by decide) (.lineFeed (by decide) (by decide) (.unended (by decide) (by decide)))
  have hnumeral : Numeral ([] ++ tooWide ++ [] ++ []) tooWide :=
    .intro (by simp) (by decide) (by simp [tooWide]) (by simp) (.inl rfl)
  have hread : (read (encode tooWideText)).program = .ok [2, 3] := by
    rw [read_of_texts (lines_encode hlines)]
    decide
  exact ⟨hlines, hnumeral, by decide, hread, by rw [hread]; decide⟩

end ByteMachine.Image
