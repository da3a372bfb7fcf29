import ByteMachine.Image.Line

/-!
# Texts as bytes

- `encode` writes a text in UTF-8, and `IsText` says of bytes that they are such a text. The reader of a line decides
  it (`isSome_text?_iff`) and gives the text back (`text?_encode`).
- A byte below 128 is a character by itself and no part of another one (`utf8EncodeChar_of_mem`). So a character of
  ASCII is found in the bytes of a text, or at their end, iff it is found there in the text (`mem_encode_iff`,
  `getLast?_encode_iff`).
-/

namespace ByteMachine.Image

/-- The bytes of a text in UTF-8. -/
def encode (text : List Char) : List Byte := text.flatMap String.utf8EncodeChar

/-- The bytes are a text in UTF-8. -/
def IsText (bytes : List Byte) : Prop := ∃ text, encode text = bytes

variable {text text' : List Char} {bytes : List Byte} {c d : Char} {b : Byte}

@[simp] theorem encode_nil : encode [] = [] := rfl

@[simp] theorem encode_cons (c : Char) (text : List Char) :
    encode (c :: text) = String.utf8EncodeChar c ++ encode text := List.flatMap_cons

@[simp] theorem encode_append (text text' : List Char) : encode (text ++ text') = encode text ++ encode text' :=
  List.flatMap_append

theorem isText_encode (text : List Char) : IsText (encode text) := ⟨text, rfl⟩

/-! ## Reading a text back -/

theorem text?_eq_some_iff {s : String} : text? bytes = some s ↔ encode s.toList = bytes := by
  have hbytes : s.toByteArray.data.toList = encode s.toList := by
    rw [← String.utf8Encode_toList, List.utf8Encode, List.toList_data_toByteArray, encode]
  have hiff : s.toByteArray = ⟨bytes.toArray⟩ ↔ encode s.toList = bytes := by
    rw [← hbytes]
    constructor
    · intro h
      rw [h]
    · intro h
      exact ByteArray.ext (Array.toList_inj.1 h)
  rw [← hiff, text?, String.fromUTF8?]
  split
  · rw [Option.some.injEq, ← String.toByteArray_inj, eq_comm]
    rfl
  · rename_i hvalid
    simp only [reduceCtorEq, false_iff]
    intro h
    exact hvalid (h ▸ s.isValidUTF8)

theorem text?_encode (text : List Char) : text? (encode text) = some (String.ofList text) :=
  text?_eq_some_iff.2 (by rw [String.toList_ofList])

theorem isSome_text?_iff : (text? bytes).isSome ↔ IsText bytes := by
  constructor
  · intro h
    obtain ⟨s, hs⟩ := Option.isSome_iff_exists.1 h
    exact ⟨s.toList, text?_eq_some_iff.1 hs⟩
  · rintro ⟨text, rfl⟩
    rw [text?_encode]
    rfl

/-! ## Characters of ASCII -/

/-- A byte below 128 is a character by itself. -/
theorem utf8EncodeChar_of_mem (hb : b ∈ String.utf8EncodeChar c) (h : b.toNat < 0x80) :
    String.utf8EncodeChar c = [b] ∧ c.toNat = b.toNat := by
  unfold String.utf8EncodeChar at hb ⊢
  dsimp only at hb ⊢
  split at hb
  · rename_i hc
    rw [if_pos hc]
    obtain rfl := List.mem_singleton.1 hb
    refine ⟨rfl, ?_⟩
    rw [UInt8.toNat_ofNat', Nat.mod_eq_of_lt (by omega)]
    rfl
  -- All bytes of a longer character are at least 128.
  · exfalso
    split at hb
    · simp only [List.mem_cons, List.not_mem_nil, or_false, ← UInt8.toNat_inj, UInt8.toNat_ofNat'] at hb
      omega
    · split at hb <;>
        simp only [List.mem_cons, List.not_mem_nil, or_false, ← UInt8.toNat_inj, UInt8.toNat_ofNat'] at hb <;> omega

/-- A character of ASCII is one byte. -/
theorem utf8EncodeChar_of_ascii (hd : d.toNat < 0x80) : String.utf8EncodeChar d = [UInt8.ofNat d.toNat] :=
  if_pos (Nat.le_of_lt_succ hd)

theorem encode_concat_of_ascii (hd : d.toNat < 0x80) (text : List Char) :
    encode (text ++ [d]) = encode text ++ [UInt8.ofNat d.toNat] := by
  rw [encode_append, encode_cons, utf8EncodeChar_of_ascii hd, encode_nil, List.append_nil]

/-- Only the character itself has its byte. -/
theorem eq_of_mem_utf8EncodeChar (hd : d.toNat < 0x80) (h : UInt8.ofNat d.toNat ∈ String.utf8EncodeChar c) :
    c = d := by
  have hnat : (UInt8.ofNat d.toNat).toNat = d.toNat := UInt8.toNat_ofNat_of_lt' (Nat.lt_trans hd (by decide))
  have hc := (utf8EncodeChar_of_mem h (by rwa [hnat])).2
  exact Char.toNat_inj.1 (hc.trans hnat)

theorem mem_encode_iff (hd : d.toNat < 0x80) : UInt8.ofNat d.toNat ∈ encode text ↔ d ∈ text := by
  rw [encode, List.mem_flatMap]
  constructor
  · rintro ⟨c, hc, hb⟩
    exact eq_of_mem_utf8EncodeChar hd hb ▸ hc
  · intro h
    exact ⟨d, h, by rw [utf8EncodeChar_of_ascii hd]; exact List.mem_singleton_self _⟩

theorem getLast?_encode_iff (hd : d.toNat < 0x80) :
    (encode text).getLast? = some (UInt8.ofNat d.toNat) ↔ text.getLast? = some d := by
  constructor
  · intro h
    rcases List.eq_nil_or_concat text with rfl | ⟨init, c, rfl⟩
    · contradiction
    · have hne : String.utf8EncodeChar c ≠ [] := String.utf8EncodeChar_ne_nil
      obtain ⟨b, hlast⟩ : ∃ b, (String.utf8EncodeChar c).getLast? = some b := ⟨_, List.getLast?_eq_some_getLast hne⟩
      rw [List.concat_eq_append] at h ⊢
      rw [encode_append, encode_cons, encode_nil, List.append_nil, List.getLast?_append, hlast, Option.some_or,
        Option.some.injEq] at h
      subst h
      rw [eq_of_mem_utf8EncodeChar hd (List.mem_of_getLast? hlast), List.getLast?_concat]
  · intro h
    obtain ⟨init, rfl⟩ := List.getLast?_eq_some_iff.1 h
    rw [encode_concat_of_ascii hd, List.getLast?_concat]

end ByteMachine.Image
