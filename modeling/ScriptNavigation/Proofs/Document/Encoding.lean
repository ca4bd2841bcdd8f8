/-
# Bytes of texts

The bytes of a document need not be those of a text.  Where they are, a byte of seven bits is a
character by itself: so a text may be cut at such a byte, and both parts are texts.  The tokens
of a document end at such bytes.

Main facts:

* `textOf_eq_ok_iff`: which bytes are those of a text.
* `IsText.cut`: a text may be cut at a byte of seven bits.
* `IsText.dropWhile`: what is left of a text after bytes of seven bits is a text.
-/
import ScriptNavigation.Value.Reader

namespace ScriptNavigation

namespace Json

/-! ## Texts -/

/-- The bytes are those of some characters. -/
def IsText (bs : Bytes) : Prop := ∃ cs : List Char, bs = cs.flatMap String.utf8EncodeChar

theorem isText_nil : IsText [] := ⟨[], rfl⟩

/-- Two texts make one text. -/
theorem IsText.append {bs bs' : Bytes} (h : IsText bs) (h' : IsText bs') : IsText (bs ++ bs') := by
  obtain ⟨cs, rfl⟩ := h
  obtain ⟨cs', rfl⟩ := h'
  exact ⟨cs ++ cs', List.flatMap_append.symm⟩

/-- The bytes are those of a text exactly if they are valid. -/
theorem isValidUTF8_iff {bs : Bytes} : ByteArray.IsValidUTF8 ⟨bs.toArray⟩ ↔ IsText bs := by
  have hbytes (bs : Bytes) : bs.toByteArray = ⟨bs.toArray⟩ := ByteArray.ext List.data_toByteArray
  rw [← hbytes]
  constructor
  · rintro ⟨cs, h⟩
    exact ⟨cs, List.toByteArray_inj.mp h⟩
  · rintro ⟨cs, rfl⟩
    exact ⟨cs, rfl⟩

/-- Some bytes can be read as a text exactly if they are those of a text. -/
theorem textOf_eq_ok_iff {bs : Bytes} : (∃ text, textOf bs = .ok text) ↔ IsText bs := by
  rw [← isValidUTF8_iff, textOf, String.fromUTF8?]
  by_cases h : ByteArray.IsValidUTF8 ⟨bs.toArray⟩
  · rw [dif_pos h]
    exact ⟨fun _ => h, fun _ => ⟨_, rfl⟩⟩
  · rw [dif_neg h]
    constructor
    · rintro ⟨_, htext⟩
      cases htext
    · intro h'
      exact absurd h' h

/-- Bytes that are not those of a text are reported as such. -/
theorem textOf_of_not {bs : Bytes} (h : ¬IsText bs) : textOf bs = .error .invalidText := by
  rw [← isValidUTF8_iff] at h
  rw [textOf, String.fromUTF8?, dif_neg h]

/-- The bytes of an array are listed from an index on. -/
theorem toList_loop (bs : ByteArray) (i : Nat) (listed : Bytes) :
    ByteArray.toList.loop bs i listed = listed.reverse ++ bs.data.toList.drop i := by
  fun_induction ByteArray.toList.loop bs i listed with
  | case1 i listed hlt ih =>
    have hget : bs.get! i = bs.data.toList[i] := by
      rw [ByteArray.get!]
      exact getElem!_pos bs.data i hlt
    rw [ih, List.reverse_cons, List.append_assoc, hget,
      List.singleton_append, List.getElem_cons_drop]
  | case2 i listed hge =>
    rw [List.drop_eq_nil_of_le (Nat.le_of_not_lt hge),
      List.append_nil]

/-- The bytes of a string are those of a text. -/
theorem isText_toUTF8 (s : String) : IsText s.toUTF8.toList := by
  have hlist : s.toUTF8.toList = s.toUTF8.data.toList := toList_loop s.toUTF8 0 []
  rw [hlist, ← isValidUTF8_iff]
  exact s.isValidUTF8

/-- The bytes of a character are those of a text. -/
theorem isText_bytesOf (code : Nat) : IsText (bytesOf code) := isText_toUTF8 _

/-! ## Bytes of seven bits -/

/-- A byte of seven bits is a character by itself. -/
theorem encode_eq_of_mem {c : Char} {b : UInt8} (hb : b < 0x80)
    (h : b ∈ String.utf8EncodeChar c) : String.utf8EncodeChar c = [b] := by
  have hvalue : b.toNat < 128 := hb
  have hcode := c.val.toNat_lt
  unfold String.utf8EncodeChar at h ⊢
  dsimp only at h ⊢
  -- every byte of a longer character has its highest bit set
  split at h
  · rw [if_pos ‹_›, List.mem_singleton.mp h]
  · exfalso
    have hhigh : 128 ≤ b.toNat := by
      split at h
      · simp only [List.mem_cons, List.not_mem_nil, or_false] at h
        rcases h with rfl | rfl <;> simp only [UInt8.toNat_ofNat'] <;> omega
      · split at h
        · simp only [List.mem_cons, List.not_mem_nil, or_false] at h
          rcases h with rfl | rfl | rfl <;> simp only [UInt8.toNat_ofNat'] <;> omega
        · simp only [List.mem_cons, List.not_mem_nil, or_false] at h
          rcases h with rfl | rfl | rfl | rfl <;> simp only [UInt8.toNat_ofNat'] <;> omega
    omega

/-- A byte of seven bits is a text. -/
theorem isText_singleton {b : UInt8} (hb : b < 0x80) : IsText [b] := by
  have hvalue : b.toNat < 128 := hb
  refine ⟨[Char.ofNat b.toNat], ?_⟩
  have hvalid : b.toNat.isValidChar := Or.inl (by omega)
  have hcode : (Char.ofNat b.toNat).val.toNat = b.toNat := by
    rw [Char.ofNat, dif_pos hvalid]
    rfl
  simp only [List.flatMap_cons, List.flatMap_nil, List.append_nil, String.utf8EncodeChar, hcode]
  rw [if_pos (by omega), UInt8.ofNat_toNat]

/-- A text may be cut at a byte of seven bits: both parts are texts. -/
theorem IsText.cut {before after : Bytes} {b : UInt8} (hb : b < 0x80)
    (h : IsText (before ++ b :: after)) : IsText before ∧ IsText after := by
  obtain ⟨cs, hcs⟩ := h
  induction cs generalizing before with
  | nil => simp at hcs
  | cons c cs ih =>
    rw [List.flatMap_cons] at hcs
    rcases List.append_eq_append_iff.mp hcs with ⟨part, hchar, hrest⟩ | ⟨part, hbefore, hrest⟩
    · -- the byte is in the first character, or it is the byte behind it
      cases part with
      | nil =>
        rw [List.append_nil] at hchar
        obtain ⟨-, hafter⟩ := @ih [] hrest
        exact ⟨⟨[c], by simp [hchar]⟩, hafter⟩
      | cons p part =>
        rw [List.cons_append, List.cons.injEq] at hrest
        obtain ⟨rfl, hafter⟩ := hrest
        have hsingle := encode_eq_of_mem hb (c := c) (by simp [hchar])
        rw [hsingle] at hchar
        have hlength := congrArg List.length hchar
        simp only [List.length_append, List.length_cons, List.length_nil] at hlength
        have hbefore : before = [] := List.eq_nil_of_length_eq_zero (by omega)
        have hpart : part = [] := List.eq_nil_of_length_eq_zero (by omega)
        rw [hpart, List.nil_append] at hafter
        exact ⟨hbefore ▸ isText_nil, ⟨cs, hafter⟩⟩
    · obtain ⟨hpart, hafter⟩ := ih hrest.symm
      refine ⟨?_, hafter⟩
      rw [hbefore]
      exact IsText.append ⟨[c], by simp⟩ hpart

/-- What follows a first byte of seven bits is a text. -/
theorem IsText.tail {b : UInt8} {bs : Bytes} (hb : b < 0x80) (h : IsText (b :: bs)) : IsText bs :=
  (@IsText.cut [] bs b hb h).2

/-- What is left of a text after some bytes of seven bits is a text. -/
theorem IsText.dropWhile {bs : Bytes} {p : UInt8 → Bool} (hp : ∀ b, p b = true → b < 0x80)
    (h : IsText bs) : IsText (bs.dropWhile p) := by
  induction bs with
  | nil => exact h
  | cons b bs ih =>
    rw [List.dropWhile_cons]
    split
    · exact ih (h.tail (hp b ‹_›))
    · exact h

/-- What is left of a text after some bytes of seven bits that it starts with is a text. -/
theorem IsText.drop_token {bs token : Bytes} (htoken : ∀ b ∈ token, b < 0x80)
    (hstarts : token <+: bs) (h : IsText bs) : IsText (bs.drop token.length) := by
  obtain ⟨rest, rfl⟩ := hstarts
  rw [List.drop_left]
  induction token with
  | nil => exact h
  | cons b token ih =>
    exact ih (fun c hc => htoken c (List.mem_cons_of_mem b hc))
      (h.tail (htoken b List.mem_cons_self))

end Json

end ScriptNavigation
