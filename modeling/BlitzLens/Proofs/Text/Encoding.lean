import BlitzLens.Text.Encoding
import Mathlib.Tactic.SplitIfs

/-!
# Texts as bytes

Reading UTF-8 undoes writing it, and whatever can be read was written: bytes spell a text if and
only if they are its bytes (`Encoding.decodeUtf8?_eq_some_iff`). So there are no two ways to spell a
text, and bytes that cannot be read are the bytes of no text. Both directions go character by
character, by the number of bytes that a character takes.
-/

namespace BlitzLens

namespace Encoding

variable {bytes rest : List UInt8} {text : Text} {c : Char} {b b₁ b₂ b₃ : UInt8}
  {k n n₁ n₂ n₃ least : Nat}

/-! ## Bytes -/

/-- A small number is a byte. -/
theorem toNat_toUInt8 (h : n < 256) : n.toUInt8.toNat = n := by
  simp only [Nat.toUInt8, UInt8.toNat_ofNat']
  omega

/-- The payload of a continuation byte is read. -/
theorem continuation?_toUInt8 (h : k < 64) : continuation? (0x80 + k).toUInt8 = some k := by
  rw [continuation?, toNat_toUInt8 (by omega), if_pos]
  · exact congrArg some (Nat.add_sub_cancel_left ..)
  · simp only [Bool.and_eq_true, decide_eq_true_eq]
    omega

/-- What is read as a payload is that of a continuation byte. -/
theorem of_continuation? (h : continuation? b = some k) :
    k < 64 ∧ (0x80 + k).toUInt8 = b := by
  rw [continuation?] at h
  split at h
  · next hb =>
    simp only [Bool.and_eq_true, decide_eq_true_eq] at hb
    obtain rfl : b.toNat - 0x80 = k := Option.some.inj h
    refine ⟨by omega, ?_⟩
    rw [Nat.add_sub_cancel' hb.1]
    exact UInt8.ofNat_toNat
  · cases h

/-- The number of a character is read as the character. -/
theorem scalar?_toNat (h : least ≤ c.toNat) : scalar? least c.toNat = some c := by
  have hvalid : c.toNat < 0xd800 ∨ 0xdfff < c.toNat ∧ c.toNat < 0x110000 := c.valid
  rw [scalar?, if_pos, Char.ofNat_toNat]
  simp only [Bool.and_eq_true, Bool.not_eq_true', decide_eq_true_eq, Bool.and_eq_false_iff,
    decide_eq_false_iff_not]
  omega

/-- What is read as a character has its number. -/
theorem of_scalar? (h : scalar? least n = some c) : c.toNat = n ∧ least ≤ n := by
  rw [scalar?] at h
  split at h
  · next hn =>
    simp only [Bool.and_eq_true, Bool.not_eq_true', decide_eq_true_eq, Bool.and_eq_false_iff,
      decide_eq_false_iff_not] at hn
    have hvalid : n.isValidChar := by
      change n < 0xd800 ∨ 0xdfff < n ∧ n < 0x110000
      omega
    rw [← Option.some.inj h, Char.ofNat, dif_pos hvalid]
    exact ⟨rfl, hn.1.1⟩
  · cases h

/-! ## Characters -/

/-- A character of one byte. -/
theorem encodeChar_one (h : c.toNat < 0x80) : encodeChar c = [c.toNat.toUInt8] :=
  if_pos h

/-- A character of two bytes. -/
theorem encodeChar_two (hleast : 0x80 ≤ c.toNat) (h : c.toNat < 0x800) :
    encodeChar c = [(0xc0 + c.toNat / 64).toUInt8, (0x80 + c.toNat % 64).toUInt8] := by
  rw [encodeChar, if_neg (Nat.not_lt.2 hleast), if_pos h]
  simp

/-- A character of three bytes. -/
theorem encodeChar_three (hleast : 0x800 ≤ c.toNat) (h : c.toNat < 0x10000) :
    encodeChar c = [(0xe0 + c.toNat / 4096).toUInt8, (0x80 + c.toNat / 64 % 64).toUInt8,
      (0x80 + c.toNat % 64).toUInt8] := by
  rw [encodeChar, if_neg (by omega), if_neg (Nat.not_lt.2 hleast), if_pos h]
  simp

/-- A character of four bytes. -/
theorem encodeChar_four (hleast : 0x10000 ≤ c.toNat) :
    encodeChar c = [(0xf0 + c.toNat / 262144).toUInt8, (0x80 + c.toNat / 4096 % 64).toUInt8,
      (0x80 + c.toNat / 64 % 64).toUInt8, (0x80 + c.toNat % 64).toUInt8] := by
  rw [encodeChar, if_neg (by omega), if_neg (by omega), if_neg (Nat.not_lt.2 hleast)]
  simp

/-- The bytes of a character are read as the character, whatever follows. -/
theorem decodeUtf8?_encodeChar_append (c : Char) (rest : List UInt8) :
    decodeUtf8? (encodeChar c ++ rest) = (decodeUtf8? rest).map (c :: ·) := by
  have hvalid : c.toNat < 0xd800 ∨ 0xdfff < c.toNat ∧ c.toNat < 0x110000 := c.valid
  have htail (k : Nat) : continuation? (0x80 + k % 64).toUInt8 = some (k % 64) :=
    continuation?_toUInt8 (Nat.mod_lt _ (by decide))
  have hbind (found : Option Text) : (found.bind fun text => some (c :: text)) =
      found.map (c :: ·) := by cases found <;> rfl
  rw [decodeUtf8?.eq_def]
  by_cases hone : c.toNat < 0x80
  · simp only [encodeChar_one hone, List.singleton_append]
    rw [toNat_toUInt8 (by omega), if_pos hone, Char.ofNat_toNat]
  by_cases htwo : c.toNat < 0x800
  · have hnumber : c.toNat / 64 * 64 + c.toNat % 64 = c.toNat := by omega
    simp only [encodeChar_two (Nat.not_lt.1 hone) htwo, List.cons_append, List.nil_append]
    rw [toNat_toUInt8 (by omega), if_neg (by omega), if_pos (by simp; omega), htail]
    simp only [Nat.add_sub_cancel_left, bind, Option.bind_some, hnumber,
      scalar?_toNat (Nat.not_lt.1 hone)]
    exact hbind _
  by_cases hthree : c.toNat < 0x10000
  · have hnumber : (c.toNat / 4096 * 64 + c.toNat / 64 % 64) * 64 + c.toNat % 64 = c.toNat := by
      omega
    simp only [encodeChar_three (Nat.not_lt.1 htwo) hthree, List.cons_append, List.nil_append]
    rw [toNat_toUInt8 (by omega), if_neg (by omega), if_neg (by simp), if_pos (by simp; omega),
      htail, htail]
    simp only [Nat.add_sub_cancel_left, bind, Option.bind_some, hnumber,
      scalar?_toNat (Nat.not_lt.1 htwo)]
    exact hbind _
  · have hnumber : ((c.toNat / 262144 * 64 + c.toNat / 4096 % 64) * 64 + c.toNat / 64 % 64) * 64 +
        c.toNat % 64 = c.toNat := by omega
    simp only [encodeChar_four (Nat.not_lt.1 hthree), List.cons_append, List.nil_append]
    rw [toNat_toUInt8 (by omega), if_neg (by omega), if_neg (by simp; omega), if_neg (by simp),
      if_pos (by simp; omega), htail, htail, htail]
    simp only [Nat.add_sub_cancel_left, bind, Option.bind_some, hnumber,
      scalar?_toNat (Nat.not_lt.1 hthree)]
    exact hbind _

/-! ## What is read as a character -/

theorem encodeChar_of_one (hb : b.toNat < 0x80) : encodeChar (Char.ofNat b.toNat) = [b] := by
  have hread : scalar? 0 b.toNat = some (Char.ofNat b.toNat) := by
    rw [scalar?, if_pos]
    simp
    omega
  have hc := (of_scalar? hread).1
  rw [encodeChar_one (by rwa [hc]), hc]
  exact congrArg (· :: []) UInt8.ofNat_toNat

theorem encodeChar_of_two (hb : 0xc0 ≤ b.toNat ∧ b.toNat < 0xe0) (h₁ : continuation? b₁ = some n₁)
    (hc : scalar? 0x80 ((b.toNat - 0xc0) * 64 + n₁) = some c) : encodeChar c = [b, b₁] := by
  obtain ⟨hnumber, hleast⟩ := of_scalar? hc
  obtain ⟨hn₁, rfl⟩ := of_continuation? h₁
  have hlead : 0xc0 + c.toNat / 64 = b.toNat := by omega
  have htail : c.toNat % 64 = n₁ := by omega
  rw [encodeChar_two (by omega) (by omega), hlead, htail]
  exact congrArg (· :: _) UInt8.ofNat_toNat

theorem encodeChar_of_three (hb : 0xe0 ≤ b.toNat ∧ b.toNat < 0xf0)
    (h₁ : continuation? b₁ = some n₁) (h₂ : continuation? b₂ = some n₂)
    (hc : scalar? 0x800 (((b.toNat - 0xe0) * 64 + n₁) * 64 + n₂) = some c) :
    encodeChar c = [b, b₁, b₂] := by
  obtain ⟨hnumber, hleast⟩ := of_scalar? hc
  obtain ⟨hn₁, rfl⟩ := of_continuation? h₁
  obtain ⟨hn₂, rfl⟩ := of_continuation? h₂
  have hlead : 0xe0 + c.toNat / 4096 = b.toNat := by omega
  have hmiddle : c.toNat / 64 % 64 = n₁ := by omega
  have htail : c.toNat % 64 = n₂ := by omega
  rw [encodeChar_three (by omega) (by omega), hlead, hmiddle, htail]
  exact congrArg (· :: _) UInt8.ofNat_toNat

theorem encodeChar_of_four (hb : 0xf0 ≤ b.toNat ∧ b.toNat < 0xf8)
    (h₁ : continuation? b₁ = some n₁) (h₂ : continuation? b₂ = some n₂)
    (h₃ : continuation? b₃ = some n₃)
    (hc : scalar? 0x10000 ((((b.toNat - 0xf0) * 64 + n₁) * 64 + n₂) * 64 + n₃) = some c) :
    encodeChar c = [b, b₁, b₂, b₃] := by
  obtain ⟨hnumber, hleast⟩ := of_scalar? hc
  obtain ⟨hn₁, rfl⟩ := of_continuation? h₁
  obtain ⟨hn₂, rfl⟩ := of_continuation? h₂
  obtain ⟨hn₃, rfl⟩ := of_continuation? h₃
  have hlead : 0xf0 + c.toNat / 262144 = b.toNat := by omega
  have hsecond : c.toNat / 4096 % 64 = n₁ := by omega
  have hthird : c.toNat / 64 % 64 = n₂ := by omega
  have htail : c.toNat % 64 = n₃ := by omega
  rw [encodeChar_four (by omega), hlead, hsecond, hthird, htail]
  exact congrArg (· :: _) UInt8.ofNat_toNat

/-- Behind the bytes of a character the reading goes on. -/
theorem exists_of_scalar?_bind
    (h : ((scalar? least n).bind fun c => (decodeUtf8? rest).bind fun text => some (c :: text)) =
      some text) :
    ∃ c text', scalar? least n = some c ∧ decodeUtf8? rest = some text' ∧ text = c :: text' := by
  obtain ⟨c, hc, h⟩ := Option.bind_eq_some_iff.1 h
  obtain ⟨text', htext', h⟩ := Option.bind_eq_some_iff.1 h
  exact ⟨c, text', hc, htext', (Option.some.inj h).symm⟩

/-- Bytes that are read start with those of the first character. -/
theorem exists_of_decodeUtf8?_cons (h : decodeUtf8? (b :: rest) = some text) :
    ∃ c rest' text', b :: rest = encodeChar c ++ rest' ∧ text = c :: text' ∧
      decodeUtf8? rest' = some text' := by
  rw [decodeUtf8?.eq_def] at h
  simp only [Bool.and_eq_true, decide_eq_true_eq] at h
  split_ifs at h with hone htwo hthree hfour
  · obtain ⟨text', htext', rfl⟩ := Option.map_eq_some_iff.1 h
    exact ⟨_, rest, text', by rw [encodeChar_of_one hone]; rfl, rfl, htext'⟩
  · split at h
    · next b₁ rest =>
      obtain ⟨n₁, h₁, h⟩ := Option.bind_eq_some_iff.1 h
      obtain ⟨c, text', hc, htext', rfl⟩ := exists_of_scalar?_bind h
      exact ⟨c, rest, text', by rw [encodeChar_of_two htwo h₁ hc]; rfl, rfl, htext'⟩
    · cases h
  · split at h
    · next b₁ b₂ rest =>
      obtain ⟨n₁, h₁, h⟩ := Option.bind_eq_some_iff.1 h
      obtain ⟨n₂, h₂, h⟩ := Option.bind_eq_some_iff.1 h
      obtain ⟨c, text', hc, htext', rfl⟩ := exists_of_scalar?_bind h
      exact ⟨c, rest, text', by rw [encodeChar_of_three hthree h₁ h₂ hc]; rfl, rfl, htext'⟩
    · cases h
  · split at h
    · next b₁ b₂ b₃ rest =>
      obtain ⟨n₁, h₁, h⟩ := Option.bind_eq_some_iff.1 h
      obtain ⟨n₂, h₂, h⟩ := Option.bind_eq_some_iff.1 h
      obtain ⟨n₃, h₃, h⟩ := Option.bind_eq_some_iff.1 h
      obtain ⟨c, text', hc, htext', rfl⟩ := exists_of_scalar?_bind h
      exact ⟨c, rest, text', by rw [encodeChar_of_four hfour h₁ h₂ h₃ hc]; rfl, rfl, htext'⟩
    · cases h

/-! ## Texts -/

/-- The bytes of a character come before those of the characters that follow it. -/
theorem encodeUtf8_cons (c : Char) (text : Text) :
    encodeUtf8 (c :: text) = encodeChar c ++ encodeUtf8 text :=
  List.flatMap_cons

/-- Every text is read back from its bytes. -/
theorem decodeUtf8?_encodeUtf8 (text : Text) : decodeUtf8? (encodeUtf8 text) = some text := by
  induction text with
  | nil => rw [encodeUtf8, List.flatMap_nil, decodeUtf8?]
  | cons c text ih => rw [encodeUtf8_cons, decodeUtf8?_encodeChar_append, ih, Option.map_some]

/-- Bytes that are read are those of what they are read as. -/
theorem encodeUtf8_of_decodeUtf8? (h : decodeUtf8? bytes = some text) :
    encodeUtf8 text = bytes := by
  -- the bytes behind the first character are fewer
  induction hlength : bytes.length using Nat.strongRecOn generalizing bytes text with
  | ind length ih =>
    cases bytes with
    | nil =>
      rw [decodeUtf8?] at h
      cases h
      rfl
    | cons b rest =>
      obtain ⟨c, rest', text', hbytes, rfl, htext'⟩ := exists_of_decodeUtf8?_cons h
      rw [hbytes, List.length_append] at hlength
      have hpos : 0 < (encodeChar c).length := by
        unfold encodeChar
        dsimp only
        split_ifs <;> exact Nat.succ_pos _
      rw [encodeUtf8_cons, ih rest'.length (by omega) htext' rfl, hbytes]

/-- Bytes spell a text in UTF-8 exactly if they are its bytes. -/
theorem decodeUtf8?_eq_some_iff : decodeUtf8? bytes = some text ↔ encodeUtf8 text = bytes := by
  constructor
  · exact encodeUtf8_of_decodeUtf8?
  · rintro rfl
    exact decodeUtf8?_encodeUtf8 text

end Encoding

end BlitzLens
