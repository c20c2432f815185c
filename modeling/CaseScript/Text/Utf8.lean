/-!
# UTF-8

Files hold bytes and tables hold text.  `encode` writes text as UTF-8, `decode` reads it back and
otherwise counts the bytes before the first one that belongs to no character.

* `length_le_utf8Length`: a character takes at least one byte.
* `utf8Length_map_toLower`: a text of small letters takes as many bytes as before.
* `decodeFirst?_encodeChar_append`: the bytes of a character read back as that character.
* `decode_encode`: what was written reads back.
* `decode_eq_ok_iff`: a text is read from its own bytes and from no others.
* `mem_encode_iff`: a byte below 128 stands only for the character with that number.
* `head?_eq_of_encode_append`: bytes that start alike start with the same character.
-/

namespace CaseScript.Text

/-- The bytes of a file or of a field. -/
abbrev Bytes := List UInt8

/-- The number of bytes that a text takes. -/
def utf8Length : List Char → Nat
  | [] => 0
  | c :: cs => c.utf8Size + utf8Length cs

/-- The bytes of a text. -/
def encode (cs : List Char) : Bytes := cs.flatMap String.utf8EncodeChar

/-- The character that the bytes start with. -/
def decodeFirst? (bytes : Bytes) : Option Char :=
  (bytes.take 4).toByteArray.utf8DecodeChar? 0

/-- The text that the bytes spell, or the number of bytes before the first that belongs to no
character. -/
def decode (bytes : Bytes) : Except Nat (List Char) :=
  if bytes.isEmpty then .ok []
  else match decodeFirst? bytes with
    | none => .error 0
    | some c =>
      match decode (bytes.drop c.utf8Size) with
      | .ok cs => .ok (c :: cs)
      | .error n => .error (c.utf8Size + n)
termination_by bytes.length
decreasing_by
  have := c.utf8Size_pos
  cases bytes with
  | nil => simp_all
  | cons _ _ => simp; omega

/-- The text that the bytes spell, if they spell one. -/
def decode? (bytes : Bytes) : Option (List Char) := (decode bytes).toOption

/-- The bytes of a string. -/
def bytesOf (s : String) : Bytes := encode s.toList

theorem length_encode (cs : List Char) : (encode cs).length = utf8Length cs := by
  induction cs with
  | nil => rfl
  | cons c cs ih =>
    simp only [encode, List.flatMap_cons, List.length_append, String.length_utf8EncodeChar] at ih ⊢
    rw [ih, utf8Length]

theorem utf8Length_append (front back : List Char) :
    utf8Length (front ++ back) = utf8Length front + utf8Length back := by
  rw [← length_encode, ← length_encode, ← length_encode, encode, List.flatMap_append,
    List.length_append]
  rfl

/-- A character takes at least one byte. -/
theorem length_le_utf8Length (cs : List Char) : cs.length ≤ utf8Length cs := by
  induction cs with
  | nil => exact Nat.le_refl 0
  | cons c cs ih =>
    have hpos := c.utf8Size_pos
    rw [List.length_cons, utf8Length]
    omega

/-- A letter takes one byte in either case. -/
theorem utf8Size_toLower (c : Char) : c.toLower.utf8Size = c.utf8Size := by
  by_cases hupper : c.val ≥ 'A'.val ∧ c.val ≤ 'Z'.val
  · have hlower : c.toLower.val = c.val + 32 := congrArg Char.val (dif_pos hupper)
    have hle : c.val.toNat ≤ 90 := hupper.2
    rw [Char.utf8Size_eq_one_iff.2, Char.utf8Size_eq_one_iff.2]
    · rw [UInt32.le_iff_toNat_le]
      show c.val.toNat ≤ 127
      omega
    · rw [hlower, UInt32.le_iff_toNat_le, UInt32.toNat_add]
      show (c.val.toNat + 32) % 4294967296 ≤ 127
      omega
  · have hsame : c.toLower = c := dif_neg hupper
    rw [hsame]

theorem utf8Length_map_toLower (cs : List Char) :
    utf8Length (cs.map Char.toLower) = utf8Length cs := by
  induction cs with
  | nil => rfl
  | cons c cs ih => rw [List.map_cons, utf8Length, utf8Length, ih, utf8Size_toLower]

/-- The length of a string counts the bytes of its characters. -/
theorem utf8Length_toList (s : String) : utf8Length s.toList = s.utf8ByteSize := by
  have hsize := congrArg ByteArray.size (String.utf8Encode_toList (b := s))
  rw [List.utf8Encode] at hsize
  rw [← length_encode, encode]
  simpa using hsize

theorem encode_cons (c : Char) (cs : List Char) :
    encode (c :: cs) = String.utf8EncodeChar c ++ encode cs := rfl

theorem decodeFirst?_encodeChar_append (c : Char) (bytes : Bytes) :
    decodeFirst? (String.utf8EncodeChar c ++ bytes) = some c := by
  have hsize := c.utf8Size_le_four
  have hlen := String.length_utf8EncodeChar c
  rw [decodeFirst?, List.take_append, List.take_of_length_le (by omega), List.toByteArray_append]
  exact ByteArray.utf8DecodeChar?_utf8EncodeChar_append

theorem decode_encode (cs : List Char) : decode (encode cs) = .ok cs := by
  induction cs with
  | nil => rw [decode]; rfl
  | cons c cs ih =>
    have hne : (encode (c :: cs)).isEmpty = false := by
      have := c.utf8Size_pos
      have := String.length_utf8EncodeChar c
      simp only [encode, List.flatMap_cons, List.isEmpty_eq_false_iff]
      intro h
      have := congrArg List.length h
      simp only [List.length_append, List.length_nil] at this
      omega
    rw [decode, if_neg (by simp [hne])]
    have hfirst : decodeFirst? (encode (c :: cs)) = some c :=
      decodeFirst?_encodeChar_append c (encode cs)
    rw [hfirst]
    have hdrop : (encode (c :: cs)).drop c.utf8Size = encode cs := by
      simp only [encode, List.flatMap_cons]
      exact List.drop_left' (String.length_utf8EncodeChar c)
    simp only [hdrop, ih]

/-- The character that is read from the front of some bytes stands there. -/
theorem exists_of_decodeFirst? {bytes : Bytes} {c : Char} (h : decodeFirst? bytes = some c) :
    ∃ rest, bytes = String.utf8EncodeChar c ++ rest := by
  obtain ⟨more, hmore⟩ := ByteArray.exists_of_utf8DecodeChar?_eq_some h
  have hfront : bytes.take 4 = String.utf8EncodeChar c ++ more.data.toList := by
    simpa using congrArg (·.data.toList) hmore
  refine ⟨more.data.toList ++ bytes.drop 4, ?_⟩
  rw [← List.append_assoc, ← hfront, List.take_append_drop]

theorem encode_of_decode {bytes : Bytes} {cs : List Char} (h : decode bytes = .ok cs) :
    encode cs = bytes := by
  fun_induction decode bytes generalizing cs with
  | case1 bytes hempty =>
    cases h
    exact (List.isEmpty_iff.1 hempty).symm
  | case2 | case4 => cases h
  | case3 bytes hempty c hfirst cs' hrest ih =>
    cases h
    obtain ⟨rest, rfl⟩ := exists_of_decodeFirst? hfirst
    rw [List.drop_left' (String.length_utf8EncodeChar c)] at ih hrest
    rw [encode_cons, ih hrest]

theorem decode_eq_ok_iff {bytes : Bytes} {cs : List Char} :
    decode bytes = .ok cs ↔ bytes = encode cs := by
  constructor
  · intro h
    exact (encode_of_decode h).symm
  · rintro rfl
    exact decode_encode cs

/-- The bytes of a character are its number if that is below 128, and otherwise all greater. -/
theorem utf8EncodeChar_eq_or_forall_le (c : Char) :
    (c.toNat < 128 ∧ String.utf8EncodeChar c = [UInt8.ofNat c.toNat]) ∨
      (128 ≤ c.toNat ∧ ∀ b ∈ String.utf8EncodeChar c, 128 ≤ b.toNat) := by
  by_cases h : c.toNat < 128
  · refine .inl ⟨h, ?_⟩
    have : c.val.toNat ≤ 127 := Nat.le_of_lt_succ h
    rw [String.utf8EncodeChar, if_pos this]
    rfl
  · refine .inr ⟨Nat.le_of_not_lt h, ?_⟩
    have hlt : ¬ c.val.toNat ≤ 127 := fun hle => h (Nat.lt_succ_of_le hle)
    intro b hb
    rw [String.utf8EncodeChar, if_neg hlt] at hb
    split at hb
    · simp only [List.mem_cons, List.not_mem_nil, or_false] at hb
      rcases hb with rfl | rfl <;> simp only [UInt8.toNat_ofNat'] <;> omega
    · split at hb
      · simp only [List.mem_cons, List.not_mem_nil, or_false] at hb
        rcases hb with rfl | rfl | rfl <;> simp only [UInt8.toNat_ofNat'] <;> omega
      · simp only [List.mem_cons, List.not_mem_nil, or_false] at hb
        rcases hb with rfl | rfl | rfl | rfl <;> simp only [UInt8.toNat_ofNat'] <;> omega

theorem mem_encode_iff {c : Char} (hc : c.toNat < 128) (cs : List Char) :
    UInt8.ofNat c.toNat ∈ encode cs ↔ c ∈ cs := by
  have hbyte : (UInt8.ofNat c.toNat).toNat = c.toNat := by
    simp only [UInt8.toNat_ofNat']
    omega
  induction cs with
  | nil => simp [encode]
  | cons d cs ih =>
    rw [encode_cons, List.mem_append, List.mem_cons]
    refine or_congr ?_ ih
    rcases utf8EncodeChar_eq_or_forall_le d with ⟨hd, hbytes⟩ | ⟨hd, hbytes⟩
    · rw [hbytes, List.mem_singleton]
      constructor
      · intro h
        have := congrArg UInt8.toNat h
        rw [hbyte, UInt8.toNat_ofNat'] at this
        exact Char.toNat_inj.1 (by omega)
      · rintro rfl
        rfl
    · constructor
      · intro h
        have := hbytes _ h
        omega
      · rintro rfl
        omega

theorem head?_eq_of_encode_append {c : Char} {cs : List Char} {more bytes : Bytes}
    (hcs : cs ≠ []) (h : encode cs ++ more = String.utf8EncodeChar c ++ bytes) :
    cs.head? = some c := by
  cases cs with
  | nil => exact absurd rfl hcs
  | cons d cs =>
    have hfirst := congrArg decodeFirst? h
    rw [encode_cons, List.append_assoc, decodeFirst?_encodeChar_append,
      decodeFirst?_encodeChar_append] at hfirst
    exact hfirst

end CaseScript.Text
