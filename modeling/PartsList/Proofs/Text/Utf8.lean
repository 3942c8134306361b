import PartsList.Disk.Operations
import PartsList.Text.Utf8

/-!
# Texts as bytes

A text is read back from its bytes, and texts are ordered as their bytes are.  A byte below 128 is a
character of its own, so a text that begins with one begins anew behind any bytes.  The decoder of
bytes finds the characters of a text again.
-/

namespace PartsList

namespace Disk

theorem bytesOf_eq (text : String) : bytesOf text = text.toList.flatMap String.utf8EncodeChar := by
  have encoded : text.toList.utf8Encode.data.toList = bytesOf text := by
    rw [String.utf8Encode_toList]
    rfl
  rw [← encoded, List.utf8Encode]
  simp

theorem textOf?_bytesOf (text : String) : textOf? (bytesOf text) = some text := by
  have whole : (⟨(bytesOf text).toArray⟩ : ByteArray) = text.toByteArray := by
    simp [bytesOf, String.toUTF8]
  rw [textOf?, String.fromUTF8?, whole, dif_pos text.isValidUTF8]
  rfl

/-- Of two characters the one with the lower code has the lower bytes. -/
theorem utf8EncodeChar_append_lt {c d : Char} (less : c < d) (cs ds : List UInt8) :
    String.utf8EncodeChar c ++ cs < String.utf8EncodeChar d ++ ds := by
  have codes : c.val.toNat < d.val.toNat := less
  have bound : d.val.toNat < 0x110000 := by
    rcases d.valid with small | large
    · exact Nat.lt_trans small (by decide)
    · exact large.2
  unfold String.utf8EncodeChar
  dsimp only
  generalize c.val.toNat = x at codes
  generalize d.val.toNat = y at codes bound
  have digits (n : Nat) : n / 64 / 64 = n / 4096 ∧ n / 4096 / 64 = n / 262144 := by
    simp [Nat.div_div_eq_div_mul]
  have lower := digits x
  have upper := digits y
  have lowerTop : x / 262144 % 8 = x / 262144 := by omega
  have upperTop : y / 262144 % 8 = y / 262144 := by omega
  have second (n : Nat) : (n % 64 + 128) % 2 ^ 8 = n % 64 + 128 := by omega
  have ofTwo (n : Nat) : (n % 32 + 192) % 2 ^ 8 = n % 32 + 192 := by omega
  have ofThree (n : Nat) : (n % 16 + 224) % 2 ^ 8 = n % 16 + 224 := by omega
  have ofFour (n : Nat) : (n % 8 + 240) % 2 ^ 8 = n % 8 + 240 := by omega
  -- The first byte tells how many there are, and bytes behind it are digits, the highest first.
  repeat' split
  all_goals
    simp only [List.cons_append, List.nil_append, List.cons_lt_cons_iff, UInt8.lt_iff_toNat_lt,
      ← UInt8.toNat_inj, UInt8.toNat_ofNat', second, ofTwo, ofThree, ofFour]
    omega

/-- Texts are ordered as their bytes are. -/
theorem bytesOf_lt {text other : String} (less : text < other) : bytesOf text < bytesOf other := by
  rw [bytesOf_eq, bytesOf_eq]
  have chars : text.toList < other.toList := less
  generalize text.toList = cs at chars
  generalize other.toList = ds at chars
  induction cs generalizing ds with
  | nil =>
      cases ds with
      | nil => exact absurd chars (List.lt_irrefl [])
      | cons d ds =>
          rw [List.flatMap_nil, List.flatMap_cons]
          obtain ⟨byte, bytes, same⟩ := List.exists_cons_of_ne_nil (@String.utf8EncodeChar_ne_nil d)
          rw [same]
          exact List.nil_lt_cons _ _
  | cons c cs induction =>
      cases ds with
      | nil => exact absurd chars (List.not_lt_nil _)
      | cons d ds =>
          rw [List.flatMap_cons, List.flatMap_cons]
          rcases List.cons_lt_cons_iff.1 chars with less | ⟨rfl, rest⟩
          · exact utf8EncodeChar_append_lt less _ _
          · exact List.append_left_lt (induction ds rest)

/-- No character's bytes begin another character's. -/
theorem eq_of_utf8EncodeChar_append_eq {c d : Char} {cs ds : List UInt8}
    (same : String.utf8EncodeChar c ++ cs = String.utf8EncodeChar d ++ ds) : c = d := by
  rcases Nat.lt_trichotomy c.val.toNat d.val.toNat with less | equal | more
  · exact absurd (same ▸ utf8EncodeChar_append_lt less cs ds) (List.lt_irrefl _)
  · exact Char.ext (UInt32.toNat_inj.1 equal)
  · exact absurd (same ▸ utf8EncodeChar_append_lt more ds cs) (List.lt_irrefl _)

/-- A text whose bytes begin those of another one begins it. -/
theorem exists_append_of_bytesOf {text other : String} {rest : List UInt8}
    (same : bytesOf text ++ rest = bytesOf other) :
    ∃ back, text ++ back = other ∧ rest = bytesOf back := by
  rw [bytesOf_eq, bytesOf_eq] at same
  suffices ∃ cs, other.toList = text.toList ++ cs ∧ rest = cs.flatMap String.utf8EncodeChar by
    obtain ⟨cs, chars, behind⟩ := this
    refine ⟨String.ofList cs, ?_, by rw [bytesOf_eq, String.toList_ofList, behind]⟩
    rw [← String.ofList_toList (s := other), chars, String.ofList_append, String.ofList_toList]
  generalize text.toList = cs at same
  generalize other.toList = ds at same
  induction cs generalizing ds with
  | nil => exact ⟨ds, rfl, same⟩
  | cons c cs induction =>
      rw [List.flatMap_cons, List.append_assoc] at same
      cases ds with
      | nil =>
          have none := (List.append_eq_nil_iff.1 same).1
          exact absurd none String.utf8EncodeChar_ne_nil
      | cons d ds =>
          rw [List.flatMap_cons] at same
          obtain rfl := eq_of_utf8EncodeChar_append_eq same
          obtain ⟨back, rfl, behind⟩ := induction ds (List.append_cancel_left same)
          exact ⟨back, rfl, behind⟩

theorem textOf?_eq_some {bytes : List UInt8} {text : String} :
    textOf? bytes = some text ↔ bytes = bytesOf text := by
  constructor
  · intro read
    unfold textOf? String.fromUTF8? at read
    split at read
    · cases read
      simp [bytesOf, String.fromUTF8, String.toUTF8]
    · cases read
  · rintro rfl
    exact textOf?_bytesOf text

theorem bytesOf_append (text other : String) :
    bytesOf (text ++ other) = bytesOf text ++ bytesOf other := by
  rw [bytesOf_eq, bytesOf_eq, bytesOf_eq, String.toList_append, List.flatMap_append]

/-- A byte below 128 is a character of its own. -/
theorem mem_utf8EncodeChar {c : Char} {byte : UInt8} (mem : byte ∈ String.utf8EncodeChar c) :
    String.utf8EncodeChar c = [byte] ∧ byte.toNat = c.toNat ∨ 128 ≤ byte.toNat := by
  unfold String.utf8EncodeChar at mem ⊢
  dsimp only at mem ⊢
  split at mem
  · next small =>
      rw [if_pos small]
      rw [List.mem_singleton.1 mem]
      refine Or.inl ⟨rfl, ?_⟩
      rw [UInt8.toNat_ofNat']
      exact Nat.mod_eq_of_lt (by omega)
  · next large =>
      have bound : c.val.toNat < 0x110000 := by
        rcases c.valid with low | high
        · exact Nat.lt_trans low (by decide)
        · exact high.2
      have high {n : Nat} (low : 128 ≤ n) (top : n < 256) : 128 ≤ (UInt8.ofNat n).toNat := by
        rw [UInt8.toNat_ofNat']
        omega
      right
      split at mem
      · simp only [List.mem_cons, List.not_mem_nil, or_false] at mem
        rcases mem with rfl | rfl <;> exact high (by omega) (by omega)
      · split at mem
        · simp only [List.mem_cons, List.not_mem_nil, or_false] at mem
          rcases mem with rfl | rfl | rfl <;> exact high (by omega) (by omega)
        · simp only [List.mem_cons, List.not_mem_nil, or_false] at mem
          rcases mem with rfl | rfl | rfl | rfl <;> exact high (by omega) (by omega)

theorem utf8EncodeChar_of_lt {c : Char} (small : c.toNat < 128) :
    String.utf8EncodeChar c = [UInt8.ofNat c.toNat] := by
  unfold String.utf8EncodeChar
  exact if_pos (Nat.le_of_lt_succ small)

/-- Bytes below 128 are a text, each a character of its own. -/
theorem eq_bytesOf_of_lt {bytes : List UInt8} (small : ∀ byte ∈ bytes, byte.toNat < 128) :
    bytes = bytesOf (String.ofList (bytes.map fun byte => Char.ofNat byte.toNat)) := by
  rw [bytesOf_eq, String.toList_ofList]
  induction bytes with
  | nil => rfl
  | cons byte bytes induction =>
      have low := small byte List.mem_cons_self
      have code : (Char.ofNat byte.toNat).toNat = byte.toNat := by
        rw [Char.ofNat, dif_pos (Or.inl (by omega))]
        rfl
      rw [List.map_cons, List.flatMap_cons, utf8EncodeChar_of_lt (by omega), code,
        UInt8.ofNat_toNat, List.singleton_append,
        ← induction fun other mem => small other (List.mem_cons_of_mem _ mem)]

theorem exists_bytesOf_of_lt {bytes : List UInt8} (small : ∀ byte ∈ bytes, byte.toNat < 128) :
    ∃ text, bytes = bytesOf text :=
  ⟨_, eq_bytesOf_of_lt small⟩

/-- Bytes in front of a text that begins with a character of one byte are a text if the whole is. -/
theorem exists_bytesOf_of_append {bytes rest : List UInt8} {first : UInt8}
    (small : first.toNat < 128)
    {cs : List Char} (same : bytes ++ first :: rest = cs.flatMap String.utf8EncodeChar) :
    ∃ front, bytes = bytesOf front := by
  induction cs generalizing bytes with
  | nil => simp at same
  | cons c cs induction =>
      rw [List.flatMap_cons] at same
      rcases List.append_eq_append_iff.1 same with ⟨extra, encoded, behind⟩ | ⟨left, rfl, behind⟩
      · cases extra with
        | nil => exact ⟨String.ofList [c], by simp [bytesOf_eq, encoded]⟩
        | cons byte extra =>
            obtain ⟨rfl, -⟩ := List.cons_eq_cons.1 behind
            have inside : first ∈ String.utf8EncodeChar c :=
              encoded ▸ List.mem_append_right _ List.mem_cons_self
            rcases mem_utf8EncodeChar inside with ⟨alone, -⟩ | large
            · rw [alone] at encoded
              cases bytes with
              | nil => exact ⟨"", rfl⟩
              | cons byte bytes => simp at encoded
            · omega
      · obtain ⟨front, rfl⟩ := induction behind.symm
        exact ⟨String.ofList [c] ++ front, by rw [bytesOf_append]; simp [bytesOf_eq]⟩

/-- Bytes in front of a text that begins with a character of one byte are read on their own. -/
theorem textOf?_append {text : String} {c : Char} {cs : List Char} (chars : text.toList = c :: cs)
    (small : c.toNat < 128) (bytes : List UInt8) :
    textOf? (bytes ++ bytesOf text) = (textOf? bytes).map (· ++ text) := by
  cases read : textOf? bytes with
  | some front =>
      rw [textOf?_eq_some.1 read, ← bytesOf_append, textOf?_bytesOf]
      rfl
  | none =>
      cases whole : textOf? (bytes ++ bytesOf text) with
      | none => rfl
      | some found =>
          have same := textOf?_eq_some.1 whole
          rw [bytesOf_eq text, chars, List.flatMap_cons, utf8EncodeChar_of_lt small,
            bytesOf_eq found] at same
          have first : (UInt8.ofNat c.toNat).toNat < 128 := by
            rw [UInt8.toNat_ofNat']
            omega
          obtain ⟨front, rfl⟩ := exists_bytesOf_of_append first same
          rw [textOf?_bytesOf] at read
          cases read

end Disk

/-! ## Decoding -/

namespace Utf8

theorem toNat_ofNat {n : Nat} (small : n < 256) : (UInt8.ofNat n).toNat = n := by
  rw [UInt8.toNat_ofNat']
  omega

theorem continuation?_ofNat {digit : Nat} (small : digit < 64) :
    continuation? (UInt8.ofNat (digit + 128)) = some digit := by
  rw [continuation?, toNat_ofNat (by omega), if_pos ⟨by omega, by omega⟩]
  exact congrArg some (Nat.add_sub_cancel digit 128)

theorem characterFrom?_toNat {least code : Nat} {c : Char} (same : code = c.toNat)
    (large : least ≤ c.toNat) : characterFrom? least code = some c := by
  have valid : c.toNat.isValidChar := c.valid
  rw [same, characterFrom?, if_pos ⟨large, valid⟩, Char.ofNat_toNat]

/-- The code that so many continuing bytes spell behind a first part. -/
theorem spelled?_append (head : Nat) (digits : List Nat) (small : ∀ digit ∈ digits, digit < 64)
    (rest : List UInt8) :
    spelled? head digits.length
        (digits.map (fun digit => UInt8.ofNat (digit + 128)) ++ rest) =
      some (digits.foldl (fun code digit => 64 * code + digit) head) := by
  have folded (bytes : List Nat) (small : ∀ digit ∈ bytes, digit < 64) (head : Nat) :
      (bytes.map fun digit => UInt8.ofNat (digit + 128)).foldlM
          (fun code byte => (continuation? byte).map (64 * code + ·)) head =
        some (bytes.foldl (fun code digit => 64 * code + digit) head) := by
    induction bytes generalizing head with
    | nil => rfl
    | cons digit bytes induction =>
        rw [List.map_cons, List.foldlM_cons, continuation?_ofNat (small digit List.mem_cons_self)]
        exact induction (fun other mem => small other (List.mem_cons_of_mem _ mem)) _
  have taken : (digits.map (fun digit => UInt8.ofNat (digit + 128)) ++ rest).take digits.length =
      digits.map fun digit => UInt8.ofNat (digit + 128) :=
    List.take_left' (by rw [List.length_map])
  unfold spelled?
  dsimp only
  rw [taken, List.length_map, if_neg (Nat.lt_irrefl _), folded digits small]

/-- The bytes of a character are read as the character, whatever follows them. -/
theorem character?_encode (c : Char) (rest : List UInt8) :
    ∃ first more, String.utf8EncodeChar c = first :: more ∧
      character? first (more ++ rest) = some (c, more.length) := by
  have bound : c.toNat < 0x110000 := by
    rcases c.valid with small | large
    · exact Nat.lt_trans small (by decide)
    · exact large.2
  have code : c.val.toNat = c.toNat := rfl
  have digit (n : Nat) : n % 64 < 64 := Nat.mod_lt n (by decide)
  unfold String.utf8EncodeChar
  rw [code]
  dsimp only
  generalize value : c.toNat = n at *
  split
  · next small =>
      refine ⟨_, [], rfl, ?_⟩
      rw [character?, toNat_ofNat (by omega)]
      rw [if_pos (by omega), ← value, Char.ofNat_toNat]
      rfl
  · split
    · next large small =>
        refine ⟨_, _, rfl, ?_⟩
        have spells := spelled?_append (n / 64 % 32) [n % 64] (by simp [digit]) rest
        rw [character?, toNat_ofNat (by omega)]
        rw [if_neg (by omega), if_neg (by omega), if_pos (by omega), Nat.add_sub_cancel]
        simp only [List.map_cons, List.map_nil, List.foldl_cons, List.foldl_nil,
          List.length_cons, List.length_nil] at spells
        rw [spells, Option.bind_some, characterFrom?_toNat (c := c) (by omega) (by omega)]
        rfl
    · split
      · next large small =>
          refine ⟨_, _, rfl, ?_⟩
          have spells :=
            spelled?_append (n / 4096 % 16) [n / 64 % 64, n % 64] (by simp [digit]) rest
          rw [character?, toNat_ofNat (by omega)]
          rw [if_neg (by omega), if_neg (by omega), if_neg (by omega), if_pos (by omega),
            Nat.add_sub_cancel]
          simp only [List.map_cons, List.map_nil, List.foldl_cons, List.foldl_nil,
            List.length_cons, List.length_nil] at spells
          rw [spells, Option.bind_some, characterFrom?_toNat (c := c) (by omega) (by omega)]
          rfl
      · next large =>
          refine ⟨_, _, rfl, ?_⟩
          have spells := spelled?_append (n / 262144 % 8) [n / 4096 % 64, n / 64 % 64, n % 64]
            (by simp [digit]) rest
          rw [character?, toNat_ofNat (by omega)]
          rw [if_neg (by omega), if_neg (by omega), if_neg (by omega), if_neg (by omega),
            if_pos (by omega), Nat.add_sub_cancel]
          simp only [List.map_cons, List.map_nil, List.foldl_cons, List.foldl_nil,
            List.length_cons, List.length_nil] at spells
          rw [spells, Option.bind_some, characterFrom?_toNat (c := c) (by omega) (by omega)]
          rfl

theorem decodeFrom_encode (done : List (Option Char)) (cs : List Char) :
    decodeFrom done (cs.flatMap String.utf8EncodeChar) = done.reverse ++ cs.map some := by
  induction cs generalizing done with
  | nil => rw [List.flatMap_nil, decodeFrom, List.map_nil, List.append_nil]
  | cons c cs induction =>
      obtain ⟨first, more, bytes, read⟩ :=
        character?_encode c (cs.flatMap String.utf8EncodeChar)
      rw [List.flatMap_cons, bytes, List.cons_append, decodeFrom, read]
      dsimp only
      rw [List.drop_left, induction]
      simp

/-- The bytes of a text are read as its characters. -/
theorem decode_bytesOf (text : String) : decode (Disk.bytesOf text) = text.toList.map some := by
  rw [decode, Disk.bytesOf_eq, decodeFrom_encode]
  rfl

end Utf8

end PartsList
