import LineShell.Proofs.Input.Keystrokes

/-!
# Key codes

A key code is what a keyboard sends for one key: a control byte, a character in UTF-8, or an escape
sequence.  Codes that are sent one after the other are read one after the other, each by one key and
up to its own last byte, because the first bytes of a code tell how far it goes.

## Main definitions

* `KeyCode` — the codes, with the conditions under which they are codes.
* `KeyCode.bytes`, `KeyCode.key` — what is sent, and the key that it stands for.

## Main results

* `sequenceLength?_eq` — the number of bytes that a first byte announces, by its value.
* `exists_utf8EncodeChar_eq_cons` — an encoding of several bytes announces its own length.
* `Feed.readKey_code` — **a code is read by one key, and nothing behind it is taken.**
* `Feed.takeKeys_codes` — reading undoes sending, for any number of codes.
-/

namespace LineShell

/-! ### What a first byte announces -/

/-- A fact about the numbers of bytes is one about bytes. -/
theorem forall_byte {p : UInt8 → Prop} (h : ∀ n < 256, p (UInt8.ofNat n)) (b : UInt8) : p b := by
  have hb := h b.toNat b.toNat_lt
  rwa [UInt8.ofNat_toNat] at hb

/-- The number of bytes that a first byte announces, by its value. -/
theorem sequenceLength?_eq (b : UInt8) :
    sequenceLength? b =
      if b.toNat < 0xC0 then none
      else if b.toNat < 0xE0 then some 2
      else if b.toNat < 0xF0 then some 3
      else if b.toNat < 0xF8 then some 4
      else none := by
  revert b
  exact forall_byte (by decide +kernel)

/-- A byte that announces several bytes is neither a control byte nor a character by itself. -/
theorem le_toNat_of_sequenceLength? {b : UInt8} {length : Nat}
    (h : sequenceLength? b = some length) : 0xC0 ≤ b.toNat := by
  rw [sequenceLength?_eq] at h
  rcases Nat.lt_or_ge b.toNat 0xC0 with hlt | hle
  · rw [if_pos hlt] at h
    cases h
  · exact hle

/-- The encoding of a character up to the last one of seven bits is its number. -/
theorem utf8EncodeChar_of_le {c : Char} (h : c.toNat ≤ 0x7F) :
    String.utf8EncodeChar c = [UInt8.ofNat c.toNat] := by
  simp only [Char.toNat] at h
  simp only [String.utf8EncodeChar, h, if_true]
  rfl

/-- The same of a byte that is given by its value. -/
theorem sequenceLength?_ofNat {n : Nat} (h : n < 256) :
    sequenceLength? (UInt8.ofNat n) =
      if n < 0xC0 then none
      else if n < 0xE0 then some 2
      else if n < 0xF0 then some 3
      else if n < 0xF8 then some 4
      else none := by
  rw [sequenceLength?_eq, UInt8.toNat_ofNat', Nat.mod_eq_of_lt h]

/-- An encoding of several bytes announces its own length. -/
theorem exists_utf8EncodeChar_eq_cons {c : Char} (h : 0x7F < c.toNat) :
    ∃ first more, String.utf8EncodeChar c = first :: more ∧
      sequenceLength? first = some (more.length + 1) := by
  simp only [Char.toNat] at h
  unfold String.utf8EncodeChar
  simp only [Nat.not_le.2 h, if_false]
  -- the number of bytes decides about the first one
  split
  · refine ⟨_, _, rfl, ?_⟩
    rw [sequenceLength?_ofNat (by omega), if_neg (by omega), if_pos (by omega)]
    rfl
  split
  · refine ⟨_, _, rfl, ?_⟩
    rw [sequenceLength?_ofNat (by omega), if_neg (by omega), if_neg (by omega), if_pos (by omega)]
    rfl
  · refine ⟨_, _, rfl, ?_⟩
    rw [sequenceLength?_ofNat (by omega), if_neg (by omega), if_neg (by omega),
      if_neg (by omega), if_pos (by omega)]
    rfl

/-! ### Codes -/

/-- The byte that begins an escape sequence. -/
def escape : UInt8 := 0x1B

/-- What a keyboard sends for one key. -/
inductive KeyCode
  /-- A character from the space on, other than the one that erases. -/
  | character (c : Char) (hprintable : 0x20 ≤ c.toNat) (hdelete : c.toNat ≠ 0x7F)
  | enter (b : UInt8) (h : b = 0x0D ∨ b = 0x0A)
  | backspace (b : UInt8) (h : b = 0x7F ∨ b = 0x08)
  | tab
  | ctrlC
  | ctrlD
  /-- A control byte without a meaning. -/
  | control (b : UInt8) (hcontrol : b.toNat < 0x20)
      (hother : b ∉ [0x0D, 0x0A, 0x08, 0x09, 0x03, 0x04, escape])
  /-- An escape sequence that is opened by a bracket or a letter and goes up to its last byte. -/
  | sequence (opening : UInt8) (hopening : opening = 0x5B ∨ opening = 0x4F) (body : Bytes)
      (hbody : ∀ b ∈ body, b.toNat < 0x40 ∨ 0x7E < b.toNat) (last : UInt8)
      (hlast : 0x40 ≤ last.toNat ∧ last.toNat ≤ 0x7E)
  /-- An escape sequence of one more byte. -/
  | escaped (b : UInt8) (h : b ≠ 0x5B ∧ b ≠ 0x4F)

namespace KeyCode

/-- The bytes that are sent. -/
def bytes : KeyCode → Bytes
  | character c _ _ => String.utf8EncodeChar c
  | enter b _ => [b]
  | backspace b _ => [b]
  | tab => [0x09]
  | ctrlC => [0x03]
  | ctrlD => [0x04]
  | control b _ _ => [b]
  | sequence opening _ body _ last _ => escape :: opening :: (body ++ [last])
  | escaped b _ => [escape, b]

/-- The key that a code stands for. -/
def key : KeyCode → Key
  | character c _ _ => .char c
  | enter _ _ => .enter
  | backspace _ _ => .backspace
  | tab => .tab
  | ctrlC => .ctrlC
  | ctrlD => .ctrlD
  | control _ _ _ => .unknown
  | sequence _ _ _ _ _ _ => .unknown
  | escaped _ _ => .unknown

/-- No code stands for the end of the input. -/
theorem key_ne_eof (code : KeyCode) : code.key ≠ .eof := by
  cases code <;> exact Key.noConfusion

end KeyCode

/-! ### Reading a code -/

/-- What follows the last byte of an escape sequence is kept. -/
theorem dropSequence_append {body : Bytes} (hbody : ∀ b ∈ body, endsSequence b = false)
    {last : UInt8} (hlast : endsSequence last = true) (rest : Bytes) :
    dropSequence (body ++ last :: rest) = rest := by
  have hskip : ∀ b ∈ body, (!endsSequence b) = true := fun b hb => by rw [hbody b hb]; rfl
  rw [dropSequence, List.dropWhile_append_of_pos hskip,
    List.dropWhile_cons_of_neg (by simp [hlast]), List.drop_one, List.tail_cons]

/-- Whether a byte ends an escape sequence is a matter of its value. -/
theorem endsSequence_iff (b : UInt8) :
    endsSequence b = true ↔ 0x40 ≤ b.toNat ∧ b.toNat ≤ 0x7E := by
  simp [endsSequence, UInt8.le_iff_toNat_le]

namespace Feed

variable {feed : Feed} {b : UInt8} {rest : Bytes}

/-- A byte that is no control byte is a character, or announces one, or has no meaning. -/
theorem readKey_of_not_control (h : feed.bytes = b :: rest) (hlow : 0x20 ≤ b.toNat)
    (hdelete : b.toNat ≠ 0x7F) :
    feed.readKey =
      if b.toNat < 0x7F then (.char (Char.ofNat b.toNat), feed.withBytes rest)
      else
        match sequenceLength? b with
        | some length => (feed.withBytes rest).readCharacter b length
        | none => (.unknown, feed.withBytes rest) := by
  have hne : ∀ special : UInt8, special.toNat < 0x20 ∨ special.toNat = 0x7F → b ≠ special := by
    rintro special hspecial rfl
    omega
  have hprintable : (0x20 ≤ b ∧ b < 0x7F) ↔ b.toNat < 0x7F := by
    rw [UInt8.le_iff_toNat_le, UInt8.lt_iff_toNat_lt]
    exact and_iff_right hlow
  have henter : ¬(b = 0x0D ∨ b = 0x0A) := not_or.2 ⟨hne 0x0D (by decide), hne 0x0A (by decide)⟩
  have hback : ¬(b = 0x7F ∨ b = 0x08) := not_or.2 ⟨hne 0x7F (by decide), hne 0x08 (by decide)⟩
  simp only [readKey, h, hprintable]
  rw [if_neg henter, if_neg hback, if_neg (hne 0x09 (by decide)), if_neg (hne 0x1B (by decide)),
    if_neg (hne 0x03 (by decide))]
  exact if_neg (hne 0x04 (by decide))

/-- A control byte without a meaning is a key without a meaning. -/
theorem readKey_of_control (h : feed.bytes = b :: rest) (hcontrol : b.toNat < 0x20)
    (hother : b ∉ [0x0D, 0x0A, 0x08, 0x09, 0x03, 0x04, escape]) :
    feed.readKey = (.unknown, feed.withBytes rest) := by
  have hdelete : b ≠ 0x7F := by
    rintro rfl
    exact absurd hcontrol (by decide)
  have hprintable : ¬(0x20 ≤ b ∧ b < 0x7F) := by
    rw [UInt8.le_iff_toNat_le]
    rintro ⟨hle, -⟩
    exact absurd hcontrol (Nat.not_lt.2 hle)
  have hlength : sequenceLength? b = none := by
    rw [sequenceLength?_eq, if_pos (Nat.lt_of_lt_of_le hcontrol (by decide))]
  simp only [List.mem_cons, List.not_mem_nil, or_false, not_or, escape] at hother
  obtain ⟨hreturn, hfeed, hback, htab, hinterrupt, hend, hescape⟩ := hother
  simp only [readKey, h, hreturn, hfeed, hback, hdelete, htab, hescape, hinterrupt, hend,
    hprintable, hlength, or_self, if_false]

/-- An escape sequence is read behind the byte that begins it. -/
theorem readKey_of_escape (h : feed.bytes = escape :: rest) :
    feed.readKey = (feed.withBytes rest).readEscape := by
  simp only [readKey, h]
  rfl

/-- Whatever follows the byte that begins an escape sequence is waited for successfully. -/
theorem ready_withBytes_cons (feed : Feed) (b : UInt8) (rest : Bytes) :
    (feed.withBytes (b :: rest)).ready = true := rfl

/-- A character is read from its encoding. -/
theorem readKey_of_character {c : Char} (hprintable : 0x20 ≤ c.toNat) (hdelete : c.toNat ≠ 0x7F)
    (h : feed.bytes = String.utf8EncodeChar c ++ rest) :
    feed.readKey = (.char c, feed.withBytes rest) := by
  rcases Nat.lt_or_ge 0x7F c.toNat with hlong | hshort
  · obtain ⟨first, more, hencode, hlength⟩ := exists_utf8EncodeChar_eq_cons hlong
    have hscalar : Utf8.scalar? (first :: more) = some c := Utf8.scalar?_eq_some_iff.2 hencode.symm
    have hfirst := le_toNat_of_sequenceLength? hlength
    rw [hencode, List.cons_append] at h
    rw [readKey_of_not_control h (by omega) (by omega), if_neg (by omega), hlength]
    -- as many bytes are taken as the first one announces, and these are the encoding
    simp only [readCharacter, bytes_withBytes, Nat.add_sub_cancel, List.take_left, List.drop_left,
      List.length_cons, Nat.lt_irrefl, if_false, hscalar, Option.map_some, Option.getD_some]
    rfl
  · have hvalue : (UInt8.ofNat c.toNat).toNat = c.toNat := by
      rw [UInt8.toNat_ofNat']
      omega
    rw [utf8EncodeChar_of_le hshort, List.singleton_append] at h
    rw [readKey_of_not_control h (by omega) (by omega), hvalue, if_pos (by omega),
      Char.ofNat_toNat]

/-- **A code is read by one key, and nothing behind it is taken.** -/
theorem readKey_code (code : KeyCode) (h : feed.bytes = code.bytes ++ rest) :
    feed.readKey = (code.key, feed.withBytes rest) := by
  cases code with
  | character c hprintable hdelete => exact readKey_of_character hprintable hdelete h
  | enter b hb =>
    simp only [KeyCode.bytes, List.singleton_append] at h
    rcases hb with rfl | rfl <;> simp [readKey, h, KeyCode.key]
  | backspace b hb =>
    simp only [KeyCode.bytes, List.singleton_append] at h
    rcases hb with rfl | rfl <;> simp [readKey, h, KeyCode.key]
  | tab =>
    simp only [KeyCode.bytes, List.singleton_append] at h
    simp [readKey, h, KeyCode.key]
  | ctrlC =>
    simp only [KeyCode.bytes, List.singleton_append] at h
    simp [readKey, h, KeyCode.key]
  | ctrlD =>
    simp only [KeyCode.bytes, List.singleton_append] at h
    simp [readKey, h, KeyCode.key]
  | control b hcontrol hother => exact readKey_of_control h hcontrol hother
  | sequence opening hopening body hbody last hlast =>
    have hskip : ∀ b ∈ body, endsSequence b = false := by
      intro b hb
      rw [← Bool.not_eq_true, endsSequence_iff]
      have := hbody b hb
      omega
    simp only [KeyCode.bytes, List.cons_append, List.append_assoc, List.nil_append] at h
    rw [readKey_of_escape h]
    simp only [readEscape, ready_withBytes_cons, bytes_withBytes, hopening, if_true,
      dropSequence_append hskip ((endsSequence_iff last).2 hlast)]
    rfl
  | escaped b hb =>
    simp only [KeyCode.bytes, List.cons_append, List.nil_append] at h
    rw [readKey_of_escape h]
    simp only [readEscape, ready_withBytes_cons, bytes_withBytes, hb.1, hb.2, or_self, if_true,
      if_false]
    rfl

/-- A byte that could begin an escape sequence, and is the last one, is a key by itself. -/
theorem readKey_loneEscape (h : feed.bytes = [escape]) :
    feed.readKey = (.unknown, feed.withBytes []) := by
  rw [readKey_of_escape h]
  simp only [readEscape, bytes_withBytes, ite_self]

/-! ### Reading codes -/

/-- A key that is not the end is followed by the keys of what remains. -/
theorem takeKeys_succ_of_ne_eof {key : Key} {after : Feed} (h : feed.readKey = (key, after))
    (hkey : key ≠ .eof) (count : Nat) :
    feed.takeKeys (count + 1) = (key :: (after.takeKeys count).1, (after.takeKeys count).2) := by
  rw [takeKeys, h]
  split
  · next heq =>
    cases heq
    exact absurd rfl hkey
  · next heq =>
    cases heq
    rfl

/-- At the end of the feed the end is read, and nothing else. -/
theorem takeKeys_succ_of_bytes_eq_nil (h : feed.bytes = []) (count : Nat) :
    feed.takeKeys (count + 1) = ([.eof], feed) := by
  have hkey : feed.readKey = (.eof, feed) := by simp only [readKey, h]
  rw [takeKeys, hkey]

/-- Reading undoes sending: codes in front of other bytes are read by as many keys, and then what is
behind them is read. -/
theorem takeKeys_codes (codes : List KeyCode) :
    ∀ {feed : Feed}, feed.bytes = codes.flatMap (·.bytes) ++ rest → ∀ count : Nat,
      feed.takeKeys (codes.length + count) =
        (codes.map (·.key) ++ ((feed.withBytes rest).takeKeys count).1,
          ((feed.withBytes rest).takeKeys count).2) := by
  induction codes with
  | nil =>
    intro feed h count
    have hfeed : feed.withBytes rest = feed := congrArg feed.withBytes h.symm
    rw [List.length_nil, Nat.zero_add, hfeed]
    rfl
  | cons code codes ih =>
    intro feed h count
    rw [List.flatMap_cons, List.append_assoc] at h
    have hcode := readKey_code code h
    have hcount : (code :: codes).length + count = codes.length + count + 1 := by
      rw [List.length_cons]
      omega
    rw [hcount, takeKeys_succ_of_ne_eof hcode code.key_ne_eof,
      ih (bytes_withBytes feed (codes.flatMap (·.bytes) ++ rest)) count]
    rfl

end Feed

end LineShell
