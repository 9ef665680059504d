import LineShell.Proofs.Input.Chunks

/-!
# Control keys among malformed text

The first byte of a character announces how many bytes it has, and that many are taken, whatever
they are.  In well-formed text these are the bytes of the character.  In malformed text there can be
control bytes among them, such as the one that ends the line, and the keys that these would have
been are lost.

## Main definitions

* `followers` — the bytes that are taken because a byte in front of them has announced them.
* `controlBytes` — the keys that are no characters, and the bytes for them.
* `Feed.KeepsControlKeys` — each byte of a key that ends or discards a line is read as that key.

## Main results

* `Feed.count_keys` — how many keys of a kind are read, and how many are lost.
* `Feed.keepsControlKeys_iff` — none is lost exactly if none has been announced.
* `Feed.keepsControlKeys_ofText` — **well-formed text loses no control key.**
* `Feed.lost_control_keys` — **which inputs lose none, and how many the others lose.**
-/

namespace LineShell

/-- The bytes that are taken because a byte in front of them has announced them; so many have been
announced and not been met. -/
def followers : Nat → Bytes → Bytes
  | _, [] => []
  | 0, b :: rest => followers ((sequenceLength? b).getD 1 - 1) rest
  | awaited + 1, b :: rest => b :: followers awaited rest

theorem followers_cons_of_none {b : UInt8} (h : sequenceLength? b = none) (rest : Bytes) :
    followers 0 (b :: rest) = followers 0 rest := by
  rw [followers, h]
  rfl

theorem followers_cons_of_some {b : UInt8} {length : Nat} (h : sequenceLength? b = some length)
    (rest : Bytes) : followers 0 (b :: rest) = followers (length - 1) rest := by
  rw [followers, h]
  rfl

/-- What has been announced is taken, and then the next byte may announce more. -/
theorem followers_eq_take_append (awaited : Nat) : ∀ bytes : Bytes,
    followers awaited bytes = bytes.take awaited ++ followers 0 (bytes.drop awaited) := by
  induction awaited with
  | zero => exact fun bytes => rfl
  | succ awaited ih =>
    intro bytes
    cases bytes with
    | nil => rfl
    | cons b rest => rw [followers, ih, List.take_succ_cons, List.drop_succ_cons, List.cons_append]

/-- A byte that spells a key announces no other ones. -/
theorem Key.Spelled.sequenceLength?_eq_none {key : Key} {b : UInt8} (h : key.Spelled [b]) :
    sequenceLength? b = none := by
  rw [sequenceLength?_eq, if_pos (Nat.lt_of_le_of_lt h.toNat_le.1 (by decide))]

/-- Bytes spell one key at most. -/
theorem Key.Spelled.unique {key key' : Key} {bytes : Bytes} (h : key.Spelled bytes)
    (h' : key'.Spelled bytes) : key = key' := by
  have hfeed : (⟨bytes, true⟩ : Feed).bytes = bytes ++ [] := (List.append_nil bytes).symm
  have hread := (Feed.readKey_of_spelled h hfeed).symm.trans (Feed.readKey_of_spelled h' hfeed)
  exact congrArg Prod.fst hread

namespace Feed

/-! ### Keys of one kind -/

/-- Behind a byte that announces several, a character is read or nothing with a meaning. -/
theorem readCharacter_fst (feed : Feed) (first : UInt8) (length : Nat) :
    (feed.readCharacter first length).1 = .unknown ∨
      ∃ c, (feed.readCharacter first length).1 = .char c := by
  simp only [readCharacter]
  split
  · exact .inl rfl
  · cases Utf8.scalar? (first :: feed.bytes.take (length - 1)) with
    | none => exact .inl rfl
    | some c => exact .inr ⟨c, rfl⟩

/-- How many keys of a kind are read, and how many are lost: of the bytes that spell the key, those
that have not been announced by a byte in front of them are read as the key, and no others. -/
theorem count_keys {key : Key} {p : UInt8 → Bool} (hp : ∀ b, p b = true ↔ key.Spelled [b])
    (hchar : ∀ c, key ≠ .char c) (hunknown : key ≠ .unknown) (heof : key ≠ .eof) (feed : Feed)
    (hescape : escape ∉ feed.bytes) :
    feed.keys.count key + (followers 0 feed.bytes).countP p = feed.bytes.countP p := by
  fun_induction keys feed with
  | case1 feed h =>
    rw [h, List.count_singleton, beq_false_of_ne heof.symm]
    rfl
  | case2 feed h ih =>
    obtain ⟨b, rest, hbytes⟩ := List.exists_cons_of_ne_nil h
    have hreading := reading_readKey hbytes
    have hrest := ih fun hmem => hescape (feed.suffix_bytes_readKey.subset hmem)
    generalize feed.readKey = read at hreading hrest ⊢
    rw [hbytes] at hescape ⊢
    rw [List.count_cons, List.countP_cons]
    cases hreading with
    | @single key' hspelled =>
      rw [followers_cons_of_none hspelled.sequenceLength?_eq_none]
      have hsame : p b = (key' == key) := by
        rw [Bool.eq_iff_iff, hp, beq_iff_eq]
        exact ⟨hspelled.unique, fun heq => heq ▸ hspelled⟩
      simp only [bytes_withBytes, hsame] at hrest ⊢
      omega
    | escaped hb => exact absurd (hb ▸ List.mem_cons_self) hescape
    | @announced length hlength =>
      have hother : ((feed.withBytes rest).readCharacter b length).1 ≠ key := by
        rcases (feed.withBytes rest).readCharacter_fst b length with hread | ⟨c, hread⟩
        · exact fun heq => hunknown (heq.symm.trans hread)
        · exact fun heq => hchar c (heq.symm.trans hread)
      have hfirst : p b = false := by
        rw [← Bool.not_eq_true, hp]
        intro hspelled
        rw [hspelled.sequenceLength?_eq_none] at hlength
        cases hlength
      -- what has been announced is taken with its first byte, and none of it is read by itself
      rw [followers_cons_of_some hlength, followers_eq_take_append, List.countP_append]
      have hdivided := congrArg (List.countP p) (List.take_append_drop (length - 1) rest)
      rw [List.countP_append] at hdivided
      simp only [readCharacter, bytes_withBytes] at hrest hother ⊢
      simp only [beq_false_of_ne hother, hfirst, Bool.false_eq_true, if_false]
      omega
    | meaningless _ hspelled hlength =>
      have hfirst : p b = false := by
        rw [← Bool.not_eq_true, hp]
        exact hspelled key
      rw [followers_cons_of_none hlength]
      simp only [bytes_withBytes, beq_false_of_ne hunknown.symm, hfirst, Bool.false_eq_true,
        if_false] at hrest ⊢
      omega

end Feed

/-! ### Keys that end or discard a line -/

/-- The keys that are no characters, each with a byte for it. -/
def controlBytes : List (Key × UInt8) :=
  [(.enter, 0x0D), (.enter, 0x0A), (.backspace, 0x7F), (.backspace, 0x08), (.tab, 0x09),
    (.ctrlC, 0x03), (.ctrlD, 0x04)]

/-- A key that is no character is spelled by the bytes for it. -/
theorem Key.spelled_singleton_iff {key : Key} (hchar : ∀ c, key ≠ .char c) (b : UInt8) :
    key.Spelled [b] ↔ (key, b) ∈ controlBytes := by
  constructor
  · generalize hbytes : [b] = bytes
    intro h
    cases h with
    | character => exact absurd rfl (hchar _)
    | _ =>
      obtain ⟨rfl, -⟩ := List.cons.inj hbytes
      decide
  · simp only [controlBytes, List.mem_cons, Prod.mk.injEq, List.not_mem_nil, or_false]
    rintro (⟨rfl, rfl⟩ | ⟨rfl, rfl⟩ | ⟨rfl, rfl⟩ | ⟨rfl, rfl⟩ | ⟨rfl, rfl⟩ | ⟨rfl, rfl⟩ |
      ⟨rfl, rfl⟩)
    · exact .carriageReturn
    · exact .lineFeed
    · exact .delete
    · exact .backspace
    · exact .tab
    · exact .ctrlC
    · exact .ctrlD

/-- Whether a byte ends a line. -/
def endsLine (b : UInt8) : Bool :=
  b == 0x0D || b == 0x0A

theorem Key.spelled_enter_iff (b : UInt8) : Key.enter.Spelled [b] ↔ endsLine b = true := by
  rw [spelled_singleton_iff (fun _ => Key.noConfusion)]
  simp [controlBytes, endsLine]

theorem Key.spelled_ctrlC_iff (b : UInt8) : Key.ctrlC.Spelled [b] ↔ b = 0x03 := by
  rw [spelled_singleton_iff (fun _ => Key.noConfusion)]
  simp [controlBytes]

theorem Key.spelled_ctrlD_iff (b : UInt8) : Key.ctrlD.Spelled [b] ↔ b = 0x04 := by
  rw [spelled_singleton_iff (fun _ => Key.noConfusion)]
  simp [controlBytes]

namespace Feed

/-- As many lines are ended as there are bytes that end one, and as many interruptions and ends of
the input are read as there are bytes for them. -/
def KeepsControlKeys (feed : Feed) : Prop :=
  feed.keys.count .enter = feed.bytes.countP endsLine ∧
    feed.keys.count .ctrlC = feed.bytes.count 0x03 ∧
    feed.keys.count .ctrlD = feed.bytes.count 0x04

theorem count_enter (feed : Feed) (hescape : escape ∉ feed.bytes) :
    feed.keys.count .enter + (followers 0 feed.bytes).countP endsLine =
      feed.bytes.countP endsLine :=
  count_keys (fun b => (Key.spelled_enter_iff b).symm) (fun _ => Key.noConfusion) Key.noConfusion
    Key.noConfusion feed hescape

theorem count_ctrlC (feed : Feed) (hescape : escape ∉ feed.bytes) :
    feed.keys.count .ctrlC + (followers 0 feed.bytes).count 0x03 = feed.bytes.count 0x03 :=
  count_keys (fun b => beq_iff_eq.trans (Key.spelled_ctrlC_iff b).symm) (fun _ => Key.noConfusion)
    Key.noConfusion Key.noConfusion feed hescape

theorem count_ctrlD (feed : Feed) (hescape : escape ∉ feed.bytes) :
    feed.keys.count .ctrlD + (followers 0 feed.bytes).count 0x04 = feed.bytes.count 0x04 :=
  count_keys (fun b => beq_iff_eq.trans (Key.spelled_ctrlD_iff b).symm) (fun _ => Key.noConfusion)
    Key.noConfusion Key.noConfusion feed hescape

/-- Nothing is lost exactly if no byte for such a key has been announced by one in front of it. -/
theorem keepsControlKeys_iff (feed : Feed) (hescape : escape ∉ feed.bytes) :
    feed.KeepsControlKeys ↔
      ∀ b ∈ followers 0 feed.bytes, endsLine b = false ∧ b ≠ 0x03 ∧ b ≠ 0x04 := by
  have hnone : feed.KeepsControlKeys ↔ (followers 0 feed.bytes).countP endsLine = 0 ∧
      (followers 0 feed.bytes).count 0x03 = 0 ∧ (followers 0 feed.bytes).count 0x04 = 0 := by
    have henter := feed.count_enter hescape
    have hctrlC := feed.count_ctrlC hescape
    have hctrlD := feed.count_ctrlD hescape
    simp only [KeepsControlKeys]
    omega
  rw [hnone, List.countP_eq_zero, List.count_eq_zero, List.count_eq_zero]
  constructor
  · rintro ⟨hends, hthree, hfour⟩ b hb
    exact ⟨Bool.eq_false_iff.2 (hends b hb), ne_of_mem_of_not_mem hb hthree,
      ne_of_mem_of_not_mem hb hfour⟩
  · intro h
    exact ⟨fun b hb => Bool.eq_false_iff.1 (h b hb).1, fun hb => (h _ hb).2.1 rfl,
      fun hb => (h _ hb).2.2 rfl⟩

end Feed

/-! ### Well-formed text -/

/-- All bytes of an encoding but the first are beyond the seven-bit ones. -/
theorem le_toNat_of_mem_tail {c : Char} {b : UInt8} (h : b ∈ (String.utf8EncodeChar c).tail) :
    0x80 ≤ b.toNat := by
  unfold String.utf8EncodeChar at h
  simp only at h
  repeat' split at h
  all_goals
    simp only [List.tail_cons, List.mem_cons, List.not_mem_nil, or_false] at h
  · rw [h, UInt8.toNat_ofNat']
    omega
  · rcases h with rfl | rfl <;> rw [UInt8.toNat_ofNat'] <;> omega
  · rcases h with rfl | rfl | rfl <;> rw [UInt8.toNat_ofNat'] <;> omega

/-- What is taken with the first byte of a character is the rest of its encoding. -/
theorem followers_utf8EncodeChar_append (c : Char) (rest : Bytes) :
    followers 0 (String.utf8EncodeChar c ++ rest) =
      (String.utf8EncodeChar c).tail ++ followers 0 rest := by
  rcases Nat.lt_or_ge 0x7F c.toNat with hlong | hshort
  · obtain ⟨first, more, hencode, hlength⟩ := exists_utf8EncodeChar_eq_cons hlong
    rw [hencode, List.cons_append, followers_cons_of_some hlength, Nat.add_sub_cancel,
      followers_eq_take_append, List.take_left, List.drop_left, List.tail_cons]
  · have hnone : sequenceLength? (UInt8.ofNat c.toNat) = none := by
      rw [sequenceLength?_ofNat (by omega), if_pos (by omega)]
    rw [utf8EncodeChar_of_le hshort, List.singleton_append, followers_cons_of_none hnone]
    rfl

/-- **Well-formed text loses no control key.** -/
theorem Feed.keepsControlKeys_ofText {text : List Char} {feed : Feed}
    (hbytes : feed.bytes = Bytes.ofText text) (hescape : escape ∉ feed.bytes) :
    feed.KeepsControlKeys := by
  have hfollowers : ∀ b ∈ followers 0 (Bytes.ofText text), 0x80 ≤ b.toNat := by
    clear hbytes
    induction text with
    | nil => exact fun b hb => absurd hb List.not_mem_nil
    | cons c text ih =>
      intro b hb
      rw [Bytes.ofText, List.flatMap_cons, followers_utf8EncodeChar_append] at hb
      rcases List.mem_append.1 hb with hb | hb
      · exact le_toNat_of_mem_tail hb
      · exact ih b hb
  rw [keepsControlKeys_iff feed hescape, hbytes]
  intro b hb
  have hlarge := hfollowers b hb
  have hne : ∀ small : UInt8, small.toNat < 0x80 → b ≠ small := by
    rintro small hsmall rfl
    omega
  refine ⟨?_, hne 0x03 (by decide), hne 0x04 (by decide)⟩
  rw [endsLine, beq_false_of_ne (hne 0x0D (by decide)), beq_false_of_ne (hne 0x0A (by decide))]
  rfl

/-! ### Any bytes -/

/-- **Which inputs lose no key that ends or discards a line, and how many the others lose.**
Without escape sequences, a byte for such a key is read as that key unless it stands behind a byte
that announces several, within the number of bytes that this one announces.  All others are read,
and so none is lost of well-formed text. -/
theorem Feed.lost_control_keys (feed : Feed) (hescape : escape ∉ feed.bytes) :
    let lost := followers 0 feed.bytes
    (feed.KeepsControlKeys ↔ ∀ b ∈ lost, endsLine b = false ∧ b ≠ 0x03 ∧ b ≠ 0x04) ∧
      feed.keys.count .enter + lost.countP endsLine = feed.bytes.countP endsLine ∧
      feed.keys.count .ctrlC + lost.count 0x03 = feed.bytes.count 0x03 ∧
      feed.keys.count .ctrlD + lost.count 0x04 = feed.bytes.count 0x04 ∧
      ∀ text, feed.bytes = Bytes.ofText text → feed.KeepsControlKeys := by
  intro lost
  exact ⟨feed.keepsControlKeys_iff hescape, feed.count_enter hescape, feed.count_ctrlC hescape,
    feed.count_ctrlD hescape, fun text hbytes => keepsControlKeys_ofText hbytes hescape⟩

/-- Where a letter of an older encoding is followed by enough others, only these are lost. -/
theorem Feed.lost_control_keys_latinWord :
    escape ∉ (⟨[0xF0, 0x61, 0x62, 0x63, 0x0D, 0x03], true⟩ : Feed).bytes ∧
      (⟨[0xF0, 0x61, 0x62, 0x63, 0x0D, 0x03], true⟩ : Feed).KeepsControlKeys := by
  have hescape : escape ∉ (⟨[0xF0, 0x61, 0x62, 0x63, 0x0D, 0x03], true⟩ : Feed).bytes := by decide
  exact ⟨hescape, (lost_control_keys _ hescape).1.2 (by decide +kernel)⟩

/-- A letter of an older encoding announces three more bytes, and takes the end of the line, the
interruption and the end of the input behind it. -/
theorem Feed.not_keepsControlKeys_latin :
    escape ∉ (⟨[0xF0, 0x0D, 0x03, 0x04], false⟩ : Feed).bytes ∧
      (⟨[0xF0, 0x0D, 0x03, 0x04], false⟩ : Feed).keys = [.unknown, .eof] ∧
      ¬(⟨[0xF0, 0x0D, 0x03, 0x04], false⟩ : Feed).KeepsControlKeys := by
  have hkeys : (⟨[0xF0, 0x0D, 0x03, 0x04], false⟩ : Feed).keys = [.unknown, .eof] := by
    decide +kernel
  refine ⟨by decide, hkeys, ?_⟩
  rintro ⟨henter, -⟩
  rw [hkeys] at henter
  exact absurd henter (by decide)

end LineShell
