import LineShell.Proofs.Input.KeyCodes
import Mathlib.Tactic.ByContra

/-!
# What each key takes

Whatever bytes come in, the keys that are read divide them among themselves: each key takes at least
one byte, none is left out and none is taken twice.  A key with a meaning is read from its spelling
and from nothing else; bytes that spell no key are read as keys without a meaning.

## Main definitions

* `Key.Spelled` — the bytes that spell a key.
* `Feed.Reading` — what one key can take and leave.
* `Keystroke.IsFaithful` — a key that is the one which its bytes spell, if they spell any.

## Main results

* `Feed.reading_readKey` — every key that is read is one of these readings.
* `Feed.isFaithful_readKey` — a key is read from its spelling, and from nothing else.
* `Feed.takeKeys_chunks` — **the keys divide the bytes, and each is the one that its bytes spell.**
-/

namespace LineShell

/-- The bytes that spell a key with a meaning. -/
inductive Key.Spelled : Key → Bytes → Prop
  /-- A character that is no control character, in UTF-8. -/
  | character {c : Char} (hprintable : 0x20 ≤ c.toNat) (hdelete : c.toNat ≠ 0x7F) :
      Spelled (.char c) (String.utf8EncodeChar c)
  | carriageReturn : Spelled .enter [0x0D]
  | lineFeed : Spelled .enter [0x0A]
  | delete : Spelled .backspace [0x7F]
  | backspace : Spelled .backspace [0x08]
  | tab : Spelled .tab [0x09]
  | ctrlC : Spelled .ctrlC [0x03]
  | ctrlD : Spelled .ctrlD [0x04]

namespace Key.Spelled

variable {key : Key} {bytes : Bytes}

/-- What spells a key is what a keyboard sends for it. -/
theorem exists_code (h : key.Spelled bytes) :
    ∃ code : KeyCode, code.bytes = bytes ∧ code.key = key := by
  cases h with
  | character hprintable hdelete => exact ⟨.character _ hprintable hdelete, rfl, rfl⟩
  | carriageReturn => exact ⟨.enter 0x0D (.inl rfl), rfl, rfl⟩
  | lineFeed => exact ⟨.enter 0x0A (.inr rfl), rfl, rfl⟩
  | delete => exact ⟨.backspace 0x7F (.inl rfl), rfl, rfl⟩
  | backspace => exact ⟨.backspace 0x08 (.inr rfl), rfl, rfl⟩
  | tab => exact ⟨.tab, rfl, rfl⟩
  | ctrlC => exact ⟨.ctrlC, rfl, rfl⟩
  | ctrlD => exact ⟨.ctrlD, rfl, rfl⟩

theorem ne_unknown (h : key.Spelled bytes) : key ≠ .unknown := by
  cases h <;> exact Key.noConfusion

theorem ne_eof (h : key.Spelled bytes) : key ≠ .eof := by
  cases h <;> exact Key.noConfusion

/-- A byte that spells a key is one of seven bits, and a control byte only if it is one of these. -/
theorem toNat_le {b : UInt8} (h : key.Spelled [b]) :
    b.toNat ≤ 0x7F ∧ (b.toNat < 0x20 → b ∈ [0x0D, 0x0A, 0x08, 0x09, 0x03, 0x04]) := by
  generalize hbytes : [b] = bytes at h
  cases h with
  | @character c hprintable hdelete =>
    rcases Nat.lt_or_ge 0x7F c.toNat with hlong | hshort
    · obtain ⟨first, more, hencode, hlength⟩ := exists_utf8EncodeChar_eq_cons hlong
      rw [hencode] at hbytes
      obtain ⟨rfl, rfl⟩ := List.cons.inj hbytes
      -- no byte announces that it is the only one
      rw [sequenceLength?_eq] at hlength
      revert hlength
      repeat' split
      all_goals exact nofun
    · rw [utf8EncodeChar_of_le hshort] at hbytes
      obtain ⟨rfl, -⟩ := List.cons.inj hbytes
      rw [UInt8.toNat_ofNat']
      omega
  | _ =>
    obtain ⟨rfl, -⟩ := List.cons.inj hbytes
    decide

end Key.Spelled

/-- Every byte is the number of a character. -/
theorem toNat_ofNat_toNat (b : UInt8) : (Char.ofNat b.toNat).toNat = b.toNat := by
  revert b
  exact forall_byte (by decide +kernel)

namespace Feed

variable {feed : Feed} {b : UInt8} {rest : Bytes}

/-! ### One key -/

/-- A key is read from its spelling, whatever comes behind it. -/
theorem readKey_of_spelled {key : Key} {bytes : Bytes} (h : key.Spelled bytes)
    (hfeed : feed.bytes = bytes ++ rest) : feed.readKey = (key, feed.withBytes rest) := by
  obtain ⟨code, rfl, rfl⟩ := h.exists_code
  exact readKey_code code hfeed

/-- What one key can take and leave, in front of it this byte and the rest. -/
inductive Reading (feed : Feed) (b : UInt8) (rest : Bytes) : Key × Feed → Prop
  /-- The byte spells a key. -/
  | single {key : Key} (h : key.Spelled [b]) : Reading feed b rest (key, feed.withBytes rest)
  /-- The byte begins an escape sequence. -/
  | escaped (h : b = escape) {rest' : Bytes} (hsuffix : rest' <:+ rest) :
      Reading feed b rest (.unknown, feed.withBytes rest')
  /-- The byte announces several bytes. -/
  | announced {length : Nat} (h : sequenceLength? b = some length) :
      Reading feed b rest ((feed.withBytes rest).readCharacter b length)
  /-- The byte has no meaning. -/
  | meaningless (hescape : b ≠ escape) (hspelled : ∀ key : Key, ¬key.Spelled [b])
      (hlength : sequenceLength? b = none) : Reading feed b rest (.unknown, feed.withBytes rest)

/-- An escape sequence ends somewhere in front of the rest. -/
theorem exists_readEscape_eq (feed : Feed) :
    ∃ rest, rest <:+ feed.bytes ∧ feed.readEscape = (.unknown, feed.withBytes rest) := by
  unfold readEscape
  split
  · split
    · exact ⟨feed.bytes, List.suffix_refl _, rfl⟩
    · next b rest heq =>
      rw [heq]
      split
      · exact ⟨dropSequence rest, (dropSequence_suffix rest).trans (List.suffix_cons b rest), rfl⟩
      · exact ⟨rest, List.suffix_cons b rest, rfl⟩
  · exact ⟨feed.bytes, List.suffix_refl _, rfl⟩

/-- **Every key that is read is one of these readings.** -/
theorem reading_readKey (h : feed.bytes = b :: rest) : feed.Reading b rest feed.readKey := by
  have hsingle : ∀ {key : Key}, key.Spelled [b] → feed.Reading b rest feed.readKey := by
    intro key hkey
    rw [readKey_of_spelled hkey h]
    exact .single hkey
  by_cases hcontrol : b.toNat < 0x20
  · by_cases hother : b ∉ [0x0D, 0x0A, 0x08, 0x09, 0x03, 0x04, escape]
    · have hspelled : ∀ key : Key, ¬key.Spelled [b] := by
        intro key hkey
        exact hother (List.mem_append_left [escape] (hkey.toNat_le.2 hcontrol))
      have hlength : sequenceLength? b = none := by
        rw [sequenceLength?_eq, if_pos (Nat.lt_of_lt_of_le hcontrol (by decide))]
      have hescape : b ≠ escape := by
        rintro rfl
        exact hother (by decide)
      rw [readKey_of_control h hcontrol hother]
      exact .meaningless hescape hspelled hlength
    · rw [Decidable.not_not] at hother
      simp only [List.mem_cons, List.not_mem_nil, or_false] at hother
      rcases hother with rfl | rfl | rfl | rfl | rfl | rfl | rfl
      · exact hsingle .carriageReturn
      · exact hsingle .lineFeed
      · exact hsingle .backspace
      · exact hsingle .tab
      · exact hsingle .ctrlC
      · exact hsingle .ctrlD
      · obtain ⟨rest', hsuffix, hread⟩ := (feed.withBytes rest).exists_readEscape_eq
        rw [readKey_of_escape h, hread]
        exact .escaped rfl hsuffix
  · by_cases hdelete : b.toNat = 0x7F
    · obtain rfl : b = 0x7F := UInt8.toNat_inj.1 hdelete
      exact hsingle .delete
    · rw [readKey_of_not_control h (Nat.le_of_not_lt hcontrol) hdelete]
      split
      · next hprintable =>
        -- a byte of seven bits is the encoding of the character with its number
        have hvalue := toNat_ofNat_toNat b
        have hencode : String.utf8EncodeChar (Char.ofNat b.toNat) = [b] := by
          rw [utf8EncodeChar_of_le (by omega), hvalue, UInt8.ofNat_toNat]
        have hkey : (Key.char (Char.ofNat b.toNat)).Spelled [b] :=
          hencode ▸ .character (by omega) (by omega)
        exact .single hkey
      · next hlong =>
        cases hlength : sequenceLength? b with
        | some length => exact .announced hlength
        | none =>
          refine .meaningless ?_ ?_ hlength
          · rintro rfl
            exact hlong (by decide)
          · intro key hkey
            have := hkey.toNat_le.1
            omega

/-- A key takes what stands in front of what it leaves. -/
theorem keyBytes_eq {taken : Bytes} (h : feed.bytes = taken ++ feed.readKey.2.bytes) :
    feed.keyBytes = taken :=
  List.append_cancel_right (feed.keyBytes_append.trans h)

/-- A character of several bytes is read from its encoding only. -/
theorem spelled_readCharacter {length : Nat} (hlength : sequenceLength? b = some length)
    (hkey : (feed.readCharacter b length).1 ≠ .unknown) :
    (feed.readCharacter b length).1.Spelled (b :: feed.bytes.take (length - 1)) := by
  simp only [readCharacter] at hkey ⊢
  split at hkey
  · exact absurd rfl hkey
  · next hcomplete =>
    rw [if_neg hcomplete]
    cases hscalar : Utf8.scalar? (b :: feed.bytes.take (length - 1)) with
    | none =>
      rw [hscalar] at hkey
      exact absurd rfl hkey
    | some c =>
      rw [Utf8.scalar?_eq_some_iff] at hscalar
      have hfirst := le_toNat_of_sequenceLength? hlength
      have hlong : 0x7F < c.toNat := by
        by_contra hshort
        rw [utf8EncodeChar_of_le (Nat.le_of_not_lt hshort)] at hscalar
        rw [(List.cons.inj hscalar).1, UInt8.toNat_ofNat'] at hfirst
        omega
      rw [hscalar]
      exact .character (by omega) (by omega)

/-- A key that has a meaning is spelled by the bytes that it takes. -/
theorem spelled_keyBytes (h : feed.bytes ≠ []) (hkey : feed.readKey.1 ≠ .unknown) :
    feed.readKey.1.Spelled feed.keyBytes := by
  obtain ⟨b, rest, hbytes⟩ := List.exists_cons_of_ne_nil h
  have hreading := reading_readKey hbytes
  have htaken : ∀ taken, feed.bytes = taken ++ feed.readKey.2.bytes → feed.keyBytes = taken :=
    fun taken => keyBytes_eq
  generalize feed.readKey = read at hreading hkey htaken ⊢
  rw [hbytes] at htaken
  cases hreading with
  | single hspelled =>
    rw [htaken [b] rfl]
    exact hspelled
  | escaped => exact absurd rfl hkey
  | @announced length hlength =>
    have hchunk : b :: rest = (b :: rest.take (length - 1)) ++ rest.drop (length - 1) := by
      rw [List.cons_append, List.take_append_drop]
    rw [htaken _ hchunk]
    exact spelled_readCharacter hlength hkey
  | meaningless => exact absurd rfl hkey

/-- The end is read where no byte is left, and nowhere else. -/
theorem readKey_eq_eof_iff : feed.readKey.1 = .eof ↔ feed.bytes = [] := by
  constructor
  · intro hkey
    by_contra h
    have hspelled := spelled_keyBytes h (by rw [hkey]; exact Key.noConfusion)
    exact hspelled.ne_eof hkey
  · intro h
    simp only [readKey, h]

end Feed

/-- A keystroke that takes some bytes, and has the key that they spell; it has no meaning if they
spell no key. -/
structure Keystroke.IsFaithful (s : Keystroke) : Prop where
  bytes_ne_nil : s.bytes ≠ []
  key_eq_iff (key : Key) : key ≠ .unknown → (s.key = key ↔ key.Spelled s.bytes)
  unknown_iff : s.key = .unknown ↔ ∀ key : Key, ¬key.Spelled s.bytes

/-- **A key is read from its spelling, and from nothing else.** -/
theorem Feed.isFaithful_readKey {feed : Feed} (h : feed.bytes ≠ []) :
    (⟨feed.readKey.1, feed.keyBytes⟩ : Keystroke).IsFaithful := by
  have hof : ∀ key : Key, key.Spelled feed.keyBytes → feed.readKey.1 = key := fun key hkey =>
    congrArg Prod.fst (readKey_of_spelled hkey feed.keyBytes_append.symm)
  refine ⟨?_, fun key hne => ⟨?_, hof key⟩, fun hunknown key hkey => ?_, fun hnone => ?_⟩
  · intro hnil
    have happend := feed.keyBytes_append
    have hlt := length_bytes_readKey_lt h
    simp only at hnil
    rw [hnil, List.nil_append] at happend
    rw [happend] at hlt
    exact Nat.lt_irrefl _ hlt
  · rintro rfl
    exact spelled_keyBytes h hne
  · exact hkey.ne_unknown ((hof key hkey).symm.trans hunknown)
  · by_contra hne
    exact hnone _ (spelled_keyBytes h hne)

/-! ### All keys -/

/-- **The keys divide the bytes, and each is the one that its bytes spell.**  Whatever bytes a feed
has, reading keys up to the end divides them into chunks that are not empty, so that there are no
more keys than bytes: after any number of keys exactly the chunks behind them are left, the end is
read when no byte is left and not before, and every other key is the one that its chunk spells, or
has no meaning if the chunk spells no key. -/
theorem Feed.takeKeys_chunks (feed : Feed) :
    ∃ strokes : List Keystroke,
      strokes.flatMap (·.bytes) = feed.bytes ∧ strokes.length ≤ feed.bytes.length ∧
      (∀ s ∈ strokes, s.IsFaithful) ∧
      (∀ before after, strokes = before ++ after →
        let rest := feed.withBytes (after.flatMap (·.bytes))
        feed.takeKeys before.length = (before.map (·.key), rest) ∧
          (rest.readKey.1 = .eof ↔ after = [])) ∧
      feed.takeKeys (strokes.length + 1) = (strokes.map (·.key) ++ [.eof], feed.withBytes []) := by
  fun_induction keystrokes feed with
  | case1 feed h =>
    have hfeed : feed.withBytes [] = feed := congrArg feed.withBytes h.symm
    refine ⟨[], h.symm, Nat.zero_le _, fun s hs => absurd hs List.not_mem_nil, ?_, ?_⟩
    · intro before after heq
      obtain ⟨rfl, rfl⟩ := List.append_eq_nil_iff.1 heq.symm
      exact ⟨congrArg (Prod.mk []) hfeed.symm, iff_of_true (readKey_eq_eof_iff.2 rfl) rfl⟩
    · rw [hfeed]
      exact takeKeys_succ_of_bytes_eq_nil h 0
  | case2 feed h ih =>
    obtain ⟨strokes, hbytes, hlength, hfaithful, hsplit, hend⟩ := ih
    have hne : feed.readKey.1 ≠ .eof := fun hkey => h (readKey_eq_eof_iff.1 hkey)
    have hread : feed.readKey = (feed.readKey.1, feed.readKey.2) := rfl
    have hnext := takeKeys_succ_of_ne_eof hread hne
    have hwith : ∀ bytes, feed.readKey.2.withBytes bytes = feed.withBytes bytes := by
      obtain ⟨rest, -, heq⟩ := feed.exists_readKey_eq
      intro bytes
      rw [heq]
      rfl
    simp only [hwith] at hsplit hend
    have hall : ((⟨feed.readKey.1, feed.keyBytes⟩ : Keystroke) :: strokes).flatMap (·.bytes) =
        feed.bytes := by
      rw [List.flatMap_cons, hbytes, feed.keyBytes_append]
    refine ⟨⟨feed.readKey.1, feed.keyBytes⟩ :: strokes, hall, ?_, ?_, ?_, ?_⟩
    · have hlt := length_bytes_readKey_lt h
      rw [List.length_cons]
      omega
    · exact List.forall_mem_cons.2 ⟨isFaithful_readKey h, hfaithful⟩
    · intro before after heq
      cases before with
      | nil =>
        rw [List.nil_append] at heq
        have hfeed : feed.withBytes (after.flatMap (·.bytes)) = feed := by
          rw [← heq, hall]
          rfl
        rw [hfeed]
        exact ⟨rfl, iff_of_false hne (heq ▸ List.cons_ne_nil _ _)⟩
      | cons s before =>
        obtain ⟨rfl, hrest⟩ := List.cons.inj heq
        obtain ⟨htake, heof⟩ := hsplit before after hrest
        refine ⟨?_, heof⟩
        rw [List.length_cons, hnext, htake]
        rfl
    · rw [List.length_cons, hnext, hend]
      rfl

end LineShell
