import LineShell.Proofs.Input.KeyCodes

/-!
# Sources of bytes

Keys are read from whatever delivers bytes one at a time and can be waited for: a text in memory, a
pipe, a terminal.  A reader that only asks such a source for the next byte, or whether there is one
in time, reads the same keys from every source that delivers the same bytes, whatever the source
says when it is waited for at its end.

## Main definitions

* `ByteSource` — what delivers bytes one at a time, and what is asked of it.
* `ByteSource.readKey`, `ByteSource.takeKeys` — reading keys from a source, byte by byte.
* `KeyCode.sent`, `KeyCode.received` — codes one after the other, and the keys they stand for.

## Main results

* `ByteSource.readKey_agrees` — **a source is read like the feed of its bytes.**
* `ByteSource.keys_of_codes` — **reading undoes sending, from every source.**
-/

namespace LineShell

/-- What delivers bytes one at a time.  Either question may change it. -/
class ByteSource (σ : Type) where
  /-- The bytes that are still to come. -/
  remaining : σ → Bytes
  /-- The next byte, or `none` at the end. -/
  next : σ → Option UInt8 × σ
  /-- Whether a wait of fifty milliseconds ends with something to read. -/
  ready : σ → Bool × σ
  next_fst (s : σ) : (next s).1 = (remaining s).head?
  remaining_next (s : σ) : remaining (next s).2 = (remaining s).tail
  remaining_ready (s : σ) : remaining (ready s).2 = remaining s
  /-- At the end a source may say anything, but not while bytes remain. -/
  ready_of_ne_nil (s : σ) : remaining s ≠ [] → (ready s).1 = true

/-- A feed delivers its bytes. -/
instance : ByteSource Feed where
  remaining feed := feed.bytes
  next feed := (feed.bytes.head?, feed.withBytes feed.bytes.tail)
  ready feed := (feed.ready, feed)
  next_fst _ := rfl
  remaining_next _ := rfl
  remaining_ready _ := rfl
  ready_of_ne_nil feed h := by simp [Feed.ready, h]

namespace ByteSource

variable {σ : Type} [ByteSource σ]

theorem remaining_eq_cons {s after : σ} {b : UInt8} (h : next s = (some b, after)) :
    remaining s = b :: remaining after := by
  have hhead := next_fst s
  have htail := remaining_next s
  rw [h] at hhead htail
  cases hremaining : remaining s with
  | nil =>
    rw [hremaining] at hhead
    cases hhead
  | cons c rest =>
    rw [hremaining] at hhead htail
    cases hhead
    rw [htail, List.tail_cons]

theorem remaining_eq_nil {s after : σ} (h : next s = (none, after)) :
    remaining s = [] ∧ remaining after = [] := by
  have hhead := next_fst s
  have htail := remaining_next s
  rw [h] at hhead htail
  have hnil : remaining s = [] := List.head?_eq_none_iff.1 hhead.symm
  rw [hnil] at htail
  exact ⟨hnil, htail⟩

/-! ### Reading byte by byte -/

/-- Reads up to the first byte that ends an escape sequence. -/
def skipSequence (s : σ) : σ :=
  match _h : next s with
  | (none, after) => after
  | (some b, after) => if endsSequence b then after else skipSequence after
termination_by (remaining s).length
decreasing_by
  rw [remaining_eq_cons _h]
  exact Nat.lt_succ_self _

/-- Reads at most a number of bytes. -/
def takeBytes : Nat → σ → Bytes × σ
  | 0, s => ([], s)
  | count + 1, s =>
    match next s with
    | (none, after) => ([], after)
    | (some b, after) =>
      let (bytes, last) := takeBytes count after
      (b :: bytes, last)

/-- Reads the rest of an escape sequence, as soon as there is something to read. -/
def readSequence (s : σ) : Key × σ :=
  match next s with
  | (none, after) => (.unknown, after)
  | (some b, after) =>
    if b = 0x5B ∨ b = 0x4F then (.unknown, skipSequence after) else (.unknown, after)

/-- Reads the rest of an escape sequence, if there is one in time. -/
def readEscape (s : σ) : Key × σ :=
  match ready s with
  | (false, waited) => (.unknown, waited)
  | (true, waited) => readSequence waited

/-- Reads the rest of a character of several bytes. -/
def readCharacter (first : UInt8) (length : Nat) (s : σ) : Key × σ :=
  let (more, after) := takeBytes (length - 1) s
  let chunk := first :: more
  let key :=
    if chunk.length < length then .unknown
    else ((Utf8.scalar? chunk).map Key.char).getD .unknown
  (key, after)

/-- Reads a key. -/
def readKey (s : σ) : Key × σ :=
  match next s with
  | (none, after) => (.eof, after)
  | (some b, after) =>
    if b = 0x0D ∨ b = 0x0A then (.enter, after)
    else if b = 0x7F ∨ b = 0x08 then (.backspace, after)
    else if b = 0x09 then (.tab, after)
    else if b = 0x1B then readEscape after
    else if b = 0x03 then (.ctrlC, after)
    else if b = 0x04 then (.ctrlD, after)
    else if 0x20 ≤ b ∧ b < 0x7F then (.char (Char.ofNat b.toNat), after)
    else
      match sequenceLength? b with
      | some length => readCharacter b length after
      | none => (.unknown, after)

/-- Reads at most a number of keys, and none after the end. -/
def takeKeys : Nat → σ → List Key × σ
  | 0, s => ([], s)
  | count + 1, s =>
    match readKey s with
    | (.eof, after) => ([.eof], after)
    | (key, after) =>
      let (keys, last) := takeKeys count after
      (key :: keys, last)

/-! ### Reading a source and reading a feed -/

/-- What is read from a source and what is read from a feed are the same, and so is what remains. -/
def Agree {α : Type} (ofSource : α × σ) (ofFeed : α × Feed) : Prop :=
  ofSource.1 = ofFeed.1 ∧ remaining ofSource.2 = ofFeed.2.bytes

theorem remaining_skipSequence (s : σ) :
    remaining (skipSequence s) = dropSequence (remaining s) := by
  fun_induction skipSequence s with
  | case1 s after h =>
    obtain ⟨hnil, hafter⟩ := remaining_eq_nil h
    rw [hnil, hafter]
    rfl
  | case2 s b after h hends =>
    rw [remaining_eq_cons h, dropSequence, List.dropWhile_cons_of_neg (by simp [hends])]
    rfl
  | case3 s b after h hends ih =>
    rw [ih, remaining_eq_cons h, dropSequence, dropSequence,
      List.dropWhile_cons_of_pos (by simp [hends])]

theorem takeBytes_spec (count : Nat) :
    ∀ s : σ, (takeBytes count s).1 = (remaining s).take count ∧
      remaining (takeBytes count s).2 = (remaining s).drop count := by
  induction count with
  | zero => exact fun s => ⟨rfl, rfl⟩
  | succ count ih =>
    intro s
    rw [takeBytes]
    split
    · next after h =>
      obtain ⟨hnil, hafter⟩ := remaining_eq_nil h
      rw [hnil]
      exact ⟨rfl, hafter⟩
    · next b after h =>
      obtain ⟨hbytes, hlast⟩ := ih after
      rw [remaining_eq_cons h, List.take_succ_cons, List.drop_succ_cons]
      exact ⟨congrArg (b :: ·) hbytes, hlast⟩

/-- At the end there is nothing to read of an escape sequence. -/
theorem readSequence_of_remaining_eq_nil {s : σ} (h : remaining s = []) :
    (readSequence s).1 = .unknown ∧ remaining (readSequence s).2 = [] := by
  unfold readSequence
  split
  · next after hnext => exact ⟨rfl, (remaining_eq_nil hnext).2⟩
  · next b after hnext =>
    rw [remaining_eq_cons hnext] at h
    cases h

/-- What a source says when it is waited for at its end makes no difference to an escape sequence,
nor does what a feed says. -/
theorem readEscape_agrees {s : σ} {feed : Feed} (h : remaining s = feed.bytes) :
    Agree (readEscape s) feed.readEscape := by
  have hwaited := (remaining_ready s).trans h
  have hready := ready_of_ne_nil s
  unfold readEscape Feed.readEscape
  cases hfeed : feed.bytes with
  | nil =>
    rw [hfeed] at hwaited
    simp only [ite_self]
    split
    · next waited hsource =>
      rw [hsource] at hwaited
      exact ⟨rfl, hwaited.trans hfeed.symm⟩
    · next waited hsource =>
      rw [hsource] at hwaited
      obtain ⟨hkey, hremaining⟩ := readSequence_of_remaining_eq_nil hwaited
      exact ⟨hkey, hremaining.trans hfeed.symm⟩
  | cons b rest =>
    have hne : feed.bytes ≠ [] := by
      rw [hfeed]
      exact List.cons_ne_nil b rest
    have hfeedReady : feed.ready = true := by simp [Feed.ready, hfeed]
    rw [h] at hready
    rw [hfeed] at hwaited
    simp only [hfeedReady, if_true]
    split
    · next waited hsource =>
      rw [hsource] at hready
      cases hready hne
    · next waited hsource =>
      rw [hsource] at hwaited
      unfold readSequence
      split
      · next after hnext =>
        rw [(remaining_eq_nil hnext).1] at hwaited
        cases hwaited
      · next c after hnext =>
        rw [remaining_eq_cons hnext] at hwaited
        obtain ⟨rfl, rfl⟩ := List.cons.inj hwaited
        split
        · exact ⟨rfl, remaining_skipSequence after⟩
        · exact ⟨rfl, rfl⟩

/-- As many bytes are taken from a source as from a feed, and they make the same character. -/
theorem readCharacter_agrees (first : UInt8) (length : Nat) {s : σ} {feed : Feed}
    (h : remaining s = feed.bytes) :
    Agree (readCharacter first length s) (feed.readCharacter first length) := by
  obtain ⟨hbytes, hlast⟩ := takeBytes_spec (length - 1) s
  rw [h] at hbytes hlast
  refine ⟨?_, hlast⟩
  simp only [readCharacter, Feed.readCharacter, hbytes]

/-- **A source is read like the feed of its bytes.** -/
theorem readKey_agrees {s : σ} {feed : Feed} (h : remaining s = feed.bytes) :
    Agree (readKey s) feed.readKey := by
  unfold readKey Feed.readKey
  rw [← h]
  split
  · next after hnext =>
    obtain ⟨hnil, hafter⟩ := remaining_eq_nil hnext
    rw [hnil]
    exact ⟨rfl, hafter.trans (hnil.symm.trans h)⟩
  · next b after hnext =>
    -- both go on with what follows the first byte
    have hone : ∀ key : Key, Agree (key, after) (key, feed.withBytes (remaining after)) :=
      fun key => ⟨rfl, rfl⟩
    rw [remaining_eq_cons hnext]
    simp only
    split
    · exact hone .enter
    split
    · exact hone .backspace
    split
    · exact hone .tab
    split
    · exact readEscape_agrees rfl
    split
    · exact hone .ctrlC
    split
    · exact hone .ctrlD
    split
    · exact hone (.char (Char.ofNat b.toNat))
    cases sequenceLength? b with
    | none => exact hone .unknown
    | some length => exact readCharacter_agrees b length rfl

/-- A source gives the keys that the feed of its bytes gives. -/
theorem takeKeys_agrees (count : Nat) :
    ∀ {s : σ} {feed : Feed}, remaining s = feed.bytes →
      Agree (takeKeys count s) (feed.takeKeys count) := by
  induction count with
  | zero => exact fun h => ⟨rfl, h⟩
  | succ count ih =>
    intro s feed h
    obtain ⟨hkey, hafter⟩ := readKey_agrees h
    rw [takeKeys, Feed.takeKeys]
    revert hkey hafter
    generalize readKey s = fromSource
    generalize feed.readKey = fromFeed
    obtain ⟨key, after⟩ := fromSource
    obtain ⟨key', rest⟩ := fromFeed
    rintro (rfl : key = key') (hafter : remaining after = rest.bytes)
    obtain ⟨hkeys, hlast⟩ := ih hafter
    cases key with
    | eof => exact ⟨rfl, hafter⟩
    | _ => exact ⟨congrArg (List.cons _) hkeys, hlast⟩

end ByteSource

/-! ### Codes from a source -/

namespace KeyCode

/-- What is sent: codes one after the other, and perhaps the beginning of an escape sequence behind
them, of which nothing more comes. -/
def sent (codes : List KeyCode) (loneEscape : Bool) : Bytes :=
  codes.flatMap (·.bytes) ++ if loneEscape then [escape] else []

/-- The keys of what is sent, the end included. -/
def received (codes : List KeyCode) (loneEscape : Bool) : List Key :=
  codes.map (·.key) ++ (if loneEscape then [.unknown] else []) ++ [.eof]

end KeyCode

/-- Codes are read from a feed key by key, then what is behind them, and then the end. -/
theorem Feed.takeKeys_sent (codes : List KeyCode) (loneEscape readyAtEnd : Bool) :
    (⟨KeyCode.sent codes loneEscape, readyAtEnd⟩ : Feed).takeKeys
        (KeyCode.received codes loneEscape).length =
      (KeyCode.received codes loneEscape, ⟨[], readyAtEnd⟩) := by
  have hsent : (⟨KeyCode.sent codes loneEscape, readyAtEnd⟩ : Feed).bytes =
      codes.flatMap (·.bytes) ++ if loneEscape then [escape] else [] := rfl
  have hcodes := Feed.takeKeys_codes codes hsent
  have hempty : (⟨[], readyAtEnd⟩ : Feed).bytes = [] := rfl
  have hend := Feed.takeKeys_succ_of_bytes_eq_nil hempty 0
  cases loneEscape with
  | false =>
    have hlength : (KeyCode.received codes false).length = codes.length + 1 := by
      simp [KeyCode.received]
    rw [hlength, hcodes 1]
    simp [KeyCode.received, Feed.withBytes, hend]
  | true =>
    have hlength : (KeyCode.received codes true).length = codes.length + 2 := by
      simp [KeyCode.received]
    have hlone : (⟨[escape], readyAtEnd⟩ : Feed).takeKeys 2 =
        ([.unknown, .eof], ⟨[], readyAtEnd⟩) := by
      rw [Feed.takeKeys_succ_of_ne_eof (Feed.readKey_loneEscape rfl) Key.noConfusion]
      simp [Feed.withBytes, hend]
    rw [hlength, hcodes 2]
    simp [KeyCode.received, Feed.withBytes, hlone]

/-- **Reading undoes sending.**  Whatever codes are sent, with or without the beginning of an escape
sequence at the end: as many keys are read as codes were sent, in their order and each the key of
its code, then the end, and no byte is left.  So it is with a feed, whatever it says when it is
waited for at its end, and with every other source that delivers these bytes. -/
theorem ByteSource.keys_of_codes (codes : List KeyCode) (loneEscape : Bool) :
    let sent := KeyCode.sent codes loneEscape
    let received := KeyCode.received codes loneEscape
    (∀ readyAtEnd : Bool, (⟨sent, readyAtEnd⟩ : Feed).takeKeys received.length =
      (received, ⟨[], readyAtEnd⟩)) ∧
    ∀ (σ : Type) [ByteSource σ] (s : σ), remaining s = sent →
      (takeKeys received.length s).1 = received ∧
        remaining (takeKeys received.length s).2 = [] := by
  intro sent received
  refine ⟨Feed.takeKeys_sent codes loneEscape, fun σ _ s h => ?_⟩
  have hbytes : remaining s = (⟨sent, true⟩ : Feed).bytes := h
  obtain ⟨hkeys, hremaining⟩ := takeKeys_agrees received.length hbytes
  rw [Feed.takeKeys_sent codes loneEscape true] at hkeys hremaining
  exact ⟨hkeys, hremaining⟩

/-- An input that changes its mind whenever it is waited for at its end. -/
structure WaveringInput where
  bytes : Bytes
  waits : Nat := 0

instance : ByteSource WaveringInput where
  remaining input := input.bytes
  next input := (input.bytes.head?, { input with bytes := input.bytes.tail })
  ready input :=
    (!input.bytes.isEmpty || input.waits % 2 == 1, { input with waits := input.waits + 1 })
  next_fst _ := rfl
  remaining_next _ := rfl
  remaining_ready _ := rfl
  ready_of_ne_nil input h := by simp [h]

/-- A character of two bytes, an arrow with a modifier, a line's end and the beginning of an escape
sequence. -/
def arrowInput : WaveringInput :=
  { bytes := [0xC3, 0xA9, 0x1B, 0x5B, 0x31, 0x3B, 0x35, 0x41, 0x0D, 0x1B] }

/-- They are read as four keys and the end. -/
theorem keys_of_arrowInput :
    (ByteSource.takeKeys 5 arrowInput).1 = [.char 'é', .unknown, .enter, .unknown, .eof] ∧
      ByteSource.remaining (ByteSource.takeKeys 5 arrowInput).2 = [] :=
  (ByteSource.keys_of_codes
    [.character 'é' (by decide) (by decide),
      .sequence 0x5B (by decide) [0x31, 0x3B, 0x35] (by decide +kernel) 0x41 (by decide),
      .enter 0x0D (by decide)] true).2 WaveringInput arrowInput rfl

end LineShell
