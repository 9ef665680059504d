import LineShell.Text.Bytes

/-!
# Keys

The keyboard delivers bytes; the editor works with keys.  Control bytes are keys of their own, a
character arrives as its UTF-8 encoding, and an escape sequence, such as that of an arrow, is taken
as a whole and stands for one key without a meaning.

## Main definitions

* `Key` — what the editor reacts to.
* `Feed` — the bytes still to come, and what waiting for more says when there are none.
* `Feed.readKey` — the next key and the feed behind it.
* `Feed.keys` — all keys up to the end of the feed.

## Main results

* `Feed.length_bytes_readKey_lt` — a key that is not the end takes at least one byte.
-/

namespace LineShell

/-- A key, as the editor sees it. -/
inductive Key
  /-- A character to insert. -/
  | char (c : Char)
  | enter
  | backspace
  | tab
  | ctrlC
  | ctrlD
  /-- The input has ended. -/
  | eof
  /-- Bytes without a meaning. -/
  | unknown
  deriving DecidableEq, Repr

/-- An input of bytes. -/
structure Feed where
  /-- The bytes that have not been read, in the order of their arrival. -/
  bytes : Bytes
  /-- What a wait of fifty milliseconds reports once no byte is left: that something can be read
  (an input that is closed) or not (one that is still open). -/
  readyAtEnd : Bool := true
  deriving DecidableEq, Repr

namespace Feed

/-- Whether a wait of fifty milliseconds ends with something to read. -/
def ready (feed : Feed) : Bool :=
  !feed.bytes.isEmpty || feed.readyAtEnd

/-- The feed with other bytes left. -/
def withBytes (feed : Feed) (bytes : Bytes) : Feed :=
  { feed with bytes }

@[simp] theorem bytes_withBytes (feed : Feed) (bytes : Bytes) :
    (feed.withBytes bytes).bytes = bytes := rfl

end Feed

/-- Whether a byte ends an escape sequence. -/
def endsSequence (b : UInt8) : Bool :=
  0x40 ≤ b && b ≤ 0x7E

/-- What remains after the first byte that ends an escape sequence. -/
def dropSequence (bytes : Bytes) : Bytes :=
  (bytes.dropWhile fun b => !endsSequence b).drop 1

/-- How many bytes a character has whose encoding starts with this byte, for the bytes that start
an encoding of more than one. -/
def sequenceLength? (first : UInt8) : Option Nat :=
  if first &&& 0xE0 = 0xC0 then some 2
  else if first &&& 0xF0 = 0xE0 then some 3
  else if first &&& 0xF8 = 0xF0 then some 4
  else none

namespace Feed

/-- The rest of an escape sequence: after `[` or `O` everything up to a byte that ends a sequence,
after any other byte nothing more, and nothing at all if no byte follows in time. -/
def readEscape (feed : Feed) : Key × Feed :=
  if feed.ready then
    match feed.bytes with
    | [] => (.unknown, feed)
    | b :: rest =>
      if b = 0x5B ∨ b = 0x4F then (.unknown, feed.withBytes (dropSequence rest))
      else (.unknown, feed.withBytes rest)
  else (.unknown, feed)

/-- The rest of a character of several bytes.  As many bytes are taken as the first one announces,
whatever they are. -/
def readCharacter (first : UInt8) (length : Nat) (feed : Feed) : Key × Feed :=
  let chunk := first :: feed.bytes.take (length - 1)
  let key :=
    if chunk.length < length then .unknown
    else ((Utf8.scalar? chunk).map Key.char).getD .unknown
  (key, feed.withBytes (feed.bytes.drop (length - 1)))

/-- The next key and the feed that remains behind it. -/
def readKey (feed : Feed) : Key × Feed :=
  match feed.bytes with
  | [] => (.eof, feed)
  | b :: rest =>
    let after := feed.withBytes rest
    if b = 0x0D ∨ b = 0x0A then (.enter, after)
    else if b = 0x7F ∨ b = 0x08 then (.backspace, after)
    else if b = 0x09 then (.tab, after)
    else if b = 0x1B then after.readEscape
    else if b = 0x03 then (.ctrlC, after)
    else if b = 0x04 then (.ctrlD, after)
    else if 0x20 ≤ b ∧ b < 0x7F then (.char (Char.ofNat b.toNat), after)
    else
      match sequenceLength? b with
      | some length => after.readCharacter b length
      | none => (.unknown, after)

theorem length_dropSequence_le (bytes : Bytes) : (dropSequence bytes).length ≤ bytes.length := by
  have h := (List.dropWhile_sublist (fun b => !endsSequence b) (l := bytes)).length_le
  simp only [dropSequence, List.length_drop]
  omega

/-- Reading the rest of an escape sequence adds no bytes. -/
theorem length_bytes_readEscape_le (feed : Feed) :
    feed.readEscape.2.bytes.length ≤ feed.bytes.length := by
  unfold readEscape
  split
  · split
    · exact Nat.le_refl _
    · next b rest heq =>
      rw [heq, List.length_cons]
      split
      · exact Nat.le_succ_of_le (length_dropSequence_le rest)
      · exact Nat.le_succ _
  · exact Nat.le_refl _

/-- A key that is not the end takes at least one byte. -/
theorem length_bytes_readKey_lt {feed : Feed} (h : feed.bytes ≠ []) :
    feed.readKey.2.bytes.length < feed.bytes.length := by
  unfold readKey
  split
  · contradiction
  · next b rest heq =>
    have hesc := length_bytes_readEscape_le (feed.withBytes rest)
    have hchar : ∀ length, ((feed.withBytes rest).readCharacter b length).2.bytes.length
        ≤ rest.length := by
      intro length
      simp only [readCharacter, bytes_withBytes, List.length_drop]
      omega
    rw [bytes_withBytes] at hesc
    rw [heq, List.length_cons]
    repeat' split
    all_goals first
      | exact Nat.lt_succ_of_le hesc
      | exact Nat.lt_succ_of_le (hchar _)
      | exact Nat.lt_succ_self _

/-- All keys of the feed, the end included. -/
def keys (feed : Feed) : List Key :=
  if _ : feed.bytes = [] then [.eof]
  else feed.readKey.1 :: feed.readKey.2.keys
termination_by feed.bytes.length
decreasing_by
  exact length_bytes_readKey_lt ‹_›

/-- The first keys of the feed, at most `count` of them and none after the end, and the feed behind
them. -/
def takeKeys : Nat → Feed → List Key × Feed
  | 0, feed => ([], feed)
  | count + 1, feed =>
    match feed.readKey with
    | (.eof, rest) => ([.eof], rest)
    | (key, rest) =>
      let (keys, last) := takeKeys count rest
      (key :: keys, last)

end Feed

end LineShell
