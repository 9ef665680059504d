import LineShell.Input.Key

/-!
# The bytes of keys

Each key that is read takes some bytes from the front of the feed and leaves the others as they
are, so the bytes of a feed fall into those of its keys.

## Main definitions

* `Feed.keyBytes` — the bytes that the next key takes.
* `Keystroke`, `Feed.keystrokes` — the keys of a feed, each with its bytes.

## Main results

* `Feed.keyBytes_append` — a key takes the bytes in front of those that it leaves.
* `Feed.map_key_keystrokes` — the keystrokes are the keys of the feed.
-/

namespace LineShell

namespace Feed

/-! ### What a key leaves -/

theorem dropSequence_suffix (bytes : Bytes) : dropSequence bytes <:+ bytes :=
  (List.drop_suffix 1 _).trans (List.dropWhile_suffix _)

/-- A key leaves the feed as it was but for bytes at its front. -/
theorem exists_readKey_eq (feed : Feed) :
    ∃ rest, rest <:+ feed.bytes ∧ feed.readKey.2 = feed.withBytes rest := by
  have hself : feed = feed.withBytes feed.bytes := rfl
  unfold readKey
  split
  · exact ⟨feed.bytes, List.suffix_refl _, hself⟩
  · next b rest hbytes =>
    have hrest : rest <:+ feed.bytes := hbytes ▸ List.suffix_cons b rest
    have hafter : ∃ rest', rest' <:+ feed.bytes ∧ feed.withBytes rest = feed.withBytes rest' :=
      ⟨rest, hrest, rfl⟩
    -- an escape sequence
    have hescape : ∃ rest', rest' <:+ feed.bytes ∧
        (feed.withBytes rest).readEscape.2 = feed.withBytes rest' := by
      unfold readEscape
      split
      · split
        · exact hafter
        · next c rest' hbytes' =>
          rw [bytes_withBytes] at hbytes'
          subst hbytes'
          have hrest' : rest' <:+ feed.bytes := (List.suffix_cons c rest').trans hrest
          split
          · exact ⟨dropSequence rest', (dropSequence_suffix rest').trans hrest', rfl⟩
          · exact ⟨rest', hrest', rfl⟩
      · exact hafter
    -- a character of several bytes
    have hcharacter : ∀ length, ∃ rest', rest' <:+ feed.bytes ∧
        ((feed.withBytes rest).readCharacter b length).2 = feed.withBytes rest' :=
      fun length => ⟨rest.drop (length - 1), (List.drop_suffix _ rest).trans hrest, rfl⟩
    simp only
    repeat' split
    all_goals first
      | exact hafter
      | exact hescape
      | exact hcharacter _

theorem suffix_bytes_readKey (feed : Feed) : feed.readKey.2.bytes <:+ feed.bytes := by
  obtain ⟨rest, hrest, heq⟩ := feed.exists_readKey_eq
  rw [heq]
  exact hrest

@[simp] theorem readyAtEnd_readKey (feed : Feed) :
    feed.readKey.2.readyAtEnd = feed.readyAtEnd := by
  obtain ⟨rest, -, heq⟩ := feed.exists_readKey_eq
  rw [heq]
  rfl

/-! ### Keystrokes -/

/-- The bytes that the next key takes. -/
def keyBytes (feed : Feed) : Bytes :=
  feed.bytes.take (feed.bytes.length - feed.readKey.2.bytes.length)

/-- A key takes the bytes in front of those that it leaves. -/
theorem keyBytes_append (feed : Feed) : feed.keyBytes ++ feed.readKey.2.bytes = feed.bytes := by
  obtain ⟨taken, htaken⟩ := feed.suffix_bytes_readKey
  have hlength : feed.bytes.length - feed.readKey.2.bytes.length = taken.length := by
    rw [← htaken, List.length_append, Nat.add_sub_cancel]
  rw [keyBytes, hlength]
  conv => lhs; lhs; rw [← htaken]
  rw [List.take_left, htaken]

end Feed

/-- A key and the bytes that stand for it. -/
structure Keystroke where
  key : Key
  bytes : Bytes
  deriving DecidableEq, Repr

/-- The end of the input, which takes no bytes and is met again whenever a key is read behind it. -/
def Keystroke.eof : Keystroke := ⟨.eof, []⟩

namespace Feed

/-- All keys of the feed with their bytes, the end included. -/
def keystrokes (feed : Feed) : List Keystroke :=
  if _ : feed.bytes = [] then [.eof]
  else ⟨feed.readKey.1, feed.keyBytes⟩ :: feed.readKey.2.keystrokes
termination_by feed.bytes.length
decreasing_by
  exact length_bytes_readKey_lt ‹_›

theorem keystrokes_of_bytes_eq_nil {feed : Feed} (h : feed.bytes = []) :
    feed.keystrokes = [.eof] := by
  rw [keystrokes, dif_pos h]

theorem keystrokes_of_bytes_ne_nil {feed : Feed} (h : feed.bytes ≠ []) :
    feed.keystrokes = ⟨feed.readKey.1, feed.keyBytes⟩ :: feed.readKey.2.keystrokes := by
  rw [keystrokes, dif_neg h]

/-- The keystrokes are the keys of the feed. -/
theorem map_key_keystrokes (feed : Feed) : feed.keystrokes.map (·.key) = feed.keys := by
  fun_induction keystrokes feed with
  | case1 feed h =>
    rw [keys, dif_pos h]
    rfl
  | case2 feed h ih => rw [keys, dif_neg h, List.map_cons, ih]

/-- The last key of a feed is its end. -/
theorem dropLast_keys_append (feed : Feed) : feed.keys.dropLast ++ [.eof] = feed.keys := by
  fun_induction keys feed with
  | case1 feed h => rfl
  | case2 feed h ih =>
    have hne : feed.readKey.2.keys ≠ [] := by
      rw [← ih]
      exact List.append_ne_nil_of_right_ne_nil _ (List.cons_ne_nil _ _)
    rw [List.dropLast_cons_of_ne_nil hne, List.cons_append, ih]

end Feed

end LineShell
