import LineShell.Text.Bytes
import Mathlib.Data.List.Lex
import Mathlib.Data.String.Basic
import Mathlib.Order.Basic

/-!
# The order of encodings

The encodings of characters stand in the order of the characters, and none of them is the beginning
of another one.  So texts can be compared, and looked up by how they begin, as well by their bytes
as by their characters.

## Main results

* `Bytes.ofText_lt_ofText`, `Bytes.ofString_lt_ofString` — **texts stand in the order of their
  bytes.**
* `Bytes.ofText_prefix_ofText` — a text begins another one exactly if its bytes do.
* `Bytes.toString?_eq_some_iff` — which byte strings are read as text, and as which.
-/

namespace LineShell

/-! ### One character -/

/-- The encoding of a lesser character is less, whatever comes behind it. -/
theorem utf8EncodeChar_append_lt {c d : Char} (h : c < d) (rest rest' : Bytes) :
    String.utf8EncodeChar c ++ rest < String.utf8EncodeChar d ++ rest' := by
  have hlt : c.val.toNat < d.val.toNat := h
  have hbound : d.val.toNat < 0x110000 := by
    have := d.valid
    simp only [UInt32.isValidChar, Nat.isValidChar] at this
    omega
  unfold String.utf8EncodeChar
  simp only
  -- encodings of different lengths differ in their first bytes, the others somewhere
  repeat' split
  all_goals
    simp (disch := omega) only [List.cons_append, List.nil_append, List.cons_lt_cons_iff,
      UInt8.lt_iff_toNat_lt, ← UInt8.toNat_inj, UInt8.toNat_ofNat', Nat.mod_eq_of_lt]
    omega

/-- What two byte strings have in common at their beginning does not matter for their order. -/
theorem append_lt_append_iff (bytes : Bytes) {rest rest' : Bytes} :
    bytes ++ rest < bytes ++ rest' ↔ rest < rest' := by
  induction bytes with
  | nil => exact Iff.rfl
  | cons b bytes ih => simp [ih]

/-- Encodings are compared before what comes behind them. -/
theorem utf8EncodeChar_append_lt_iff {c d : Char} {rest rest' : Bytes} :
    String.utf8EncodeChar c ++ rest < String.utf8EncodeChar d ++ rest' ↔
      c < d ∨ c = d ∧ rest < rest' := by
  rcases lt_trichotomy c d with h | rfl | h
  · simp [h, utf8EncodeChar_append_lt h]
  · simp [append_lt_append_iff]
  · have hback := utf8EncodeChar_append_lt h rest' rest
    simp [h.not_gt, h.ne', List.lt_asymm hback]

/-- No encoding is the beginning of another one. -/
theorem utf8EncodeChar_append_inj {c d : Char} {rest rest' : Bytes}
    (h : String.utf8EncodeChar c ++ rest = String.utf8EncodeChar d ++ rest') :
    c = d ∧ rest = rest' := by
  have hcd : c = d := by
    rcases lt_trichotomy c d with hlt | heq | hlt
    · exact absurd (utf8EncodeChar_append_lt hlt rest rest') (h ▸ List.lt_irrefl _)
    · exact heq
    · exact absurd (utf8EncodeChar_append_lt hlt rest' rest) (h ▸ List.lt_irrefl _)
  subst hcd
  exact ⟨rfl, List.append_cancel_left h⟩

/-! ### Texts -/

namespace Bytes

theorem ofText_cons (c : Char) (text : List Char) :
    ofText (c :: text) = String.utf8EncodeChar c ++ ofText text := rfl

theorem ofText_eq_nil_iff {text : List Char} : ofText text = [] ↔ text = [] := by
  cases text with
  | nil => simp
  | cons c text => simp [ofText_cons]

/-- Texts stand in the order of their bytes. -/
theorem ofText_lt_ofText {s t : List Char} : ofText s < ofText t ↔ s < t := by
  induction s generalizing t with
  | nil =>
    cases t with
    | nil => simp
    | cons d t =>
      obtain ⟨first, more, hfirst⟩ :=
        List.exists_cons_of_ne_nil (String.utf8EncodeChar_ne_nil (c := d))
      simp [ofText_cons, hfirst]
  | cons c s ih =>
    cases t with
    | nil => simp
    | cons d t =>
      rw [ofText_cons, ofText_cons, utf8EncodeChar_append_lt_iff, ih, List.cons_lt_cons_iff]

/-- A text begins another one exactly if its bytes begin those of the other one. -/
theorem ofText_prefix_ofText {s t : List Char} : ofText s <+: ofText t ↔ s <+: t := by
  constructor
  · intro h
    induction s generalizing t with
    | nil => exact List.nil_prefix
    | cons c s ih =>
      obtain ⟨rest, hrest⟩ := h
      cases t with
      | nil =>
        have hnil := (List.append_eq_nil_iff.1 hrest).1
        exact absurd (ofText_eq_nil_iff.1 hnil) (List.cons_ne_nil c s)
      | cons d t =>
        rw [ofText_cons, ofText_cons, List.append_assoc] at hrest
        obtain ⟨rfl, htail⟩ := utf8EncodeChar_append_inj hrest
        exact (List.prefix_cons_inj c).2 (ih ⟨rest, htail⟩)
  · rintro ⟨rest, rfl⟩
    rw [ofText_append]
    exact List.prefix_append _ _

theorem ofString_lt_ofString {a b : String} : ofString a < ofString b ↔ a < b :=
  ofText_lt_ofText.trans String.lt_iff.symm

theorem ofString_prefix_ofString {a b : String} :
    ofString a <+: ofString b ↔ a.toList <+: b.toList :=
  ofText_prefix_ofText

theorem toByteArray_ofString (text : String) :
    (ofString text).toByteArray = text.toByteArray :=
  String.utf8Encode_toList

/-- Byte strings are read as text exactly if they are its encoding. -/
theorem toString?_eq_some_iff {bytes : Bytes} {text : String} :
    toString? bytes = some text ↔ ofString text = bytes := by
  unfold toString? String.fromUTF8?
  constructor
  · intro h
    split at h
    · next hvalid =>
      have harray : (ofString text).toByteArray = bytes.toByteArray := by
        rw [toByteArray_ofString, ← Option.some.inj h]
        rfl
      have hlist := congrArg (·.data.toList) harray
      simpa only [List.toList_data_toByteArray] using hlist
    · cases h
  · rintro rfl
    have hvalid : (ofString text).toByteArray.IsValidUTF8 := by
      rw [toByteArray_ofString]
      exact text.isValidUTF8
    rw [dif_pos hvalid, Option.some.injEq]
    exact String.toByteArray_inj.1 (toByteArray_ofString text)

end Bytes

end LineShell
