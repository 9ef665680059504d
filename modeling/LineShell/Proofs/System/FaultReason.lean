import LineShell.System.Fault

/-!
# The reason in the text of a fault

The text of a fault of the system ends in the number of the fault, with a marker in front of it, and
the reason is what stands in front of both.  A reason may hold the marker itself, or pieces of it,
so only the last place counts.  The marker opens a bracket, and neither the rest of it nor a number
opens another one; hence no text in front of a number can move the place where it is cut.

## Main definitions

* `LastBehind` — a part of a text has a marker behind it, which is the last one.

## Main results

* `beforeLast?_eq_some_iff`, `beforeLast?_eq_none_iff` — what comes of the search for a marker.
* `LastBehind.of_notMem` — a marker is the last one if it holds the last place of some character.
* `lastBehind_withoutErrno` — **a text with a marker is cut at the last one.**
* `withoutErrno_numbered` — **exactly the number at the end is taken off**, whatever the text is.
* `Fault.reason_os` — of a fault of the system its description is left.
-/

namespace LineShell

/-! ### The last place of a marker -/

/-- A text begins with a part that has a marker behind it, and the marker stands nowhere further
on. -/
structure LastBehind (marker before text : List Char) : Prop where
  stands : before ++ marker <+: text
  last : ∀ {later : List Char}, later ++ marker <+: text → later.length ≤ before.length

namespace LastBehind

variable {marker before text : List Char}

/-- There is only one last place. -/
theorem unique {other : List Char} (h : LastBehind marker before text)
    (h' : LastBehind marker other text) : before = other := by
  have hlength : before.length = other.length :=
    Nat.le_antisymm (h'.last h.stands) (h.last h'.stands)
  have hbefore : before <+: other :=
    List.prefix_of_prefix_length_le ((List.prefix_append _ _).trans h.stands)
      ((List.prefix_append _ _).trans h'.stands) (Nat.le_of_eq hlength)
  exact hbefore.eq_of_length hlength

/-- A last place remains the last one behind one more character. -/
theorem cons (h : LastBehind marker before text) (c : Char) :
    LastBehind marker (c :: before) (c :: text) where
  stands := List.cons_prefix_cons.2 ⟨rfl, h.stands⟩
  last := by
    intro later hlater
    cases later with
    | nil => exact Nat.zero_le _
    | cons d later => exact Nat.succ_le_succ (h.last (List.cons_prefix_cons.1 hlater).2)

/-- A marker at the beginning is the last one if there is none behind the first character. -/
theorem nil_cons {c : Char} (h : marker <+: c :: text) (hrest : ¬marker <:+: text) :
    LastBehind marker [] (c :: text) where
  stands := h
  last := by
    intro later hlater
    cases later with
    | nil => exact Nat.le_refl _
    | cons d later =>
      have hmarker : marker <:+: later ++ marker := (List.suffix_append _ _).isInfix
      exact absurd (hmarker.trans (List.cons_prefix_cons.1 hlater).2.isInfix) hrest

theorem isInfix (h : LastBehind marker before text) : marker <:+: text :=
  (List.suffix_append before marker).isInfix.trans h.stands.isInfix

end LastBehind

/-- A place of a character behind which it does not occur is not in front of another one. -/
theorem length_le_of_append_cons {c : Char} {front behind front' behind' : List Char}
    (h : front ++ c :: behind = front' ++ c :: behind') (hc : c ∉ behind') :
    front.length ≤ front'.length := by
  rcases List.append_eq_append_iff.1 h with ⟨between, rfl, -⟩ | ⟨between, rfl, hbehind⟩
  · rw [List.length_append]
    exact Nat.le_add_right _ _
  · cases between with
    | nil => exact Nat.le_of_eq (congrArg List.length (List.append_nil front'))
    | cons d between =>
      obtain ⟨-, rfl⟩ := List.cons.inj hbehind
      exact absurd (List.mem_append_right between List.mem_cons_self) hc

/-- **A marker is the last one if it holds the last place of some character.** -/
theorem LastBehind.of_notMem {c : Char} {back after : List Char} (h : c ∉ back ++ after)
    (before front : List Char) :
    LastBehind (front ++ c :: back) before (before ++ (front ++ c :: back) ++ after) where
  stands := List.prefix_append _ _
  last := by
    rintro later ⟨rest, hrest⟩
    have hplaces : (later ++ front) ++ c :: (back ++ rest) =
        (before ++ front) ++ c :: (back ++ after) := by
      simpa only [List.append_assoc, List.cons_append] using hrest
    have hle := length_le_of_append_cons hplaces h
    simp only [List.length_append] at hle
    omega

/-- The search finds the last place of a marker, if there is one. -/
theorem beforeLast?_spec (marker text : List Char) :
    match beforeLast? marker text with
    | some before => LastBehind marker before text
    | none => ¬marker <:+: text := by
  induction text with
  | nil =>
    cases marker with
    | nil => exact ⟨List.prefix_rfl, fun h => by simpa using h.length_le⟩
    | cons c marker => exact fun h => List.cons_ne_nil _ _ (List.infix_nil.1 h)
  | cons c text ih =>
    rw [beforeLast?]
    cases hrest : beforeLast? marker text with
    | some before =>
      -- a marker further on counts, whether one stands here or not
      rw [hrest] at ih
      exact ih.cons c
    | none =>
      rw [hrest] at ih
      by_cases hhere : marker.isPrefixOf (c :: text) = true
      · simp only [hhere, if_true]
        exact .nil_cons (List.isPrefixOf_iff_prefix.1 hhere) ih
      · simp only [hhere, Bool.false_eq_true, if_false]
        rw [List.infix_cons_iff, not_or]
        exact ⟨mt List.isPrefixOf_iff_prefix.2 hhere, ih⟩

/-- No place is found exactly if there is none. -/
theorem beforeLast?_eq_none_iff {marker text : List Char} :
    beforeLast? marker text = none ↔ ¬marker <:+: text := by
  have hspec := beforeLast?_spec marker text
  cases hfound : beforeLast? marker text with
  | none =>
    rw [hfound] at hspec
    exact iff_of_true rfl hspec
  | some before =>
    rw [hfound] at hspec
    exact iff_of_false nofun (not_not_intro hspec.isInfix)

/-- A place is found exactly if it is the last one. -/
theorem beforeLast?_eq_some_iff {marker text before : List Char} :
    beforeLast? marker text = some before ↔ LastBehind marker before text := by
  have hspec := beforeLast?_spec marker text
  cases hfound : beforeLast? marker text with
  | none =>
    rw [hfound] at hspec
    exact iff_of_false nofun fun h => hspec h.isInfix
  | some found =>
    rw [hfound] at hspec
    rw [Option.some.injEq]
    exact ⟨fun heq => heq ▸ hspec, hspec.unique⟩

/-! ### Texts with a number at the end -/

/-- A text without a marker is left as it is. -/
theorem withoutErrno_of_not_isInfix {text : String}
    (h : ¬errnoMarker.toList <:+: text.toList) : withoutErrno text = text := by
  rw [withoutErrno, beforeLast?_eq_none_iff.2 h]

/-- What is left of a text is the part in front of the last marker. -/
theorem withoutErrno_of_lastBehind {text before : String}
    (h : LastBehind errnoMarker.toList before.toList text.toList) : withoutErrno text = before := by
  rw [withoutErrno, beforeLast?_eq_some_iff.2 h]
  exact String.ofList_toList

/-- **A text with a marker is cut at the last one.** -/
theorem lastBehind_withoutErrno {text : String} (h : errnoMarker.toList <:+: text.toList) :
    LastBehind errnoMarker.toList (withoutErrno text).toList text.toList := by
  obtain ⟨before, hbefore⟩ :=
    Option.ne_none_iff_exists'.1 (mt beforeLast?_eq_none_iff.1 (not_not_intro h))
  simp only [withoutErrno, hbefore, String.toList_ofList]
  exact beforeLast?_eq_some_iff.1 hbefore

/-- A number is written with digits and a minus sign. -/
theorem eq_minus_or_isDigit_of_mem_toString {number : Int} {c : Char}
    (h : c ∈ (toString number).toList) : c = '-' ∨ c.isDigit = true := by
  have hdigits (n : Nat) (hc : c ∈ n.repr.toList) : c.isDigit = true := by
    rw [Nat.toList_repr] at hc
    exact Nat.isDigit_of_mem_toDigits (by decide) (by decide) hc
  rw [Int.toString_eq_repr, Int.repr_eq_if] at h
  split at h
  · exact .inr (hdigits _ h)
  · rw [String.toList_append] at h
    rcases List.mem_append.1 h with hsign | hnumber
    · exact .inl (List.mem_singleton.1 hsign)
    · exact .inr (hdigits _ hnumber)

/-- **Exactly the number at the end is taken off**, whatever the text in front of it is. -/
theorem withoutErrno_numbered (text : String) (number : Int) :
    withoutErrno (text ++ errnoMarker ++ toString number ++ ")") = text := by
  refine withoutErrno_of_lastBehind ?_
  -- the bracket of the marker is the last one that is opened
  have hbracket : '(' ∉ "os error ".toList ++ ((toString number).toList ++ [')']) := by
    simp only [List.mem_append, not_or]
    refine ⟨by decide, fun h => ?_, by decide⟩
    rcases eq_minus_or_isDigit_of_mem_toString h with h | h <;> exact absurd h (by decide)
  have hlast : LastBehind errnoMarker.toList text.toList
      (text.toList ++ errnoMarker.toList ++ ((toString number).toList ++ [')'])) :=
    .of_notMem hbracket text.toList [' ']
  rw [String.toList_append, String.toList_append, String.toList_append, List.append_assoc]
  exact hlast

namespace Fault

/-- The reason of a fault whose text ends in a number is what stands in front of it. -/
theorem reason_of_text_eq {fault : Fault} {text : String} {number : Int}
    (h : fault.text = text ++ errnoMarker ++ toString number ++ ")") : fault.reason = text := by
  rw [reason, h, withoutErrno_numbered]

/-- The reason of a fault of the system is the system's description. -/
theorem reason_os (errno : Errno) : (os errno).reason = errno.describe :=
  reason_of_text_eq rfl

end Fault

end LineShell
