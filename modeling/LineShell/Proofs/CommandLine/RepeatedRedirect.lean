import LineShell.Proofs.CommandLine.RedirectedBuiltin
import Mathlib.Data.List.Basic
import Mathlib.Logic.Function.Iterate

/-!
# Taking redirections one after the other

One redirection is taken out of a command: that of the operator which the search comes to first, at
the first place where it stands.  Other operators stay behind, and so do further places of the same
one.  If redirections are taken out again and again, each is two words shorter than the last and its
operator comes no earlier in the search; in the end there is none left, or an operator without a
target that no call gets past.

## Main definitions

* `rank` — how late the search comes to an operator.
* `Leads` — the operator that is found in a command, and where, said without the search.
* `IsSettled` — a command out of which nothing more is taken.

## Main results

* `Leads.takeRedirect_of_target`, `Leads.takeRedirect_of_last` — what is taken, or missed.
* `mem_dropPair_iff` — the words that stay behind.
* `exists_isSettled` — how often something is taken.
* `takeRedirect_again` — **one call, and all the calls on one command.**
-/

namespace LineShell

/-! ### The search -/

/-- The first member with a property is the one with the property that has the least index. -/
theorem find?_eq_some_iff_idxOf {α : Type} [DecidableEq α] {p : α → Bool} {l : List α} {a : α} :
    l.find? p = some a ↔ a ∈ l ∧ p a = true ∧ ∀ b ∈ l, p b = true → l.idxOf a ≤ l.idxOf b := by
  have hleast : ∀ {c}, l.find? p = some c → ∀ b, p b = true → l.idxOf c ≤ l.idxOf b := by
    intro c hc b hb
    obtain ⟨hpc, before, after, rfl, hbefore⟩ := List.find?_eq_some_iff_append.1 hc
    have hnot : ∀ d, p d = true → d ∉ before := by
      intro d hd hmem
      have hfails := hbefore d hmem
      rw [hd] at hfails
      cases hfails
    rw [List.idxOf_append_of_notMem (hnot c hpc), List.idxOf_append_of_notMem (hnot b hb),
      List.idxOf_cons_self]
    omega
  constructor
  · exact fun h => ⟨List.mem_of_find?_eq_some h, List.find?_some h, fun b _ => hleast h b⟩
  · rintro ⟨hmem, hpa, hmin⟩
    obtain ⟨c, hc⟩ := Option.isSome_iff_exists.1 (List.find?_isSome.2 ⟨a, hmem, hpa⟩)
    have hcmem := List.mem_of_find?_eq_some hc
    have hsame : l.idxOf a = l.idxOf c :=
      Nat.le_antisymm (hmin c hcmem (List.find?_some hc)) (hleast hc a hpa)
    rw [hc, (List.idxOf_inj hmem).1 hsame]

/-- The index of a word is the first place where it stands. -/
theorem idxOf_eq_iff {words : List String} {word : String} {index : Nat}
    (h : words[index]? = some word) :
    words.idxOf word = index ↔ ∀ earlier < index, words[earlier]? ≠ some word := by
  obtain ⟨hlt, hword⟩ := List.getElem?_eq_some_iff.1 h
  rw [List.idxOf, List.findIdx_eq hlt, beq_iff_eq, and_iff_right hword]
  refine forall₂_congr fun earlier hearlier => ?_
  rw [List.getElem?_eq_getElem (Nat.lt_trans hearlier hlt), beq_eq_false_iff_ne, ne_eq, ne_eq,
    Option.some.injEq]

/-- How late the search comes to an operator. -/
def rank (operator : Operator) : Nat :=
  operators.idxOf operator

/-- The operator that the search for a redirection finds in a command, and the first place where it
stands: the search comes to it no later than to any other operator that the command has. -/
structure Leads (arguments : List String) (operator : Operator) (index : Nat) : Prop where
  mem : operator ∈ operators
  here : arguments[index]? = some operator.word
  first : ∀ earlier < index, arguments[earlier]? ≠ some operator.word
  least : ∀ other ∈ operators, other.word ∈ arguments → rank operator ≤ rank other

section Leads

variable {arguments : List String} {operator : Operator} {index : Nat} {target : String}

/-- The search finds the operator that leads. -/
theorem Leads.find?_eq (h : Leads arguments operator index) :
    (operators.find? fun operator => arguments.contains operator.word) = some operator := by
  rw [find?_eq_some_iff_idxOf]
  refine ⟨h.mem, List.contains_iff_mem.2 (List.mem_of_getElem? h.here), fun other hmem hother => ?_⟩
  exact h.least other hmem (List.contains_iff_mem.1 hother)

theorem Leads.idxOf_eq (h : Leads arguments operator index) :
    arguments.idxOf operator.word = index :=
  (idxOf_eq_iff h.here).2 h.first

/-- In a command that has an operator, one of them leads. -/
theorem exists_leads (h : ∃ word ∈ arguments, isOperator word = true) :
    ∃ operator index, Leads arguments operator index := by
  obtain ⟨word, hword, hoperator⟩ := h
  obtain ⟨other, hother, hspelling⟩ := List.any_eq_true.1 hoperator
  have hother' : arguments.contains other.word = true :=
    List.contains_iff_mem.2 (of_decide_eq_true hspelling ▸ hword)
  have hsome : (operators.find? fun operator => arguments.contains operator.word).isSome = true :=
    List.find?_isSome.2 ⟨other, hother, hother'⟩
  obtain ⟨operator, hfind⟩ := Option.isSome_iff_exists.1 hsome
  obtain ⟨hmem, hhere, hleast⟩ := find?_eq_some_iff_idxOf.1 hfind
  have hindex := List.getElem?_idxOf (List.contains_iff_mem.1 hhere)
  exact ⟨operator, arguments.idxOf operator.word, hmem, hindex, (idxOf_eq_iff hindex).1 rfl,
    fun other hother hmem => hleast other hother (List.contains_iff_mem.2 hmem)⟩

/-! ### One call -/

/-- The operator that leads is taken with the word behind it, whatever that is. -/
theorem Leads.takeRedirect_of_target (h : Leads arguments operator index)
    (htarget : arguments[index + 1]? = some target) :
    takeRedirect arguments =
      .ok (some ⟨operator.stream, operator.mode, target⟩, dropPair index arguments) := by
  rw [takeRedirect, h.find?_eq]
  simp only [h.idxOf_eq, htarget]

/-- If the operator that leads is the last word, its target is missing. -/
theorem Leads.takeRedirect_of_last (h : Leads arguments operator index)
    (hlast : index + 1 = arguments.length) :
    takeRedirect arguments = .error ⟨operator.word, arguments⟩ := by
  rw [takeRedirect, h.find?_eq]
  simp only [h.idxOf_eq, hlast, List.getElem?_length]

/-- The words that stay behind are those at the other places. -/
theorem mem_dropPair_iff {word : String} :
    word ∈ dropPair index arguments ↔
      ∃ place, place ≠ index ∧ place ≠ index + 1 ∧ arguments[place]? = some word := by
  rw [dropPair, List.mem_append, List.mem_iff_getElem?, List.mem_iff_getElem?]
  simp only [List.getElem?_take, List.getElem?_drop]
  constructor
  · rintro (⟨place, hplace⟩ | ⟨place, hplace⟩)
    · split at hplace
      · exact ⟨place, by omega, by omega, hplace⟩
      · cases hplace
    · exact ⟨index + 2 + place, by omega, by omega, hplace⟩
  · rintro ⟨place, hindex, hnext, hplace⟩
    rcases Nat.lt_or_ge place index with hlt | hge
    · exact .inl ⟨place, by rw [if_pos hlt, hplace]⟩
    · exact .inr ⟨place - (index + 2), by rw [← hplace]; congr 1; omega⟩

theorem length_dropPair (h : index + 1 < arguments.length) :
    (dropPair index arguments).length + 2 = arguments.length := by
  simp only [dropPair, List.length_append, List.length_take, List.length_drop]
  omega

end Leads

/-! ### Further calls -/

/-- A command out of which nothing more is taken: it has no operators, or the target of the one that
leads is missing. -/
def IsSettled (arguments : List String) : Prop :=
  (takeRedirect arguments = .ok (none, arguments) ∧
      ∀ word ∈ arguments, isOperator word = false) ∨
    ∃ e, takeRedirect arguments = .error e

variable {arguments : List String}

/-- A call takes two words out of a command, or the command is settled. -/
theorem taken_or_isSettled (arguments : List String) :
    (∃ redirect, takeRedirect arguments = .ok (some redirect, remaining arguments) ∧
        (remaining arguments).length + 2 = arguments.length ∧
        ∀ word ∈ remaining arguments, word ∈ arguments) ∨
      IsSettled arguments := by
  by_cases hany : ∃ word ∈ arguments, isOperator word = true
  · obtain ⟨operator, index, hleads⟩ := exists_leads hany
    obtain ⟨hlt, -⟩ := List.getElem?_eq_some_iff.1 hleads.here
    rcases Nat.lt_or_ge (index + 1) arguments.length with hnext | hlast
    · have htake := hleads.takeRedirect_of_target (List.getElem?_eq_getElem hnext)
      have hremaining : remaining arguments = dropPair index arguments := by
        rw [remaining, htake]
      rw [hremaining]
      refine .inl ⟨_, htake, length_dropPair hnext, fun word hword => ?_⟩
      obtain ⟨place, -, -, hplace⟩ := mem_dropPair_iff.1 hword
      exact List.mem_of_getElem? hplace
    · exact .inr (.inr ⟨_, hleads.takeRedirect_of_last (by omega)⟩)
  · have hnone : ∀ word ∈ arguments, isOperator word = false := by simpa using hany
    exact .inr (.inl ⟨takeRedirect_of_no_operator hnone, hnone⟩)

/-- If a target is missing, the command is given back as it was. -/
theorem arguments_of_takeRedirect_eq_error {e : MissingTarget}
    (h : takeRedirect arguments = .error e) : e.arguments = arguments := by
  unfold takeRedirect at h
  split at h
  · cases h
  · simp only at h
    split at h
    · cases h
      rfl
    · cases h

/-- No call changes a settled command. -/
theorem IsSettled.remaining_eq (h : IsSettled arguments) : remaining arguments = arguments := by
  rcases h with ⟨htake, -⟩ | ⟨e, htake⟩
  · rw [remaining, htake]
  · rw [remaining, htake]
    exact arguments_of_takeRedirect_eq_error htake

/-- No word comes in. -/
theorem mem_of_mem_remaining {word : String} (h : word ∈ remaining arguments) :
    word ∈ arguments := by
  rcases taken_or_isSettled arguments with ⟨_, -, -, hsubset⟩ | hsettled
  · exact hsubset word h
  · rwa [hsettled.remaining_eq] at h

theorem mem_of_mem_iterate {word : String} {j k : Nat} (hjk : j ≤ k)
    (h : word ∈ remaining^[k] arguments) : word ∈ remaining^[j] arguments := by
  induction hjk with
  | refl => exact h
  | step hjk ih =>
    rw [Function.iterate_succ_apply'] at h
    exact ih (mem_of_mem_remaining h)

/-- Something is taken by the first calls, each of which shortens the command by two words, and then
the command is settled. -/
theorem exists_isSettled (arguments : List String) :
    ∃ count, 2 * count ≤ arguments.length ∧
      (∀ k < count, ∃ redirect, takeRedirect (remaining^[k] arguments) =
        .ok (some redirect, remaining^[k + 1] arguments)) ∧
      IsSettled (remaining^[count] arguments) := by
  induction hn : arguments.length using Nat.strongRecOn generalizing arguments with
  | ind n ih =>
    rcases taken_or_isSettled arguments with ⟨redirect, htake, hlength, -⟩ | hsettled
    · obtain ⟨count, hcount, htaken, hsettled⟩ := ih _ (by omega) (remaining arguments) rfl
      refine ⟨count + 1, by omega, fun k hk => ?_, hsettled⟩
      cases k with
      | zero => exact ⟨redirect, htake⟩
      | succ k => exact htaken k (by omega)
    · exact ⟨0, by omega, fun k hk => absurd hk (Nat.not_lt_zero k), hsettled⟩

/-- Later operators come no earlier in the search. -/
theorem rank_le_of_leads {j k : Nat} (hjk : j ≤ k) {operator later : Operator} {index place : Nat}
    (h : Leads (remaining^[j] arguments) operator index)
    (hlater : Leads (remaining^[k] arguments) later place) : rank operator ≤ rank later :=
  h.least later hlater.mem (mem_of_mem_iterate hjk (List.mem_of_getElem? hlater.here))

/-- **One call, and all the calls on one command.**  A command without operators is left as it is.
Otherwise one operator leads: it is taken with the word behind it, and the other words stay behind
in their order, or it is the last word and its target is missing.  If redirections are taken again
and again, that succeeds for at most half as many calls as there are words, with operators that come
later and later in the search, and from then on every call leaves the command alone: there is no
operator left, or the same target is missing for ever. -/
theorem takeRedirect_again (arguments : List String) :
    ((∀ word ∈ arguments, isOperator word = false) →
      takeRedirect arguments = .ok (none, arguments)) ∧
    ((∃ word ∈ arguments, isOperator word = true) →
      ∃ operator index, Leads arguments operator index) ∧
    (∀ operator index, Leads arguments operator index →
      (index + 1 = arguments.length →
        takeRedirect arguments = .error ⟨operator.word, arguments⟩ ∧
          remaining arguments = arguments) ∧
      ∀ target, arguments[index + 1]? = some target →
        let rest := arguments.take index ++ arguments.drop (index + 2)
        takeRedirect arguments = .ok (some ⟨operator.stream, operator.mode, target⟩, rest) ∧
          ((∃ word ∈ rest, isOperator word = true) ↔
            ∃ place word, place ≠ index ∧ place ≠ index + 1 ∧ arguments[place]? = some word ∧
              isOperator word = true)) ∧
    (∃ count ≤ arguments.length / 2,
      (∀ k < count, ∃ redirect, takeRedirect (remaining^[k] arguments) =
        .ok (some redirect, remaining^[k + 1] arguments)) ∧
      let final := remaining^[count] arguments
      (∀ k ≥ count, remaining^[k] arguments = final ∧
          takeRedirect (remaining^[k] arguments) = takeRedirect final) ∧
        (takeRedirect final = .ok (none, final) ∧ (∀ word ∈ final, isOperator word = false) ∨
          ∃ e, takeRedirect final = .error e)) ∧
    ∀ j k operator later index place, j ≤ k → Leads (remaining^[j] arguments) operator index →
      Leads (remaining^[k] arguments) later place → rank operator ≤ rank later := by
  refine ⟨takeRedirect_of_no_operator, exists_leads, fun operator index hleads =>
    ⟨fun hlast => ?_, fun target htarget => ⟨hleads.takeRedirect_of_target htarget, ?_⟩⟩, ?_,
    fun j k operator later index place hjk h hlater => rank_le_of_leads hjk h hlater⟩
  · have htake := hleads.takeRedirect_of_last hlast
    exact ⟨htake, IsSettled.remaining_eq (.inr ⟨_, htake⟩)⟩
  · change (∃ word ∈ dropPair index arguments, isOperator word = true) ↔ _
    simp only [mem_dropPair_iff]
    constructor
    · rintro ⟨word, ⟨place, hindex, hnext, hplace⟩, hoperator⟩
      exact ⟨place, word, hindex, hnext, hplace, hoperator⟩
    · rintro ⟨place, word, hindex, hnext, hplace, hoperator⟩
      exact ⟨word, ⟨place, hindex, hnext, hplace⟩, hoperator⟩
  · obtain ⟨count, hcount, htaken, hsettled⟩ := exists_isSettled arguments
    refine ⟨count, by omega, htaken, fun k hk => ?_, hsettled⟩
    have hfinal : remaining^[k] arguments = remaining^[count] arguments := by
      rw [← Nat.sub_add_cancel hk, Function.iterate_add_apply,
        Function.iterate_fixed hsettled.remaining_eq]
    exact ⟨hfinal, congrArg takeRedirect hfinal⟩

/-- The operator that leads stands behind another one, which leads in the fourth call only, with an
operator for its target. -/
theorem takeRedirect_again_cascade :
    let arguments := [">>", ">", "cat", "2>", "log", ">", "2>>", "1>>"]
    Leads arguments ⟨">", .output, .truncate⟩ 1 ∧
      takeRedirect arguments =
        .ok (some ⟨.output, .truncate, "cat"⟩, [">>", "2>", "log", ">", "2>>", "1>>"]) ∧
      Leads (remaining^[3] arguments) ⟨">>", .output, .append⟩ 0 ∧
      rank ⟨">", .output, .truncate⟩ ≤ rank ⟨">>", .output, .append⟩ := by
  intro arguments
  have hfirst : Leads arguments ⟨">", .output, .truncate⟩ 1 :=
    ⟨by decide, rfl, by decide, by decide⟩
  have hfourth : Leads (remaining^[3] arguments) ⟨">>", .output, .append⟩ 0 :=
    ⟨by decide, rfl, by decide, by decide⟩
  obtain ⟨-, -, htake, -, hrank⟩ := takeRedirect_again arguments
  exact ⟨hfirst, ((htake _ _ hfirst).2 "cat" rfl).1, hfourth,
    hrank 0 3 _ _ _ _ (Nat.zero_le 3) hfirst hfourth⟩

end LineShell
