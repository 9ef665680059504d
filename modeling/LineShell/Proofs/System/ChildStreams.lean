import LineShell.Spawn
import Mathlib.Tactic.ByContra

/-!
# The streams of a child

A child gets copies of its parent's descriptors, and its output streams are then moved there one
after the other: each move copies a descriptor to the number of the stream and closes the number it
came from.  The second move reads what the first one has left, so the two can be in each other's
way.  Here it is said for which descriptors they are not.

## Main definitions

* `Descriptors.IsOpen` — a descriptor stands for an open file, under a number it can have.
* `StayClear` — the two moves are not in each other's way.
* `World.Connects` — starting a program gives it the streams that were asked for.
* `World.childWith`, `World.withChild` — a child by its descriptors, and the world it leaves.

## Main results

* `Descriptors.apply_redirectActions` — what one move does to all descriptors.
* `World.childDescriptors_of_stayClear`, `World.childDescriptors_of_not_stayClear` — the descriptors
  of a child, and how it loses a stream or is not started.
* `World.spawn_eq_ok_iff` — what starting a program comes to.
* `World.connects_iff` — **a program gets the streams that were asked for exactly if the moves stay
  clear of each other.**
-/

namespace LineShell

/-- No move at all is the move of a stream to itself. -/
theorem getD_map_redirectActions (request : Option Nat) (target : Nat) :
    ((request.map Int.ofNat).map (redirectActions · target)).getD []
      = redirectActions (request.getD target) target := by
  cases request with
  | none => simp [redirectActions]
  | some fd => rfl

namespace Descriptors

/-! ### One move -/

/-- A descriptor stands for an open file, and its number is one that descriptors can have. -/
def IsOpen (t : Descriptors) (fd : Nat) : Prop :=
  (t.get? fd).isSome = true ∧ fd < Limits.mostDescriptors

instance (t : Descriptors) (fd : Nat) : Decidable (t.IsOpen fd) :=
  inferInstanceAs (Decidable (_ ∧ _))

variable {t : Descriptors} {source : Nat}

theorem apply_append (t : Descriptors) (before after : List FileAction) :
    t.apply (before ++ after) = t.apply before >>= (·.apply after) :=
  List.foldlM_append

/-- A stream that is moved to its own number stays. -/
theorem apply_redirectActions_self (t : Descriptors) (target : Nat) :
    t.apply (redirectActions target target) = .ok t := by
  simp only [redirectActions, true_or, if_true]
  rfl

/-- **One move**: the stream stands for what was moved to it, the number that this came from is
closed, and no other descriptor changes. -/
theorem apply_redirectActions {handle : Handle} (hsource : t.get? source = some handle)
    (hlt : source < Limits.mostDescriptors) (target : Nat) :
    ∃ t', t.apply (redirectActions source target) = .ok t' ∧ ∀ fd, t'.get? fd =
      if fd = target then some handle else if fd = source then none else t.get? fd := by
  by_cases hself : source = target
  · subst hself
    refine ⟨t, t.apply_redirectActions_self source, fun fd => ?_⟩
    by_cases hfd : fd = source <;> simp [hfd, hsource]
  · have hactions : redirectActions source target = [.duplicate source target, .close source] := by
      simp [redirectActions, hself, hlt]
    refine ⟨(t.set target handle).close source, ?_, fun fd => ?_⟩
    · simp only [hactions, apply, List.foldlM, applyAction, hsource]
      rfl
    · rw [get?_close, get?_set]
      by_cases hfd : fd = target
      · simp [hfd, Ne.symm hself]
      · simp [hfd]

/-- A closed descriptor cannot be moved. -/
theorem apply_redirectActions_of_closed (hsource : t.get? source = none)
    (hlt : source < Limits.mostDescriptors) {target : Nat} (hne : source ≠ target) :
    t.apply (redirectActions source target) = .error .badDescriptor := by
  have hactions : redirectActions source target = [.duplicate source target, .close source] := by
    simp [redirectActions, hne, hlt]
  simp only [hactions, apply, List.foldlM, applyAction, hsource]
  rfl

end Descriptors

/-! ### Both moves -/

/-- The moves of the output streams are not in each other's way: the streams are asked for from
different descriptors, and the second one is not asked for from the number of the first, which has
been overwritten by then and is closed after it. -/
def StayClear (output error : Option Nat) : Prop :=
  output.getD World.standardOutput ≠ error.getD World.standardError ∧
    error.getD World.standardError ≠ World.standardOutput

instance (output error : Option Nat) : Decidable (StayClear output error) :=
  inferInstanceAs (Decidable (_ ∧ _))

namespace World

variable {w : World} {output error : Option Nat}

/-- The first move succeeds, and the second one finds what that has left. -/
theorem childDescriptors_eq_apply (error : Option Nat)
    (houtput : w.process.descriptors.IsOpen (output.getD standardOutput)) :
    ∃ t : Descriptors, w.childDescriptors (output.map Int.ofNat) (error.map Int.ofNat) =
        t.apply (redirectActions (error.getD standardError) standardError) ∧
      ∀ fd, t.get? fd =
        if fd = standardOutput then w.process.descriptors.get? (output.getD standardOutput)
        else if fd = output.getD standardOutput then none
        else w.process.descriptors.get? fd := by
  obtain ⟨handle, hhandle⟩ := Option.isSome_iff_exists.1 houtput.1
  obtain ⟨t, hmoved, hget⟩ := Descriptors.apply_redirectActions hhandle houtput.2 standardOutput
  refine ⟨t, ?_, fun fd => by rw [hget, hhandle]⟩
  simp only [childDescriptors, getD_map_redirectActions, Descriptors.apply_append, hmoved]
  rfl

/-- **The descriptors of a child** whose streams stay clear of each other: each stream stands for
what was asked for, the numbers asked for are closed, and no other descriptor changes. -/
theorem childDescriptors_of_stayClear (hclear : StayClear output error)
    (houtput : w.process.descriptors.IsOpen (output.getD standardOutput))
    (herror : w.process.descriptors.IsOpen (error.getD standardError)) :
    ∃ t, w.childDescriptors (output.map Int.ofNat) (error.map Int.ofNat) = .ok t ∧ ∀ fd, t.get? fd =
      if fd = standardOutput then w.process.descriptors.get? (output.getD standardOutput)
      else if fd = standardError then w.process.descriptors.get? (error.getD standardError)
      else if fd = output.getD standardOutput ∨ fd = error.getD standardError then none
      else w.process.descriptors.get? fd := by
  obtain ⟨hne, hnotOutput⟩ := hclear
  obtain ⟨t₁, hchild, hget₁⟩ := childDescriptors_eq_apply error houtput
  obtain ⟨handle, hhandle⟩ := Option.isSome_iff_exists.1 herror.1
  rw [hchild]
  generalize output.getD standardOutput = a at *
  generalize error.getD standardError = b at *
  -- the first move has left the descriptor alone that the second one reads
  have hleft : t₁.get? b = some handle := by
    rw [hget₁, if_neg hnotOutput, if_neg (Ne.symm hne), hhandle]
  obtain ⟨t₂, hmoved, hget₂⟩ := Descriptors.apply_redirectActions hleft herror.2 standardError
  refine ⟨t₂, hmoved, fun fd => ?_⟩
  rw [hget₂, hget₁, hhandle]
  by_cases hout : fd = standardOutput
  · have hnotError : fd ≠ standardError := hout ▸ (by decide)
    have hnotSecond : fd ≠ b := fun heq => hnotOutput (heq ▸ hout)
    rw [if_neg hnotError, if_neg hnotSecond, if_pos hout, if_pos hout]
  · by_cases hfd : fd = b
    · simp [hfd, hnotOutput]
    · simp [hout, hfd]

/-- **How a stream is lost**: if the streams do not stay clear of each other, then the child is not
started, as a descriptor is closed when it is to be moved, or one of its streams is closed. -/
theorem childDescriptors_of_not_stayClear (hclear : ¬ StayClear output error)
    (houtput : w.process.descriptors.IsOpen (output.getD standardOutput)) :
    w.childDescriptors (output.map Int.ofNat) (error.map Int.ofNat) = .error .badDescriptor ∨
      ∃ t, w.childDescriptors (output.map Int.ofNat) (error.map Int.ofNat) = .ok t ∧
        (t.get? standardOutput = none ∨ t.get? standardError = none) := by
  obtain ⟨t₁, hchild, hget₁⟩ := childDescriptors_eq_apply error houtput
  rw [hchild]
  unfold StayClear at hclear
  by_cases hnotOutput : error.getD standardError = standardOutput
  · -- what the first move has put there is taken away by the second one
    obtain ⟨handle, hhandle⟩ := Option.isSome_iff_exists.1 houtput.1
    have hthere : t₁.get? standardOutput = some handle := by rw [hget₁, if_pos rfl, hhandle]
    obtain ⟨t₂, hmoved, hget₂⟩ :=
      Descriptors.apply_redirectActions hthere (by decide) standardError
    rw [hnotOutput]
    exact .inr ⟨t₂, hmoved, .inl (hget₂ standardOutput)⟩
  · have hsame : output.getD standardOutput = error.getD standardError := by
      by_contra hne
      exact hclear ⟨hne, hnotOutput⟩
    have hclosed : t₁.get? (error.getD standardError) = none := by
      rw [hget₁, if_neg hnotOutput, if_pos hsame.symm]
    by_cases herror : error.getD standardError = standardError
    · -- the second stream is to stay as it is, but the first move has closed it
      rw [herror] at hclosed ⊢
      exact .inr ⟨t₁, t₁.apply_redirectActions_self _, .inr hclosed⟩
    · exact .inl (Descriptors.apply_redirectActions_of_closed hclosed (hsame ▸ houtput.2) herror)

/-! ### Starting a program -/

/-- Starting a program gives it the streams that were asked for, its own where none was: there is a
child for which the output streams are right, and whatever that child does when it is executed,
starting the program succeeds with just that, and with the process of the parent unchanged. -/
def Connects (w : World) (program : String) (arguments : List String) (output error : Option Nat) :
    Prop :=
  ∃ child : Child,
    child.program = Bytes.ofString program ∧ child.arguments = arguments.map Bytes.ofString ∧
    child.process.descriptors.get? standardOutput =
      w.process.descriptors.get? (output.getD standardOutput) ∧
    child.process.descriptors.get? standardError =
      w.process.descriptors.get? (error.getD standardError) ∧
    ∀ (programs : Programs) (system : System) (ending : Except Errno Ending),
      programs w.system child = .ok (system, ending) →
        ∃ w', w.spawn programs program arguments (output.map Int.ofNat) (error.map Int.ofNat)
            = .ok (w.nextChild, w') ∧
          w'.process = w.process ∧ w'.system = system ∧
          w'.children = (w.nextChild, ending) :: w.children

variable {program : String} {arguments : List String}

/-- The child that is started with these descriptors. -/
def childWith (w : World) (program : String) (arguments : List String) (t : Descriptors) :
    Child where
  process := { w.process with id := w.nextChild, descriptors := t }
  ancestors := [w.process]
  program := Bytes.ofString program
  arguments := arguments.map Bytes.ofString

/-- The world when a child has run and nobody has waited for its end. -/
def withChild (w : World) (system : System) (ending : Except Errno Ending) : World :=
  { w with
    system, children := (w.nextChild, ending) :: w.children, nextChild := w.nextChild + 1 }

theorem start_eq (programs : Programs) (w : World) (program : String) (arguments : List String)
    (output error : Option Int) :
    w.start programs program arguments output error = do
      let t ← w.childDescriptors output error
      let (system, ending) ← programs w.system (w.childWith program arguments t)
      return (w.nextChild, w.withChild system ending) :=
  rfl

/-- What starting a program comes to: the moves of the streams, and then the program. -/
theorem spawn_eq_ok_iff {programs : Programs} (hprogram : hasNul program = false)
    (harguments : arguments.any hasNul = false) {output error : Option Int} {id : Nat}
    {w' : World} :
    w.spawn programs program arguments output error = .ok (id, w') ↔
      ∃ t system ending, w.childDescriptors output error = .ok t ∧
        programs w.system (w.childWith program arguments t) = .ok (system, ending) ∧
        id = w.nextChild ∧ w' = w.withChild system ending := by
  have hspawn : w.spawn programs program arguments output error =
      (w.start programs program arguments output error).mapError
        (.start (arguments.head?.getD program) <| .os ·) := by
    simp only [spawn, hprogram, harguments, Bool.or_self, Bool.false_eq_true, if_false]
  rw [hspawn, start_eq]
  cases hchild : w.childDescriptors output error with
  | error errno => simp [bind, Except.bind, Except.mapError]
  | ok t =>
    cases hrun : programs w.system (w.childWith program arguments t) with
    | error errno => simp [bind, Except.bind, Except.mapError, hrun]
    | ok result =>
      obtain ⟨system, ending⟩ := result
      constructor
      · intro h
        simp only [bind, Except.bind, hrun, pure, Except.pure, Except.mapError, Except.ok.injEq,
          Prod.mk.injEq] at h
        exact ⟨t, system, ending, rfl, hrun, h.1.symm, h.2.symm⟩
      · rintro ⟨t', system', ending', ht, hrun', rfl, rfl⟩
        cases ht
        rw [hrun] at hrun'
        cases hrun'
        simp only [bind, Except.bind, hrun, pure, Except.pure, Except.mapError]

/-- Whether a program gets the streams asked for is decided by its descriptors. -/
theorem connects_iff_childDescriptors (hprogram : hasNul program = false)
    (harguments : arguments.any hasNul = false) :
    w.Connects program arguments output error ↔
      ∃ t, w.childDescriptors (output.map Int.ofNat) (error.map Int.ofNat) = .ok t ∧
        t.get? standardOutput = w.process.descriptors.get? (output.getD standardOutput) ∧
        t.get? standardError = w.process.descriptors.get? (error.getD standardError) := by
  constructor
  · rintro ⟨child, -, -, houtput, herror, hstarted⟩
    -- a system in which this child alone can be executed tells it from any other one
    let only : Programs := fun system other =>
      if other = child then .ok (system, .ok (.exited 0)) else .error .noEntry
    obtain ⟨w', hspawned, -⟩ := hstarted only w.system (.ok (.exited 0)) (if_pos rfl)
    obtain ⟨t, system, ending, hchild, hrun, -⟩ := (spawn_eq_ok_iff hprogram harguments).1 hspawned
    have hthis : w.childWith program arguments t = child := by
      by_contra hother
      simp only [only, if_neg hother, reduceCtorEq] at hrun
    subst hthis
    exact ⟨t, hchild, houtput, herror⟩
  · rintro ⟨t, hchild, houtput, herror⟩
    refine ⟨w.childWith program arguments t, rfl, rfl, houtput, herror, ?_⟩
    intro programs system ending hrun
    exact ⟨_, (spawn_eq_ok_iff hprogram harguments).2
      ⟨t, system, ending, hchild, hrun, rfl, rfl⟩, rfl, rfl, rfl⟩

/-- **A program gets the streams that were asked for exactly if they stay clear of each other**:
from a parent whose output streams are open, with each stream asked for from a descriptor that is
open, or not asked for. -/
theorem connects_iff (hprogram : hasNul program = false) (harguments : arguments.any hasNul = false)
    (hopen : ∀ fd ∈ [standardOutput, standardError], w.process.descriptors.IsOpen fd)
    (houtput : ∀ fd ∈ output, w.process.descriptors.IsOpen fd)
    (herror : ∀ fd ∈ error, w.process.descriptors.IsOpen fd) :
    w.Connects program arguments output error ↔ StayClear output error := by
  have hfirst : w.process.descriptors.IsOpen (output.getD standardOutput) := by
    cases output with
    | none => exact hopen _ (by simp)
    | some fd => exact houtput fd rfl
  have hsecond : w.process.descriptors.IsOpen (error.getD standardError) := by
    cases error with
    | none => exact hopen _ (by simp)
    | some fd => exact herror fd rfl
  rw [connects_iff_childDescriptors hprogram harguments]
  constructor
  · rintro ⟨t, hchild, hstandardOutput, hstandardError⟩
    by_contra hclear
    rcases childDescriptors_of_not_stayClear hclear hfirst with hfailed | ⟨t', hchild', hlost⟩
    · rw [hfailed] at hchild
      cases hchild
    · rw [hchild] at hchild'
      cases hchild'
      rcases hlost with hlost | hlost
      · simp [hlost ▸ hstandardOutput.symm, Descriptors.IsOpen] at hfirst
      · simp [hlost ▸ hstandardError.symm, Descriptors.IsOpen] at hsecond
  · intro hclear
    obtain ⟨t, hchild, hget⟩ := childDescriptors_of_stayClear hclear hfirst hsecond
    refine ⟨t, hchild, ?_, ?_⟩
    · rw [hget, if_pos rfl]
    · rw [hget, if_neg (by decide), if_pos rfl]

/-- A world with a file open beside the standard streams. -/
private def withFourOpen : World where
  system := { files := .empty, opened := [] }
  process := { descriptors := ⟨[(0, 0), (1, 1), (2, 2), (3, 3)]⟩ }

/-- The output may go where errors went, as long as the errors go to the file. -/
theorem connects_outputAsError :
    (∀ fd ∈ [standardOutput, standardError, 3], withFourOpen.process.descriptors.IsOpen fd) ∧
      withFourOpen.Connects "/bin/sh" ["sh", "-c", "echo a"] (some 2) (some 3) := by
  have hopen : ∀ fd ∈ [standardOutput, standardError], withFourOpen.process.descriptors.IsOpen fd :=
    by decide
  have hclear : StayClear (some 2) (some 3) := by decide
  refine ⟨by decide, (connects_iff (by decide) (by decide) hopen ?_ ?_).2 hclear⟩
  · rintro fd ⟨⟩
    decide
  · rintro fd ⟨⟩
    decide

/-- If the output goes where errors go and nothing is asked for about the errors, then they go
nowhere: the child has no error stream, where it should have had its parent's. -/
theorem not_connects_outputAsError :
    (∀ fd ∈ [standardInput, standardOutput, standardError],
        withFourOpen.process.descriptors.IsOpen fd) ∧
      ¬ withFourOpen.Connects "/bin/sh" ["sh", "-c", "echo a"] (some 2) none := by
  refine ⟨by decide, fun hconnects => ?_⟩
  obtain ⟨t, hchild, -, herror⟩ :=
    (connects_iff_childDescriptors (w := withFourOpen) (by decide) (by decide)).1 hconnects
  have hmoved : withFourOpen.childDescriptors ((some 2).map Int.ofNat) (none.map Int.ofNat)
      = .ok ⟨[(1, 2), (0, 0), (3, 3)]⟩ := rfl
  rw [hmoved] at hchild
  cases hchild
  revert herror
  decide

end World

end LineShell
