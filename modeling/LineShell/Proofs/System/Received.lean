import LineShell.Proofs.System.Outlets

/-!
# What outputs receive

An output is an open file that holds what is written to it: a file without a name, or a plain file.
Data that are written stand from the place on at which the output has been, and the place moves
behind them; an output that is at its end grows by exactly the data.  A device takes data and holds
nothing, and what is not open for writing receives nothing.

## Main definitions

* `Output`, `Output.receive` — what an output holds, and how it changes by data.
* `System.output?`, `World.output?` — an open file as an output, and the one behind a descriptor.
* `World.Receives` — a descriptor has received data, and nothing else has changed.

## Main results

* `Output.receive_append` — data that come in two parts are received like one.
* `System.output?_write` — **what is written is received.**
* `World.receives_write`, `World.receives_writeStandard`, `World.receives_display` — the same of the
  ways to write to a descriptor.
-/

namespace LineShell

/-! ### Outputs -/

/-- What an output holds, and where the next byte goes. -/
structure Output where
  content : Bytes
  place : Nat
  deriving DecidableEq, Repr

/-- The output once it has received data. -/
def Output.receive (o : Output) (data : Bytes) : Output :=
  ⟨overwrite o.content o.place data, o.place + data.length⟩

/-- Data that are written behind others have been written with them. -/
theorem overwrite_append (content : Bytes) (place : Nat) (first second : Bytes) :
    overwrite content place (first ++ second) =
      overwrite (overwrite content place first) (place + first.length) second := by
  -- what stands in front of the data, with the gap filled
  have hfront :
      (content.take place ++ List.replicate (place - content.length) 0).length = place := by
    rw [List.length_append, List.length_take, List.length_replicate]
    omega
  unfold overwrite
  generalize content.take place ++ List.replicate (place - content.length) 0 = front at hfront
  subst hfront
  have hlength : front.length + first.length = (front ++ first).length := List.length_append.symm
  have hgap : (front ++ first).length -
      (front ++ first ++ content.drop (front ++ first).length).length = 0 :=
    Nat.sub_eq_zero_of_le (List.prefix_append _ _).length_le
  rw [hlength, List.take_left, hgap, List.drop_length_add_append, List.drop_drop, ← hlength,
    List.length_append, List.replicate_zero, List.append_nil, Nat.add_assoc]
  simp only [List.append_assoc]

/-- Data that come in two parts are received like one. -/
theorem Output.receive_append (o : Output) (first second : Bytes) :
    o.receive (first ++ second) = (o.receive first).receive second := by
  simp only [receive, overwrite_append, List.length_append, Nat.add_assoc]

/-! ### Open files -/

namespace System

/-- Whether what is written to an open file is held there. -/
def holds (s : System) (file : OpenFile) : Bool :=
  match file.target with
  | .unnamed _ => true
  | .entry loc =>
    match s.files.node? loc with
    | some (.file _ _) => true
    | _ => false

/-- An open file as an output, if it is open for writing and holds what is written. -/
def output? (s : System) (handle : Handle) : Option Output :=
  match s.opened[handle]? with
  | none => none
  | some file =>
    if file.writable && s.holds file then
      some ⟨s.content file, if file.appending then (s.content file).length else file.offset⟩
    else none

variable {s s' : System} {handle : Handle} {data : Bytes}

/-- The place of an output behind the data that it has just received. -/
theorem place_receive (appending : Bool) (content : Bytes) (offset : Nat) (data : Bytes) :
    let start := if appending then content.length else offset
    (if appending then (overwrite content start data).length else start + data.length) =
      start + data.length := by
  cases appending with
  | false => rfl
  | true => exact (congrArg List.length (overwrite_length content data)).trans List.length_append

/-- **What is written is received.** -/
theorem output?_write (h : s.write handle data = .ok s') :
    s'.output? handle = (s.output? handle).map (·.receive data) := by
  unfold write at h
  cases hfile : s.opened[handle]? with
  | none =>
    rw [hfile] at h
    cases h
  | some file =>
    have hlt := (List.getElem?_eq_some_iff.1 hfile).1
    obtain ⟨target, offset, readable, writable, appending, terminal⟩ := file
    rw [hfile] at h
    cases writable with
    | false => cases h
    | true =>
      -- a file without a name holds the data in the open file, any other one at its location
      cases target with
      | unnamed held =>
        cases h
        simp only [output?, hfile, List.getElem?_set_self hlt, holds, content, Bool.and_self,
          if_true, Option.map_some, Output.receive, place_receive]
      | entry loc =>
        simp only [Bool.not_true, Bool.false_eq_true, if_false] at h
        cases hnode : s.files.node? loc with
        | none =>
          rw [hnode] at h
          cases h
          simp [output?, hfile, holds, hnode]
        | some node =>
          rw [hnode] at h
          cases node with
          | file mode held =>
            have hnamed := FileSystem.isNamed_of_file hnode
            cases h
            simp only [output?, hfile, List.getElem?_set_self hlt, holds, content, hnode,
              FileSystem.node?_put _ hnamed, Bool.and_self, if_true, Option.map_some,
              Output.receive, place_receive]
          | full =>
            simp only at h
            split at h
            · cases h
              simp [output?, hfile, holds, hnode]
            · cases h
          | _ =>
            cases h
            simp [output?, hfile, holds, hnode]

/-- What cannot be written would not be received. -/
theorem output?_of_write_eq_error {errno : Errno} (h : s.write handle data = .error errno) :
    s.output? handle = none := by
  unfold write at h
  unfold output?
  cases hfile : s.opened[handle]? with
  | none => rfl
  | some file =>
    rw [hfile] at h
    simp only at h ⊢
    split at h
    · next hclosed =>
      have hfalse : file.writable = false := by simpa using hclosed
      simp [hfalse]
    · split at h
      · cases h
      · next loc htarget =>
        split at h
        · cases h
        · next hnode => simp [holds, htarget, hnode]
        · cases h

end System

namespace World

/-! ### Descriptors -/

/-- The output behind a descriptor. -/
def output? (w : World) (fd : Nat) : Option Output :=
  (w.process.descriptors.get? fd).bind w.system.output?

/-- A descriptor has received data: the output behind it, if there is one, and nothing else has
changed, be it an open file or a file that is not written to. -/
structure Receives (w : World) (fd : Nat) (data : Bytes) (w' : World) : Prop where
  output : w'.output? fd = (w.output? fd).map (·.receive data)
  process : w'.process = w.process
  console : w'.console = w.console
  children : w'.children = w.children
  nextChild : w'.nextChild = w.nextChild
  signals : w'.system.signals = w.system.signals
  opened : ∀ handle, w.process.descriptors.get? fd ≠ some handle →
    w'.system.opened[handle]? = w.system.opened[handle]?
  files : ∀ loc, ¬w.LeadsTo fd loc → w'.system.files.node? loc = w.system.files.node? loc

variable {w w' : World} {fd : Nat} {data : Bytes}

/-- Where there is no output, nothing is received. -/
theorem receives_of_output?_eq_none (h : w.output? fd = none) (data : Bytes) :
    w.Receives fd data w where
  output := by rw [h]; rfl
  process := rfl
  console := rfl
  children := rfl
  nextChild := rfl
  signals := rfl
  opened := fun _ _ => rfl
  files := fun _ _ => rfl

/-- What cannot be written to a descriptor would not be received. -/
theorem output?_of_write_eq_error {errno : Errno} (h : w.write fd data = .error errno) :
    w.output? fd = none := by
  unfold write at h
  unfold output?
  cases hhandle : w.process.descriptors.get? fd with
  | none => rfl
  | some handle =>
    rw [hhandle] at h
    cases hwrite : w.system.write handle data with
    | ok system =>
      simp only [hwrite] at h
      cases h
    | error errno' => exact System.output?_of_write_eq_error hwrite

/-- **What is written to a descriptor is received there.** -/
theorem receives_write (h : w.write fd data = .ok w') : w.Receives fd data w' := by
  obtain ⟨handle, system, hhandle, hwrite, rfl⟩ := exists_of_write_eq_ok h
  obtain ⟨file, moved, hfile, hopened, -, -, hsignals, hfiles⟩ := System.write_spec hwrite
  exact {
    output := by
      simp only [output?, hhandle, Option.bind_some]
      exact System.output?_write hwrite
    process := rfl
    console := rfl
    children := rfl
    nextChild := rfl
    signals := hsignals
    opened := fun other hother => by
      have hne : handle ≠ other := fun heq => hother (heq ▸ hhandle)
      simp only [hopened, List.getElem?_set_ne hne]
    files := fun loc hloc => by
      rcases hfiles with heq | ⟨there, mode, held, held', htarget, hnode, heq⟩
      · simp only [heq]
      · have hne : loc ≠ there := by
          rintro rfl
          exact hloc ⟨handle, hhandle, file, hfile, htarget⟩
        simp only [heq, FileSystem.node?_put_of_ne _ hne] }

/-- So is what is written to a standard stream, unless that is passed over, where there is no
output. -/
theorem receives_writeStandard (h : w.writeStandard fd data = .ok w') : w.Receives fd data w' := by
  rcases write_of_writeStandard_eq_ok h with hwrite | ⟨hbad, rfl⟩
  · exact receives_write hwrite
  · exact receives_of_output?_eq_none (output?_of_write_eq_error hbad) data

/-- **A text that is shown is received**, as far as there is an output. -/
theorem receives_display (w : World) (fd : Nat) (text : List Char) :
    w.Receives fd (Bytes.ofText text) (w.display fd text) := by
  cases hwrite : w.write fd (Bytes.ofText text) with
  | ok w' =>
    have hshown : w.display fd text = w' := by
      rw [display, hwrite]
      rfl
    rw [hshown]
    exact receives_write hwrite
  | error errno =>
    have hshown : w.display fd text = w := by
      rw [display, hwrite]
      rfl
    rw [hshown]
    exact receives_of_output?_eq_none (output?_of_write_eq_error hwrite) _

end World

end LineShell
