import LineShell.Proofs.System.Received
import LineShell.Repl

/-!
# An input and an output

Taking bytes from the input leaves exactly the others, and what is written to an output does not
touch the input, unless both lead to the same entry of the file system.

## Main definitions

* `System.Apart` — nothing that is written to one open file is read from another one.
* `World.StreamsApart` — the same of standard input and standard output.

## Main results

* `System.exists_of_write_eq_ok` — all that writing does.
* `System.remaining_write`, `System.Apart.write` — writing does not touch an input that is apart.
* `World.feed_consume` — what is left once bytes have been taken.
* `World.feed_display` — showing a text does not touch standard input.
* `World.StreamsApart.output?_consume` — nor does taking bytes touch standard output.
-/

namespace LineShell

namespace System

/-! ### Reading -/

/-- What is left of an open file after some bytes of it have been read. -/
theorem remaining_skip (s : System) (handle : Handle) (count : Nat) :
    (s.skip handle count).remaining handle = (s.remaining handle).drop count := by
  unfold remaining skip
  rw [List.getElem?_modify_eq]
  cases s.opened[handle]? with
  | none => rw [List.drop_nil]; rfl
  | some file =>
    simp only [Option.map_eq_map, Option.map_some]
    cases file.readable with
    | false => exact List.drop_nil.symm
    | true => exact List.drop_drop.symm

/-- Reading an open file does not touch another one. -/
theorem output?_skip {s : System} {handle other : Handle} (h : handle ≠ other) (count : Nat) :
    (s.skip handle count).output? other = s.output? other := by
  simp only [output?, skip, List.getElem?_modify_ne _ _ h]
  rfl

/-- A file that is not written to keeps its content. -/
theorem content_put_of_ne (s : System) {file : OpenFile} {loc : Location} (node : Node)
    (h : file.target ≠ .entry loc) :
    ({ s with files := s.files.put loc node } : System).content file = s.content file := by
  obtain ⟨target, offset, readable, writable, appending, terminal⟩ := file
  cases target with
  | unnamed content => rfl
  | entry at_ =>
    have hne : at_ ≠ loc := fun heq => h (heq ▸ rfl)
    simp only [content, FileSystem.node?_put_of_ne _ hne]

/-! ### Writing -/

/-- All that writing does: the open file moves, with a new content if it has no name, and otherwise
only the entry it leads to may change. -/
theorem exists_of_write_eq_ok {s s' : System} {handle : Handle} {data : Bytes}
    (h : s.write handle data = .ok s') :
    ∃ file moved, s.opened[handle]? = some file ∧ s'.opened = s.opened.set handle moved ∧
      (∀ loc, moved.target = .entry loc → file.target = .entry loc) ∧
      (s'.files = s.files ∨
        ∃ loc node, file.target = .entry loc ∧ s'.files = s.files.put loc node) := by
  obtain ⟨file, moved, hfile, hopened, -, htarget, -, hfiles⟩ := write_spec h
  refine ⟨file, moved, hfile, hopened, fun loc => (htarget loc).1, ?_⟩
  rcases hfiles with heq | ⟨loc, mode, content, content', hentry, -, heq⟩
  · exact .inl heq
  · exact .inr ⟨loc, _, hentry, heq⟩

/-- Nothing that is written to one open file is read from another one. -/
structure Apart (s : System) (input output : Handle) : Prop where
  ne : input ≠ output
  /-- They do not lead to the same entry. -/
  target_ne : ∀ (read written : OpenFile) (loc : Location), s.opened[input]? = some read →
    s.opened[output]? = some written → written.target = .entry loc → read.target ≠ .entry loc

variable {s s' : System} {input output : Handle} {data : Bytes}

/-- Reading on does not bring an input and an output together. -/
theorem Apart.skip (h : s.Apart input output) (count : Nat) :
    (s.skip input count).Apart input output := by
  refine ⟨h.ne, fun read written loc hread hwritten htarget => ?_⟩
  simp only [System.skip] at hread hwritten
  rw [List.getElem?_modify_eq] at hread
  rw [List.getElem?_modify_ne _ _ h.ne] at hwritten
  obtain ⟨before, hbefore, rfl⟩ := Option.map_eq_some_iff.1 hread
  exact h.target_ne before written loc hbefore hwritten htarget

/-- Nor does writing. -/
theorem Apart.write (h : s.Apart input output) (hwrite : s.write output data = .ok s') :
    s'.Apart input output := by
  obtain ⟨file, moved, hfile, hopened, htarget, -⟩ := exists_of_write_eq_ok hwrite
  refine ⟨h.ne, fun read written loc hread hwritten hloc => ?_⟩
  rw [hopened, List.getElem?_set_ne h.ne.symm] at hread
  have hmoved : written = moved := by
    have hlt := (List.getElem?_eq_some_iff.1 hfile).1
    rw [hopened, List.getElem?_set_self hlt] at hwritten
    exact (Option.some.inj hwritten).symm
  exact h.target_ne read file loc hread hfile (htarget loc (hmoved ▸ hloc))

/-- Writing does not touch an input that is apart. -/
theorem remaining_write (h : s.Apart input output) (hwrite : s.write output data = .ok s') :
    s'.remaining input = s.remaining input := by
  obtain ⟨file, moved, hfile, hopened, -, hfiles⟩ := exists_of_write_eq_ok hwrite
  unfold remaining
  rw [hopened, List.getElem?_set_ne h.ne.symm]
  cases hread : s.opened[input]? with
  | none => rfl
  | some read =>
    have hcontent : s'.content read = s.content read := by
      rcases hfiles with hfiles | ⟨loc, node, htarget, hfiles⟩
      · unfold content
        rw [hfiles]
      · rw [← s.content_put_of_ne node (h.target_ne read file loc hread hfile htarget)]
        unfold content
        rw [hfiles]
    simp only [hcontent]

end System

namespace World

/-! ### Standard input and standard output -/

/-- What is left of a descriptor once bytes of it have been taken. -/
theorem feed_consume {w : World} {fd : Nat} {rest : Feed}
    (hsuffix : rest.bytes <:+ (w.feed fd).bytes) (hready : rest.readyAtEnd = true) :
    (w.consume fd rest).feed fd = rest := by
  obtain ⟨taken, htaken⟩ := hsuffix
  obtain ⟨bytes, readyAtEnd⟩ := rest
  subst hready
  unfold consume
  cases hhandle : w.process.descriptors.get? fd with
  | none =>
    have hnil : (w.feed fd).bytes = [] := by simp only [feed, hhandle]
    rw [hnil] at htaken
    obtain rfl : bytes = [] := (List.append_eq_nil_iff.1 htaken).2
    simp only [feed, hhandle]
  | some handle =>
    have hremaining : (w.feed fd).bytes = w.system.remaining handle := by simp only [feed, hhandle]
    have hlength : (w.feed fd).bytes.length - bytes.length = taken.length := by
      rw [← htaken, List.length_append, Nat.add_sub_cancel]
    simp only [hlength]
    simp only [feed, hhandle, System.remaining_skip]
    rw [← hremaining, ← htaken, List.drop_left]

/-- Nothing that is written to standard output is read from standard input. -/
def StreamsApart (w : World) : Prop :=
  ∀ input output, w.process.descriptors.get? standardInput = some input →
    w.process.descriptors.get? standardOutput = some output → w.system.Apart input output

theorem process_consume (w : World) (fd : Nat) (rest : Feed) :
    (w.consume fd rest).process = w.process := by
  unfold consume
  split <;> rfl

/-- Taking bytes from standard input does not bring the streams together. -/
theorem StreamsApart.consume {w : World} (h : w.StreamsApart) (rest : Feed) :
    (w.consume standardInput rest).StreamsApart := by
  intro input output hinput houtput
  rw [process_consume] at hinput houtput
  have hapart := h input output hinput houtput
  simp only [World.consume, hinput]
  exact hapart.skip _

/-- Nor does it touch standard output. -/
theorem StreamsApart.output?_consume {w : World} (h : w.StreamsApart) (rest : Feed) :
    (w.consume standardInput rest).output? standardOutput = w.output? standardOutput := by
  unfold output?
  rw [process_consume]
  cases houtput : w.process.descriptors.get? standardOutput with
  | none => rfl
  | some output =>
    cases hinput : w.process.descriptors.get? standardInput with
    | none => simp only [World.consume, hinput]
    | some input =>
      simp only [World.consume, hinput, Option.bind_some]
      exact System.output?_skip (h input output hinput houtput).ne _

/-- Showing a text writes it to the descriptor, or does nothing. -/
theorem display_eq_or (w : World) (fd : Nat) (text : List Char) :
    w.display fd text = w ∨
      ∃ handle system, w.process.descriptors.get? fd = some handle ∧
        w.system.write handle (Bytes.ofText text) = .ok system ∧
        w.display fd text = { w with system } := by
  cases hhandle : w.process.descriptors.get? fd with
  | none =>
    left
    simp only [display, write, hhandle]
    rfl
  | some handle =>
    cases hwrite : w.system.write handle (Bytes.ofText text) with
    | error errno =>
      left
      simp only [display, write, hhandle, hwrite]
      rfl
    | ok system =>
      right
      refine ⟨handle, system, rfl, hwrite, ?_⟩
      simp only [display, write, hhandle, hwrite]
      rfl

/-- Showing a text does not touch standard input. -/
theorem feed_display {w : World} (h : w.StreamsApart) (text : List Char) :
    (w.display standardOutput text).feed standardInput = w.feed standardInput ∧
      (w.display standardOutput text).StreamsApart := by
  rcases w.display_eq_or standardOutput text with heq | ⟨output, system, houtput, hwrite, heq⟩
  · rw [heq]
    exact ⟨rfl, h⟩
  · rw [heq]
    constructor
    · unfold feed
      cases hinput : w.process.descriptors.get? standardInput with
      | none => rfl
      | some input =>
        exact congrArg (fun bytes => { bytes := bytes : Feed })
          (System.remaining_write (h input output hinput houtput) hwrite)
    · intro input output' hinput houtput'
      obtain rfl : output = output' := Option.some.inj (houtput.symm.trans houtput')
      exact (h input output hinput houtput).write hwrite

end World

end LineShell
