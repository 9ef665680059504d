import LineShell.Proofs.System.Rewritten
import LineShell.Redirect

/-!
# Writing beside another world

Two worlds are compared.  One of them has a file open for writing, under a descriptor of its own,
and the other one has not; all else is the same.  They stay so when the same is written to the same
stream of both, and when the file is written to; what is written to it stands at its end.

## Main definitions

* `System.Takes`, `World.Takes` — an open file, or a descriptor, takes what is written to it.
* `System.Refuses`, `World.Refuses` — it has no room for what is written to it.
* `World.LeadsTo`, `World.GoesElsewhere` — a descriptor leads to a file, or a stream is open and
  does not.
* `World.SameOutlets` — the descriptors take and refuse the same, and lead to the same files.
* `System.Beside`, `World.Beside` — the second one is the first one with a file open besides.
* `World.OpensFile`, `FileSystem.keptContent` — a path opens as a plain file, and what of the file
  is kept.
* `World.writeAll`, `bytesOn` — writes to the streams one after the other, and the bytes for one.

## Main results

* `System.isSome_write_iff`, `World.refuses_iff_writeStandard` — writing succeeds where it is taken,
  and to a standard stream unless it is refused.
* `World.sameOutlets_write`, `World.sameOutlets_writeStandard` — writing does not change where.
* `System.Beside.write`, `System.Beside.write_file` — **a write in both, and one to the file.**
* `World.OpensFile.beside` — how worlds come to stand beside each other.
-/

namespace LineShell

namespace System

/-! ### What takes a write -/

/-- An open file takes what is written to it. -/
def Takes (s : System) (handle : Handle) : Prop :=
  ∃ file, s.opened[handle]? = some file ∧ file.writable = true ∧
    ∀ loc, file.target = .entry loc → s.files.node? loc ≠ some .full

/-- An open file has no room for anything that is written to it. -/
def Refuses (s : System) (handle : Handle) : Prop :=
  ∃ file loc, s.opened[handle]? = some file ∧ file.writable = true ∧ file.target = .entry loc ∧
    s.files.node? loc = some .full

/-- What is written to an open file goes to the file at a location. -/
def LeadsTo (s : System) (handle : Handle) (loc : Location) : Prop :=
  ∃ file, s.opened[handle]? = some file ∧ file.target = .entry loc

variable {s s' : System} {handle : Handle} {data : Bytes}

/-- Something can be written exactly if it is taken. -/
theorem isSome_write_iff (h : data ≠ []) :
    (s.write handle data).toOption.isSome = true ↔ s.Takes handle := by
  unfold write Takes
  cases s.opened[handle]? with
  | none => simp [Except.toOption]
  | some file =>
    obtain ⟨target, offset, readable, writable, appending, terminal⟩ := file
    cases writable with
    | false => simp [Except.toOption]
    | true =>
      cases target with
      | unnamed content => simp [Except.toOption]
      | entry loc =>
        cases hnode : s.files.node? loc with
        | none => simp [Except.toOption, hnode]
        | some node => cases node <;> simp [Except.toOption, hnode, h]

/-- If something cannot be written, there is no room for it, or the open file is none that is open
for writing. -/
theorem write_eq_error_iff (h : data ≠ []) {errno : Errno} :
    s.write handle data = .error errno ↔
      errno = .noSpace ∧ s.Refuses handle ∨
        errno = .badDescriptor ∧ ∀ file, s.opened[handle]? = some file → file.writable = false := by
  unfold write Refuses
  cases s.opened[handle]? with
  | none => simp [eq_comm (a := errno)]
  | some file =>
    obtain ⟨target, offset, readable, writable, appending, terminal⟩ := file
    cases writable with
    | false => simp [eq_comm (a := errno)]
    | true =>
      cases target with
      | unnamed content => simp
      | entry loc =>
        cases hnode : s.files.node? loc with
        | none => simp [hnode]
        | some node => cases node <;> simp [hnode, h, eq_comm (a := errno)]

/-- Whatever is written to, an open file stays open for the same purpose and leads to the same file,
and no other one comes to be open. -/
theorem opened_write (h : s.write handle data = .ok s') (other : Handle) :
    (s.opened[other]? = none ∧ s'.opened[other]? = none) ∨
      ∃ before after, s.opened[other]? = some before ∧ s'.opened[other]? = some after ∧
        after.writable = before.writable ∧
        ∀ loc, after.target = .entry loc ↔ before.target = .entry loc := by
  obtain ⟨file, moved, hfile, hopened, hwritable, htarget, -, -⟩ := write_spec h
  rw [hopened]
  by_cases hother : other = handle
  · subst hother
    have hlt := (List.getElem?_eq_some_iff.1 hfile).1
    exact .inr ⟨file, moved, hfile, List.getElem?_set_self hlt, hwritable, htarget⟩
  · rw [List.getElem?_set_ne (Ne.symm hother)]
    cases hbefore : s.opened[other]? with
    | none => exact .inl ⟨rfl, rfl⟩
    | some before => exact .inr ⟨before, before, rfl, rfl, rfl, fun _ => Iff.rfl⟩

/-- What is not full does not become so by writing, and the other way round. -/
theorem full_write_iff (h : s.write handle data = .ok s') (loc : Location) :
    s'.files.node? loc = some .full ↔ s.files.node? loc = some .full := by
  rcases rewritten_of_write_eq_ok h loc with heq | ⟨mode, content, content', hthere, hthere'⟩
  · rw [heq]
  · rw [hthere, hthere']
    simp

/-- Writing does not change what takes a write. -/
theorem takes_write_iff (h : s.write handle data = .ok s') (other : Handle) :
    s'.Takes other ↔ s.Takes other := by
  unfold Takes
  rcases opened_write h other with
    ⟨hnone, hnone'⟩ | ⟨file, moved, hfile, hmoved, hwritable, htarget⟩
  · simp only [hnone, hnone', reduceCtorEq, false_and, exists_false]
  · simp only [hfile, hmoved, Option.some.injEq, exists_eq_left', hwritable, htarget, ne_eq,
      full_write_iff h]

/-- Nor what refuses one. -/
theorem refuses_write_iff (h : s.write handle data = .ok s') (other : Handle) :
    s'.Refuses other ↔ s.Refuses other := by
  unfold Refuses
  rcases opened_write h other with
    ⟨hnone, hnone'⟩ | ⟨file, moved, hfile, hmoved, hwritable, htarget⟩
  · simp only [hnone, hnone', reduceCtorEq, false_and, exists_false]
  · simp only [hfile, hmoved, Option.some.injEq, exists_and_left, exists_eq_left', hwritable,
      htarget, full_write_iff h]

/-- Nor where an open file leads. -/
theorem leadsTo_write_iff (h : s.write handle data = .ok s') (other : Handle) (loc : Location) :
    s'.LeadsTo other loc ↔ s.LeadsTo other loc := by
  unfold LeadsTo
  rcases opened_write h other with ⟨hnone, hnone'⟩ | ⟨file, moved, hfile, hmoved, -, htarget⟩
  · simp only [hnone, hnone']
  · simp only [hfile, hmoved, Option.some.injEq, exists_eq_left', htarget]

/-! ### Two systems -/

/-- The second system is the first one, but for a file at a location, which is open for writing
under one more number and holds a content up to where the next byte is written. -/
structure Beside (s s' : System) (loc : Location) (permissions : Nat) (content : Bytes) :
    Prop where
  signals : s'.signals = s.signals
  opened : ∃ file, s'.opened = s.opened ++ [file] ∧ file.target = .entry loc ∧
    file.writable = true ∧ (file.appending = true ∨ file.offset = content.length)
  file : s'.files.node? loc = some (.file permissions content)
  others : ∀ other, other ≠ loc → s'.files.node? other = s.files.node? other

variable {loc : Location} {permissions : Nat} {content : Bytes}

/-- **The same write in both systems**, to an open file that does not lead to the location. -/
theorem Beside.write (h : s.Beside s' loc permissions content) (hapart : ¬s'.LeadsTo handle loc)
    (data : Bytes) :
    (∃ errno, s.write handle data = .error errno ∧ s'.write handle data = .error errno) ∨
      ∃ t t', s.write handle data = .ok t ∧ s'.write handle data = .ok t' ∧
        t.Beside t' loc permissions content := by
  obtain ⟨added, hopened, htarget, hwritable, hend⟩ := h.opened
  have hother : handle ≠ s.opened.length := by
    rintro rfl
    exact hapart ⟨added, hopened ▸ List.getElem?_concat_length, htarget⟩
  have hsame : s'.opened[handle]? = s.opened[handle]? := by
    rw [hopened, List.getElem?_append]
    split
    · rfl
    · next hge =>
      have hgt : s.opened.length < handle :=
        Nat.lt_of_le_of_ne (Nat.le_of_not_lt hge) hother.symm
      have hbehind : [added].length ≤ handle - s.opened.length := Nat.sub_pos_of_lt hgt
      rw [List.getElem?_eq_none hbehind, List.getElem?_eq_none (Nat.le_of_lt hgt)]
  cases hfile : s.opened[handle]? with
  | none =>
    refine .inl ⟨.badDescriptor, ?_, ?_⟩
    · simp only [System.write, hfile]
    · simp only [System.write, hsame, hfile]
  | some file =>
  have hfile' : s'.opened[handle]? = some file := hsame.trans hfile
  have hne : file.target ≠ .entry loc := fun heq => hapart ⟨file, hfile', heq⟩
  have hlt : handle < s.opened.length := (List.getElem?_eq_some_iff.1 hfile).1
  have hset : ∀ moved, s'.opened.set handle moved = s.opened.set handle moved ++ [added] := by
    intro moved
    rw [hopened, List.set_append_left _ _ hlt]
  have hcontent : s'.content file = s.content file := by
    unfold System.content
    cases hentry : file.target with
    | unnamed content => rfl
    | entry there =>
      simp only
      rw [h.others there fun heq => hne (heq ▸ hentry)]
  unfold System.write
  simp only [hfile, hfile', hcontent]
  cases hwrites : file.writable with
  | false => exact .inl ⟨.badDescriptor, rfl, rfl⟩
  | true =>
    cases hentry : file.target with
    | unnamed kept =>
      exact .inr ⟨_, _, rfl, rfl, h.signals, ⟨added, hset _, htarget, hwritable, hend⟩, h.file,
        h.others⟩
    | entry there =>
      have hthere : there ≠ loc := fun heq => hne (heq ▸ hentry)
      simp only [Bool.not_true, Bool.false_eq_true, if_false, h.others there hthere]
      cases hnode : s.files.node? there with
      | none => exact .inr ⟨s, s', rfl, rfl, h⟩
      | some node =>
        cases node with
        | file mode kept =>
          refine .inr ⟨_, _, rfl, rfl, h.signals, ⟨added, hset _, htarget, hwritable, hend⟩,
            ?_, fun other hother => ?_⟩
          · exact (FileSystem.node?_put_of_ne _ hthere.symm _).trans h.file
          · have hnamed := FileSystem.isNamed_of_file hnode
            simp only [FileSystem.node?_put _ hnamed, h.others other hother]
        | full =>
          simp only
          split
          · exact .inr ⟨s, s', rfl, rfl, h⟩
          · exact .inl ⟨.noSpace, rfl, rfl⟩
        | _ => exact .inr ⟨s, s', rfl, rfl, h⟩

/-- **A write to the file that is open besides** puts the data at its end. -/
theorem Beside.write_file (h : s.Beside s' loc permissions content) (data : Bytes) :
    ∃ t', s'.write s.opened.length data = .ok t' ∧
      s.Beside t' loc permissions (content ++ data) := by
  obtain ⟨added, hopened, htarget, hwritable, hend⟩ := h.opened
  have hadded : s'.opened[s.opened.length]? = some added := by
    rw [hopened]
    exact List.getElem?_concat_length
  have hcontent : s'.content added = content := by
    simp only [System.content, htarget, h.file]
  have hstart : (if added.appending then content.length else added.offset) = content.length := by
    rcases hend with happending | hoffset
    · rw [if_pos happending]
    · rw [hoffset, ite_self]
  unfold System.write
  simp only [hadded, hwritable, htarget, h.file, hcontent, hstart, overwrite_length,
    Bool.not_true, Bool.false_eq_true, if_false]
  let moved : OpenFile := { added with
    target := .entry loc, offset := content.length + data.length, writable := true }
  refine ⟨_, rfl, h.signals, ⟨moved, ?_, rfl, rfl, .inr List.length_append.symm⟩, ?_,
    fun other hother => ?_⟩
  · rw [hopened, List.set_append_right _ _ (Nat.le_refl _), Nat.sub_self]
    rfl
  · rw [FileSystem.node?_put _ (FileSystem.isNamed_of_file h.file), if_pos rfl]
  · exact (FileSystem.node?_put_of_ne _ hother _).trans (h.others other hother)

end System

namespace World

/-! ### Descriptors -/

/-- A descriptor takes what is written to it. -/
def Takes (w : World) (fd : Nat) : Prop :=
  ∃ handle, w.process.descriptors.get? fd = some handle ∧ w.system.Takes handle

variable {w w' : World} {fd : Nat} {data : Bytes}

/-- Something can be written exactly if it is taken. -/
theorem isSome_write_iff (h : data ≠ []) :
    (w.write fd data).toOption.isSome = true ↔ w.Takes fd := by
  unfold write Takes
  cases w.process.descriptors.get? fd with
  | none => simp [Except.toOption]
  | some handle =>
    simp only [Option.some.injEq, exists_eq_left', ← System.isSome_write_iff h]
    cases w.system.write handle data <;> rfl

/-- What is taken is written. -/
theorem exists_write_of_takes (h : w.Takes fd) (hdata : data ≠ []) :
    ∃ w', w.write fd data = .ok w' := by
  have hsome := (isSome_write_iff hdata).2 h
  cases hwrite : w.write fd data with
  | error errno =>
    rw [hwrite] at hsome
    cases hsome
  | ok w' => exact ⟨w', rfl⟩

/-- Writing changes nothing but the system. -/
theorem exists_of_write_eq_ok (h : w.write fd data = .ok w') :
    ∃ handle system, w.process.descriptors.get? fd = some handle ∧
      w.system.write handle data = .ok system ∧ w' = { w with system } := by
  unfold write at h
  split at h
  · cases h
  · next handle hhandle =>
    cases hwrite : w.system.write handle data with
    | error errno =>
      rw [hwrite] at h
      cases h
    | ok system =>
      rw [hwrite] at h
      cases h
      exact ⟨handle, system, hhandle, hwrite, rfl⟩

/-- A descriptor has no room for anything that is written to it. -/
def Refuses (w : World) (fd : Nat) : Prop :=
  ∃ handle, w.process.descriptors.get? fd = some handle ∧ w.system.Refuses handle

/-- What is written to a descriptor goes to the file at a location. -/
def LeadsTo (w : World) (fd : Nat) (loc : Location) : Prop :=
  ∃ handle, w.process.descriptors.get? fd = some handle ∧ w.system.LeadsTo handle loc

/-- A descriptor leads to one file at most. -/
theorem LeadsTo.unique {loc other : Location} (h : w.LeadsTo fd loc) (h' : w.LeadsTo fd other) :
    loc = other := by
  obtain ⟨handle, hhandle, file, hfile, htarget⟩ := h
  obtain ⟨handle', hhandle', file', hfile', htarget'⟩ := h'
  obtain rfl : handle = handle' := Option.some.inj (hhandle.symm.trans hhandle')
  obtain rfl : file = file' := Option.some.inj (hfile.symm.trans hfile')
  exact Target.entry.inj (htarget.symm.trans htarget')

/-- A descriptor without room leads to a device that never has room. -/
theorem Refuses.leadsTo (h : w.Refuses fd) :
    ∃ loc, w.LeadsTo fd loc ∧ w.system.files.node? loc = some .full := by
  obtain ⟨handle, hhandle, file, loc, hfile, -, htarget, hfull⟩ := h
  exact ⟨loc, ⟨handle, hhandle, file, hfile, htarget⟩, hfull⟩

/-- A stream is open, and what is written to it does not go to the file at a location. -/
def GoesElsewhere (w : World) (stream : OutputStream) (loc : Location) : Prop :=
  ∃ handle file, w.process.descriptors.get? stream.descriptor = some handle ∧
    w.system.opened[handle]? = some file ∧ file.target ≠ .entry loc

/-! ### Writing to a standard stream -/

/-- What can be written to a descriptor can be written to it as a standard stream. -/
theorem writeStandard_eq_ok (h : w.write fd data = .ok w') : w.writeStandard fd data = .ok w' := by
  simp only [writeStandard, h]

/-- What has been written to a standard stream has been written to its descriptor, unless the stream
has been passed over. -/
theorem write_of_writeStandard_eq_ok (h : w.writeStandard fd data = .ok w') :
    w.write fd data = .ok w' ∨ w.write fd data = .error .badDescriptor ∧ w' = w := by
  unfold writeStandard at h
  split at h
  · next hwrite => exact .inl (hwrite.trans h)
  · next errno hwrite =>
    split at h
    · next hbad =>
      cases h
      exact .inr ⟨hbad ▸ hwrite, rfl⟩
    · cases h

/-- Something cannot be written to a standard stream exactly if it is refused. -/
theorem refuses_iff_writeStandard (h : data ≠ []) :
    w.Refuses fd ↔ ∃ errno, w.writeStandard fd data = .error errno := by
  unfold writeStandard write Refuses
  cases w.process.descriptors.get? fd with
  | none => simp
  | some handle =>
    simp only [Option.some.injEq, exists_eq_left']
    cases hwrite : w.system.write handle data with
    | ok system =>
      have hroom : ¬w.system.Refuses handle := by
        intro hrefuses
        rw [(System.write_eq_error_iff h).2 (.inl ⟨rfl, hrefuses⟩)] at hwrite
        cases hwrite
      simp [Except.map, hroom]
    | error errno =>
      rcases (System.write_eq_error_iff h).1 hwrite with ⟨rfl, hrefuses⟩ | ⟨rfl, hclosed⟩
      · have hbad : Errno.noSpace ≠ .badDescriptor := by decide
        simp [Except.map, hrefuses, hbad]
      · have hroom : ¬w.system.Refuses handle := by
          rintro ⟨file, loc, hfile, hwritable, -⟩
          rw [hclosed file hfile] at hwritable
          cases hwritable
        simp [Except.map, hroom]

/-- What is not refused is written, or passed over. -/
theorem exists_writeStandard_of_not_refuses (h : ¬w.Refuses fd) (hdata : data ≠ []) :
    ∃ w', w.writeStandard fd data = .ok w' := by
  cases hwrite : w.writeStandard fd data with
  | error errno => exact absurd ((refuses_iff_writeStandard hdata).2 ⟨errno, hwrite⟩) h
  | ok w' => exact ⟨w', rfl⟩

/-! ### What writing leaves as it is -/

/-- The descriptors of two worlds take and refuse the same, and lead to the same files. -/
structure SameOutlets (w w' : World) : Prop where
  process : w'.process = w.process
  takes : ∀ fd, w'.Takes fd ↔ w.Takes fd
  refuses : ∀ fd, w'.Refuses fd ↔ w.Refuses fd
  leadsTo : ∀ fd loc, w'.LeadsTo fd loc ↔ w.LeadsTo fd loc

/-- Writing changes nothing about where to write. -/
theorem sameOutlets_write (h : w.write fd data = .ok w') : w.SameOutlets w' := by
  obtain ⟨handle, system, -, hwrite, rfl⟩ := exists_of_write_eq_ok h
  exact {
    process := rfl
    takes := fun other => by simp only [Takes, System.takes_write_iff hwrite]
    refuses := fun other => by simp only [Refuses, System.refuses_write_iff hwrite]
    leadsTo := fun other loc => by simp only [LeadsTo, System.leadsTo_write_iff hwrite] }

/-- Nor does writing to a standard stream. -/
theorem sameOutlets_writeStandard (h : w.writeStandard fd data = .ok w') : w.SameOutlets w' := by
  rcases write_of_writeStandard_eq_ok h with hwrite | ⟨-, rfl⟩
  · exact sameOutlets_write hwrite
  · exact ⟨rfl, fun _ => Iff.rfl, fun _ => Iff.rfl, fun _ _ => Iff.rfl⟩

/-! ### Two worlds -/

/-- The second world is the first one, but for a file at a location, for which it has one more open
file and one more descriptor. -/
structure Beside (w w' : World) (loc : Location) (permissions : Nat) (content : Bytes) : Prop where
  process : w'.process = { w.process with
    descriptors := w.process.descriptors.set w.process.descriptors.unused w.system.opened.length }
  console : w'.console = w.console
  children : w'.children = w.children
  nextChild : w'.nextChild = w.nextChild
  system : w.system.Beside w'.system loc permissions content

variable {loc : Location} {permissions : Nat} {content : Bytes}

/-- The descriptor of the file leads to it. -/
theorem Beside.get?_unused (h : w.Beside w' loc permissions content) :
    w'.process.descriptors.get? w.process.descriptors.unused = some w.system.opened.length := by
  rw [h.process, Descriptors.get?_set, if_pos rfl]

/-- The other descriptors are what they were. -/
theorem Beside.get?_of_ne (h : w.Beside w' loc permissions content)
    (hother : fd ≠ w.process.descriptors.unused) :
    w'.process.descriptors.get? fd = w.process.descriptors.get? fd := by
  rw [h.process, Descriptors.get?_set, if_neg hother]

/-- **The same write in both worlds**, to a descriptor that does not lead to the file. -/
theorem Beside.write (h : w.Beside w' loc permissions content) (hapart : ¬w'.LeadsTo fd loc)
    (data : Bytes) :
    (∃ errno, w.write fd data = .error errno ∧ w'.write fd data = .error errno) ∨
      ∃ t t', w.write fd data = .ok t ∧ w'.write fd data = .ok t' ∧
        t.Beside t' loc permissions content := by
  have hused : fd ≠ w.process.descriptors.unused := by
    rintro rfl
    obtain ⟨added, hopened, htarget, -⟩ := h.system.opened
    refine hapart ⟨_, h.get?_unused, added, ?_, htarget⟩
    rw [hopened]
    exact List.getElem?_concat_length
  have hsame := h.get?_of_ne hused
  unfold World.write
  cases hhandle : w.process.descriptors.get? fd with
  | none =>
    rw [hsame, hhandle]
    exact .inl ⟨_, rfl, rfl⟩
  | some handle =>
    rw [hsame, hhandle]
    simp only
    have hfile : ¬w'.system.LeadsTo handle loc :=
      fun hleads => hapart ⟨handle, hsame.trans hhandle, hleads⟩
    rcases h.system.write hfile data with ⟨errno, hwrite, hwrite'⟩ | ⟨t, t', hwrite, hwrite', ht⟩
    · rw [hwrite, hwrite']
      exact .inl ⟨errno, rfl, rfl⟩
    · rw [hwrite, hwrite']
      have hlength : t.opened.length = w.system.opened.length := by
        obtain ⟨file, moved, -, hopened, -⟩ := System.write_spec hwrite
        rw [hopened, List.length_set]
      refine .inr ⟨_, _, rfl, rfl, ?_, h.console, h.children, h.nextChild, ht⟩
      simp only [hlength]
      exact h.process

/-- The same with the descriptor of a standard stream. -/
theorem Beside.writeStandard (h : w.Beside w' loc permissions content)
    (hapart : ¬w'.LeadsTo fd loc) (data : Bytes) :
    (∃ errno, w.writeStandard fd data = .error errno ∧
        w'.writeStandard fd data = .error errno) ∨
      ∃ t t', w.writeStandard fd data = .ok t ∧ w'.writeStandard fd data = .ok t' ∧
        t.Beside t' loc permissions content := by
  unfold World.writeStandard
  rcases h.write hapart data with ⟨errno, hwrite, hwrite'⟩ | ⟨t, t', hwrite, hwrite', ht⟩
  · rw [hwrite, hwrite']
    simp only
    split
    · exact .inr ⟨w, w', rfl, rfl, h⟩
    · exact .inl ⟨errno, rfl, rfl⟩
  · rw [hwrite, hwrite']
    exact .inr ⟨t, t', rfl, rfl, ht⟩

/-- The file takes what is written to it. -/
theorem Beside.takes (h : w.Beside w' loc permissions content) :
    w'.Takes w.process.descriptors.unused := by
  obtain ⟨added, hopened, htarget, hwritable, -⟩ := h.system.opened
  refine ⟨_, h.get?_unused, added, ?_, hwritable, fun there hthere => ?_⟩
  · rw [hopened]
    exact List.getElem?_concat_length
  · obtain rfl : loc = there := by simpa [htarget] using hthere
    rw [h.system.file]
    simp

/-- The open files that a descriptor has had are still behind it. -/
theorem Beside.opened_eq (h : w.Beside w' loc permissions content) {handle : Handle}
    {file : OpenFile} (hhandle : w.process.descriptors.get? fd = some handle)
    (hfile : w.system.opened[handle]? = some file) :
    w'.process.descriptors.get? fd = some handle ∧ w'.system.opened[handle]? = some file := by
  obtain ⟨added, hopened, -⟩ := h.system.opened
  have hused : fd ≠ w.process.descriptors.unused := by
    rintro rfl
    rw [Descriptors.get?_unused] at hhandle
    cases hhandle
  refine ⟨(h.get?_of_ne hused).trans hhandle, ?_⟩
  rw [hopened, List.getElem?_append_left (List.getElem?_eq_some_iff.1 hfile).1, hfile]

/-- So they lead where they have led. -/
theorem Beside.leadsTo (h : w.Beside w' loc permissions content) {there : Location}
    (hleads : w.LeadsTo fd there) : w'.LeadsTo fd there := by
  obtain ⟨handle, hhandle, file, hfile, htarget⟩ := hleads
  obtain ⟨hhandle', hfile'⟩ := h.opened_eq hhandle hfile
  exact ⟨handle, hhandle', file, hfile', htarget⟩

/-- What is refused without the file is refused with it, and nothing else. -/
theorem Beside.refuses_iff (h : w.Beside w' loc permissions content)
    (hroom : w.system.files.node? loc ≠ some .full) (other : Nat) :
    w'.Refuses other ↔ w.Refuses other := by
  by_cases hleads : w'.LeadsTo other loc
  · -- the file is no device, and has not been one
    refine iff_of_false (fun hrefuses => ?_) fun hrefuses => ?_
    · obtain ⟨there, hthere, hfull⟩ := hrefuses.leadsTo
      rw [← hleads.unique hthere, h.system.file] at hfull
      cases hfull
    · obtain ⟨there, hthere, hfull⟩ := hrefuses.leadsTo
      rw [← hleads.unique (h.leadsTo hthere)] at hfull
      exact hroom hfull
  · -- a write tells
    have hdata : ([0] : Bytes) ≠ [] := List.cons_ne_nil _ _
    rw [refuses_iff_writeStandard hdata, refuses_iff_writeStandard hdata]
    rcases h.writeStandard hleads [0] with ⟨errno, hwrite, hwrite'⟩ | ⟨t, t', hwrite, hwrite', -⟩
    · rw [hwrite, hwrite']
    · rw [hwrite, hwrite']
      simp

/-- A stream that goes elsewhere does not lead to the file, whatever has been opened besides. -/
theorem Beside.not_leadsTo (h : w.Beside w' loc permissions content) {stream : OutputStream}
    (helsewhere : w.GoesElsewhere stream loc) : ¬w'.LeadsTo stream.descriptor loc := by
  obtain ⟨handle, file, hhandle, hfile, hne⟩ := helsewhere
  obtain ⟨hsame, hsameFile⟩ := h.opened_eq hhandle hfile
  rintro ⟨handle', hhandle', file', hfile', htarget⟩
  rw [hsame] at hhandle'
  cases hhandle'
  rw [hsameFile] at hfile'
  cases hfile'
  exact hne htarget

/-- **A write to the file** that the second world has open besides. -/
theorem Beside.write_file (h : w.Beside w' loc permissions content) (data : Bytes) :
    ∃ t', w'.write w.process.descriptors.unused data = .ok t' ∧
      w.Beside t' loc permissions (content ++ data) := by
  obtain ⟨system, hwrite, hsystem⟩ := h.system.write_file data
  unfold World.write
  simp only [h.get?_unused, hwrite]
  exact ⟨_, rfl, h.process, h.console, h.children, h.nextChild, hsystem⟩

/-! ### Opening the file -/

/-- A path opens for writing as a plain file at a location, under a descriptor. -/
structure OpensFile (w : World) (mode : WriteMode) (path : String) (loc : Location) (fd : Nat)
    (opened : World) : Prop where
  opens : w.openForWriting mode path = .ok (fd, opened)
  located : ∃ place, w.system.files.locate .create w.process.directory (Bytes.ofString path) =
    .ok place ∧ place.location = loc
  plain : ∃ permissions content, opened.system.files.node? loc = some (.file permissions content)

end World

/-- The content of the plain file at a location, if there is one. -/
def FileSystem.contentAt (fs : FileSystem) (loc : Location) : Bytes :=
  match fs.node? loc with
  | some (.file _ content) => content
  | _ => []

/-- What a file holds once it is ready for writing. -/
def FileSystem.keptContent (fs : FileSystem) (mode : WriteMode) (loc : Location) : Bytes :=
  match mode with
  | .truncate => []
  | .append => fs.contentAt loc

/-- A plain file that is ready for writing holds what is kept of it. -/
theorem FileSystem.MadeReady.content_eq {fs fs' : FileSystem} {loc : Location}
    {permissions mode' : Nat} {mode : WriteMode} {content : Bytes}
    (h : fs.MadeReady loc permissions mode fs')
    (hfile : fs'.node? loc = some (.file mode' content)) :
    content = fs.keptContent mode loc := by
  cases h with
  | created hnamed hnone =>
    rw [node?_put _ hnamed, if_pos rfl] at hfile
    cases hfile
    cases mode with
    | truncate => rfl
    | append => simp only [keptContent, contentAt, hnone]
  | emptied hmode hthere =>
    rw [node?_put _ (isNamed_of_file hthere), if_pos rfl] at hfile
    cases hfile
    rw [hmode]
    rfl
  | left hnode hmode =>
    rw [hnode] at hfile
    cases hfile
    rw [hmode mode' content rfl]
    simp only [keptContent, contentAt, hnode]

/-- A plain file that is ready for writing was no directory before. -/
theorem FileSystem.MadeReady.isDirectory {fs fs' : FileSystem} {loc : Location}
    {permissions mode' : Nat} {mode : WriteMode} {content : Bytes}
    (h : fs.MadeReady loc permissions mode fs')
    (hfile : fs'.node? loc = some (.file mode' content)) (here : Location) :
    fs'.isDirectory here = fs.isDirectory here := by
  by_cases hhere : here = loc
  · subst hhere
    cases h with
    | created hnamed hnone => simp [FileSystem.isDirectory, hfile, hnone]
    | emptied hmode hthere => simp [FileSystem.isDirectory, hfile, hthere]
    | left hnode hmode => rfl
  · rw [FileSystem.isDirectory, FileSystem.isDirectory, h.node?_of_ne hhere]

namespace World.OpensFile

variable {w opened : World} {mode : WriteMode} {path : String} {loc : Location} {fd : Nat}

/-- All that opening the file does. -/
theorem spec (h : w.OpensFile mode path loc fd opened) :
    fd = w.process.descriptors.unused ∧
      ∃ system, w.system.files.MadeReady loc newFileMode mode system.files ∧
        system.opened = w.system.opened ++
          [{ target := .entry loc, writable := true, appending := mode = .append }] ∧
        system.signals = w.system.signals ∧
        opened = { w with
          system
          process := { w.process with
            descriptors := w.process.descriptors.set fd w.system.opened.length } } := by
  obtain ⟨handle, system, hopen, hfd, rfl⟩ := exists_of_openForWriting_eq_ok h.opens
  obtain ⟨place, hplace, rfl, hready, hopened, hsignals⟩ :=
    System.exists_of_openForWriting_eq_ok hopen
  obtain ⟨located, hlocated, rfl⟩ := h.located
  obtain rfl : place = located := Except.ok.inj (hplace.symm.trans hlocated)
  exact ⟨hfd, system, hready, hopened, hsignals, rfl⟩

/-- **How worlds come to stand beside each other**: a plain file is opened in the second one. -/
theorem beside (h : w.OpensFile mode path loc fd opened) :
    ∃ permissions, w.Beside opened loc permissions (w.system.files.keptContent mode loc) := by
  obtain ⟨permissions, content, hfile⟩ := h.plain
  obtain ⟨rfl, system, hready, hopened, hsignals, rfl⟩ := h.spec
  have hcontent := hready.content_eq hfile
  refine ⟨permissions, rfl, rfl, rfl, rfl, hsignals, ⟨_, hopened, rfl, rfl, ?_⟩,
    hcontent ▸ hfile, fun other hother => hready.node?_of_ne hother⟩
  cases mode with
  | truncate => exact .inr rfl
  | append => exact .inl rfl

/-- Opening the file does not change what is refused. -/
theorem refuses_iff (h : w.OpensFile mode path loc fd opened) (other : Nat) :
    opened.Refuses other ↔ w.Refuses other := by
  obtain ⟨permissions, hbeside⟩ := h.beside
  refine hbeside.refuses_iff (fun hfull => ?_) other
  obtain ⟨_, _, hplain⟩ := h.plain
  obtain ⟨-, system, hready, -, -, rfl⟩ := h.spec
  simp only at hplain
  -- a device is not made a plain file
  generalize system.files = files at hready hplain
  cases hready with
  | created hnamed hnone =>
    rw [hnone] at hfull
    cases hfull
  | emptied hmode hkept =>
    rw [hkept] at hfull
    cases hfull
  | left hnode hmode =>
    rw [hfull] at hplain
    cases hplain

/-- The file itself takes what is written to it. -/
theorem takes (h : w.OpensFile mode path loc fd opened) : opened.Takes fd := by
  obtain ⟨permissions, hbeside⟩ := h.beside
  rw [h.spec.1]
  exact hbeside.takes

end World.OpensFile

/-! ### Several writes -/

/-- The world after writes to the streams, if all of them can be done. -/
def World.writeAll : World → List (OutputStream × Bytes) → Option World
  | w, [] => some w
  | w, (stream, data) :: rest =>
    (w.writeStandard stream.descriptor data).toOption.bind (·.writeAll rest)

/-- The bytes that writes bring to a stream. -/
def bytesOn (stream : OutputStream) (writes : List (OutputStream × Bytes)) : Bytes :=
  (writes.filter (·.1 = stream)).flatMap (·.2)

@[simp] theorem bytesOn_nil (stream : OutputStream) : bytesOn stream [] = [] := rfl

@[simp] theorem bytesOn_cons_self (stream : OutputStream) (data : Bytes)
    (writes : List (OutputStream × Bytes)) :
    bytesOn stream ((stream, data) :: writes) = data ++ bytesOn stream writes := by
  simp [bytesOn]

theorem bytesOn_cons_of_ne {stream other : OutputStream} (h : other ≠ stream) (data : Bytes)
    (writes : List (OutputStream × Bytes)) :
    bytesOn stream ((other, data) :: writes) = bytesOn stream writes := by
  simp [bytesOn, h]

theorem World.writeAll_cons {w w' : World} {stream : OutputStream} {data : Bytes}
    (h : w.writeStandard stream.descriptor data = .ok w') (rest : List (OutputStream × Bytes)) :
    w.writeAll ((stream, data) :: rest) = w'.writeAll rest := by
  rw [writeAll, h]
  rfl

end LineShell
