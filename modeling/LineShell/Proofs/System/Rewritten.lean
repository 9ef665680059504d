import LineShell.Proofs.System.OpenTarget

/-!
# Files with another content

Two file systems differ in nothing but what their plain files hold.  Then a path that does not end
at such a file leads to the same place in both, or to the same error; and so the same directories
can be entered, for the same errors.

## Main definitions

* `FileSystem.Rewritten` — the same entries, but for the content of plain files.

## Main results

* `FileSystem.Rewritten.advance`, `FileSystem.Rewritten.locate` — **where a path leads in both.**
* `System.enterDirectory_of_rewritten` — the same directories can be entered.
* `FileSystem.MadeReady.rewritten` — a file that exists already is made ready by rewriting it.
* `System.write_spec`, `System.rewritten_of_write_eq_ok` — **all that writing does**, and that it is
  nothing but rewriting.
-/

namespace LineShell

namespace FileSystem

/-- Two file systems have the same entries, but for the content of plain files. -/
def Rewritten (fs fs' : FileSystem) : Prop :=
  ∀ loc, fs'.node? loc = fs.node? loc ∨
    ∃ mode content content', fs.node? loc = some (.file mode content) ∧
      fs'.node? loc = some (.file mode content')

variable {fs fs' : FileSystem}

theorem Rewritten.refl (fs : FileSystem) : fs.Rewritten fs :=
  fun _ => .inl rfl

/-- Another content of a plain file. -/
theorem rewritten_put {loc : Location} {mode : Nat} {content : Bytes}
    (h : fs.node? loc = some (.file mode content)) (content' : Bytes) :
    fs.Rewritten (fs.put loc (.file mode content')) := by
  intro other
  rw [node?_put _ (isNamed_of_file h)]
  by_cases hother : other = loc
  · subst hother
    exact .inr ⟨mode, content, content', h, if_pos rfl⟩
  · exact .inl (if_neg hother)

/-- A file that exists already is made ready for writing by rewriting it. -/
theorem MadeReady.rewritten {loc : Location} {permissions : Nat} {mode : WriteMode}
    (h : fs.MadeReady loc permissions mode fs') (hthere : fs.node? loc ≠ none) :
    fs.Rewritten fs' := by
  cases h with
  | created hnamed hnone => exact absurd hnone hthere
  | emptied hmode hfile => exact rewritten_put hfile []
  | left hnode hmode => exact .refl fs

/-- The same directories stand in both. -/
theorem Rewritten.isDirectory (h : fs.Rewritten fs') (loc : Location) :
    fs'.isDirectory loc = fs.isDirectory loc := by
  unfold FileSystem.isDirectory
  rcases h loc with heq | ⟨mode, content, content', hfile, hfile'⟩
  · rw [heq]
  · rw [hfile, hfile']
    simp

/-- Names are followed equally far in both, but for the content of a file at their end. -/
theorem Rewritten.advance (h : fs.Rewritten fs') {purpose : Purpose} {ending : Bool}
    {names : List Name} : ∀ here : Location,
      fs'.advance purpose ending here names = fs.advance purpose ending here names ∨
        ∃ loc mode content content',
          fs.advance purpose ending here names = .arrived (.entry loc (.file mode content)) ∧
          fs'.advance purpose ending here names = .arrived (.entry loc (.file mode content')) := by
  induction names with
  | nil => exact fun _ => .inl rfl
  | cons name rest ih =>
    intro here
    rw [FileSystem.advance, FileSystem.advance, h.isDirectory]
    split
    · exact ih _
    split
    · exact ih _
    split
    · exact .inl rfl
    split
    · exact .inl rfl
    rcases h (name :: here) with heq | ⟨mode, content, content', hfile, hfile'⟩
    · rw [heq]
      split
      · exact .inl rfl
      · exact ih _
      · exact .inl rfl
      · exact .inl rfl
    · -- a file ends the route, if need be with an error
      rw [hfile, hfile']
      simp only
      split
      · exact .inr ⟨name :: here, mode, content, content', rfl, rfl⟩
      · exact .inl rfl

/-- Links are followed to the same places. -/
theorem Rewritten.follow (h : fs.Rewritten fs') {purpose : Purpose} {links : Nat} :
    ∀ (ending : Bool) (here : Location) (names : List Name),
      fs'.follow purpose links ending here names = fs.follow purpose links ending here names ∨
        ∃ loc mode content content',
          fs.follow purpose links ending here names = .ok (.entry loc (.file mode content)) ∧
          fs'.follow purpose links ending here names = .ok (.entry loc (.file mode content')) := by
  induction links with
  | zero =>
    intro ending here names
    rw [FileSystem.follow, FileSystem.follow]
    rcases h.advance here with heq | ⟨loc, mode, content, content', hfile, hfile'⟩
    · rw [heq]
      exact .inl rfl
    · rw [hfile, hfile']
      exact .inr ⟨loc, mode, content, content', rfl, rfl⟩
  | succ links ih =>
    intro ending here names
    rw [FileSystem.follow, FileSystem.follow]
    rcases h.advance here with heq | ⟨loc, mode, content, content', hfile, hfile'⟩
    · rw [heq]
      cases fs.advance purpose ending here names with
      | arrived place => exact .inl rfl
      | failed errno => exact .inl rfl
      | atLink directory target rest =>
        simp only
        split
        · exact .inl rfl
        · exact ih _ _ _
    · rw [hfile, hfile']
      exact .inr ⟨loc, mode, content, content', rfl, rfl⟩

/-- **A path leads to the same place in both**, but for the content of a file, or to the same
error. -/
theorem Rewritten.locate (h : fs.Rewritten fs') (purpose : Purpose) (here : Location)
    (path : Bytes) :
    fs'.locate purpose here path = fs.locate purpose here path ∨
      ∃ loc mode content content',
        fs.locate purpose here path = .ok (.entry loc (.file mode content)) ∧
        fs'.locate purpose here path = .ok (.entry loc (.file mode content')) := by
  unfold FileSystem.locate
  split
  · exact .inl rfl
  split
  · exact .inl rfl
  · exact h.follow _ _ _

end FileSystem

namespace System

/-- The same directories can be entered, and the others for the same errors not. -/
theorem enterDirectory_of_rewritten {s s' : System} (h : s.files.Rewritten s'.files)
    (here : Location) (path : Bytes) :
    s'.enterDirectory here path = s.enterDirectory here path := by
  unfold enterDirectory FileSystem.find
  rcases h.locate .find here path with heq | ⟨loc, mode, content, content', hfile, hfile'⟩
  · rw [heq]
  · rw [hfile, hfile']
    rfl

/-- All that writing does: the open file moves on and stays what it is otherwise, and the file that
it leads to may hold something else. -/
theorem write_spec {s s' : System} {handle : Handle} {data : Bytes}
    (h : s.write handle data = .ok s') :
    ∃ file moved, s.opened[handle]? = some file ∧ s'.opened = s.opened.set handle moved ∧
      moved.writable = file.writable ∧
      (∀ loc, moved.target = .entry loc ↔ file.target = .entry loc) ∧
      s'.signals = s.signals ∧
      (s'.files = s.files ∨ ∃ loc mode content content', file.target = .entry loc ∧
        s.files.node? loc = some (.file mode content) ∧
        s'.files = s.files.put loc (.file mode content')) := by
  unfold write at h
  split at h
  · cases h
  · next file hfile =>
    have hstay : s.opened = s.opened.set handle file := by
      obtain ⟨hlt, rfl⟩ := List.getElem?_eq_some_iff.1 hfile
      exact (List.set_getElem_self hlt).symm
    split at h
    · cases h
    · simp only at h
      split at h
      · next content htarget =>
        cases h
        refine ⟨file, _, hfile, rfl, rfl, fun loc => ?_, rfl, .inl rfl⟩
        simp [htarget]
      · next loc htarget =>
        split at h
        · next mode content hnode =>
          cases h
          exact ⟨file, _, hfile, rfl, rfl, fun _ => Iff.rfl, rfl,
            .inr ⟨loc, mode, content, _, htarget, hnode, rfl⟩⟩
        · split at h
          · cases h
            exact ⟨file, file, hfile, hstay, rfl, fun _ => Iff.rfl, rfl, .inl rfl⟩
          · cases h
        · cases h
          exact ⟨file, file, hfile, hstay, rfl, fun _ => Iff.rfl, rfl, .inl rfl⟩

/-- Writing is nothing but rewriting. -/
theorem rewritten_of_write_eq_ok {s s' : System} {handle : Handle} {data : Bytes}
    (h : s.write handle data = .ok s') : s.files.Rewritten s'.files := by
  obtain ⟨file, moved, -, -, -, -, -, hfiles⟩ := write_spec h
  rcases hfiles with heq | ⟨loc, mode, content, content', -, hnode, heq⟩
  · rw [heq]
    exact .refl _
  · rw [heq]
    exact FileSystem.rewritten_put hnode content'

end System

end LineShell
