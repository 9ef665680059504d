/-!
# The home directory in a word

A word that is `~`, or starts with `~/`, stands for the home directory and what follows it.

## Main definitions

* `expandTilde` — the word with its tilde replaced.
-/

namespace LineShell

/-- Replaces a leading tilde by the home directory.  Without a home directory, and for any other
word (`~name` among them), the word stays as it is. -/
def expandTilde (home : Option String) (word : String) : String :=
  match word.toList, home with
  | ['~'], some home => home
  | '~' :: '/' :: rest, some home => home ++ String.ofList ('/' :: rest)
  | _, _ => word

/-- Without a home directory nothing is replaced. -/
@[simp] theorem expandTilde_none (word : String) : expandTilde none word = word := by
  unfold expandTilde
  split <;> simp_all

end LineShell
