import LineShell.Proofs.Editing.OneSession
import LineShell.Proofs.System.Streams

/-!
# Line by line from standard input

The calls that read a line share standard input with each other and with the programs that run
between them.  Each call takes the bytes of its own keys from standard input, the key that ends it
included, and whoever reads standard input next finds the byte behind them.

## Main definitions

* `World.afterLines` — the world after some lines have been read one after the other.

## Main results

* `World.readLine_spec` — what one call reads, leaves and shows.
* `readLines_eq_oneSession` — **reading line by line is one session, without reading ahead.**
-/

namespace LineShell

/-! ### One call -/

/-- A call leaves the bytes behind those that it takes. -/
theorem suffix_bytes_readLine (prompt : List Char) (limit : Nat) (source : CandidateSource)
    (feed : Feed) : (readLine prompt limit source feed).rest.bytes <:+ feed.bytes := by
  obtain ⟨first, -, -, -, hbytes⟩ := exists_stretches_eq_cons prompt limit source feed
  exact ⟨first.bytes, hbytes⟩

namespace World

variable (prompt : List Char) (limit : Nat) (source : CandidateSource)

theorem readyAtEnd_feed (w : World) (fd : Nat) : (w.feed fd).readyAtEnd = true := by
  unfold feed
  split <;> rfl

/-- Taking bytes has nothing to do with the terminals. -/
theorem consume_console (w : World) (console : Console) (fd : Nat) (rest : Feed) :
    ({ w with console } : World).consume fd rest = { w.consume fd rest with console } := by
  cases hhandle : w.process.descriptors.get? fd with
  | none => simp only [consume, hhandle]
  | some handle => simp only [consume, feed, hhandle]

/-- Nor has showing a text. -/
theorem display_console (w : World) (console : Console) (fd : Nat) (text : List Char) :
    ({ w with console } : World).display fd text = { w.display fd text with console } := by
  cases hhandle : w.process.descriptors.get? fd with
  | none =>
    simp only [display, write, hhandle]
    rfl
  | some handle =>
    simp only [display, write, hhandle]
    cases w.system.write handle (Bytes.ofText text) <;> rfl

/-- Apart from the terminals, a call takes the bytes of its line and shows what it has to show. -/
theorem readLine_spec (w : World) :
    let call := LineShell.readLine prompt limit source (w.feed standardInput)
    let shown := (w.consume standardInput call.rest).display standardOutput call.shown
    (w.readLine prompt limit source).1 = call.line ∧
      (w.readLine prompt limit source).2.system = shown.system ∧
      (w.readLine prompt limit source).2.process = shown.process := by
  unfold readLine
  simp only [consume_console, display_console, and_self]

/-- Standard output has received what the call shows. -/
theorem output?_readLine (w : World) :
    let call := LineShell.readLine prompt limit source (w.feed standardInput)
    (w.readLine prompt limit source).2.output? standardOutput =
      ((w.consume standardInput call.rest).output? standardOutput).map
        (·.receive (Bytes.ofText call.shown)) := by
  intro call
  obtain ⟨-, hsystem, hprocess⟩ := w.readLine_spec prompt limit source
  have hreceives := receives_display (w.consume standardInput call.rest) standardOutput call.shown
  rw [← hreceives.output]
  simp only [output?, hsystem, hprocess]
  rfl

/-- The world after some lines have been read one after the other. -/
def afterLines : (count : Nat) → World → World
  | 0, w => w
  | count + 1, w => afterLines count (w.readLine prompt limit source).2

variable {prompt limit source}

/-- What can be read depends on the system and the process alone. -/
theorem feed_congr {w w' : World} (hsystem : w.system = w'.system)
    (hprocess : w.process = w'.process) (fd : Nat) : w.feed fd = w'.feed fd := by
  unfold feed
  rw [hsystem, hprocess]

/-- What is left of standard input once the bytes of a line have been taken. -/
theorem feed_consume_readLine (w : World) :
    let rest := (LineShell.readLine prompt limit source (w.feed standardInput)).rest
    (w.consume standardInput rest).feed standardInput = rest := by
  have hready := readyAtEnd_rest_readLine prompt limit source (w.feed standardInput)
  rw [w.readyAtEnd_feed] at hready
  exact feed_consume (suffix_bytes_readLine prompt limit source _) hready

/-- A call leaves standard input behind its line, and apart from standard output. -/
theorem feed_readLine {w : World} (h : w.StreamsApart) :
    (w.readLine prompt limit source).2.feed standardInput =
        (LineShell.readLine prompt limit source (w.feed standardInput)).rest ∧
      (w.readLine prompt limit source).2.StreamsApart := by
  obtain ⟨-, hsystem, hprocess⟩ := w.readLine_spec prompt limit source
  obtain ⟨hdisplay, hapart⟩ := feed_display (h.consume _)
    (LineShell.readLine prompt limit source (w.feed standardInput)).shown
  constructor
  · rw [feed_congr hsystem hprocess, hdisplay, feed_consume_readLine]
  · intro input output hinput houtput
    rw [hprocess] at hinput houtput
    rw [hsystem]
    exact hapart input output hinput houtput

/-- **The calls follow each other on standard input**: each finds it behind the call before.  What
they show stands on standard output, one behind the other. -/
theorem readLine_afterLines (feed : Feed) :
    ∀ (w : World) (i : Nat) (call : Reading), w.StreamsApart → w.feed standardInput = feed →
      (readLines prompt limit source feed)[i]? = some call →
      let before := w.afterLines prompt limit source i
      let shown := ((readLines prompt limit source feed).take (i + 1)).flatMap (·.shown)
      (before.readLine prompt limit source).1 = call.line ∧
        (before.readLine prompt limit source).2.system =
          ((before.consume standardInput call.rest).display standardOutput call.shown).system ∧
        (before.readLine prompt limit source).2.feed standardInput = call.rest ∧
        (before.readLine prompt limit source).2.output? standardOutput =
          (w.output? standardOutput).map (·.receive (Bytes.ofText shown)) := by
  -- the first call, whether another one follows or not
  have hfirst (w : World) (more : List Reading) (hapart : w.StreamsApart) :
      let call := LineShell.readLine prompt limit source (w.feed standardInput)
      let shown := ((call :: more).take 1).flatMap (·.shown)
      (w.readLine prompt limit source).1 = call.line ∧
        (w.readLine prompt limit source).2.system =
          ((w.consume standardInput call.rest).display standardOutput call.shown).system ∧
        (w.readLine prompt limit source).2.feed standardInput = call.rest ∧
        (w.readLine prompt limit source).2.output? standardOutput =
          (w.output? standardOutput).map (·.receive (Bytes.ofText shown)) := by
    intro call shown
    obtain ⟨hline, hsystem, -⟩ := w.readLine_spec prompt limit source
    refine ⟨hline, hsystem, (feed_readLine hapart).1, ?_⟩
    have hshown : shown = call.shown := List.append_nil _
    rw [hshown, output?_readLine, hapart.output?_consume]
  fun_induction readLines prompt limit source feed with
  | case1 feed r hnone =>
    intro w i call hapart hfeed hcall
    cases i with
    | zero =>
      obtain rfl : r = call := Option.some.inj hcall
      subst hfeed
      exact hfirst w [] hapart
    | succ i => cases hcall
  | case2 feed r hsome ih =>
    intro w i call hapart hfeed hcall
    subst hfeed
    cases i with
    | zero =>
      obtain rfl : r = call := Option.some.inj hcall
      exact hfirst w _ hapart
    | succ i =>
      obtain ⟨hfeed, hapart'⟩ := feed_readLine hapart
      obtain ⟨hline, hsystem, hrest, houtput⟩ := ih _ i call hapart' hfeed hcall
      refine ⟨hline, hsystem, hrest, houtput.trans ?_⟩
      rw [output?_readLine, hapart.output?_consume, Option.map_map, List.take_succ_cons,
        List.flatMap_cons, Bytes.ofText_append]
      exact congrArg (Option.map · _) (funext fun o => (o.receive_append _ _).symm)

end World

/-! ### One session -/

/-- **Reading line by line from an input is one session that is given all its keys, without reading
ahead.**  The lines are those of the session, the last of them the text that is left at the end.
The stretches cut the session's keys behind each key that submits a line.  Each call shows the
prompt and what the session shows for the keys of its stretch, and takes the bytes of these keys:
what it leaves, with the bytes of all keys so far in front, is the input.

In a world at whose standard input a call finds what the calls before it have left, it takes its
bytes from there and leaves the others to the next reader, and standard output receives what it
shows.  The calls of the world follow each other like that, unless what is written to standard
output is read from standard input; then standard output has received what they all have shown. -/
theorem readLines_eq_oneSession (prompt : List Char) (limit : Nat) (source : CandidateSource)
    (feed : Feed) :
    let session : Session := { prompt, limit }
    let calls := readLines prompt limit source feed
    let stretches := session.stretches source feed.allKeystrokes
    (∀ more : List Key, calls.map (·.line) =
      (session.lines source (feed.keys ++ .eof :: more)).map some ++ [none]) ∧
    stretches.flatMap (·.strokes) <+: feed.allKeystrokes ∧
    calls.map (·.shown) = stretches.map (prompt ++ ·.shown) ∧
    (∀ (i : Nat) (call : Reading), calls[i]? = some call →
      (stretches.take (i + 1)).flatMap (·.bytes) ++ call.rest.bytes = feed.bytes) ∧
    (∀ t : Session, session.after? source feed.keys.dropLast = some t → t.buffer ≠ [] →
      ∃ before, calls.map (·.line) = before ++ [some t.buffer, none]) ∧
    (∀ (i : Nat) (call : Reading), calls[i]? = some call →
      ∀ (w : World) (input : Bytes),
        (stretches.take i).flatMap (·.bytes) ++ input = feed.bytes →
        w.feed World.standardInput = { feed with bytes := input } →
        let consumed := w.consume World.standardInput call.rest
        let after := (w.readLine prompt limit source).2
        (w.readLine prompt limit source).1 = call.line ∧
          consumed.feed World.standardInput = call.rest ∧
          after.system = (consumed.display World.standardOutput call.shown).system ∧
          after.output? World.standardOutput = (consumed.output? World.standardOutput).map
            (·.receive (Bytes.ofText call.shown))) ∧
    (∀ w : World, w.StreamsApart → w.feed World.standardInput = feed →
      ∀ (i : Nat) (call : Reading), calls[i]? = some call →
        let before := w.afterLines prompt limit source i
        let after := (before.readLine prompt limit source).2
        (before.readLine prompt limit source).1 = call.line ∧
          after.system = ((before.consume World.standardInput call.rest).display
            World.standardOutput call.shown).system ∧
          after.feed World.standardInput = call.rest ∧
          after.output? World.standardOutput = (w.output? World.standardOutput).map
            (·.receive (Bytes.ofText ((calls.take (i + 1)).flatMap (·.shown))))) := by
  intro session calls stretches
  have hlines (more : List Key) : calls.map (·.line) =
      (session.lines source (feed.keys ++ .eof :: more)).map some ++ [none] := by
    rw [← filterMap_line_readLines prompt limit source feed more]
    exact map_line_readLines prompt limit source feed
  refine ⟨hlines, Session.flatMap_strokes_stretches source _ _, ?_,
    bytes_readLines prompt limit source feed, ?_, ?_, ?_⟩
  · have h := congrArg (List.map Prod.snd) (map_readLines prompt limit source feed)
    rwa [List.map_map, List.map_map] at h
  · intro t ht hbuffer
    obtain ⟨before, hbefore⟩ := exists_filterMap_line_eq_append prompt limit source ht hbuffer
    refine ⟨before.map some, ?_⟩
    rw [map_line_readLines prompt limit source feed, hbefore, List.map_append, List.append_assoc]
    rfl
  · intro i call hcall w input hinput hfeed
    obtain ⟨found, hfound, hready, hbefore⟩ :=
      exists_readLine_of_readLines prompt limit source feed i call hcall
    -- the call finds the input for which it stands in the list
    have hsame : w.feed World.standardInput = found := by
      rw [hfeed, ← hready, List.append_cancel_left (hinput.trans hbefore.symm)]
    rw [← hsame] at hfound
    subst hfound
    obtain ⟨hline, hsystem, -⟩ := w.readLine_spec prompt limit source
    exact ⟨hline, w.feed_consume_readLine, hsystem, w.output?_readLine prompt limit source⟩
  · intro w hapart hfeed i call hcall
    exact w.readLine_afterLines feed i call hapart hfeed hcall

/-- A world in which one character without a line feed behind it can be read from standard input. -/
def World.unfinishedInput : World where
  system :=
    { files := .empty
      opened :=
        [{ target := .unnamed [0x61], readable := true },
          { target := .unnamed [], writable := true }] }
  process := { descriptors := ⟨[(standardInput, 0), (standardOutput, 1)]⟩ }

/-- The character makes a last line, in one session as in the calls, and is shown with a line feed
behind it. -/
theorem readLines_unfinishedInput :
    World.unfinishedInput.StreamsApart ∧
    (readLines [] 80 (fixedNames []) ⟨[0x61], true⟩).map (·.line) = [some ['a'], none] ∧
    (∃ before, (readLines [] 80 (fixedNames []) ⟨[0x61], true⟩).map (·.line) =
      before ++ [some ['a'], none]) ∧
    (World.unfinishedInput.readLine [] 80 (fixedNames [])).1 = some ['a'] ∧
    (World.unfinishedInput.readLine [] 80 (fixedNames [])).2.output? World.standardOutput =
      some ⟨[0x61, 0x0a], 2⟩ := by
  have hapart : World.unfinishedInput.StreamsApart := by
    intro input output hinput houtput
    obtain rfl : 0 = input := Option.some.inj hinput
    obtain rfl : 1 = output := Option.some.inj houtput
    refine ⟨Nat.zero_ne_one, fun read written loc hread _ _ => ?_⟩
    obtain rfl := Option.some.inj hread
    exact Target.noConfusion
  have hkeys : (⟨[0x61], true⟩ : Feed).keys = [.char 'a', .eof] := by
    rw [Feed.keys, dif_neg (by decide), Feed.keys, dif_pos (by decide)]
    rfl
  have hstrokes : (⟨[0x61], true⟩ : Feed).allKeystrokes = [⟨.char 'a', [0x61]⟩, .eof, .eof] := by
    rw [Feed.allKeystrokes_of_bytes_ne_nil (by decide), Feed.allKeystrokes_of_bytes_eq_nil rfl]
    rfl
  obtain ⟨hlines, -, hshown, -, hlast, hcall, hworld⟩ :=
    readLines_eq_oneSession [] 80 (fixedNames []) ⟨[0x61], true⟩
  have htext : (readLines [] 80 (fixedNames []) ⟨[0x61], true⟩).map (·.line) =
      [some ['a'], none] := by
    rw [hlines [], hkeys]
    rfl
  rw [hstrokes] at hshown
  obtain ⟨call, calls, hcalls, hline, -⟩ := List.map_eq_cons_iff.1 htext
  rw [hcalls] at hshown hworld hcall
  have hfirstShown : call.shown = ['a', '\n'] := (List.cons.inj hshown).1
  have hfirst := hcall 0 call rfl World.unfinishedInput [0x61] rfl rfl
  obtain ⟨-, -, -, houtput⟩ := hworld World.unfinishedInput hapart rfl 0 call rfl
  refine ⟨hapart, htext, ?_, hfirst.1.trans hline, houtput.trans ?_⟩
  · exact hlast { prompt := [], limit := 80, buffer := ['a'] } (by rw [hkeys]; rfl)
      (List.cons_ne_nil _ _)
  · rw [List.take_succ_cons, List.flatMap_cons, hfirstShown]
    rfl

end LineShell
