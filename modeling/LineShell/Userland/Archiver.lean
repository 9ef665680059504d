/-!
# The archiver

An archiver is installed among the programs of the system.  Called without a command, it has nothing
to do but to tell how it is called.

## Main definitions

* `archiverUsage` — the lines that tell how the archiver is called.
-/

namespace LineShell

/-- How the archiver is called, line by line. -/
def archiverUsage : List String :=
  ["Usage: ar [emulation options] [-]\x7bdmpqrstx\x7d[abcDfilMNoOPsSTuvV] [--plugin "
      ++ "<name>] [member-name] [count] archive-file file...",
    "       ar -M [<mri-script]",
    " commands:",
    "  d            - delete file(s) from the archive",
    "  m[ab]        - move file(s) in the archive",
    "  p            - print file(s) found in the archive",
    "  q[f]         - quick append file(s) to the archive",
    "  r[ab][f][u]  - replace existing or insert new file(s) into the archive",
    "  s            - act as ranlib",
    "  t[O][v]      - display contents of the archive",
    "  x[o]         - extract file(s) from the archive",
    " command specific modifiers:",
    "  [a]          - put file(s) after [member-name]",
    "  [b]          - put file(s) before [member-name] (same as [i])",
    "  [D]          - use zero for timestamps and uids/gids (default)",
    "  [U]          - use actual timestamps and uids/gids",
    "  [N]          - use instance [count] of name",
    "  [f]          - truncate inserted file names",
    "  [P]          - use full path names when matching",
    "  [o]          - preserve original dates",
    "  [O]          - display offsets of files in the archive",
    "  [u]          - only replace files that are newer than current archive contents",
    " generic modifiers:",
    "  [c]          - do not warn if the library had to be created",
    "  [s]          - create an archive index (cf. ranlib)",
    "  [l <text> ]  - specify the dependencies of this library",
    "  [S]          - do not build a symbol table",
    "  [T]          - deprecated, use --thin instead",
    "  [v]          - be verbose",
    "  [V]          - display the version number",
    "  @<file>      - read options from <file>",
    "  --target=BFDNAME - specify the target object format as BFDNAME",
    "  --output=DIRNAME - specify the output directory for extraction operations",
    "  --record-libdeps=<text> - specify the dependencies of this library",
    "  --thin       - make a thin archive",
    " optional:",
    "  --plugin <p> - load the specified plugin",
    " emulation options: ",
    "  No emulation specific options",
    "ar: supported targets: elf64-x86-64 elf32-i386 elf32-iamcu elf32-x86-64 "
      ++ "pei-i386 pe-x86-64 pei-x86-64 elf64-little elf64-big elf32-little elf32-big "
      ++ "pe-bigobj-x86-64 pe-i386 pdb srec symbolsrec verilog tekhex binary ihex plugin"]

end LineShell
