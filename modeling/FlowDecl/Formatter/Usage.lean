import FlowDecl.Text.Utf8

/-!
# How filters are called

The texts that filters show when they are asked how they are called.  In the lines the sign `@`
stands for the name that a filter was called by.
-/

namespace FlowDecl
namespace Formatter
namespace Usage

def homePage (path : String) : String :=
  "<https:" ++ "//www.gnu.org/" ++ path ++ ">"

def asking : List String :=
  ["      --help        display this help and exit",
   "      --version     output version information and exit"]

/-- The lines at the end of the texts of most filters. -/
def ending (filter : String) : List String :=
  ["",
   "GNU coreutils online help: " ++ homePage "software/coreutils/",
   "Report any translation bugs to <https:" ++ "//translationproject.org/team/>",
   "Full documentation " ++ homePage ("software/coreutils/" ++ filter),
   "or available locally via: info '(coreutils) " ++ filter ++ " invocation'"]

/-- The text of some lines for a filter that was called by a name. -/
def textOf (program : String) (lines : List String) : String :=
  ("\n".intercalate lines).replace "@" program ++ "\n"

/-- The lines for passing on an input. -/
def cat : List String :=
  ["Usage: @ [OPTION]... [FILE]...",
   "Concatenate FILE(s) to standard output.",
   "",
   "With no FILE, or when FILE is -, read standard input.",
   "",
   "  -A, --show-all           equivalent to -vET",
   "  -b, --number-nonblank    number nonempty output lines, overrides -n",
   "  -e                       equivalent to -vE",
   "  -E, --show-ends          display $ at end of each line",
   "  -n, --number             number all output lines",
   "  -s, --squeeze-blank      suppress repeated empty output lines",
   "  -t                       equivalent to -vT",
   "  -T, --show-tabs          display TAB characters as ^I",
   "  -u                       (ignored)",
   "  -v, --show-nonprinting   use ^ and M- notation, except for LFD and TAB"] ++
  asking ++
  ["",
   "Examples:",
   "  @ f - g  Output f's contents, then standard input, then g's contents.",
   "  @        Copy standard input to standard output."] ++
  ending "cat"

/-- The lines for the beginning of an input. -/
def head : List String :=
  ["Usage: @ [OPTION]... [FILE]...",
   "Print the first 10 lines of each FILE to standard output.",
   "With more than one FILE, precede each with a header giving the file name.",
   "",
   "With no FILE, or when FILE is -, read standard input.",
   "",
   "Mandatory arguments to long options are mandatory for short options too.",
   "  -c, --bytes=[-]NUM       print the first NUM bytes of each file;",
   "                             with the leading '-', print all but the last",
   "                             NUM bytes of each file",
   "  -n, --lines=[-]NUM       print the first NUM lines instead of the first 10;",
   "                             with the leading '-', print all but the last",
   "                             NUM lines of each file",
   "  -q, --quiet, --silent    never print headers giving file names",
   "  -v, --verbose            always print headers giving file names",
   "  -z, --zero-terminated    line delimiter is NUL, not newline"] ++
  asking ++
  ["",
   "NUM may have a multiplier suffix:",
   "b 512, kB 1000, K 1024, MB 1000*1000, M 1024*1024,",
   "GB 1000*1000*1000, G 1024*1024*1024, and so on for T, P, E, Z, Y.",
   "Binary prefixes can be used, too: KiB=K, MiB=M, and so on."] ++
  ending "head"

/-- The lines for the end of an input. -/
def tail : List String :=
  ["Usage: @ [OPTION]... [FILE]...",
   "Print the last 10 lines of each FILE to standard output.",
   "With more than one FILE, precede each with a header giving the file name.",
   "",
   "With no FILE, or when FILE is -, read standard input.",
   "",
   "Mandatory arguments to long options are mandatory for short options too.",
   "  -c, --bytes=[+]NUM       output the last NUM bytes; or use -c +NUM to",
   "                             output starting with byte NUM of each file",
   "  -f, --follow[=\x7bname|descriptor\x7d]",
   "                           output appended data as the file grows;",
   "                             an absent option argument means 'descriptor'",
   "  -F                       same as --follow=name --retry",
   "  -n, --lines=[+]NUM       output the last NUM lines, instead of the last 10;",
   "                             or use -n +NUM to skip NUM-1 lines at the start",
   "      --max-unchanged-stats=N",
   "                           with --follow=name, reopen a FILE which has not",
   "                             changed size after N (default 5) iterations",
   "                             to see if it has been unlinked or renamed",
   "                             (this is the usual case of rotated log files);",
   "                             with inotify, this option is rarely useful",
   "      --pid=PID            with -f, terminate after process ID, PID dies",
   "  -q, --quiet, --silent    never output headers giving file names",
   "      --retry              keep trying to open a file if it is inaccessible",
   "  -s, --sleep-interval=N   with -f, sleep for approximately N seconds",
   "                             (default 1.0) between iterations;",
   "                             with inotify and --pid=P, check process P at",
   "                             least once every N seconds",
   "  -v, --verbose            always output headers giving file names",
   "  -z, --zero-terminated    line delimiter is NUL, not newline"] ++
  asking ++
  ["",
   "NUM may have a multiplier suffix:",
   "b 512, kB 1000, K 1024, MB 1000*1000, M 1024*1024,",
   "GB 1000*1000*1000, G 1024*1024*1024, and so on for T, P, E, Z, Y.",
   "Binary prefixes can be used, too: KiB=K, MiB=M, and so on.",
   "",
   "With --follow (-f), tail defaults to following the file descriptor, which",
   "means that even if a tail'ed file is renamed, tail will continue to track",
   "its end.  This default behavior is not desirable when you really want to",
   "track the actual name of the file, not the file descriptor (e.g., log",
   "rotation).  Use --follow=name in that case.  That causes tail to track the",
   "named file in a way that accommodates renaming, removal and creation."] ++
  ending "tail"

/-- The lines for work on octets. -/
def tr : List String :=
  ["Usage: @ [OPTION]... SET1 [SET2]",
   "Translate, squeeze, and/or delete characters from standard input,",
   "writing to standard output.",
   "",
   "  -c, -C, --complement    use the complement of SET1",
   "  -d, --delete            delete characters in SET1, do not translate",
   "  -s, --squeeze-repeats   replace each sequence of a repeated character",
   "                            that is listed in the last specified SET,",
   "                            with a single occurrence of that character",
   "  -t, --truncate-set1     first truncate SET1 to length of SET2"] ++
  asking ++
  ["",
   "SETs are specified as strings of characters.  Most represent themselves.",
   "Interpreted sequences are:",
   "",
   "  \\NNN            character with octal value NNN (1 to 3 octal digits)",
   "  \\\\              backslash",
   "  \\a              audible BEL",
   "  \\b              backspace",
   "  \\f              form feed",
   "  \\n              new line",
   "  \\r              return",
   "  \\t              horizontal tab",
   "  \\v              vertical tab",
   "  CHAR1-CHAR2     all characters from CHAR1 to CHAR2 in ascending order",
   "  [CHAR*]         in SET2, copies of CHAR until length of SET1",
   "  [CHAR*REPEAT]   REPEAT copies of CHAR, REPEAT octal if starting with 0",
   "  [:alnum:]       all letters and digits",
   "  [:alpha:]       all letters",
   "  [:blank:]       all horizontal whitespace",
   "  [:cntrl:]       all control characters",
   "  [:digit:]       all digits",
   "  [:graph:]       all printable characters, not including space",
   "  [:lower:]       all lower case letters",
   "  [:print:]       all printable characters, including space",
   "  [:punct:]       all punctuation characters",
   "  [:space:]       all horizontal or vertical whitespace",
   "  [:upper:]       all upper case letters",
   "  [:xdigit:]      all hexadecimal digits",
   "  [=CHAR=]        all characters which are equivalent to CHAR",
   "",
   "Translation occurs if -d is not given and both SET1 and SET2 appear.",
   "-t may be used only when translating.  SET2 is extended to length of",
   "SET1 by repeating its last character as necessary.  Excess characters",
   "of SET2 are ignored.  Only [:lower:] and [:upper:] are guaranteed to",
   "expand in ascending order; used in SET2 while translating, they may",
   "only be used in pairs to specify case conversion.  -s uses the last",
   "specified SET, and occurs after translation or deletion."] ++
  ending "tr"

def wc : List String :=
  ["Usage: @ [OPTION]... [FILE]...",
   "  or:  @ [OPTION]... --files0-from=F",
   "Print newline, word, and byte counts for each FILE, and a total line if",
   "more than one FILE is specified.  A word is a non-zero-length sequence of",
   "printable characters delimited by white space.",
   "",
   "With no FILE, or when FILE is -, read standard input.",
   "",
   "The options below may be used to select which counts are printed, always in",
   "the following order: newline, word, character, byte, maximum line length.",
   "  -c, --bytes            print the byte counts",
   "  -m, --chars            print the character counts",
   "  -l, --lines            print the newline counts",
   "      --files0-from=F    read input from the files specified by",
   "                           NUL-terminated names in file F;",
   "                           If F is - then read names from standard input",
   "  -L, --max-line-length  print the maximum display width",
   "  -w, --words            print the word counts"] ++
  asking ++
  ending "wc"

def sleep : List String :=
  ["Usage: @ NUMBER[SUFFIX]...",
   "  or:  @ OPTION",
   "Pause for NUMBER seconds.  SUFFIX may be 's' for seconds (the default),",
   "'m' for minutes, 'h' for hours or 'd' for days.  NUMBER need not be an",
   "integer.  Given two or more arguments, pause for the amount of time",
   "specified by the sum of their values."] ++
  asking ++
  ending "sleep"

/-- The lines about the escapes of control characters. -/
def controls : List String :=
  ["  \\a      alert (BEL)",
   "  \\b      backspace",
   "  \\c      produce no further output",
   "  \\e      escape",
   "  \\f      form feed",
   "  \\n      new line",
   "  \\r      carriage return",
   "  \\t      horizontal tab",
   "  \\v      vertical tab"]

/-- The lines about a shell that does the same by itself. -/
def shellNote (filter : String) : List String :=
  ["",
   "NOTE: your shell may have its own version of " ++ filter ++ ", which usually supersedes",
   "the version described here.  Please refer to your shell's documentation",
   "for details about the options it supports."]

/-- The lines for writing arguments. -/
def echo : List String :=
  ["Usage: @ [SHORT-OPTION]... [STRING]...",
   "  or:  @ LONG-OPTION",
   "Echo the STRING(s) to standard output.",
   "",
   "  -n             do not output the trailing newline",
   "  -e             enable interpretation of backslash escapes",
   "  -E             disable interpretation of backslash escapes (default)"] ++
  asking ++
  ["",
   "If -e is in effect, the following sequences are recognized:",
   "",
   "  \\\\      backslash"] ++
  controls ++
  ["  \\0NNN   byte with octal value NNN (1 to 3 digits)",
   "  \\xHH    byte with hexadecimal value HH (1 to 2 digits)"] ++
  shellNote "echo" ++
  ending "echo"

/-- The lines for writing by a format. -/
def printf : List String :=
  ["Usage: @ FORMAT [ARGUMENT]...",
   "  or:  @ OPTION",
   "Print ARGUMENT(s) according to FORMAT, or execute according to OPTION:",
   ""] ++
  asking ++
  ["",
   "FORMAT controls the output as in C printf.  Interpreted sequences are:",
   "",
   "  \\\"      double quote",
   "  \\\\      backslash"] ++
  controls ++
  ["  \\NNN    byte with octal value NNN (1 to 3 digits)",
   "  \\xHH    byte with hexadecimal value HH (1 to 2 digits)",
   "  \\uHHHH  Unicode (ISO/IEC 10646) character with hex value HHHH (4 digits)",
   "  \\UHHHHHHHH  Unicode character with hex value HHHHHHHH (8 digits)",
   "  %%      a single %",
   "  %b      ARGUMENT as a string with '\\' escapes interpreted,",
   "          except that octal escapes are of the form \\0 or \\0NNN",
   "  %q      ARGUMENT is printed in a format that can be reused as shell input,",
   "          escaping non-printable characters with the proposed POSIX $'' syntax.",
   "",
   "and all C format specifications ending with one of diouxXfeEgGcs, with",
   "ARGUMENTs converted to proper type first.  Variable widths are handled."] ++
  shellNote "printf" ++
  ending "printf"

def nothing (filter outcome : String) : List String :=
  ["Usage: @ [ignored command line arguments]",
   "  or:  @ OPTION",
   "Exit with a status code indicating " ++ outcome ++ ".",
   ""] ++
  asking ++ shellNote filter ++ ending filter

/-- The lines for line editing, but for the last ones. -/
def sed : List String :=
  ["Usage: @ [OPTION]... \x7bscript-only-if-no-other-script\x7d [input-file]...",
   "",
   "  -n, --quiet, --silent",
   "                 suppress automatic printing of pattern space",
   "      --debug",
   "                 annotate program execution",
   "  -e script, --expression=script",
   "                 add the script to the commands to be executed",
   "  -f script-file, --file=script-file",
   "                 add the contents of script-file to the commands to be executed",
   "  --follow-symlinks",
   "                 follow symlinks when processing in place",
   "  -i[SUFFIX], --in-place[=SUFFIX]",
   "                 edit files in place (makes backup if SUFFIX supplied)",
   "  -l N, --line-length=N",
   "                 specify the desired line-wrap length for the \x60l' command",
   "  --posix",
   "                 disable all GNU extensions.",
   "  -E, -r, --regexp-extended",
   "                 use extended regular expressions in the script",
   "                 (for portability use POSIX -E).",
   "  -s, --separate",
   "                 consider files as separate rather than as a single,",
   "                 continuous long stream.",
   "      --sandbox",
   "                 operate in sandbox mode (disable e/r/w commands).",
   "  -u, --unbuffered",
   "                 load minimal amounts of data from the input files and flush",
   "                 the output buffers more often",
   "  -z, --null-data",
   "                 separate lines by NUL characters",
   "      --help     display this help and exit",
   "      --version  output version information and exit",
   "",
   "If no -e, --expression, -f, or --file option is given, then the first",
   "non-option argument is taken as the sed script to interpret.  All",
   "remaining arguments are names of input files; if no input files are",
   "specified, then the standard input is read.",
   "",
   "GNU sed home page: " ++ homePage "software/sed/" ++ ".",
   "General help using GNU software: " ++ homePage "gethelp/" ++ "."]

end Usage
end Formatter
end FlowDecl
