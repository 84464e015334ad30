import Testbed.Node.Request
import Testbed.Text.Blank

/-!
# Reading a line as a shell does

`reading` takes the first command off a line, the way a POSIX shell reads it. It understands blanks,
single quotes, the backslash, `&&` and `>`, and gives up at whatever else can mean something to a
shell. So a line that it reads holds the command that it tells of, and nothing besides.

* `scan`: the tokens of a line up to its end or to the first `&&`, and what follows that.
* `Command.ofTokens`: the words of a command, and the files that its output goes to.
* `startsCommand`: whether a first word names a program: it is no keyword and no assignment.
* `understood`: the reading of a line; that of the operand of `sudo -n sh -c`, if it is elevated.
* `spelled`: words that are quoted and joined by blanks.

Results:
* `scan_quoteChars`: a quoted text is read as the text, whatever stands around it.
* `scan_spelled`: words that are spelled are read as these words.
* `understood_line`: the line of a request is understood as its body is read.
-/

namespace Testbed.Shell

/-! ## The reader -/

/-- The characters that can mean something to a shell where they stand without quotes. -/
def specials : List Char :=
  [' ', '\t', '\n', '|', '&', ';', '<', '>', '(', ')', '$', '\x60', '"', '\'', '\\', '*', '?', '[',
    '#', '~', '%', '!', '\x7b', '\x7d']

/-- Whether a character stands for itself without quotes. -/
def isOrdinary (c : Char) : Bool := !specials.contains c

/-- A word, or the sign that the output goes to the file that is named next. -/
inductive Token where
  | word (text : List Char)
  | into
  deriving Repr, DecidableEq

/-- Where the reader is: outside quotes, in a word if one has begun, or behind a backslash or an
ampersand there, or between single quotes. -/
inductive Place where
  | bare (word : Option (List Char))
  | escaped (word : Option (List Char))
  | ampersand (word : Option (List Char))
  | quoted (word : List Char)
  deriving Repr, DecidableEq

/-- The tokens of a command, and what follows the `&&` behind it if there is one. -/
abbrev Scan := Option (List Token × Option (List Char))

/-- What is read after some tokens. -/
def Scan.after (tokens : List Token) (scan : Scan) : Scan :=
  scan.map fun (more, rest) => (tokens ++ more, rest)

/-- The word that ends here, if one has begun. -/
def ended (word : Option (List Char)) : List Token := word.toList.map .word

/-- The tokens of a line up to its end or to the first `&&`. A backslash before a line end joins two
lines. A number right before `>` would say what is sent to the file, which is not read here. -/
def scan : Place → List Char → Scan
  | .bare word, [] => some (ended word, none)
  | .escaped _, [] | .ampersand _, [] | .quoted _, [] => none
  | .quoted word, c :: cs =>
    if c = '\'' then scan (.bare (some word)) cs else scan (.quoted (word ++ [c])) cs
  | .escaped word, c :: cs =>
    if c = '\n' then scan (.bare word) cs else scan (.bare (some (word.getD [] ++ [c]))) cs
  | .ampersand word, c :: cs => if c = '&' then some (ended word, some cs) else none
  | .bare word, c :: cs =>
    if Text.isGap c then (scan (.bare none) cs).after (ended word)
    else if c = '\'' then scan (.quoted (word.getD [])) cs
    else if c = '\\' then scan (.escaped word) cs
    else if c = '&' then scan (.ampersand word) cs
    else if c = '>' then
      if word.any (·.all Char.isDigit) then none
      else (scan (.bare none) cs).after (ended word ++ [.into])
    else if isOrdinary c then scan (.bare (some (word.getD [] ++ [c]))) cs
    else none

/-- A command: its words, and the files that its output goes to. -/
structure Command where
  words : List String
  targets : List String := []
  deriving Repr, DecidableEq

/-- The command that tokens make; each sign for a file needs a word behind it. -/
def Command.ofTokens : List Token → Option Command
  | [] => some { words := [] }
  | .word text :: tokens => do
    let command ← ofTokens tokens
    pure { command with words := String.ofList text :: command.words }
  | .into :: .word text :: tokens => do
    let command ← ofTokens tokens
    pure { command with targets := String.ofList text :: command.targets }
  | .into :: _ => none

/-- The words that a shell keeps for itself where a command starts. -/
def keywords : List String :=
  ["if", "then", "else", "elif", "fi", "do", "done", "case", "esac", "while", "until", "for", "in"]

/-- Whether a word assigns a variable where a command starts. -/
def isAssignment (word : String) : Bool :=
  (Text.cutAt? '=' word.toList).any fun (name, _) =>
    name.head?.any (!·.isDigit) && name.all fun c => c.isAlphanum || c == '_'

/-- Whether a first word names a program. -/
def startsCommand (word : String) : Bool := !keywords.contains word && !isAssignment word

/-- **The first command of a line**, and what follows the `&&` behind it if there is one. -/
def reading (line : String) : Option (Command × Option String) := do
  let (tokens, rest) ← scan (.bare none) line.toList
  let command ← Command.ofTokens tokens
  if command.words.head?.any startsCommand then some (command, rest.map String.ofList) else none

/-- The reading of a line by the shell that is to run the command: for an elevated line, that is the
shell that `sudo` starts, and it reads the operand of that command. -/
def understood (elevated : Bool) (line : String) : Option (Command × Option String) :=
  if elevated then
    match reading line with
    | some (⟨["sudo", "-n", "sh", "-c", body], []⟩, none) => reading body
    | _ => none
  else reading line

/-- Words as they are spelled for the shell. -/
def spelled (words : List String) : String := String.intercalate " " (words.map quote)

/-! ## One character -/

variable {c : Char} {cs rest : List Char} {word : Option (List Char)} {w : List Char}

@[simp] theorem scan_nil : scan (.bare word) [] = some (ended word, none) := rfl

theorem scan_blank : scan (.bare word) (' ' :: cs) = (scan (.bare none) cs).after (ended word) := rfl

theorem scan_openQuote : scan (.bare word) ('\'' :: cs) = scan (.quoted (word.getD [])) cs := rfl

theorem scan_closeQuote : scan (.quoted w) ('\'' :: cs) = scan (.bare (some w)) cs := rfl

theorem scan_quoted (h : c ≠ '\'') : scan (.quoted w) (c :: cs) = scan (.quoted (w ++ [c])) cs := if_neg h

theorem scan_backslash (h : c ≠ '\n') : scan (.bare word) ('\\' :: c :: cs) =
    scan (.bare (some (word.getD [] ++ [c]))) cs := if_neg h

theorem scan_into : scan (.bare none) ('>' :: cs) = (scan (.bare none) cs).after [.into] := rfl

theorem scan_and : scan (.bare word) ('&' :: '&' :: cs) = some (ended word, some cs) := rfl

/-! ## Words and quotes -/

theorem isOrdinary_of_isPlain (h : isPlain c = true) : isOrdinary c = true := by
  have hspecials : specials.all (!isPlain ·) = true := by decide
  have hmem : c ∉ specials := fun hc => by
    simpa [h] using List.all_eq_true.mp hspecials c hc
  simpa [isOrdinary] using hmem

/-- An ordinary character goes on with the word, or begins one. -/
theorem scan_ordinary (h : isOrdinary c = true) :
    scan (.bare word) (c :: cs) = scan (.bare (some (word.getD [] ++ [c]))) cs := by
  have hne : ∀ d ∈ specials, c ≠ d := by
    rintro d hd rfl
    simp [isOrdinary, hd] at h
  have hgap : Text.isGap c = false := by
    simp [Text.isGap, hne ' ' (by decide), hne '\t' (by decide)]
  simp [scan, hgap, hne '\'' (by decide), hne '\\' (by decide), hne '>' (by decide),
    hne '&' (by decide), h]

theorem scan_ordinary_append (h : ∀ c ∈ cs, isOrdinary c = true) :
    scan (.bare (some w)) (cs ++ rest) = scan (.bare (some (w ++ cs))) rest := by
  induction cs generalizing w with
  | nil => rw [List.nil_append, List.append_nil]
  | cons c cs ih =>
    obtain ⟨hc, hcs⟩ := List.forall_mem_cons.mp h
    rw [List.cons_append, scan_ordinary hc, ih hcs]
    simp

/-- Ordinary characters are a word, or a piece of one. -/
theorem scan_word (hne : cs ≠ []) (h : ∀ c ∈ cs, isOrdinary c = true) :
    scan (.bare word) (cs ++ rest) = scan (.bare (some (word.getD [] ++ cs))) rest := by
  obtain ⟨c, cs, rfl⟩ := List.exists_cons_of_ne_nil hne
  obtain ⟨hc, hcs⟩ := List.forall_mem_cons.mp h
  rw [List.cons_append, scan_ordinary hc, scan_ordinary_append hcs]
  simp

/-- A character of a quoted text, as it is written between quotes, is read as it is. -/
theorem scan_quotedChar :
    scan (.quoted w) (quotedChar c ++ rest) = scan (.quoted (w ++ [c])) rest := by
  unfold quotedChar
  split
  · rename_i hc
    simp only [Bool.or_eq_true, decide_eq_true_eq] at hc
    rcases hc with rfl | rfl <;>
    · show scan (.quoted w) ('\'' :: '\\' :: _ :: '\'' :: rest) = _
      rw [scan_closeQuote, scan_backslash (by decide), scan_openQuote]
      rfl
  · rename_i hc
    simp only [Bool.or_eq_true, decide_eq_true_eq, not_or] at hc
    rw [List.singleton_append, scan_quoted hc.1]

theorem scan_flatMap_quotedChar : scan (.quoted w) (cs.flatMap quotedChar ++ '\'' :: rest) =
    scan (.bare (some (w ++ cs))) rest := by
  induction cs generalizing w with
  | nil => rw [List.flatMap_nil, List.nil_append, scan_closeQuote, List.append_nil]
  | cons c cs ih =>
    rw [List.flatMap_cons, List.append_assoc, scan_quotedChar, ih]
    simp

/-- **A quoted text is read as the text**: outside quotes, whatever has been read of the word before,
the text follows it, and the word goes on after it. -/
theorem scan_quoteChars (cs rest : List Char) :
    scan (.bare word) (quoteChars cs ++ rest) = scan (.bare (some (word.getD [] ++ cs))) rest := by
  unfold quoteChars
  split
  · rename_i h
    simp only [Bool.and_eq_true, Bool.not_eq_true', List.isEmpty_eq_false_iff, List.all_eq_true] at h
    exact scan_word h.1 fun c hc => isOrdinary_of_isPlain (h.2 c hc)
  · have hwritten : '\'' :: cs.flatMap quotedChar ++ ['\''] ++ rest =
        '\'' :: (cs.flatMap quotedChar ++ '\'' :: rest) := by simp
    rw [hwritten, scan_openQuote, scan_flatMap_quotedChar]

/-! ## Spelled words -/

variable {tokens more : List Token} {ws : List String} {line : String} {command : Command}
  {after : Option (List Char)}

theorem Scan.after_after (scan : Scan) :
    (scan.after more).after tokens = scan.after (tokens ++ more) := by
  cases scan with
  | none => rfl
  | some result => simp [Scan.after]

/-- The tokens of words. -/
def wordTokens (ws : List String) : List Token := ws.map fun w => .word w.toList

theorem toList_spelled_cons (v w : String) (ws : List String) :
    (spelled (v :: w :: ws)).toList = quoteChars v.toList ++ ' ' :: (spelled (w :: ws)).toList := by
  simp [spelled, String.toList_intercalate, quote]

/-- Words that are spelled are read one by one; what follows them goes on with the last. -/
theorem scan_spelled (ws : List String) (w : String) (rest : List Char) :
    scan (.bare none) ((spelled (ws ++ [w])).toList ++ rest) =
      (scan (.bare (some w.toList)) rest).after (wordTokens ws) := by
  induction ws with
  | nil =>
    have hone : (spelled [w]).toList = quoteChars w.toList := by
      simp [spelled, quote]
    rw [List.nil_append, hone, scan_quoteChars]
    simp [wordTokens, Scan.after]
  | cons v ws ih =>
    have hcons : (spelled (v :: ws ++ [w])).toList =
        quoteChars v.toList ++ ' ' :: (spelled (ws ++ [w])).toList := by
      cases ws with
      | nil => exact toList_spelled_cons v w []
      | cons u ws => exact toList_spelled_cons v u (ws ++ [w])
    rw [hcons, List.append_assoc, scan_quoteChars, List.cons_append, scan_blank, ih,
      Scan.after_after]
    rfl

/-- Words that are spelled and a blank are read as the words. -/
theorem scan_spelled_blank (hne : ws ≠ []) (rest : List Char) :
    scan (.bare none) ((spelled ws).toList ++ ' ' :: rest) =
      (scan (.bare none) rest).after (wordTokens ws) := by
  obtain ⟨us, w, rfl⟩ : ∃ us w, ws = us ++ [w] := ⟨_, _, (List.dropLast_concat_getLast hne).symm⟩
  rw [scan_spelled, scan_blank, Scan.after_after]
  simp [wordTokens, ended]

/-- Words that are spelled and nothing besides are read as the words. -/
theorem scan_spelled_end (hne : ws ≠ []) :
    scan (.bare none) (spelled ws).toList = some (wordTokens ws, none) := by
  obtain ⟨us, w, rfl⟩ : ∃ us w, ws = us ++ [w] := ⟨_, _, (List.dropLast_concat_getLast hne).symm⟩
  rw [← List.append_nil (spelled (us ++ [w])).toList, scan_spelled]
  simp [ended, wordTokens, Scan.after]

/-! ## Commands -/

theorem ofTokens_wordTokens_append (ws : List String) (tokens : List Token) :
    Command.ofTokens (wordTokens ws ++ tokens) =
      (Command.ofTokens tokens).map fun command => { command with words := ws ++ command.words } := by
  induction ws with
  | nil => simp [wordTokens]
  | cons w ws ih =>
    have hcons : wordTokens (w :: ws) ++ tokens = .word w.toList :: (wordTokens ws ++ tokens) := rfl
    rw [hcons, Command.ofTokens, ih]
    cases Command.ofTokens tokens <;> simp

theorem ofTokens_wordTokens (ws : List String) :
    Command.ofTokens (wordTokens ws) = some ⟨ws, []⟩ := by
  have h := ofTokens_wordTokens_append ws []
  rw [List.append_nil] at h
  simpa [Command.ofTokens] using h

variable (name : String) (hfirst : startsCommand name = true)
include hfirst

/-- What is scanned is read, if a command starts with its first word. -/
theorem reading_of_scan (hscan : scan (.bare none) line.toList = some (tokens, after))
    (hcommand : Command.ofTokens tokens = some command) (hwords : command.words = name :: ws) :
    reading line = some (command, after.map String.ofList) := by
  simp [reading, hscan, hcommand, hwords, hfirst]

/-- **Words that are spelled are read as these words**, and nothing besides. -/
theorem reading_spelled (ws : List String) :
    reading (spelled (name :: ws)) = some (⟨name :: ws, []⟩, none) :=
  reading_of_scan name hfirst (scan_spelled_end (List.cons_ne_nil name ws)) (ofTokens_wordTokens _) rfl

/-- The same with a file behind the words that the output goes to. -/
theorem reading_spelled_into (ws : List String) (path : String) :
    reading (spelled (name :: ws) ++ " > " ++ quote path) = some (⟨name :: ws, [path]⟩, none) := by
  have htext : (spelled (name :: ws) ++ " > " ++ quote path).toList =
      (spelled (name :: ws)).toList ++ ' ' :: '>' :: ' ' :: quoteChars path.toList := by
    simp [quote]
  have hpath : scan (.bare none) (quoteChars path.toList) = some ([.word path.toList], none) := by
    rw [← List.append_nil (quoteChars path.toList), scan_quoteChars]
    rfl
  have hscan : scan (.bare none) (spelled (name :: ws) ++ " > " ++ quote path).toList =
      some (wordTokens (name :: ws) ++ [.into, .word path.toList], none) := by
    rw [htext, scan_spelled_blank (List.cons_ne_nil name ws), scan_into, scan_blank, hpath]
    rfl
  have hcommand : Command.ofTokens (wordTokens (name :: ws) ++ [.into, .word path.toList]) =
      some ⟨name :: ws, [path]⟩ := by
    rw [ofTokens_wordTokens_append]
    simp [Command.ofTokens]
  exact reading_of_scan name hfirst hscan hcommand rfl

/-- The same with another command behind `&&`, which is left as it is. -/
theorem reading_spelled_and (ws : List String) (next : String) :
    reading (spelled (name :: ws) ++ " &&" ++ next) = some (⟨name :: ws, []⟩, some next) := by
  have htext : (spelled (name :: ws) ++ " &&" ++ next).toList =
      (spelled (name :: ws)).toList ++ ' ' :: '&' :: '&' :: next.toList := by
    simp
  have hscan : scan (.bare none) (spelled (name :: ws) ++ " &&" ++ next).toList =
      some (wordTokens (name :: ws), some next.toList) := by
    rw [htext, scan_spelled_blank (List.cons_ne_nil name ws), scan_and]
    simp [ended, Scan.after]
  rw [reading_of_scan name hfirst hscan (ofTokens_wordTokens _) rfl, Option.map_some,
    String.ofList_toList]

omit hfirst

/-- **A line is understood as its body**, whether it is elevated or not. -/
theorem understood_line (r : Request) : understood r.elevated r.line = reading r.body := by
  unfold understood Request.line
  cases r.elevated with
  | false => rfl
  | true =>
    have hline : "sudo -n sh -c " ++ quote r.body = spelled ["sudo", "-n", "sh", "-c", r.body] := rfl
    have hsudo : startsCommand "sudo" = true := by decide
    simp only [if_true, hline, reading_spelled _ hsudo]

example : reading "cp 'a b' it\\'s > c && ls" =
    some (⟨["cp", "a b", "it's"], ["c"]⟩, some " ls") := by decide +kernel

example : reading "rm -f a; ls" = none ∧ reading "rm -f $HOME" = none := by decide +kernel

end Testbed.Shell
