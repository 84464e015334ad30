import Testbed.Proofs.Shell.Reader

/-!
# The room on a line

A word takes up its characters on a line, and a blank sets it off from the next. A quote or a backslash
takes up room and is no part of a word. So on a line that has no room to spare nothing is quoted, and
nothing else means anything to the shell.

* `room`: the room that tokens take up.
* `AllOrdinary`: whether words are made of ordinary characters.
* `Scan.goOn`: what is read of a line that goes on behind a blank.

Results:
* `room_scan_le`: what is read off a line has room on it.
* `allOrdinary_of_room`: if it takes up all of it, it is ordinary.
* `scan_append_blank`, `isSome_scan_of_append`: a line and the start of it.

Headlines: **`ordinary_of_reading`**, **`ordinary_of_reading_append`**: a word that is read as it is
written is ordinary, if the line has no room to spare, or if the word can be read by itself.
-/

namespace Testbed.Shell

variable {place : Place} {c : Char} {cs : List Char} {tokens read : List Token}
  {rest word : Option (List Char)}

/-- What has been read of a word. -/
def Place.held : Place → List Char
  | .bare word | .escaped word | .ampersand word => word.getD []
  | .quoted word => word

/-- The room that tokens take up on a line: a word takes up its characters and a blank. -/
def room : List Token → Nat
  | [] => 0
  | .word text :: tokens => text.length + 1 + room tokens
  | .into :: tokens => room tokens

/-- Whether all the words among tokens are made of ordinary characters. -/
def AllOrdinary (tokens : List Token) : Prop :=
  ∀ text, .word text ∈ tokens → ∀ c ∈ text, isOrdinary c = true

theorem room_append : room (read ++ tokens) = room read + room tokens := by
  fun_induction room read <;> simp [room, *, Nat.add_assoc]

theorem room_ended (word : Option (List Char)) : room (ended word) ≤ (word.getD []).length + 1 := by
  cases word <;> simp [room, ended]

theorem allOrdinary_ended (h : ∀ c ∈ word.getD [], isOrdinary c = true) :
    AllOrdinary (ended word) := by
  intro text htext
  cases word with
  | none => simp [ended] at htext
  | some w =>
    have htext : text = w := by simpa [ended] using htext
    exact htext ▸ h

theorem AllOrdinary.append (h : AllOrdinary read) (hmore : AllOrdinary tokens) :
    AllOrdinary (read ++ tokens) := fun text htext =>
  (List.mem_append.mp htext).elim (h text) (hmore text)

theorem after_eq_some {scan : Scan} (h : scan.after read = some (tokens, rest)) :
    ∃ more, scan = some (more, rest) ∧ tokens = read ++ more := by
  cases scan with
  | none => cases h
  | some result =>
    cases h
    exact ⟨_, rfl, rfl⟩

/-- The tokens of a line have room on it, and on a blank behind it. -/
theorem room_scan_le (h : scan place cs = some (tokens, rest)) :
    room tokens ≤ place.held.length + 1 + cs.length := by
  fun_induction scan place cs generalizing tokens rest with
  | case1 word | case9 word cs =>
    cases h
    exact Nat.le_add_right_of_le (room_ended word)
  | case2 | case3 | case4 | case10 | case15 | case18 => cases h
  | case5 word cs ih | case7 word cs ih | case12 word cs _ ih | case13 word cs _ _ ih
  | case14 word cs _ _ _ ih =>
    exact Nat.le_trans (ih h) (Nat.add_le_add_left (Nat.le_succ _) _)
  | case6 word c cs _ ih | case8 word c cs _ ih | case17 word c cs _ _ _ _ _ _ ih =>
    have hle := ih h
    simp [Place.held] at hle ⊢
    omega
  | case11 word c cs _ ih =>
    obtain ⟨more, hmore, rfl⟩ := after_eq_some h
    have hended := room_ended word
    have hle := ih hmore
    rw [room_append]
    simp [Place.held] at hle ⊢
    omega
  | case16 word cs _ _ _ _ _ ih =>
    obtain ⟨more, hmore, rfl⟩ := after_eq_some h
    have hended := room_ended word
    have hle := ih hmore
    rw [room_append, room_append]
    simp [Place.held, room] at hle hended ⊢
    omega

/-- **A line without room to spare** has no quotes and nothing else that is not ordinary: none of its
characters is lost. -/
theorem allOrdinary_of_room (h : scan (.bare word) cs = some (tokens, rest))
    (hroom : room tokens = (word.getD []).length + 1 + cs.length)
    (hword : ∀ c ∈ word.getD [], isOrdinary c = true) : AllOrdinary tokens := by
  induction cs generalizing word tokens with
  | nil =>
    cases h
    exact allOrdinary_ended hword
  | cons c cs ih =>
    -- A character that begins a quote, an escape or an `&&` adds nothing to a word.
    have hlost : ∀ place : Place, place.held = word.getD [] → scan place cs ≠ some (tokens, rest) := by
      intro place hheld hscan
      have hle := room_scan_le hscan
      rw [hheld] at hle
      simp only [List.length_cons] at hroom
      omega
    -- A blank is the room that the word before it takes up besides its characters.
    have hblank : ∀ read more, scan (.bare none) cs = some (more, rest) → tokens = read ++ more →
        room read ≤ (word.getD []).length + 1 → AllOrdinary read → AllOrdinary tokens := by
      rintro read more hmore rfl hread hordinary
      have hle := room_scan_le hmore
      rw [room_append] at hroom
      simp [Place.held] at hle hroom
      refine hordinary.append (ih hmore ?_ (by simp))
      simp
      omega
    rw [scan] at h
    split at h
    · obtain ⟨more, hmore, htokens⟩ := after_eq_some h
      exact hblank _ more hmore htokens (room_ended word) (allOrdinary_ended hword)
    split at h
    · exact absurd h (hlost _ rfl)
    split at h
    · exact absurd h (hlost _ rfl)
    split at h
    · exact absurd h (hlost _ rfl)
    split at h
    · split at h
      · cases h
      · obtain ⟨more, hmore, htokens⟩ := after_eq_some h
        refine hblank _ more hmore htokens ?_ ?_
        · rw [room_append]
          exact room_ended word
        · exact (allOrdinary_ended hword).append (by simp [AllOrdinary])
    split at h
    · rename_i hc
      refine ih h ?_ ?_
      · simp at hroom ⊢
        omega
      · simpa [or_imp, forall_and] using ⟨hword, hc⟩
    · cases h

/-! ## Lines that go on -/

/-- What is read if a line goes on behind a blank. -/
def Scan.goOn (more : List Char) : Scan → Scan
  | none => none
  | some (tokens, none) => (scan (.bare none) more).after tokens
  | some (tokens, some rest) => some (tokens, some (rest ++ ' ' :: more))

theorem Scan.goOn_after (more : List Char) (tokens : List Token) (scan : Scan) :
    (scan.after tokens).goOn more = (scan.goOn more).after tokens := by
  obtain _ | ⟨read, _ | rest⟩ := scan
  · rfl
  · exact (Scan.after_after _).symm
  · rfl

/-- A line that can be read is read in the same way if it goes on behind a blank. -/
theorem scan_append_blank (more : List Char) (h : (scan place cs).isSome) :
    scan place (cs ++ ' ' :: more) = (scan place cs).goOn more := by
  fun_induction scan place cs with
  | case1 word => exact scan_blank
  | case2 | case3 | case4 | case10 | case15 | case18 => cases h
  | case9 word cs => rfl
  | case5 word cs ih | case6 word c cs hc ih | case7 word cs ih | case8 word c cs hc ih
  | case12 word cs hgap ih | case13 word cs hgap hquote ih | case14 word cs hgap hquote hescape ih
  | case17 word c cs hgap hquote hescape hand hinto hc ih =>
    rw [← ih h, List.cons_append, scan]
    simp [*]
  | case11 word c cs hgap ih =>
    have hmore : (scan (.bare none) cs).isSome := by simpa [Scan.after] using h
    rw [List.cons_append, scan, if_pos hgap, ih hmore, Scan.goOn_after]
  | case16 word cs hdigits hgap hquote hescape hand ih =>
    have hmore : (scan (.bare none) cs).isSome := by simpa [Scan.after] using h
    rw [List.cons_append, scan, ih hmore, Scan.goOn_after]
    simp [*]

/-- Whether the reader is between quotes. -/
def Place.isQuoted : Place → Bool
  | .quoted _ => true
  | _ => false

/-- The start of a line can be read by itself, if no quote is open and an ordinary character is its
last. -/
theorem isSome_scan_of_append {more : List Char} (hc : isOrdinary c = true)
    (hplace : place.isQuoted = false) (hquote : '\'' ∉ cs)
    (h : (scan place (cs ++ c :: more)).isSome) : (scan place (cs ++ [c])).isSome := by
  have hline : c ≠ '\n' := by
    rintro rfl
    revert hc
    decide
  have hand : c ≠ '&' := by
    rintro rfl
    revert hc
    decide
  fun_induction scan place cs with
  | case1 word =>
    rw [List.nil_append, scan_ordinary hc]
    rfl
  | case2 word =>
    rw [List.nil_append, scan, if_neg hline]
    rfl
  | case3 word =>
    rw [List.nil_append, scan, if_neg hand] at h
    cases h
  | case4 | case5 | case6 => cases hplace
  | case12 => exact absurd List.mem_cons_self hquote
  | case9 => rfl
  | case10 word d cs hd =>
    rw [List.cons_append, scan, if_neg hd] at h
    cases h
  | case15 word cs hdigits | case18 word d cs hgap hquoted hescape hamp hinto hd =>
    rw [List.cons_append, scan] at h
    simp [*] at h
  | case7 word cs ih | case8 word d cs hd ih | case13 word cs hgap hquoted ih
  | case14 word cs hgap hquoted hescape ih | case17 word d cs hgap hquoted hescape hamp hinto hd ih =>
    rw [List.cons_append, scan] at h ⊢
    have hmore := ih rfl (List.not_mem_of_not_mem_cons hquote) (by simpa [*] using h)
    simp [*]
  | case11 word d cs hgap ih =>
    rw [List.cons_append, scan, if_pos hgap] at h ⊢
    have hmore := ih rfl (List.not_mem_of_not_mem_cons hquote) (by simpa [Scan.after] using h)
    simpa [Scan.after] using hmore
  | case16 word cs hdigits hgap hquoted hescape hamp ih =>
    rw [List.cons_append, scan] at h ⊢
    have hmore := ih rfl (List.not_mem_of_not_mem_cons hquote) (by simpa [*, Scan.after] using h)
    simp [*, Scan.after]

/-! ## Commands -/

theorem eq_wordTokens {ws : List String} (h : Command.ofTokens tokens = some ⟨ws, []⟩) :
    tokens = wordTokens ws := by
  fun_induction Command.ofTokens tokens generalizing ws with
  | case1 =>
    cases h
    rfl
  | case2 text tokens ih =>
    obtain ⟨⟨words, targets⟩, hmore, hcommand⟩ := Option.bind_eq_some_iff.mp h
    cases hcommand
    rw [ih hmore]
    simp [wordTokens]
  | case3 text tokens ih =>
    obtain ⟨⟨words, targets⟩, -, hcommand⟩ := Option.bind_eq_some_iff.mp h
    cases hcommand
  | case4 => cases h

/-- A command without files is read off a line just as the words that it holds. -/
theorem scan_of_reading {line : String} {ws : List String} {after : Option String}
    (h : reading line = some (⟨ws, []⟩, after)) : ∃ rest,
      scan (.bare none) line.toList = some (wordTokens ws, rest) ∧
      after = rest.map String.ofList := by
  obtain ⟨⟨tokens, rest⟩, hscan, h⟩ := Option.bind_eq_some_iff.mp h
  obtain ⟨command, hcommand, h⟩ := Option.bind_eq_some_iff.mp h
  obtain ⟨-, h⟩ := Option.ite_none_right_eq_some.mp h
  cases h
  obtain rfl := eq_wordTokens hcommand
  exact ⟨rest, hscan, rfl⟩

theorem isSome_scan_of_reading {line : String} {result : Command × Option String}
    (h : reading line = some result) : (scan (.bare none) line.toList).isSome := by
  obtain ⟨scanned, hscan, -⟩ := Option.bind_eq_some_iff.mp h
  exact Option.isSome_iff_exists.mpr ⟨scanned, hscan⟩

/-- **A command that takes up all of its line** is made of ordinary characters. -/
theorem ordinary_of_reading {line : String} {ws : List String} {after : Option String}
    (h : reading line = some (⟨ws, []⟩, after))
    (hroom : room (wordTokens ws) = line.length + 1) :
    ∀ w ∈ ws, ∀ c ∈ w.toList, isOrdinary c = true := by
  obtain ⟨rest, hscan, -⟩ := scan_of_reading h
  have hall : AllOrdinary (wordTokens ws) := by
    refine allOrdinary_of_room hscan ?_ (by simp)
    rw [hroom]
    simp [Nat.add_comm, String.length_toList]
  exact fun w hw => hall w.toList (List.mem_map_of_mem hw)

/-! ## A first word that is not quoted -/

section

variable {name : String} {ws : List String} (hne : ws ≠ [])
include hne

/-- Ordinary characters are read as they are written. -/
theorem reading_ordinary (hfirst : startsCommand name = true) (hname : name.toList ≠ [])
    (h : ∀ c ∈ name.toList, isOrdinary c = true) :
    reading (name ++ " " ++ spelled ws) = some (⟨name :: ws, []⟩, none) := by
  have htext : (name ++ " " ++ spelled ws).toList = name.toList ++ ' ' :: (spelled ws).toList := by
    simp
  have hscan : scan (.bare none) (name ++ " " ++ spelled ws).toList =
      some (wordTokens (name :: ws), none) := by
    rw [htext, scan_word hname h, scan_blank, scan_spelled_end hne]
    rfl
  exact reading_of_scan name hfirst hscan (ofTokens_wordTokens _) rfl

/-- **A first word that is read as it is written** is made of ordinary characters, if it can be read by
itself. -/
theorem ordinary_of_isSome_scan (hname : (scan (.bare none) name.toList).isSome)
    (h : reading (name ++ " " ++ spelled ws) = some (⟨name :: ws, []⟩, none)) :
    ∀ c ∈ name.toList, isOrdinary c = true := by
  obtain ⟨⟨tokens, rest⟩, hscan⟩ := Option.isSome_iff_exists.mp hname
  obtain ⟨rest', hline, hnone⟩ := scan_of_reading h
  obtain rfl : rest' = none := by simpa using hnone.symm
  have htext : (name ++ " " ++ spelled ws).toList = name.toList ++ ' ' :: (spelled ws).toList := by
    simp
  rw [htext, scan_append_blank _ hname, hscan] at hline
  cases rest with
  | some rest => cases hline
  | none =>
    rw [Scan.goOn, scan_spelled_end hne] at hline
    have htokens : tokens ++ wordTokens ws = [.word name.toList] ++ wordTokens ws :=
      congrArg Prod.fst (Option.some.inj hline)
    obtain rfl := List.append_cancel_right htokens
    have hall : AllOrdinary [.word name.toList] :=
      allOrdinary_of_room hscan (by simp [room, Nat.add_comm]) (by simp)
    exact hall name.toList List.mem_cons_self

/-- Words that need no quotes take up all of the line that they are spelled on. -/
theorem length_spelled (hplain : ∀ w ∈ ws, quote w = w) :
    (spelled ws).length + 1 = room (wordTokens ws) := by
  induction ws with
  | nil => exact absurd rfl hne
  | cons v ws ih =>
    obtain ⟨hv, hws⟩ := List.forall_mem_cons.mp hplain
    cases ws with
    | nil =>
      have hone : spelled [v] = v := by simp [spelled, hv]
      simp [hone, wordTokens, room, String.length_toList]
    | cons w ws =>
      have hplain : quoteChars v.toList = v.toList :=
        String.toList_ofList.symm.trans (congrArg String.toList hv)
      have hlength := congrArg List.length (toList_spelled_cons v w ws)
      rw [hplain, List.length_append, List.length_cons, String.length_toList, String.length_toList,
        String.length_toList, ih (List.cons_ne_nil w ws) hws] at hlength
      rw [hlength, ← String.length_toList (s := v), Nat.add_right_comm]
      rfl

/-- **The same** if the words behind it need no quotes. -/
theorem ordinary_of_plain (hplain : ∀ w ∈ ws, quote w = w)
    (h : reading (name ++ " " ++ spelled ws) = some (⟨name :: ws, []⟩, none)) :
    ∀ c ∈ name.toList, isOrdinary c = true := by
  refine ordinary_of_reading h ?_ name List.mem_cons_self
  have hroom : room (wordTokens (name :: ws)) = name.length + 1 + room (wordTokens ws) := by
    rw [← String.length_toList]
    rfl
  have hblank : " ".length = 1 := rfl
  rw [hroom, ← length_spelled hne hplain, String.length_append, String.length_append]
  omega

end

end Testbed.Shell
