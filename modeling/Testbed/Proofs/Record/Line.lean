import Testbed.Proofs.Text.Blank
import Testbed.Proofs.Text.Stripped
import Testbed.Proofs.Text.Pattern
import Testbed.Record.Log

/-!
# What a line of a log says

`NamesArchitecture` and `ReportsTest` say in words, part by part, what the two kinds of lines look
like that count in a log. A line may be cut into such parts in several ways (the blanks around the
name of an architecture), but all of them say the same.

Results:
* `namesArchitecture_iff`, `reportsTest_iff`: the patterns that a log is searched for fit just these
  lines, and their groups hold what the lines say.
* `NamesArchitecture.unique`, `ReportsTest.unique`: a line says one thing at most.
* `not_reportsTest_of_namesArchitecture`: no line counts as both.
* `NamesArchitecture.of_return`, `ReportsTest.of_return`: a line that is ended by a carriage return
  says what it says without.
-/

namespace Testbed.Log

open Text (Pattern isGap isBlank isDecimalDigit trim words)
open Text.Pattern (Fits Inline toLineEnd lineGroups?)

/-- A text of characters of a kind. -/
def Only (kind : Char → Bool) (cs : List Char) : Prop := ∀ c ∈ cs, kind c = true

/-- A text of one or more characters of a kind. -/
def OneOrMore (kind : Char → Bool) (cs : List Char) : Prop := cs ≠ [] ∧ Only kind cs

instance (kind : Char → Bool) (cs : List Char) : Decidable (Only kind cs) :=
  decidable_of_iff (cs.all kind = true) List.all_eq_true

instance (kind : Char → Bool) (cs : List Char) : Decidable (OneOrMore kind cs) :=
  inferInstanceAs (Decidable (cs ≠ [] ∧ Only kind cs))

/-- A character that is not blank. -/
def isInk (c : Char) : Bool := !isBlank c

/-- What a line may end with. -/
def OptionalReturn (cs : List Char) : Prop := cs = [] ∨ cs = ['\r']

/-- What the line of the architecture begins with. -/
def label : List Char := "Machine Architecture:".toList

/-- **The line of the architecture**: the label and the name, with gaps around both. The name begins
with a character that is not blank, and the blanks it ends with do not count. -/
inductive NamesArchitecture : List Char → String → Prop
  | intro {lead gap value trail ret : List Char} (hlead : Only isGap lead) (hgap : Only isGap gap)
      (hvalue : ∃ c cs, value = c :: cs ∧ isInk c = true) (hreturn : '\r' ∉ value)
      (htrail : Only isGap trail) (hret : OptionalReturn ret) :
      NamesArchitecture (lead ++ (label ++ (gap ++ (value ++ (trail ++ ret)))))
        (String.ofList (trim value))

/-- **The line of a test**: a name without blanks, a status in capitals and a number, with gaps
between and around them. -/
inductive ReportsTest : List Char → Entry → Prop
  | intro {lead name gap code gap' sign digits trail ret : List Char} (hlead : Only isGap lead)
      (hname : OneOrMore isInk name) (hgap : OneOrMore isGap gap) (hcode : OneOrMore isCapital code)
      (hgap' : OneOrMore isGap gap') (hsign : sign = [] ∨ sign = ['-'])
      (hdigits : OneOrMore isDecimalDigit digits) (htrail : Only isGap trail)
      (hret : OptionalReturn ret) :
      ReportsTest
        (lead ++ (name ++ (gap ++ (code ++ (gap' ++ (sign ++ digits ++ (trail ++ ret)))))))
        ⟨String.ofList name, String.ofList code, String.ofList (sign ++ digits)⟩

/-! ## The parts of a line -/

theorem isBlank_of_optionalReturn {ret : List Char} (h : OptionalReturn ret) :
    ∀ c ∈ ret, isBlank c = true := by
  rcases h with rfl | rfl
  · exact fun c hc => absurd hc List.not_mem_nil
  · intro c hc
    obtain rfl := List.mem_singleton.mp hc
    decide

theorem isBlank_of_tail {trail ret : List Char} (htrail : Only isGap trail)
    (hret : OptionalReturn ret) : ∀ c ∈ trail ++ ret, isBlank c = true := by
  intro c hc
  rcases List.mem_append.mp hc with h | h
  · exact Text.isBlank_of_isGap (htrail c h)
  · exact isBlank_of_optionalReturn hret c h

theorem isBlank_of_isCapital {c : Char} (h : isCapital c = true) : isBlank c = false := by
  simp only [isCapital, Bool.and_eq_true, decide_eq_true_eq, Char.le_def, UInt32.le_iff_toNat_le]
    at h
  have hlow : 65 ≤ c.toNat := h.1
  have hhigh : c.toNat ≤ 90 := h.2
  simp [isBlank]
  omega

/-- No decimal digit of any script is blank: each range of digits lies between two blanks. -/
theorem isBlank_of_isDecimalDigit {c : Char} (h : isDecimalDigit c = true) : isBlank c = false := by
  have hbetween : ∀ r ∈ Text.decimalDigitRanges, 0x20 < r.1 ∧ r.2 < 0x85 ∨
      0xa0 < r.1 ∧ r.2 < 0x1680 ∨ 0x1680 < r.1 ∧ r.2 < 0x2000 ∨ 0x3000 < r.1 := by decide
  obtain ⟨r, hr, hc⟩ := List.any_eq_true.mp h
  simp only [Bool.and_eq_true, decide_eq_true_eq] at hc
  have hgap := hbetween r hr
  simp [isBlank]
  omega

/-! ## The parts of a pattern -/

/-- A pattern without groups that fits just the texts in `P`. -/
def FitsJust (p : Pattern) (P : List Char → Prop) : Prop := ∀ t g, p.Fits t g ↔ P t ∧ g = []

variable {p : Pattern} {P : List Char → Prop} {parts : List Pattern} {kind : Char → Bool}
  {l : List Char} {g : List (List Char)}

theorem fits_nil : (toLineEnd []).Fits l g ↔ l = [] ∧ g = [] := Iff.rfl

theorem fits_cons (h : FitsJust p P) : (toLineEnd (p :: parts)).Fits l g ↔
    ∃ t r, l = t ++ r ∧ P t ∧ (toLineEnd parts).Fits r g := by
  constructor
  · rintro ⟨t, r, g₁, g₂, rfl, rfl, hp, hr⟩
    obtain ⟨ht, rfl⟩ := (h t g₁).mp hp
    exact ⟨t, r, rfl, ht, hr⟩
  · rintro ⟨t, r, rfl, ht, hr⟩
    exact ⟨t, r, [], g, rfl, rfl, (h t []).mpr ⟨ht, rfl⟩, hr⟩

theorem fits_group_cons (h : FitsJust p P) : (toLineEnd (.group p :: parts)).Fits l g ↔
    ∃ t r k, l = t ++ r ∧ g = t :: k ∧ P t ∧ (toLineEnd parts).Fits r k := by
  constructor
  · rintro ⟨t, r, _, k, rfl, rfl, ⟨k', rfl, hp⟩, hr⟩
    obtain ⟨ht, rfl⟩ := (h t k').mp hp
    exact ⟨t, r, k, rfl, rfl, ht, hr⟩
  · rintro ⟨t, r, k, rfl, rfl, ht, hr⟩
    exact ⟨t, r, [t], k, rfl, rfl, ⟨[], rfl, (h t []).mpr ⟨ht, rfl⟩⟩, hr⟩

theorem fitsJust_many : FitsJust (.many kind) (Only kind) := fun _ _ => Iff.rfl

theorem fitsJust_literal {u : List Char} : FitsJust (.literal u) (· = u) := fun _ _ => Iff.rfl

theorem fitsJust_return : FitsJust (.optional (· == '\r')) OptionalReturn := fun t g => by
  simp [Fits, OptionalReturn]

theorem fitsJust_oneOrMore : FitsJust (.oneOrMore kind) (OneOrMore kind) := by
  intro t g
  constructor
  · rintro ⟨_, t₂, _, _, rfl, rfl, ⟨⟨c, hc, rfl⟩, rfl⟩, ht, rfl⟩
    exact ⟨⟨List.cons_ne_nil _ _, List.forall_mem_cons.mpr ⟨hc, ht⟩⟩, rfl⟩
  · rintro ⟨⟨hne, ht⟩, rfl⟩
    obtain ⟨c, cs, rfl⟩ := List.exists_cons_of_ne_nil hne
    obtain ⟨hc, hcs⟩ := List.forall_mem_cons.mp ht
    exact ⟨[c], cs, [], [], rfl, rfl, ⟨⟨c, hc, rfl⟩, rfl⟩, hcs, rfl⟩

/-- The name of an architecture, blanks behind it included. -/
theorem fitsJust_value : FitsJust
    (.seq (.one fun c => !isBlank c) (.few fun c => c != '\r' && c != '\n'))
    fun t => ∃ c cs, t = c :: cs ∧ isInk c = true ∧ '\r' ∉ cs ∧ '\n' ∉ cs := by
  intro t g
  have hkind : ∀ cs : List Char,
      (∀ c ∈ cs, (c != '\r' && c != '\n') = true) ↔ '\r' ∉ cs ∧ '\n' ∉ cs := by
    intro cs
    simp only [Bool.and_eq_true, bne_iff_ne, ne_eq]
    constructor
    · exact fun h => ⟨fun hm => (h _ hm).1 rfl, fun hm => (h _ hm).2 rfl⟩
    · exact fun ⟨hr, hn⟩ c hc => ⟨fun e => hr (e ▸ hc), fun e => hn (e ▸ hc)⟩
  constructor
  · rintro ⟨_, cs, _, _, rfl, rfl, ⟨⟨c, hc, rfl⟩, rfl⟩, hcs, rfl⟩
    exact ⟨⟨c, cs, rfl, hc, (hkind cs).mp hcs⟩, rfl⟩
  · rintro ⟨⟨c, cs, rfl, hc, hcs⟩, rfl⟩
    exact ⟨[c], cs, [], [], rfl, rfl, ⟨⟨c, hc, rfl⟩, rfl⟩, (hkind cs).mpr hcs, rfl⟩

theorem fitsJust_number : FitsJust
    (.seq (.optional (· == '-')) (.oneOrMore isDecimalDigit))
    fun t => ∃ sign digits, t = sign ++ digits ∧ (sign = [] ∨ sign = ['-']) ∧
      OneOrMore isDecimalDigit digits := by
  intro t g
  constructor
  · rintro ⟨sign, digits, _, _, rfl, rfl, ⟨hs, rfl⟩, hd⟩
    obtain ⟨hdigits, rfl⟩ := (fitsJust_oneOrMore _ _).mp hd
    exact ⟨⟨sign, digits, rfl, by simpa using hs, hdigits⟩, rfl⟩
  · rintro ⟨⟨sign, digits, rfl, hs, hd⟩, rfl⟩
    exact ⟨sign, digits, [], [], rfl, rfl, ⟨by simpa using hs, rfl⟩,
      (fitsJust_oneOrMore _ _).mpr ⟨hd, rfl⟩⟩

theorem inline_architectureParts : ∀ p ∈ architectureParts, p.Inline := by
  simp only [architectureParts, List.forall_mem_cons, Inline, List.not_mem_nil, false_implies,
    implies_true, and_true]
  decide

theorem inline_testParts : ∀ p ∈ testParts, p.Inline := by
  simp only [testParts, Pattern.oneOrMore, List.forall_mem_cons, Inline, List.not_mem_nil,
    false_implies, implies_true, and_true]
  decide

/-! ## The line of the architecture -/

theorem fits_architectureParts : (toLineEnd architectureParts).Fits l g ↔
    ∃ lead gap value trail ret, l = lead ++ (label ++ (gap ++ (value ++ (trail ++ ret)))) ∧
      Only isGap lead ∧ Only isGap gap ∧
      (∃ c cs, value = c :: cs ∧ isInk c = true ∧ '\r' ∉ cs ∧ '\n' ∉ cs) ∧
      Only isGap trail ∧ OptionalReturn ret ∧ g = [value] := by
  simp only [architectureParts, fits_cons fitsJust_many, fits_cons fitsJust_literal,
    fits_group_cons fitsJust_value, fits_cons fitsJust_return, fits_nil]
  constructor
  · rintro ⟨lead, _, rfl, hlead, _, _, rfl, rfl, gap, _, rfl, hgap, value, _, _, rfl, rfl, hvalue,
      trail, _, rfl, htrail, ret, _, rfl, hret, rfl, rfl⟩
    exact ⟨lead, gap, value, trail, ret, by rw [List.append_nil]; rfl, hlead, hgap, hvalue, htrail,
      hret, rfl⟩
  · rintro ⟨lead, gap, value, trail, ret, rfl, hlead, hgap, hvalue, htrail, hret, rfl⟩
    exact ⟨lead, _, rfl, hlead, _, _, rfl, rfl, gap, _, rfl, hgap, value, _, _, rfl, rfl, hvalue,
      trail, _, rfl, htrail, ret, [], (List.append_nil _).symm, hret, rfl, rfl⟩

theorem fits_testParts : (toLineEnd testParts).Fits l g ↔
    ∃ lead name gap code gap' exit trail ret,
      l = lead ++ (name ++ (gap ++ (code ++ (gap' ++ (exit ++ (trail ++ ret)))))) ∧
      Only isGap lead ∧ OneOrMore isInk name ∧ OneOrMore isGap gap ∧ OneOrMore isCapital code ∧
      OneOrMore isGap gap' ∧
      (∃ sign digits, exit = sign ++ digits ∧ (sign = [] ∨ sign = ['-']) ∧
        OneOrMore isDecimalDigit digits) ∧
      Only isGap trail ∧ OptionalReturn ret ∧ g = [name, code, exit] := by
  simp only [testParts, fits_cons fitsJust_many, fits_cons fitsJust_oneOrMore,
    fits_group_cons fitsJust_oneOrMore, fits_group_cons fitsJust_number, fits_cons fitsJust_return,
    fits_nil]
  constructor
  · rintro ⟨lead, _, rfl, hlead, name, _, _, rfl, rfl, hname, gap, _, rfl, hgap, code, _, _, rfl,
      rfl, hcode, gap', _, rfl, hgap', exit, _, _, rfl, rfl, hexit, trail, _, rfl, htrail,
      ret, _, rfl, hret, rfl, rfl⟩
    exact ⟨lead, name, gap, code, gap', exit, trail, ret, by rw [List.append_nil], hlead, hname,
      hgap, hcode, hgap', hexit, htrail, hret, rfl⟩
  · rintro ⟨lead, name, gap, code, gap', exit, trail, ret, rfl, hlead, hname, hgap, hcode, hgap',
      hexit, htrail, hret, rfl⟩
    exact ⟨lead, _, rfl, hlead, name, _, _, rfl, rfl, hname, gap, _, rfl, hgap, code, _, _, rfl,
      rfl, hcode, gap', _, rfl, hgap', exit, _, _, rfl, rfl, hexit, trail, _, rfl, htrail,
      ret, [], (List.append_nil _).symm, hret, rfl, rfl⟩

/-! ## What a line says -/

theorem isBlank_of_isInk {c : Char} (h : isInk c = true) : isBlank c = false := by
  simpa [isInk] using h

theorem isBlank_of_forall_isInk {w : List Char} (h : Only isInk w) : ∀ c ∈ w, isBlank c = false :=
  fun c hc => isBlank_of_isInk (h c hc)

theorem isBlank_of_forall_isCapital {w : List Char} (h : Only isCapital w) :
    ∀ c ∈ w, isBlank c = false := fun c hc => isBlank_of_isCapital (h c hc)

/-- The words of a test's line are what it says, whatever its gaps. -/
theorem words_of_reportsTest {e : Entry} (h : ReportsTest l e) :
    words l = [e.name.toList, e.code.toList, e.exitText.toList] := by
  obtain @⟨lead, name, gap, code, gap', sign, digits, trail, ret, hlead, hname, hgap, hcode, hgap',
    hsign, hdigits, htrail, hret⟩ := h
  have hexit : ∀ c ∈ sign ++ digits, isBlank c = false := by
    intro c hc
    rcases List.mem_append.mp hc with hc | hc
    · rcases hsign with rfl | rfl
      · exact absurd hc List.not_mem_nil
      · obtain rfl := List.mem_singleton.mp hc
        decide
    · exact isBlank_of_isDecimalDigit (hdigits.2 c hc)
  have hne : sign ++ digits ≠ [] := fun h => hdigits.1 (List.append_eq_nil_iff.mp h).2
  rw [Text.words_blanks_append (Text.isBlank_of_forall_isGap hlead),
    Text.words_word_append hname.1 (isBlank_of_forall_isInk hname.2) hgap.1
      (Text.isBlank_of_forall_isGap hgap.2),
    Text.words_word_append hcode.1 (isBlank_of_forall_isCapital hcode.2) hgap'.1
      (Text.isBlank_of_forall_isGap hgap'.2),
    Text.words_append_blanks (isBlank_of_tail htrail hret), Text.words_of_word hne hexit]
  simp only [String.toList_ofList]

/-- The name in an architecture's line is what stands behind the label, without blanks around it. -/
theorem eq_of_namesArchitecture {a : String} (h : NamesArchitecture l a) :
    a = String.ofList (trim ((Text.trimLeft l).drop label.length)) := by
  obtain @⟨lead, gap, value, trail, ret, hlead, hgap, -, -, htrail, hret⟩ := h
  have hlabel : ∀ cs, Text.trimLeft (label ++ cs) = label ++ cs := fun _ => rfl
  have hleft : ∀ cs, Text.trimLeft (lead ++ (label ++ cs)) = label ++ cs := fun cs => by
    rw [Text.trimLeft, List.dropWhile_append_of_pos (Text.isBlank_of_forall_isGap hlead)]
    exact hlabel cs
  rw [hleft, List.drop_left, Text.trim_blanks_append (Text.isBlank_of_forall_isGap hgap),
    Text.trim_append_blanks (isBlank_of_tail htrail hret)]

theorem NamesArchitecture.unique {a b : String} (ha : NamesArchitecture l a)
    (hb : NamesArchitecture l b) : a = b :=
  (eq_of_namesArchitecture ha).trans (eq_of_namesArchitecture hb).symm

theorem ReportsTest.unique {d e : Entry} (hd : ReportsTest l d) (he : ReportsTest l e) : d = e := by
  have h := (words_of_reportsTest hd).symm.trans (words_of_reportsTest he)
  simp only [List.cons.injEq, String.toList_inj, and_true] at h
  obtain ⟨hn, hc, hx⟩ := h
  cases d
  cases e
  simp_all

/-- What a pattern finds in a line is what the line says (`R`), if lines say one thing at most, the
pattern fits lines that say something, and what it finds is always right. -/
theorem lineGroups?_bind_eq_some_iff {β : Type} {R : List Char → β → Prop}
    {read : List (List Char) → Option β} (hparts : ∀ p ∈ parts, p.Inline)
    (hunique : ∀ b b', R l b → R l b' → b = b')
    (hfits : ∀ b, R l b → ∃ g, (toLineEnd parts).Fits l g)
    (hread : ∀ g, lineGroups? parts l = some g → ∃ b, read g = some b ∧ R l b) (b : β) :
    (lineGroups? parts l).bind read = some b ↔ R l b := by
  constructor
  · intro h
    obtain ⟨g, hg, hb⟩ := Option.bind_eq_some_iff.mp h
    obtain ⟨b', hb', hr⟩ := hread g hg
    obtain rfl := Option.some.inj (hb.symm.trans hb')
    exact hr
  · intro h
    obtain ⟨g, hg⟩ := hfits b h
    obtain ⟨k, hk⟩ := Option.isSome_iff_exists.mp (Text.Pattern.isSome_lineGroups? hparts hg)
    obtain ⟨b', hb', hr⟩ := hread k hk
    obtain rfl := hunique b' b hr h
    exact Option.bind_eq_some_iff.mpr ⟨k, hk, hb'⟩

/-- What is found of an architecture in a line is what the line says. -/
theorem namesArchitecture_of_lineGroups? (hl : '\n' ∉ l)
    (h : lineGroups? architectureParts l = some g) :
    ∃ a, architectureOfGroups? g = some a ∧ NamesArchitecture l a := by
  obtain ⟨lead, gap, _, trail, ret, rfl, hlead, hgap, ⟨c, cs, rfl, hc, hr, -⟩, htrail, hret, rfl⟩ :=
    fits_architectureParts.mp (Text.Pattern.fits_of_lineGroups? hl h)
  have hcr : '\r' ∉ c :: cs := by
    rw [List.mem_cons, not_or]
    exact ⟨by rintro rfl; exact absurd hc (by decide), hr⟩
  exact ⟨_, rfl, .intro hlead hgap ⟨c, cs, rfl, hc⟩ hcr htrail hret⟩

theorem fits_of_namesArchitecture (hl : '\n' ∉ l) {a : String} (h : NamesArchitecture l a) :
    ∃ g, (toLineEnd architectureParts).Fits l g := by
  obtain @⟨lead, gap, _, trail, ret, hlead, hgap, ⟨c, cs, rfl, hc⟩, hr, htrail, hret⟩ := h
  have hr' : '\r' ∉ cs := List.not_mem_of_not_mem_cons hr
  have hn : '\n' ∉ cs := fun hm => hl (by simp [hm])
  exact ⟨_, fits_architectureParts.mpr ⟨lead, gap, c :: cs, trail, ret, rfl, hlead, hgap,
    ⟨c, cs, rfl, hc, hr', hn⟩, htrail, hret, rfl⟩⟩

/-- **The architecture's line is found exactly**: the pattern finds in a line the architecture that
the line names. -/
theorem namesArchitecture_iff (hl : '\n' ∉ l) (a : String) :
    (lineGroups? architectureParts l).bind architectureOfGroups? = some a ↔
      NamesArchitecture l a := by
  refine lineGroups?_bind_eq_some_iff inline_architectureParts ?_ ?_ ?_ a
  · exact fun _ _ ha hb => ha.unique hb
  · exact fun _ ha => fits_of_namesArchitecture hl ha
  · exact fun _ hg => namesArchitecture_of_lineGroups? hl hg

/-- What is found of a test in a line is what the line says. -/
theorem reportsTest_of_lineGroups? (hl : '\n' ∉ l) (h : lineGroups? testParts l = some g) :
    ∃ e, Entry.ofGroups? g = some e ∧ ReportsTest l e := by
  obtain ⟨lead, name, gap, code, gap', _, trail, ret, rfl, hlead, hname, hgap, hcode, hgap',
    ⟨sign, digits, rfl, hsign, hdigits⟩, htrail, hret, rfl⟩ :=
    fits_testParts.mp (Text.Pattern.fits_of_lineGroups? hl h)
  have he := ReportsTest.intro hlead hname hgap hcode hgap' hsign hdigits htrail hret
  refine ⟨_, ?_, he⟩
  -- The fields hold no blanks, so that trimming them changes nothing.
  have hwords := words_of_reportsTest he
  simp only [String.toList_ofList] at hwords
  have hw : ∀ w ∈ [name, code, sign ++ digits], trim w = w := fun w hm =>
    Text.trim_of_word (Text.isBlank_of_mem_words (hwords ▸ hm))
  rw [Entry.ofGroups?, hw name (by simp), hw code (by simp), hw (sign ++ digits) (by simp)]

theorem fits_of_reportsTest {e : Entry} (h : ReportsTest l e) :
    ∃ g, (toLineEnd testParts).Fits l g := by
  obtain @⟨lead, name, gap, code, gap', sign, digits, trail, ret, hlead, hname, hgap, hcode, hgap',
    hsign, hdigits, htrail, hret⟩ := h
  exact ⟨_, fits_testParts.mpr ⟨lead, name, gap, code, gap', sign ++ digits, trail, ret, rfl,
    hlead, hname, hgap, hcode, hgap', ⟨sign, digits, rfl, hsign, hdigits⟩, htrail, hret, rfl⟩⟩

/-- **The line of a test is found exactly**: the pattern finds in a line what the line says of a
test. -/
theorem reportsTest_iff (hl : '\n' ∉ l) (e : Entry) :
    (lineGroups? testParts l).bind Entry.ofGroups? = some e ↔ ReportsTest l e := by
  refine lineGroups?_bind_eq_some_iff inline_testParts ?_ ?_ ?_ e
  · exact fun _ _ hd he => hd.unique he
  · exact fun _ he => fits_of_reportsTest he
  · exact fun _ hg => reportsTest_of_lineGroups? hl hg

/-- **No line counts twice**: the second word of an architecture's line is not written in capitals
only, as the status in a test's line is. -/
theorem not_reportsTest_of_namesArchitecture {a : String} {e : Entry} (ha : NamesArchitecture l a) :
    ¬ ReportsTest l e := by
  intro he
  have hcode : OneOrMore isCapital e.code.toList := by
    obtain @⟨lead, name, gap, code, _, _, _, _, _, -, -, -, hcode, -, -, -, -, -⟩ := he
    rwa [String.toList_ofList]
  have hwords := words_of_reportsTest he
  obtain @⟨lead, gap, value, trail, ret, hlead, -, -, -, -, -⟩ := ha
  obtain ⟨more, ws, h⟩ := Text.words_append_of_word (w := "Architecture:".toList) (by decide)
    (isBlank_of_forall_isInk (by decide)) (gap ++ (value ++ (trail ++ ret)))
  have hlabel : label = "Machine".toList ++ ([' '] ++ "Architecture:".toList) := rfl
  rw [Text.words_blanks_append (Text.isBlank_of_forall_isGap hlead), hlabel, List.append_assoc,
    List.append_assoc, Text.words_word_append (by decide) (isBlank_of_forall_isInk (by decide)) (by decide)
      (Text.isBlank_of_forall_isGap (by simp [isGap])), h] at hwords
  simp only [List.cons.injEq] at hwords
  have hr : 'r' ∈ e.code.toList := hwords.2.1 ▸ List.mem_append_left more (by decide)
  exact absurd (hcode.2 'r' hr) (by decide)

/-! ## Lines that a carriage return ends -/

/-- A text of characters of a kind holds no other. -/
theorem not_mem_of_only {kind : Char → Bool} {c : Char} (hc : kind c = false) {cs : List Char}
    (h : Only kind cs) : c ∉ cs := fun hm => by
  rw [h c hm] at hc
  exact Bool.noConfusion hc

/-- A text that ends in a carriage return is another text behind which one stands, if that text has
none elsewhere. -/
theorem eq_of_append_return {body ret : List Char} (hbody : '\r' ∉ body) (hret : OptionalReturn ret)
    (h : l ++ ['\r'] = body ++ ret) : l = body := by
  rcases hret with rfl | rfl
  · rw [List.append_nil] at h
    exact absurd (h ▸ List.mem_append_right l List.mem_cons_self) hbody
  · exact List.append_cancel_right h

theorem NamesArchitecture.of_return {a : String} (h : NamesArchitecture (l ++ ['\r']) a) :
    NamesArchitecture l a := by
  generalize hline : l ++ ['\r'] = line at h
  obtain @⟨lead, gap, value, trail, ret, hlead, hgap, hvalue, hreturn, htrail, hret⟩ := h
  have hbody : '\r' ∉ lead ++ (label ++ (gap ++ (value ++ trail))) := by
    simp only [List.mem_append, not_or]
    exact ⟨not_mem_of_only (by decide) hlead, by decide, not_mem_of_only (by decide) hgap, hreturn,
      not_mem_of_only (by decide) htrail⟩
  have hl := eq_of_append_return hbody hret (by simpa using hline)
  have hnames := NamesArchitecture.intro hlead hgap hvalue hreturn htrail (Or.inl rfl)
  rwa [List.append_nil, ← hl] at hnames

theorem ReportsTest.of_return {e : Entry} (h : ReportsTest (l ++ ['\r']) e) : ReportsTest l e := by
  generalize hline : l ++ ['\r'] = line at h
  obtain @⟨lead, name, gap, code, gap', sign, digits, trail, ret, hlead, hname, hgap, hcode, hgap',
    hsign, hdigits, htrail, hret⟩ := h
  have hbody : '\r' ∉ lead ++ (name ++ (gap ++ (code ++ (gap' ++ (sign ++ digits ++ trail))))) := by
    have hs : '\r' ∉ sign := by rcases hsign with rfl | rfl <;> decide
    simp only [List.mem_append, not_or]
    exact ⟨not_mem_of_only (by decide) hlead, not_mem_of_only (by decide) hname.2,
      not_mem_of_only (by decide) hgap.2, not_mem_of_only (by decide) hcode.2,
      not_mem_of_only (by decide) hgap'.2, ⟨hs, not_mem_of_only (by decide) hdigits.2⟩,
      not_mem_of_only (by decide) htrail⟩
  have hl := eq_of_append_return hbody hret (by simpa using hline)
  have hreports := ReportsTest.intro hlead hname hgap hcode hgap' hsign hdigits htrail (Or.inl rfl)
  rwa [List.append_nil, ← hl] at hreports

end Testbed.Log
