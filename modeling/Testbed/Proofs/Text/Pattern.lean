import Mathlib.Data.List.Basic
import Testbed.Text.Pattern
import Testbed.Text.Pieces

/-!
# Patterns of whole lines are searched for line by line

A search walks through a text without regard to its lines. For the pattern of a whole line
(`Pattern.line`) whose parts take no line feed this comes to the same as a look at each line by
itself.

* `Inline`: a pattern without line ends, of characters other than line feeds.
* `Fits p t g`: the text `t` looks like `p`, with `g` in the groups, whatever stands around it and
  however it is found.

Results:
* `fits_of_mem_ways`, `mem_ways_of_fits`: the ways of a pattern are the splits of the text whose
  first half fits.
* `ways_append`: what stands behind the end of a line has no part in how an `Inline` pattern fits
  within it.
* `search_line`: **the matches of `line parts` in a text are those of its lines**, at most one for
  each, in order.
-/

namespace Testbed.Text

/-- The way with more text behind it. -/
def Way.extend (t : List Char) (w : Way) : Way := { w with rest := w.rest ++ t }

namespace Pattern

variable {kind : Char → Bool} {p q : Pattern} {parts : List Pattern} {b : Option Char}
  {cs t l : List Char} {g : List (List Char)} {w : Way}

/-! ## What a pattern fits -/

/-- A pattern within a line: it takes no line feed and does not ask for the ends of the line. -/
def Inline : Pattern → Prop
  | lineStart | lineEnd => False
  | literal t => '\n' ∉ t
  | one kind | optional kind | many kind | few kind => kind '\n' = false
  | group p => p.Inline
  | seq p q => p.Inline ∧ q.Inline

/-- A text that looks like the pattern, with `g` in its groups. -/
def Fits : Pattern → List Char → List (List Char) → Prop
  | lineStart, t, g | lineEnd, t, g => t = [] ∧ g = []
  | literal u, t, g => t = u ∧ g = []
  | one kind, t, g => (∃ c, kind c = true ∧ t = [c]) ∧ g = []
  | optional kind, t, g => (t = [] ∨ ∃ c, kind c = true ∧ t = [c]) ∧ g = []
  | many kind, t, g | few kind, t, g => (∀ c ∈ t, kind c = true) ∧ g = []
  | group p, t, g => ∃ h, g = t :: h ∧ p.Fits t h
  | seq p q, t, g => ∃ t₁ t₂ g₁ g₂, t = t₁ ++ t₂ ∧ g = g₁ ++ g₂ ∧ p.Fits t₁ g₁ ∧ q.Fits t₂ g₂

theorem mem_runs : w ∈ runs kind cs ↔
    (∀ c ∈ w.taken, kind c = true) ∧ w.groups = [] ∧ w.taken ++ w.rest = cs := by
  obtain ⟨taken, groups, rest⟩ := w
  induction cs generalizing taken with
  | nil => cases taken <;> simp [runs]
  | cons c cs ih =>
    rw [runs, List.mem_cons]
    cases taken with
    | nil =>
      split <;> simp [and_comm]
    | cons d ds =>
      split
      · rename_i hc
        simp only [Way.mk.injEq, reduceCtorEq, false_and, List.mem_map, false_or]
        constructor
        · rintro ⟨⟨u, v, r⟩, hw, hd, rfl, rfl⟩
          obtain ⟨rfl, rfl⟩ := List.cons.inj hd
          obtain ⟨hk, hg, he⟩ := (ih u).mp hw
          exact ⟨List.forall_mem_cons.mpr ⟨hc, hk⟩, hg, congrArg (c :: ·) he⟩
        · rintro ⟨hk, rfl, he⟩
          obtain ⟨rfl, hcs⟩ := List.cons.inj he
          exact ⟨⟨ds, [], rest⟩, (ih ds).mpr ⟨(List.forall_mem_cons.mp hk).2, rfl, hcs⟩,
            rfl, rfl, rfl⟩
      · rename_i hc
        simp only [Way.mk.injEq, reduceCtorEq, false_and, List.not_mem_nil, or_self, false_iff]
        rintro ⟨hk, -, he⟩
        obtain ⟨rfl, -⟩ := List.cons.inj he
        exact hc (hk d List.mem_cons_self)

/-- **Soundness of matching.** A way splits the text, and what it takes fits. -/
theorem fits_of_mem_ways (h : w ∈ p.ways b cs) :
    w.taken ++ w.rest = cs ∧ p.Fits w.taken w.groups := by
  induction p generalizing b cs w with
  | lineStart =>
    simp only [ways] at h
    split at h
    · obtain rfl := List.mem_singleton.mp h
      exact ⟨rfl, rfl, rfl⟩
    · exact absurd h List.not_mem_nil
  | lineEnd =>
    simp only [ways] at h
    split at h
    · obtain rfl := List.mem_singleton.mp h
      exact ⟨rfl, rfl, rfl⟩
    · exact absurd h List.not_mem_nil
  | literal u =>
    simp only [ways] at h
    split at h
    · rename_i hu
      obtain rfl := List.mem_singleton.mp h
      exact ⟨List.prefix_iff_eq_append.mp (List.isPrefixOf_iff_prefix.mp hu), rfl, rfl⟩
    · exact absurd h List.not_mem_nil
  | one kind =>
    cases cs with
    | nil => exact absurd h List.not_mem_nil
    | cons c cs =>
      simp only [ways] at h
      split at h
      · rename_i hc
        obtain rfl := List.mem_singleton.mp h
        exact ⟨rfl, ⟨c, hc, rfl⟩, rfl⟩
      · exact absurd h List.not_mem_nil
  | optional kind =>
    cases cs with
    | nil =>
      obtain rfl := List.mem_singleton.mp h
      exact ⟨rfl, Or.inl rfl, rfl⟩
    | cons c cs =>
      simp only [ways, List.mem_append] at h
      rcases h with h | h
      · split at h
        · rename_i hc
          obtain rfl := List.mem_singleton.mp h
          exact ⟨rfl, Or.inr ⟨c, hc, rfl⟩, rfl⟩
        · exact absurd h List.not_mem_nil
      · obtain rfl := List.mem_singleton.mp h
        exact ⟨rfl, Or.inl rfl, rfl⟩
  | many kind =>
    obtain ⟨hk, hg, he⟩ := mem_runs.mp (List.mem_reverse.mp h)
    exact ⟨he, hk, hg⟩
  | few kind =>
    obtain ⟨hk, hg, he⟩ := mem_runs.mp h
    exact ⟨he, hk, hg⟩
  | group p ih =>
    obtain ⟨v, hv, rfl⟩ := List.mem_map.mp h
    obtain ⟨he, hf⟩ := ih hv
    exact ⟨he, v.groups, rfl, hf⟩
  | seq p q ihp ihq =>
    simp only [ways, List.mem_flatMap, List.mem_map] at h
    obtain ⟨u, hu, v, hv, rfl⟩ := h
    obtain ⟨heu, hfu⟩ := ihp hu
    obtain ⟨hev, hfv⟩ := ihq hv
    refine ⟨?_, u.taken, v.taken, u.groups, v.groups, rfl, rfl, hfu, hfv⟩
    rw [List.append_assoc, hev, heu]

/-- **Completeness of matching**, within a line: every split whose first half fits is a way. -/
theorem mem_ways_of_fits (hp : p.Inline) (h : p.Fits t g) (r : List Char) :
    ⟨t, g, r⟩ ∈ p.ways b (t ++ r) := by
  induction p generalizing b t g r with
  | lineStart => exact hp.elim
  | lineEnd => exact hp.elim
  | literal u =>
    obtain ⟨rfl, rfl⟩ := h
    simp [ways]
  | one kind =>
    obtain ⟨⟨c, hc, rfl⟩, rfl⟩ := h
    simp [ways, hc]
  | optional kind =>
    obtain ⟨rfl | ⟨c, hc, rfl⟩, rfl⟩ := h
    · cases r <;> simp [ways]
    · simp [ways, hc]
  | many kind => exact List.mem_reverse.mpr (mem_runs.mpr ⟨h.1, h.2, rfl⟩)
  | few kind => exact mem_runs.mpr ⟨h.1, h.2, rfl⟩
  | group p ih =>
    obtain ⟨k, rfl, hf⟩ := h
    exact List.mem_map.mpr ⟨_, ih hp hf r, rfl⟩
  | seq p q ihp ihq =>
    obtain ⟨t₁, t₂, g₁, g₂, rfl, rfl, h₁, h₂⟩ := h
    simp only [ways, List.mem_flatMap, List.mem_map]
    refine ⟨⟨t₁, g₁, t₂ ++ r⟩, ?_, ⟨t₂, g₂, r⟩, ihq hp.2 h₂ r, rfl⟩
    rw [List.append_assoc]
    exact ihp hp.1 h₁ (t₂ ++ r)

/-! ## Matching within a line -/

/-- A text that stands at the end of a line. -/
def AtLineEnd (t : List Char) : Prop := t.head?.all (· == '\n') = true

theorem AtLineEnd.eq_lineFeed {c : Char} (h : AtLineEnd (c :: t)) : c = '\n' := by
  unfold AtLineEnd at h
  simpa using h

/-- What a way leaves of a line is still within the line. -/
theorem not_mem_rest (hl : '\n' ∉ l) (hw : w ∈ p.ways b l) : '\n' ∉ w.rest := by
  intro hm
  have hsplit := (fits_of_mem_ways hw).1
  exact hl (hsplit ▸ List.mem_append_right _ hm)

theorem runs_append (hk : kind '\n' = false) (ht : AtLineEnd t) :
    runs kind (l ++ t) = (runs kind l).map (Way.extend t) := by
  induction l with
  | nil =>
    cases t with
    | nil => rfl
    | cons c t =>
      obtain rfl := ht.eq_lineFeed
      simp [runs, hk, Way.extend]
  | cons c cs ih =>
    rw [List.cons_append, runs, runs, ih]
    cases kind c with
    | false => rfl
    | true =>
      simp only [↓reduceIte, List.map_cons, List.map_map]
      rfl

theorem isPrefixOf_append {u : List Char} (hu : '\n' ∉ u) (ht : AtLineEnd t) :
    u.isPrefixOf (l ++ t) = u.isPrefixOf l := by
  induction u generalizing l with
  | nil => rfl
  | cons c u ih =>
    rw [List.mem_cons, not_or] at hu
    cases l with
    | cons d l => simp only [List.cons_append, List.isPrefixOf, ih hu.2]
    | nil =>
      cases t with
      | nil => rfl
      | cons d t =>
        obtain rfl := ht.eq_lineFeed
        simp [List.isPrefixOf, Ne.symm hu.1]

/-- **Locality.** How a pattern fits within a line depends neither on what stands behind the end of
the line nor on what stands before the place. -/
theorem ways_append (hp : p.Inline) (hl : '\n' ∉ l) (ht : AtLineEnd t) (b' : Option Char) :
    p.ways b (l ++ t) = (p.ways b' l).map (Way.extend t) := by
  induction p generalizing b b' l with
  | lineStart => exact hp.elim
  | lineEnd => exact hp.elim
  | literal u =>
    simp only [ways, isPrefixOf_append hp ht]
    split
    · rename_i hu
      have hle := (List.isPrefixOf_iff_prefix.mp hu).length_le
      simp [Way.extend, List.drop_append_of_le_length hle]
    · rfl
  | one kind =>
    cases l with
    | nil =>
      cases t with
      | nil => rfl
      | cons c t =>
        obtain rfl := ht.eq_lineFeed
        simp [ways, show kind '\n' = false from hp]
    | cons c l => cases hc : kind c <;> simp [ways, hc, Way.extend]
  | optional kind =>
    cases l with
    | nil =>
      cases t with
      | nil => rfl
      | cons c t =>
        obtain rfl := ht.eq_lineFeed
        simp [ways, show kind '\n' = false from hp, Way.extend]
    | cons c l => cases hc : kind c <;> simp [ways, hc, Way.extend]
  | many kind => simp only [ways, runs_append hp ht, List.map_reverse]
  | few kind => exact runs_append hp ht
  | group p ih =>
    simp only [ways, ih hp hl b', List.map_map]
    rfl
  | seq p q ihp ihq =>
    simp only [ways, ihp hp.1 hl b', List.flatMap_map, List.map_flatMap]
    refine List.flatMap_congr fun w hw => ?_
    -- The second pattern starts within the same line.
    have hr : '\n' ∉ w.rest := not_mem_rest hl hw
    simp only [Way.extend, ihq hp.2 hr (w.taken.getLast?.or b'), List.map_map]
    rfl

/-! ## Searching for whole lines -/

theorem ways_line : (line parts).ways b cs =
    if b.all (· == '\n') then (toLineEnd parts).ways b cs else [] := by
  cases h : b.all (· == '\n') <;> simp [line, ways, h]

/-- The pattern of a whole line does not fit inside one. -/
theorem first?_line_of_ne {c : Char} (hc : c ≠ '\n') : (line parts).first? (some c) cs = none := by
  simp [first?, ways_line, hc]

theorem ways_toLineEnd_append (hp : ∀ p ∈ parts, p.Inline) (hl : '\n' ∉ l) (ht : AtLineEnd t)
    (b' : Option Char) :
    (toLineEnd parts).ways b (l ++ t) = ((toLineEnd parts).ways b' l).map (Way.extend t) := by
  induction parts generalizing b b' l with
  | nil =>
    cases l with
    | nil =>
      have hn : t.head?.all (· == '\n') = true := ht
      simp [toLineEnd, ways, hn, Way.extend]
    | cons c l =>
      have hc : c ≠ '\n' := (List.ne_of_not_mem_cons hl).symm
      simp [toLineEnd, ways, hc]
  | cons p parts ih =>
    have hp' := List.forall_mem_cons.mp hp
    simp only [toLineEnd, List.foldr_cons, ways, ways_append hp'.1 hl ht b', List.flatMap_map,
      List.map_flatMap]
    refine List.flatMap_congr fun w hw => ?_
    have hr : '\n' ∉ w.rest := not_mem_rest hl hw
    have hrest := ih hp'.2 hr (b := w.taken.getLast?.or b) (w.taken.getLast?.or b')
    unfold toLineEnd at hrest
    simp only [Way.extend, hrest, List.map_map]
    rfl

/-- A whole line is taken to its end. -/
theorem rest_eq_nil (hl : '\n' ∉ l) (hw : w ∈ (toLineEnd parts).ways b l) : w.rest = [] := by
  induction parts generalizing b l w with
  | nil =>
    simp only [toLineEnd, List.foldr_nil, ways] at hw
    split at hw
    · rename_i h
      obtain rfl := List.mem_singleton.mp hw
      cases l with
      | nil => rfl
      | cons c l =>
        obtain rfl : c = '\n' := by simpa using h
        exact absurd List.mem_cons_self hl
    · exact absurd hw List.not_mem_nil
  | cons p parts ih =>
    simp only [toLineEnd, List.foldr_cons, ways, List.mem_flatMap, List.mem_map] at hw
    obtain ⟨u, hu, v, hv, rfl⟩ := hw
    have hr : '\n' ∉ u.rest := not_mem_rest hl hu
    exact ih hr (w := v) hv

/-- What the groups hold if the pattern of a line with these parts fits the line. -/
def lineGroups? (parts : List Pattern) (l : List Char) : Option (List (List Char)) :=
  ((toLineEnd parts).first? none l).map (·.groups)

/-- What is found behind the end of a line. -/
def searchBehind (parts : List Pattern) : List Char → List (List (List Char))
  | [] => []
  | _ :: rest => (line parts).searchFrom (some '\n') 0 rest

/-- Inside a line nothing is found until the line has ended. -/
theorem searchFrom_inside {c : Char} (hc : c ≠ '\n') (hl : '\n' ∉ l) (ht : AtLineEnd t) {k : Nat}
    (hk : k ≤ l.length) :
    (line parts).searchFrom (some c) k (l ++ t) = searchBehind parts t := by
  induction l generalizing c k with
  | nil =>
    obtain rfl : k = 0 := Nat.le_zero.mp hk
    cases t with
    | nil => simp [searchFrom, first?_line_of_ne hc, searchBehind]
    | cons d t =>
      obtain rfl := ht.eq_lineFeed
      simp [searchFrom, first?_line_of_ne hc, searchBehind]
  | cons d l ih =>
    have hd : d ≠ '\n' := (List.ne_of_not_mem_cons hl).symm
    have hl' : '\n' ∉ l := List.not_mem_of_not_mem_cons hl
    rw [List.cons_append]
    cases k with
    | succ k => exact ih hd hl' (Nat.le_of_succ_le_succ hk)
    | zero =>
      rw [searchFrom, first?_line_of_ne hc]
      exact ih hd hl' (Nat.zero_le _)

/-- At the start of a line, only the line itself decides whether the pattern fits. -/
theorem first?_lineStart (hp : ∀ p ∈ parts, p.Inline) (hl : '\n' ∉ l) (ht : AtLineEnd t)
    (hb : b.all (· == '\n') = true) :
    (line parts).first? b (l ++ t) = ((toLineEnd parts).first? none l).map (Way.extend t) := by
  rw [first?, ways_line, if_pos hb, ways_toLineEnd_append hp hl ht none, List.head?_map, first?]

/-- What fits a whole line takes all of it. -/
theorem taken_of_first? (hl : '\n' ∉ l) (hw : (toLineEnd parts).first? none l = some w) :
    w.taken = l := by
  have hm := List.mem_of_head? hw
  have he := (fits_of_mem_ways hm).1
  rwa [rest_eq_nil hl hm, List.append_nil] at he

/-- **One line at a time.** At the start of a line, the search finds what the line by itself holds,
and goes on behind its end. -/
theorem searchFrom_lineStart (hp : ∀ p ∈ parts, p.Inline) (hl : '\n' ∉ l) (ht : AtLineEnd t)
    (hb : b.all (· == '\n') = true) :
    (line parts).searchFrom b 0 (l ++ t) =
      (lineGroups? parts l).toList ++ searchBehind parts t := by
  have hfirst := first?_lineStart hp hl ht hb
  cases l with
  | nil =>
    cases t with
    | nil =>
      rw [List.append_nil] at hfirst ⊢
      rw [searchFrom, hfirst, lineGroups?, Option.map_map, searchBehind, List.append_nil]
      rfl
    | cons d t =>
      obtain rfl := ht.eq_lineFeed
      rw [List.nil_append] at hfirst ⊢
      rw [searchFrom, hfirst, lineGroups?]
      cases hw : (toLineEnd parts).first? none [] with
      | none => rfl
      | some w =>
        have htaken : w.taken = [] := taken_of_first? hl hw
        simp [Way.extend, htaken, searchBehind]
  | cons c l =>
    have hc : c ≠ '\n' := (List.ne_of_not_mem_cons hl).symm
    have hl' : '\n' ∉ l := List.not_mem_of_not_mem_cons hl
    rw [List.cons_append] at hfirst ⊢
    rw [searchFrom, hfirst, lineGroups?]
    cases hw : (toLineEnd parts).first? none (c :: l) with
    | none => exact searchFrom_inside hc hl' ht (Nat.zero_le _)
    | some w =>
      have hlen : w.taken.length - 1 = l.length := by rw [taken_of_first? hl hw]; rfl
      simp [Way.extend, hlen, searchFrom_inside hc hl' ht (Nat.le_refl _)]

theorem searchFrom_eq (hp : ∀ p ∈ parts, p.Inline) (hb : b.all (· == '\n') = true) :
    (line parts).searchFrom b 0 cs = (cs.splitOn '\n').filterMap (lineGroups? parts) := by
  induction hn : cs.length using Nat.strongRecOn generalizing b cs with
  | ind n ih =>
    by_cases hm : '\n' ∈ cs
    · obtain ⟨l, rest, rfl, hl⟩ := List.eq_append_cons_of_mem hm
      have hlt : rest.length < n := by
        rw [← hn, List.length_append, List.length_cons]
        omega
      rw [searchFrom_lineStart hp hl (t := '\n' :: rest) rfl hb, searchBehind,
        List.splitOn_append_cons_self_of_not_mem hl, ih rest.length hlt rfl rfl]
      cases h : lineGroups? parts l <;> simp [h]
    · have hall := searchFrom_lineStart hp hm (t := []) rfl hb
      rw [List.append_nil] at hall
      rw [hall, List.splitOn_eq_singleton hm, searchBehind]
      cases h : lineGroups? parts cs <;> simp [h]

/-- **A search for whole lines goes line by line**: what it finds in a text is what it finds in
the lines of the text, in order and at most once in each. -/
theorem search_line (hp : ∀ p ∈ parts, p.Inline) (cs : List Char) :
    (line parts).search cs = (cs.splitOn '\n').filterMap (lineGroups? parts) :=
  searchFrom_eq hp rfl

/-! ## What one line holds -/

theorem fits_of_lineGroups? (hl : '\n' ∉ l) (h : lineGroups? parts l = some g) :
    (toLineEnd parts).Fits l g := by
  obtain ⟨w, hw, rfl⟩ := Option.map_eq_some_iff.mp h
  have hf := (fits_of_mem_ways (List.mem_of_head? hw)).2
  rwa [taken_of_first? hl hw] at hf

theorem mem_ways_toLineEnd (hp : ∀ p ∈ parts, p.Inline) (h : (toLineEnd parts).Fits l g) :
    ⟨l, g, []⟩ ∈ (toLineEnd parts).ways b l := by
  induction parts generalizing b l g with
  | nil =>
    obtain ⟨rfl, rfl⟩ := h
    exact List.mem_singleton.mpr rfl
  | cons p parts ih =>
    have hp' := List.forall_mem_cons.mp hp
    obtain ⟨t₁, t₂, g₁, g₂, rfl, rfl, h₁, h₂⟩ := h
    simp only [toLineEnd, List.foldr_cons, ways, List.mem_flatMap, List.mem_map]
    exact ⟨⟨t₁, g₁, t₂⟩, mem_ways_of_fits hp'.1 h₁ t₂, ⟨t₂, g₂, []⟩, ih hp'.2 h₂, rfl⟩

/-- A line that fits in some way is found. -/
theorem isSome_lineGroups? (hp : ∀ p ∈ parts, p.Inline) (h : (toLineEnd parts).Fits l g) :
    (lineGroups? parts l).isSome = true := by
  rw [lineGroups?, Option.isSome_map, first?, List.isSome_head?]
  exact List.ne_nil_of_mem (mem_ways_toLineEnd hp h)

end Pattern

end Testbed.Text
