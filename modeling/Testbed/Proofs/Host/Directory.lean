import Testbed.Host.Directory

/-!
# What a write leaves behind

* `Extends d₀ d`: all that stands in `d₀` stands in `d` too, and `d` has no directories but those of
  `d₀`.

Results:
* `Extends.locate_eq_ok_iff`, `Extends.lookup`: paths lead where they led, to what stood there.
* `Extends.write`: what is written where nothing stood leaves all the rest as it was.
* `entry?_write`: after a write the text stands where its path leads, and elsewhere what stood there.
-/

namespace Testbed.Host.Directory

variable {d d₀ d₁ : Directory} {location location' : Location} {entry : Entry} {name path text : String}
  {names : List String}

theorem bind_eq_ok_iff {ε α β : Type} {x : Except ε α} {f : α → Except ε β} {b : β} :
    x >>= f = .ok b ↔ ∃ a, x = .ok a ∧ f a = .ok b := by
  cases x with
  | error e => exact ⟨nofun, fun ⟨_, h, _⟩ => nomatch h⟩
  | ok a => exact ⟨fun h => ⟨a, rfl, h⟩, fun ⟨_, h, hf⟩ => (Except.ok.inj h) ▸ hf⟩

/-! ## What stands where -/

theorem lookup_filter_ne {entries : List (Location × Entry)} (h : location' ≠ location) :
    (entries.filter (·.1 != location)).lookup location' = entries.lookup location' := by
  induction entries with
  | nil => rfl
  | cons first entries ih =>
    obtain ⟨key, entry⟩ := first
    by_cases hkey : key = location
    · subst hkey
      rw [List.filter_cons_of_neg (by simp), ih, List.lookup_cons, beq_false_of_ne h]
    · rw [List.filter_cons_of_pos (by simpa using hkey), List.lookup_cons, List.lookup_cons, ih]

theorem entry?_insert (h : location ≠ []) (entry : Entry) :
    entry? (d.insert location entry) location' =
      if location' = location then some entry else d.entry? location' := by
  by_cases hlocation : location' = location
  · subst hlocation
    rw [if_pos rfl, entry?, if_neg (by simpa using h), insert, List.lookup_cons_self]
  · rw [if_neg hlocation, entry?, entry?, insert, List.lookup_cons, beq_false_of_ne hlocation]
    simp only [lookup_filter_ne hlocation]

theorem lookup_eq_ok_iff : d.lookup path = .ok entry ↔
    ∃ location, d.locate path = .ok location ∧ d.entry? location = some entry := by
  rw [lookup, bind_eq_ok_iff]
  refine exists_congr fun location => and_congr_right fun _ => ?_
  cases d.entry? location with
  | none => exact ⟨nofun, nofun⟩
  | some found => exact ⟨fun h => congrArg some (Except.ok.inj h), fun h => congrArg _ (Option.some.inj h)⟩

theorem read_of_lookup (h : d.lookup path = .ok (.file (some text))) : d.read path = .ok text := by
  rw [read, h]
  rfl

theorem target_eq_ok (h : d.target path = .ok location) :
    d.locate path = .ok location ∧ d.entry? location ≠ some .directory := by
  rw [target, bind_eq_ok_iff] at h
  obtain ⟨_, _, h⟩ := h
  split at h
  · obtain ⟨_, _, h⟩ := bind_eq_ok_iff.mp h
    cases h
  · obtain ⟨found, hfound, h⟩ := bind_eq_ok_iff.mp h
    split at h
    · cases h
    · cases h
      exact ⟨hfound, by assumption⟩

/-- **After a write** the text stands where its path leads, which is no directory, and elsewhere there
is what was there before. -/
theorem entry?_write (h : d.write path text = .ok d₁) : ∃ location, d.locate path = .ok location ∧
    d.entry? location ≠ some .directory ∧ d₁.working = d.working ∧
    ∀ location', d₁.entry? location' =
      if location' = location then some (.file (some text)) else d.entry? location' := by
  obtain ⟨location, htarget, h⟩ := bind_eq_ok_iff.mp h
  obtain rfl := Except.ok.inj h
  obtain ⟨hlocate, hdirectory⟩ := target_eq_ok htarget
  have hroot : location ≠ [] := by
    rintro rfl
    exact hdirectory rfl
  exact ⟨location, hlocate, hdirectory, rfl, fun location' => entry?_insert hroot _⟩

/-! ## Trees that hold what others hold -/

/-- All that stands in one tree stands in the other too, which has no other directories. -/
structure Extends (d₀ d : Directory) : Prop where
  working : d.working = d₀.working
  kept : ∀ location entry, d₀.entry? location = some entry → d.entry? location = some entry
  directories : ∀ location, d.entry? location = some .directory →
    d₀.entry? location = some .directory

namespace Extends

theorem refl (d : Directory) : Extends d d := ⟨rfl, fun _ _ h => h, fun _ h => h⟩

theorem entry?_eq_directory_iff (h : Extends d₀ d) :
    d.entry? location = some .directory ↔ d₀.entry? location = some .directory :=
  ⟨h.directories location, h.kept location .directory⟩

theorem descend_eq_ok_iff (h : Extends d₀ d) :
    d.descend location name = .ok location' ↔ d₀.descend location name = .ok location' := by
  by_cases hdirectory : d₀.entry? location = some .directory
  · rw [descend, descend, hdirectory, h.kept _ _ hdirectory]
  · have hnone : ∀ d' : Directory, d'.entry? location ≠ some .directory →
        d'.descend location name ≠ .ok location' := by
      intro d' hd'
      rw [descend]
      split
      · exact nofun
      · exact nofun
      · exact absurd ‹_› hd'
    exact iff_of_false (hnone d (mt h.entry?_eq_directory_iff.mp hdirectory)) (hnone d₀ hdirectory)

theorem walk_eq_ok_iff (h : Extends d₀ d) :
    d.walk location names = .ok location' ↔ d₀.walk location names = .ok location' := by
  induction names generalizing location with
  | nil => rfl
  | cons name names ih =>
    rw [walk, walk, List.foldlM_cons, List.foldlM_cons, bind_eq_ok_iff, bind_eq_ok_iff]
    exact exists_congr fun next => and_congr h.descend_eq_ok_iff ih

/-- **Paths lead where they led.** -/
theorem locate_eq_ok_iff (h : Extends d₀ d) :
    d.locate path = .ok location ↔ d₀.locate path = .ok location := by
  have hstart : d.start path = d₀.start path := by rw [start, start, h.working]
  rw [locate, locate, bind_eq_ok_iff, bind_eq_ok_iff, hstart]
  exact exists_congr fun _ => and_congr_right fun _ => h.walk_eq_ok_iff

/-- **What stood at a path stands there.** -/
theorem lookup (h : Extends d₀ d) (hlookup : d₀.lookup path = .ok entry) : d.lookup path = .ok entry := by
  obtain ⟨location, hlocate, hentry⟩ := lookup_eq_ok_iff.mp hlookup
  exact lookup_eq_ok_iff.mpr ⟨location, h.locate_eq_ok_iff.mpr hlocate, h.kept _ _ hentry⟩

/-- **What is written where nothing stood** leaves all the rest as it was. -/
theorem write (h : Extends d₀ d) (hwrite : d.write path text = .ok d₁)
    (hfree : ∀ location, d₀.locate path = .ok location → d₀.entry? location = none) :
    Extends d₀ d₁ := by
  obtain ⟨location, hlocate, -, hworking, hentry⟩ := entry?_write hwrite
  have hnone : d₀.entry? location = none := hfree location (h.locate_eq_ok_iff.mp hlocate)
  refine ⟨hworking.trans h.working, fun location' entry h' => ?_, fun location' h' => ?_⟩
  · have hne : location' ≠ location := by
      rintro rfl
      exact nomatch hnone.symm.trans h'
    rw [hentry, if_neg hne]
    exact h.kept _ _ h'
  · rw [hentry] at h'
    split at h'
    · cases h'
    · exact h.directories _ h'

end Extends

end Testbed.Host.Directory
