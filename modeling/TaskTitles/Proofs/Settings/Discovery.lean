import TaskTitles.Settings.Discovery

/-!
# The nearest configuration file

A configuration file is searched for in the starting directory and in all directories above it
(`mem_selfAndAncestors`), from the nearest to the farthest (`pairwise_selfAndAncestors`).  So the
search finds a file of the nearest directory that holds one, the hidden one only if there is no
visible one, and it finds nothing where no directory holds a file.  If a variable names a path, no
other path is looked at (`find?_nearest`).
-/

namespace TaskTitles

namespace Files.Path

/-! ## Directories above each other -/

/-- The directory is the inner one or lies above it. -/
def Encloses (directory inner : Path) : Prop :=
  directory.root = inner.root ∧ directory.names <+: inner.names

variable {directory start : Path}

theorem mem_selfAndAncestors : directory ∈ start.selfAndAncestors ↔ directory.Encloses start := by
  simp only [selfAndAncestors, List.mem_map, List.mem_range]
  constructor
  · rintro ⟨up, -, rfl⟩
    exact ⟨rfl, List.take_prefix _ _⟩
  · rintro ⟨root, lead⟩
    have shorter := lead.length_le
    refine ⟨start.names.length - directory.names.length, by omega, ?_⟩
    rw [Nat.sub_sub_self shorter, ← List.prefix_iff_eq_take.1 lead, ← root]

/-- The directories come from the nearest to the farthest. -/
theorem pairwise_selfAndAncestors (start : Path) :
    start.selfAndAncestors.Pairwise fun near far => far.names.length < near.names.length := by
  rw [selfAndAncestors, List.pairwise_map]
  refine List.pairwise_lt_range.imp_of_mem ?_
  intro up more inRange inRangeMore fewer
  rw [List.mem_range] at inRange inRangeMore
  simp only [List.length_take]
  omega

/-- A search from directory to directory ends in the nearest one where something is found. -/
theorem findSome?_selfAndAncestors {search : Path → Option Path} {found : Path} :
    start.selfAndAncestors.findSome? search = some found ↔
      ∃ directory : Path, directory.Encloses start ∧ search directory = some found ∧
        ∀ nearer : Path, nearer.Encloses start → directory.names.length < nearer.names.length →
          search nearer = none := by
  have ordered := pairwise_selfAndAncestors start
  simp only [← mem_selfAndAncestors, List.findSome?_eq_some_iff]
  constructor
  · rintro ⟨before, directory, after, split, here, nothing⟩
    rw [split, List.pairwise_append, List.pairwise_cons] at ordered
    obtain ⟨-, ⟨farther, -⟩, -⟩ := ordered
    refine ⟨directory, by simp [split], here, fun nearer member longer => ?_⟩
    rw [split, List.mem_append, List.mem_cons] at member
    rcases member with inFront | rfl | behind
    · exact nothing nearer inFront
    · exact absurd longer (Nat.lt_irrefl _)
    · exact absurd longer (Nat.lt_asymm (farther nearer behind))
  · rintro ⟨directory, member, here, nothing⟩
    obtain ⟨before, after, split⟩ := List.append_of_mem member
    rw [split, List.pairwise_append] at ordered
    obtain ⟨-, -, nearer⟩ := ordered
    refine ⟨before, directory, after, split, here, fun other inFront => ?_⟩
    have longer := nearer other inFront directory List.mem_cons_self
    exact nothing other (by simp [split, inFront]) longer

end Files.Path

namespace Settings

open Files

/-! ## Configuration files -/

/-- The path is the visible or the hidden one of a configuration file in the directory. -/
def IsConfigIn (directory file : Path) : Prop :=
  file = directory.child visibleName ∨ file = directory.child hiddenName

/-- The file is the configuration file of the directory, and no directory nearer to the start has
    one. -/
structure IsNearest (isFile : Path → Bool) (start directory file : Path) : Prop where
  stands : isFile file = true
  isConfig : IsConfigIn directory file
  encloses : directory.Encloses start
  nearest : ∀ nearer : Path, nearer.Encloses start →
    directory.names.length < nearer.names.length →
    ∀ other, IsConfigIn nearer other → isFile other = false
  visibleFirst : file = directory.child hiddenName → isFile (directory.child visibleName) = false

section Searches

variable {isFile : Path → Bool} {directory file : Path}

theorem visible_ne_hidden (directory : Path) :
    directory.child visibleName ≠ directory.child hiddenName := by
  intro same
  have names : directory.names ++ [visibleName] = directory.names ++ [hiddenName] :=
    congrArg Path.names same
  exact absurd (List.append_cancel_left names) (by decide)

/-- The file that is found in a directory without its surroundings. -/
def fileIn? (isFile : Path → Bool) (directory : Path) : Option Path :=
  [directory.child visibleName, directory.child hiddenName].find? isFile

theorem fileIn?_eq_none_iff :
    fileIn? isFile directory = none ↔ ∀ file, IsConfigIn directory file → isFile file = false := by
  simp [fileIn?, IsConfigIn]

theorem fileIn?_eq_some_iff :
    fileIn? isFile directory = some file ↔
      isFile file = true ∧ IsConfigIn directory file ∧
        (file = directory.child hiddenName → isFile (directory.child visibleName) = false) := by
  rw [fileIn?, List.find?_cons]
  cases visible : isFile (directory.child visibleName) with
  | true =>
    constructor
    · rintro ⟨⟩
      exact ⟨visible, .inl rfl, fun same => absurd same (visible_ne_hidden directory)⟩
    · rintro ⟨-, rfl | rfl, onlyOne⟩
      · rfl
      · cases onlyOne rfl
  | false =>
    simp only [List.find?_singleton, Option.ite_none_right_eq_some, Option.some.injEq]
    constructor
    · rintro ⟨hidden, rfl⟩
      exact ⟨hidden, .inr rfl, fun _ => trivial⟩
    · rintro ⟨stands, rfl | rfl, -⟩
      · cases visible.symm.trans stands
      · exact ⟨stands, rfl⟩

variable (isFile) (start : Path) {named : Option Text}

/-- Without a path in the variable, the directories are searched one after the other. -/
theorem find?_walk (unset : named.getD [] = []) :
    find? (fun path => .ok (isFile path)) named start =
      .ok (start.settled.selfAndAncestors.findSome? (fileIn? isFile)) := by
  have walk : find? (fun path => .ok (isFile path)) named start =
      .ok ((candidates start).find? isFile) := by
    cases named with
    | none => exact find?_none isFile start
    | some text =>
      cases text with
      | nil => exact find?_none isFile start
      | cons c cs => cases unset
  rw [walk, candidates, List.find?_flatMap]
  rfl

theorem find?_walk_eq_some_iff (unset : named.getD [] = []) :
    find? (fun path => .ok (isFile path)) named start = .ok (some file) ↔
      ∃ directory, IsNearest isFile start.settled directory file := by
  rw [find?_walk isFile start unset, Except.ok.injEq, Path.findSome?_selfAndAncestors]
  simp only [fileIn?_eq_some_iff, fileIn?_eq_none_iff]
  refine exists_congr fun directory => ⟨?_, ?_⟩
  · rintro ⟨encloses, ⟨stands, isConfig, visibleFirst⟩, nearest⟩
    exact ⟨stands, isConfig, encloses, nearest, visibleFirst⟩
  · rintro ⟨stands, isConfig, encloses, nearest, visibleFirst⟩
    exact ⟨encloses, ⟨stands, isConfig, visibleFirst⟩, nearest⟩

theorem find?_walk_eq_none_iff (unset : named.getD [] = []) :
    find? (fun path => .ok (isFile path)) named start = .ok none ↔
      ∀ directory : Path, directory.Encloses start.settled →
        ∀ file, IsConfigIn directory file → isFile file = false := by
  rw [find?_walk isFile start unset, Except.ok.injEq, List.findSome?_eq_none_iff]
  simp only [Path.mem_selfAndAncestors, fileIn?_eq_none_iff]

end Searches

/-- A path in the variable is all that counts: it is the configuration file if it is a file,
    whatever is said of other paths, and otherwise there is none.  Without one, the configuration
    file is the nearest one from the start upwards, and there is none only if no directory up there
    holds one. -/
theorem find?_nearest (environment : Environment) (start : Path) :
    (∀ text, environment.get? pathVariable = some text → text ≠ [] →
      ∀ (look : Path → Except FileError Bool) (stands : Bool), look (.ofText text) = .ok stands →
        find? look (environment.get? pathVariable) start =
          .ok (if stands then some (.ofText text) else none)) ∧
    ((environment.get? pathVariable).getD [] = [] → ∀ isFile : Path → Bool,
      (∀ file, find? (fun path => .ok (isFile path)) (environment.get? pathVariable) start =
          .ok (some file) ↔ ∃ directory, IsNearest isFile start.settled directory file) ∧
      (find? (fun path => .ok (isFile path)) (environment.get? pathVariable) start = .ok none ↔
        ∀ directory : Path, directory.Encloses start.settled →
          ∀ file, IsConfigIn directory file → isFile file = false)) := by
  constructor
  · intro text named nonempty look stands looked
    obtain ⟨c, cs, rfl⟩ := List.exists_cons_of_ne_nil nonempty
    rw [named, find?, fileAt?, looked]
    rfl
  · intro unset isFile
    exact ⟨fun file => find?_walk_eq_some_iff isFile start unset,
      find?_walk_eq_none_iff isFile start unset⟩

/-- A hidden file is found before a visible one farther up, if the variable is empty.  A path in the
    variable that is no file is not made up for by either, and needs no look at them. -/
theorem find?_nearest_hidden :
    (∃ directory, IsNearest
        (fun path => path = .ofText "/home/t2tctl.toml" ∨ path = .ofText "/home/me/.t2tctl.toml")
        (.ofText "/home/me/work/deep") directory (.ofText "/home/me/.t2tctl.toml")) ∧
      find? (fun path => if path = .ofText "tasks.toml" then .ok false else .error .nameTooLong)
        (some "tasks.toml".toList) (.ofText "/home/me") = .ok none := by
  obtain ⟨-, walk⟩ := find?_nearest [(pathVariable, [])] (.ofText "/home/me/work/../work/deep")
  obtain ⟨explicit, -⟩ := find?_nearest [(pathVariable, "tasks.toml")] (.ofText "/home/me")
  constructor
  · exact ((walk rfl _).1 _).1 rfl
  · exact explicit "tasks.toml" rfl (by decide) _ false (if_pos rfl)

end Settings

end TaskTitles
