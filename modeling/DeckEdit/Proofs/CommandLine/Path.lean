import DeckEdit.CommandLine.FileTree
import DeckEdit.CommandLine.Run
import Mathlib.Data.List.Basic

/-! What paths lead to. There is a way down a path if it spells bytes, is short enough, and each of its names but
    the last leads to a directory; then it leads to what stands behind its last name, and otherwise to nothing.
    A file can be written to exactly if there is a way to it and it is no directory. A machine made of some files
    has each of them under its names. -/

namespace DeckEdit
namespace Path
variable {spot : List Text → Spot} {p : Path} {contents : List UInt8}

/-! ### Ways -/

/-- There is a way to the last name of a path. -/
structure Way (p : Path) (spot : List Text → Spot) : Prop where
  flawless : p.flaw? = none
  short : p.isTooLong = false
  directories : ∀ k < p.names.length, spot (p.names.take k) = .directory
  names : ∀ name ∈ p.names, name = up ∨ isNameTooLong name = false

theorem blocked?_cons_eq_none_iff {done rest : List Text} {name : Text} :
    blocked? spot done (name :: rest) = none ↔ spot done = .directory ∧
      (name = up ∨ isNameTooLong name = false) ∧ blocked? spot (done ++ [name]) rest = none := by
  rw [blocked?]
  cases spot done with
  | file contents => simp
  | nothing => simp
  | directory =>
    by_cases hup : name = up
    · simp [hup]
    · cases isNameTooLong name <;> simp [hup]

/-- Names lead on where each of them stands in a directory. -/
theorem blocked?_eq_none_iff {done names : List Text} : blocked? spot done names = none ↔
    (∀ k < names.length, spot (done ++ names.take k) = .directory) ∧
      ∀ name ∈ names, name = up ∨ isNameTooLong name = false := by
  induction names generalizing done with
  | nil => simp [blocked?]
  | cons name rest ih =>
    rw [blocked?_cons_eq_none_iff, ih, List.length_cons, Nat.forall_lt_succ_left, List.forall_mem_cons]
    simp only [List.take_zero, List.take_succ_cons, List.append_nil, List.append_assoc, List.singleton_append]
    rw [← and_assoc]
    exact and_and_and_comm

theorem obstacle?_eq_none_iff : p.obstacle? spot = none ↔ p.Way spot := by
  rw [obstacle?]
  constructor
  · intro h
    split_ifs at h with hflaw hlong
    obtain ⟨hdirectories, hnames⟩ := blocked?_eq_none_iff.mp h
    exact ⟨by simpa using hflaw, by simpa using hlong, hdirectories, hnames⟩
  · rintro ⟨hflaw, hshort, hdirectories, hnames⟩
    rw [hflaw, hshort]
    exact blocked?_eq_none_iff.mpr ⟨hdirectories, hnames⟩

/-- Where there is no way there is nothing. -/
inductive IsObstacle : Entry → Prop where
  | missing : IsObstacle .missing
  | underFile : IsObstacle .underFile
  | tooLong : IsObstacle .tooLong

theorem isObstacle_of_blocked? {done names : List Text} {obstacle : Entry}
    (h : blocked? spot done names = some obstacle) : IsObstacle obstacle := by
  induction names generalizing done with
  | nil => cases h
  | cons name rest ih =>
    rw [blocked?] at h
    split at h
    · cases h
      exact .underFile
    · cases h
      exact .missing
    · split_ifs at h
      · cases h
        exact .tooLong
      · exact ih h

theorem isObstacle_of_obstacle? {obstacle : Entry} (h : p.obstacle? spot = some obstacle) :
    IsObstacle obstacle := by
  rw [obstacle?] at h
  split_ifs at h
  · cases h
    exact .missing
  · cases h
    exact .tooLong
  · exact isObstacle_of_blocked? h

/-! ### Entries -/

theorem entry_of_way (h : p.Way spot) : p.entry spot = (spot p.names).entry := by
  rw [entry, obstacle?_eq_none_iff.mpr h, Option.getD_none]

theorem isObstacle_entry (h : ¬ p.Way spot) : IsObstacle (p.entry spot) := by
  obtain ⟨obstacle, hobstacle⟩ := Option.ne_none_iff_exists'.mp (mt obstacle?_eq_none_iff.mp h)
  rw [entry, hobstacle]
  exact isObstacle_of_obstacle? hobstacle

/-- A path leads to a file exactly if there is a way to it. -/
theorem entry_eq_file_iff : p.entry spot = .file contents ↔ p.Way spot ∧ spot p.names = .file contents := by
  by_cases hway : p.Way spot
  · rw [entry_of_way hway, and_iff_right hway]
    cases spot p.names <;> simp [Spot.entry]
  · have hobstacle := isObstacle_entry hway
    refine iff_of_false (fun h => ?_) fun h => hway h.1
    rw [h] at hobstacle
    cases hobstacle

end Path

namespace CommandLine
variable {spot : List Text → Spot} {p : Path} {world : World}

/-- A file can be opened for writing exactly if there is a way to it, and no directory at its end. -/
theorem writeProblem?_eq_none_iff (hworld : world.entry p = p.entry spot) :
    writeProblem? world p = none ↔ p.Way spot ∧ spot p.names ≠ .directory := by
  rw [writeProblem?, hworld]
  by_cases hway : p.Way spot
  · rw [Path.entry_of_way hway, hway.flawless, and_iff_right hway]
    cases spot p.names <;> simp [Spot.entry]
  · have hobstacle := Path.isObstacle_entry hway
    refine iff_of_false (fun h => ?_) fun h => hway h.1
    cases hflaw : p.flaw? with
    | some flaw => simp [hflaw] at h
    | none =>
      rw [hflaw] at h
      generalize p.entry spot = found at h hobstacle
      cases hobstacle <;> cases h

end CommandLine

/-! ### Machines -/

namespace FileTree
variable {files : FileTree} {names : List Text} {contents : List UInt8} {p : Path}

theorem foldl_follow_of_down (h : Path.up ∉ names) (above : List Text) :
    names.foldl follow above = (names.map Utf8.systemForm).reverse ++ above := by
  induction names generalizing above with
  | nil => rfl
  | cons name rest ih =>
    simp only [List.mem_cons, not_or] at h
    rw [List.foldl_cons, ih h.2, follow, if_neg (by simpa using Ne.symm h.1)]
    simp

/-- Names lead down from the working directory if none of them is a step up. -/
theorem place_of_down (h : Path.up ∉ names) : place [] names = workingDirectory ++ names.map Utf8.systemForm := by
  change (names.foldl follow workingDirectory.reverse).reverse = _
  rw [foldl_follow_of_down h, List.reverse_append, List.reverse_reverse, List.reverse_reverse]

/-- The files that a machine is made of are in the working directory, where no other file is. -/
theorem file?_ofFiles (names : List Text) : (ofFiles files).file? (workingDirectory ++ names) =
    (files.find? fun file => file.1.map Utf8.systemForm == names).map (·.2) := by
  have hstandard : standardFiles.find? (fun file => file.1 == workingDirectory ++ names) = none := by
    refine List.find?_eq_none.mpr fun file hfile => ?_
    rw [List.mem_singleton.mp hfile]
    simp only [workingDirectory, List.cons_append, beq_iff_eq, List.cons.injEq, not_and]
    intro hname
    exact absurd hname (by decide)
  have hsame (file : List Text × List UInt8) :
      (workingDirectory ++ file.1.map Utf8.systemForm == workingDirectory ++ names) =
        (file.1.map Utf8.systemForm == names) := by
    rw [Bool.eq_iff_iff, beq_iff_eq, beq_iff_eq, List.append_cancel_left_eq]
  rw [file?, ofFiles, List.find?_append, hstandard, Option.none_or, List.find?_map, Option.map_map]
  simp only [Function.comp_def, hsame]

/-- Above a file there are directories only. -/
theorem isDirectory_of_file? {place : List Text} {tree : FileTree} (h : tree.file? place = some contents)
    {k : Nat} (hk : k < place.length) : tree.isDirectory (place.take k) = true := by
  obtain ⟨⟨found, bytes⟩, hfound, -⟩ := Option.map_eq_some_iff.mp h
  obtain rfl : found = place := by simpa using List.find?_some hfound
  rw [isDirectory, Bool.or_eq_true]
  refine Or.inr (List.any_eq_true.mpr ⟨_, List.mem_of_find?_eq_some hfound, ?_⟩)
  rw [Bool.and_eq_true, List.isPrefixOf_iff_prefix, bne_iff_ne]
  refine ⟨List.take_prefix k found, fun heq => ?_⟩
  have := congrArg List.length heq
  rw [List.length_take] at this
  omega

/-- A machine has the files that it is made of: a path that spells the names of one, without a step up, leads to
    it, unless a file stands above it. -/
theorem entry_ofFiles (hroot : p.root = []) (hflaw : p.flaw? = none) (hshort : p.isTooLong = false)
    (hnames : ∀ name ∈ p.names, name ≠ Path.up ∧ Path.isNameTooLong name = false)
    (hfile : (files.find? fun file => file.1.map Utf8.systemForm == p.names.map Utf8.systemForm).map (·.2) =
      some contents)
    (habove : ∀ k < p.names.length, ∀ file ∈ files,
      file.1.map Utf8.systemForm ≠ (p.names.take k).map Utf8.systemForm) :
    (ofFiles files).entry p = .file contents := by
  have hplace {names : List Text} (h : names ⊆ p.names) :
      place p.root names = workingDirectory ++ names.map Utf8.systemForm := by
    rw [hroot]
    exact place_of_down fun hup => (hnames Path.up (h hup)).1 rfl
  have hall := hplace (List.Subset.refl _)
  have hfound : (ofFiles files).file? (workingDirectory ++ p.names.map Utf8.systemForm) = some contents := by
    rw [file?_ofFiles, hfile]
  have hway : p.Way ((ofFiles files).spotsFrom p.root) := by
    refine ⟨hflaw, hshort, fun k hk => ?_, fun name hname => .inr (hnames name hname).2⟩
    have hnone : (ofFiles files).file? (workingDirectory ++ (p.names.take k).map Utf8.systemForm) = none := by
      rw [file?_ofFiles, Option.map_eq_none_iff]
      exact List.find?_eq_none.mpr fun file hmem => by simpa using habove k hk file hmem
    have hdirectory := isDirectory_of_file? hfound (k := workingDirectory.length + k) (by simp; omega)
    rw [List.take_length_add_append, ← List.map_take] at hdirectory
    rw [spotsFrom, hplace (List.take_subset k _), spot, hnone, hdirectory]
    rfl
  refine Path.entry_eq_file_iff.mpr ⟨hway, ?_⟩
  rw [spotsFrom, hall, spot, hfound]

end FileTree
end DeckEdit
