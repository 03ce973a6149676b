import SceneDescription.Proofs.Results
import SceneDescription.Stream.Basic

/-!
# Where paths lead

A file is opened only if its path leads apart from the paths of all open files (`OpenPaths.isOpen_eq_false`), which
includes that these paths lead anywhere at all.
-/

namespace SceneDescription

/-- Two paths lead to different places. -/
def FileSystem.LeadApart (files : FileSystem) (p q : Path) : Prop :=
  ∃ here there, files.resolve p = .ok here ∧ files.resolve q = .ok there ∧ here ≠ there

namespace FileSystem.LeadApart

variable {files : FileSystem} {p q : Path}

theorem symm (h : files.LeadApart p q) : files.LeadApart q p := by
  obtain ⟨here, there, hp, hq, hne⟩ := h
  exact ⟨there, here, hq, hp, hne.symm⟩

theorem ne (h : files.LeadApart p q) : p ≠ q := by
  rintro rfl
  obtain ⟨here, there, hp, hq, hne⟩ := h
  cases hp.symm.trans hq
  exact hne rfl

end FileSystem.LeadApart

namespace OpenPaths

variable {files : FileSystem} {path : Path}

private theorem isFile_eq_false {other : Path} :
    isFile files path (some other) = .ok false ↔ files.LeadApart other path := by
  unfold FileSystem.LeadApart
  rw [isFile, bind_eq_ok]
  constructor
  · rintro ⟨here, hother, h⟩
    obtain ⟨there, hpath, hne⟩ := bind_pure_eq_ok.1 h
    exact ⟨here, there, hother, hpath, of_decide_eq_false hne⟩
  · rintro ⟨here, there, hother, hpath, hne⟩
    exact ⟨here, hother, bind_pure_eq_ok.2 ⟨there, hpath, decide_eq_false hne⟩⟩

/-- A file is not open if its path leads apart from those of all open files. -/
theorem isOpen_eq_false {paths : OpenPaths} :
    paths.isOpen files path = .ok false ↔ ∀ other, some other ∈ paths → files.LeadApart other path := by
  suffices h : ∀ asked : List (Option Path), asked.anyM (isFile files path) = .ok false ↔
      ∀ other, some other ∈ asked → files.LeadApart other path by
    simpa [isOpen] using h paths.reverse
  intro asked
  induction asked with
  | nil => simp [pure, Except.pure]
  | cons first rest ih =>
    rw [List.anyM_cons, bind_eq_ok]
    constructor
    · rintro ⟨found, hfirst, hrest⟩ other hother
      cases found with
      | true => cases hrest
      | false =>
        rcases List.mem_cons.1 hother with rfl | hother
        · exact isFile_eq_false.1 hfirst
        · exact ih.1 hrest other hother
    · intro h
      refine ⟨false, ?_, ih.2 fun other hother => h other (List.mem_cons_of_mem _ hother)⟩
      cases first with
      | none => rfl
      | some other => exact isFile_eq_false.2 (h other (List.mem_cons_self ..))

end OpenPaths

namespace Stream

variable {κ : Type} {s t : Stream κ} {lib : Library} {relative : String} {line : Option Nat} {onClose : Option κ}
  {path : Path} {text : List Char}

/-- What opening a file puts on top of a stream. -/
theorem openFile_eq_ok (h : s.openFile lib relative line onClose = .ok (path, t)) :
    path = s.resolve lib.config relative ∧ ∃ text, lib.files.readText lib.config path = .ok text ∧
      t = { top := { source := path.toText, path := some path, includeLine := line, onClose,
                     cursor := { Cursor.ofText path.toText text with lastLine := s.lastLine } },
            below := s.frames } := by
  obtain ⟨text, hfile, rfl⟩ := openFile_eq_ok_iff.1 h
  obtain ⟨hpath, _, _, htext⟩ := OpenPaths.fileFor_eq_ok.1 hfile
  exact ⟨hpath, text, htext, rfl⟩

/-- The checks that a file has passed which has been opened. -/
theorem checks_of_openFile (h : s.openFile lib relative line onClose = .ok (path, t)) :
    s.depth < lib.config.maxIncludeDepth ∧ s.isOpen lib.files path = .ok false := by
  obtain ⟨text, hfile, _⟩ := openFile_eq_ok_iff.1 h
  obtain ⟨_, hdepth, hclosed, _⟩ := OpenPaths.fileFor_eq_ok.1 hfile
  rw [paths, List.length_map] at hdepth
  exact ⟨hdepth, hclosed⟩

/-- A file can be opened if the limit has not been reached, and it is not open yet and can be read. -/
theorem openFile_of_checks (line : Option Nat) (onClose : Option κ) (hpath : s.resolve lib.config relative = path)
    (hdepth : s.depth < lib.config.maxIncludeDepth) (hclosed : s.isOpen lib.files path = .ok false)
    (htext : lib.files.readText lib.config path = .ok text) :
    s.openFile lib relative line onClose = .ok (path, s.push path text line onClose) := by
  refine openFile_eq_ok_iff.2 ⟨text, OpenPaths.fileFor_eq_ok.2 ⟨hpath.symm, ?_, hclosed, htext⟩, rfl⟩
  rw [paths, List.length_map]
  exact hdepth

theorem baseDirectory_eq (s : Stream κ) (config : Config) :
    s.baseDirectory config = ((s.frames.findSome? (·.path)).map Path.parent).getD config.baseDirectory := by
  have hfound : s.paths.findSome? id = s.frames.findSome? (·.path) := List.findSome?_map
  rw [baseDirectory, OpenPaths.baseDirectory, hfound]
  cases s.frames.findSome? (·.path) <;> rfl

theorem resolve_eq (s : Stream κ) (config : Config) (relative : String) :
    s.resolve config relative = (s.baseDirectory config).join (.ofString relative) :=
  rfl

end Stream

end SceneDescription
