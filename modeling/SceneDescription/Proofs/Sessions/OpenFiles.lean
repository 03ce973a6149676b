import SceneDescription.Proofs.Sessions.Runs

/-!
# Open files

What a step does to the stack of open files, apart from what is still to be read in them: the stack stays, or
loses its innermost file, or gets another one on top (`Session.Moves.files`).  A file is opened only below the limit,
and only if its path leads apart from those of all open files.  So every session on the way, and also the one in which a
step fails, has no more files open than the limit allows, and none of them twice (`Session.Run.withinLimits`).
-/

namespace SceneDescription

namespace Session

variable {s s' t : Session} {event : Event} {moments : List Moment} {r : Report Fault}

/-- The path and the mark of each open text, innermost first. -/
def files (s : Session) : List (Option Path × Option Mark) :=
  s.stream.frames.map fun frame => (frame.path, frame.onClose)

/-- The paths of the open files, innermost first. -/
def filePaths (s : Session) : List Path :=
  s.stream.frames.filterMap (·.path)

private theorem length_files (s : Session) : s.files.length = s.stream.depth :=
  List.length_map _

private theorem filePaths_eq (s : Session) : s.filePaths = s.files.filterMap (·.1) := by
  rw [filePaths, files, List.filterMap_map]
  rfl

private theorem leadApart_of_closed {path other : Path} (h : s.stream.isOpen s.library.files path = .ok false)
    (hother : other ∈ s.filePaths) : s.library.files.LeadApart other path := by
  obtain ⟨frame, hframe, hpath⟩ := List.mem_filterMap.1 hother
  exact OpenPaths.isOpen_eq_false.1 h other (List.mem_map.2 ⟨frame, hframe, hpath⟩)

/-! ### One step -/

theorem Moves.library [LinearAlgebra] (h : s.Moves event s') : s'.library = s.library := by
  cases h with
  | performs h => exact h.library
  | leaves h => exact h.library

/-- What a step does to the open files: the same, one less, or one more. -/
theorem Moves.files [LinearAlgebra] (h : s.Moves event s') :
    s'.files = s.files ∨ (∃ file, s.files = file :: s'.files) ∨
      ∃ keyword d location path, event = .performed keyword d location ∧
        s'.files = (some path, s.markFor d) :: s.files ∧
        s.stream.depth < s.library.config.maxIncludeDepth ∧ s.stream.isOpen s.library.files path = .ok false := by
  cases h with
  | leaves h =>
    refine .inr (.inl ⟨(s.stream.top.path, s.stream.top.onClose), ?_⟩)
    simp [Session.files, h.stream, Stream.backTo, Stream.frames, h.around]
  | @performs t c₁ c₂ keyword d _ h =>
    rcases h.stream with ⟨_, hstream⟩ | ⟨relative, path, _, hopen⟩
    · refine .inl ?_
      rw [Session.files, hstream]
      rfl
    · obtain ⟨hdepth, hclosed⟩ := Stream.checks_of_openFile hopen
      obtain ⟨_, text, _, hstream⟩ := Stream.openFile_eq_ok hopen
      refine .inr (.inr ⟨keyword, d, _, path, rfl, ?_, hdepth, hclosed⟩)
      rw [Session.files, hstream]
      rfl

private theorem carryOut_failed [LinearAlgebra] {keyword : Keyword} {line : Nat} {d : Directive}
    (h : s.carryOut keyword line d = .failed r t) : t.library = s.library ∧ t.stream = s.stream := by
  unfold carryOut at h
  dsimp only at h
  split at h
  · cases h
    exact ⟨rfl, rfl⟩
  split at h
  · cases h
  split at h
  · cases h
    exact ⟨rfl, rfl⟩
  · cases h

private theorem perform_failed [LinearAlgebra] {token : Token} (h : s.perform token = .failed r t) :
    t.library = s.library ∧ t.files = s.files := by
  unfold perform at h
  split at h
  · split at h
    · cases h
      exact ⟨rfl, rfl⟩
    split at h
    · split at h
      · cases h
        exact ⟨rfl, rfl⟩
      · obtain ⟨hlibrary, hstream⟩ := carryOut_failed h
        refine ⟨hlibrary, ?_⟩
        rw [Session.files, hstream]
        rfl
    · cases h
      exact ⟨rfl, rfl⟩
  · cases h
    exact ⟨rfl, rfl⟩

private theorem leave_failed {frame : Frame Mark} (h : s.leave frame = .failed r t) :
    t.library = s.library ∧ t.stream = s.stream := by
  unfold leave at h
  dsimp only at h
  split at h
  · cases h
  split at h
  · cases h
    exact ⟨rfl, rfl⟩
  · cases h

/-- A step that fails opens no file. -/
theorem files_of_failed [LinearAlgebra] (h : s.step = .failed r t) :
    t.library = s.library ∧ (t.files = s.files ∨ ∃ file, s.files = file :: t.files) := by
  unfold step Stream.advance at h
  cases htake : Read.take s.stream.top.cursor with
  | error report c =>
    simp only [htake] at h
    cases h
    exact ⟨rfl, .inl rfl⟩
  | ok token c =>
    rw [htake] at h
    cases token with
    | some token =>
      obtain ⟨hlibrary, hfiles⟩ := perform_failed h
      exact ⟨hlibrary, .inl hfiles⟩
    | none =>
      cases hbelow : s.stream.below with
      | nil =>
        simp only [hbelow] at h
        split at h
        · cases h
          exact ⟨rfl, .inl rfl⟩
        · cases h
      | cons outer below =>
        simp only [hbelow] at h
        obtain ⟨hlibrary, hstream⟩ := leave_failed h
        refine ⟨hlibrary, .inr ⟨(s.stream.top.path, s.stream.top.onClose), ?_⟩⟩
        simp [Session.files, hstream, Stream.backTo, Stream.frames, hbelow]

/-! ### Limits -/

/-- No more texts are open than allowed, and no file is open twice. -/
structure WithinLimits (s : Session) : Prop where
  depth_le : s.stream.depth ≤ s.library.config.maxIncludeDepth
  distinct : s.filePaths.Pairwise s.library.files.LeadApart

theorem Start.withinLimits (h : s.Start) : s.WithinLimits := by
  obtain ⟨hbelow, _⟩ := h.frames
  constructor
  · have hone := s.library.config.one_le_maxIncludeDepth
    simpa [Stream.depth, Stream.frames, hbelow] using hone
  · rw [filePaths, Stream.frames, hbelow]
    cases hpath : s.stream.top.path with
    | none => simp [hpath]
    | some path => simp [hpath]

/-- Files that have been left do not count any more. -/
theorem WithinLimits.of_files (hs : s.WithinLimits) (hlibrary : t.library = s.library)
    (hfiles : t.files = s.files ∨ ∃ file, s.files = file :: t.files) : t.WithinLimits := by
  have hsuffix : t.files <:+ s.files := by
    rcases hfiles with hsame | ⟨file, hleft⟩
    · exact ⟨[], hsame⟩
    · rw [hleft]
      exact List.suffix_cons file t.files
  constructor
  · have hle := hsuffix.sublist.length_le
    have hdepth := hs.depth_le
    rw [length_files, length_files] at hle
    rw [hlibrary]
    omega
  · have hdistinct := hs.distinct
    rw [filePaths_eq] at hdistinct ⊢
    rw [hlibrary]
    exact hdistinct.sublist (hsuffix.sublist.filterMap _)

private theorem Moves.withinLimits [LinearAlgebra] (hs : s.WithinLimits) (h : s.Moves event s') : s'.WithinLimits := by
  rcases h.files with hsame | hleft | ⟨keyword, d, location, path, _, hopened, hdepth, hclosed⟩
  · exact hs.of_files h.library (.inl hsame)
  · exact hs.of_files h.library (.inr hleft)
  constructor
  · rw [← length_files, hopened, List.length_cons, length_files, h.library]
    exact hdepth
  · have hnew : s'.filePaths = path :: s.filePaths := by
      rw [filePaths_eq, filePaths_eq, hopened]
      rfl
    rw [hnew, h.library]
    exact List.pairwise_cons.2 ⟨fun other hother => (leadApart_of_closed hclosed hother).symm, hs.distinct⟩

theorem Run.withinLimits [LinearAlgebra] (h : Run s moments s') (hs : s.WithinLimits) : s'.WithinLimits :=
  h.invariant (fun _ _ _ hs hmoves => hmoves.withinLimits hs) hs

end Session

end SceneDescription
