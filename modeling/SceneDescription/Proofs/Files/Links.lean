import SceneDescription.Proofs.Files.FileTrees
import SceneDescription.Proofs.Files.Places

/-!
# File systems without links

Without symbolic links, where a path leads can be told from its text: `..` goes back to where the name before it was
looked up.  Then paths that resolve to the same names lead to the same file, and a path to a file ends in a proper
name.  `FileSystem.WithoutLinks` says so, and a file tree has these properties (`FileTree.withoutLinks`).
-/

namespace SceneDescription

/-! ### Resolved paths -/

namespace Path

variable {p q : Path} {directory : List String}

private theorem resolve_join (directory : List String) (p q : Path) :
    (p.join q).resolve directory =
      if q.isAbsolute then q.resolve directory else q.names.foldl step (p.resolve directory) := by
  unfold join
  split
  · rfl
  · show (p.names ++ q.names).foldl step _ = _
    rw [List.foldl_append]
    rfl

/-- Whether the last name of a path is that of a file in its directory. -/
def Proper (p : Path) : Prop :=
  ∃ name, p.names.getLast? = some name ∧ name ≠ ".."

/-- The place of a file is that of its directory, and its name. -/
private theorem Proper.resolve_eq (h : p.Proper) (directory : List String) :
    ∃ name, p.names.getLast? = some name ∧ p.resolve directory = p.parent.resolve directory ++ [name] := by
  obtain ⟨name, hlast, hname⟩ := h
  refine ⟨name, hlast, ?_⟩
  obtain ⟨root, names⟩ := p
  obtain ⟨names, rfl⟩ := List.getLast?_eq_some_iff.1 hlast
  have hstep : ∀ base, step base name = base ++ [name] := by simp [step, hname]
  unfold resolve parent
  rw [List.foldl_append, List.dropLast_concat, List.foldl_cons, List.foldl_nil, hstep]
  rfl

/-- Files in the same place have the same name and directories in the same place. -/
private theorem Proper.of_resolve_eq (hp : p.Proper) (hq : q.Proper) (h : p.resolve directory = q.resolve directory) :
    p.names.getLast? = q.names.getLast? ∧ p.parent.resolve directory = q.parent.resolve directory := by
  obtain ⟨name, hlast, hresolve⟩ := hp.resolve_eq directory
  obtain ⟨name', hlast', hresolve'⟩ := hq.resolve_eq directory
  rw [hresolve, hresolve'] at h
  obtain ⟨hparent, hname⟩ := List.append_inj' h rfl
  exact ⟨by rw [hlast, hlast', List.singleton_inj.1 hname], hparent⟩

/-- From files in the same place, the same text leads to the same place. -/
theorem Proper.resolve_join_congr (hp : p.Proper) (hq : q.Proper) (h : p.resolve directory = q.resolve directory)
    (relative : Path) : (p.parent.join relative).resolve directory = (q.parent.join relative).resolve directory := by
  rw [resolve_join, resolve_join, (hp.of_resolve_eq hq h).2]

end Path

/-! ### Files in the same place -/

/-- Where a path leads can be told from its text. -/
structure FileSystem.WithoutLinks (files : FileSystem) : Prop where
  /-- A path to a file ends in its name. -/
  proper : ∀ {p bytes}, files.read p = .ok bytes → p.Proper
  /-- Paths to the same place lead to the same file. -/
  same : ∀ {p q bytes bytes'}, files.read p = .ok bytes → files.read q = .ok bytes' →
    p.resolve files.workingDirectory = q.resolve files.workingDirectory → bytes = bytes'
  /-- The system finds the same place. -/
  place : ∀ {p bytes}, files.read p = .ok bytes → p.hasNul = false →
    files.resolve p = .ok (p.resolve files.workingDirectory)

namespace FileSystem

variable {files : FileSystem} {config : Config} {p q : Path} {text text' : List Char}

theorem WithoutLinks.proper_of_readText (h : files.WithoutLinks) (htext : files.readText config p = .ok text) :
    p.Proper := by
  obtain ⟨bytes, hread, _⟩ := of_readText_eq_ok htext
  exact h.proper hread

/-- Files in the same place have the same text: also their suffixes are the same. -/
theorem WithoutLinks.readText_inj (h : files.WithoutLinks) (htext : files.readText config p = .ok text)
    (htext' : files.readText config q = .ok text')
    (hplace : p.resolve files.workingDirectory = q.resolve files.workingDirectory) : text = text' := by
  have hlast := ((h.proper_of_readText htext).of_resolve_eq (h.proper_of_readText htext') hplace).1
  have hsuffix : p.suffix = q.suffix := by
    unfold Path.suffix
    rw [hlast]
  obtain ⟨bytes, hread, hbytes⟩ := of_readText_eq_ok htext
  obtain ⟨bytes', hread', hbytes'⟩ := of_readText_eq_ok htext'
  obtain rfl := h.same hread hread' hplace
  rw [hsuffix] at hbytes
  exact Except.ok.inj (hbytes.symm.trans hbytes')

theorem WithoutLinks.resolve_of_readText (h : files.WithoutLinks) (htext : files.readText config p = .ok text) :
    files.resolve p = .ok (p.resolve files.workingDirectory) := by
  obtain ⟨bytes, hread, _⟩ := of_readText_eq_ok htext
  exact h.place hread (hasNul_of_readText_eq_ok htext)

/-- Files lead apart if their paths do by their texts. -/
theorem WithoutLinks.leadApart (h : files.WithoutLinks) (htext : files.readText config p = .ok text)
    (htext' : files.readText config q = .ok text')
    (hplace : p.resolve files.workingDirectory ≠ q.resolve files.workingDirectory) : files.LeadApart p q :=
  ⟨_, _, h.resolve_of_readText htext, h.resolve_of_readText htext', hplace⟩

end FileSystem

/-! ### File trees -/

namespace FileTree

variable {root here found : FileTree} {ancestors : List FileTree} {names position : List String}

/-- The tree at a position, which is a list of names from the root on, and the directories above it, nearest
first. -/
inductive At (root : FileTree) : List String → FileTree → List FileTree → Prop
  | root : At root [] root []
  | child {position : List String} {entries : List (String × FileTree)} {ancestors : List FileTree} {name : String}
      {child : FileTree} (h : At root position (.directory entries) ancestors)
      (hchild : entries.lookup name = some child) :
      At root (position ++ [name]) child (.directory entries :: ancestors)

/-- There is one tree at a position. -/
theorem At.unique {other : FileTree} {ancestors' : List FileTree} (h : At root position here ancestors)
    (hother : At root position other ancestors') : here = other := by
  induction h generalizing other ancestors' with
  | root =>
    generalize hposition : ([] : List String) = position at hother
    cases hother with
    | root => rfl
    | child _ _ => simp at hposition
  | @child position entries ancestors name child _ hchild ih =>
    generalize hposition : position ++ [name] = position' at hother
    cases hother with
    | root => simp at hposition
    | child h' hchild' =>
      obtain ⟨rfl, hname⟩ := List.append_inj' hposition rfl
      obtain rfl := List.singleton_inj.1 hname
      cases ih h'
      exact Option.some.inj (hchild.symm.trans hchild')

/-- The first step of a walk. -/
private theorem At.step {name : String} (hat : At root position here ancestors)
    (h : walk (name :: names) ancestors here = .ok found) :
    ∃ next above, At root (Path.step position name) next above ∧ walk names above next = .ok found := by
  unfold walk at h
  split at h
  · rename_i heq
    cases heq
  · cases h
  rename_i first names' ancestors entries heq
  cases heq
  split at h
  · rename_i hup
    subst hup
    cases hat with
    | root => exact ⟨_, [], .root, h⟩
    | @child position _ further _ _ hup _ =>
      refine ⟨_, further, ?_, h⟩
      simpa [Path.step] using hup
  rename_i hname
  split at h
  · cases h
  split at h
  · cases h
  · rename_i child hchild
    refine ⟨child, _, ?_, h⟩
    simpa [Path.step, hname] using At.child hat hchild

/-- A walk passes through the position that its first names resolve to. -/
private theorem At.walk {later : List String} (hat : At root position here ancestors)
    (h : walk (names ++ later) ancestors here = .ok found) :
    ∃ next above, At root (names.foldl Path.step position) next above ∧ FileTree.walk later above next = .ok found := by
  induction names generalizing position here ancestors with
  | nil => exact ⟨here, ancestors, hat, h⟩
  | cons name names ih =>
    obtain ⟨next, above, hnext, hrest⟩ := hat.step h
    exact ih hnext hrest

/-- A step up leads to a directory. -/
private theorem At.walk_up {bytes : List UInt8} (hat : At root position here ancestors) :
    FileTree.walk [".."] ancestors here ≠ .ok (.file bytes) := by
  intro h
  cases here with
  | file content => cases h
  | directory entries =>
    cases hat with
    | root => cases h
    | child hup _ => cases h

private theorem foldl_step_of_not_mem {directory : List String} (h : ".." ∉ directory) (position : List String) :
    directory.foldl Path.step position = position ++ directory := by
  induction directory generalizing position with
  | nil => rw [List.foldl_nil, List.append_nil]
  | cons name directory ih =>
    rw [List.mem_cons, not_or] at h
    obtain ⟨hname, hrest⟩ := h
    have hon : Path.step position name = position ++ [name] := by simp [Path.step, Ne.symm hname]
    rw [List.foldl_cons, hon, ih hrest, List.append_assoc, List.singleton_append]

section WithoutLinks

variable {directory : List String} {entries : List (String × FileTree)} {p : Path} {bytes : List UInt8}

private theorem walk_of_readAt (h : root.readAt directory p = .ok bytes) :
    FileTree.walk ((if p.isAbsolute then [] else directory) ++ p.names) [] root = .ok (.file bytes) := by
  unfold readAt at h
  dsimp only at h
  split at h
  · cases h
  obtain ⟨found, hwalk, hfound⟩ := bind_eq_ok.1 h
  cases found with
  | directory entries => cases hfound
  | file content =>
    cases hfound
    exact hwalk

/-- The file at a path is the one at the position that the path resolves to. -/
private theorem at_resolve_of_readAt (hplain : ".." ∉ directory) (h : root.readAt directory p = .ok bytes) :
    ∃ above, At root (p.resolve directory) (.file bytes) above := by
  have hwalk := walk_of_readAt h
  rw [← List.append_nil (_ ++ p.names)] at hwalk
  obtain ⟨next, above, hat, hend⟩ := At.root.walk hwalk
  cases hend
  rw [List.foldl_append] at hat
  refine ⟨above, ?_⟩
  unfold Path.resolve
  split
  · rename_i habsolute
    simpa [habsolute] using hat
  · rename_i hrelative
    simpa [hrelative, foldl_step_of_not_mem hplain] using hat

/-- A path to a file ends in its name: without names it leads to a directory, and so does a step up. -/
private theorem proper_of_readAt (hdirectory : FileTree.walk directory [] root = .ok (.directory entries))
    (h : root.readAt directory p = .ok bytes) : p.Proper := by
  have hwalk := walk_of_readAt h
  cases hlast : p.names.getLast? with
  | none =>
    exfalso
    rw [List.getLast?_eq_none_iff.1 hlast, List.append_nil] at hwalk
    split at hwalk
    · cases hwalk
      cases directory with
      | nil => cases hdirectory
      | cons name directory => cases hdirectory
    · cases hwalk.symm.trans hdirectory
  | some name =>
    refine ⟨name, hlast, ?_⟩
    rintro rfl
    obtain ⟨names, hnames⟩ := List.getLast?_eq_some_iff.1 hlast
    rw [hnames, ← List.append_assoc] at hwalk
    obtain ⟨next, above, hat, hend⟩ := At.root.walk hwalk
    exact hat.walk_up hend

/-- A file tree has no links.  Its working directory is an absolute one. -/
theorem withoutLinks (hplain : ".." ∉ directory)
    (hdirectory : FileTree.walk directory [] root = .ok (.directory entries)) :
    (root.fileSystem directory).WithoutLinks where
  proper h := proper_of_readAt hdirectory h
  same := by
    intro p q bytes bytes' hp hq hplace
    obtain ⟨above, hat⟩ := at_resolve_of_readAt hplain hp
    obtain ⟨above', hat'⟩ := at_resolve_of_readAt hplain hq
    have hplace' : p.resolve directory = q.resolve directory := hplace
    rw [hplace'] at hat
    cases hat.unique hat'
    rfl
  place := by
    intro p bytes _ hnul
    show placeOf directory p = _
    rw [placeOf, hnul]
    rfl

end WithoutLinks

end FileTree

end SceneDescription
