import SceneDescription.Proofs.Results
import SceneDescription.Stream.Basic

/-!
# Finite file systems

A path through a file tree, also one that goes up again, stays in the tree (`FileTree.contents_of_walk`), so there are
only as many contents to be read as the tree has files.  Hence the texts of all the files of a tree have a common
bound on their length (`FileTree.exists_bounded`).
-/

namespace SceneDescription

/-- What becomes of the bytes of a scene file. -/
def FileSystem.textOf (files : FileSystem) (config : Config) (compressed : Bool) (bytes : List UInt8) :
    Except ReadFault (List Char) := do
  let decode ← files.decoderFor config
  let bytes ← if compressed then (Gzip.expand bytes).mapError .notExpandable else .ok bytes
  let text ← (decode bytes).mapError .notDecodable
  return unifyLineEnds text

theorem FileSystem.of_readText_eq_ok {files : FileSystem} {config : Config} {path : Path} {text : List Char}
    (h : files.readText config path = .ok text) :
    ∃ bytes, files.read path = .ok bytes ∧
      files.textOf config (config.allowGzip && path.suffix = ".gz") bytes = .ok text := by
  unfold readText at h
  dsimp only at h
  split at h
  · cases h
  split at h
  · cases h
  obtain ⟨bytes, hread, htext⟩ := bind_eq_ok.1 h
  cases hfile : files.read path with
  | error fault =>
    rw [hfile] at hread
    cases hread
  | ok found =>
    rw [hfile] at hread
    cases hread
    exact ⟨bytes, rfl, htext⟩

theorem FileSystem.hasNul_of_readText_eq_ok {files : FileSystem} {config : Config} {path : Path} {text : List Char}
    (h : files.readText config path = .ok text) : path.hasNul = false := by
  unfold readText at h
  dsimp only at h
  split at h
  · cases h
  split at h
  · cases h
  · rename_i hnul
    exact Bool.eq_false_iff.2 hnul

/-- No file that can be read has a text longer than `size`. -/
def Library.Bounded (library : Library) (size : Nat) : Prop :=
  ∀ path text, library.files.readText library.config path = .ok text → text.length ≤ size

namespace FileTree

mutual

/-- The contents of the files of a tree. -/
def contents : FileTree → List (List UInt8)
  | file bytes => [bytes]
  | directory entries => contentsOf entries

/-- The contents of the files below the entries of a directory. -/
def contentsOf : List (String × FileTree) → List (List UInt8)
  | [] => []
  | (_, tree) :: entries => tree.contents ++ contentsOf entries

end

private theorem contents_of_lookup {name : String} {child : FileTree} {entries : List (String × FileTree)}
    (h : entries.lookup name = some child) : child.contents ⊆ (directory entries).contents := by
  rw [contents]
  induction entries with
  | nil => cases h
  | cons entry entries ih =>
    obtain ⟨first, tree⟩ := entry
    rw [contentsOf]
    rw [List.lookup_cons] at h
    split at h
    · cases h
      exact List.subset_append_left _ _
    · exact List.subset_append_of_subset_right _ (ih h)

/-- A walk does not leave what lies here and above. -/
theorem contents_of_walk {names : List String} {ancestors : List FileTree} {here found : FileTree}
    {all : List (List UInt8)} (h : walk names ancestors here = .ok found)
    (hall : ∀ tree ∈ here :: ancestors, tree.contents ⊆ all) : found.contents ⊆ all := by
  fun_induction walk names ancestors here with
  | case1 ancestors here =>
    cases h
    exact hall _ (List.mem_cons_self ..)
  | case2 | case5 | case6 => cases h
  | case3 names entries ih => exact ih h hall
  | case4 names entries up further ih =>
    refine ih h ?_
    intro tree htree
    exact hall tree (List.mem_cons_of_mem _ htree)
  | case7 name names ancestors entries _ _ child hchild ih =>
    refine ih h ?_
    intro tree htree
    rcases List.mem_cons.1 htree with rfl | habove
    · exact List.Subset.trans (contents_of_lookup hchild) (hall _ (List.mem_cons_self ..))
    · exact hall tree habove

private theorem mem_contents_of_readAt {root : FileTree} {directory : List String} {path : Path} {bytes : List UInt8}
    (h : root.readAt directory path = .ok bytes) : bytes ∈ root.contents := by
  unfold readAt at h
  dsimp only at h
  split at h
  · cases h
  obtain ⟨found, hwalk, hfound⟩ := bind_eq_ok.1 h
  have hsubset : found.contents ⊆ root.contents := contents_of_walk hwalk (by simp)
  cases found with
  | directory entries => cases hfound
  | file bytes' =>
    cases hfound
    exact hsubset (by simp [contents])

/-- The texts of all the files of a tree have a common bound on their length. -/
theorem exists_bounded {library : Library} {root : FileTree} {directory : List String}
    (h : library.files.read = root.readAt directory) : ∃ size, library.Bounded size := by
  -- a file is read as it is or after decompression, as its name says
  let texts := root.contents.flatMap fun bytes =>
    [true, false].filterMap fun compressed => (library.files.textOf library.config compressed bytes).toOption
  obtain ⟨size, hsize⟩ := (texts.map List.length).toFinset.exists_le
  refine ⟨size, ?_⟩
  intro path text htext
  obtain ⟨bytes, hread, htextOf⟩ := FileSystem.of_readText_eq_ok htext
  rw [h] at hread
  have hbytes : bytes ∈ root.contents := mem_contents_of_readAt hread
  generalize (library.config.allowGzip && path.suffix = ".gz") = compressed at htextOf
  have hmem : text ∈ texts := by
    refine List.mem_flatMap.2 ⟨bytes, hbytes, List.mem_filterMap.2 ⟨compressed, ?_, ?_⟩⟩
    · cases compressed <;> simp
    · rw [htextOf]
      rfl
  exact hsize _ (List.mem_toFinset.2 (List.mem_map_of_mem hmem))

end FileTree

end SceneDescription
