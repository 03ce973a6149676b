import SceneDescription.Proofs.Files.FileTrees
import SceneDescription.Proofs.Sessions.OpenFiles
import SceneDescription.Proofs.Splicing.SplicedScenes

/-!
# Reading comes to an end

A directive can open a file that is as long as any other, so what remains to be read grows and shrinks.  But with a
limit on the number of open files there is a limit on what an item can cost: at the innermost level it is good for one
step, and at every other level for at most as many as a whole file costs one level further in (`costOfItem`).  Each
step uses up a part of what the open files are good for (`Session.Moves.allowance_lt`), and this bounds the number of
steps by the size of the files.  `Root.parse_terminates` puts this together with the limits on the open files.
-/

namespace SceneDescription

/-! ### Items and characters -/

/-- Every scanned item has taken a character at least. -/
private theorem Scanner.length_scanOnto_le (found : List Item) (s : Scanner) :
    (s.scanOnto found).1.length ≤ found.length + s.rest.length := by
  fun_induction Scanner.scanOnto found s with
  | case1 found s s' h => simp
  | case2 found s r s' h => simp
  | case3 found s _ s' h ih | case4 found s _ s' h ih =>
    have hshrinks := s.next_shrinks
    rw [h] at hshrinks
    have hlt : s'.rest.length < s.rest.length := hshrinks rfl
    rw [List.length_cons] at ih
    omega

private theorem Cursor.length_items_ofText_le (source : String) (text : List Char) :
    (Cursor.ofText source text).items.length ≤ text.length := by
  have hscan := (Scanner.ofText source text).length_scanOnto_le []
  have hrest : (Scanner.ofText source text).rest.length ≤ text.length := by
    unfold Scanner.ofText
    split
    · rw [List.length_tail]
      omega
    · exact Nat.le_refl _
  have hitems : (Cursor.ofText source text).items = ((Scanner.ofText source text).scanOnto []).1 := rfl
  rw [List.length_nil] at hscan
  rw [hitems]
  omega

/-! ### What a text is good for -/

/-- The largest number of steps that an item can lead to, if files have at most `size` items and `levels` more of them
can be opened inside of each other: an item may open a file, which has to be left again. -/
def costOfItem (size : Nat) : Nat → Nat
  | 0 => 1
  | levels + 1 => size * costOfItem size levels + 2

private theorem one_le_costOfItem (size levels : Nat) : 1 ≤ costOfItem size levels := by
  cases levels with
  | zero => exact Nat.le_refl 1
  | succ levels =>
    rw [costOfItem]
    omega

/-- The largest number of steps that a stack of open texts is good for, under a limit on their number. -/
def allowance {κ : Type} (size limit : Nat) : List (Frame κ) → Nat
  | [] => 0
  | frame :: around =>
    frame.cursor.items.length * costOfItem size (limit - (around.length + 1)) + 1 + allowance size limit around

section

variable {κ : Type} {size limit : Nat} {frame frame' inner : Frame κ} {around : List (Frame κ)}

private theorem allowance_of_items_lt (h : frame'.cursor.items.length < frame.cursor.items.length) :
    allowance size limit (frame' :: around) < allowance size limit (frame :: around) := by
  have hcost := one_le_costOfItem size (limit - (around.length + 1))
  have hless := Nat.mul_lt_mul_of_pos_right h hcost
  simp only [allowance]
  omega

/-- A file that is opened costs less than the items of the directive that opens it. -/
private theorem allowance_of_opened (h : frame'.cursor.items.length < frame.cursor.items.length)
    (hinner : inner.cursor.items.length ≤ size) (hlimit : around.length + 1 < limit) :
    allowance size limit (inner :: frame' :: around) < allowance size limit (frame :: around) := by
  obtain ⟨levels, hlevels⟩ : ∃ levels, limit - (around.length + 1 + 1) = levels := ⟨_, rfl⟩
  have hlevels' : limit - (around.length + 1) = levels + 1 := by omega
  have hcost : costOfItem size (levels + 1) = size * costOfItem size levels + 2 := rfl
  have hfile := Nat.mul_le_mul_right (costOfItem size levels) hinner
  have hitem := Nat.mul_le_mul_right (costOfItem size (levels + 1)) (Nat.succ_le_of_lt h)
  rw [Nat.succ_mul] at hitem
  simp only [allowance, List.length_cons, hlevels, hlevels']
  omega

end

namespace Session

variable [LinearAlgebra] {s s' last : Session} {event : Event} {moments moments' : List Moment} {size : Nat}

/-- The items of a directive are gone behind it. -/
theorem Performs.items_lt {t : Token} {c₁ c₂ : Cursor} {keyword : Keyword} {d : Directive}
    (h : s.Performs t c₁ c₂ keyword d s') : c₂.items.length < s.stream.top.cursor.items.length := by
  have htake := Read.take_shrinks h.take
  have hread := (forward_readDirective ⟨keyword, t.line⟩).length_le c₁
  simp only [Read.after, h.read] at hread
  omega

/-- Every step uses up a part of what the open texts are good for. -/
theorem Moves.allowance_lt (h : s.Moves event s') (hsize : s.library.Bounded size) :
    allowance size s.library.config.maxIncludeDepth s'.stream.frames <
      allowance size s.library.config.maxIncludeDepth s.stream.frames := by
  cases h with
  | leaves h =>
    -- the end of the innermost text counts as one step
    have hback : allowance size s.library.config.maxIncludeDepth s'.stream.frames =
        allowance size s.library.config.maxIncludeDepth s.stream.below := by
      rw [h.stream, h.around]
      rfl
    rw [hback, Stream.frames, allowance]
    omega
  | @performs t c₁ c₂ keyword d _ h =>
    have hitems := h.items_lt
    rcases h.stream with ⟨_, hstream⟩ | ⟨relative, path, _, hopen⟩
    · rw [hstream]
      exact allowance_of_items_lt hitems
    · obtain ⟨hdepth, _⟩ := Stream.checks_of_openFile hopen
      obtain ⟨_, text, htext, hstream⟩ := Stream.openFile_eq_ok hopen
      have hinner := Nat.le_trans (Cursor.length_items_ofText_le path.toText text) (hsize path text htext)
      rw [hstream]
      exact allowance_of_opened hitems hinner hdepth

theorem Run.library (h : Run s moments s') : s'.library = s.library := by
  have hstep : ∀ (t : Session) e t', t.library = s.library → t.Moves e t' → t'.library = s.library :=
    fun _ _ _ ht hmoves => hmoves.library.trans ht
  exact h.invariant hstep rfl

private theorem Run.length_add_allowance_le (h : Run s moments s') (hsize : s.library.Bounded size) :
    moments.length + allowance size s.library.config.maxIncludeDepth s'.stream.frames ≤
      allowance size s.library.config.maxIncludeDepth s.stream.frames := by
  induction h with
  | nil s => simp
  | @cons s s₁ s' e moments hstep _ ih =>
    have hmoves := moves_of_step hstep
    have hlt := hmoves.allowance_lt hsize
    rw [hmoves.library] at ih
    have hrest := ih hsize
    rw [List.length_cons]
    omega

/-- The number of steps from the start of a scene. -/
theorem Run.length_le (h : Run s moments s') (hs : s.Start) (hsize : s.library.Bounded size) :
    moments.length ≤ s.stream.top.cursor.items.length *
      costOfItem size (s.library.config.maxIncludeDepth - 1) := by
  have hsum := h.length_add_allowance_le hsize
  have hend : 1 ≤ allowance size s.library.config.maxIncludeDepth s'.stream.frames := by
    rw [Stream.frames, allowance]
    omega
  obtain ⟨hbelow, _⟩ := hs.frames
  have hstart : allowance size s.library.config.maxIncludeDepth s.stream.frames =
      s.stream.top.cursor.items.length * costOfItem size (s.library.config.maxIncludeDepth - 1) + 1 := by
    rw [Stream.frames, hbelow]
    rfl
  omega

/-! ### The end of a session -/

/-- No step leads on from a session. -/
def Ended (s : Session) : Prop :=
  ∀ event s', s.step ≠ .moved event s'

/-- There is one way only to go on, so every run is the beginning of one that has ended. -/
theorem Run.isPrefix (h' : Run s moments' s') (h : Run s moments last) (hlast : last.Ended) :
    moments' <+: moments := by
  induction h' generalizing moments with
  | nil s => exact List.nil_prefix
  | @cons s s₁ s' e moments' hstep _ ih =>
    cases h with
    | nil => exact absurd hstep (hlast e s₁)
    | cons hstep' hrun =>
      rw [hstep] at hstep'
      cases hstep'
      exact List.prefix_cons_inj _ |>.2 (ih hrun)

/-- Every session runs to an end, and finishes or fails there. -/
theorem exists_run_to_end (s : Session) :
    ∃ moments last, Run s moments last ∧
      ((last.step = .finished ∧ s.finish = .finished last) ∨
        ∃ r t, last.step = .failed r t ∧ s.finish = .failed r t) := by
  fun_induction finish s with
  | case1 s hstep => exact ⟨[], s, .nil s, .inl ⟨hstep, rfl⟩⟩
  | case2 s r t hstep => exact ⟨[], s, .nil s, .inr ⟨r, t, hstep, rfl⟩⟩
  | case3 s e s' hstep ih =>
    obtain ⟨moments, last, hrun, hend⟩ := ih
    exact ⟨⟨s, e⟩ :: moments, last, .cons hstep hrun, hend⟩

end Session

namespace Root

/-- The session at the start of a root, if it can be read. -/
def session (library : Library) : Root → Except (Report Fault) Session
  | text characters => .ok (Session.ofText library characters)
  | file path => Session.ofFile library path

theorem parse_eq [LinearAlgebra] (library : Library) (root : Root) :
    root.parse library = (do (← root.session library).finish.result) := by
  cases root with
  | text characters => rfl
  | file path => rfl

theorem start_of_session {library : Library} {root : Root} {s : Session} (h : root.session library = .ok s) :
    s.Start ∧ s.library = library := by
  cases root with
  | text characters =>
    cases h
    exact ⟨.text library characters, rfl⟩
  | file path =>
    refine ⟨.file h, ?_⟩
    obtain ⟨stream, _, rfl⟩ := bind_pure_eq_ok.1 h
    rfl

/-- Reading a scene comes to an end, for every root and all files, and then there is a scene or an error.  The run to
the end is the only one, and its length is bounded by the size of the files, which a finite tree of files has, and the
limit on open texts.  On the way, and also where it fails, the number of open texts is within the limit, and the
paths of the open files lead to different places. -/
theorem parse_terminates [LinearAlgebra] (library : Library) (root : Root) :
    (∃ r, root.session library = .error r ∧ root.parse library = .error r) ∨
    ∃ s, root.session library = .ok s ∧
      (∃ moments last, Session.Run s moments last ∧
        ((last.step = .finished ∧ root.parse library = .ok last.scene) ∨
          ∃ r t, last.step = .failed r t ∧
            root.parse library = .error (r.locate t.stream.source t.stream.chain)) ∧
        (∀ moments' s', Session.Run s moments' s' → moments' <+: moments) ∧
        (∀ size, library.Bounded size →
          moments.length ≤ s.stream.top.cursor.items.length *
            costOfItem size (library.config.maxIncludeDepth - 1)) ∧
        ∀ tree directory, library.files.read = FileTree.readAt tree directory → ∃ size, library.Bounded size) ∧
      ∀ moments s' t, Session.Run s moments s' → (t = s' ∨ ∃ r, s'.step = .failed r t) →
        1 ≤ t.stream.depth ∧ t.stream.depth ≤ library.config.maxIncludeDepth ∧
        (t.stream.frames.filterMap (·.path)).Pairwise library.files.LeadApart := by
  cases hsession : root.session library with
  | error r =>
    refine .inl ⟨r, rfl, ?_⟩
    rw [parse_eq, hsession]
    rfl
  | ok s =>
    obtain ⟨hstart, hlibrary⟩ := start_of_session hsession
    subst hlibrary
    have hparse : root.parse s.library = s.finish.result := by
      rw [parse_eq, hsession]
      rfl
    refine .inr ⟨s, rfl, ?_, ?_⟩
    · obtain ⟨moments, last, hrun, hend⟩ := s.exists_run_to_end
      have hended : last.Ended := by
        intro event s' hmoved
        rcases hend with ⟨hstep, _⟩ | ⟨r, t, hstep, _⟩
        · rw [hstep] at hmoved
          cases hmoved
        · rw [hstep] at hmoved
          cases hmoved
      refine ⟨moments, last, hrun, ?_, fun moments' s' h' => h'.isPrefix hrun hended,
        fun size hsize => hrun.length_le hstart hsize, fun tree directory hfiles => FileTree.exists_bounded hfiles⟩
      rw [hparse]
      rcases hend with ⟨hstep, hfinish⟩ | ⟨r, t, hstep, hfinish⟩
      · rw [hfinish]
        exact .inl ⟨hstep, rfl⟩
      · rw [hfinish]
        exact .inr ⟨r, t, hstep, rfl⟩
    · intro moments s' t hrun hlast
      have hwithin := hrun.withinLimits hstart.withinLimits
      have hlimits : t.WithinLimits ∧ t.library = s.library := by
        rcases hlast with rfl | ⟨r, hfailed⟩
        · exact ⟨hwithin, hrun.library⟩
        · obtain ⟨hlibrary, hfiles⟩ := Session.files_of_failed hfailed
          exact ⟨hwithin.of_files hlibrary hfiles, hlibrary.trans hrun.library⟩
      obtain ⟨⟨hdepth, hdistinct⟩, hlibrary⟩ := hlimits
      rw [Session.filePaths, hlibrary] at hdistinct
      rw [hlibrary] at hdepth
      exact ⟨Nat.succ_pos _, hdepth, hdistinct⟩

end Root

end SceneDescription
