import SceneDescription.Files.Path
import SceneDescription.Proofs.Results

/-!
# Paths and their texts

The paths that texts denote have names between which no slash is hidden, and none that is empty or a single dot.
Looking from one such path to another keeps this up.  Among these paths, different ones have different texts
(`Path.WellFormed.toText_inj`), so a report that names a file by its text does not confuse it with another one.
-/

namespace SceneDescription

/-! ### Texts cut at slashes -/

open String in
/-- The position `i` of the cut is behind `l ++ m`; `m` is the part of the current piece that has been passed. -/
private theorem splitOnAux_slash (l m r : List Char) (pieces : List String) :
    splitOnAux (ofList (l ++ m ++ r)) "/" ⟨utf8Len l⟩ ⟨utf8Len l + utf8Len m⟩ 0 pieces =
      pieces.reverse ++ (List.splitOnPPrepend (· == '/') r m.reverse).map ofList := by
  have hget : Pos.Raw.get "/" 0 = '/' := by decide
  have hnext : Pos.Raw.next "/" 0 = ⟨1⟩ := by decide
  have hend : Pos.Raw.atEnd "/" ⟨1⟩ = true := by decide
  induction r generalizing l m pieces with
  | nil =>
    have hatEnd : Pos.Raw.atEnd (ofList (l ++ m ++ [])) ⟨utf8Len l + utf8Len m⟩ = true := by
      rw [atEnd_iff, rawEndPos_ofList, List.append_nil, utf8Len_append]
      exact Pos.Raw.le_refl
    rw [splitOnAux, if_pos hatEnd]
    simpa using extract_of_valid l m []
  | cons c r ih =>
    have hatEnd : ¬ Pos.Raw.atEnd (ofList (l ++ m ++ c :: r)) ⟨utf8Len l + utf8Len m⟩ = true := by
      have hsize := c.utf8Size_pos
      rw [atEnd_iff, rawEndPos_ofList, utf8Len_append, utf8Len_append, utf8Len_cons, Pos.Raw.mk_le_mk]
      omega
    have hhere : Pos.Raw.get (ofList (l ++ m ++ c :: r)) ⟨utf8Len l + utf8Len m⟩ = c := by
      have hvalid := get_of_valid (l ++ m) (c :: r)
      rwa [utf8Len_append] at hvalid
    have hgo : Pos.Raw.next (ofList (l ++ m ++ c :: r)) ⟨utf8Len l + utf8Len m⟩ =
        ⟨utf8Len l + utf8Len m + c.utf8Size⟩ := by
      have hvalid := next_of_valid (l ++ m) c r
      rwa [utf8Len_append] at hvalid
    rw [splitOnAux, if_neg hatEnd, hhere, hget]
    by_cases hc : c = '/'
    · subst hc
      have hpiece := extract_of_valid l m ('/' :: r)
      have hback : (Pos.Raw.mk (utf8Len l + utf8Len m + Char.utf8Size '/')).unoffsetBy ⟨1⟩ =
          ⟨utf8Len l + utf8Len m⟩ := rfl
      have hrest := ih (l ++ m ++ ['/']) [] (ofList m :: pieces)
      simp only [hnext, hend, hgo, BEq.rfl, if_true, hback, hpiece]
      simp only [List.append_assoc, List.singleton_append, utf8Len_append, utf8Len_cons, utf8Len_nil, Nat.add_zero,
        Nat.zero_add] at hrest ⊢
      rw [← Nat.add_assoc] at hrest
      rw [hrest, List.splitOnPPrepend_cons_eq_if]
      simp
    · have hback : (Pos.Raw.mk (utf8Len l + utf8Len m)).unoffsetBy 0 = ⟨utf8Len l + utf8Len m⟩ := rfl
      have hrest := ih l (m ++ [c]) pieces
      simp only [hc, beq_iff_eq, if_false, hback, hgo]
      simp only [List.append_assoc, List.singleton_append, utf8Len_append, utf8Len_cons, utf8Len_nil,
        Nat.zero_add] at hrest ⊢
      rw [← Nat.add_assoc] at hrest
      rw [hrest, List.splitOnPPrepend_cons_eq_if]
      simp [hc]

private theorem splitOn_slash (text : String) : text.splitOn "/" = (text.toList.splitOn '/').map String.ofList := by
  have hsplit := splitOnAux_slash [] [] text.toList []
  have hsep : ("/" == "") = false := by decide
  rw [String.splitOn, hsep]
  simpa [List.splitOn] using hsplit

private theorem slash_not_mem_of_mem_pieces {chars passed piece : List Char} (hpassed : '/' ∉ passed)
    (h : piece ∈ List.splitOnPPrepend (· == '/') chars passed) : '/' ∉ piece := by
  induction chars generalizing passed with
  | nil =>
    rw [List.splitOnPPrepend_nil, List.mem_singleton] at h
    simpa [h] using hpassed
  | cons c chars ih =>
    rw [List.splitOnPPrepend_cons_eq_if] at h
    split at h
    · rcases List.mem_cons.1 h with rfl | hlater
      · simpa using hpassed
      · exact ih List.not_mem_nil hlater
    · rename_i hc
      have hc' : c ≠ '/' := by simpa using hc
      exact ih (by simp [hpassed, Ne.symm hc']) h

/-- Between two cuts there is no slash. -/
private theorem slash_not_mem_of_mem_splitOn {text piece : String} (h : piece ∈ text.splitOn "/") :
    '/' ∉ piece.toList := by
  rw [splitOn_slash] at h
  obtain ⟨chars, hchars, rfl⟩ := List.mem_map.1 h
  rw [String.toList_ofList]
  exact slash_not_mem_of_mem_pieces List.not_mem_nil hchars

namespace Path

variable {p q : Path}

/-! ### Well-formed paths -/

/-- The names are neither empty nor a single dot, and have no slash in them. -/
def WellFormed (p : Path) : Prop :=
  ∀ name ∈ p.names, name ≠ "" ∧ name ≠ "." ∧ '/' ∉ name.toList

theorem wellFormed_ofString (text : String) : (ofString text).WellFormed := by
  intro name hname
  obtain ⟨hpiece, hproper⟩ := List.mem_filter.1 hname
  have hnames : name ≠ "" ∧ name ≠ "." := by simpa using hproper
  exact ⟨hnames.1, hnames.2, slash_not_mem_of_mem_splitOn hpiece⟩

theorem WellFormed.parent (h : p.WellFormed) : p.parent.WellFormed :=
  fun name hname => h name (List.dropLast_subset _ hname)

theorem WellFormed.join (hp : p.WellFormed) (hq : q.WellFormed) : (p.join q).WellFormed := by
  unfold Path.join
  split
  · exact hq
  · intro name hname
    rcases List.mem_append.1 hname with hfirst | hlast
    · exact hp name hfirst
    · exact hq name hlast

/-! ### Texts of paths -/

/-- The characters of the names with slashes between them. -/
private def chars (p : Path) : List Char :=
  ['/'].intercalate (p.names.map String.toList)

private theorem toList_toText (p : Path) :
    p.toText.toList = match p.root with
      | .relative => if p.names.isEmpty then ['.'] else p.chars
      | .slash => '/' :: p.chars
      | .doubleSlash => '/' :: '/' :: p.chars := by
  have hchars : ("/".intercalate p.names).toList = p.chars := String.toList_intercalate
  have hdot : ".".toList = ['.'] := by decide
  have hslash : "/".toList = ['/'] := by decide
  have hslashes : "//".toList = ['/', '/'] := by decide
  unfold toText
  cases p.root with
  | relative =>
    dsimp only
    split
    · exact hdot
    · exact hchars
  | slash => rw [String.toList_append, hchars, hslash, List.singleton_append]
  | doubleSlash => rw [String.toList_append, hchars, hslashes, List.cons_append, List.singleton_append]

/-- No name starts with a slash. -/
private theorem WellFormed.leading_chars (h : p.WellFormed) : p.chars.takeWhile (· = '/') = [] := by
  unfold chars
  cases hnames : p.names with
  | nil => rfl
  | cons name names =>
    obtain ⟨hne, _, hslash⟩ := h name (by rw [hnames]; exact List.mem_cons_self ..)
    obtain ⟨c, cs, hcs⟩ : ∃ c cs, name.toList = c :: cs :=
      List.exists_cons_of_ne_nil fun hnil => hne (String.toList_inj.1 hnil)
    rw [hcs, List.mem_cons, not_or] at hslash
    have hc : c ≠ '/' := Ne.symm hslash.1
    cases names with
    | nil => simp [hcs, hc]
    | cons next names => simp [hcs, hc, List.intercalate_cons_cons]

private theorem WellFormed.pieces_chars (h : p.WellFormed) (hnames : p.names ≠ []) :
    (p.chars.splitOn '/').map String.ofList = p.names := by
  have hslash : ∀ piece ∈ p.names.map String.toList, '/' ∉ piece := by
    intro piece hpiece
    obtain ⟨name, hname, rfl⟩ := List.mem_map.1 hpiece
    exact (h name hname).2.2
  rw [chars, List.splitOn_intercalate '/' hslash (by simpa using hnames)]
  simp [Function.comp_def]

private theorem WellFormed.names_chars (h : p.WellFormed) :
    ((p.chars.splitOn '/').map String.ofList).filter (fun name => name ≠ "" && name ≠ ".") = p.names := by
  by_cases hnames : p.names = []
  · simp [chars, hnames]
  · rw [h.pieces_chars hnames, List.filter_eq_self]
    intro name hname
    obtain ⟨hne, hdot, _⟩ := h name hname
    simp [hne, hdot]

/-- The root that a number of slashes stands for. -/
private def rootOf : Nat → PathRoot
  | 0 => .relative
  | 2 => .doubleSlash
  | _ => .slash

/-- What stands in front of the names decides only on the root. -/
private theorem WellFormed.ofString_of_toList (h : p.WellFormed) {text : String} (slashes : Nat)
    (htext : text.toList = List.replicate slashes '/' ++ p.chars) :
    ofString text = ⟨rootOf slashes, p.names⟩ := by
  have hleading : (text.toList.takeWhile (· = '/')).length = slashes := by
    rw [htext, List.takeWhile_append_of_pos (by simp), h.leading_chars]
    simp
  have hnames : (text.splitOn "/").filter (fun name => name ≠ "" && name ≠ ".") = p.names := by
    rw [splitOn_slash, htext]
    clear htext hleading
    induction slashes with
    | zero => exact h.names_chars
    | succ n ih =>
      have hpiece : ('/' :: (List.replicate n '/' ++ p.chars)).splitOn '/' =
          [] :: (List.replicate n '/' ++ p.chars).splitOn '/' := by
        simp [List.splitOn, List.splitOnP_cons_eq_if_modifyHead]
      rw [List.replicate_succ, List.cons_append, hpiece]
      exact ih
  unfold ofString
  rw [hleading, hnames]
  rfl

/-- The text of a well-formed path denotes this path. -/
private theorem WellFormed.ofString_toText (h : p.WellFormed) : ofString p.toText = p := by
  have htext := p.toList_toText
  obtain ⟨root, names⟩ := p
  cases root with
  | relative =>
    cases names with
    | nil => cbv
    | cons name names => exact h.ofString_of_toList 0 htext
  | slash => exact h.ofString_of_toList 1 htext
  | doubleSlash => exact h.ofString_of_toList 2 htext

theorem WellFormed.toText_inj (hp : p.WellFormed) (hq : q.WellFormed) (h : p.toText = q.toText) : p = q := by
  rw [← hp.ofString_toText, h, hq.ofString_toText]

/-- Every path has a text: the empty one stands for the dot. -/
theorem WellFormed.toText_ne_empty (h : p.WellFormed) : p.toText ≠ "" := by
  intro hempty
  have hp : p = {} := by
    rw [← h.ofString_toText, hempty]
    cbv
  rw [hp] at hempty
  exact absurd hempty (by decide)

end Path

end SceneDescription
