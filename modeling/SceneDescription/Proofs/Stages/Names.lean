import SceneDescription.Proofs.Stages.Drafts

/-!
# Names of declarations

Materials, textures, media and objects are found by name among the declared ones.  `Indexes` says that such a look-up
is exactly the map from names to declarations, and that no name is given twice.  For materials, textures and media the
name is checked when the declaration is made.  The name of an object is checked at its begin, but the object is there
only from its end on; that no other object of the name is completed in between is due to the scopes, which record one
object at a time (`Stage.Named.pending`).
-/

namespace SceneDescription

/-- A look-up by key finds exactly the entries with that key, and no two entries have the same key. -/
structure Indexes {α κ : Type} (key : α → Option κ) (entries : List α) (find : κ → Option α) : Prop where
  distinct : (entries.filterMap key).Nodup
  find_iff : ∀ k a, find k = some a ↔ a ∈ entries ∧ key a = some k

/-! ### Entries with keys -/

section Keys

variable {α κ : Type} {key : α → Option κ} {entries : List α} {a b : α} {k : κ}

private theorem eq_of_key_eq (h : (entries.filterMap key).Nodup) (ha : a ∈ entries) (hb : b ∈ entries)
    (hka : key a = some k) (hkb : key b = some k) : a = b := by
  induction entries with
  | nil => cases ha
  | cons x rest ih =>
    -- if `x` has the key, no entry behind it does
    have hbehind : key x = some k → ∀ y ∈ rest, key y ≠ some k := by
      intro hx y hy hky
      rw [List.filterMap_cons_some hx, List.nodup_cons] at h
      exact h.1 (List.mem_filterMap.2 ⟨y, hy, hky⟩)
    have hrest : (rest.filterMap key).Nodup := h.sublist ((List.sublist_cons_self x rest).filterMap key)
    rcases List.mem_cons.1 ha with hax | ha
    · rcases List.mem_cons.1 hb with hbx | hb
      · rw [hax, hbx]
      · exact absurd hkb (hbehind (hax ▸ hka) b hb)
    · rcases List.mem_cons.1 hb with hbx | hb
      · exact absurd hka (hbehind (hbx ▸ hkb) a ha)
      · exact ih hrest ha hb

private theorem indexes_find? {test : κ → α → Bool} (htest : ∀ k a, test k a ↔ key a = some k)
    (h : (entries.filterMap key).Nodup) : Indexes key entries fun k => entries.find? (test k) := by
  refine ⟨h, fun k a => ?_⟩
  constructor
  · intro hfind
    exact ⟨List.mem_of_find?_eq_some hfind, (htest k a).1 (List.find?_some hfind)⟩
  · rintro ⟨ha, hka⟩
    cases hfind : entries.find? (test k) with
    | none =>
      have hnone := List.find?_eq_none.1 hfind a ha
      exact absurd ((htest k a).2 hka) hnone
    | some b =>
      have hb := List.mem_of_find?_eq_some hfind
      have hkb : key b = some k := (htest k b).1 (List.find?_some hfind)
      rw [eq_of_key_eq h ha hb hka hkb]

/-- Where no two entries have the same key, it makes no difference from which end one looks for it. -/
private theorem Indexes.of_reverse {find : κ → Option α} (h : Indexes key entries.reverse find) :
    Indexes key entries find := by
  refine ⟨?_, fun k a => ?_⟩
  · have hdistinct := h.distinct
    rwa [List.filterMap_reverse, List.nodup_reverse] at hdistinct
  · rw [h.find_iff, List.mem_reverse]

private theorem nodup_filterMap_concat (h : (entries.filterMap key).Nodup) (hnew : ∀ k, key a = some k →
    ∀ b ∈ entries, key b ≠ some k) : ((entries ++ [a]).filterMap key).Nodup := by
  cases hka : key a with
  | none => simpa [hka] using h
  | some k =>
    have hfresh : k ∉ entries.filterMap key := by
      intro hmem
      obtain ⟨b, hb, hkb⟩ := List.mem_filterMap.1 hmem
      exact hnew k hka b hb hkb
    rw [List.filterMap_append, List.filterMap_cons_some hka, List.filterMap_nil, List.nodup_append]
    refine ⟨h, List.nodup_singleton k, ?_⟩
    intro k' hk' k'' hk'' heq
    rw [heq, List.mem_singleton.1 hk''] at hk'
    exact hfresh hk'

end Keys

/-! ### Declarations -/

namespace Declarations

/-- No name is given twice.  A texture is told apart by its name and the type of its values. -/
structure Distinct (d : Declarations) : Prop where
  materials : (d.materials.filterMap (·.name)).Nodup
  textures : (d.textures.filterMap fun t => some (t.valueType, t.name)).Nodup
  media : (d.media.filterMap fun m => some m.name).Nodup
  objects : (d.objects.filterMap fun o => some o.name).Nodup

variable {d : Declarations}

private theorem material?_eq_none {name : String} :
    d.material? name = none ↔ ∀ m ∈ d.materials, m.name ≠ some name := by
  simp [material?]

private theorem texture?_eq_none {valueType name : String} :
    d.texture? valueType name = none ↔ ∀ t ∈ d.textures, some (t.valueType, t.name) ≠ some (valueType, name) := by
  simp [texture?]

private theorem medium?_eq_none {name : String} : d.medium? name = none ↔ ∀ m ∈ d.media, some m.name ≠ some name := by
  simp [medium?]

private theorem object?_eq_none {name : String} : d.object? name = none ↔ ∀ o ∈ d.objects, some o.name ≠ some name := by
  simp [object?]

theorem Distinct.indexes_material? (h : d.Distinct) : Indexes (·.name) d.materials d.material? := by
  have htest (name : String) (m : Material) : decide (m.name = some name) ↔ m.name = some name := by simp
  exact indexes_find? htest h.materials

theorem Distinct.indexes_texture? (h : d.Distinct) :
    Indexes (fun t => some (t.valueType, t.name)) d.textures fun key => d.texture? key.1 key.2 := by
  have htest (key : String × String) (t : Texture) :
      (decide (t.valueType = key.1) && decide (t.name = key.2)) ↔ some (t.valueType, t.name) = some key := by
    simp [Prod.ext_iff]
  exact indexes_find? htest h.textures

theorem Distinct.indexes_medium? (h : d.Distinct) : Indexes (fun m => some m.name) d.media d.medium? := by
  have htest (name : String) (m : Medium) : decide (m.name = name) ↔ some m.name = some name := by simp
  exact indexes_find? htest h.media

theorem Distinct.indexes_object? (h : d.Distinct) : Indexes (fun o => some o.name) d.objects d.object? := by
  have htest (name : String) (o : ObjectDefinition) : decide (o.name = name) ↔ some o.name = some name := by simp
  have hreverse : (d.objects.reverse.filterMap fun o => some o.name).Nodup := by
    rw [List.filterMap_reverse, List.nodup_reverse]
    exact h.objects
  exact (indexes_find? htest hreverse).of_reverse

end Declarations

/-! ### One directive -/

namespace Draft

variable {d : Draft} {e : Entity}

private theorem object?_insert (d : Draft) (e : Entity) (name : String) :
    (d.insert e).object? name = d.object? name := by
  unfold Declarations.object?
  rw [objects_insert]

private theorem distinct_insert (h : d.Distinct) (hadmits : d.Admits e) : (d.insert e).Distinct := by
  cases e with
  | shape shape =>
    unfold insert addShape
    cases d.recording <;> exact { h with }
  | material material =>
    have hnew : ∀ name, material.name = some name → ∀ m ∈ d.materials, m.name ≠ some name :=
      fun name hname => Declarations.material?_eq_none.1 (hadmits name hname)
    exact { h with materials := nodup_filterMap_concat h.materials hnew }
  | texture texture =>
    have hnew : ∀ key, some (texture.valueType, texture.name) = some key →
        ∀ t ∈ d.textures, some (t.valueType, t.name) ≠ some key := by
      rintro _ ⟨⟩
      exact Declarations.texture?_eq_none.1 hadmits
    exact { h with textures := nodup_filterMap_concat h.textures hnew }
  | medium medium =>
    have hnew : ∀ name, some medium.name = some name → ∀ m ∈ d.media, some m.name ≠ some name := by
      rintro _ ⟨⟩
      exact Declarations.medium?_eq_none.1 hadmits
    exact { h with media := nodup_filterMap_concat h.media hnew }
  | _ => exact { h with }

private theorem distinct_endObject {name : String} (h : d.Distinct) (hname : d.object? name = none)
    (location : Option Location) : (d.endObject name location).Distinct := by
  have hnew : ∀ other, some name = some other → ∀ o ∈ d.objects, some o.name ≠ some other := by
    rintro _ ⟨⟩
    exact Declarations.object?_eq_none.1 hname
  exact { h with objects := nodup_filterMap_concat h.objects hnew }

private theorem mem_instances_insert {placement : ObjectInstance} (h : placement ∈ (d.insert e).instances) :
    placement ∈ d.instances ∨ e = .placement placement := by
  cases e with
  | placement new =>
    rcases List.mem_append.1 h with hold | hnew
    · exact .inl hold
    · rw [List.mem_singleton.1 hnew]
      exact .inr rfl
  | shape shape =>
    unfold insert addShape at h
    cases hrec : d.recording <;> rw [hrec] at h <;> exact .inl h
  | _ => exact .inl h

end Draft

namespace Stage

variable {s s' : Stage} {location : Location} {d : Directive}

/-- The names of a stage are in order. -/
structure WellNamed (s : Stage) : Prop where
  distinct : s.draft.Distinct
  /-- No complete object has the name of the one that is being recorded. -/
  pending : ∀ name, s.scopes.recording = some name → s.draft.object? name = none
  placed : ∀ placement ∈ s.draft.instances, (s.draft.object? placement.name).isSome

theorem wellNamed_initial : ({} : Stage).WellNamed where
  distinct := ⟨.nil, .nil, .nil, .nil⟩
  pending := by simp
  placed := by simp

/-- Completing an object keeps the others, under their names. -/
private theorem isSome_object?_endObject {d : Draft} {name other : String} {location : Option Location}
    (h : (d.object? other).isSome) : ((d.endObject name location).object? other).isSome := by
  unfold Declarations.object? at h ⊢
  simp only [Draft.endObject, List.reverse_append, List.reverse_singleton, List.singleton_append, List.find?_cons]
  split
  · rfl
  · exact h

theorem execute_wellNamed [LinearAlgebra] (h : s.execute location d = .ok s') (hs : s.WellNamed) : s'.WellNamed := by
  cases execute_drafts h with
  | @declares new base hnew hadmits hbase hdraft =>
    obtain ⟨hbegin, hend⟩ := ne_of_entity?_eq_some hnew
    have hrec := execute_recording_of_ne h hbegin hend
    obtain ⟨_, _, _, _, _, rfl⟩ := hbase
    constructor
    · rw [hdraft]
      exact Draft.distinct_insert { hs.distinct with } hadmits
    · intro name hname
      rw [hdraft, Draft.object?_insert]
      exact hs.pending name (hrec ▸ hname)
    · intro placement hplacement
      rw [hdraft] at hplacement ⊢
      rw [Draft.object?_insert]
      rcases Draft.mem_instances_insert hplacement with hold | rfl
      · exact hs.placed placement hold
      · exact hadmits
  | @records name hd hrec hname hdraft =>
    subst hd
    have hscopes : s'.scopes.recording = some name := ScopeMachine.step_recording (execute_scopes h [])
    constructor
    · rw [hdraft]
      exact hs.distinct
    · intro other hother
      obtain rfl : name = other := Option.some.inj (hscopes.symm.trans hother)
      rw [hdraft]
      exact hname
    · rw [hdraft]
      exact hs.placed
  | @completes name hd hrec hdraft =>
    subst hd
    have hscopes : s'.scopes.recording = none := ScopeMachine.step_recording (execute_scopes h [])
    constructor
    · rw [hdraft]
      exact Draft.distinct_endObject hs.distinct (hs.pending name hrec) _
    · intro other hother
      cases hscopes.symm.trans hother
    · intro placement hplacement
      rw [hdraft] at hplacement ⊢
      exact isSome_object?_endObject (hs.placed placement hplacement)
  | keeps _ hbegin hend hbase =>
    have hrec := execute_recording_of_ne h hbegin hend
    obtain ⟨_, _, _, _, _, hdraft⟩ := hbase
    constructor
    · rw [hdraft]
      exact { hs.distinct with }
    · intro name hname
      rw [hdraft]
      exact hs.pending name (hrec ▸ hname)
    · rw [hdraft]
      exact hs.placed

end Stage

end SceneDescription
