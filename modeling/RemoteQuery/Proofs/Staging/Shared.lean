import RemoteQuery.Proofs.Staging
set_option autoImplicit false

/-! A staging folder that several calls share.  One step of a call makes sure of the folder,
or writes or erases the file of its own name.  What another name sees of the folder is what
stands under it and what is in the way of the folder, and no such step changes either. -/

namespace RemoteQuery.Staging

/-- What one step of a call with a file of this name leaves. -/
inductive Touched (name : String) (before : Staging) : Staging → Prop where
  | still : Touched name before before
  | ensured : Touched name before before.ensure.2
  | written (content : List UInt8) : Touched name before (before.put name content)
  | erased :
      Touched name before { before with disk := before.disk.erase (before.placeOf name) }

def IsThere (staging : Staging) : Prop := staging.disk.entryAt? staging.folder = some .folder

/-- Under a name a shared folder looks as one that a call has for itself. -/
structure Sees (name : String) (alone shared : Staging) : Prop where
  folder_eq : shared.folder = alone.folder
  entry_eq : shared.disk.entryAt? (alone.placeOf name)
    = alone.disk.entryAt? (alone.placeOf name)
  fault_eq : shared.ensure.1 = alone.ensure.1

private theorem placeOf_not_onTheWay (staging : Staging) (name : String) :
    ¬ staging.placeOf name <+: staging.folder := by
  intro onTheWay
  have shorter := onTheWay.length_le
  rw [placeOf, List.length_append, List.length_singleton] at shorter
  omega

theorem isThere_ensure {staging : Staging} (made : staging.ensure.1 = none) :
    staging.ensure.2.IsThere :=
  Disk.makeFolders_there staging.disk staging.folder made

/-! ### Steps of a call -/

section Steps

variable {staging : Staging} {name : String}

theorem touched_create {staged : Staging} (created : staging.create name = .ok staged) :
    Touched name staging staged := by
  rw [(created_of_create created).staged_eq]
  exact .written []

theorem touched_append (bytes : List UInt8) :
    Touched name staging (staging.append name bytes) := by
  rw [append]
  split
  · exact .written _
  · exact .still

theorem touched_remove : Touched name staging (staging.remove name) := by
  rw [remove]
  split
  · exact .erased
  · exact .still

end Steps

namespace Touched

variable {name : String} {before after : Staging}

theorem folder_eq (touched : Touched name before after) : after.folder = before.folder := by
  cases touched <;> rfl

private theorem keeps (touched : Touched name before after) {place : Place}
    (elsewhere : place ≠ before.placeOf name) :
    Disk.Keeps before.folder before.disk after.disk place := by
  cases touched with
  | still => exact .refl _ _ _
  | ensured => exact before.ensure_keeps place
  | written content => exact Or.inl (Disk.entryAt?_put_other _ _ _ _ elsewhere)
  | erased => exact Or.inl (Disk.entryAt?_erase_other _ _ _ elsewhere)

theorem there (touched : Touched name before after) (there : before.IsThere) : after.IsThere := by
  rw [IsThere, touched.folder_eq]
  have elsewhere : before.folder ≠ before.placeOf name := fun same =>
    before.placeOf_not_onTheWay name (same ▸ List.prefix_refl before.folder)
  rcases touched.keeps elsewhere with same | ⟨_, made, _⟩
  · exact same.trans there
  · exact made

theorem entry_eq (touched : Touched name before after) {other : String} (apart : other ≠ name) :
    after.disk.entryAt? (before.placeOf other) = before.disk.entryAt? (before.placeOf other) := by
  have elsewhere : before.placeOf other ≠ before.placeOf name := fun same =>
    apart (List.singleton_inj.mp (List.append_cancel_left same))
  rcases touched.keeps elsewhere with same | ⟨_, _, onTheWay⟩
  · exact same
  · exact (before.placeOf_not_onTheWay other onTheWay).elim

theorem fault_eq (touched : Touched name before after) : after.ensure.1 = before.ensure.1 := by
  have elsewhere (place : Place) (onTheWay : place <+: before.folder) :
      place ≠ before.placeOf name :=
    fun same => before.placeOf_not_onTheWay name (same ▸ onTheWay)
  cases touched with
  | still => rfl
  | ensured => exact Disk.makeFolders_fault_again before.disk before.folder
  | written content =>
      exact Disk.makeFolders_fault_congr fun place onTheWay =>
        Disk.entryAt?_put_other _ _ _ _ (elsewhere place onTheWay)
  | erased =>
      exact Disk.makeFolders_fault_congr fun place onTheWay =>
        Disk.entryAt?_erase_other _ _ _ (elsewhere place onTheWay)

end Touched

/-! ### What a name sees -/

namespace Sees

variable {name : String} {alone shared : Staging}

theorem refl (name : String) (staging : Staging) : Sees name staging staging := ⟨rfl, rfl, rfl⟩

theorem placeOf_eq (sees : Sees name alone shared) :
    shared.placeOf name = alone.placeOf name := by
  rw [placeOf, sees.folder_eq, placeOf]

theorem touched (sees : Sees name alone shared) {other : String} {after : Staging}
    (touched : Touched other shared after) (apart : name ≠ other) : Sees name alone after where
  folder_eq := touched.folder_eq.trans sees.folder_eq
  entry_eq := by
    rw [← sees.entry_eq, ← sees.placeOf_eq, touched.entry_eq apart]
  fault_eq := touched.fault_eq.trans sees.fault_eq

theorem entryAt?_eq (sees : Sees name alone shared) : shared.entryAt? name = alone.entryAt? name := by
  rw [entryAt?, entryAt?, placeOf, sees.folder_eq, ← placeOf, sees.entry_eq]

theorem content?_eq (sees : Sees name alone shared) : shared.content? name = alone.content? name := by
  rw [content?, content?, sees.entryAt?_eq]

theorem both (sees : Sees name alone shared) {after sharedAfter : Staging}
    (touched : Touched name alone after) (sharedTouched : Touched name shared sharedAfter)
    (entry : sharedAfter.disk.entryAt? (alone.placeOf name)
      = after.disk.entryAt? (alone.placeOf name)) : Sees name after sharedAfter where
  folder_eq := sharedTouched.folder_eq.trans (sees.folder_eq.trans touched.folder_eq.symm)
  entry_eq := by
    rw [placeOf, touched.folder_eq]
    exact entry
  fault_eq := sharedTouched.fault_eq.trans (sees.fault_eq.trans touched.fault_eq.symm)

theorem ensure (sees : Sees name alone shared) : Sees name alone.ensure.2 shared.ensure.2 := by
  refine sees.both .ensured .ensured ?_
  have same := shared.ensure_placeOf name
  rw [sees.placeOf_eq, sees.entry_eq] at same
  exact same.trans (alone.ensure_placeOf name).symm

theorem put (sees : Sees name alone shared) (content : List UInt8) :
    Sees name (alone.put name content) (shared.put name content) := by
  refine sees.both (.written content) (.written content) ?_
  have inside := alone.placeOf_ne_nil name
  rw [Staging.put, Staging.put, sees.placeOf_eq, Disk.entryAt?_put_same _ _ _ inside,
    Disk.entryAt?_put_same _ _ _ inside]

theorem append (sees : Sees name alone shared) (bytes : List UInt8) :
    Sees name (alone.append name bytes) (shared.append name bytes) := by
  rw [Staging.append, Staging.append, sees.entryAt?_eq]
  split
  · exact sees.put _
  · exact sees

theorem remove (sees : Sees name alone shared) :
    Sees name (alone.remove name) (shared.remove name) := by
  rw [Staging.remove, Staging.remove, sees.entryAt?_eq]
  split
  · refine sees.both .erased .erased ?_
    have inside := alone.placeOf_ne_nil name
    rw [sees.placeOf_eq, Disk.entryAt?_erase_same _ _ inside, Disk.entryAt?_erase_same _ _ inside]
  · exact sees

theorem create (sees : Sees name alone shared) (there : alone.IsThere)
    (sharedThere : shared.IsThere) :
    (∃ fault, alone.create name = .error fault ∧ shared.create name = .error fault) ∨
    (alone.create name = .ok (alone.put name []) ∧
      shared.create name = .ok (shared.put name [])) := by
  rw [Staging.create, Staging.create, there, sharedThere, sees.entryAt?_eq]
  cases Disk.nameFault? name with
  | some fault => exact Or.inl ⟨fault, rfl, rfl⟩
  | none =>
      cases alone.entryAt? name with
      | none => exact Or.inr ⟨rfl, rfl⟩
      | some entry =>
          cases entry with
          | folder => exact Or.inl ⟨.isFolder, rfl, rfl⟩
          | file content => exact Or.inr ⟨rfl, rfl⟩

end Sees

end RemoteQuery.Staging
