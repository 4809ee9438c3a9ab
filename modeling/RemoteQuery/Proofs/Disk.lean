import RemoteQuery.Disk
set_option autoImplicit false

/-! What the operations on the disk change.  Putting and erasing concern one place.
Making a folder concerns the free places on the way to it, and leaves a folder there when
nothing is in the way. -/

namespace RemoteQuery.Disk

theorem entryAt?_erase_same (disk : Disk) (place : Place) (inside : place ≠ []) :
    (disk.erase place).entryAt? place = none := by
  rw [entryAt?, if_neg inside, erase, List.find?_filter]
  refine Option.map_eq_none_iff.mpr (List.find?_eq_none.mpr ?_)
  intro item _ both
  simp only [decide_eq_true_eq, bne_iff_ne, beq_iff_eq] at both
  exact both.1 both.2

theorem entryAt?_erase_other (disk : Disk) (place other : Place) (different : other ≠ place) :
    (disk.erase place).entryAt? other = disk.entryAt? other := by
  have same : (fun item : Place × Entry => decide ((item.1 != place) = true ∧ (item.1 == other)
      = true)) = fun item => item.1 == other := by
    funext item
    simp only [bne_iff_ne, beq_iff_eq]
    by_cases found : item.1 = other
    · simp only [found, different, ne_eq, not_false_eq_true, and_self, decide_true, beq_self_eq_true]
    · simp only [found, and_false, decide_false, beq_eq_false_iff_ne.mpr found]
  rw [entryAt?, entryAt?, erase, List.find?_filter, same]

theorem entryAt?_put_same (disk : Disk) (place : Place) (entry : Entry) (inside : place ≠ []) :
    (disk.put place entry).entryAt? place = some entry := by
  rw [entryAt?, if_neg inside, put, List.find?_cons_of_pos]
  · rfl
  · exact beq_self_eq_true place

theorem put_put (disk : Disk) (place : Place) (first second : Entry) :
    (disk.put place first).put place second = disk.put place second := by
  have twice : (disk.put place first).erase place = disk.erase place := by
    rw [put, erase, List.filter_cons_of_neg (by rw [bne_self_eq_false]; exact Bool.false_ne_true),
      erase, List.filter_filter]
    simp only [Bool.and_self]
  rw [put, twice, put]

theorem entryAt?_put_other (disk : Disk) (place other : Place) (entry : Entry)
    (different : other ≠ place) :
    (disk.put place entry).entryAt? other = disk.entryAt? other := by
  rw [← entryAt?_erase_other disk place other different, entryAt?, entryAt?, put,
    List.find?_cons_of_neg]
  intro same
  exact different (beq_iff_eq.mp same).symm

/-! ### Folders -/

/-- A place is as it was, or a folder has been made there on the way to another. -/
def Keeps (folder : Place) (before after : Disk) (place : Place) : Prop :=
  after.entryAt? place = before.entryAt? place ∨
    (before.entryAt? place = none ∧ after.entryAt? place = some .folder ∧ place <+: folder)

theorem Keeps.refl (folder : Place) (disk : Disk) (place : Place) :
    Keeps folder disk disk place :=
  Or.inl rfl

private theorem makeFoldersFrom_keeps (disk : Disk) (folder : Place) (names : List String)
    (place : Place) :
    Keeps (folder ++ names) disk (disk.makeFoldersFrom folder names).2 place := by
  induction names generalizing disk folder with
  | nil => exact .refl _ disk place
  | cons name rest inductionHypothesis =>
      have longer : folder ++ [name] ++ rest = folder ++ name :: rest :=
        List.append_assoc folder [name] rest
      have onward (disk : Disk) : Keeps (folder ++ name :: rest) disk
          (disk.makeFoldersFrom (folder ++ [name]) rest).2 place := by
        rw [← longer]
        exact inductionHypothesis disk (folder ++ [name])
      rw [makeFoldersFrom]
      cases found : disk.entryAt? (folder ++ [name]) with
      | some entry =>
          cases entry with
          | folder => exact onward disk
          | file content => exact .refl _ disk place
      | none =>
          cases Disk.nameFault? name with
          | some fault => exact .refl _ disk place
          | none =>
              have kept := onward (disk.put (folder ++ [name]) .folder)
              by_cases here : place = folder ++ [name]
              · subst here
                have made := entryAt?_put_same disk (folder ++ [name]) .folder
                  (List.append_ne_nil_of_right_ne_nil folder (List.cons_ne_nil name []))
                rcases kept with same | ⟨free, _⟩
                · refine Or.inr ⟨found, same.trans made, ?_⟩
                  exact ⟨_, longer⟩
                · rw [made] at free
                  cases free
              · have untouched := entryAt?_put_other disk (folder ++ [name]) place .folder here
                rw [Keeps, untouched] at kept
                exact kept

theorem makeFolders_keeps (disk : Disk) (folder place : Place) :
    Keeps folder disk (disk.makeFolders folder).2 place := by
  rw [makeFolders]
  split
  · exact .refl folder disk place
  · exact makeFoldersFrom_keeps disk [] folder place

private theorem makeFoldersFrom_there (disk : Disk) (folder : Place) (names : List String)
    (there : disk.entryAt? folder = some .folder)
    (made : (disk.makeFoldersFrom folder names).1 = none) :
    (disk.makeFoldersFrom folder names).2.entryAt? (folder ++ names) = some .folder := by
  induction names generalizing disk folder with
  | nil =>
      rw [List.append_nil]
      exact there
  | cons name rest inductionHypothesis =>
      rw [← show folder ++ [name] ++ rest = folder ++ name :: rest from
        List.append_assoc folder [name] rest]
      rw [makeFoldersFrom] at made ⊢
      cases found : disk.entryAt? (folder ++ [name]) with
      | some entry =>
          rw [found] at made
          cases entry with
          | folder => exact inductionHypothesis disk _ found made
          | file content => cases made
      | none =>
          rw [found] at made
          cases fault : Disk.nameFault? name with
          | some fault =>
              rw [fault] at made
              cases made
          | none =>
              rw [fault] at made
              exact inductionHypothesis _ _ (entryAt?_put_same disk _ .folder
                (List.append_ne_nil_of_right_ne_nil folder (List.cons_ne_nil name []))) made

theorem makeFolders_there (disk : Disk) (folder : Place)
    (made : (disk.makeFolders folder).1 = none) :
    (disk.makeFolders folder).2.entryAt? folder = some .folder := by
  rw [makeFolders] at made ⊢
  split at made
  · cases made
  · rename_i clean
    rw [if_neg clean]
    exact makeFoldersFrom_there disk [] folder rfl made

/-! ### What is in the way of folders -/

/-- Only what stands on the way decides whether folders can be made. -/
theorem makeFoldersFrom_fault_congr {first second : Disk} {folder : Place} {names : List String}
    (agree : ∀ place, place <+: folder ++ names → first.entryAt? place = second.entryAt? place) :
    (first.makeFoldersFrom folder names).1 = (second.makeFoldersFrom folder names).1 := by
  induction names generalizing first second folder with
  | nil => rfl
  | cons name rest inductionHypothesis =>
      have longer : folder ++ [name] ++ rest = folder ++ name :: rest :=
        List.append_assoc folder [name] rest
      rw [makeFoldersFrom, makeFoldersFrom, agree (folder ++ [name]) ⟨rest, longer⟩]
      cases second.entryAt? (folder ++ [name]) with
      | some entry =>
          cases entry with
          | folder =>
              exact inductionHypothesis fun place onTheWay => agree place (longer ▸ onTheWay)
          | file content => rfl
      | none =>
          cases Disk.nameFault? name with
          | some fault => rfl
          | none =>
              refine inductionHypothesis fun place onTheWay => ?_
              by_cases here : place = folder ++ [name]
              · have inside : place ≠ [] :=
                  here ▸ List.append_ne_nil_of_right_ne_nil folder (List.cons_ne_nil name [])
                rw [← here, entryAt?_put_same _ _ _ inside, entryAt?_put_same _ _ _ inside]
              · rw [entryAt?_put_other _ _ _ _ here, entryAt?_put_other _ _ _ _ here]
                exact agree place (longer ▸ onTheWay)

theorem makeFolders_fault_congr {first second : Disk} {folder : Place}
    (agree : ∀ place, place <+: folder → first.entryAt? place = second.entryAt? place) :
    (first.makeFolders folder).1 = (second.makeFolders folder).1 := by
  rw [makeFolders, makeFolders]
  split
  · rfl
  · exact makeFoldersFrom_fault_congr agree

/-- A folder stands at a place, or one can be made there. -/
def Opens (disk : Disk) (around : Place) (name : String) : Prop :=
  disk.entryAt? (around ++ [name]) = some .folder ∨
    (disk.entryAt? (around ++ [name]) = none ∧ nameFault? name = none)

/-- Nothing is in the way of a folder, neither a file nor a name. -/
structure IsClear (disk : Disk) (folder : Place) : Prop where
  noNul : ∀ name, name ∈ folder → hasNul name = false
  opens : ∀ front name, front ++ [name] <+: folder → disk.Opens front name

private theorem forall_onTheWay_cons {name : String} {rest : List String}
    {P : List String → String → Prop} :
    (∀ front last, front ++ [last] <+: name :: rest → P front last) ↔
      P [] name ∧ ∀ front last, front ++ [last] <+: rest → P (name :: front) last := by
  constructor
  · intro all
    refine ⟨all [] name ⟨rest, rfl⟩, fun front last onTheWay => all (name :: front) last ?_⟩
    rw [List.cons_append, List.prefix_cons_inj]
    exact onTheWay
  · rintro ⟨first, later⟩ front last onTheWay
    cases front with
    | nil =>
        rw [List.nil_append, List.cons_prefix_cons] at onTheWay
        rw [onTheWay.1]
        exact first
    | cons next front =>
        rw [List.cons_append, List.cons_prefix_cons] at onTheWay
        rw [onTheWay.1]
        exact later front last onTheWay.2

private theorem opens_put {disk : Disk} {place around : Place} {name : String} {entry : Entry}
    (further : around ++ [name] ≠ place) :
    (disk.put place entry).Opens around name ↔ disk.Opens around name := by
  rw [Opens, Opens, entryAt?_put_other disk place _ entry further]

theorem makeFoldersFrom_eq_none_iff {disk : Disk} {folder : Place} {names : List String} :
    (disk.makeFoldersFrom folder names).1 = none ↔
      ∀ front name, front ++ [name] <+: names → disk.Opens (folder ++ front) name := by
  induction names generalizing disk folder with
  | nil =>
      refine iff_of_true rfl fun front name onTheWay => ?_
      exact absurd (List.prefix_nil.mp onTheWay) (List.concat_ne_nil name front)
  | cons name rest inductionHypothesis =>
      have onward (disk : Disk) : (disk.makeFoldersFrom (folder ++ [name]) rest).1 = none ↔
          ∀ front last, front ++ [last] <+: rest → disk.Opens (folder ++ name :: front) last := by
        simpa using @inductionHypothesis disk (folder ++ [name])
      rw [forall_onTheWay_cons, List.append_nil, makeFoldersFrom]
      cases found : disk.entryAt? (folder ++ [name]) with
      | some entry =>
          cases entry with
          | folder =>
              have first : disk.Opens folder name := Or.inl found
              exact (onward disk).trans (and_iff_right first).symm
          | file content => simp [Opens, found]
      | none =>
          cases sound : nameFault? name with
          | some fault => simp [Opens, found, sound]
          | none =>
              have first : disk.Opens folder name := Or.inr ⟨found, sound⟩
              have deeper (front : List String) (last : String) :
                  folder ++ name :: front ++ [last] ≠ folder ++ [name] := by
                intro same
                have lengths := congrArg List.length same
                simp at lengths
              refine (onward _).trans ?_
              simp only [opens_put (deeper _ _), first, true_and]

theorem makeFolders_eq_none_iff {disk : Disk} {folder : Place} :
    (disk.makeFolders folder).1 = none ↔ disk.IsClear folder := by
  rw [makeFolders]
  by_cases nul : folder.any hasNul = true
  · rw [if_pos nul]
    refine iff_of_false (fun told => by cases told) fun clear => ?_
    obtain ⟨name, inside, holds⟩ := List.any_eq_true.mp nul
    rw [clear.noNul name inside] at holds
    cases holds
  · rw [if_neg nul, makeFoldersFrom_eq_none_iff]
    have noNul : ∀ name, name ∈ folder → hasNul name = false := by simpa using nul
    exact ⟨fun opens => ⟨noNul, opens⟩, IsClear.opens⟩

/-- Folders that have been made do not change what is in the way of the others. -/
theorem makeFoldersFrom_fault_again (disk : Disk) (folder : Place) (names : List String) :
    ((disk.makeFoldersFrom folder names).2.makeFoldersFrom folder names).1
      = (disk.makeFoldersFrom folder names).1 := by
  induction names generalizing disk folder with
  | nil => rfl
  | cons name rest inductionHypothesis =>
      have onward (made : Disk) (there : made.entryAt? (folder ++ [name]) = some .folder) :
          ((made.makeFoldersFrom (folder ++ [name]) rest).2.makeFoldersFrom folder
              (name :: rest)).1
            = (made.makeFoldersFrom (folder ++ [name]) rest).1 := by
        have still : (made.makeFoldersFrom (folder ++ [name]) rest).2.entryAt? (folder ++ [name])
            = some .folder := by
          rcases makeFoldersFrom_keeps made (folder ++ [name]) rest (folder ++ [name]) with
            same | ⟨_, made, _⟩
          · exact same.trans there
          · exact made
        rw [makeFoldersFrom, still]
        exact inductionHypothesis made (folder ++ [name])
      cases found : disk.entryAt? (folder ++ [name]) with
      | some entry =>
          cases entry with
          | folder =>
              have made : disk.makeFoldersFrom folder (name :: rest)
                  = disk.makeFoldersFrom (folder ++ [name]) rest := by
                rw [makeFoldersFrom, found]
              rw [made]
              exact onward disk found
          | file content =>
              have stopped : (disk.makeFoldersFrom folder (name :: rest)).2 = disk := by
                rw [makeFoldersFrom, found]
              rw [stopped]
      | none =>
          cases sound : Disk.nameFault? name with
          | some fault =>
              have stopped : (disk.makeFoldersFrom folder (name :: rest)).2 = disk := by
                rw [makeFoldersFrom, found, sound]
              rw [stopped]
          | none =>
              have made : disk.makeFoldersFrom folder (name :: rest)
                  = (disk.put (folder ++ [name]) .folder).makeFoldersFrom (folder ++ [name]) rest := by
                rw [makeFoldersFrom, found, sound]
              rw [made]
              exact onward _ (entryAt?_put_same disk _ .folder
                (List.append_ne_nil_of_right_ne_nil folder (List.cons_ne_nil name [])))

theorem makeFolders_fault_again (disk : Disk) (folder : Place) :
    ((disk.makeFolders folder).2.makeFolders folder).1 = (disk.makeFolders folder).1 := by
  rw [makeFolders]
  split
  · rename_i nul
    rw [makeFolders, if_pos nul]
  · rename_i clean
    rw [makeFolders, if_neg clean]
    exact makeFoldersFrom_fault_again disk [] folder

end RemoteQuery.Disk
