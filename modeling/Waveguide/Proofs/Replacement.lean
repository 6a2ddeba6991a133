import Mathlib
import Waveguide.FileTree

/-!
Replacing a file is all or nothing: whichever steps the disk refuses, either the tree is left exactly
as it was, or the one place the path leads to holds the whole text and no other place has changed.
-/

namespace Waveguide.FileTree

variable {tree : FileTree} {disk : Disk} {place other : List String}

theorem lookup_overwritten (entries : List (List String × Entry)) (place other : List String)
    (entry : Entry) :
    (entries.map fun old => if old.1 = place then (place, entry) else old).lookup other =
      if other = place then (entries.lookup place).map fun _ => entry else entries.lookup other := by
  induction entries with
  | nil => simp
  | cons old entries ih =>
      obtain ⟨name, content⟩ := old
      by_cases here : name = place
      · subst here
        by_cases same : other = name
        · simp [same]
        · simp [same, ih, List.lookup_cons, beq_false_of_ne same]
      · by_cases same : other = name
        · subst same
          simp [here]
        · by_cases wanted : other = place
          · subst wanted
            simp [here, ih, List.lookup_cons, beq_false_of_ne same]
          · simp [here, wanted, ih, List.lookup_cons, beq_false_of_ne same]

theorem find?_put (inside : place ≠ []) (text : String) (other : List String) :
    (tree.put place text).find? other =
      if other = place then some (.file text) else tree.find? other := by
  have named : place.isEmpty = false := List.isEmpty_eq_false_iff.mpr inside
  by_cases top : other = []
  · subst top
    simp [find?, inside.symm]
  · have below : other.isEmpty = false := List.isEmpty_eq_false_iff.mpr top
    simp only [put, find?, named, below, Bool.false_eq_true, if_false]
    split
    · rename_i taken
      obtain ⟨old, found⟩ := Option.isSome_iff_exists.mp taken
      simp [lookup_overwritten, found]
    · rename_i free
      rw [Option.not_isSome_iff_eq_none] at free
      rw [List.lookup_append]
      by_cases same : other = place
      · simp [same, free]
      · simp [same, List.lookup_cons, beq_false_of_ne same]

theorem put_of_new (new : tree.find? place = none) (text : String) :
    tree.put place text = ⟨tree.entries ++ [(place, .file text)]⟩ := by
  simp [put, new]

theorem ne_of_new (new : tree.find? place = none) {entry : List String × Entry}
    (member : entry ∈ tree.entries) : entry.1 ≠ place := by
  rintro rfl
  unfold find? at new
  split at new
  · contradiction
  · exact absurd (List.lookup_eq_none_iff.mp new entry member) (by simp)

theorem inside_of_new (new : tree.find? place = none) : place ≠ [] := by
  rintro rfl
  contradiction

theorem put_put_of_new (new : tree.find? place = none) (first second : String) :
    (tree.put place first).put place second = tree.put place second := by
  have found : (tree.put place first).find? place = some (.file first) := by
    rw [find?_put (inside_of_new new), if_pos rfl]
  have untouched : ∀ entry ∈ tree.entries,
      (if entry.1 = place then (place, Entry.file second) else entry) = entry := fun entry member =>
    if_neg (ne_of_new new member)
  rw [put, found, put_of_new new, put_of_new new]
  simp [List.map_congr_left untouched]

theorem remove_put_of_new (new : tree.find? place = none) (text : String) :
    (tree.put place text).remove place = tree := by
  have kept : tree.entries.filter (fun entry => entry.1 != place) = tree.entries :=
    List.filter_eq_self.mpr fun entry member => by simpa using ne_of_new new member
  rw [put_of_new new, remove]
  simp [kept]

theorem isDirectory_put_of_new (new : tree.find? place = none) (text : String)
    (other : List String) : (tree.put place text).isDirectory other = tree.isDirectory other := by
  rw [isDirectory, find?_put (inside_of_new new)]
  split
  · rename_i same
    rw [same, isDirectory, new]
    rfl
  · rfl

theorem locate_congr {first second : FileTree} (same : first.isDirectory = second.isDirectory)
    (disk : Disk) (path : String) : first.locate disk path = second.locate disk path := by
  have entered : first.enter disk = second.enter disk := by
    funext place name
    simp only [enter, same]
  simp only [locate, entered]

theorem target?_congr {first second : FileTree} (same : first.isDirectory = second.isDirectory)
    (disk : Disk) (path : String) : first.target? disk path = second.target? disk path := by
  simp only [target?, locate_congr same, same]

theorem inside_of_target {path : String} (found : tree.target? disk path = some place) :
    place ≠ [] := by
  rintro rfl
  simp [target?, Option.bind_eq_some_iff, isDirectory, find?] at found

def fresh (tree : FileTree) (disk : Disk) (home : List String) : List String :=
  home ++ [disk.temporaryName tree home]

theorem createFresh?_eq_some {directory : String} {created : FileTree} :
    tree.createFresh? disk directory = some (created, place) ↔
      ∃ home, tree.locate disk directory = some home ∧ tree.isDirectory home = true ∧
        tree.fresh disk home = place ∧ tree.find? place = none ∧
        disk.refuses tree (.create place) = false ∧ tree.put place "" = created := by
  simp only [createFresh?, Option.bind_eq_bind, Option.bind_eq_some_iff]
  refine exists_congr fun home => and_congr_right fun _ => ?_
  rw [← fresh]
  constructor
  · intro made
    split at made
    · rename_i allowed
      simp only [Option.some.injEq, Prod.mk.injEq] at made
      obtain ⟨rfl, rfl⟩ := made
      simp_all
    · contradiction
  · rintro ⟨directory, rfl, free, created, rfl⟩
    simp [directory, free, created]

theorem rename?_put {text : String} (new : tree.find? place = none) (disk : Disk) (path : String) :
    (tree.put place text).rename? disk place path =
      (tree.target? disk path).bind fun target =>
        if disk.refuses (tree.put place text) (.rename place target) then none
        else some (tree.put target text) := by
  have found : (tree.put place text).find? place = some (.file text) := by
    rw [find?_put (inside_of_new new), if_pos rfl]
  simp only [rename?, found, remove_put_of_new new,
    target?_congr (funext (isDirectory_put_of_new new text))]
  cases tree.target? disk path with
  | none => rfl
  | some target =>
      simp only [Option.bind_eq_bind, Option.bind_some]
      split <;> rfl

/-- What it takes to replace the file at a path: a directory in which the new file can be made, space
for the whole text, and a place that the new file can take. -/
structure Writable (tree : FileTree) (disk : Disk) (path text : String)
    (home place : List String) : Prop where
  located : tree.locate disk (Path.home path) = some home
  directory : tree.isDirectory home = true
  free : tree.find? (tree.fresh disk home) = none
  created : disk.refuses tree (.create (tree.fresh disk home)) = false
  whole : disk.brokenOff? (tree.put (tree.fresh disk home) "") text = none
  target : tree.target? disk path = some place
  renamed : disk.refuses (tree.put (tree.fresh disk home) text)
    (.rename (tree.fresh disk home) place) = false

theorem Writable.replaceOn {path text : String} {home : List String}
    (writable : tree.Writable disk path text home place) :
    replaceOn disk tree path text = (tree.put place text, true) := by
  have made := createFresh?_eq_some.mpr ⟨home, writable.located, writable.directory, rfl,
    writable.free, writable.created, rfl⟩
  simp [FileTree.replaceOn, made, fill, writable.whole, put_put_of_new writable.free,
    rename?_put writable.free, writable.target, writable.renamed]

theorem replaceOn_cases (disk : Disk) (tree : FileTree) (path text : String) :
    (∃ home place, tree.Writable disk path text home place) ∨
      (∀ home place, ¬ tree.Writable disk path text home place) ∧
        replaceOn disk tree path text = (tree, false) := by
  by_cases able : ∃ home place, tree.Writable disk path text home place
  · exact .inl able
  refine .inr ⟨fun home place writable => able ⟨home, place, writable⟩, ?_⟩
  unfold replaceOn
  cases made : tree.createFresh? disk (Path.home path) with
  | none => rfl
  | some result =>
      obtain ⟨_, _⟩ := result
      obtain ⟨home, located, directory, rfl, free, created, rfl⟩ := createFresh?_eq_some.mp made
      cases whole : disk.brokenOff? (tree.put (tree.fresh disk home) "") text with
      | some part => simp [fill, whole, put_put_of_new free, remove_put_of_new free]
      | none =>
          simp only [fill, whole, put_put_of_new free, rename?_put free]
          cases target : tree.target? disk path with
          | none => simp [remove_put_of_new free]
          | some place =>
              by_cases renamed : disk.refuses (tree.put (tree.fresh disk home) text)
                  (.rename (tree.fresh disk home) place) = true
              · simp [renamed, remove_put_of_new free]
              · exact absurd ⟨home, place, located, directory, free, created, whole, target,
                  by simpa using renamed⟩ able

theorem taken_of_freshName (tree : FileTree) (directory : List String) (count : Nat)
    (bound : count ≤ tree.entries.length)
    (taken : (tree.find? (directory ++ [tree.freshName directory count])).isSome = true) :
    ∀ number, tree.entries.length - count ≤ number → number ≤ tree.entries.length →
      (tree.find? (directory ++ [".tmp" ++ Nat.repr number])).isSome = true := by
  induction count with
  | zero =>
      intro number above below
      obtain rfl : number = tree.entries.length := by omega
      exact taken
  | succ count ih =>
      intro number above below
      simp only [freshName] at taken
      split at taken
      · rename_i first
        by_cases here : number = tree.entries.length - count - 1
        · rw [here]
          exact first
        · exact ih (by omega) taken number (by omega) below
      · rename_i free
        exact absurd taken free

theorem mem_of_found (inside : place ≠ []) (found : (tree.find? place).isSome = true) :
    place ∈ tree.entries.map Prod.fst := by
  rw [find?, if_neg (by simpa using inside)] at found
  by_contra absent
  have missing : tree.entries.lookup place = none :=
    List.lookup_eq_none_iff.mpr fun entry member => by
      simpa using fun same : place = entry.1 => absent (same ▸ List.mem_map_of_mem member)
  rw [missing] at found
  contradiction

theorem freshName_free (tree : FileTree) (directory : List String) :
    tree.find? (directory ++ [tree.freshName directory tree.entries.length]) = none := by
  by_contra taken
  have all := taken_of_freshName tree directory _ le_rfl (Option.isSome_iff_ne_none.mpr taken)
  let name (number : Nat) : List String := directory ++ [".tmp" ++ Nat.repr number]
  have different : Function.Injective name := by
    intro first second same
    simpa [name, Nat.repr_inj] using same
  have listed : ((Finset.range (tree.entries.length + 1)).image name) ⊆
      (tree.entries.map Prod.fst).toFinset := by
    intro place member
    obtain ⟨number, within, rfl⟩ := Finset.mem_image.mp member
    rw [List.mem_toFinset]
    exact mem_of_found (by simp [name]) (all number (by omega) (by simpa using within))
  have more := Finset.card_le_card listed
  rw [Finset.card_image_of_injective _ different, Finset.card_range] at more
  have fewer := (tree.entries.map Prod.fst).toFinset_card_le
  rw [List.length_map] at fewer
  omega

theorem writable_of_target {path : String} {home : List String}
    (located : tree.locate .plain (Path.home path) = some home)
    (isDirectory : tree.isDirectory home = true)
    (target : tree.target? .plain path = some place) (text : String) :
    tree.Writable .plain path text home place where
  located := located
  directory := isDirectory
  free := freshName_free tree home
  created := rfl
  whole := rfl
  target := target
  renamed := rfl

/-- On a disk that fills up, the part of the text that was written is gone with the new file. -/
example :
    let full : Disk := { Disk.plain with brokenOff? := fun _ _ => some "new" }
    let tree : FileTree := ⟨[(["out.ctl"], .file "old")]⟩
    replaceOn full tree "out.ctl" "new text" = (tree, false) ∧
      tree.replace "out.ctl" "new text" = (⟨[(["out.ctl"], .file "new text")]⟩, true) := by
  decide +kernel

end Waveguide.FileTree
