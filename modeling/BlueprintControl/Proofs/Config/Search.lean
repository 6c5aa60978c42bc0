import BlueprintControl.CommandLine.Host
import BlueprintControl.Proofs.Files.Walks

/-!
# The nearest settings

The search for the file with the settings climbs from a folder to the root. In every folder the
names are tried in order of preference, before the folder above is visited: so a nearer file is
taken before a preferred name, and a preferred name within one folder.

What is found is told by what a tree holds at the places up to the root, whether or not there are
folders at all of these places.

## Main definitions

* `Settings.Chosen`: the name under which a folder holds the settings.
* `Settings.Nearest`: the nearest folder that holds settings.
* `Settings.Finds`: what a search has to answer.

## Main statements

* `Settings.find?_folders`: what is found as the places are climbed.
* `Settings.find_nearest`: the search answers as it has to.
-/
namespace BlueprintControl.Settings

variable {t : Tree} {place : List String} {folder : String} {folders : List String}

/-! ## One folder -/

theorem isName_of_mem_fileNames {name : String} (h : name ∈ fileNames) : Path.IsName name := by
  obtain rfl | rfl : name = "blueprint-operator.yaml" ∨ name = "blueprint-operator.yml" := by
    simpa [fileNames] using h
  · exact ⟨by decide, by decide, by decide, by decide⟩
  · exact ⟨by decide, by decide, by decide, by decide⟩

/-- There are no settings in the folder at this place. -/
def Absent (t : Tree) (place : List String) : Prop := ∀ name ∈ fileNames, ¬ t.Holds place name

/-- The folder at this place holds the settings under this name, and not under a preferred one. -/
structure Chosen (t : Tree) (place : List String) (name : String) : Prop where
  known : name ∈ fileNames
  holds : t.Holds place name
  preferred : name = "blueprint-operator.yml" → ¬ t.Holds place "blueprint-operator.yaml"

/-- In a folder the names are tried in order. -/
theorem find?_folder (t : Tree) (here : List String) (h : Path.IsPlain folder) :
    match (fileNames.map (Path.join folder)).find? fun path => (t.look here path).exists? with
    | some path => ∃ name, Chosen t (Path.place folder) name ∧ path = Path.join folder name
    | none => Absent t (Path.place folder) := by
  have hheld : ∀ name ∈ fileNames, (t.look here (Path.join folder name)).exists? = true ↔
      t.Holds (Path.place folder) name := fun name hname =>
    Tree.exists_look_join_iff h (isName_of_mem_fileNames hname)
  have hyaml := hheld "blueprint-operator.yaml" (by decide)
  have hyml := hheld "blueprint-operator.yml" (by decide)
  simp only [fileNames, List.map_cons, List.map_nil, List.find?_cons, List.find?_nil]
  cases hfirst : (t.look here (Path.join folder "blueprint-operator.yaml")).exists? with
  | true =>
    rw [hfirst] at hyaml
    exact ⟨"blueprint-operator.yaml",
      ⟨by decide, hyaml.mp rfl, fun hother => absurd hother (by decide)⟩, rfl⟩
  | false =>
    have hnone : ¬ t.Holds (Path.place folder) "blueprint-operator.yaml" := by
      rw [← hyaml, hfirst]
      exact Bool.false_ne_true
    cases hsecond : (t.look here (Path.join folder "blueprint-operator.yml")).exists? with
    | true =>
      rw [hsecond] at hyml
      exact ⟨"blueprint-operator.yml", ⟨by decide, hyml.mp rfl, fun _ => hnone⟩, rfl⟩
    | false =>
      have hnone' : ¬ t.Holds (Path.place folder) "blueprint-operator.yml" := by
        rw [← hyml, hsecond]
        exact Bool.false_ne_true
      exact List.forall_mem_cons.mpr ⟨hnone, List.forall_mem_singleton.mpr hnone'⟩

/-! ## Climbing -/

/-- The settings are under this name in the nearest folder that holds any, at a place or above. -/
structure Nearest (t : Tree) (place dir : List String) (name : String) : Prop
    extends Chosen t dir name where
  above : dir <:+ place
  nearest : ∀ nearer, nearer <:+ place → dir.length < nearer.length → Absent t nearer

theorem Chosen.nearest {name : String} (h : Chosen t place name) : Nearest t place place name :=
  ⟨h, List.suffix_refl place, fun _ hnearer hlength =>
    absurd hnearer.length_le (Nat.not_le_of_lt hlength)⟩

/-- Without settings at a place the nearest are those that are nearest to the place above. -/
theorem Nearest.below {dir : List String} {name inner : String} (h : Nearest t place dir name)
    (hnone : Absent t (inner :: place)) : Nearest t (inner :: place) dir name := by
  refine ⟨h.toChosen, h.above.trans (List.suffix_cons inner place), ?_⟩
  intro nearer hnearer hlength
  rcases List.suffix_cons_iff.mp hnearer with rfl | hnearer
  · exact hnone
  · exact h.nearest nearer hnearer hlength

/-- The induction climbs along the folders. Each step visits one of them, and the rest leads to the
place above and to those above it. -/
theorem find?_folders (t : Tree) (here : List String)
    (hplain : ∀ folder ∈ folders, Path.IsPlain folder)
    (hplaces : folders.map Path.place = place.tails) :
    match (folders.flatMap fun folder => fileNames.map (Path.join folder)).find?
        fun path => (t.look here path).exists? with
    | some path => ∃ folder ∈ folders, ∃ name,
        Nearest t place (Path.place folder) name ∧ path = Path.join folder name
    | none => ∀ dir, dir <:+ place → Absent t dir := by
  induction folders generalizing place with
  | nil => cases place <;> cases hplaces
  | cons folder rest ih =>
    obtain ⟨hfolder, hrest⟩ := List.forall_mem_cons.mp hplain
    have hplace : Path.place folder = place := by
      cases place <;> exact (List.cons.inj hplaces).1
    have hhere := find?_folder t here hfolder
    rw [List.flatMap_cons, List.find?_append]
    cases hfound : (fileNames.map (Path.join folder)).find?
        fun path => (t.look here path).exists? with
    | some path =>
      rw [hfound, hplace] at hhere
      obtain ⟨name, hchosen, rfl⟩ := hhere
      exact ⟨folder, List.mem_cons_self, name, hplace ▸ hchosen.nearest, rfl⟩
    | none =>
      rw [hfound, hplace] at hhere
      rw [Option.none_or]
      cases place with
      | nil =>
        obtain rfl : rest = [] := List.map_eq_nil_iff.mp (List.cons.inj hplaces).2
        exact fun dir hdir => List.suffix_nil.mp hdir ▸ hhere
      | cons inner above =>
        have hclimb := ih hrest (List.cons.inj hplaces).2
        cases hhigher : (rest.flatMap fun folder => fileNames.map (Path.join folder)).find?
            fun path => (t.look here path).exists? with
        | some path =>
          rw [hhigher] at hclimb
          obtain ⟨dir, hdir, name, hnearest, rfl⟩ := hclimb
          exact ⟨dir, List.mem_cons_of_mem _ hdir, name, hnearest.below hhere, rfl⟩
        | none =>
          rw [hhigher] at hclimb
          intro dir hdir
          rcases List.suffix_cons_iff.mp hdir with rfl | hdir
          · exact hhere
          · exact hclimb dir hdir

/-! ## The search -/

/-- On a host in memory paths are looked at one after the other, and nothing else happens. -/
theorem run_firstExisting (sb : Sandbox) (paths : List String) :
    (firstExisting Sandbox.host.look paths).run sb
      = (paths.find? fun path => (sb.tree.look sb.folder path).exists?, sb) := by
  induction paths with
  | nil => rfl
  | cons path rest ih =>
    have hlook : (Sandbox.host.look path).run sb = (sb.tree.look sb.folder path, sb) := rfl
    rw [firstExisting, StateT.run_bind, hlook, List.find?_cons]
    change (if _ then pure (some path) else firstExisting Sandbox.host.look rest).run sb = _
    cases hexists : (sb.tree.look sb.folder path).exists? with
    | true => rfl
    | false => exact ih

theorem run_find (sb : Sandbox) (start : String) :
    (find Sandbox.host.look start).run sb
      = (match (candidates start).find? fun path => (sb.tree.look sb.folder path).exists? with
        | some path => .ok path
        | none => .error (.fileNotFound (Path.join start "blueprint-operator.yaml")), sb) := by
  rw [find, StateT.run_bind, run_firstExisting]
  cases (candidates start).find? fun path => (sb.tree.look sb.folder path).exists? <;> rfl

/-- What a search from a path has to answer in a tree. A path that is found leads to the settings
that are nearest to the start; a search fails exactly if there are none at any place up to the root,
and then it names what was wanted most. -/
structure Finds (t : Tree) (start : String) (found : Except ConfigFailure String) : Prop where
  nearest : ∀ path, found = .ok path → ∃ folder name,
    Nearest t (Path.place start) (Path.place folder) name ∧ folder.toList <+: start.toList ∧
    path = Path.join folder name ∧ Path.IsPlain path ∧
    Path.place path = name :: Path.place folder ∧
    ∀ here, t.look here path = .ofItem? (t.find? (Path.place path))
  fails_iff : (∃ failure, found = .error failure) ↔
    ∀ dir, dir <:+ Path.place start → Absent t dir
  failure : ∀ failure, found = .error failure →
    failure = .fileNotFound (Path.join start "blueprint-operator.yaml")

/-- **The nearest settings are found.** In every tree the search comes to an end from every absolute
path without dots that stand for a place. It finds the settings in the nearest folder that holds any,
the start itself or one above up to the root, and there those with the preferred name; and it fails
exactly if no such folder holds any. -/
theorem find_nearest (sb : Sandbox) {start : String} (h : Path.IsPlain start) :
    ∃ found, (find Sandbox.host.look start).run sb = (found, sb) ∧ Finds sb.tree start found := by
  have hsearch := find?_folders sb.tree sb.folder
    (fun _ => Path.isPlain_of_mem_ancestors h) (Path.map_place_ancestors h)
  refine ⟨_, run_find sb start, ?_⟩
  cases hfound : (candidates start).find? fun path => (sb.tree.look sb.folder path).exists? with
  | some path =>
    rw [candidates] at hfound
    rw [hfound] at hsearch
    obtain ⟨folder, hfolder, name, hnearest, rfl⟩ := hsearch
    have hplain := Path.isPlain_of_mem_ancestors h hfolder
    have hname := isName_of_mem_fileNames hnearest.known
    have hplace := Path.place_join hplain hname
    refine ⟨?nearest, ?fails, fun _ heq => nomatch heq⟩
    case nearest =>
      intro path heq
      cases heq
      refine ⟨folder, name, hnearest, Path.prefix_of_mem_ancestors hfolder, rfl,
        hplain.join hname, hplace, fun here => ?_⟩
      rw [hplace]
      exact Tree.look_join hplain hname hnearest.holds
    case fails =>
      refine ⟨fun ⟨_, heq⟩ => (nomatch heq), fun habsent => ?_⟩
      exact absurd hnearest.holds (habsent _ hnearest.above name hnearest.known)
  | none =>
    rw [candidates] at hfound
    rw [hfound] at hsearch
    refine ⟨fun _ heq => (nomatch heq), ⟨fun _ => hsearch, fun _ => ⟨_, rfl⟩⟩, ?failure⟩
    case failure =>
      intro failure heq
      cases heq
      rfl

/-- At the root there are settings under the preferred name, and nearer ones under the other. -/
theorem find_nearest_of_nested :
    let t : Tree := ⟨[(["a"], .folder), (["b", "a"], .folder),
      (["blueprint-operator.yml", "a"], .file ⟨#[]⟩), (["blueprint-operator.yaml"], .file ⟨#[]⟩)]⟩
    let sb : Sandbox := ⟨t, [], [], fun _ => .smooth default fun _ => default, 0⟩
    Path.IsPlain "/a//b" ∧ Finds t "/a//b" (.ok "/a/blueprint-operator.yml") ∧
      (find Sandbox.host.look "/a//b").run sb = (.ok "/a/blueprint-operator.yml", sb) := by
  intro t sb
  have hnames : Tree.names "/a//b" = ["", "a", "", "b"] := by
    rw [Tree.names_eq]
    decide
  have hplain : Path.IsPlain "/a//b" := ⟨by decide +kernel, by simp [hnames], by simp [hnames]⟩
  have hcandidates : candidates "/a//b" = ["/a//b/blueprint-operator.yaml",
      "/a//b/blueprint-operator.yml", "/a/blueprint-operator.yaml", "/a/blueprint-operator.yml",
      "/blueprint-operator.yaml", "/blueprint-operator.yml"] := by decide +kernel
  have hfound : ((candidates "/a//b").find? fun path => (t.look [] path).exists?)
      = some "/a/blueprint-operator.yml" := by
    rw [hcandidates]
    simp only [t, Tree.look, Tree.locate, Tree.names_eq]
    decide +kernel
  have hrun : (find Sandbox.host.look "/a//b").run sb
      = (.ok "/a/blueprint-operator.yml", sb) := by rw [run_find, hfound]
  obtain ⟨found, hrun', hfinds⟩ := find_nearest sb hplain
  obtain rfl : found = .ok "/a/blueprint-operator.yml" :=
    (Prod.mk.inj (hrun'.symm.trans hrun)).1
  exact ⟨hplain, hfinds, hrun⟩

end BlueprintControl.Settings
