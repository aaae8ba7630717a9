import ContentQuery.Proofs.Repository.Growth
import ContentQuery.Proofs.Repository.Landing

/-!
# What a listing creates

The nodes of a listing are added one after the other where they land, and the properties of each are
set at its own path. Where all paths of the listing are stable, which means that nodes land at their
own paths, everything is created as it is listed; and where everything is, all paths are stable.
-/

namespace ContentQuery

/-! ### Listings -/

/-- The normal form of the path of a listed node. -/
def NodeSpec.target? (spec : NodeSpec) : Option String := (Path.normalize spec.path).toOption

namespace Listing

/-- The values that properties set for a name, in order. -/
def valuesIn (properties : Properties) (name : String) : List Value :=
  properties.filterMap fun property =>
    if Property.storedName property.1 = name then some property.2 else none

/-- The values that a listing sets for a name at a path, in order. -/
def valuesOf (specs : List NodeSpec) (path name : String) : List Value :=
  specs.flatMap fun spec =>
    if spec.target? = some path then valuesIn spec.properties name else []

/-- The paths of a listing, other than the root. -/
def targets (specs : List NodeSpec) : List String :=
  (specs.filterMap NodeSpec.target?).filter (· ≠ Path.root)

/-- Where the nodes of a listing land. -/
def landings (specs : List NodeSpec) : List String := (targets specs).map Path.landing

variable {spec : NodeSpec} {path : String}

/-- The normal form of a path is the target. -/
theorem target?_eq_some_iff :
    spec.target? = some path ↔ Path.normalize spec.path = .ok path := by
  rw [NodeSpec.target?]
  cases Path.normalize spec.path <;> simp [Except.toOption]

/-- The values that a single node sets are set at its path. -/
theorem valuesOf_singleton (h : Path.normalize spec.path = .ok path) (other name : String) :
    valuesOf [spec] other name = if path = other then valuesIn spec.properties name else [] := by
  simp [valuesOf, target?_eq_some_iff.mpr h]

/-- A single node lands once, unless it is the root. -/
theorem landings_singleton (h : Path.normalize spec.path = .ok path) :
    landings [spec] = if path = Path.root then [] else [Path.landing path] := by
  by_cases hroot : path = Path.root <;>
    simp [landings, targets, target?_eq_some_iff.mpr h, hroot]

/-- The paths of a listing are normal forms of paths that are listed. -/
theorem mem_targets_iff {specs : List NodeSpec} :
    path ∈ targets specs ↔
      (∃ spec ∈ specs, Path.normalize spec.path = .ok path) ∧ path ≠ Path.root := by
  simp [targets, target?_eq_some_iff]

/-- The paths of a listing begin with a slash. -/
theorem head?_of_mem_targets {specs : List NodeSpec} (h : path ∈ targets specs) :
    path.toList.head? = some '/' := by
  obtain ⟨⟨spec, -, hnormal⟩, -⟩ := mem_targets_iff.mp h
  exact (Path.isScope_of_normalize hnormal).absolute

/-- Two listings have the landings of the one and of the other. -/
theorem landings_append (specs more : List NodeSpec) :
    landings (specs ++ more) = landings specs ++ landings more := by
  simp [landings, targets]

end Listing

namespace Store

open Listing

variable {store next last : Store} {path name : String}

/-! ### Runs -/

/-- Properties that are set one by one leave the paths, and every name has the last value. -/
theorem setAll_ok {properties : Properties}
    (h : setAll set store path properties = (next, .ok ())) :
    store.GrowsTo next ∧ next.paths = store.paths ∧ ∀ other name,
      next.value? other name =
        (if path = other then valuesIn properties name else []).getLast?.or
          (store.value? other name) := by
  induction properties generalizing store with
  | nil =>
    cases h
    exact ⟨.refl _, rfl, fun other name => by simp [valuesIn]⟩
  | cons property rest ih =>
    obtain ⟨name, value⟩ := property
    rw [setAll] at h
    cases hset : store.set path name value with
    | error e => simp [hset] at h
    | ok mid =>
      rw [hset] at h
      obtain ⟨hgrows, hpaths, hvalues⟩ := ih h
      refine ⟨(growsTo_of_set hset).trans hgrows, hpaths.trans (paths_of_set hset),
        fun other property => ?_⟩
      rw [hvalues, value?_of_set hset]
      by_cases hpath : path = other
      · by_cases hname : Property.storedName name = property
        · simp [valuesIn, hpath, hname, List.getLast?_cons]
        · simp [valuesIn, hpath, hname]
      · simp [hpath]

/-- A node that is described is added where it lands, unless it is the root. -/
theorem addSpec_ok {primaryType : Option String} (h : store.WellFormed)
    (hadd : addSpec add store path primaryType = .ok next) :
    (path = Path.root ∧ next = store) ∨
      (path ≠ Path.root ∧ ∃ base, Path.normalize (Path.parent path) = .ok base ∧
        store.Added next base (Path.landing path) (primaryType.getD unstructured)) := by
  rw [addSpec] at hadd
  split at hadd
  · next hroot =>
    cases hadd
    exact .inl ⟨by simpa [Path.isRoot] using hroot, rfl⟩
  · next hroot =>
    obtain ⟨⟨added, mid⟩, hnew, rfl⟩ := Result.map_eq_ok.mp hadd
    obtain ⟨base, hbase, rfl, hadded⟩ := added_of_add h hnew
    rw [Path.child_of_normalize_parent hbase] at hadded
    exact .inr ⟨by simpa [Path.isRoot] using hroot, base, hbase, hadded⟩

/-- What a store is after a listing was loaded, wherever its nodes landed. -/
structure Loaded (store next : Store) (specs : List NodeSpec) : Prop where
  normal : ∀ spec ∈ specs, ∃ path, Path.normalize spec.path = .ok path
  grows : store.GrowsTo next
  paths : next.paths = store.paths ∪ {path | path ∈ landings specs}
  fresh : ∀ path ∈ landings specs, path ∉ store.paths
  distinct : (landings specs).Nodup
  values : ∀ path name,
    next.value? path name = (valuesOf specs path name).getLast?.or (store.value? path name)
  created : ∀ spec ∈ specs, ∀ path, Path.normalize spec.path = .ok path → path ≠ Path.root →
    Path.Stable path → next.HasNode path (spec.primaryType.getD unstructured)

/-- Nothing is loaded with an empty listing. -/
theorem Loaded.nil (store : Store) : store.Loaded store [] where
  normal := nofun
  grows := .refl store
  paths := by simp [landings, targets]
  fresh := nofun
  distinct := .nil
  values := fun path name => by simp [valuesOf]
  created := nofun

/-- Two listings are loaded one after the other. -/
theorem Loaded.append {specs more : List NodeSpec} (h : store.Loaded next specs)
    (hnext : next.Loaded last more) : store.Loaded last (specs ++ more) where
  normal := fun spec hspec => (List.mem_append.mp hspec).elim (h.normal spec) (hnext.normal spec)
  grows := h.grows.trans hnext.grows
  paths := by
    rw [hnext.paths, h.paths, landings_append]
    ext path
    simp [or_assoc]
  fresh := by
    intro path hpath hstored
    rw [landings_append, List.mem_append] at hpath
    rcases hpath with hpath | hpath
    · exact h.fresh path hpath hstored
    · exact hnext.fresh path hpath (h.paths ▸ .inl hstored)
  distinct := by
    rw [landings_append]
    refine h.distinct.append hnext.distinct fun path hpath hmore => ?_
    exact hnext.fresh path hmore (h.paths ▸ .inr hpath)
  values := by
    intro path name
    rw [hnext.values, h.values, valuesOf, valuesOf, valuesOf, List.flatMap_append,
      List.getLast?_append, Option.or_assoc]
  created := by
    intro spec hspec path hpath hroot hstable
    rcases List.mem_append.mp hspec with hspec | hspec
    · exact hnext.grows.hasNode (h.created spec hspec path hpath hroot hstable)
    · exact hnext.created spec hspec path hpath hroot hstable

/-- The root is loaded: only its properties are set. -/
theorem loaded_of_root {spec : NodeSpec} (hpath : Path.normalize spec.path = .ok Path.root)
    (hset : setAll set store Path.root spec.properties = (next, .ok ())) :
    store.Loaded next [spec] := by
  obtain ⟨hgrows, hpaths, hvalues⟩ := setAll_ok hset
  have hlandings : landings [spec] = [] := by rw [landings_singleton hpath, if_pos rfl]
  exact {
    normal := by simp [hpath]
    grows := hgrows
    paths := by simp [hpaths, hlandings]
    fresh := by simp [hlandings]
    distinct := by simp [hlandings]
    values := fun other name => by rw [hvalues, valuesOf_singleton hpath]
    created := by
      intro other hother target hnormal hne
      obtain rfl := List.mem_singleton.mp hother
      exact absurd (Except.ok.inj (hpath.symm.trans hnormal)).symm hne }

/-- Another node is loaded: it is added where it lands, and then its properties are set. -/
theorem loaded_of_added {spec : NodeSpec} {mid : Store} {base : String}
    (hpath : Path.normalize spec.path = .ok path) (hroot : path ≠ Path.root)
    (hbase : Path.normalize (Path.parent path) = .ok base)
    (hadded : store.Added mid base (Path.landing path) (spec.primaryType.getD unstructured))
    (hset : setAll set mid path spec.properties = (next, .ok ())) : store.Loaded next [spec] := by
  obtain ⟨hgrows, hpaths, hvalues⟩ := setAll_ok hset
  have habsolute := (Path.isScope_of_normalize hpath).absolute
  have hlandings : landings [spec] = [Path.landing path] := by
    rw [landings_singleton hpath, if_neg hroot]
  have hfresh : Path.landing path ∉ store.paths := by simp [mem_paths, hadded.fresh]
  have hnode (hstable : Path.Stable path) :
      next.HasNode path (spec.primaryType.getD unstructured) := by
    have hland := (Path.landing_eq_self_iff habsolute).mpr hstable
    rw [hland] at hadded hfresh
    have hne : base ≠ path := fun heq => hfresh (heq ▸ mem_paths.mpr hadded.found)
    exact hgrows.hasNode (hadded.hasNode (hstable.eq_parent habsolute hbase) hne)
  exact {
    normal := by simp [hpath]
    grows := hadded.growsTo.trans hgrows
    paths := by
      rw [hpaths, hadded.paths_eq, hlandings]
      ext other
      simp [or_comm]
    fresh := by simpa [hlandings] using hfresh
    distinct := by simp [hlandings]
    values := fun other name => by rw [hvalues, valuesOf_singleton hpath, hadded.value?_eq]
    created := by
      intro other hother target hnormal _ hstable
      obtain rfl := List.mem_singleton.mp hother
      obtain rfl := Except.ok.inj (hpath.symm.trans hnormal)
      exact hnode hstable }

/-- A node that is described is loaded. -/
theorem loaded_of_loadOne {spec : NodeSpec} (h : store.WellFormed)
    (hload : loadOne add set store spec = (next, .ok ())) : store.Loaded next [spec] := by
  rw [loadOne] at hload
  cases hpath : Path.normalize spec.path with
  | error e => simp [hpath] at hload
  | ok path =>
    simp only [hpath] at hload
    cases hadd : addSpec add store path spec.primaryType with
    | error e => simp [hadd] at hload
    | ok mid =>
      rw [hadd] at hload
      rcases addSpec_ok h hadd with ⟨rfl, rfl⟩ | ⟨hroot, base, hbase, hadded⟩
      · exact loaded_of_root hpath hload
      · exact loaded_of_added hpath hroot hbase hadded hload

/-- Listings are loaded node by node. -/
theorem loaded_of_load {specs : List NodeSpec} (h : store.Reachable)
    (hload : store.load specs = (next, .ok ())) : store.Loaded next specs := by
  induction specs generalizing store with
  | nil =>
    cases hload
    exact .nil _
  | cons spec rest ih =>
    have hreachable := h.loadOne spec
    rw [Store.load, Listing.load] at hload
    rcases hone : loadOne add set store spec with ⟨mid, e | done⟩
    · simp [hone] at hload
    · rw [hone] at hload hreachable
      exact (loaded_of_loadOne h.wellFormed hone).append (ih hreachable hload)

/-! ### What is created -/

/-- A listed node is there as it is listed, at the normal form of its path. A name that the listing
sets more than once has the last value. -/
structure HasListed (store : Store) (specs : List NodeSpec) (spec : NodeSpec) (path : String) :
    Prop where
  normal : Path.normalize spec.path = .ok path
  stored : path ∈ store.paths
  node : path ≠ Path.root → store.HasNode path (spec.primaryType.getD unstructured)
  values : ∀ property ∈ spec.properties, ∃ value,
    store.value? path (Property.storedName property.1) = some value ∧
      (valuesOf specs path (Property.storedName property.1)).getLast? = some value

/-- A listing creates what is listed: its nodes, at paths that are new, and no others. -/
structure Created (store next : Store) (specs : List NodeSpec) : Prop where
  listed : ∀ spec ∈ specs, ∃ path, next.HasListed specs spec path
  grown : next.paths = store.paths ∪ {path | path ∈ targets specs}
  fresh : ∀ path ∈ targets specs, path ∉ store.paths

/-- The root is always there. -/
theorem root_mem_paths (store : Store) : Path.root ∈ store.paths := by
  rw [mem_paths, isSome_record?, find?, Path.names?_eq_nil_iff.mpr rfl]
  rfl

namespace Loaded

variable {specs : List NodeSpec} (h : store.Loaded next specs)

include h

/-- Properties that are listed have the last value that is listed for them. -/
theorem value?_of_listed {spec : NodeSpec} (hspec : spec ∈ specs)
    (hpath : Path.normalize spec.path = .ok path) {property : String × Value}
    (hproperty : property ∈ spec.properties) :
    ∃ value, next.value? path (Property.storedName property.1) = some value ∧
      (valuesOf specs path (Property.storedName property.1)).getLast? = some value := by
  have hmem : property.2 ∈ valuesOf specs path (Property.storedName property.1) := by
    refine List.mem_flatMap.mpr ⟨spec, hspec, ?_⟩
    rw [if_pos (target?_eq_some_iff.mpr hpath)]
    exact List.mem_filterMap.mpr ⟨property, hproperty, if_pos rfl⟩
  obtain ⟨value, hvalue⟩ := Option.ne_none_iff_exists'.mp
    (mt List.getLast?_eq_none_iff.mp (List.ne_nil_of_mem hmem))
  exact ⟨value, by rw [h.values, hvalue, Option.some_or], hvalue⟩

/-- Where all paths are stable, a listing creates what is listed. -/
theorem created_of_stable (hstable : ∀ path ∈ targets specs, Path.Stable path) :
    store.Created next specs := by
  have hlandings : landings specs = targets specs := by
    refine (List.map_congr_left fun path hpath => ?_).trans (List.map_id _)
    exact (Path.landing_eq_self_iff (head?_of_mem_targets hpath)).mpr (hstable path hpath)
  refine ⟨fun spec hspec => ?_, hlandings ▸ h.paths, hlandings ▸ h.fresh⟩
  obtain ⟨path, hpath⟩ := h.normal spec hspec
  have hnode (hroot : path ≠ Path.root) :
      next.HasNode path (spec.primaryType.getD unstructured) :=
    h.created spec hspec path hpath hroot
      (hstable path (mem_targets_iff.mpr ⟨⟨spec, hspec, hpath⟩, hroot⟩))
  have hstored : path ∈ next.paths := by
    by_cases hroot : path = Path.root
    · exact hroot ▸ root_mem_paths next
    · obtain ⟨r, -, hr, -⟩ := hnode hroot
      rw [mem_paths, hr]
      rfl
  exact ⟨path, hpath, hstored, hnode, fun property => h.value?_of_listed hspec hpath⟩

/-- Where no other paths are new than those that are listed, these are stable: the landing of one
that is not would be a shorter one that is listed, and two nodes do not land at one path. -/
theorem stable_of_grown (hgrown : next.paths = store.paths ∪ {path | path ∈ targets specs}) :
    ∀ path ∈ targets specs, Path.Stable path := by
  intro path hpath
  induction hlength : path.toList.length using Nat.strongRecOn generalizing path with
  | ind length ih =>
    subst hlength
    have habsolute := head?_of_mem_targets hpath
    rw [← Path.landing_eq_self_iff habsolute]
    by_contra hne
    have hlanding : Path.landing path ∈ landings specs := List.mem_map_of_mem hpath
    have hstored : Path.landing path ∈ next.paths := h.paths ▸ .inr hlanding
    have htarget : Path.landing path ∈ targets specs := by
      rw [hgrown] at hstored
      exact hstored.resolve_left (h.fresh _ hlanding)
    have hstable := ih _ (Path.length_landing_lt habsolute hne) _ htarget rfl
    have hsame := (Path.landing_eq_self_iff (head?_of_mem_targets htarget)).mpr hstable
    exact hne (List.inj_on_of_nodup_map h.distinct htarget hpath hsame)

end Loaded

/-- A listing that is loaded creates what is listed exactly if every path in it has a parent in
normal form: what stands before the last name ends neither in a blank nor in a slash nor in the
ending for every node below. -/
theorem created_iff_stable {specs : List NodeSpec} (h : store.Reachable)
    (hload : store.load specs = (next, .ok ())) :
    store.Created next specs ↔ ∀ path ∈ targets specs, Path.Stable path := by
  have hloaded := loaded_of_load h hload
  exact ⟨fun hcreated => hloaded.stable_of_grown hcreated.grown, hloaded.created_of_stable⟩

/-- A listing of a node, a node below it and the root creates these. -/
theorem created_sample :
    let specs : List NodeSpec := [⟨"/a/", none, [("@n", .long 1), ("n", .long 2)]⟩,
      ⟨"/a/b c", some "cq:Page", []⟩, ⟨"/", none, [("t", .text "x")]⟩]
    (empty.load specs).2 = .ok () ∧ empty.Created (empty.load specs).1 specs := by
  refine ⟨by decide +kernel, (created_iff_stable .empty (Prod.ext rfl ?_)).mpr ?_⟩
  · decide +kernel
  · decide +kernel

/-- A listing may be loaded and put a node elsewhere: below a node whose name ends in a blank there
is none of the listed path, but one below the node whose name does not. -/
theorem landing_elsewhere :
    let specs : List NodeSpec := [⟨"/a", none, []⟩, ⟨"/a //*", none, []⟩, ⟨"/a /c", none, []⟩]
    (empty.load specs).2 = .ok () ∧
    (empty.load specs).1.node? "/a " = some ⟨"/a ", ⟨unstructured, []⟩⟩ ∧
    (empty.load specs).1.node? "/a /c" = none ∧
    (empty.load specs).1.node? "/a/c" = some ⟨"/a/c", ⟨unstructured, []⟩⟩ := by
  decide +kernel

end Store

end ContentQuery
