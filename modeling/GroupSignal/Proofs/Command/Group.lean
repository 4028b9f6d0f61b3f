import GroupSignal.Proofs.Command.Verdict

/-!
# The group that is shown and the group that is proven in

Two commands build the tree of a group from the same values: one shows its root, the other proves in
it. The depth is the one that is given, and the command that proves takes it from the configuration
where none is given. The command that shows the root does not look at the configuration, so there it
takes the usual depth. The two agree on every list of members just when that makes no difference.

## Main definitions

* `Group.RootAgrees`: the root that is shown is that of the tree in which is proven

## Main results

* `Group.tree_fails_iff`: which groups have no tree
* `Group.forall_rootAgrees_iff`: when the two commands agree on all groups of a depth
* `Group.not_rootAgrees_shallow`: a group on which they do not
-/

namespace GroupSignal.Command

/-! ## The depth of a configuration -/

theorem depth_of_ofText {s : String} {config : Config} (h : Config.ofText s = .ok config) :
    minDepth ≤ config.treeDepth.toNat ∧ config.treeDepth.toNat ≤ maxDepth := by
  unfold Config.ofText at h
  split at h
  · cases h
  · rename_i read hread
    have hvalid := mapError_eq_ok_iff.mp h
    by_cases hdepth : minDepth ≤ read.treeDepth.toNat ∧ read.treeDepth.toNat ≤ maxDepth
    · rw [Config.validate, if_pos hdepth] at hvalid
      obtain rfl := Except.ok.inj hvalid
      exact hdepth
    · rw [Config.validate, if_neg hdepth] at hvalid
      cases hvalid

theorem depth_of_loadConfig {files : FileSystem Id} {path : Option String} {config : Config}
    (h : (loadConfig files path).run = .ok config) :
    minDepth ≤ config.treeDepth.toNat ∧ config.treeDepth.toNat ≤ maxDepth := by
  obtain ⟨_, _, -, -, hconfig⟩ := loadConfig_eq_ok_iff.mp h
  exact depth_of_ofText hconfig

namespace Group

/-! ## Trees of groups -/

section Trees

variable {group : Group} {config? : Option Config}

/-- **Which groups have no tree:** those whose depth is not supported or that have more members than
a tree of their depth has leaves. -/
theorem tree_fails_iff : (∃ cause, group.tree config? = .error cause) ↔
    ¬(minDepth ≤ group.resolvedDepth config? ∧ group.resolvedDepth config? ≤ maxDepth) ∨
      2 ^ group.resolvedDepth config? < group.members.length := by
  rw [← not_iff_not, not_or, not_not, Nat.not_lt]
  constructor
  · intro hno
    cases htree : group.tree config? with
    | error cause => exact absurd ⟨cause, htree⟩ hno
    | ok tree =>
      obtain ⟨empty, hempty, hall⟩ := bind_eq_ok_iff.mp htree
      obtain ⟨hdepth, hfit, -⟩ := ((MerkleTree.Reached.create hempty).of_insertAll hall).represents
      exact ⟨hdepth, hfit⟩
  · rintro ⟨⟨hmin, hmax⟩, hfit⟩ ⟨cause, hcause⟩
    obtain ⟨tree, htree, -⟩ := MerkleTree.exists_reached _ _ hmin hmax hfit
    cases hcause.symm.trans htree

end Trees

/-! ## The two commands -/

/-- What the command that shows the root does on a group is what its tree says in which is proven
with a configuration: it fails when there is no such tree, and else it prints the root of it. -/
structure RootAgrees (world : World Id) (config : Config) (group : Group) : Prop where
  fails_iff : (∃ failure, ((Request.root group).run world).run = .error failure) ↔
    ∃ cause, group.tree (some config) = .error cause
  run_eq : ∀ tree, group.tree (some config) = .ok tree →
    ((Request.root group).run world).run = .ok { line := Scalar.toText tree.root }

section Agreement

variable {world : World Id} {config : Config} {group : Group}

theorem run_root : ((Request.root group).run world).run =
    ((group.tree none).mapError (.refused ∘ .tree)).map fun tree =>
      { line := Scalar.toText tree.root } := rfl

theorem run_root_fails_iff (world : World Id) :
    (∃ failure, ((Request.root group).run world).run = .error failure) ↔
      ∃ cause, group.tree none = .error cause := by
  rw [run_root]
  cases group.tree none with
  | error cause => exact iff_of_true ⟨_, rfl⟩ ⟨_, rfl⟩
  | ok tree => exact iff_of_false (fun ⟨_, h⟩ => nomatch h) (fun ⟨_, h⟩ => nomatch h)

/-- Where both commands take the same depth they agree. -/
theorem rootAgrees_of_resolvedDepth
    (h : group.resolvedDepth none = group.resolvedDepth (some config)) :
    group.RootAgrees world config := by
  have htree : group.tree none = group.tree (some config) := by
    rw [tree, tree, h]
  refine ⟨(run_root_fails_iff world).trans (by rw [htree]), fun tree htree' => ?_⟩
  rw [run_root, htree, htree']
  rfl

/-- Where the two commands agree, there is a root to show just when there is a tree to prove in. -/
theorem RootAgrees.fits_iff (h : group.RootAgrees world config) :
    (¬(minDepth ≤ group.resolvedDepth none ∧ group.resolvedDepth none ≤ maxDepth) ∨
        2 ^ group.resolvedDepth none < group.members.length) ↔
      ¬(minDepth ≤ group.resolvedDepth (some config) ∧
          group.resolvedDepth (some config) ≤ maxDepth) ∨
        2 ^ group.resolvedDepth (some config) < group.members.length := by
  rw [← tree_fails_iff, ← tree_fails_iff, ← run_root_fails_iff world, h.fails_iff]

/-- **The steps to a signal.** The tree of the group takes the depth of the configuration. -/
theorem prove_run {path : Option String} {seed topic signal : String} :
    (prove world path seed group topic signal).run = (do
      let config ← (loadConfig world.files path).run
      let identity ← identityOf seed
      let path ← memberPath group config identity
      let prover ← (world.loader.ofFiles world.files config.zkeyPath config.graphPath).run.mapError
        Failure.materialRefused
      let proof ← (SignalProof.generateFor identity (Bytes.ofText topic) (Bytes.ofText signal) path
        prover).mapError Failure.refused
      .ok { line := Json.indented (proof.document .json) }) := by
  refine (run_mk_bind _ _).trans (congrArg _ (funext fun config => ?_))
  refine (run_mk_bind _ _).trans (congrArg _ (funext fun identity => ?_))
  refine (run_mk_bind _ _).trans (congrArg _ (funext fun path => ?_))
  refine (run_mk_bind _ _).trans (congrArg _ (funext fun prover => ?_))
  exact run_mk_bind _ _

/-- Nothing is proven where there is no tree with the configuration. -/
theorem run_prove_fails {path : Option String} {seed topic signal : String}
    (hconfig : (loadConfig world.files path).run = .ok config)
    (htree : ∃ cause, group.tree (some config) = .error cause) :
    ∃ failure, ((Request.prove path seed group topic signal).run world).run = .error failure := by
  obtain ⟨cause, hcause⟩ := htree
  cases hrun : ((Request.prove path seed group topic signal).run world).run with
  | error failure => exact ⟨failure, rfl⟩
  | ok outcome =>
    obtain ⟨loaded, hloaded, hrun⟩ := bind_eq_ok_iff.mp (prove_run.symm.trans hrun)
    obtain rfl := Except.ok.inj (hconfig.symm.trans hloaded)
    obtain ⟨identity, -, hrun⟩ := bind_eq_ok_iff.mp hrun
    obtain ⟨path, hpath, -⟩ := bind_eq_ok_iff.mp hrun
    obtain ⟨tree, htree, -⟩ := bind_eq_ok_iff.mp hpath
    rw [hcause] at htree
    cases htree

end Agreement

/-- Where no depth is given, the commands agree on all groups only if the configuration has the
usual depth. -/
theorem treeDepth_eq_of_rootAgrees {world : World Id} {config : Config}
    (hdepth : minDepth ≤ config.treeDepth.toNat ∧ config.treeDepth.toNat ≤ maxDepth)
    (hagrees : ∀ members, RootAgrees world config ⟨none, members⟩) :
    config.treeDepth = defaultDepth := by
  have husual : minDepth ≤ defaultDepth.toNat ∧ defaultDepth.toNat ≤ maxDepth := by decide
  -- Both depths are supported, so only the number of members tells the trees apart.
  have hfits : ∀ n, 2 ^ config.treeDepth.toNat < n ↔ 2 ^ defaultDepth.toNat < n := by
    intro n
    have hn := (hagrees (List.replicate n 0)).fits_iff
    simp only [resolvedDepth, Option.getD_none, Option.map_none, Option.map_some,
      Option.getD_some, hdepth, husual, and_self, not_true, false_or, List.length_replicate] at hn
    exact hn.symm
  exact UInt64.toNat_inj.mp (Nat.pow_right_injective le_rfl (eq_of_forall_gt_iff hfits))

/-- **When the two commands agree.** A group has no tree exactly when its depth is not supported or
it has more members than a tree of that depth has leaves. The commands agree on all groups that are
given with a depth, and on all that are given without one exactly when the configuration has the
usual depth. -/
theorem forall_rootAgrees_iff {world : World Id} {path : Option String} {config : Config}
    (h : (loadConfig world.files path).run = .ok config) (depth : Option ℕ) :
    (∀ (members : List Scalar) (config? : Option Config),
      let group : Group := ⟨depth, members⟩
      (∃ cause, group.tree config? = .error cause) ↔
        ¬(minDepth ≤ group.resolvedDepth config? ∧ group.resolvedDepth config? ≤ maxDepth) ∨
          2 ^ group.resolvedDepth config? < members.length) ∧
    ((∀ members, RootAgrees world config ⟨depth, members⟩) ↔
      depth.isSome ∨ config.treeDepth = defaultDepth) := by
  refine ⟨fun members config? => tree_fails_iff, fun hagrees => ?_, fun hsame members => ?_⟩
  · cases depth with
    | some depth => exact .inl rfl
    | none => exact .inr (treeDepth_eq_of_rootAgrees (depth_of_loadConfig h) hagrees)
  · refine rootAgrees_of_resolvedDepth ?_
    obtain hgiven | husual := hsame
    · obtain ⟨depth, rfl⟩ := Option.isSome_iff_exists.mp hgiven
      rfl
    · rw [resolvedDepth, resolvedDepth, Option.map_some, husual]
      rfl

/-- With the usual configuration the commands agree on groups that are given without a depth, and
with any configuration on groups that are given with one. -/
theorem forall_rootAgrees_usual :
    (∀ members, RootAgrees (sampleWorld (sampleConfig 20) []) (sampleConfig 20) ⟨none, members⟩) ∧
      ∀ members,
        RootAgrees (sampleWorld (sampleConfig 1) []) (sampleConfig 1) ⟨some 5, members⟩ := by
  have husual : (loadConfig (sampleWorld (sampleConfig 20) []).files (some "config.json")).run =
      .ok (sampleConfig 20) :=
    loadConfig_sampleWorld (by decide) (by decide)
  have hshallow : (loadConfig (sampleWorld (sampleConfig 1) []).files (some "config.json")).run =
      .ok (sampleConfig 1) :=
    loadConfig_sampleWorld (by decide) (by decide)
  exact ⟨(forall_rootAgrees_iff husual none).2.mpr (.inr rfl),
    (forall_rootAgrees_iff hshallow (some 5)).2.mpr (.inl rfl)⟩

/-- **A group on which the commands do not agree.** It has three members and is given without a
depth, and the configuration says that its tree has room for two. The same values are given to both
commands: one shows a root, and the other has no tree to prove in. -/
theorem not_rootAgrees_shallow :
    let world := sampleWorld (sampleConfig 1) []
    let group : Group := ⟨none, [1, 2, 3]⟩
    let flags := [(Parameter.member, "1"), (.member, "2"), (.member, "3")]
    let ofMember := Request.prove (some "config.json") "alice" group "vote" "hello"
    (loadConfig world.files (some "config.json")).run = .ok (sampleConfig 1) ∧
      Request.ofArguments {} (commandLine "config.json" "root" flags) = .ok (.root group) ∧
      Request.ofArguments {} (commandLine "config.json" "prove"
        ((.seed, "alice") :: (.topic, "vote") :: (.signal, "hello") :: flags)) = .ok ofMember ∧
      (∃ tree, group.tree none = .ok tree ∧
        ((Request.root group).run world).run = .ok { line := Scalar.toText tree.root }) ∧
      (∃ failure, (ofMember.run world).run = .error failure) ∧
      ¬group.RootAgrees world (sampleConfig 1) := by
  intro world group flags ofMember
  have hconfig : (loadConfig world.files (some "config.json")).run = .ok (sampleConfig 1) :=
    loadConfig_sampleWorld (by decide) (by decide)
  have hone : members? "1" = some [1] := by decide
  have htwo : members? "2" = some [2] := by decide
  have hthree : members? "3" = some [3] := by decide
  have hflags : flags.foldlM (fun given v => given.put v.1 v.2) ({} : Given) =
      some { members := [1, 2, 3] } := by
    simp [flags, Given.put, hone, htwo, hthree]
  have hofGroup : ∀ v ∈ flags, Request.IsOfGroup v := by
    simp [flags, Request.IsOfGroup]
  have hpath : "config.json" ≠ "" := by decide
  obtain ⟨hroot, hprove⟩ := Request.ofArguments_group hpath hofGroup hflags "alice" "vote" "hello"
  have hfails : ∃ cause, group.tree (some (sampleConfig 1)) = .error cause :=
    tree_fails_iff.mpr (.inr (by decide))
  have hfits : ¬∃ cause, group.tree none = .error cause := by
    rw [tree_fails_iff]
    decide
  refine ⟨hconfig, hroot, hprove, ?_, run_prove_fails hconfig hfails, fun hagrees => ?_⟩
  · cases htree : group.tree none with
    | error cause => exact absurd ⟨cause, htree⟩ hfits
    | ok tree =>
      refine ⟨tree, rfl, ?_⟩
      rw [run_root, htree]
      rfl
  · exact hfits ((run_root_fails_iff _).mp (hagrees.fails_iff.mpr hfails))

end Group

end GroupSignal.Command
