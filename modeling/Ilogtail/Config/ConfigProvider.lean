import Ilogtail.Cpp.Filesystem

/-!
# Where `ConfigProvider::Init` looks for configuration

`Init(dir)` sets the pipeline source directory to `<conf>/pipeline_config/<dir>` and the
instance source directory to `<conf>/instance_config/<dir>`, then creates each and hands it
to its watcher; the comment above the joins, `default path: /etc/ilogtail/config/${dir}`,
leaves out the `pipeline_config` and `instance_config` level the code adds. The joins are
`operator/=`, so the result depends on whether `dir` is relative, and a relative `dir` may
climb out of that level with `..`.

`init_registers_source_dirs` follows the directories into the calls `Init` makes and
compares them once lexically normal: for a relative `dir` with no `..`, the two watchers
are given two directories under the configuration directory, neither inside the other; for
a relative `dir` that starts with its only `..`, it cancels the added level, and both
watchers are given one directory; for an absolute `dir`, both are given `dir` itself.
-/

namespace Ilogtail.Config

open Ilogtail.Cpp

/-- The watcher singletons `Init` registers a source directory with. -/
inductive Watcher
  /-- `ConfigWatcher::GetInstance()`. -/
  | configWatcher
  /-- `InstanceConfigWatcher::GetInstance()`. -/
  | instanceConfigWatcher
deriving DecidableEq, Repr

/-- A call `Init` makes outside the provider. -/
inductive Effect
  /-- `filesystem::create_directories(dir, ec)`. -/
  | createDirectories (dir : Path)
  /-- `AddSource(dir, &mux)` on a watcher. -/
  | addSource (watcher : Watcher) (dir : Path)
deriving DecidableEq, Repr

/-- The members of `ConfigProvider` that `Init` sets. -/
structure ConfigProvider where
  mPipelineSourceDir : Path
  mInstanceSourceDir : Path
deriving DecidableEq, Repr

/-- `ConfigProvider::Init(dir)`, where `confDir` is what
`AppConfig::GetInstance()->GetLoongcollectorConfDir()` returns: the two directories it
assigns, and the calls it makes in order. The error code of `create_directories` is
cleared and never read, so both sources are added whether or not their directories
could be created. -/
def ConfigProvider.init (confDir dir : String) : ConfigProvider × List Effect :=
  let mPipelineSourceDir :=
    ((Path.ofString confDir).append (Path.ofString "pipeline_config")).append (Path.ofString dir)
  let mInstanceSourceDir :=
    ((Path.ofString confDir).append (Path.ofString "instance_config")).append (Path.ofString dir)
  (⟨mPipelineSourceDir, mInstanceSourceDir⟩,
    [.createDirectories mPipelineSourceDir, .addSource .configWatcher mPipelineSourceDir,
      .createDirectories mInstanceSourceDir, .addSource .instanceConfigWatcher mInstanceSourceDir])

/-- Under a relative `dir`, a source directory is relative or absolute as the configuration
directory is. -/
theorem isAbsolute_sourceDir {dir : String} (confDir subdir : String)
    (relative : ¬(Path.ofString dir).isAbsolute) (subdirRelative : ¬(Path.ofString subdir).isAbsolute) :
    (((Path.ofString confDir).append (Path.ofString subdir)).append (Path.ofString dir)).isAbsolute =
      (Path.ofString confDir).isAbsolute := by
  rw [Path.isAbsolute_append _ relative, Path.isAbsolute_append _ subdirRelative]

/-- Under a relative `dir`, a source directory normalizes as the configuration directory,
then `subdir`, then the filenames of `dir`. -/
theorem normalNames_sourceDir {dir : String} (confDir subdir : String)
    (relative : ¬(Path.ofString dir).isAbsolute) (subdirRelative : ¬(Path.ofString subdir).isAbsolute)
    (single : (Path.ofString subdir).names = [subdir.toList]) (notParent : subdir.toList ≠ ['.', '.']) :
    (((Path.ofString confDir).append (Path.ofString subdir)).append (Path.ofString dir)).normalNames =
      (Path.ofString dir).names.foldl (Path.normalStep (Path.ofString confDir).isAbsolute)
        ((Path.ofString confDir).normalNames ++ [subdir.toList]) := by
  rw [Path.normalNames_append _ relative, Path.normalNames_append _ subdirRelative,
    Path.isAbsolute_append _ subdirRelative, single, List.foldl_cons, List.foldl_nil,
    Path.normalStep_of_ne _ _ notParent]

/-- `Init` creates the two source directories and adds each to its watcher. For a relative
`dir` with no `..`, both lie in the configuration directory and neither in the other; for a
relative `dir` whose only `..` comes first, the two are one directory in the configuration
directory; for an absolute `dir`, both are `dir`. -/
theorem init_registers_source_dirs (confDir dir : String) :
    ∃ pipelineDir instanceDir : Path,
      ConfigProvider.init confDir dir = (⟨pipelineDir, instanceDir⟩,
        [.createDirectories pipelineDir, .addSource .configWatcher pipelineDir,
          .createDirectories instanceDir, .addSource .instanceConfigWatcher instanceDir]) ∧
      (¬(Path.ofString dir).isAbsolute → ['.', '.'] ∉ (Path.ofString dir).names →
        pipelineDir.LexicallyWithin (Path.ofString confDir) ∧
        instanceDir.LexicallyWithin (Path.ofString confDir) ∧
        ¬pipelineDir.LexicallyWithin instanceDir ∧ ¬instanceDir.LexicallyWithin pipelineDir) ∧
      (¬(Path.ofString dir).isAbsolute → (Path.ofString dir).names.head? = some ['.', '.'] →
        ['.', '.'] ∉ (Path.ofString dir).names.tail →
        pipelineDir.LexicallyWithin (Path.ofString confDir) ∧
        instanceDir.LexicallyWithin (Path.ofString confDir) ∧
        pipelineDir.LexicallyWithin instanceDir ∧ instanceDir.LexicallyWithin pipelineDir) ∧
      ((Path.ofString dir).isAbsolute →
        pipelineDir = Path.ofString dir ∧ instanceDir = Path.ofString dir) := by
  refine ⟨_, _, rfl, fun relative noParent => ?_, fun relative first noOtherParent => ?_,
    fun absolute => ⟨Path.append_of_isAbsolute _ absolute, Path.append_of_isAbsolute _ absolute⟩⟩
  all_goals
    unfold Path.LexicallyWithin
    rw [isAbsolute_sourceDir _ _ relative (by decide), isAbsolute_sourceDir _ _ relative (by decide),
      normalNames_sourceDir _ "pipeline_config" relative (by decide) (by decide) (by decide),
      normalNames_sourceDir _ "instance_config" relative (by decide) (by decide) (by decide)]
  · rw [Path.foldl_normalStep_of_not_mem _ _ noParent, Path.foldl_normalStep_of_not_mem _ _ noParent,
      List.append_assoc, List.append_assoc]
    have differ : "instance_config".toList ≠ "pipeline_config".toList := by decide
    exact ⟨⟨rfl, List.prefix_append _ _⟩, ⟨rfl, List.prefix_append _ _⟩,
      fun ⟨_, nested⟩ => differ (List.cons_prefix_cons.mp (List.prefix_append_right_inj _ |>.mp nested)).1,
      fun ⟨_, nested⟩ => differ.symm
        (List.cons_prefix_cons.mp (List.prefix_append_right_inj _ |>.mp nested)).1⟩
  · rw [List.eq_cons_of_mem_head? first, List.foldl_cons, List.foldl_cons,
      Path.normalStep_parent _ _ (by decide), Path.normalStep_parent _ _ (by decide),
      Path.foldl_normalStep_of_not_mem _ _ noOtherParent]
    exact ⟨⟨rfl, List.prefix_append _ _⟩, ⟨rfl, List.prefix_append _ _⟩, ⟨rfl, List.prefix_refl _⟩,
      ⟨rfl, List.prefix_refl _⟩⟩

/-- With `dir` the parent directory, both watchers watch the configuration directory. -/
example : (ConfigProvider.init "/etc/ilogtail" "..").1.mPipelineSourceDir.normalNames =
    ["etc".toList, "ilogtail".toList] ∧
    (ConfigProvider.init "/etc/ilogtail" "..").1.mInstanceSourceDir.normalNames =
    ["etc".toList, "ilogtail".toList] := by
  decide

end Ilogtail.Config
