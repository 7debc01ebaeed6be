import ScriptHost.Command.Run
import ScriptHost.Proofs.Executor.Descent

/-!
# Executions that are ready

What is known of an execution once its configuration was read, the log set up, the executor made and
the packs registered, and of the executor that a configuration describes.  Its file system is the
disk, which names the folders that the engine is pointed at as long as the current directory is
there or the configuration names another; then its first session is founded.

## Main results

* `prepare_eq_ok` — the parts of an execution that is ready.
* `executor_eq_ok` — the executor of a configuration.
-/

namespace ScriptHost

/-- Whether a file system says where it is, as long as nobody was called, and has the two folders of
an engine. -/
def FileSystem.HasFolders (fs : FileSystem) : Prop :=
  ∃ current bin cache, fs.currentDirectory [] = .ok (some current) ∧
    fs.binFolder = .ok (some bin) ∧ fs.cacheFolder = .ok (some cache)

/-- Settings name a directory once they are pinned just if they did before. -/
theorem FolderSettings.isSome_pinned {s folders : FolderSettings} {d : Disk}
    (h : s.pinned d = .ok folders) :
    folders.currentDirectory.isSome = s.currentDirectory.isSome := by
  unfold pinned at h
  cases hsetting : s.currentDirectory with
  | none =>
      simp only [hsetting, Except.ok.injEq] at h
      rw [← h, hsetting]
  | some path =>
      simp only [hsetting] at h
      obtain ⟨p, -, rfl⟩ := exists_of_map_ok h
      rfl

/-- A disk has folders if its current directory is there, or if the settings name another. -/
theorem Disk.fileSystem_hasFolders {d : Disk} {folders : FolderSettings}
    (h : folders.currentDirectory.isSome = true ∨ d.isLost = false) :
    (d.fileSystem folders).HasFolders := by
  cases hsetting : folders.currentDirectory with
  | some path =>
      refine ⟨path, folders.binFolder, folders.cacheFolder, ?_, rfl, rfl⟩
      simp only [Disk.fileSystem, hsetting]
  | none =>
      have hthere : d.isLost = false := by simpa [hsetting] using h
      refine ⟨namesText d.place, folders.binFolder, folders.cacheFolder, ?_, rfl, rfl⟩
      simp only [Disk.fileSystem, hsetting, here, hthere]
      rfl

namespace Executor

/-- Where the file system has folders, a first session is founded with any paths. -/
theorem founding_of_folders {e : Executor} (hnone : e.session = none)
    (hfolders : e.fileSystem.HasFolders) (items : List String) :
    ∃ g, e.founding [] (.list items) = .ok g := by
  obtain ⟨current, bin, cache, hcurrent, hbin, hcache⟩ := hfolders
  have hbase : FileSystem.join (e.fileSystem.currentDirectory []) e.fileSystem.binFolder =
      .ok (Path.joinText current bin) := by
    rw [hcurrent, hbin]
    rfl
  have hother : FileSystem.join (e.fileSystem.currentDirectory []) e.fileSystem.cacheFolder =
      .ok (Path.joinText current cache) := by
    rw [hcurrent, hcache]
    rfl
  have hactive : e.isActive = false := by
    rw [isActive, hnone]
    rfl
  exact ⟨_, founding_list hactive hbase hother items⟩

/-- Where a session is founded, the file system has folders. -/
theorem folders_of_founding {e g : Executor} {paths : Sequence.Supplied String}
    (h : e.founding [] paths = .ok g) : e.fileSystem.HasFolders := by
  have hsame : g.fileSystem = e.fileSystem :=
    congrArg Sources.fileSystem (founding_frame h).2.1
  obtain ⟨base, cache, hbase, hcache, -, -⟩ := pointed_of_founding h
  rw [hsame] at hbase hcache
  obtain ⟨current, bin, hcurrent, hbin, -⟩ := FileSystem.join_eq_ok hbase
  obtain ⟨-, other, -, hother, -⟩ := FileSystem.join_eq_ok hcache
  exact ⟨current, bin, other, hcurrent, hbin, hother⟩

/-- The executor of a configuration has the engine and the pre-processor that it names, and its
references and namespaces behind those that every executor starts from. -/
theorem ofConfiguration_eq_ok {home : String} {catalogue : Plugin.Catalogue} {c : Configuration}
    {fs : FileSystem} {e : Executor} (h : ofConfiguration home catalogue c fs = .ok e) :
    ∃ engine pp, Plugin.loadEngineClass catalogue c.execution.engine = .ok (.ok engine) ∧
      Plugin.loadPreProcessorClass catalogue c.execution.preProcessor = .ok (.ok pp) ∧
      new (some fs) pp engine c.library.fileName
        (ReferenceSet.builtIn home ++ c.execution.references)
        (NamespaceSet.builtIn ++ c.execution.namespaces) = .ok e := by
  unfold ofConfiguration at h
  cases hengine : Plugin.loadEngineClass catalogue c.execution.engine with
  | error f => simp [hengine] at h
  | ok makeEngine =>
      cases hpp : Plugin.loadPreProcessorClass catalogue c.execution.preProcessor with
      | error f => simp [hengine, hpp] at h
      | ok makePreProcessor =>
          cases makePreProcessor with
          | error f => simp [hengine, hpp] at h
          | ok pp =>
              cases makeEngine with
              | error f => simp [hengine, hpp] at h
              | ok engine =>
                  simp only [hengine, hpp] at h
                  exact ⟨engine, pp, rfl, rfl, h⟩

end Executor

namespace Command

theorem eq_ok_of_orRefuse {α : Type} {d : Disk} {isPrinted : Failure → Bool} {label : String}
    {answer : Except Failure α} {a : α} (h : orRefuse d isPrinted label answer = .ok a) :
    answer = .ok a := by
  cases answer with
  | error f => cases h
  | ok b =>
      cases h
      rfl

/-- The executor of a configuration works on the disk, in the folders of the configuration. -/
theorem executor_eq_ok {w : Surroundings} {d : Disk} {c : Configuration} {e : Executor}
    (h : executor w d c = .ok e) :
    ∃ folders, c.folders.pinned d = .ok folders ∧
      Executor.ofConfiguration w.home w.catalogue c (d.fileSystem folders) = .ok e := by
  exact exists_of_bind_ok (eq_ok_of_orRefuse h)

/-- Whatever executor a configuration has, it begins with the references and namespaces of the
configuration. -/
theorem environment_of_executor {w : Surroundings} {d : Disk} {c : Configuration} {e : Executor}
    (h : executor w d c = .ok e) :
    e.references = .ofDefaults (ReferenceSet.builtIn w.home ++ c.execution.references) ∧
      e.namespaces = .ofDefaults (NamespaceSet.builtIn ++ c.execution.namespaces) := by
  obtain ⟨folders, -, hof⟩ := executor_eq_ok h
  obtain ⟨engine, pp, -, -, hnew⟩ := Executor.ofConfiguration_eq_ok hof
  obtain ⟨fs, -, heq⟩ := Executor.new_eq hnew
  rw [heq]
  exact ⟨rfl, rfl⟩

/-- The parts of an execution that is ready: the executor is made once the log is set up. -/
theorem prepare_eq_ok {w : Surroundings} {d : Disk} {m : Manner} {x : Execution} {r : Ready}
    (h : prepare w d m x = .ok r) :
    ∃ c, configuration w d m.configuration = .ok c ∧ setUpLog d m c = .ok r.desktop ∧
      executor w r.desktop.disk c = .ok r.executor ∧
      registerAll w.catalogue (.new true) (c.execution.packs ++ x.packs) = .ok r.registry := by
  obtain ⟨c, hc, h⟩ := exists_of_bind_ok h
  obtain ⟨desktop, hdesktop, h⟩ := exists_of_bind_ok h
  obtain ⟨e, he, h⟩ := exists_of_bind_ok h
  obtain ⟨registry, hregistry, h⟩ := exists_of_bind_ok h
  cases h
  exact ⟨c, hc, hdesktop, he, eq_ok_of_orRefuse hregistry⟩

/-- The executor of an execution that is ready has no session, and its file system is the disk with
the folders of the configuration. -/
theorem executor_of_ready {w : Surroundings} {d : Disk} {m : Manner} {x : Execution} {r : Ready}
    (h : prepare w d m x = .ok r) :
    r.executor.session = none ∧ ∃ c folders, configuration w d m.configuration = .ok c ∧
      c.folders.pinned r.desktop.disk = .ok folders ∧
      r.executor.fileSystem = r.desktop.disk.fileSystem folders := by
  obtain ⟨c, hc, -, he, -⟩ := prepare_eq_ok h
  obtain ⟨folders, hpinned, hof⟩ := executor_eq_ok he
  obtain ⟨engine, pp, -, -, hnew⟩ := Executor.ofConfiguration_eq_ok hof
  obtain ⟨fs, hfs, heq⟩ := Executor.new_eq hnew
  cases hfs
  rw [heq]
  exact ⟨rfl, c, folders, hc, hpinned, rfl⟩

end Command

end ScriptHost
