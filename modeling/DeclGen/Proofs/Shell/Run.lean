import DeclGen.Proofs.FileTree
import DeclGen.Proofs.Shell.Arguments
import DeclGen.Shell.Run

/-!
Runs of the commands: they end well where the manifest is accepted, and else leave all files alone.

The manifest is read before anything is written, and only an accepted one makes something to write.
-/

namespace DeclGen

/-- A manifest that a file holds: the file is a text, and the text is accepted as that manifest. -/
def FileTree.Holds (files : FileTree) (path : String) (manifest : Manifest) : Prop :=
  ∃ content, files.read path = .ok content ∧ (Manifest.parse content path).value = .ok manifest

/--
A command line that starts an action: it asks for that, and the setting of the log filter, if there
is one, can be read.
-/
def Surroundings.Starts (surroundings : Surroundings) (arguments : List String)
    (action : Action) : Prop :=
  ∃ verbose filter, Invocation.read arguments = .ok ⟨verbose, action⟩ ∧
    LogFilter.choose surroundings.logSetting verbose = .ok filter

/-- A run that ends with a code and a text on the standard output, and leaves some files. -/
def EndsWith (ended : Outcome × FileTree) (code : Nat) (stdout : String)
    (files : FileTree) : Prop :=
  ended.1.code = code ∧ ended.1.stdout = stdout ∧ ended.2 = files

namespace Surroundings

variable {surroundings : Surroundings} {arguments : List String} {action : Action}

/-- What is read as an action starts it where nothing is set for the log. -/
theorem starts_of_read {verbose : Bool} (unset : surroundings.logSetting = none)
    (read : Invocation.read arguments = .ok ⟨verbose, action⟩) :
    surroundings.Starts arguments action :=
  ⟨verbose, _, read, by rw [unset]; rfl⟩

/-- A command line that starts an action carries out its response to the manifest. -/
theorem Starts.exists_run (starts : surroundings.Starts arguments action) :
    ∃ logger, run surroundings arguments =
      Response.carryOut logger
        (action.respond surroundings.scripts (action.content surroundings.files))
        surroundings.files := by
  obtain ⟨verbose, filter, read, chosen⟩ := starts
  refine ⟨⟨filter, surroundings.time⟩, ?_⟩
  simp only [run, read, chosen]

end Surroundings

namespace Response

variable {config : String} {files : FileTree}

/-- A manifest that is accepted is responded to by what comes next. -/
theorem value_ofManifest_of_holds {manifest : Manifest} (holds : files.Holds config manifest) :
    ∃ content, ∀ next, (ofManifest config (files.read config) next).value =
      (next ⟨config, content, manifest⟩).value := by
  obtain ⟨content, read, accepted⟩ := holds
  refine ⟨content, fun next => ?_⟩
  rw [read]
  simp only [ofManifest, ManifestFile.load, ManifestFile.ofContent, Logged.andThen, Logged.map,
    accepted, Except.map]

/-- Where no manifest is accepted, the response is to reject it, whatever was to come next. -/
theorem exists_reject_of_not_holds (rejected : ∀ manifest, ¬ files.Holds config manifest)
    (next : ManifestFile → Logged Response) :
    ∃ source error, (ofManifest config (files.read config) next).value = .reject source error := by
  -- A manifest does not hold because the file is not read or because its text is not accepted.
  cases read : files.read config with
  | error failure => exact ⟨_, .unreadable config failure, rfl⟩
  | ok content =>
    cases parsed : (Manifest.parse content config).value with
    | ok manifest => exact absurd ⟨content, read, parsed⟩ (rejected manifest)
    | error error =>
      refine ⟨content, error, ?_⟩
      simp only [ofManifest, ManifestFile.load, ManifestFile.ofContent, Logged.andThen, Logged.map,
        parsed, Except.map]
      rfl

variable {logger : Logger} {response : Logged Response}

/-- What is printed is all on the standard output, and no file changes. -/
theorem carryOut_print {text : String} (prints : response.value = .print text) :
    EndsWith (carryOut logger response files) 0 text files := by
  simp only [EndsWith, carryOut, Outcome.ofResponse, prints, and_self]

/-- A manifest that is rejected leaves the standard output empty and all files as they were. -/
theorem carryOut_reject {source : String} {error : ManifestError}
    (rejects : response.value = .reject source error) :
    EndsWith (carryOut logger response files) 1 "" files := by
  simp only [EndsWith, carryOut, Outcome.ofResponse, rejects, and_self]

section Save

variable {path text : String} {declarations : Nat}
  (saves : response.value = .save path text declarations)

include saves

/-- What is saved to a file is not on the standard output. -/
theorem carryOut_save {place : FilePlace} (written : files.sink path = .ok (.file place)) :
    EndsWith (carryOut logger response files) 0 "" (files.write text (.file place)) := by
  simp only [EndsWith, carryOut, Outcome.ofResponse, Outcome.withText, saves, written, Except.map,
    and_self]

/-- What goes to a device changes no file, and is on the standard output if that is the device. -/
theorem carryOut_device {device : Device} (written : files.sink path = .ok (.device device)) :
    EndsWith (carryOut logger response files) 0 (if device = .output then text else "") files := by
  cases device <;>
    simp [EndsWith, carryOut, Outcome.ofResponse, Outcome.withText, saves, written, Except.map,
      FileTree.write]

/-- What cannot be saved is not written anywhere. -/
theorem carryOut_unsaved {failure : FileFailure} (failed : files.sink path = .error failure) :
    EndsWith (carryOut logger response files) 1 "" files := by
  simp only [EndsWith, carryOut, Outcome.ofResponse, saves, failed, Except.map, and_self]

end Save

end Response

namespace Surroundings.Starts

variable {surroundings : Surroundings} {arguments : List String} {config : String}
  {manifest : Manifest}

/-- A check tells that an accepted manifest is valid, and how many declarations it has. -/
theorem ends_summary (checks : surroundings.Starts arguments (.check config))
    (holds : surroundings.files.Holds config manifest) :
    EndsWith (run surroundings arguments) 0
      ("✓ " ++ config ++ " is valid\n\n" ++ Census.summary manifest.toDeclarations.value)
      surroundings.files := by
  obtain ⟨logger, ran⟩ := checks.exists_run
  obtain ⟨content, responds⟩ := Response.value_ofManifest_of_holds holds
  rw [ran]
  exact Response.carryOut_print (responds Response.check)

/-- A check of an accepted manifest is a success. -/
theorem ends_check (checks : surroundings.Starts arguments (.check config))
    (holds : surroundings.files.Holds config manifest) :
    ∃ text, EndsWith (run surroundings arguments) 0 text surroundings.files :=
  ⟨_, checks.ends_summary holds⟩

/-- An accepted manifest is rendered to the standard output. -/
theorem ends_render (renders : surroundings.Starts arguments (.render config none))
    (holds : surroundings.files.Holds config manifest) :
    EndsWith (run surroundings arguments) 0 manifest.render.value surroundings.files := by
  obtain ⟨logger, ran⟩ := renders.exists_run
  obtain ⟨content, responds⟩ := Response.value_ofManifest_of_holds holds
  rw [ran]
  exact Response.carryOut_print (responds (Response.render none))

/-- An accepted manifest is carried out by saving its module. -/
theorem exists_save {output : String}
    (saves : surroundings.Starts arguments (.render config (some output)))
    (holds : surroundings.files.Holds config manifest) :
    ∃ logger response,
      response.value = Response.save output manifest.render.value manifest.entries.length ∧
      run surroundings arguments = Response.carryOut logger response surroundings.files := by
  obtain ⟨logger, ran⟩ := saves.exists_run
  obtain ⟨content, responds⟩ := Response.value_ofManifest_of_holds holds
  exact ⟨logger, _, responds (Response.render (some output)), ran⟩

/-- No action goes on without the manifest it reads. -/
theorem ends_rejected {action : Action} (starts : surroundings.Starts arguments action)
    (reads : action.manifestPath? = some config)
    (rejected : ¬ ∃ manifest, surroundings.files.Holds config manifest) :
    EndsWith (run surroundings arguments) 1 "" surroundings.files := by
  obtain ⟨logger, ran⟩ := starts.exists_run
  rw [ran]
  have none := not_exists.mp rejected
  -- Both commands that read a manifest answer a rejected one in the same way.
  cases action with
  | completions shell => cases reads
  | check path =>
    cases reads
    obtain ⟨source, error, rejects⟩ := Response.exists_reject_of_not_holds none Response.check
    exact Response.carryOut_reject rejects
  | render path output =>
    cases reads
    obtain ⟨source, error, rejects⟩ :=
      Response.exists_reject_of_not_holds none (Response.render output)
    exact Response.carryOut_reject rejects

/-- What ends well with every manifest ends well exactly where there is one. -/
theorem code_eq_zero_iff {action : Action} (starts : surroundings.Starts arguments action)
    (reads : action.manifestPath? = some config)
    (accepted : ∀ manifest, surroundings.files.Holds config manifest →
      (run surroundings arguments).1.code = 0) :
    (run surroundings arguments).1.code = 0 ↔
      ∃ manifest, surroundings.files.Holds config manifest := by
  refine ⟨fun success => ?_, fun ⟨manifest, holds⟩ => accepted manifest holds⟩
  -- Without a manifest the code would be another one.
  by_contra rejected
  rw [(starts.ends_rejected reads rejected).1] at success
  cases success

end Surroundings.Starts

section

variable {surroundings : Surroundings} {checking rendering saving : List String}
  {config output : String}

/--
A check and a rendering agree about a manifest, and files change only where it is accepted.

The module is left in the file it is saved to, also if that is the manifest; a device, unlike a
file, keeps nothing.
-/
theorem commands_agree (checks : surroundings.Starts checking (.check config))
    (renders : surroundings.Starts rendering (.render config none))
    (saves : surroundings.Starts saving (.render config (some output))) :
    ((run surroundings checking).1.code = 0 ↔
      ∃ manifest, surroundings.files.Holds config manifest) ∧
    ((run surroundings rendering).1.code = 0 ↔
      ∃ manifest, surroundings.files.Holds config manifest) ∧
    (∀ manifest, surroundings.files.Holds config manifest →
      (run surroundings checking).2 = surroundings.files ∧
      EndsWith (run surroundings rendering) 0 manifest.render.value surroundings.files ∧
      (∀ place, surroundings.files.sink output = .ok (.file place) →
        (run surroundings saving).1.code = 0 ∧
        (run surroundings saving).1.stdout = "" ∧
        (run surroundings saving).2.read output = .ok manifest.render.value ∧
        (run surroundings saving).2.node? place = some (.file manifest.render.value.toUTF8) ∧
        ∀ other, other ≠ place →
          (run surroundings saving).2.node? other = surroundings.files.node? other) ∧
      (∀ device, surroundings.files.sink output = .ok (.device device) →
        EndsWith (run surroundings saving) 0
          (if device = .output then manifest.render.value else "") surroundings.files) ∧
      (∀ failure, surroundings.files.sink output = .error failure →
        EndsWith (run surroundings saving) 1 "" surroundings.files)) ∧
    ((¬ ∃ manifest, surroundings.files.Holds config manifest) →
      EndsWith (run surroundings checking) 1 "" surroundings.files ∧
      EndsWith (run surroundings rendering) 1 "" surroundings.files ∧
      EndsWith (run surroundings saving) 1 "" surroundings.files) := by
  have check : ∀ manifest, surroundings.files.Holds config manifest →
      ∃ text, EndsWith (run surroundings checking) 0 text surroundings.files :=
    fun _ => checks.ends_check
  have render : ∀ manifest, surroundings.files.Holds config manifest →
      EndsWith (run surroundings rendering) 0 manifest.render.value surroundings.files :=
    fun _ => renders.ends_render
  -- Whether a run succeeds depends on the manifest alone, but for a file that cannot be written.
  refine ⟨checks.code_eq_zero_iff rfl fun manifest holds => ?_,
    renders.code_eq_zero_iff rfl fun manifest holds => (render manifest holds).1,
    fun manifest holds => ?_,
    fun rejected => ⟨checks.ends_rejected rfl rejected, renders.ends_rejected rfl rejected,
      saves.ends_rejected rfl rejected⟩⟩
  · -- The text of the check plays no part, only its code and the files it leaves.
    obtain ⟨text, ends⟩ := check manifest holds
    exact ends.1
  · obtain ⟨text, ends⟩ := check manifest holds
    obtain ⟨logger, response, saved, ran⟩ := saves.exists_save holds
    rw [ran]
    refine ⟨ends.2.2, render manifest holds, fun place written => ?_,
      fun device written => Response.carryOut_device saved written,
      fun failure failed => Response.carryOut_unsaved saved failed⟩
    obtain ⟨code, stdout, left⟩ := Response.carryOut_save saved written
    rw [left]
    exact ⟨code, stdout, FileTree.read_write written _⟩

/-- A module replaces the manifest it is rendered from. -/
theorem commands_agree_in_place :
    ∃ surroundings manifest,
      surroundings.files.nodes = [(["m"], .file "[[declarations]]\nname = 'R'".toUTF8)] ∧
      surroundings.Starts ["check", "-c", "m"] (.check "m") ∧
      surroundings.Starts ["render", "-c", "m"] (.render "m" none) ∧
      surroundings.Starts ["render", "-c", "m", "-o", "m"] (.render "m" (some "m")) ∧
      surroundings.files.Holds "m" manifest ∧
      surroundings.files.sink "m" = .ok (.file ["m"]) ∧
      (run surroundings ["check", "-c", "m"]).1.code = 0 ∧
      (run surroundings ["render", "-c", "m", "-o", "m"]).2.read "m" =
        .ok manifest.render.value := by
  have isPath : IsValue "m" := ⟨by decide, by decide⟩
  generalize text : "[[declarations]]\nname = 'R'" = source
  -- The one file is both the manifest and the place that the module is written to.
  let surroundings : Surroundings := { files := ⟨[(["m"], .file source.toUTF8)]⟩ }
  have checks : surroundings.Starts ["check", "-c", "m"] (.check "m") :=
    Surroundings.starts_of_read rfl (read_check isPath)
  have renders : surroundings.Starts ["render", "-c", "m"] (.render "m" none) :=
    Surroundings.starts_of_read rfl (read_render isPath)
  have saves : surroundings.Starts ["render", "-c", "m", "-o", "m"] (.render "m" (some "m")) :=
    Surroundings.starts_of_read rfl (read_save isPath isPath)
  have content : surroundings.files.read "m" = .ok source := FileTree.read_eq_of_file rfl rfl
  have written : surroundings.files.sink "m" = .ok (.file ["m"]) := rfl
  -- The kernel accepts the text, and all else follows from the theorem.
  have accepted : (Manifest.parse source "m").value.toOption.isSome := by
    subst text
    decide +kernel
  cases parsed : (Manifest.parse source "m").value with
  | error error => simp [parsed, Except.toOption] at accepted
  | ok manifest =>
    have holds : surroundings.files.Holds "m" manifest := ⟨source, content, parsed⟩
    have agree := commands_agree checks renders saves
    exact ⟨surroundings, manifest, rfl, checks, renders, saves, holds, written,
      agree.1.mpr ⟨manifest, holds⟩, ((agree.2.2.1 manifest holds).2.2.1 _ written).2.2.1⟩

end

end DeclGen
