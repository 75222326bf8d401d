import ImageJobs.Proofs.RemovalSocket

/-! The script of a removal as a shell cuts it into words. All of its words are known but those that
the image adds, and the image text is cut like the rest of the line, so that the script is the one
command it is meant to be only for image texts that are one plain word. -/

namespace ImageJobs

namespace Shell

/-- What a command line is cut at. -/
def isBlank (char : Char) : Bool :=
  char == ' ' || char == '\t' || char == '\n'

/-- The runs of a line between its blanks, as far as there is something in them. -/
def words (line : String) : List String :=
  ((line.toList.splitOnP isBlank).filter (· ≠ [])).map String.ofList

/-- The operators of a shell, and the characters that it takes for quotes and expansions. -/
def specials : List Char :=
  [';', '&', '|', '<', '>', '(', ')', '$', '\x60', '"', '\x27', '\\', '\n']

theorem words_append_space (left right : String) :
    words (left ++ " " ++ right) = words left ++ words right := by
  have cut : (left.toList ++ ' ' :: right.toList).splitOnP isBlank =
      left.toList.splitOnP isBlank ++ right.toList.splitOnP isBlank :=
    List.splitOnP_append_cons left.toList right.toList rfl
  simp [words, cut]

/-- A line that is put together with spaces has the words of its pieces. -/
theorem words_intercalate (pieces : List String) :
    words (" ".intercalate pieces) = pieces.flatMap words := by
  induction pieces with
  | nil => rfl
  | cons piece rest ih =>
    cases rest with
    | nil => simp
    | cons next rest =>
      rw [String.intercalate_cons_cons, words_append_space, ih, ← List.flatMap_cons]

private theorem not_blank_of_mem_splitOnP {line run : List Char}
    (member : run ∈ line.splitOnP isBlank) : ∀ char ∈ run, isBlank char = false := by
  induction line generalizing run with
  | nil => simp_all
  | cons head tail ih =>
    rw [List.splitOnP_cons_eq_if_modifyHead] at member
    split at member
    · rcases List.mem_cons.mp member with rfl | later
      · simp
      · exact ih later
    -- A character that is kept only makes the first run of the rest longer.
    · rename_i kept
      obtain ⟨first, others, runs⟩ := List.exists_cons_of_ne_nil (List.splitOnP_ne_nil isBlank tail)
      rw [runs, List.modifyHead_cons] at member
      rcases List.mem_cons.mp member with rfl | later
      · have rest : ∀ char ∈ first, isBlank char = false := ih (by simp [runs])
        exact List.forall_mem_cons.mpr ⟨Bool.not_eq_true _ ▸ kept, rest⟩
      · exact ih (by simp [runs, later])

/-- A text is one word exactly if there is something in it and no blank. -/
theorem words_eq_singleton_iff {text : String} :
    words text = [text] ↔ text ≠ "" ∧ ∀ char ∈ text.toList, isBlank char = false := by
  constructor
  · intro one
    have member : text ∈ words text := by simp [one]
    obtain ⟨run, kept, rfl⟩ := List.mem_map.mp member
    obtain ⟨found, notEmpty⟩ := List.mem_filter.mp kept
    refine ⟨?_, ?_⟩
    · simpa using notEmpty
    · simpa using not_blank_of_mem_splitOnP found
  · rintro ⟨notEmpty, unbroken⟩
    rw [words, List.splitOnP_eq_singleton unbroken]
    simp [notEmpty]

end Shell

/-- With the engine's own socket each piece of the call of the client is one word. -/
theorem Engine.words_clientWords (engine : Engine) :
    (engine.clientWords engine.defaultSocket).flatMap Shell.words =
      engine.clientWords engine.defaultSocket := by
  cases engine <;> decide +kernel

namespace Removal

theorem words_script (command : String) :
    Shell.words (script command) =
      "exec" :: (Shell.words command ++ [">", "/dev/termination-log", "2>&1"]) := by
  have front : "exec " = "exec" ++ " " := by decide
  have back : " > /dev/termination-log 2>&1" = " " ++ "> /dev/termination-log 2>&1" := by decide
  have first : Shell.words "exec" = ["exec"] := by decide +kernel
  have last : Shell.words "> /dev/termination-log 2>&1" =
      [">", "/dev/termination-log", "2>&1"] := by decide +kernel
  rw [script, front, back, ← String.append_assoc, Shell.words_append_space,
    Shell.words_append_space, first, last, List.append_assoc, List.singleton_append]

/-- The script is one simple command with the image as its last argument, and nothing in the image
means more to a shell than itself. -/
structure RunsOneCommand (engine : Engine) (image script : String) : Prop where
  words : Shell.words script =
    "exec" :: (engine.clientWords engine.defaultSocket ++
      [image, ">", "/dev/termination-log", "2>&1"])
  literal : ∀ char ∈ image.toList, char ∉ Shell.specials

theorem runsOneCommand_iff {engine : Engine} {image script : String}
    (cut : Shell.words script = "exec" :: (engine.clientWords engine.defaultSocket ++
      Shell.words image ++ [">", "/dev/termination-log", "2>&1"])) :
    RunsOneCommand engine image script ↔
      image ≠ "" ∧ ∀ char ∈ image.toList,
        Shell.isBlank char = false ∧ char ∉ Shell.specials := by
  constructor
  · rintro ⟨words, literal⟩
    have same : Shell.words image ++ [">", "/dev/termination-log", "2>&1"] =
        [image] ++ [">", "/dev/termination-log", "2>&1"] := by
      rw [cut] at words
      simpa using words
    have one : Shell.words image = [image] := List.append_cancel_right same
    obtain ⟨notEmpty, unbroken⟩ := Shell.words_eq_singleton_iff.mp one
    exact ⟨notEmpty, fun char member => ⟨unbroken char member, literal char member⟩⟩
  · rintro ⟨notEmpty, plain⟩
    have one : Shell.words image = [image] :=
      Shell.words_eq_singleton_iff.mpr ⟨notEmpty, fun char member => (plain char member).1⟩
    refine ⟨?_, fun char member => (plain char member).2⟩
    rw [cut, one, List.append_assoc, List.singleton_append]

end Removal

/-- Without a socket of the operator's, a removal's script has the words of the engine's client, then
those that the image is cut into, and then those of the redirection. So it runs one command, with the
image as one argument, exactly if the image is one word of plain characters. -/
theorem one_command_iff_plain_image {removal : Removal} {settings : Settings} {job : Job}
    (built : (removal.job settings).value = .ok job)
    (unset : settings.criSocketPath = none ∨ settings.criSocketPath = some "") :
    let engine := Engine.ofVersion removal.engineVersion
    ∃ container script, job.pod.containers = [container] ∧ container.command = ["/bin/bash"] ∧
      container.args = ["-c", script] ∧
      Shell.words script = "exec" :: (engine.clientWords engine.defaultSocket ++
        Shell.words removal.image ++ [">", "/dev/termination-log", "2>&1"]) ∧
      (Removal.RunsOneCommand engine removal.image script ↔
        removal.image ≠ "" ∧ ∀ char ∈ removal.image.toList,
          Shell.isBlank char = false ∧ char ∉ Shell.specials) := by
  intro engine
  let command := engine.removalCommand removal.image settings.socketPath
  have given : settings.socketPath = none := Settings.nonEmpty_eq_none_iff.mpr unset
  have line : command.line = engine.removalLine engine.defaultSocket removal.image := by
    simp only [command, given]
    cases engine <;> rfl
  -- Only the image is cut: all other pieces of the line are words already.
  have cut : Shell.words (Removal.script command.line) =
      "exec" :: (engine.clientWords engine.defaultSocket ++ Shell.words removal.image ++
        [">", "/dev/termination-log", "2>&1"]) := by
    rw [Removal.words_script, line, Engine.removalLine_eq_intercalate, Shell.words_intercalate,
      List.flatMap_append, engine.words_clientWords, List.flatMap_singleton]
  exact ⟨_, _, congrArg PodBody.containers (Removal.body_of_job built), rfl, rfl, cut,
    Removal.runsOneCommand_iff cut⟩

/-- A reference with a version tag is one plain word. -/
theorem one_command_of_version_tag :
    let removal : Removal :=
      { cache := some (.ofOwner "edge" "ops" "7d0e"), image := "redis:7.4"
        node := .ofHost "edge-7", engineVersion := "cri-o://1.28.1" }
    ∃ job container script, (removal.job .default).value = .ok job ∧
      job.pod.containers = [container] ∧ container.args = ["-c", script] ∧
      Removal.RunsOneCommand (Engine.ofVersion "cri-o://1.28.1") "redis:7.4" script := by
  intro removal
  obtain ⟨job, built⟩ := removal.exists_job rfl rfl .default
  have plain : ∀ char ∈ "redis:7.4".toList,
      Shell.isBlank char = false ∧ char ∉ Shell.specials := by
    simp [Shell.isBlank, Shell.specials]
  obtain ⟨container, script, one, -, args, -, runs⟩ := one_command_iff_plain_image built (.inl rfl)
  exact ⟨job, container, script, built, one, args, runs.mpr ⟨by decide, plain⟩⟩

/-- An operator in the image text makes a second command of the rest, and takes the redirection away
from the client. -/
theorem ampersand_in_image_starts_command :
    ¬∀ (removal : Removal) (settings : Settings) (job : Job),
      (removal.job settings).value = .ok job →
      settings.criSocketPath = none ∨ settings.criSocketPath = some "" →
        ∃ container script, job.pod.containers = [container] ∧ container.args = ["-c", script] ∧
          Removal.RunsOneCommand (Engine.ofVersion removal.engineVersion) removal.image script := by
  intro safe
  let removal : Removal :=
    { cache := some (.ofOwner "edge" "ops" "7d0e"), image := "nginx:1.27.2 & reboot"
      node := .ofHost "edge-7", engineVersion := "containerd://1.7.22" }
  obtain ⟨job, built⟩ := removal.exists_job rfl rfl .default
  obtain ⟨_, _, _, _, one⟩ := safe removal .default job built (.inl rfl)
  exact one.literal '&' (by decide) (by decide)

end ImageJobs
