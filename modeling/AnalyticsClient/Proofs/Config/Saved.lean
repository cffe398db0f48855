import AnalyticsClient.Proofs.Config.Files
import AnalyticsClient.Proofs.Config.Text

/-! What is found of configurations in files: what was saved, unless it is out of range, and
whatever was there before the default one was asked for. -/

namespace AnalyticsClient

open Wire (bind_eq_ok then_eq_ok)

namespace Config

/-- Whether a configuration is within its ranges. -/
def InRange (config : Config) : Prop :=
  1 ≤ config.managementTimeoutMs.toNat ∧ 1 ≤ config.queryTimeoutMs.toNat
    ∧ 1 ≤ config.stream.rowBuffer.toNat ∧ config.stream.rowBuffer.toNat ≤ maxRowBuffer.toNat

/-- The calls that write no configuration of their own. -/
inductive FileCall where
  | load (path : String)
  | saveDefaultIfMissing (path : String)

/-- The files after a call that may have written one: a call that fails leaves them as they are. -/
def settled (tree : FileTree) : Outcome FileTree → FileTree
  | .ok later => later
  | .error _ => tree

/-- The files after a call. -/
def afterCall (tree : FileTree) : FileCall → FileTree
  | .load _ => tree
  | .saveDefaultIfMissing path => settled tree (Config.saveDefaultIfMissing tree path)

/-- The files after some calls. -/
def afterCalls (tree : FileTree) (calls : List FileCall) : FileTree := calls.foldl afterCall tree

/-- A configuration passes its check where it is within its ranges. -/
theorem validate_eq_ok_iff {config : Config} : config.validate = .ok () ↔ config.InRange := by
  -- The check compares words, and the ranges speak of their numbers.
  have zero (word : UInt64) : word = 0 ↔ word.toNat = 0 := by
    rw [← UInt64.toNat_inj]
    rfl
  unfold validate defect? InRange
  simp only [zero, UInt64.lt_iff_toNat_lt]
  -- The ranges are looked at one after the other, up to the first one that is left.
  by_cases management : config.managementTimeoutMs.toNat = 0
  · simp [management]
  by_cases query : config.queryTimeoutMs.toNat = 0
  · simp [management, query]
  by_cases empty : config.stream.rowBuffer.toNat = 0
  · simp [management, query, empty]
  by_cases large : maxRowBuffer.toNat < config.stream.rowBuffer.toNat
  · simp [management, query, empty, large]
  · simp only [management, query, empty, large, if_false, true_iff]
    omega

/-- A check that fails tells the reason. -/
theorem exists_reason {config : Config} {error : Error} (failed : config.validate = .error error) :
    ∃ reason, error = .config reason := by
  unfold validate at failed
  split at failed
  · cases failed
    exact ⟨_, rfl⟩
  · cases failed

/-- A configuration is read from its own text where it is within its ranges. -/
theorem ofToml_document {config : Config} (printable : config.Printable) :
    ofToml (Toml.document config.lines) = config.validate.map fun _ => config := by
  rw [ofToml, readToml_document printable]

/-- What is read from a text is within its ranges. -/
theorem inRange_of_ofToml {config : Config} {text : String} (read : ofToml text = .ok config) :
    config.InRange := by
  unfold ofToml at read
  split at read
  · cases read
  -- A text that is read is checked before it is handed over.
  · next found _ =>
    cases valid : found.validate with
    | error error =>
      rw [valid] at read
      cases read
    | ok passed =>
      rw [valid] at read
      cases read
      exact validate_eq_ok_iff.1 valid

section

variable {config : Config} {tree later : FileTree} {path : String}

/-- What is loaded is within its ranges. -/
theorem inRange_of_load (loaded : load tree path = .ok config) : config.InRange := by
  obtain ⟨text, -, loaded⟩ := bind_eq_ok.1 loaded
  split at loaded
  · cases loaded
  · exact inRange_of_ofToml loaded

/-- A text is loaded as what it says, or refused for what is wrong with it. -/
theorem load_of_read {text : String} (read : tree.read path = .ok text) :
    (∀ config, ofToml text = .ok config → load tree path = .ok config)
      ∧ ∀ reason, ofToml text = .error (.config reason) →
        load tree path = .error (.config (tree.shown path ++ ": " ++ reason)) := by
  -- The path only goes before the reason; what is read is handed over as it is.
  constructor
  · intro config found
    simp only [load, read, found, Except.mapError, bind, Except.bind]
  · intro reason found
    simp only [load, read, found, Except.mapError, bind, Except.bind]

/-- A call that writes no configuration of its own loses nothing. -/
theorem keeps_afterCall (tree : FileTree) (call : FileCall) :
    tree.Keeps (afterCall tree call) := by
  cases call with
  | load path => exact .refl tree
  | saveDefaultIfMissing path =>
    simp only [afterCall, saveDefaultIfMissing]
    by_cases there : tree.reaches path = true
    · rw [if_pos there]
      exact .refl tree
    · rw [if_neg there]
      -- Nothing is found at the path, so nothing is written over.
      cases written : tree.write path defaultToml.toUTF8 with
      | error fault => exact .refl tree
      | ok later => exact FileTree.keeps_write (Bool.not_eq_true _ ▸ there) written

/-- Calls that write no configuration of their own lose nothing. -/
theorem keeps_afterCalls (calls : List FileCall) :
    ∀ tree : FileTree, tree.Keeps (afterCalls tree calls) := by
  -- The files change from call to call, so they stay quantified over.
  induction calls with
  | nil => exact FileTree.Keeps.refl
  | cons call rest ih => exact fun tree => (keeps_afterCall tree call).trans (ih _)

/-- What could be read can be read where nothing was lost. -/
theorem read_of_keeps {text : String} (keeps : tree.Keeps later)
    (read : tree.read path = .ok text) : later.read path = .ok text := by
  obtain ⟨node, found, read⟩ := bind_eq_ok.1 read
  simp only [FileTree.read, keeps.find found, bind, Except.bind]
  exact read

end

/-- A configuration that was saved is found as it is, or refused for what is out of range, whichever
calls were made since that write no configuration of their own; and it is not saved at all if a
number of it does not fit whole numbers of TOML. -/
theorem save_exact (config : Config) {tree : FileTree} {path : String}
    (writable : tree.Writable path) :
    (config.Printable → ∃ text later place, config.toToml = .ok text
      ∧ config.save tree path = .ok later ∧ later.read path = .ok text
      ∧ (∀ other, other ≠ place → later.node? other = tree.node? other)
      ∧ ∀ calls,
        (config.validate = .ok () → load (afterCalls later calls) path = .ok config)
        ∧ ∀ error, config.validate = .error error → ∃ reason, error = .config reason
          ∧ load (afterCalls later calls) path
            = .error (.config (tree.shown path ++ ": " ++ reason)))
    ∧ (¬ config.Printable → config.toToml = .error .outOfRange
      ∧ config.save tree path = .error (.config TomlFault.outOfRange.reason)
      ∧ settled tree (config.save tree path) = tree) := by
  constructor
  · intro printable
    have written := toToml_eq_ok printable
    obtain ⟨later, place, wrote, root, read, others⟩ :=
      FileTree.exists_write writable (Toml.document config.lines)
    refine ⟨_, later, place, written, ?_, read, others, fun calls => ?_⟩
    · simp only [save, written, wrote, Except.mapError, bind, Except.bind]
    · -- The file that was written is among those that are not lost.
      have keeps := keeps_afterCalls calls later
      have shown : (afterCalls later calls).shown path = tree.shown path := by
        simp only [FileTree.shown, keeps.root, root]
      obtain ⟨loaded, refused⟩ := load_of_read (read_of_keeps keeps read)
      have made := ofToml_document printable
      constructor
      · intro valid
        rw [valid] at made
        exact loaded config made
      · intro error failed
        obtain ⟨reason, rfl⟩ := exists_reason failed
        rw [failed] at made
        refine ⟨reason, rfl, ?_⟩
        rw [← shown]
        exact refused reason made
  · intro large
    -- The text is made before the file is touched, and there is none.
    have textless := toToml_eq_error large
    have failed : config.save tree path = .error (.config TomlFault.outOfRange.reason) := by
      simp only [save, textless, Except.mapError, bind, Except.bind]
    refine ⟨textless, failed, ?_⟩
    rw [failed]
    rfl

/-- The default configuration is within its ranges. -/
theorem validate_default : (default : Config).validate = .ok () := by
  decide

/-- Where a file was missing, the default configuration is found once it was asked for, whichever
calls were made since that write no configuration of their own. -/
theorem default_found {tree : FileTree} {path : String} (vacant : tree.Vacant path) :
    ∃ later, saveDefaultIfMissing tree path = .ok later
      ∧ ∀ calls, load (afterCalls later calls) path = .ok default := by
  obtain ⟨later, place, wrote, -, read, -⟩ := FileTree.exists_write (.inl vacant) defaultToml
  -- No file is there, so the text that explains the default configuration is written.
  have missing : ¬ tree.reaches path = true := by simp [vacant.reaches]
  have made : ofToml defaultToml = .ok default := by
    rw [ofToml, readToml_defaultToml]
    simp only [validate_default, Except.map]
  refine ⟨later, ?_, fun calls => ?_⟩
  · simp only [saveDefaultIfMissing, if_neg missing, wrote, Except.mapError]
  · exact (load_of_read (read_of_keeps (keeps_afterCalls calls later) read)).1 _ made

/-- A configuration that is saved in a file that can be written is found there as it is, or refused
for what is out of range; no text is made of one with a number that does not fit whole numbers of
TOML, so that nothing is saved. Calls that write no configuration of their own leave alone what any
path leads to, and give a missing file the default configuration. Whatever is found is within its
ranges. -/
theorem files_faithful (config : Config) (tree : FileTree) (path : String) :
    (tree.Writable path →
      (config.Printable → ∃ text later place, config.toToml = .ok text
        ∧ config.save tree path = .ok later ∧ later.read path = .ok text
        ∧ (∀ other, other ≠ place → later.node? other = tree.node? other)
        ∧ ∀ calls,
          (config.validate = .ok () → load (afterCalls later calls) path = .ok config)
          ∧ ∀ error, config.validate = .error error → ∃ reason, error = .config reason
            ∧ load (afterCalls later calls) path
              = .error (.config (tree.shown path ++ ": " ++ reason)))
      ∧ (¬ config.Printable → config.toToml = .error .outOfRange
        ∧ config.save tree path = .error (.config TomlFault.outOfRange.reason)
        ∧ settled tree (config.save tree path) = tree))
    ∧ (∀ calls other node, tree.find other = .ok node →
      (afterCalls tree calls).find other = .ok node)
    ∧ (tree.Vacant path → ∃ later, saveDefaultIfMissing tree path = .ok later
      ∧ ∀ calls, load (afterCalls later calls) path = .ok default)
    ∧ (∀ text, ofToml text = .ok config → config.InRange)
    ∧ (load tree path = .ok config → config.InRange) := by
  refine ⟨save_exact config, fun calls other node found => ?_, default_found,
    fun text => inRange_of_ofToml, inRange_of_load⟩
  exact (keeps_afterCalls calls tree).find found

/-- A configuration with the greatest number of TOML that is saved in an empty directory is found
there, whatever is asked for since. -/
theorem greatest_found :
    (FileTree.empty "/etc").Vacant fileName
      ∧ ∃ later, save ⟨0x7fffffffffffffff, 1, ⟨1⟩⟩ (.empty "/etc") fileName = .ok later
        ∧ load (afterCalls later [.saveDefaultIfMissing fileName, .load fileName]) fileName
          = .ok ⟨0x7fffffffffffffff, 1, ⟨1⟩⟩ := by
  have vacant : (FileTree.empty "/etc").Vacant fileName := by
    -- The name is short enough, and there is nothing of it in the directory.
    have noNul : ¬ '\x00' ∈ fileName.toList := by decide
    have short : ¬ FileTree.longestPath < ((FileTree.empty "/etc").shown fileName).utf8ByteSize := by
      decide
    have leads : (FileTree.empty "/etc").Leads fileName [fileName] :=
      ⟨by rw [FileTree.route, if_neg noNul, if_neg short], by decide, by decide⟩
    exact ⟨leads.find_none (by decide), leads.toFile, [], by decide, rfl⟩
  have printable : Printable ⟨0x7fffffffffffffff, 1, ⟨1⟩⟩ := by decide
  obtain ⟨found, -⟩ := files_faithful ⟨0x7fffffffffffffff, 1, ⟨1⟩⟩ (.empty "/etc") fileName
  obtain ⟨_, later, _, -, saved, -, -, loaded⟩ := (found (.inl vacant)).1 printable
  exact ⟨vacant, later, saved, (loaded _).1 (by decide)⟩

end Config

end AnalyticsClient
