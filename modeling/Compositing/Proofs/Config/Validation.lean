import Compositing.Compositor.State
import Compositing.Proofs.Config.Channels

/-!
# Which configurations are accepted

A configuration is accepted for what it says, and a compositor can be created exactly from those that
are: every name that validation lets pass is that of a backend. Validation writes the level and the
format in lower case and touches nothing else, so what was accepted once is accepted again as it is. Main
statement: `Config.validate_decides`.
-/

namespace Compositing

/-! ### Names of backends -/

theorem Backend.exists_builtin_iff {name : String} :
    (∃ b, Backend.builtin name = .ok b) ↔ name ∈ Backend.builtinNames := by
  unfold Backend.builtin Backend.builtinNames
  split <;> simp_all

theorem Contexts.ofNames_known {names : List String}
    (known : ∀ name ∈ names, name ∈ Backend.builtinNames) :
    ∃ backends, Contexts.ofNames names = .ok { backends } := by
  -- Looking up a list of names fails at the first that fails, and none does.
  have made : ∃ backends, names.mapM Backend.builtin = .ok backends := by
    induction names with
    | nil => exact ⟨[], rfl⟩
    | cons name rest ih =>
      obtain ⟨b, first⟩ := Backend.exists_builtin_iff.2 (known name List.mem_cons_self)
      obtain ⟨bs, others⟩ := ih fun other member => known other (List.mem_cons_of_mem name member)
      exact ⟨b :: bs, by rw [List.mapM_cons, first, others]; rfl⟩
  obtain ⟨backends, made⟩ := made
  exact ⟨backends, by rw [Contexts.ofNames, made]; rfl⟩

namespace Config

variable {c : Config}

/-- What a configuration has to say to be accepted. -/
structure Acceptable (c : Config) : Prop where
  level : Text.lowercase c.logging.level ∈ ["trace", "debug", "info", "warn", "error"]
  format : Text.lowercase c.logging.format ∈ ["text", "json"]
  some_backend : c.render.backends ≠ []
  known : ∀ name ∈ c.render.backends, ∃ b, Backend.builtin name = .ok b
  channels : ∀ v ∈ c.render.clearColour.channels, ∃ q, Channel.number? v = some q ∧ 0 ≤ q ∧ q ≤ 1
  resolution : c.output.defaultResolution.width ≠ 0 ∧ c.output.defaultResolution.height ≠ 0

/-- The configuration with other names for the level and the format of the log. -/
def renamed (c : Config) (level format : String) : Config :=
  { c with logging := { c.logging with level, format } }

theorem checkValues_renamed (c : Config) (level format : String) :
    (c.renamed level format).checkValues = c.checkValues := rfl

theorem checkValues_ok_iff : c.checkValues = .ok () ↔
    c.render.backends ≠ [] ∧ (∀ name ∈ c.render.backends, ∃ b, Backend.builtin name = .ok b) ∧
    (∀ v ∈ c.render.clearColour.channels, ∃ q, Channel.number? v = some q ∧ 0 ≤ q ∧ q ≤ 1) ∧
    c.output.defaultResolution.width ≠ 0 ∧ c.output.defaultResolution.height ≠ 0 := by
  simp only [Backend.exists_builtin_iff, ← Colour.inRange_iff]
  unfold checkValues
  by_cases empty : c.render.backends = []
  · simp [empty]
  · rw [if_neg (by simpa using empty)]
    cases found : c.render.backends.find? fun name => name ∉ Backend.builtinNames with
    | some name =>
      have unknown : name ∉ Backend.builtinNames := by simpa using List.find?_some found
      refine iff_of_false (by simp) fun values => ?_
      exact unknown (values.2.1 name (List.mem_of_find?_eq_some found))
    | none =>
      have known : ∀ name ∈ c.render.backends, name ∈ Backend.builtinNames := by
        simpa using found
      cases range : c.render.clearColour.inRange <;> simp [empty, Size.isProper]
      exact fun _ _ => known

theorem checkLevel_eq (c : Config) : c.checkLevel =
    if Text.lowercase c.logging.level ∈ LogLevel.names then
      .ok (c.renamed (Text.lowercase c.logging.level) c.logging.format)
    else .error (.level c.logging.level) := rfl

theorem checkFormat_renamed (c : Config) (level : String) :
    (c.renamed level c.logging.format).checkFormat =
      if Text.lowercase c.logging.format ∈ formatNames then
        .ok (c.renamed level (Text.lowercase c.logging.format))
      else .error (.format c.logging.format) := rfl

/-- Validation stops at a level that it does not know, then at such a format, and checks the other values
last. -/
theorem validate_cases (c : Config) :
    (Text.lowercase c.logging.level ∉ LogLevel.names ∧
      c.validate = (.error (.level c.logging.level), c)) ∨
    (Text.lowercase c.logging.level ∈ LogLevel.names ∧
      Text.lowercase c.logging.format ∉ formatNames ∧
      c.validate = (.error (.format c.logging.format),
        c.renamed (Text.lowercase c.logging.level) c.logging.format)) ∨
    (Text.lowercase c.logging.level ∈ LogLevel.names ∧
      Text.lowercase c.logging.format ∈ formatNames ∧
      c.validate = (c.checkValues,
        c.renamed (Text.lowercase c.logging.level) (Text.lowercase c.logging.format))) := by
  unfold validate
  by_cases level : Text.lowercase c.logging.level ∈ LogLevel.names
  · rw [checkLevel_eq, if_pos level]
    by_cases format : Text.lowercase c.logging.format ∈ formatNames
    · exact .inr (.inr ⟨level, format, by simp only [checkFormat_renamed, if_pos format]; rfl⟩)
    · exact .inr (.inl ⟨level, format, by simp only [checkFormat_renamed, if_neg format]⟩)
  · rw [checkLevel_eq, if_neg level]
    exact .inl ⟨level, rfl⟩

theorem validate_ok_iff : c.validate.1 = .ok () ↔ c.Acceptable := by
  rcases c.validate_cases with ⟨level, outcome⟩ | ⟨level, format, outcome⟩ | ⟨level, format, outcome⟩
  · rw [outcome]
    exact iff_of_false (by simp) fun acceptable => level acceptable.level
  · rw [outcome]
    exact iff_of_false (by simp) fun acceptable => format acceptable.format
  · rw [outcome, checkValues_ok_iff]
    exact ⟨fun ⟨backends, known, channels, resolution⟩ =>
        ⟨level, format, backends, known, channels, resolution⟩,
      fun acceptable => ⟨acceptable.some_backend, acceptable.known, acceptable.channels,
        acceptable.resolution⟩⟩

/-- Names that are accepted stay as they are in lower case. -/
theorem lowercase_known {name : String} (known : name ∈ LogLevel.names ++ formatNames) :
    Text.lowercase name = name := by
  revert name
  decide +kernel

/-- What was accepted is in lower case afterwards, and is accepted again as it is. -/
theorem validate_again (accepted : c.validate.1 = .ok ()) :
    c.validate.2 = c.renamed (Text.lowercase c.logging.level) (Text.lowercase c.logging.format) ∧
      c.validate.2.validate = (.ok (), c.validate.2) := by
  have acceptable := validate_ok_iff.1 accepted
  rcases c.validate_cases with ⟨level, -⟩ | ⟨-, format, -⟩ | ⟨level, format, outcome⟩
  · exact absurd acceptable.level level
  · exact absurd acceptable.format format
  · rw [outcome] at accepted ⊢
    refine ⟨rfl, ?_⟩
    -- The new names are their own lower case, so they pass again, and are not changed.
    have same := lowercase_known (List.mem_append_left _ level)
    have same' := lowercase_known (List.mem_append_right _ format)
    rcases (c.renamed (Text.lowercase c.logging.level)
      (Text.lowercase c.logging.format)).validate_cases with
      ⟨refused, -⟩ | ⟨-, refused, -⟩ | ⟨-, -, again⟩
    · exact absurd (same.symm ▸ level) refused
    · exact absurd (same'.symm ▸ format) refused
    · have values : c.checkValues = .ok () := accepted
      rw [again, checkValues_renamed, values]
      exact Prod.ext rfl (congrArg₂ c.renamed same same')

/-- Only the level and the format are written anew, whether all values are accepted or not. -/
theorem validate_renames (c : Config) :
    ∃ level ∈ [c.logging.level, Text.lowercase c.logging.level],
    ∃ format ∈ [c.logging.format, Text.lowercase c.logging.format],
      c.validate.2 = c.renamed level format := by
  -- Neither name is new, or the level alone, or both of them.
  rcases c.validate_cases with ⟨-, outcome⟩ | ⟨-, -, outcome⟩ | ⟨-, -, outcome⟩
  · exact ⟨_, by simp, _, by simp, congrArg Prod.snd outcome⟩
  · exact ⟨_, by simp, _, by simp, congrArg Prod.snd outcome⟩
  · exact ⟨_, by simp, _, by simp, congrArg Prod.snd outcome⟩

/-! ### Creating a compositor -/

theorem ofConfig_error {fault : ConfigFault} (refused : c.validate.1 = .error fault) :
    Compositor.ofConfig c = .error (.config fault) := by
  unfold Compositor.ofConfig
  simp only [refused]
  rfl

theorem ofConfig_ok (accepted : c.validate.1 = .ok ()) :
    ∃ backends, Compositor.ofConfig c = .ok { config := c.validate.2, contexts := { backends } } := by
  -- The names that are looked up are those that were checked.
  have acceptable := validate_ok_iff.1 accepted
  have named : c.validate.2.render.backends = c.render.backends := by
    rw [(validate_again accepted).1]
    rfl
  obtain ⟨backends, made⟩ := Contexts.ofNames_known fun name member =>
    Backend.exists_builtin_iff.1 (acceptable.known name member)
  refine ⟨backends, ?_⟩
  unfold Compositor.ofConfig
  simp only [accepted, named, made]
  rfl

/-- Validation decides whether a compositor is created, and the error says what validation found. It
accepts exactly what is acceptable, changes nothing but the case of the level and the format, and accepts
what it accepted once more, without a change. -/
theorem validate_decides (c : Config) :
    ((∃ compositor, Compositor.ofConfig c = .ok compositor) ↔ c.validate.1 = .ok ()) ∧
    (∀ e, Compositor.ofConfig c = .error e → ∃ fault, c.validate.1 = .error fault ∧ e = .config fault) ∧
    (c.validate.1 = .ok () ↔ c.Acceptable) ∧
    (∃ level ∈ [c.logging.level, Text.lowercase c.logging.level],
      ∃ format ∈ [c.logging.format, Text.lowercase c.logging.format],
        c.validate.2 = { c with logging := { c.logging with level, format } }) ∧
    (c.validate.1 = .ok () → c.validate.2.logging.level = Text.lowercase c.logging.level ∧
      c.validate.2.logging.format = Text.lowercase c.logging.format ∧
      c.validate.2.validate = (.ok (), c.validate.2)) := by
  refine ⟨?_, ?_, validate_ok_iff, validate_renames c, fun accepted => ?_⟩
  · cases checked : c.validate.1 with
    | error fault => simp [ofConfig_error checked]
    | ok done =>
      obtain ⟨backends, created⟩ := ofConfig_ok checked
      exact iff_of_true ⟨_, created⟩ rfl
  · intro e failed
    cases checked : c.validate.1 with
    | error fault => exact ⟨fault, rfl, Except.error.inj (failed.symm.trans (ofConfig_error checked))⟩
    | ok done =>
      obtain ⟨backends, created⟩ := ofConfig_ok checked
      cases created.symm.trans failed
  · obtain ⟨lowered, again⟩ := validate_again accepted
    exact ⟨by rw [lowered]; rfl, by rw [lowered]; rfl, again⟩

/-- A configuration whose names are written in capitals, with both ends of the range in its colour. -/
def shouted : Config :=
  { logging := { level := "DEBUG", filePath := some "log", format := "Json" }
    render := { backends := ["egl", "software"], clearColour := ⟨0, 0.5, 1, 1⟩ } }

/-- The same with a channel that is no number. -/
def blurred : Config :=
  { shouted with render := { shouted.render with clearColour := ⟨0, 0.5, 0 / 0, 1⟩ } }

theorem validate_decides_shouted :
    shouted.validate.1 = .ok () ∧ shouted.validate.2.logging.level = "debug" ∧
      shouted.validate.2.validate = (.ok (), shouted.validate.2) ∧
      Compositor.ofConfig blurred = .error (.config (.clearColour blurred.render.clearColour)) ∧
      ∃ fault, blurred.validate.1 = .error fault := by
  have accepted : shouted.validate.1 = .ok () := rfl
  have refused : Compositor.ofConfig blurred =
    .error (.config (.clearColour blurred.render.clearColour)) := rfl
  obtain ⟨-, -, -, -, again⟩ := validate_decides shouted
  obtain ⟨-, told, -⟩ := validate_decides blurred
  obtain ⟨fault, found, -⟩ := told _ refused
  exact ⟨accepted, (again accepted).1, (again accepted).2.2, refused, fault, found⟩

end Config

end Compositing
