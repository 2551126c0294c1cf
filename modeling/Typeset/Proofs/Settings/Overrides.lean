import Typeset.Proofs.Settings.Environment
import Typeset.Proofs.Text.Number

/-!
The settings that are left when variables are read one after the other.  Each setting is that of the
last variable that makes it, so a second reading changes nothing.  Where a value is refused, the
settings are those that the variables before it leave.
-/

namespace Typeset

namespace Environment

variable {name value : Text} {environment other : Environment}

/-- Flags with a quote that does not end, or a level that is no number below 256. -/
def Invalid (name value : Text) : Prop :=
  (name = "TEXFEED_FLAGS" ∧ ShellWords.words? value = none) ∨
    (name = "TEXFEED_WARN_LEVEL" ∧ Text.trim value ≠ [] ∧
      ∀ level < 256, ¬Text.Spells (Text.trim value) level)

theorem exists_error_iff {level : Text} :
    (∃ fault, Text.numberBelow 256 level = .error fault) ↔
      ∀ number < 256, ¬Text.Spells level number := by
  constructor
  · rintro ⟨fault, refused⟩ number below spells
    have read := (Text.numberBelow_eq_ok_iff (by decide)).mpr ⟨spells, below⟩
    rw [refused] at read
    cases read
  · intro unspelled
    cases read : Text.numberBelow 256 level with
    | error fault => exact ⟨fault, rfl⟩
    | ok number =>
        obtain ⟨spells, below⟩ := (Text.numberBelow_eq_ok_iff (by decide)).mp read
        exact absurd spells (unspelled number below)

theorem exists_refuses_iff : (∃ failure, Refuses name value failure) ↔ Invalid name value := by
  rw [Invalid, ← exists_error_iff]
  constructor
  · rintro ⟨failure, ⟨isFlags, unended, -⟩ | ⟨isLevel, filled, fault, refused, -⟩⟩
    · exact .inl ⟨isFlags, unended⟩
    · exact .inr ⟨isLevel, filled, fault, refused⟩
  · rintro (⟨isFlags, unended⟩ | ⟨isLevel, filled, fault, refused⟩)
    · exact ⟨_, .inl ⟨isFlags, unended, rfl⟩⟩
    · exact ⟨_, .inr ⟨isLevel, filled, fault, refused, rfl⟩⟩

theorem accepted_iff_valid :
    environment.Accepted ↔ ∀ pair ∈ environment, ¬Invalid pair.1 pair.2 := by
  refine forall₂_congr fun pair _ => ?_
  rw [← exists_refuses_iff, not_exists]

theorem accepted_perm (same : other.Perm environment) : other.Accepted ↔ environment.Accepted :=
  ⟨fun accepted pair among => accepted pair (same.mem_iff.mpr among),
    fun accepted pair among => accepted pair (same.mem_iff.mp among)⟩

end Environment

namespace Layer

theorem laidOver_laidOver (layer : Layer) (settings : Settings) :
    layer.laidOver (layer.laidOver settings) = layer.laidOver settings := by
  have twice {α : Type} (item? : Option α) (item : α) :
      item?.getD (item?.getD item) = item?.getD item := by
    cases item? <;> rfl
  simp only [laidOver, ← Option.or_assoc, Option.or_self, twice, Bool.or_assoc, Bool.or_self]

theorem ofEnvironment_perm {environment other : Environment}
    (distinct : (environment.map Prod.fst).Nodup) (same : other.Perm environment) :
    ofEnvironment other = ofEnvironment environment := by
  have values (name : Text) : other.value? name = environment.value? name :=
    (Keyed.lookup_perm distinct same.symm name).symm
  simp only [ofEnvironment, values]

end Layer

namespace Settings

variable {environment other : Environment}

theorem refused?_eq_none_iff (settings : Settings) :
    (settings.applyAll environment).2 = none ↔ environment.Accepted := by
  constructor
  · intro faultless
    by_contra refused
    obtain ⟨_, _, _, _, _, -, -, -, applied⟩ := applyAll_refused refused settings
    rw [applied] at faultless
    cases faultless
  · intro accepted
    rw [applyAll_accepted accepted]

theorem applyAll_applyAll (accepted : environment.Accepted) (settings : Settings) :
    (settings.applyAll environment).1.applyAll environment = settings.applyAll environment := by
  rw [applyAll_accepted accepted, applyAll_accepted accepted, Layer.laidOver_laidOver]

theorem applyAll_perm (accepted : environment.Accepted)
    (distinct : (environment.map Prod.fst).Nodup) (same : other.Perm environment)
    (settings : Settings) : settings.applyAll other = settings.applyAll environment := by
  have otherDistinct : (other.map Prod.fst).Nodup := (same.map Prod.fst).nodup_iff.mpr distinct
  rw [applyAll_accepted ((Environment.accepted_perm same).mpr accepted),
    applyAll_accepted accepted, Layer.ofLast_eq_ofEnvironment otherDistinct,
    Layer.ofLast_eq_ofEnvironment distinct, Layer.ofEnvironment_perm distinct same]

end Settings

/-- Reading the variables of an environment is refused only for a value that is invalid.  Otherwise
each setting is made by the last variable that makes it and kept if there is none, and to read the
variables once more changes nothing.  In another order they are refused as well, if no name stands
twice, or leave the same settings.  When a value is refused, the settings are those that the
variables before the first invalid one leave. -/
theorem overrides_are_last_values (settings : Settings) (environment : Environment) :
    let left := (settings.applyAll environment).1
    let refused? := (settings.applyAll environment).2
    (refused? = none ↔ ∀ pair ∈ environment, ¬Environment.Invalid pair.1 pair.2) ∧
      (refused? = none →
        left = (Layer.ofLast environment).laidOver settings ∧
          left.applyAll environment = (left, none)) ∧
      ((environment.map Prod.fst).Nodup → ∀ other : Environment, other.Perm environment →
        ((settings.applyAll other).2 = none ↔ refused? = none) ∧
          (refused? = none → settings.applyAll other = (left, none))) ∧
      ∀ failure, refused? = some failure →
        ∃ before name value later, environment = before ++ (name, value) :: later ∧
          Environment.Invalid name value ∧ Environment.Refuses name value failure ∧
            settings.applyAll before = (left, none) := by
  intro left refused?
  have passes : refused? = none ↔ environment.Accepted := Settings.refused?_eq_none_iff settings
  have applied (unrefused : refused? = none) : settings.applyAll environment = (left, none) :=
    Prod.ext rfl unrefused
  refine ⟨passes.trans Environment.accepted_iff_valid, ?_, ?_, ?_⟩
  · intro unrefused
    have accepted := passes.mp unrefused
    refine ⟨congrArg Prod.fst (Settings.applyAll_accepted accepted settings), ?_⟩
    exact (Settings.applyAll_applyAll accepted settings).trans (applied unrefused)
  · intro distinct other same
    refine ⟨?_, fun unrefused => ?_⟩
    · rw [passes, Settings.refused?_eq_none_iff, Environment.accepted_perm same]
    · have rearranged := Settings.applyAll_perm (passes.mp unrefused) distinct same settings
      exact rearranged.trans (applied unrefused)
  · intro failure refused
    have unaccepted : ¬environment.Accepted := by
      rw [← passes, refused]
      simp
    obtain ⟨before, name, value, later, other, split, accepted, refuses, stopped⟩ :=
      Settings.applyAll_refused unaccepted settings
    obtain rfl : other = failure :=
      Option.some.inj ((congrArg Prod.snd stopped).symm.trans refused)
    refine ⟨before, name, value, later, split, Environment.exists_refuses_iff.mp ⟨_, refuses⟩,
      refuses, ?_⟩
    exact Prod.ext (congrArg Prod.fst stopped).symm
      ((Settings.refused?_eq_none_iff settings).mpr accepted)

/-- A blank engine makes no setting, no flags are flags, and a level may have a plus sign. -/
theorem blank_engine_keeps_last_value :
    let exported : Environment :=
      [("TEXFEED_ENGINE", "lualatex"), ("TEXFEED_FLAGS", ""), ("TEXFEED_ENGINE", " xelatex "),
        ("HOME", "/root"), ("TEXFEED_WARN_LEVEL", "+002"), ("TEXFEED_ENGINE", " "),
        ("TEXFEED_DEBUG", "")]
    let tooGreat : Environment := exported ++ ([("TEXFEED_WARN_LEVEL", "256")] : Environment)
    let settings : Settings := {}
    let made : Settings := { engine? := some "xelatex", flags := [], warnLevel := 2, debug := true }
    (settings.applyAll exported).1 = made ∧ made.applyAll exported = (made, none) ∧
      settings.applyAll [("TEXFEED_DEBUG", "1"), ("TEXFEED_LINK", "x")] =
        settings.applyAll [("TEXFEED_LINK", "x"), ("TEXFEED_DEBUG", "1")] ∧
      ∃ before name value later, tooGreat = before ++ (name, value) :: later ∧
        Environment.Invalid name value ∧ settings.applyAll before = (made, none) := by
  intro exported tooGreat settings made
  obtain ⟨-, repeated, -, -⟩ := overrides_are_last_values settings exported
  obtain ⟨-, -, rearranged, -⟩ :=
    overrides_are_last_values settings [("TEXFEED_LINK", "x"), ("TEXFEED_DEBUG", "1")]
  obtain ⟨-, -, -, stopped⟩ := overrides_are_last_values settings tooGreat
  have ran : settings.applyAll exported = (made, none) := by decide +kernel
  have refused : settings.applyAll tooGreat =
      (made, some (.invalidWarnLevel "256" .tooLarge)) := by decide +kernel
  refine ⟨congrArg Prod.fst ran, ?_, ?_, ?_⟩
  · have again := (repeated (congrArg Prod.snd ran)).2
    rwa [ran] at again
  · exact (rearranged (by decide) _ (.swap _ _ [])).2 (by decide +kernel)
  · obtain ⟨before, name, value, later, split, invalid, -, left⟩ :=
      stopped _ (congrArg Prod.snd refused)
    rw [refused] at left
    exact ⟨before, name, value, later, split, invalid, left⟩

end Typeset
