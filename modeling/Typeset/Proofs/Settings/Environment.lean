import Typeset.Proofs.Keyed
import Typeset.Proofs.Settings.Layer

/-!
What an environment supplies: for each setting the last value that makes one.  With names given once
this is the only one, and the order of the variables does not matter.  The first refused value ends
the reading.
-/

namespace Typeset

def Environment.value? (environment : Environment) (name : Text) : Option Text :=
  environment.lookup name

def Environment.Refuses (name value : Text) (failure : Failure) : Prop :=
  (name = "TEXFEED_FLAGS" ∧ ShellWords.words? value = none ∧ failure = .unbalancedFlags value) ∨
    (name = "TEXFEED_WARN_LEVEL" ∧ Text.trim value ≠ [] ∧
      ∃ fault, Text.numberBelow 256 (Text.trim value) = .error fault ∧
        failure = .invalidWarnLevel value fault)

theorem Environment.mem_names {name : Text} :
    name ∈ names ↔ name = "TEXFEED_DEBUG" ∨ name = "TEXFEED_ENGINE" ∨ name = "TEXFEED_FLAGS" ∨
      name = "TEXFEED_LINK" ∨ name = "TEXFEED_MASTER" ∨ name = "TEXFEED_WARN_LEVEL" := by
  simp only [names, List.mem_cons, List.not_mem_nil, or_false]

namespace Layer

def nonempty? (text : Text) : Option Text :=
  if text = [] then none else some text

theorem map_nonempty? {α : Type} (text : Text) (make : Text → α) :
    (nonempty? text).map make = if text = [] then none else some (make text) := by
  rw [nonempty?]
  split <;> rfl

def ofEnvironment (environment : Environment) : Layer where
  engine? := (environment.value? "TEXFEED_ENGINE").bind fun value => nonempty? (Text.trim value)
  flags? := (environment.value? "TEXFEED_FLAGS").bind ShellWords.words?
  warnLevel? := (environment.value? "TEXFEED_WARN_LEVEL").bind fun value =>
    (nonempty? (Text.trim value)).bind fun level =>
      (Text.numberBelow 256 level).toOption.map UInt8.ofNat
  master? := (environment.value? "TEXFEED_MASTER").bind nonempty?
  debug := (environment.value? "TEXFEED_DEBUG").isSome
  linkTemplate? := (environment.value? "TEXFEED_LINK").bind nonempty?

def ofVariable (name value : Text) : Layer :=
  ofEnvironment [(name, value)]

def ofOverride : Settings.Override → Layer
  | .engine engine => { engine? := some engine }
  | .flags flags => { flags? := some flags }
  | .warnLevel level => { warnLevel? := some level }
  | .master path => { master? := some path }
  | .debug => { debug := true }
  | .link template => { linkTemplate? := some template }

theorem ofVariable_of_not_mem {name : Text} (other : name ∉ Environment.names) (value : Text) :
    ofVariable name value = {} := by
  have absent {known : Text} (member : known ∈ Environment.names) :
      Environment.value? [(name, value)] known = none := by
    have differs : (known == name) = false := beq_false_of_ne fun same => other (same ▸ member)
    rw [Environment.value?, List.lookup_cons, differs]
    rfl
  have engine := absent (Environment.mem_names.mpr (.inr (.inl rfl)))
  have flags := absent (Environment.mem_names.mpr (.inr (.inr (.inl rfl))))
  have level := absent (Environment.mem_names.mpr (.inr (.inr (.inr (.inr (.inr rfl))))))
  have master := absent (Environment.mem_names.mpr (.inr (.inr (.inr (.inr (.inl rfl))))))
  have debug := absent (Environment.mem_names.mpr (.inl rfl))
  have link := absent (Environment.mem_names.mpr (.inr (.inr (.inr (.inl rfl)))))
  rw [ofVariable, ofEnvironment, engine, flags, level, master, debug, link]
  rfl

end Layer

namespace Settings

variable {name value : Text} {made? : Option Override} {failure : Failure}

theorem override?_of_not_mem (other : name ∉ Environment.names) (value : Text) :
    override? name value = .ok none := by
  simp only [Environment.mem_names, not_or] at other
  obtain ⟨debug, engine, flags, link, master, level⟩ := other
  unfold override?
  simp only [if_neg debug, if_neg engine, if_neg flags, if_neg link, if_neg master, if_neg level]

theorem override?_engine (value : Text) :
    override? "TEXFEED_ENGINE" value =
      .ok ((Layer.nonempty? (Text.trim value)).map Override.engine) := by
  rw [Layer.map_nonempty?]
  rfl

theorem override?_master (value : Text) :
    override? "TEXFEED_MASTER" value = .ok ((Layer.nonempty? value).map Override.master) := by
  rw [Layer.map_nonempty?]
  rfl

theorem override?_link (value : Text) :
    override? "TEXFEED_LINK" value = .ok ((Layer.nonempty? value).map Override.link) := by
  rw [Layer.map_nonempty?]
  rfl

theorem override?_flags (value : Text) :
    override? "TEXFEED_FLAGS" value =
      match ShellWords.words? value with
      | some flags => .ok (some (.flags flags))
      | none => .error (.unbalancedFlags value) := rfl

theorem override?_level (value : Text) :
    override? "TEXFEED_WARN_LEVEL" value =
      if Text.trim value = [] then .ok none
      else
        match Text.numberBelow 256 (Text.trim value) with
        | .ok level => .ok (some (.warnLevel (UInt8.ofNat level)))
        | .error fault => .error (.invalidWarnLevel value fault) := rfl

theorem override?_debug (value : Text) : override? "TEXFEED_DEBUG" value = .ok (some .debug) := rfl

theorem apply_eq_laidOver (settings : Settings) (made : Override) :
    settings.apply made = (Layer.ofOverride made).laidOver settings := by
  cases made <;> simp [apply, Layer.ofOverride, Layer.laidOver]

theorem elim_apply_eq_laidOver (settings : Settings) (made? : Option Override) :
    made?.elim settings settings.apply = (made?.elim {} Layer.ofOverride).laidOver settings := by
  cases made? with
  | none => exact (Layer.laidOver_nothing settings).symm
  | some made => exact settings.apply_eq_laidOver made

theorem ofVariable_eq (read : override? name value = .ok made?) :
    Layer.ofVariable name value = made?.elim {} Layer.ofOverride := by
  by_cases known : name ∈ Environment.names
  · rcases Environment.mem_names.mp known with rfl | rfl | rfl | rfl | rfl | rfl
    · rw [override?_debug] at read
      cases read
      rfl
    · have supplied : Layer.ofVariable "TEXFEED_ENGINE" value =
          { engine? := Layer.nonempty? (Text.trim value) } := rfl
      rw [override?_engine] at read
      cases read
      rw [supplied]
      cases Layer.nonempty? (Text.trim value) <;> rfl
    · have supplied : Layer.ofVariable "TEXFEED_FLAGS" value =
          { flags? := ShellWords.words? value } := rfl
      rw [override?_flags] at read
      rw [supplied]
      cases words : ShellWords.words? value with
      | none => simp [words] at read
      | some flags =>
          simp only [words, Except.ok.injEq] at read
          rw [← read]
          rfl
    · have supplied : Layer.ofVariable "TEXFEED_LINK" value =
          { linkTemplate? := Layer.nonempty? value } := rfl
      rw [override?_link] at read
      cases read
      rw [supplied]
      cases Layer.nonempty? value <;> rfl
    · have supplied : Layer.ofVariable "TEXFEED_MASTER" value =
          { master? := Layer.nonempty? value } := rfl
      rw [override?_master] at read
      cases read
      rw [supplied]
      cases Layer.nonempty? value <;> rfl
    · have supplied : Layer.ofVariable "TEXFEED_WARN_LEVEL" value =
          { warnLevel? := (Layer.nonempty? (Text.trim value)).bind fun level =>
              (Text.numberBelow 256 level).toOption.map UInt8.ofNat } := rfl
      rw [override?_level] at read
      rw [supplied, Layer.nonempty?]
      split at read
      · next blank =>
          cases read
          rw [if_pos blank]
          rfl
      · next filled =>
          rw [if_neg filled, Option.bind_some]
          cases level : Text.numberBelow 256 (Text.trim value) with
          | error fault => simp [level] at read
          | ok number =>
              simp only [level, Except.ok.injEq] at read
              rw [← read]
              rfl
  · rw [override?_of_not_mem known, Except.ok.injEq] at read
    rw [← read, Layer.ofVariable_of_not_mem known]
    rfl

theorem override?_accepted (noFlags : name ≠ "TEXFEED_FLAGS")
    (noLevel : name ≠ "TEXFEED_WARN_LEVEL") (value : Text) :
    ∃ made?, override? name value = .ok made? := by
  by_cases known : name ∈ Environment.names
  · rcases Environment.mem_names.mp known with rfl | rfl | rfl | rfl | rfl | rfl
    · exact ⟨_, override?_debug value⟩
    · exact ⟨_, override?_engine value⟩
    · exact absurd rfl noFlags
    · exact ⟨_, override?_link value⟩
    · exact ⟨_, override?_master value⟩
    · exact absurd rfl noLevel
  · exact ⟨_, override?_of_not_mem known value⟩

theorem override?_eq_error_iff :
    override? name value = .error failure ↔ Environment.Refuses name value failure := by
  unfold Environment.Refuses
  by_cases isFlags : name = "TEXFEED_FLAGS"
  · subst isFlags
    have differs : ("TEXFEED_FLAGS" : Text) ≠ "TEXFEED_WARN_LEVEL" := by decide
    rw [override?_flags]
    cases ShellWords.words? value with
    | none =>
        simp only [differs, false_and, or_false, true_and, Except.error.injEq]
        exact eq_comm
    | some flags => simp only [differs, false_and, or_false, and_false, reduceCtorEq]
  simp only [isFlags, false_and, false_or]
  by_cases isLevel : name = "TEXFEED_WARN_LEVEL"
  · subst isLevel
    rw [override?_level]
    by_cases blank : Text.trim value = []
    · simp only [blank, if_true, ne_eq, not_true_eq_false, false_and, and_false, reduceCtorEq]
    · cases Text.numberBelow 256 (Text.trim value) with
      | ok level => simp only [blank, if_false, reduceCtorEq, false_and, exists_false, and_false]
      | error fault =>
          simp only [blank, if_false, Except.error.injEq, exists_eq_left', ne_eq,
            not_false_eq_true, true_and]
          exact eq_comm
  · obtain ⟨made?, read⟩ := override?_accepted isFlags isLevel value
    simp only [read, isLevel, false_and, reduceCtorEq]

end Settings

namespace Environment

variable {name : Text} {environment : Environment}

def Accepted (environment : Environment) : Prop :=
  ∀ pair ∈ environment, ∀ failure, ¬Refuses pair.1 pair.2 failure

theorem accepted_iff :
    environment.Accepted ↔
      ∀ pair ∈ environment, (Settings.override? pair.1 pair.2).toOption ≠ none := by
  refine forall₂_congr fun pair _ => ?_
  simp only [← Settings.override?_eq_error_iff]
  cases Settings.override? pair.1 pair.2 with
  | ok made? => simp [Except.toOption]
  | error failure => simp [Except.toOption]

instance : DecidablePred Accepted :=
  fun _ => decidable_of_iff _ accepted_iff.symm

def last? {α : Type} (environment : Environment) (name : Text) (read? : Text → Option α) :
    Option α :=
  environment.reverse.findSome? fun pair => if pair.1 = name then read? pair.2 else none

variable {α : Type}

theorem last?_cons (name value known : Text) (environment : Environment)
    (read? : Text → Option α) :
    last? ((name, value) :: environment) known read? =
      (last? environment known read?).or (if name = known then read? value else none) := by
  rw [last?, List.reverse_cons, List.findSome?_append, List.findSome?_singleton]
  rfl

theorem value?_cons_self (name value : Text) (environment : Environment) :
    value? ((name, value) :: environment) name = some value := by
  simp [value?]

theorem value?_cons_of_ne {known : Text} (differs : name ≠ known) (value : Text)
    (environment : Environment) :
    value? ((name, value) :: environment) known = value? environment known := by
  rw [value?, List.lookup_cons, beq_false_of_ne differs.symm]
  rfl

theorem last?_eq_value? (distinct : (environment.map Prod.fst).Nodup) (known : Text)
    (read? : Text → Option α) :
    environment.last? known read? = (environment.value? known).bind read? := by
  induction environment with
  | nil => rfl
  | cons pair environment ih =>
      obtain ⟨name, value⟩ := pair
      obtain ⟨fresh, rest⟩ := List.nodup_cons.mp distinct
      rw [last?_cons, ih rest]
      by_cases same : name = known
      · subst same
        have absent : value? environment name = none := Keyed.lookup_eq_none_iff.mpr fresh
        rw [absent, value?_cons_self, if_pos rfl]
        rfl
      · rw [value?_cons_of_ne same, if_neg same, Option.or_none]

theorem any_eq_isSome_value? (environment : Environment) (name : Text) :
    (environment.any fun pair => pair.1 = name) = (environment.value? name).isSome := by
  induction environment with
  | nil => rfl
  | cons pair environment ih =>
      obtain ⟨other, value⟩ := pair
      by_cases same : other = name
      · subst same
        simp [value?_cons_self]
      · simp [value?_cons_of_ne same, same, ih]

end Environment

namespace Layer

/-- What the variables supply that are the last to make a setting. -/
def ofLast (environment : Environment) : Layer where
  engine? := environment.last? "TEXFEED_ENGINE" fun value => nonempty? (Text.trim value)
  flags? := environment.last? "TEXFEED_FLAGS" ShellWords.words?
  warnLevel? := environment.last? "TEXFEED_WARN_LEVEL" fun value =>
    (nonempty? (Text.trim value)).bind fun level =>
      (Text.numberBelow 256 level).toOption.map UInt8.ofNat
  master? := environment.last? "TEXFEED_MASTER" nonempty?
  debug := environment.any fun pair => pair.1 = "TEXFEED_DEBUG"
  linkTemplate? := environment.last? "TEXFEED_LINK" nonempty?

theorem ofLast_eq_ofEnvironment {environment : Environment}
    (distinct : (environment.map Prod.fst).Nodup) :
    ofLast environment = ofEnvironment environment := by
  simp only [ofLast, Environment.last?_eq_value? distinct, Environment.any_eq_isSome_value?]
  rfl

theorem ofLast_cons (name value : Text) (environment : Environment) (settings : Settings) :
    (ofLast ((name, value) :: environment)).laidOver settings =
      (ofLast environment).laidOver ((ofVariable name value).laidOver settings) := by
  have single : ofVariable name value = ofLast [(name, value)] :=
    (@ofLast_eq_ofEnvironment [(name, value)] (List.nodup_singleton name)).symm
  have none_last {α : Type} (known : Text) (read? : Text → Option α) :
      Environment.last? [] known read? = none := rfl
  simp only [single, laidOver, ofLast, Environment.last?_cons, none_last, Option.none_or,
    Option.or_assoc, Option.getD_or, Option.getD_none, List.any_cons, List.any_nil, Bool.or_false,
    Bool.or_assoc]

end Layer

namespace Settings

variable {name value : Text} {environment : Environment} {failure : Failure}

theorem applyAll_cons {made? : Option Override} (read : override? name value = .ok made?)
    (settings : Settings) (environment : Environment) :
    settings.applyAll ((name, value) :: environment) =
      ((Layer.ofVariable name value).laidOver settings).applyAll environment := by
  rw [ofVariable_eq read, ← elim_apply_eq_laidOver, applyAll]
  cases made? <;> simp only [read, Option.elim]

theorem applyAll_accepted (accepted : environment.Accepted) (settings : Settings) :
    settings.applyAll environment = ((Layer.ofLast environment).laidOver settings, none) := by
  induction environment generalizing settings with
  | nil => exact congrArg (·, none) (Layer.laidOver_nothing settings).symm
  | cons pair environment ih =>
      obtain ⟨name, value⟩ := pair
      obtain ⟨first, rest⟩ := List.forall_mem_cons.mp accepted
      cases read : override? name value with
      | error failure => exact absurd (override?_eq_error_iff.mp read) (first failure)
      | ok made? => rw [applyAll_cons read, ih rest, Layer.ofLast_cons]

theorem applyAll_refused (refused : ¬environment.Accepted) (settings : Settings) :
    ∃ before name value later failure, environment = before ++ (name, value) :: later ∧
      Environment.Accepted before ∧ Environment.Refuses name value failure ∧
      settings.applyAll environment = ((settings.applyAll before).1, some failure) := by
  induction environment generalizing settings with
  | nil => exact absurd (by simp [Environment.Accepted]) refused
  | cons pair environment ih =>
      obtain ⟨name, value⟩ := pair
      cases read : override? name value with
      | error failure =>
          refine ⟨[], name, value, environment, failure, rfl, by simp [Environment.Accepted],
            override?_eq_error_iff.mp read, ?_⟩
          simp only [applyAll, read]
      | ok made? =>
          have first : ∀ failure, ¬Environment.Refuses name value failure := by
            intro failure refuses
            rw [override?_eq_error_iff.mpr refuses] at read
            cases read
          have others : ¬Environment.Accepted environment := fun rest =>
            refused (List.forall_mem_cons.mpr ⟨first, rest⟩)
          obtain ⟨before, other, text, later, failure, rfl, accepted, refuses, applied⟩ :=
            ih others ((Layer.ofVariable name value).laidOver settings)
          refine ⟨(name, value) :: before, other, text, later, failure, rfl,
            List.forall_mem_cons.mpr ⟨first, accepted⟩, refuses, ?_⟩
          rw [applyAll_cons read, applyAll_cons read, applied]

variable {workspace : Workspace} {document : Path}

theorem resolve_eq (discoverable : Discoverable workspace document)
    (accepted : environment.Accepted) (distinct : (environment.map Prod.fst).Nodup) :
    resolve workspace environment document =
      .ok (Layer.stacked
        [.ofEnvironment environment, .ofFile workspace (fileFor document)]) := by
  rw [resolve, discover_eq discoverable]
  simp only [bind, Except.bind, applyAll_accepted accepted, Layer.ofLast_eq_ofEnvironment distinct]
  rfl

theorem resolve_unloaded (isFile : workspace.isFile (fileFor document) = true)
    (unloaded : load workspace (fileFor document) = .error failure) :
    resolve workspace environment document = .error failure := by
  rw [resolve, discover, if_pos isFile, unloaded]
  rfl

theorem resolve_refused (discoverable : Discoverable workspace document)
    (refused : ¬environment.Accepted) :
    ∃ name value failure, (name, value) ∈ environment ∧ Environment.Refuses name value failure ∧
      resolve workspace environment document = .error failure := by
  rw [resolve, discover_eq discoverable]
  obtain ⟨before, name, value, later, failure, same, -, refuses, applied⟩ :=
    applyAll_refused refused ((Layer.ofFile workspace (fileFor document)).laidOver {})
  refine ⟨name, value, failure, by rw [same]; simp, refuses, ?_⟩
  simp only [bind, Except.bind, applied]

end Settings

end Typeset
