import Mathlib.Data.List.Induction
import Typeset.Command.Request

/-!
The arguments of a command as a list, whatever is made of them.  What is made of them all is made
one by one, in their order.
-/

namespace Typeset

theorem exists_of_bind {ε α β : Type} {result : Except ε α} {next : α → Except ε β} {value : β}
    (ran : (result >>= next) = .ok value) : ∃ item, result = .ok item ∧ next item = .ok value := by
  cases result with
  | error fault => cases ran
  | ok item => exact ⟨item, rfl, ran⟩

namespace Argument

/-- The texts are spellings of the arguments, one after the other. -/
inductive Spell (form? : Text → Option OptionForm) : List Text → List Argument → Prop
  | nothing : Spell form? [] []
  | operands (texts : List Text) : Spell form? (['-', '-'] :: texts) (texts.map operand)
  | operand {text : Text} {texts : List Text} {given : List Argument}
      (plain : isDashed text = false) (rest : Spell form? texts given) :
      Spell form? (text :: texts) (operand text :: given)
  | switch {text name : Text} {texts : List Text} {given : List Argument}
      (alone : splitSetting text = (name, none)) (form : form? name = some .switch)
      (rest : Spell form? texts given) :
      Spell form? (('-' :: '-' :: text) :: texts) (switch name :: given)
  | attached {text name value : Text} {texts : List Text} {given : List Argument}
      (split : splitSetting text = (name, some value))
      (form : form? name = some .value ∨ form? name = some .anyValue)
      (rest : Spell form? texts given) :
      Spell form? (('-' :: '-' :: text) :: texts) (setting name value :: given)
  | behind {text name value : Text} {texts : List Text} {given : List Argument}
      (alone : splitSetting text = (name, none))
      (form : form? name = some .value ∧ isDashed value = false ∨ form? name = some .anyValue)
      (rest : Spell form? texts given) :
      Spell form? (('-' :: '-' :: text) :: value :: texts) (setting name value :: given)

variable {σ : Type} {form? : Text → Option OptionForm} {take : σ → Argument → Except Refusal σ}
  {state result : σ} {texts : List Text}

theorem exists_spell_cons {argument : Argument} {rest : List Text}
    (spell : ∀ {given}, Spell form? rest given → Spell form? texts (argument :: given))
    (others : ∀ (next : σ) {result : σ}, readAll form? take next rest = .ok result →
      ∃ given, Spell form? rest given ∧ given.foldlM take next = .ok result)
    (read : (take state argument >>= fun next => readAll form? take next rest) = .ok result) :
    ∃ given, Spell form? texts given ∧ given.foldlM take state = .ok result := by
  obtain ⟨next, taken, read⟩ := exists_of_bind read
  obtain ⟨given, spelled, folded⟩ := others next read
  refine ⟨argument :: given, spell spelled, ?_⟩
  rw [List.foldlM_cons, taken]
  exact folded

theorem exists_spell (read : readAll form? take state texts = .ok result) :
    ∃ given, Spell form? texts given ∧ given.foldlM take state = .ok result := by
  fun_induction readAll form? take state texts generalizing result with
  | case1 state => exact ⟨[], .nothing, read⟩
  | case2 state texts => exact ⟨_, .operands texts, by rw [List.foldlM_map]; exact read⟩
  | case4 state text _ name _ texts form alone others =>
      exact exists_spell_cons (.switch alone form) others read
  | case5 state text _ name _ value texts form split others =>
      exact exists_spell_cons (.attached split (.inl form)) others read
  | case6 state text _ name _ value texts form split others =>
      exact exists_spell_cons (.attached split (.inr form)) others read
  | case8 state text _ name _ value texts form dashless alone others =>
      refine exists_spell_cons (.behind alone (.inl ⟨form, ?_⟩)) others read
      exact Bool.eq_false_iff.mpr dashless
  | case9 state text _ name _ value texts form alone others =>
      exact exists_spell_cons (.behind alone (.inr form)) others read
  | case13 state text texts _ _ _ dashless others =>
      refine exists_spell_cons (.operand ?_) others read
      unfold isDashed
      split
      · exact absurd rfl (dashless _ _)
      · rfl
  | case3 | case7 | case10 | case11 | case12 => cases read

def operand? : Argument → Option Text
  | operand text => some text
  | _ => none

def value? (name : Text) : Argument → Option Text
  | setting other value => if other = name then some value else none
  | _ => none

def isSwitch (name : Text) : Argument → Bool
  | switch other => other = name
  | _ => false

section Names

variable {name other : Text}

theorem value?_operand (name text : Text) : (operand text).value? name = none := rfl

theorem value?_switch (name other : Text) : (switch other).value? name = none := rfl

theorem value?_self (name value : Text) : (setting name value).value? name = some value :=
  if_pos rfl

theorem value?_of_ne (differs : other ≠ name) (value : Text) :
    (setting other value).value? name = none :=
  if_neg differs

theorem isSwitch_operand (name text : Text) : (operand text).isSwitch name = false := rfl

theorem isSwitch_setting (name other value : Text) :
    (setting other value).isSwitch name = false := rfl

theorem isSwitch_self (name : Text) : (switch name).isSwitch name = true :=
  decide_eq_true rfl

theorem isSwitch_of_ne (differs : other ≠ name) : (switch other).isSwitch name = false :=
  decide_eq_false differs

end Names

end Argument

namespace BuildRequest

open Request Argument

def add (request : BuildRequest) (argument : Argument) : BuildRequest where
  file? := request.file?.or argument.operand?
  engine? := request.engine?.or (argument.value? "engine")
  flags := request.flags ++ (argument.value? "flag").toList
  warnLevel? := request.warnLevel?.or
    ((argument.value? "warn-level").bind fun text => (level text).toOption)
  master? := request.master?.or (argument.value? "master")
  debug := request.debug || argument.isSwitch "debug"
  strict := request.strict || argument.isSwitch "strict"
  rule? := request.rule?.or
    ((argument.value? "tracker").bind fun text => (ruleNamed text).toOption)
  link? := request.link?.or (argument.value? "link")

section Taking

variable {α : Type} {request next : BuildRequest}

theorem eq_of_once {given? : Option α} {value : α} {make : Option α → BuildRequest}
    (taken : (once given? value >>= fun item? => pure (make item?)) = .ok next) :
    next = make (given?.or (some value)) := by
  cases given? with
  | none => exact (Except.ok.inj taken).symm
  | some other => cases taken

theorem eq_of_switchOn {given : Bool} {make : Bool → BuildRequest}
    (taken : (switchOn given >>= fun on => pure (make on)) = .ok next) : next = make true := by
  cases given with
  | false => exact (Except.ok.inj taken).symm
  | true => cases taken

theorem eq_of_path {text path : Text} (taken : Request.path text = .ok path) : path = text := by
  rw [Request.path] at taken
  split at taken
  · cases taken
  · exact (Except.ok.inj taken).symm

theorem takeBuild_cases {argument : Argument} (taken : takeBuild request argument = .ok next) :
    (∃ file, argument = .operand file ∧
        next = { request with file? := request.file?.or (some file) }) ∨
      (argument = .switch "debug" ∧ next = { request with debug := true }) ∨
      (argument = .switch "strict" ∧ next = { request with strict := true }) ∨
      (∃ engine, argument = .setting "engine" engine ∧
        next = { request with engine? := request.engine?.or (some engine) }) ∨
      (∃ flag, argument = .setting "flag" flag ∧
        next = { request with flags := request.flags ++ [flag] }) ∨
      (∃ text number, argument = .setting "warn-level" text ∧ level text = .ok number ∧
        next = { request with warnLevel? := request.warnLevel?.or (some number) }) ∨
      (∃ master, argument = .setting "master" master ∧
        next = { request with master? := request.master?.or (some master) }) ∨
      (∃ text rule, argument = .setting "tracker" text ∧ ruleNamed text = .ok rule ∧
        next = { request with rule? := request.rule?.or (some rule) }) ∨
      ∃ link, argument = .setting "link" link ∧
        next = { request with link? := request.link?.or (some link) } := by
  cases argument with
  | operand text =>
      obtain ⟨path, isPath, taken⟩ := exists_of_bind taken
      rw [eq_of_path isPath] at taken
      exact .inl ⟨text, rfl, eq_of_once taken⟩
  | switch name =>
      simp only [takeBuild] at taken
      split at taken
      · next named => exact .inr (.inl ⟨by rw [named], eq_of_switchOn taken⟩)
      split at taken
      · next named => exact .inr (.inr (.inl ⟨by rw [named], eq_of_switchOn taken⟩))
      · cases taken
  | setting name value =>
      simp only [takeBuild] at taken
      iterate 3 apply Or.inr
      split at taken
      · next named => exact .inl ⟨value, by rw [named], eq_of_once taken⟩
      apply Or.inr
      split at taken
      · next named => exact .inl ⟨value, by rw [named], (Except.ok.inj taken).symm⟩
      apply Or.inr
      split at taken
      · next named =>
          obtain ⟨number, isLevel, taken⟩ := exists_of_bind taken
          exact .inl ⟨value, number, by rw [named], isLevel, eq_of_once taken⟩
      apply Or.inr
      split at taken
      · next named =>
          obtain ⟨path, isPath, taken⟩ := exists_of_bind taken
          rw [eq_of_path isPath] at taken
          exact .inl ⟨value, by rw [named], eq_of_once taken⟩
      apply Or.inr
      split at taken
      · next named =>
          obtain ⟨rule, isRule, taken⟩ := exists_of_bind taken
          exact .inl ⟨value, rule, by rw [named], isRule, eq_of_once taken⟩
      apply Or.inr
      split at taken
      · next named => exact ⟨value, by rw [named], eq_of_once taken⟩
      · cases taken

theorem takeBuild_eq_add {argument : Argument} (taken : takeBuild request argument = .ok next) :
    next = request.add argument := by
  rcases takeBuild_cases taken with ⟨_, rfl, rfl⟩ | ⟨rfl, rfl⟩ | ⟨rfl, rfl⟩ | ⟨_, rfl, rfl⟩ |
    ⟨_, rfl, rfl⟩ | ⟨_, _, rfl, read, rfl⟩ | ⟨_, rfl, rfl⟩ | ⟨_, _, rfl, read, rfl⟩ | ⟨_, rfl, rfl⟩
  -- The names differ, so that each argument gives one thing.
  all_goals
    simp (disch := decide) only [add, operand?, value?_operand, value?_switch, value?_self,
      value?_of_ne, isSwitch_operand, isSwitch_setting, isSwitch_self, isSwitch_of_ne, *,
      Except.toOption, Option.or_none, Option.bind_none, Option.bind_some, Option.toList_none,
      Option.toList_some, List.append_nil, Bool.or_false, Bool.or_true]

end Taking

def ofGiven (given : List Argument) : BuildRequest where
  file? := given.findSome? Argument.operand?
  engine? := given.findSome? (Argument.value? "engine")
  flags := given.filterMap (Argument.value? "flag")
  warnLevel? := given.findSome? fun argument =>
    (argument.value? "warn-level").bind fun text => (level text).toOption
  master? := given.findSome? (Argument.value? "master")
  debug := given.any (Argument.isSwitch "debug")
  strict := given.any (Argument.isSwitch "strict")
  rule? := given.findSome? fun argument =>
    (argument.value? "tracker").bind fun text => (ruleNamed text).toOption
  link? := given.findSome? (Argument.value? "link")

theorem ofGiven_concat (given : List Argument) (argument : Argument) :
    ofGiven (given ++ [argument]) = (ofGiven given).add argument := by
  have filtered (name : Text) : [argument].filterMap (Argument.value? name) =
      (argument.value? name).toList := by
    rw [List.filterMap_cons]
    cases argument.value? name <;> rfl
  simp only [ofGiven, add, List.findSome?_append, List.findSome?_singleton, List.filterMap_append,
    filtered, List.any_append, List.any_cons, List.any_nil, Bool.or_false]

theorem eq_ofGiven {given : List Argument} {request : BuildRequest}
    (taken : given.foldlM takeBuild {} = .ok request) : request = ofGiven given := by
  induction given using List.reverseRecOn generalizing request with
  | nil => exact (Except.ok.inj taken).symm
  | append_singleton given argument ih =>
      rw [List.foldlM_append] at taken
      obtain ⟨before, first, taken⟩ := exists_of_bind taken
      obtain ⟨next, last, taken⟩ := exists_of_bind taken
      cases taken
      rw [ofGiven_concat, ← ih first]
      exact takeBuild_eq_add last

end BuildRequest

end Typeset
