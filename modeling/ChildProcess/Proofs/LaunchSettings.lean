import ChildProcess.Launch
import ChildProcess.Proofs.OrderedMaps

/-!
# What settings make of a launch

Each setting touches one part of a launch, so that a part is determined by the
settings of its own kind, in their order.  The variables of the child follow: an
override decides, then the last of the parent's variables with the key, and the
parent's keys stand before those that only the overrides have.
-/

namespace ChildProcess

attribute [ext] Launch

namespace LaunchSetting

/-- The variable that a setting gives, if it gives one. -/
def override? : LaunchSetting → Option (String × String)
  | .environment key value => some (key, value)
  | _ => none

/-- What a setting says about the parent's variables, if it does. -/
def inherits? : LaunchSetting → Option Bool
  | .inheritEnvironment inherit => some inherit
  | _ => none

/-- The command that a setting names, if it names one. -/
def command? : LaunchSetting → Option String
  | .command name => some name
  | _ => none

/-- The arguments that a setting gives, if it gives any list of them. -/
def arguments? : LaunchSetting → Option (List String)
  | .arguments tokens => some tokens
  | _ => none

/-- Where a setting sends a stream, if it does. -/
def redirects? (stream : StandardStream) : LaunchSetting → Option Redirection
  | .redirect other target => if other = stream then some (.descriptor target) else none
  | _ => none

/-- The directory that a setting gives, if it gives one. -/
def directory? : LaunchSetting → Option Bytes
  | .directory path => some path
  | _ => none

/-- What a setting says about merging the outputs, if it does. -/
def merges? : LaunchSetting → Option Bool
  | .mergeOutputs merge => some merge
  | _ => none

end LaunchSetting

namespace Launch

variable (launch : Launch)

/-! ## One setting and several -/

theorem overrides_apply (setting : LaunchSetting) :
    (launch.apply setting).overrides =
      launch.overrides.insertManyIfNew setting.override?.toList := by
  cases setting <;> rfl

theorem inheritsEnvironment_apply (setting : LaunchSetting) :
    (launch.apply setting).inheritsEnvironment =
      setting.inherits?.getD launch.inheritsEnvironment := by
  cases setting <;> rfl

/-- The overrides take in the variables that are given, each key once. -/
theorem overrides_foldl_apply (settings : List LaunchSetting) :
    (settings.foldl apply launch).overrides =
      launch.overrides.insertManyIfNew
        (settings.filterMap LaunchSetting.override?) := by
  induction settings using List.reverseRecOn with
  | nil => rfl
  | append_singleton settings setting inductionHypothesis =>
      rw [List.foldl_append, List.foldl_cons, List.foldl_nil, overrides_apply,
        inductionHypothesis, List.filterMap_append, ← OrderedMap.insertManyIfNew_append]
      cases setting <;> rfl

/-- Where every setting of one kind replaces what an earlier one has said, the last word
counts. -/
theorem part_foldl_apply {α : Type} (part : Launch → α) (says? : LaunchSetting → Option α)
    (replaces : ∀ launch setting,
      part (launch.apply setting) = (says? setting).getD (part launch))
    (settings : List LaunchSetting) :
    part (settings.foldl apply launch) =
      (settings.filterMap says?).getLast?.getD (part launch) := by
  induction settings using List.reverseRecOn with
  | nil => rfl
  | append_singleton settings setting inductionHypothesis =>
      rw [List.foldl_append, List.foldl_cons, List.foldl_nil, replaces,
        inductionHypothesis, List.filterMap_append]
      cases said : says? setting <;> simp [said]

/-- The last word on the parent's variables counts. -/
theorem inheritsEnvironment_foldl_apply (settings : List LaunchSetting) :
    (settings.foldl apply launch).inheritsEnvironment =
      (settings.filterMap LaunchSetting.inherits?).getLast?.getD
        launch.inheritsEnvironment :=
  launch.part_foldl_apply _ LaunchSetting.inherits? inheritsEnvironment_apply settings

/-! ## The variables of the child -/

/-- The variables that the child gets from its parent, in the parent's order. -/
def inheritedVariables (parent : Environment) : List (String × String) :=
  if launch.inheritsEnvironment then parent.textVariables else []

theorem effectiveEnvironment_eq_insertMany (parent : Environment) :
    launch.effectiveEnvironment parent =
      (OrderedMap.empty.insertMany (launch.inheritedVariables parent)).insertMany
        launch.overrides.entries := by
  unfold effectiveEnvironment inheritedVariables
  split <;> rfl

/-- An override decides, and else the last inherited variable with the key. -/
theorem get?_effectiveEnvironment (parent : Environment) (key : String) :
    (launch.effectiveEnvironment parent).get? key =
      (launch.overrides.get? key).or
        ((launch.inheritedVariables parent).reverse.lookup key) := by
  rw [effectiveEnvironment_eq_insertMany, OrderedMap.get?_insertMany_entries,
    OrderedMap.get?_insertMany, OrderedMap.get?_empty, Option.or_none]

/-- The inherited keys come first, overridden or not. -/
theorem keys_effectiveEnvironment (parent : Environment) :
    (launch.effectiveEnvironment parent).keys =
      ((launch.inheritedVariables parent).map Prod.fst
        ++ launch.overrides.keys).eraseDups := by
  rw [effectiveEnvironment_eq_insertMany, OrderedMap.keys_insertMany,
    OrderedMap.keys_insertMany, OrderedMap.keys_empty, List.nil_append,
    eraseDups_eraseDups_append]
  rfl

end Launch
end ChildProcess
