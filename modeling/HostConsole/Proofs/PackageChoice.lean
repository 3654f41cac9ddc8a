import HostConsole.PackageAction
import HostConsole.Proofs.Trimming
import Mathlib.Data.Finset.Card

/-!
# What package options ask for

Each kind of package action has an option, and an update of all packages has one of its own. Of the
options at most one may be given, and what comes of them is stated for all kinds at once: two kinds
do not go together, an update of all packages takes no names, and every other action needs some.

No names stand for all packages. So an action without names was asked for as such, and a list that
comes down to nothing is a mistake.

## Main definitions

* `PackageKind`: the kinds of actions, each with its option
* `PackageOptions.Selects`: the action that the options ask for
* `PackageOptions.Mistakes`: the failure that the options lead to

## Main results

* `PackageAction.ofOptions_cases`: what comes of the options
* `PackageOptions.Selects.of_no_names`, `PackageOptions.Selects.of_names`: what the names of an
  action tell of the options
-/

namespace HostConsole

/-! ## Clean lists -/

namespace Text

theorem trimmed_trimmed (s : String) : trimmed (trimmed s) = trimmed s := by
  simp [trimmed]

/-- The names of a clean list are not empty and have no white space at their ends. -/
theorem clean_of_mem_cleanList {values : List String} {name : String}
    (h : name ∈ cleanList values) : name ≠ "" ∧ trimmed name = name := by
  refine ⟨ne_empty_of_mem_cleanList h, ?_⟩
  obtain ⟨value, -, rfl⟩ := List.mem_map.mp (List.mem_filter.mp h).1
  exact trimmed_trimmed value

/-- A clean list is empty if every value is blank. -/
theorem cleanList_eq_nil_iff {values : List String} :
    cleanList values = [] ↔ ∀ value ∈ values, trimmed value = "" := by
  simp [cleanList, List.filter_eq_nil_iff]

end Text

/-! ## Kinds of actions -/

/-- The kinds of package actions. -/
inductive PackageKind where
  | install
  | remove
  | update
  | installGroups
  | removeGroups
  deriving DecidableEq, Repr

namespace PackageKind

/-- The option that asks for an action of the kind. -/
def option : PackageKind → String
  | install => "install"
  | remove => "remove"
  | update => "update"
  | installGroups => "install_groups"
  | removeGroups => "remove_groups"

/-- The action of the kind with some names. -/
def action : PackageKind → List String → PackageAction
  | install => .install
  | remove => .remove
  | update => .update
  | installGroups => .installGroups
  | removeGroups => .removeGroups

/-- All kinds, in the order in which options are looked at. -/
def all : List PackageKind :=
  [install, remove, update, installGroups, removeGroups]

theorem mem_all (kind : PackageKind) : kind ∈ all := by
  cases kind <;> decide

@[simp] theorem names_action (kind : PackageKind) (names : List String) :
    (kind.action names).names = names := by
  cases kind <;> rfl

end PackageKind

namespace PackageOptions

variable {o : PackageOptions} {kind : PackageKind}

/-- The values given with the option of a kind. -/
def values? (o : PackageOptions) : PackageKind → Option (List String)
  | .install => o.install
  | .remove => o.remove
  | .update => o.update
  | .installGroups => o.installGroups
  | .removeGroups => o.removeGroups

/-- An action of the kind is asked for. -/
def Asks (o : PackageOptions) (kind : PackageKind) : Prop :=
  (o.values? kind).isSome = true ∨ kind = .update ∧ o.updateAll = true

instance : DecidablePred o.Asks := fun _ => inferInstanceAs (Decidable (_ ∨ _))

/-- No action of another kind is asked for. -/
def AsksOnly (o : PackageOptions) (kind : PackageKind) : Prop :=
  ∀ other, o.Asks other → other = kind

/-- The names given with the option of a kind: its values without white space around them, blank
ones left out, in their order. -/
def names (o : PackageOptions) (kind : PackageKind) : List String :=
  Text.cleanList ((o.values? kind).getD [])

theorem names_of_values? {values : List String} (given : o.values? kind = some values) :
    o.names kind = Text.cleanList values := by
  rw [names, given]
  rfl

/-- The options ask for the action. -/
inductive Selects (o : PackageOptions) : PackageAction → Prop where
  /-- All packages are updated: that is asked for, nothing else is, and no name is given. -/
  | all (asked : o.updateAll = true) (only : o.AsksOnly .update)
      (blank : ∀ value ∈ o.update.getD [], Text.trimmed value = "") : Selects o (.update [])
  /-- The one option that is given gives some names. -/
  | named {kind : PackageKind} (given : (o.values? kind).isSome = true)
      (others : o.updateAll = false) (only : o.AsksOnly kind) (some_names : o.names kind ≠ []) :
      Selects o (kind.action (o.names kind))

/-- The options are mistaken, and that is the failure. -/
inductive Mistakes (o : PackageOptions) : Failure → Prop where
  | twice {kind other : PackageKind} (different : kind ≠ other) (asked : o.Asks kind)
      (too : o.Asks other) : Mistakes o .conflictingPackageActions
  | allWithNames (asked : o.updateAll = true) (only : o.AsksOnly .update)
      (some_names : o.names .update ≠ []) : Mistakes o .updateAllWithNames
  | empty {kind : PackageKind} (given : (o.values? kind).isSome = true)
      (others : o.updateAll = false) (only : o.AsksOnly kind) (no_names : o.names kind = []) :
      Mistakes o (.emptyPackageList kind.option)

/-- A mistake is one of usage. -/
theorem Mistakes.exitCode {failure : Failure} (h : o.Mistakes failure) :
    failure.exitCode = .usage := by
  cases h <;> rfl

end PackageOptions

namespace PackageAction

variable {o : PackageOptions} {kind : PackageKind}

/-- The kinds that are asked for are counted. -/
theorem requestCount_eq (o : PackageOptions) :
    requestCount o = PackageKind.all.countP fun kind => o.Asks kind := by
  obtain ⟨install, remove, update, all, installGroups, removeGroups⟩ := o
  cases update <;> cases all <;>
    simp [requestCount, PackageKind.all, PackageOptions.Asks, PackageOptions.values?,
      List.countP_cons]

/-- Two kinds of actions are too many. -/
theorem one_lt_requestCount_iff :
    1 < requestCount o ↔ ∃ kind other, kind ≠ other ∧ o.Asks kind ∧ o.Asks other := by
  have distinct : (PackageKind.all.filter fun kind => o.Asks kind).Nodup :=
    List.Nodup.filter _ (by decide)
  have asked {kind : PackageKind} :
      kind ∈ (PackageKind.all.filter fun kind => o.Asks kind).toFinset ↔ o.Asks kind := by
    simp [PackageKind.mem_all]
  rw [requestCount_eq, List.countP_eq_length_filter, ← List.toFinset_card_of_nodup distinct,
    Finset.one_lt_card_iff]
  constructor
  · rintro ⟨kind, other, ask_kind, ask_other, different⟩
    exact ⟨kind, other, different, asked.mp ask_kind, asked.mp ask_other⟩
  · rintro ⟨kind, other, different, ask_kind, ask_other⟩
    exact ⟨kind, other, asked.mpr ask_kind, asked.mpr ask_other, different⟩

theorem not_one_lt_of_asksOnly (only : o.AsksOnly kind) : ¬ 1 < requestCount o := by
  rw [one_lt_requestCount_iff]
  rintro ⟨kind, other, different, ask_kind, ask_other⟩
  exact different ((only kind ask_kind).trans (only other ask_other).symm)

/-- A kind that is not asked for has no values. -/
theorem values?_of_asksOnly (only : o.AsksOnly kind) {other : PackageKind} (h : other ≠ kind) :
    o.values? other = none := by
  rw [← Option.not_isSome_iff_eq_none]
  exact fun given => h (only other (.inl given))

/-! ## What comes of the options -/

/-- An update of all packages takes no names. -/
theorem ofOptions_of_all (asked : o.updateAll = true) (only : o.AsksOnly .update) :
    ofOptions o = if o.names .update = [] then .ok (some (.update []))
      else .error .updateAllWithNames := by
  have install : o.install = none := @values?_of_asksOnly o .update only .install (by decide)
  have remove : o.remove = none := @values?_of_asksOnly o .update only .remove (by decide)
  rw [ofOptions, if_neg (not_one_lt_of_asksOnly only), install, remove, asked]
  by_cases no_names : Text.cleanList (o.update.getD []) = []
  · simp [PackageOptions.names, PackageOptions.values?, no_names]
  · simp [PackageOptions.names, PackageOptions.values?, no_names]

/-- One option is given, and its names are taken. -/
theorem ofOptions_eq_someNames {values : List String} (given : o.values? kind = some values)
    (others : o.updateAll = false) (only : o.AsksOnly kind) :
    ofOptions o = (someNames kind.option values).map fun names => some (kind.action names) := by
  have absent (other : PackageKind) (different : other ≠ kind) : o.values? other = none :=
    values?_of_asksOnly only different
  have install := absent .install
  have remove := absent .remove
  have update := absent .update
  have install_groups := absent .installGroups
  unfold PackageOptions.values? at given install remove update install_groups
  rw [ofOptions, if_neg (not_one_lt_of_asksOnly only), others]
  -- The options that are looked at before the one of the kind are not there.
  cases kind with
  | install => simp [given, PackageKind.option, PackageKind.action]
  | remove => simp [given, install, PackageKind.option, PackageKind.action]
  | update => simp [given, install, remove, PackageKind.option, PackageKind.action]
  | installGroups => simp [given, install, remove, update, PackageKind.option, PackageKind.action]
  | removeGroups =>
    simp [given, install, remove, update, install_groups, PackageKind.option, PackageKind.action]

/-- The one option that is given needs names. -/
theorem ofOptions_of_named (given : (o.values? kind).isSome = true) (others : o.updateAll = false)
    (only : o.AsksOnly kind) :
    ofOptions o = if o.names kind = [] then .error (.emptyPackageList kind.option)
      else .ok (some (kind.action (o.names kind))) := by
  obtain ⟨values, present⟩ := Option.isSome_iff_exists.mp given
  rw [ofOptions_eq_someNames present others only, PackageOptions.names_of_values? present]
  by_cases no_names : Text.cleanList values = []
  · simp [someNames, no_names, Except.map]
  · simp [someNames, no_names, Except.map]

/-- Where nothing is asked for there is no action. -/
theorem ofOptions_of_nothing (nothing : ∀ kind, ¬ o.Asks kind) : ofOptions o = .ok none := by
  have absent (kind : PackageKind) : o.values? kind = none := by
    rw [← Option.not_isSome_iff_eq_none]
    exact fun given => nothing kind (.inl given)
  have few : ¬ 1 < requestCount o := by
    rw [one_lt_requestCount_iff]
    rintro ⟨kind, -, -, asked, -⟩
    exact nothing kind asked
  have others : o.updateAll = false :=
    eq_false_of_ne_true fun asked => nothing .update (.inr ⟨rfl, asked⟩)
  have install : o.install = none := absent .install
  have remove : o.remove = none := absent .remove
  have update : o.update = none := absent .update
  have install_groups : o.installGroups = none := absent .installGroups
  have remove_groups : o.removeGroups = none := absent .removeGroups
  rw [ofOptions, if_neg few, install, remove, others, update, install_groups, remove_groups]
  rfl

/-- The mistakes are what the options are refused for. -/
theorem ofOptions_of_mistakes {failure : Failure} (h : o.Mistakes failure) :
    ofOptions o = .error failure := by
  cases h with
  | twice different asked too =>
    rw [ofOptions, if_pos (one_lt_requestCount_iff.mpr ⟨_, _, different, asked, too⟩)]
  | allWithNames asked only some_names => rw [ofOptions_of_all asked only, if_neg some_names]
  | empty given others only no_names =>
    rw [ofOptions_of_named given others only, if_pos no_names]

/-- **What comes of the options**: nothing where none is given, the action that they ask for, or the
mistake that they make. -/
theorem ofOptions_cases (o : PackageOptions) :
    ofOptions o = .ok none ∨ (∃ action, ofOptions o = .ok (some action) ∧ o.Selects action) ∨
      ∃ failure, ofOptions o = .error failure ∧ o.Mistakes failure := by
  by_cases some_asked : ∃ kind, o.Asks kind
  · obtain ⟨kind, asked⟩ := some_asked
    by_cases only : o.AsksOnly kind
    · cases all : o.updateAll with
      | true =>
        -- An update of all packages is an update.
        obtain rfl : PackageKind.update = kind := only .update (.inr ⟨rfl, all⟩)
        by_cases no_names : o.names .update = []
        · refine .inr (.inl ⟨_, (ofOptions_of_all all only).trans (if_pos no_names), ?_⟩)
          exact .all all only (Text.cleanList_eq_nil_iff.mp no_names)
        · have mistake : o.Mistakes .updateAllWithNames := .allWithNames all only no_names
          exact .inr (.inr ⟨_, ofOptions_of_mistakes mistake, mistake⟩)
      | false =>
        have given : (o.values? kind).isSome = true :=
          asked.resolve_right fun update => Bool.false_ne_true (all.symm.trans update.2)
        by_cases no_names : o.names kind = []
        · have mistake : o.Mistakes (.emptyPackageList kind.option) :=
            .empty given all only no_names
          exact .inr (.inr ⟨_, ofOptions_of_mistakes mistake, mistake⟩)
        · refine .inr (.inl ⟨_, (ofOptions_of_named given all only).trans (if_neg no_names), ?_⟩)
          exact .named given all only no_names
    · have mistake : o.Mistakes .conflictingPackageActions := by
        obtain ⟨other, too, different⟩ : ∃ other, o.Asks other ∧ other ≠ kind := by
          simpa [PackageOptions.AsksOnly] using only
        exact .twice different too asked
      exact .inr (.inr ⟨_, ofOptions_of_mistakes mistake, mistake⟩)
  · exact .inl (ofOptions_of_nothing (not_exists.mp some_asked))

/-- An action is the one that the options ask for. -/
theorem selects_of_ofOptions {action : PackageAction} (h : ofOptions o = .ok (some action)) :
    o.Selects action := by
  rcases ofOptions_cases o with nothing | ⟨selected, same, selects⟩ | ⟨failure, refused, -⟩
  · cases nothing.symm.trans h
  · cases same.symm.trans h
    exact selects
  · cases refused.symm.trans h

end PackageAction

namespace PackageOptions.Selects

variable {o : PackageOptions} {action : PackageAction}

/-- An action without names is the update of all packages, and nothing else was asked for. -/
theorem of_no_names (h : o.Selects action) (no_names : action.names = []) :
    action = .update [] ∧ o.updateAll = true ∧ o.AsksOnly .update ∧
      ∀ value ∈ o.update.getD [], Text.trimmed value = "" := by
  cases h with
  | all asked only blank => exact ⟨rfl, asked, only, blank⟩
  | named given others only some_names =>
    rw [PackageKind.names_action] at no_names
    exact absurd no_names some_names

/-- An action with names has the clean values of the one option that is given. -/
theorem of_names (h : o.Selects action) (some_names : action.names ≠ []) :
    (∃ kind values, o.values? kind = some values ∧ o.updateAll = false ∧ o.AsksOnly kind ∧
        action = kind.action (Text.cleanList values)) ∧
      ∀ name ∈ action.names, name ≠ "" ∧ Text.trimmed name = name := by
  cases h with
  | all => exact absurd rfl some_names
  | @named kind given others only =>
    obtain ⟨values, present⟩ := Option.isSome_iff_exists.mp given
    have names : o.names kind = Text.cleanList values := PackageOptions.names_of_values? present
    refine ⟨⟨kind, values, present, others, only, congrArg kind.action names⟩, fun name mem => ?_⟩
    rw [PackageKind.names_action, names] at mem
    exact Text.clean_of_mem_cleanList mem

end PackageOptions.Selects

end HostConsole
