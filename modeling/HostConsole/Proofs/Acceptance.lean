import HostConsole.CommandLine.Reading
import HostConsole.Proofs.Route
import Mathlib.Data.List.Nodup

/-!
# Accepted command lines

What is found at a command comes from the command's own options, each with as many values as it
takes, and together they pass the checks of the command. So a command line that is read keeps to
its grammar, in whatever order its arguments come.

The first of these is an invariant of reading. No argument breaks it, as values are only ever put
down by an option of the command that has counted them (`Found.IsFrom.of_meet`); the pending option
belongs to the invariant because it does so later.

## Main definitions

* `Found.IsFrom`, `Reading.IsFrom`: the invariant
* `CommandLevel.Fits`: what is found at a command keeps to its rules
* `CommandRule.Accepts`: the levels of a command line that is accepted

## Main results

* `Reading.IsFrom.of_readLevel`: reading keeps the invariant
* `CommandRule.accepts_read`: what is read is accepted
* `CommandLevel.Fits.not_both`, `CommandLevel.Fits.has_of_requires`,
  `CommandLevel.Fits.exists_only`: what the rules of a command say of what is found
-/

namespace HostConsole.CommandLine

/-! ## The invariant of reading -/

/-- All that a command can be given. -/
def CommandLevel.rules (level : CommandLevel) : List OptionRule :=
  level.allOptions ++ level.operands

/-- What is found was put down for the rules: each time for a rule of the identity, and with a
value unless the rule can do without. -/
def Found.IsFrom (rules : List OptionRule) (found : Found) : Prop :=
  ∀ entry ∈ found, entry.2 ≠ [] ∧ ∀ group ∈ entry.2, ∃ rule ∈ rules,
    rule.identity = entry.1 ∧ (0 < rule.least → group ≠ [])

/-- What was found is from the rules, and so is the pending option. -/
structure Reading.IsFrom (rules : List OptionRule) (r : Reading) : Prop where
  found : r.found.IsFrom rules
  pending : ∀ rule values, r.pending = some (rule, values) → rule ∈ rules

variable {path : List String} {rules : List OptionRule} {found found' : Found} {rule : OptionRule}
  {r r' : Reading}

theorem exists_of_map_eq_ok {ε α β : Type} {x : Except ε α} {f : α → β} {result : β}
    (h : x.map f = .ok result) : ∃ a, x = .ok a ∧ f a = result := by
  cases x with
  | error e => cases h
  | ok a => exact ⟨a, rfl, Except.ok.inj h⟩

theorem Found.IsFrom.add (h : found.IsFrom rules) (hr : rule ∈ rules) {values : List String}
    (hv : 0 < rule.least → values ≠ []) : (found.add rule.identity values).IsFrom rules := by
  -- Induction on what was found before: the group joins the entry of its identity, or begins one.
  induction found with
  | nil =>
    intro entry mem
    obtain rfl := List.mem_singleton.mp mem
    refine ⟨by simp, fun group hg => ?_⟩
    obtain rfl := List.mem_singleton.mp hg
    exact ⟨rule, hr, rfl, hv⟩
  | cons first rest ih =>
    obtain ⟨name, groups⟩ := first
    obtain ⟨⟨some_group, from_rules⟩, later⟩ := List.forall_mem_cons.mp h
    unfold Found.add
    split
    · next same =>
      refine List.forall_mem_cons.mpr ⟨⟨by simp, fun group hg => ?_⟩, later⟩
      rcases List.mem_append.mp hg with hg | hg
      · exact from_rules group hg
      · obtain rfl := List.mem_singleton.mp hg
        exact ⟨rule, hr, same.symm, hv⟩
    · exact List.forall_mem_cons.mpr ⟨⟨some_group, from_rules⟩, ih later⟩

theorem commaPieces_ne_nil (s : String) : commaPieces s ≠ [] := by
  simp [commaPieces, List.splitOn, List.splitOnP_ne_nil]

/-- An option that is met puts down the values that it has counted, cut at commas or as they
are. -/
theorem eq_add_of_meet {values : List String} (h : meet path rule values found = .ok found') :
    checkCount rule values.length = .ok () ∧ found' =
      found.add rule.identity (if rule.splits then values.flatMap commaPieces else values) := by
  obtain ⟨⟨⟩, counted, h⟩ := exists_of_bind_eq_ok h
  refine ⟨counted, ?_⟩
  have checked {values : List String} (h : (do
      values.forM rule.kind.check
      return found.add rule.identity values : Except Rejection Found) = .ok found') :
      found' = found.add rule.identity values := by
    obtain ⟨⟨⟩, -, h⟩ := exists_of_bind_eq_ok h
    cases h
    rfl
  dsimp only at h
  split at h
  · cases h
  · cases h
  · split at h
    · cases h
    · exact checked h
  · split at h
    · cases h
    · exact checked h
  · exact checked h
  · exact checked h

/-- An option that is to be met only once has not been found before. -/
theorem not_has_of_meet {values : List String} (once : rule.action = .once)
    (h : meet path rule values found = .ok found') : found.has rule.identity = false := by
  obtain ⟨⟨⟩, -, h⟩ := exists_of_bind_eq_ok h
  rw [once] at h
  refine eq_false_of_ne_true fun before => ?_
  dsimp only at h
  rw [if_pos before] at h
  cases h

theorem Found.IsFrom.of_meet (h : found.IsFrom rules) (hr : rule ∈ rules) {values : List String}
    (hm : meet path rule values found = .ok found') : found'.IsFrom rules := by
  obtain ⟨counted, rfl⟩ := eq_add_of_meet hm
  have given : 0 < rule.least → values ≠ [] := by
    rintro takes rfl
    simp [checkCount, takes] at counted
  refine h.add hr fun takes => ?_
  split
  · -- Each value is cut into one piece at least.
    obtain ⟨value, more, rfl⟩ := List.exists_cons_of_ne_nil (given takes)
    simp [commaPieces_ne_nil]
  · exact given takes

namespace Reading.IsFrom

theorem of_settle (h : r.IsFrom rules) (hs : settle path r = .ok r') : r'.IsFrom rules := by
  unfold settle at hs
  split at hs
  · cases hs
    exact ⟨h.found, h.pending⟩
  · next option values waiting =>
    obtain ⟨found, hm, rfl⟩ := exists_of_map_eq_ok hs
    exact ⟨h.found.of_meet (h.pending _ _ waiting) hm, nofun⟩

theorem of_react (h : r.IsFrom rules) (hr : rule ∈ rules) {values : List String}
    (ha : react path rule values r = .ok r') : r'.IsFrom rules := by
  obtain ⟨settled, hs, ha⟩ := exists_of_bind_eq_ok ha
  obtain ⟨found, hm, ha⟩ := exists_of_bind_eq_ok ha
  cases ha
  have before := h.of_settle hs
  exact ⟨before.found.of_meet hr hm, before.pending⟩

theorem of_openOption (h : r.IsFrom rules) (hr : rule ∈ rules) {attached : Option String}
    (ho : openOption path rule attached r = .ok r') : r'.IsFrom rules := by
  unfold openOption at ho
  split at ho
  · exact h.of_react hr ho
  · obtain ⟨settled, hs, rfl⟩ := exists_of_map_eq_ok ho
    refine ⟨(h.of_settle hs).found, fun option values pending => ?_⟩
    cases pending
    exact hr

variable {level : CommandLevel}

theorem of_readLetters (h : r.IsFrom level.rules) {letters : List Char}
    (hl : readLetters path level letters r = .ok r') : r'.IsFrom level.rules := by
  induction letters generalizing r with
  | nil =>
    cases hl
    exact h
  | cons letter letters ih =>
    unfold readLetters at hl
    split at hl
    · cases hl
    · next option found =>
      have known : option ∈ level.rules := List.mem_append_left _ (List.mem_of_find?_eq_some found)
      split at hl
      · exact h.of_openOption known hl
      · -- A letter without values may have others behind it.
        obtain ⟨next, ha, hl⟩ := exists_of_bind_eq_ok hl
        exact ih (h.of_react known ha) hl

theorem of_readLong (h : r.IsFrom level.rules) {cs : List Char}
    (hl : readLong path level cs r = .ok r') : r'.IsFrom level.rules := by
  unfold readLong at hl
  dsimp only at hl
  split at hl
  · cases hl
  · next option found =>
    have known : option ∈ level.rules := List.mem_append_left _ (List.mem_of_find?_eq_some found)
    split at hl
    · exact h.of_openOption known hl
    · split at hl
      · cases hl
      · exact h.of_react known hl

variable {rule : CommandRule}

theorem of_readOperand (h : r.IsFrom rule.level.rules) {argument : String}
    (ho : readOperand path rule argument r = .ok r') : r'.IsFrom rule.level.rules := by
  unfold readOperand at ho
  split at ho
  · next operand found =>
    obtain ⟨settled, hs, rfl⟩ := exists_of_map_eq_ok ho
    refine ⟨(h.of_settle hs).found, fun option values pending => ?_⟩
    cases pending
    exact List.mem_append_right _ (List.mem_of_getElem? found)
  · dsimp only at ho
    split at ho <;> cases ho

theorem takeValue (h : r.IsFrom rules) (argument : String) :
    (takeValue argument r).IsFrom rules := by
  unfold CommandLine.takeValue
  split
  · exact ⟨h.found, h.pending⟩
  · next option values waiting =>
    refine ⟨h.found, fun other more pending => ?_⟩
    cases pending
    exact h.pending _ _ waiting

theorem of_readArgument (h : r.IsFrom rule.level.rules) {argument : String}
    (ha : readArgument path rule argument r = .ok r') : r'.IsFrom rule.level.rules := by
  unfold readArgument at ha
  split at ha
  · -- Behind two dashes everything is an operand.
    exact h.of_readOperand ha
  · split at ha
    · -- two dashes and nothing more
      cases ha
      exact ⟨h.found, h.pending⟩
    · exact h.of_readLong ha
    · exact h.of_readLetters ha
    · -- no option: a value of the pending one, or an operand
      split at ha
      · cases ha
        exact h.takeValue _
      · exact h.of_readOperand ha

/-- **Reading keeps the invariant**, whatever the arguments and their order. -/
theorem of_readLevel (h : r.IsFrom rule.level.rules) {arguments : List String}
    {next : Option (String × List String)}
    (hl : readLevel path rule arguments r = .ok (r', next)) : r'.IsFrom rule.level.rules := by
  -- Induction on the arguments, for any state in which they are read.
  induction arguments generalizing r with
  | nil =>
    cases hl
    exact h
  | cons argument arguments ih =>
    rw [readLevel] at hl
    split at hl
    · cases hl
      exact h
    · obtain ⟨between, ha, hl⟩ := exists_of_bind_eq_ok hl
      exact ih (h.of_readArgument ha) hl

end Reading.IsFrom

/-! ## The levels of a command line -/

/-- What is found at a command keeps to its rules: it is from them, no two options exclude each
other, and none is missing. -/
structure CommandLevel.Fits (level : CommandLevel) (found : Found) : Prop where
  isFrom : found.IsFrom level.rules
  compatible : hasConflict level found = false
  complete : lacksRequired level found = false

/-- What is found at a command keeps to its rules, and so does what is found at the command that it
goes on with, if it has commands. -/
inductive CommandRule.Accepts : CommandRule → List (String × Found) → Prop where
  | last {rule : CommandRule} {found : Found} (fits : rule.level.Fits found)
      (final : rule.commands = []) : Accepts rule [(rule.level.name, found)]
  | more {rule command : CommandRule} {name : String} {found : Found}
      {levels : List (String × Found)} (fits : rule.level.Fits found)
      (member : rule.command? name = some command) (below : Accepts command levels) :
      Accepts rule ((rule.level.name, found) :: levels)

/-- The arguments behind the name of a command are fewer. -/
theorem length_lt_of_readLevel {rule : CommandRule} {arguments rest : List String} {name : String}
    (h : readLevel path rule arguments r = .ok (r', some (name, rest))) :
    rest.length < arguments.length := by
  induction arguments generalizing r with
  | nil => cases h
  | cons argument arguments ih =>
    rw [readLevel] at h
    split at h
    · cases h
      exact Nat.lt_succ_self _
    · obtain ⟨between, -, h⟩ := exists_of_bind_eq_ok h
      exact Nat.lt_trans (ih h) (Nat.lt_succ_self _)

/-- A command that passes its checks is complete, and its options go together. -/
theorem fits_of_checkLevel {rule : CommandRule} {goesOn : Bool}
    (isFrom : found.IsFrom rule.level.rules) (h : checkLevel rule found goesOn = .ok ()) :
    rule.level.Fits found ∧ (goesOn = false → rule.commands = []) := by
  unfold checkLevel at h
  split at h
  · split at h <;> cases h
  · next whole =>
    split at h
    · cases h
    · next compatible =>
      split at h
      · cases h
      · next complete =>
        refine ⟨⟨isFrom, by simpa using compatible, by simpa using complete⟩, fun ends => ?_⟩
        simpa [ends] using whole

/-- What a command that is read goes through: its own arguments, the command that follows, the
option that is still pending, and its checks. -/
theorem exists_of_readCommand {depth : Nat} {rule : CommandRule} {arguments : List String}
    {levels : List (String × Found)}
    (h : readCommand (depth + 1) path rule arguments = .ok levels) :
    ∃ r next settled below, readLevel path rule arguments {} = .ok (r, next) ∧
      settle path r = .ok settled ∧ checkLevel rule settled.found next.isSome = .ok () ∧
      levels = (rule.level.name, settled.found) :: below ∧
      ((next = none ∧ below = []) ∨ ∃ name rest command, next = some (name, rest) ∧
        rule.command? name = some command ∧
        readCommand depth (path ++ [name]) command rest = .ok below) := by
  obtain ⟨⟨r, next⟩, hl, h⟩ := exists_of_bind_eq_ok h
  have closed {below : List (String × Found)} (h : (do
      let r ← settle path r
      checkLevel rule r.found next.isSome
      return (rule.level.name, r.found) :: below : Except Rejection _) = .ok levels) :
      ∃ settled, settle path r = .ok settled ∧
        checkLevel rule settled.found next.isSome = .ok () ∧
        levels = (rule.level.name, settled.found) :: below := by
    obtain ⟨settled, hs, h⟩ := exists_of_bind_eq_ok h
    obtain ⟨⟨⟩, checked, h⟩ := exists_of_bind_eq_ok h
    cases h
    exact ⟨settled, hs, checked, rfl⟩
  cases next with
  | none =>
    obtain ⟨settled, hs, checked, he⟩ := closed h
    exact ⟨r, none, settled, [], hl, hs, checked, he, .inl ⟨rfl, rfl⟩⟩
  | some following =>
    obtain ⟨name, rest⟩ := following
    dsimp only at h
    split at h
    · next command member =>
      obtain ⟨below, hb, h⟩ := exists_of_bind_eq_ok h
      obtain ⟨settled, hs, checked, he⟩ := closed h
      exact ⟨r, _, settled, below, hl, hs, checked, he,
        .inr ⟨name, rest, command, rfl, member, hb⟩⟩
    · cases h

/-- **What is read is accepted.** -/
theorem CommandRule.accepts_readCommand {depth : Nat} {rule : CommandRule}
    {arguments : List String} {levels : List (String × Found)} (enough : arguments.length < depth)
    (h : readCommand depth path rule arguments = .ok levels) : rule.Accepts levels := by
  -- Induction on the depth, which the arguments of a further command cannot use up.
  induction depth generalizing path rule arguments levels with
  | zero => exact absurd enough (Nat.not_lt_zero _)
  | succ depth ih =>
    obtain ⟨r, next, settled, below, hl, hs, checked, rfl, follows⟩ := exists_of_readCommand h
    have begun : ({} : Reading).IsFrom rule.level.rules := ⟨nofun, nofun⟩
    obtain ⟨fits, final⟩ := fits_of_checkLevel ((begun.of_readLevel hl).of_settle hs).found checked
    rcases follows with ⟨rfl, rfl⟩ | ⟨name, rest, command, rfl, member, hb⟩
    · exact .last fits (final rfl)
    · have fewer := length_lt_of_readLevel hl
      exact .more fits member (ih (by omega) hb)

theorem CommandRule.accepts_read {rule : CommandRule} {arguments : List String}
    {levels : List (String × Found)} (h : read rule arguments = .ok levels) :
    rule.Accepts levels :=
  accepts_readCommand (Nat.lt_succ_self _) h

/-! ## What the rules say of what is found -/

/-- Exactly one of the flags is set. -/
def IsSingle (flags : List Bool) : Prop :=
  flags.count true = 1

theorem isSingle_map {members : List String} {given : String → Bool} (distinct : members.Nodup)
    (h : ∃ member ∈ members, given member = true ∧
      ∀ other ∈ members, given other = true → other = member) :
    IsSingle (members.map given) := by
  obtain ⟨member, mem, is_given, only⟩ := h
  -- Around the member that is given there are only others.
  obtain ⟨before, after, rfl⟩ := List.append_of_mem mem
  rw [List.nodup_middle, List.nodup_cons] at distinct
  have others : ∀ other ∈ before ++ after, given other = false := by
    intro other ho
    refine eq_false_of_ne_true fun set => distinct.1 ?_
    have listed : other ∈ before ++ member :: after := by
      rcases List.mem_append.mp ho with ho | ho
      · exact List.mem_append_left _ ho
      · exact List.mem_append_right _ (List.mem_cons_of_mem _ ho)
    exact only other listed set ▸ ho
  have none_set : ((before ++ after).map given).count true = 0 := by
    rw [List.count_eq_zero]
    intro set
    obtain ⟨other, ho, set⟩ := List.mem_map.mp set
    cases (others other ho).symm.trans set
  rw [List.map_append, List.count_append] at none_set
  unfold IsSingle
  rw [List.map_append, List.count_append, List.map_cons, is_given, List.count_cons_self]
  omega

/-- An option that always takes a value has one where it is given. -/
theorem Found.IsFrom.isSome_value? {identity : String} (h : found.IsFrom rules)
    (takes : ∀ rule ∈ rules, rule.identity = identity → 0 < rule.least) :
    (found.value? identity).isSome = found.has identity := by
  induction found with
  | nil => rfl
  | cons first rest ih =>
    obtain ⟨name, groups⟩ := first
    obtain ⟨⟨some_group, from_rules⟩, later⟩ := List.forall_mem_cons.mp h
    by_cases same : identity = name
    · subst same
      -- The first time that the option was met gave a value.
      obtain ⟨group, more, rfl⟩ := List.exists_cons_of_ne_nil some_group
      obtain ⟨rule, hr, named, given⟩ := from_rules group List.mem_cons_self
      obtain ⟨value, values, rfl⟩ := List.exists_cons_of_ne_nil (given (takes rule hr named))
      simp [Found.value?, Found.values, Found.has]
    · have passed : (identity == name) = false := by simpa using same
      have unlike : (name == identity) = false := by simpa using Ne.symm same
      have rest_eq := ih later
      simp only [Found.value?, Found.values, Found.has, List.lookup_cons, List.any_cons, passed,
        unlike, Bool.false_or] at rest_eq ⊢
      exact rest_eq

/-- An option that has a value was given. -/
theorem Found.has_of_isSome_value? {identity : String}
    (h : (found.value? identity).isSome = true) : found.has identity = true := by
  refine eq_true_of_ne_false fun absent => ?_
  have none : found.lookup identity = none := by
    rw [List.lookup_eq_none_iff]
    intro entry mem
    have unlike := List.any_eq_false.mp absent entry mem
    simp only [beq_iff_eq] at unlike
    simpa using Ne.symm unlike
  simp [Found.value?, Found.values, none] at h

/-- An option that was not given has no values. -/
theorem Found.values_of_not_has {identity : String} (h : found.has identity = false) :
    found.values identity = [] := by
  have none : found.value? identity = none := by
    rw [← Option.isNone_iff_eq_none, ← Option.not_isSome, Bool.not_eq_true']
    exact eq_false_of_ne_true fun some =>
      Bool.false_ne_true (h.symm.trans (has_of_isSome_value? some))
  exact List.head?_eq_none_iff.mp none

namespace CommandLevel.Fits

variable {level : CommandLevel} {a b : OptionRule}

/-- Options that exclude each other are not both given. -/
theorem not_both (fits : level.Fits found) (ha : a ∈ level.options) (hb : b ∈ level.options)
    (apart : excludes level a b = true) :
    ¬ (found.has a.identity = true ∧ found.has b.identity = true) := by
  rintro ⟨given_a, given_b⟩
  have given {c : OptionRule} (hc : c ∈ level.options) (set : found.has c.identity = true) :
      c ∈ (level.options ++ level.operands).filter fun rule => found.has rule.identity :=
    List.mem_filter.mpr ⟨List.mem_append_left _ hc, set⟩
  have conflict : hasConflict level found = true := by
    rw [hasConflict, List.any_eq_true]
    refine ⟨a, given ha given_a, ?_⟩
    rw [List.any_eq_true]
    exact ⟨b, given hb given_b, apart⟩
  cases conflict.symm.trans fits.compatible

/-- An option that has to be there is given. -/
theorem has_of_isRequired (fits : level.Fits found) (ha : a ∈ level.options)
    (required : a.isRequired = true) : found.has a.identity = true := by
  obtain ⟨options, -⟩ := Bool.or_eq_false_iff.mp fits.complete
  obtain ⟨present, -⟩ := Bool.or_eq_false_iff.mp options
  simpa [required] using List.any_eq_false.mp present a (List.mem_append_left _ ha)

/-- What a given option needs is given too. -/
theorem has_of_requires (fits : level.Fits found) (ha : a ∈ level.options) {identity : String}
    (needs : identity ∈ a.requires) (given : found.has a.identity = true) :
    found.has identity = true := by
  obtain ⟨options, -⟩ := Bool.or_eq_false_iff.mp fits.complete
  obtain ⟨-, needed⟩ := Bool.or_eq_false_iff.mp options
  have present := List.any_eq_false.mp needed a (List.mem_append_left _ ha)
  simp only [given, Bool.true_and, List.any_eq_true, not_exists, not_and, Bool.not_eq_true,
    Bool.not_eq_false'] at present
  exact present identity needs

/-- Of a choice exactly one member is given. -/
theorem exists_only (fits : level.Fits found) {members : List String}
    (hm : members ∈ level.choices)
    (known : ∀ member ∈ members, ∃ rule ∈ level.options, rule.identity = member) :
    ∃ member ∈ members, found.has member = true ∧
      ∀ other ∈ members, found.has other = true → other = member := by
  obtain ⟨-, chosen⟩ := Bool.or_eq_false_iff.mp fits.complete
  have some_given : members.any found.has = true := by
    simpa using List.any_eq_false.mp chosen members hm
  obtain ⟨member, mem, given⟩ := List.any_eq_true.mp some_given
  refine ⟨member, mem, given, fun other ho given_other => ?_⟩
  obtain ⟨a, ha, rfl⟩ := known member mem
  obtain ⟨b, hb, rfl⟩ := known other ho
  -- Two members of a choice exclude each other.
  by_contra different
  refine fits.not_both ha hb ?_ ⟨given, given_other⟩
  simp only [excludes, Bool.and_eq_true, Bool.or_eq_true, bne_iff_ne, List.any_eq_true,
    List.contains_iff_mem]
  exact ⟨Ne.symm different, .inr ⟨members, hm, mem, ho⟩⟩

end CommandLevel.Fits

/-- A server command comes from a single level. -/
theorem exists_of_command?_eq_server {levels : List (String × Found)} {command : ServerCommand}
    (h : command? levels = some (.server command)) :
    ∃ name found, levels = [(name, found)] ∧ serverCommand? name found = some command := by
  unfold command? at h
  split at h
  · next name found =>
    split at h
    · cases h
    · obtain ⟨c, hs, same⟩ := Option.map_eq_some_iff.mp h
      cases same
      exact ⟨name, found, rfl, hs⟩
  -- With two levels a command is about the settings.
  all_goals cases h

/-- The one level below the console's name fits a command of that name. -/
theorem CommandRule.Accepts.fits_of_tail {rule : CommandRule} {levels : List (String × Found)}
    {name : String} (h : rule.Accepts levels) (one : levels.tail = [(name, found)]) :
    ∃ command, rule.command? name = some command ∧ command.level.Fits found := by
  cases h with
  | last => cases one
  | @more _ command asked _ below fits member accepted =>
    have named : command.level.name = asked := by simpa using List.find?_some member
    rw [List.tail_cons] at one
    subst one
    cases accepted with
    | last fits final => exact ⟨command, named.symm ▸ member, fits⟩
    | more fits lower none => cases none

end HostConsole.CommandLine
