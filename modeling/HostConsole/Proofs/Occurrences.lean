import HostConsole.Proofs.Acceptance
import Mathlib.Data.List.Induction
import Mathlib.Data.List.TakeWhile

/-!
# What a command line gives

A command line that is read is a sequence of occurrences of options, each with the texts that it
takes: the text attached to it, or the arguments behind it that are no options. What is found for an
option are the texts of its occurrences, in the order of the command line, cut at commas where the
option asks for that.

`Occurs` says this of arguments alone, with nothing of how they are read. It grows at the end, as
reading does: an argument meets options, or is a text of the last one, or stands without an option.
Reading puts an option down only when the next one is met, so the state of reading is related to
the occurrences up to the one that is still pending (`Reading.Holds`). What is put down was counted
before, and compared with what was found (`AreMet`).

## Main definitions

* `Occurrence`: an option that was met, with its texts
* `CommandLevel.Meets`, `CommandLevel.Occurs`: the options that an argument, or some, meet
* `foundOf`: what is found of some occurrences
* `AreMet`: the occurrences are as their options ask for
* `CommandRule.Tells`: the levels that a command line tells
* `Gives`: the options that occur at a command of the console

## Main results

* `values_foundOf`, `has_foundOf`: what is found for an option
* `Reading.Follows.of_readLevel`: what is read at a command is found of the occurrences at it
* `CommandRule.tells_read`: what is read is what the command line tells
* `Invocation.exists_occurrences`: a server command is what occurs behind its name
-/

namespace HostConsole.CommandLine

/-! ## Occurrences -/

/-- An option that was met, with the texts that it took. -/
structure Occurrence where
  rule : OptionRule
  texts : List String

/-- The values of an occurrence: its texts, cut at commas if the option asks for that. -/
def Occurrence.values (o : Occurrence) : List String :=
  if o.rule.splits then o.texts.flatMap commaPieces else o.texts

/-- What is found of some occurrences. -/
def foundOf (occurrences : List Occurrence) : Found :=
  occurrences.foldl (fun found o => found.add o.rule.identity o.values) []

/-- The occurrences of an option. -/
def occurrencesOf (identity : String) (occurrences : List Occurrence) : List Occurrence :=
  occurrences.filter fun o => o.rule.identity == identity

/-- The texts that an option takes, of all its occurrences. -/
def textsOf (identity : String) (occurrences : List Occurrence) : List String :=
  (occurrencesOf identity occurrences).flatMap Occurrence.texts

/-- The option occurs. -/
def Given (identity : String) (occurrences : List Occurrence) : Prop :=
  ∃ o ∈ occurrences, o.rule.identity = identity

variable {occurrences : List Occurrence} {found : Found} {identity : String}

theorem foundOf_concat (occurrences : List Occurrence) (o : Occurrence) :
    foundOf (occurrences ++ [o]) = (foundOf occurrences).add o.rule.identity o.values := by
  simp [foundOf, List.foldl_append]

theorem Found.lookup_add (found : Found) (name identity : String) (values : List String) :
    ((found.add name values).lookup identity).getD [] =
      (found.lookup identity).getD [] ++ if name = identity then [values] else [] := by
  induction found with
  | nil =>
    by_cases same : name = identity
    · simp [Found.add, same]
    · have unlike : (identity == name) = false := by simpa using Ne.symm same
      simp [Found.add, List.lookup_cons, unlike, same]
  | cons entry rest ih =>
    obtain ⟨key, groups⟩ := entry
    unfold Found.add
    split
    · next at_key =>
      subst at_key
      by_cases same : key = identity
      · simp [same]
      · have unlike : (identity == key) = false := by simpa using Ne.symm same
        simp [List.lookup_cons, unlike, same]
    · next other =>
      by_cases at_key : identity = key
      · -- The entry of the identity is there, so it is not the one that was met.
        subst at_key
        simp [Ne.symm other]
      · have unlike : (identity == key) = false := by simpa using at_key
        simp only [List.lookup_cons, unlike]
        exact ih

theorem Found.has_add (found : Found) (name identity : String) (values : List String) :
    (found.add name values).has identity = (found.has identity || name == identity) := by
  induction found with
  | nil => simp [Found.add, Found.has]
  | cons entry rest ih =>
    obtain ⟨key, groups⟩ := entry
    unfold Found.add
    split
    · next at_key =>
      subst at_key
      by_cases same : key = identity
      · simp [Found.has, same]
      · simp [Found.has, same]
    · simp only [Found.has, List.any_cons] at ih ⊢
      rw [ih, Bool.or_assoc]

/-- **What is found for an option are the values of its occurrences**, in their order. -/
theorem values_foundOf (occurrences : List Occurrence) (identity : String) :
    (foundOf occurrences).values identity =
      (occurrencesOf identity occurrences).flatMap Occurrence.values := by
  -- The last occurrence is put down last.
  induction occurrences using List.reverseRecOn with
  | nil => rfl
  | append_singleton occurrences o ih =>
    unfold Found.values at ih ⊢
    rw [foundOf_concat, Found.lookup_add, List.flatten_append, ih, occurrencesOf, occurrencesOf,
      List.filter_append, List.flatMap_append]
    by_cases same : o.rule.identity = identity
    · simp [same]
    · simp [same]

/-- An option is found exactly if it occurs. -/
theorem has_foundOf (occurrences : List Occurrence) (identity : String) :
    (foundOf occurrences).has identity = true ↔ Given identity occurrences := by
  induction occurrences using List.reverseRecOn with
  | nil => simp [foundOf, Given]
  | append_singleton occurrences o ih =>
    rw [foundOf_concat, Found.has_add, Bool.or_eq_true, ih]
    unfold Given
    constructor
    · rintro (⟨other, mem, same⟩ | same)
      · exact ⟨other, List.mem_append_left _ mem, same⟩
      · exact ⟨o, by simp, by simpa using same⟩
    · rintro ⟨other, mem, same⟩
      rcases List.mem_append.mp mem with mem | mem
      · exact .inl ⟨other, mem, same⟩
      · obtain rfl := List.mem_singleton.mp mem
        exact .inr (by simpa using same)

/-- The values of an option that splits are its texts, cut at commas. -/
theorem values_foundOf_of_splits
    (splits : ∀ o ∈ occurrences, o.rule.identity = identity → o.rule.splits = true) :
    (foundOf occurrences).values identity = (textsOf identity occurrences).flatMap commaPieces := by
  rw [values_foundOf, textsOf, List.flatMap_assoc]
  refine List.flatMap_congr fun o mem => ?_
  obtain ⟨mem, same⟩ := List.mem_filter.mp mem
  rw [Occurrence.values, if_pos (splits o mem (by simpa using same))]

/-! ## The options that arguments meet -/

/-- The argument is no option: it does not begin with a dash, or it is one. -/
def IsText (argument : String) : Prop :=
  ∀ first rest, argument.toList ≠ '-' :: first :: rest

/-- The options that some letters behind a dash meet: switches, and then perhaps an option whose
text is attached, or is to come. The flag says that it is to come. -/
inductive CommandLevel.Letters (level : CommandLevel) :
    List Char → List Occurrence → Bool → Prop where
  | nil : Letters level [] [] false
  | switch {letter : Char} {rest : List Char} {rule : OptionRule} {met : List Occurrence}
      {opens : Bool} (known : level.short? letter = some rule) (bare : rule.takesValues = false)
      (more : Letters level rest met opens) :
      Letters level (letter :: rest) (⟨rule, []⟩ :: met) opens
  | assigned {letter : Char} {text : List Char} {rule : OptionRule}
      (known : level.short? letter = some rule) (takes : rule.takesValues = true) :
      Letters level (letter :: '=' :: text) [⟨rule, [.ofList text]⟩] false
  | attached {letter first : Char} {rest : List Char} {rule : OptionRule}
      (known : level.short? letter = some rule) (takes : rule.takesValues = true)
      (text : first ≠ '=') :
      Letters level (letter :: first :: rest) [⟨rule, [.ofList (first :: rest)]⟩] false
  | opening {letter : Char} {rule : OptionRule} (known : level.short? letter = some rule)
      (takes : rule.takesValues = true) : Letters level [letter] [⟨rule, []⟩] true

/-- The options that an argument meets. The flag says that the last of them takes its texts from
the arguments behind it. -/
inductive CommandLevel.Meets (level : CommandLevel) (argument : String) :
    List Occurrence → Bool → Prop where
  | assigned {name text : List Char} {rule : OptionRule}
      (written : argument.toList = '-' :: '-' :: (name ++ '=' :: text)) (plain : '=' ∉ name)
      (known : level.long? (.ofList name) = some rule) (takes : rule.takesValues = true) :
      Meets level argument [⟨rule, [.ofList text]⟩] false
  | named {name : List Char} {rule : OptionRule} (written : argument.toList = '-' :: '-' :: name)
      (plain : '=' ∉ name) (known : level.long? (.ofList name) = some rule) :
      Meets level argument [⟨rule, []⟩] rule.takesValues
  | letters {first : Char} {rest : List Char} {met : List Occurrence} {opens : Bool}
      (written : argument.toList = '-' :: first :: rest) (single : first ≠ '-')
      (meets : level.Letters (first :: rest) met opens) : Meets level argument met opens

/-- Where the arguments of a command stand. -/
inductive Stage where
  /-- The next argument is an option, or stands without one. -/
  | closed
  /-- The next argument is an option, or a text of the last one. -/
  | opened
  /-- Behind two dashes no argument is an option. -/
  | trailing
  deriving DecidableEq

/-- The occurrences in some arguments of a command. -/
inductive CommandLevel.Occurs (level : CommandLevel) :
    List String → List Occurrence → Stage → Prop where
  | nil : Occurs level [] [] .closed
  | option {arguments : List String} {argument : String} {before met : List Occurrence}
      {stage : Stage} {opens : Bool} (others : Occurs level arguments before stage)
      (open_ended : stage ≠ .trailing) (meets : level.Meets argument met opens) :
      Occurs level (arguments ++ [argument]) (before ++ met) (if opens then .opened else .closed)
  | text {arguments : List String} {argument : String} {before : List Occurrence}
      {o : Occurrence} (others : Occurs level arguments (before ++ [o]) .opened)
      (text : IsText argument) :
      Occurs level (arguments ++ [argument]) (before ++ [⟨o.rule, o.texts ++ [argument]⟩])
        (if o.texts.length + 1 < o.rule.most then .opened else .closed)
  | operand {arguments : List String} {argument : String} {before : List Occurrence}
      {stage : Stage} {rule : OptionRule} (others : Occurs level arguments before stage)
      (alone : stage = .trailing ∨ stage = .closed ∧ IsText argument)
      (known : rule ∈ level.operands) :
      Occurs level (arguments ++ [argument]) (before ++ [⟨rule, [argument]⟩]) stage
  | marker {arguments : List String} {before : List Occurrence} {stage : Stage}
      (others : Occurs level arguments before stage) (first : stage ≠ .trailing) :
      Occurs level (arguments ++ ["--"]) before .trailing

/-- An option that letters meet is one of the command. -/
theorem CommandLevel.Letters.rule_mem {level : CommandLevel} {letters : List Char}
    {met : List Occurrence} {opens : Bool} (h : level.Letters letters met opens) :
    ∀ o ∈ met, o.rule ∈ level.rules := by
  have option {letter : Char} {rule : OptionRule} (known : level.short? letter = some rule) :
      rule ∈ level.rules := List.mem_append_left _ (List.mem_of_find?_eq_some known)
  induction h with
  | nil => exact List.forall_mem_nil _
  | switch known bare more ih => exact List.forall_mem_cons.mpr ⟨option known, ih⟩
  | assigned known takes => exact List.forall_mem_singleton.mpr (option known)
  | attached known takes text => exact List.forall_mem_singleton.mpr (option known)
  | opening known takes => exact List.forall_mem_singleton.mpr (option known)

theorem CommandLevel.Meets.rule_mem {level : CommandLevel} {argument : String}
    {met : List Occurrence} {opens : Bool} (h : level.Meets argument met opens) :
    ∀ o ∈ met, o.rule ∈ level.rules := by
  have option {name : String} {rule : OptionRule} (known : level.long? name = some rule) :
      rule ∈ level.rules := List.mem_append_left _ (List.mem_of_find?_eq_some known)
  cases h with
  | assigned written plain known takes => exact List.forall_mem_singleton.mpr (option known)
  | named written plain known => exact List.forall_mem_singleton.mpr (option known)
  | letters written single meets => exact meets.rule_mem

/-- Every option that occurs is one of the command. -/
theorem CommandLevel.Occurs.rule_mem {level : CommandLevel} {arguments : List String}
    {stage : Stage} (h : level.Occurs arguments occurrences stage) :
    ∀ o ∈ occurrences, o.rule ∈ level.rules := by
  induction h with
  | nil => exact List.forall_mem_nil _
  | option others open_ended meets ih =>
    exact List.forall_mem_append.mpr ⟨ih, meets.rule_mem⟩
  | @text _ argument _ o others text ih =>
    -- The occurrence that takes the text keeps its option.
    obtain ⟨before, last⟩ := List.forall_mem_append.mp ih
    have kept : o.rule ∈ level.rules := last o (List.mem_singleton_self o)
    exact List.forall_mem_append.mpr ⟨before, List.forall_mem_singleton.mpr kept⟩
  | operand others alone known ih =>
    exact List.forall_mem_append.mpr
      ⟨ih, List.forall_mem_singleton.mpr (List.mem_append_right _ known)⟩
  | marker others first ih => exact ih

/-! ## What the state of reading holds -/

variable {path : List String} {level : CommandLevel} {rule : OptionRule} {r r' : Reading}

/-- The occurrences are as their options ask for: each has as many texts as its option takes, and
an option that may be met only once was not met before. -/
structure AreMet (occurrences : List Occurrence) : Prop where
  counted : ∀ o ∈ occurrences, checkCount o.rule o.texts.length = .ok ()
  once : occurrences.Pairwise fun earlier later =>
    later.rule.action = .once → earlier.rule.identity ≠ later.rule.identity

theorem AreMet.nil : AreMet [] :=
  ⟨List.forall_mem_nil _, .nil⟩

/-- An option that is met is put down behind the others, and as it asks for. -/
theorem AreMet.concat (h : AreMet occurrences) {texts : List String} {found : Found}
    (hm : meet path rule texts (foundOf occurrences) = .ok found) :
    found = foundOf (occurrences ++ [⟨rule, texts⟩]) ∧ AreMet (occurrences ++ [⟨rule, texts⟩]) := by
  obtain ⟨counted, put_down⟩ := eq_add_of_meet hm
  refine ⟨put_down.trans (foundOf_concat occurrences ⟨rule, texts⟩).symm, ?_, ?_⟩
  · exact List.forall_mem_append.mpr ⟨h.counted, List.forall_mem_singleton.mpr counted⟩
  · refine List.pairwise_append.mpr ⟨h.once, List.pairwise_singleton _ _, ?_⟩
    intro earlier mem later last once same
    obtain rfl := List.mem_singleton.mp last
    -- An earlier occurrence would have been found.
    have before : (foundOf occurrences).has rule.identity = true :=
      (has_foundOf occurrences rule.identity).mpr ⟨earlier, mem, same⟩
    cases before.symm.trans (not_has_of_meet once hm)

/-- The occurrence that is still pending. -/
def Reading.open? (r : Reading) : List Occurrence :=
  (r.pending.map fun (rule, texts) => ⟨rule, texts⟩).toList

/-- The state holds the occurrences: all are put down but the pending one. -/
def Reading.Holds (r : Reading) (occurrences : List Occurrence) : Prop :=
  ∃ settled, r.found = foundOf settled ∧ AreMet settled ∧ occurrences = settled ++ r.open?

/-- Where the state of reading stands. -/
def Reading.IsAt (r : Reading) : Stage → Prop
  | .closed => r.trailing = false ∧ r.waiting = false
  | .opened => r.trailing = false ∧ r.waiting = true ∧ r.pending.isSome = true
  | .trailing => r.trailing = true

/-- The state stands at one place only. -/
theorem Reading.IsAt.unique {stage other : Stage} (h : r.IsAt stage) (ho : r.IsAt other) :
    stage = other := by
  unfold Reading.IsAt at h ho
  cases stage <;> cases other <;> simp_all

namespace Reading.Holds

/-- Everything is put down once the pending option is settled. -/
theorem settle (h : r.Holds occurrences) (hs : CommandLine.settle path r = .ok r') :
    r'.found = foundOf occurrences ∧ AreMet occurrences ∧ r'.pending = none ∧
      r'.waiting = false ∧ r'.trailing = r.trailing := by
  obtain ⟨settled, found, are_met, rfl⟩ := h
  unfold CommandLine.settle at hs
  split at hs
  · next none =>
    cases hs
    have all : settled ++ r.open? = settled := by simp [open?, none]
    rw [all]
    exact ⟨found, are_met, none, rfl, rfl⟩
  · next option texts pending =>
    obtain ⟨put_down, met, rfl⟩ := exists_of_map_eq_ok hs
    have all : settled ++ r.open? = settled ++ [⟨option, texts⟩] := by simp [open?, pending]
    rw [found] at met
    rw [all]
    obtain ⟨put_down, are_met⟩ := are_met.concat met
    exact ⟨put_down, are_met, rfl, rfl, rfl⟩

theorem react (h : r.Holds occurrences) (plain : r.trailing = false) {texts : List String}
    (hr : CommandLine.react path rule texts r = .ok r') :
    r'.Holds (occurrences ++ [⟨rule, texts⟩]) ∧ r'.IsAt .closed := by
  obtain ⟨settled, hs, hr⟩ := exists_of_bind_eq_ok hr
  obtain ⟨found, met, hr⟩ := exists_of_bind_eq_ok hr
  cases hr
  obtain ⟨put_down, are_met, none, waits, trails⟩ := h.settle hs
  rw [put_down] at met
  obtain ⟨found_eq, are_met⟩ := are_met.concat met
  refine ⟨⟨occurrences ++ [⟨rule, texts⟩], found_eq, are_met, ?_⟩, trails.trans plain, waits⟩
  simp [open?, none]

/-- An option takes the text that is attached to it, or waits for some. -/
theorem openOption (h : r.Holds occurrences) (plain : r.trailing = false)
    {attached : Option String} (ho : CommandLine.openOption path rule attached r = .ok r') :
    r'.Holds (occurrences ++ [⟨rule, attached.toList⟩]) ∧
      r'.IsAt (if attached.isNone then .opened else .closed) := by
  unfold CommandLine.openOption at ho
  split at ho
  · exact h.react plain ho
  · obtain ⟨settled, hs, rfl⟩ := exists_of_map_eq_ok ho
    obtain ⟨put_down, are_met, -, -, trails⟩ := h.settle hs
    exact ⟨⟨occurrences, put_down, are_met, rfl⟩, trails.trans plain, rfl, rfl⟩

theorem readLetters (h : r.Holds occurrences) (plain : r.trailing = false) {letters : List Char}
    (stands : letters = [] → r.IsAt .closed)
    (hl : CommandLine.readLetters path level letters r = .ok r') :
    ∃ met opens, level.Letters letters met opens ∧ r'.Holds (occurrences ++ met) ∧
      r'.IsAt (if opens then .opened else .closed) := by
  induction letters generalizing r occurrences with
  | nil =>
    cases hl
    exact ⟨[], false, .nil, by simpa using h, stands rfl⟩
  | cons letter letters ih =>
    unfold CommandLine.readLetters at hl
    split at hl
    · cases hl
    · next option known =>
      split at hl
      · next takes =>
        -- The letters behind an option that takes values are its text, if there are any.
        rcases letters with _ | ⟨first, rest⟩
        · exact ⟨_, true, .opening known takes, h.openOption plain hl⟩
        · by_cases equals : first = '='
          · subst equals
            exact ⟨_, false, .assigned known takes, h.openOption plain hl⟩
          · split at hl
            · next he => cases he
            · next value he =>
              cases he
              exact absurd rfl equals
            · exact ⟨_, false, .attached known takes equals, h.openOption plain hl⟩
      · next bare =>
        obtain ⟨between, hr, hl⟩ := exists_of_bind_eq_ok hl
        obtain ⟨holds, closed⟩ := h.react plain hr
        obtain ⟨met, opens, more, later, stage⟩ := ih holds closed.1 (fun _ => closed) hl
        refine ⟨⟨option, []⟩ :: met, opens, .switch known (by simpa using bare) more, ?_, stage⟩
        simpa using later

/-- A long option is taken apart at its first equals sign, if it has one. -/
theorem splitLong_cases (cs : List Char) :
    ('=' ∉ cs ∧ splitLong cs = (.ofList cs, none)) ∨
      ∃ name text, cs = name ++ '=' :: text ∧ '=' ∉ name ∧
        splitLong cs = (.ofList name, some (.ofList text)) := by
  have parts : cs.takeWhile (· != '=') ++ cs.dropWhile (· != '=') = cs :=
    List.takeWhile_append_dropWhile
  have front : '=' ∉ cs.takeWhile (· != '=') := by
    intro mem
    simpa using List.mem_takeWhile_imp mem
  have first := List.head?_dropWhile_not (· != '=') cs
  unfold splitLong
  generalize cs.takeWhile (· != '=') = name at parts front ⊢
  generalize cs.dropWhile (· != '=') = behind at parts first
  subst parts
  rcases behind with _ | ⟨c, text⟩
  · exact .inl ⟨by simpa using front, by simp⟩
  · obtain rfl : c = '=' := by simpa using first
    exact .inr ⟨name, text, rfl, front, by simp⟩

theorem readLong (h : r.Holds occurrences) (plain : r.trailing = false) {argument : String}
    {cs : List Char} (written : argument.toList = '-' :: '-' :: cs)
    (hl : CommandLine.readLong path level cs r = .ok r') :
    ∃ met opens, level.Meets argument met opens ∧ r'.Holds (occurrences ++ met) ∧
      r'.IsAt (if opens then .opened else .closed) := by
  unfold CommandLine.readLong at hl
  rcases splitLong_cases cs with ⟨whole, parts⟩ | ⟨name, text, rfl, front, parts⟩
  · rw [parts] at hl
    dsimp only at hl
    split at hl
    · cases hl
    · next option known =>
      refine ⟨_, _, .named written whole known, ?_⟩
      split at hl
      · next takes =>
        rw [takes]
        exact h.openOption plain hl
      · next bare =>
        rw [Bool.not_eq_true] at bare
        rw [bare]
        exact h.react plain hl
  · rw [parts] at hl
    dsimp only at hl
    split at hl
    · cases hl
    · next option known =>
      split at hl
      · next takes => exact ⟨_, _, .assigned written front known takes, h.openOption plain hl⟩
      · cases hl

theorem readOperand {rule : CommandRule} (h : r.Holds occurrences) {argument : String}
    (ho : CommandLine.readOperand path rule argument r = .ok r') :
    ∃ operand ∈ rule.level.operands, r'.Holds (occurrences ++ [⟨operand, [argument]⟩]) ∧
      r'.waiting = false ∧ r'.trailing = r.trailing := by
  unfold CommandLine.readOperand at ho
  split at ho
  · next operand known =>
    obtain ⟨settled, hs, rfl⟩ := exists_of_map_eq_ok ho
    obtain ⟨put_down, are_met, -, waits, trails⟩ := h.settle hs
    exact ⟨operand, List.mem_of_getElem? known, ⟨occurrences, put_down, are_met, rfl⟩, waits,
      trails⟩
  · dsimp only at ho
    split at ho <;> cases ho

/-- A text joins those of the option that waits for some. -/
theorem takeValue (h : r.Holds occurrences) (waits : r.IsAt .opened) (argument : String) :
    ∃ before o, occurrences = before ++ [o] ∧
      (CommandLine.takeValue argument r).Holds (before ++ [⟨o.rule, o.texts ++ [argument]⟩]) ∧
      (CommandLine.takeValue argument r).IsAt
        (if o.texts.length + 1 < o.rule.most then .opened else .closed) := by
  obtain ⟨settled, found, are_met, rfl⟩ := h
  obtain ⟨plain, -, pending⟩ := waits
  obtain ⟨⟨option, texts⟩, pending⟩ := Option.isSome_iff_exists.mp pending
  refine ⟨settled, ⟨option, texts⟩, by simp [open?, pending], ?_⟩
  unfold CommandLine.takeValue
  rw [pending]
  refine ⟨⟨settled, found, are_met, rfl⟩, ?_⟩
  by_cases more : texts.length + 1 < option.most
  · rw [if_pos more]
    exact ⟨plain, by simpa using more, rfl⟩
  · rw [if_neg more]
    exact ⟨plain, by simpa using more⟩

end Reading.Holds

/-! ## Reading a command -/

/-- The state of reading behind some arguments of a command: it holds their occurrences. -/
def Reading.Follows (level : CommandLevel) (arguments : List String) (r : Reading) : Prop :=
  ∃ occurrences stage, level.Occurs arguments occurrences stage ∧ r.Holds occurrences ∧
    r.IsAt stage

variable {commandRule : CommandRule} {arguments : List String} {argument : String}

/-- An argument that is read where no option may come any more stands without one. -/
theorem Reading.Follows.of_readOperand {stage : Stage}
    (occurs : commandRule.level.Occurs arguments occurrences stage) (holds : r.Holds occurrences)
    (stands : r.IsAt stage) (alone : stage = .trailing ∨ stage = .closed ∧ IsText argument)
    (ho : readOperand path commandRule argument r = .ok r') :
    r'.Follows commandRule.level (arguments ++ [argument]) := by
  obtain ⟨operand, known, holds, waits, trails⟩ := holds.readOperand ho
  refine ⟨_, stage, .operand occurs alone known, holds, ?_⟩
  rcases alone with rfl | ⟨rfl, -⟩
  · exact trails.trans stands
  · exact ⟨trails.trans stands.1, waits⟩

/-- **Reading an argument keeps the occurrences.** -/
theorem Reading.Follows.of_readArgument (h : r.Follows commandRule.level arguments)
    (ha : readArgument path commandRule argument r = .ok r') :
    r'.Follows commandRule.level (arguments ++ [argument]) := by
  obtain ⟨occurrences, stage, occurs, holds, stands⟩ := h
  unfold readArgument at ha
  split at ha
  · next trails =>
    -- Behind two dashes every argument is an operand.
    obtain rfl : stage = .trailing := stands.unique trails
    exact .of_readOperand occurs holds stands (.inl rfl) ha
  · next plain =>
    rw [Bool.not_eq_true] at plain
    have before : stage ≠ .trailing := by
      rintro rfl
      cases plain.symm.trans stands
    split at ha
    · next dashes =>
      cases ha
      obtain rfl : argument = "--" := String.toList_inj.mp dashes
      exact ⟨occurrences, .trailing, .marker occurs before, holds, rfl⟩
    · next name _ written =>
      obtain ⟨met, opens, meets, holds, stands⟩ := holds.readLong plain written ha
      exact ⟨_, _, .option occurs before meets, holds, stands⟩
    · next first letters _ long written =>
      have single : first ≠ '-' := fun dash => long dash
      obtain ⟨met, opens, meets, holds, stands⟩ := holds.readLetters plain
        (fun empty => absurd empty (List.cons_ne_nil first letters)) ha
      exact ⟨_, _, .option occurs before (.letters written single meets), holds, stands⟩
    · next long short =>
      have text : IsText argument := fun first rest written => short first rest written
      split at ha
      · next waits =>
        cases ha
        obtain rfl : stage = .opened := by
          cases stage with
          | opened => rfl
          | closed => cases waits.symm.trans stands.2
          | trailing => exact absurd rfl before
        obtain ⟨others, o, rfl, holds, stands⟩ := holds.takeValue stands argument
        exact ⟨_, _, .text occurs text, holds, stands⟩
      · next waits =>
        obtain rfl : stage = .closed := stands.unique ⟨plain, by simpa using waits⟩
        exact .of_readOperand occurs holds stands (.inr ⟨rfl, text⟩) ha

/-- **What is read at a command is found of the occurrences at it**: reading ends behind all
arguments, or at the name of a further command. -/
theorem Reading.Follows.of_readLevel {before : List String}
    (h : r.Follows commandRule.level before) {next : Option (String × List String)}
    (hl : readLevel path commandRule arguments r = .ok (r', next)) :
    ∃ own, r'.Follows commandRule.level (before ++ own) ∧
      arguments = own ++ (next.map fun (name, rest) => name :: rest).getD [] ∧
      (next.isSome = true → r'.IsAt .closed) := by
  -- Induction on the arguments, for any that were read before.
  induction arguments generalizing r before with
  | nil =>
    cases hl
    exact ⟨[], by simpa using h, rfl, nofun⟩
  | cons argument arguments ih =>
    rw [readLevel] at hl
    split at hl
    · next named =>
      have closed : r.IsAt .closed := by
        simp only [isCommandName, Bool.and_eq_true, Bool.not_eq_true'] at named
        exact named.1.1
      cases hl
      exact ⟨[], by simpa using h, rfl, fun _ => closed⟩
    · obtain ⟨between, ha, hl⟩ := exists_of_bind_eq_ok hl
      obtain ⟨own, follows, rfl, closed⟩ := ih (h.of_readArgument ha) hl
      exact ⟨argument :: own, by simpa using follows, rfl, closed⟩

/-- The levels that a command line tells: what is found of the occurrences at a command, and then
what the command behind it tells, if one is named. -/
inductive CommandRule.Tells : CommandRule → List String → List (String × Found) → Prop where
  | last {rule : CommandRule} {arguments : List String} {occurrences : List Occurrence}
      {stage : Stage} (occurs : rule.level.Occurs arguments occurrences stage)
      (are_met : AreMet occurrences) :
      Tells rule arguments [(rule.level.name, foundOf occurrences)]
  | more {rule command : CommandRule} {arguments rest : List String} {name : String}
      {occurrences : List Occurrence} {levels : List (String × Found)}
      (occurs : rule.level.Occurs arguments occurrences .closed) (are_met : AreMet occurrences)
      (named : rule.command? name = some command) (below : Tells command rest levels) :
      Tells rule (arguments ++ name :: rest) ((rule.level.name, foundOf occurrences) :: levels)

/-- **What is read is what the command line tells.** -/
theorem CommandRule.tells_readCommand {depth : Nat} {rule : CommandRule}
    {levels : List (String × Found)} (enough : arguments.length < depth)
    (h : readCommand depth path rule arguments = .ok levels) : rule.Tells arguments levels := by
  induction depth generalizing path rule arguments levels with
  | zero => exact absurd enough (Nat.not_lt_zero _)
  | succ depth ih =>
    obtain ⟨r, next, settled, below, hl, hs, -, rfl, follows⟩ := exists_of_readCommand h
    have begun : ({} : Reading).Follows rule.level [] :=
      ⟨[], .closed, .nil, ⟨[], rfl, .nil, rfl⟩, rfl, rfl⟩
    obtain ⟨own, ⟨occurrences, stage, occurs, holds, stands⟩, parts, closed⟩ :=
      begun.of_readLevel hl
    obtain ⟨put_down, are_met, -⟩ := holds.settle hs
    rw [put_down]
    rcases follows with ⟨rfl, rfl⟩ | ⟨name, rest, command, rfl, named, hb⟩
    · obtain rfl : arguments = own := by simpa using parts
      exact .last occurs are_met
    · obtain rfl : arguments = own ++ name :: rest := by simpa using parts
      have fewer := length_lt_of_readLevel hl
      obtain rfl : stage = .closed := stands.unique (closed rfl)
      exact .more occurs are_met named (ih (by omega) hb)

theorem CommandRule.tells_read {rule : CommandRule} {levels : List (String × Found)}
    (h : read rule arguments = .ok levels) : rule.Tells arguments levels :=
  tells_readCommand (Nat.lt_succ_self _) h

/-! ## The command of the console -/

/-- The command line names a command of the console, and behind its name these options occur. -/
def Gives (arguments : List String) (name : String) (occurrences : List Occurrence) : Prop :=
  ∃ rule before own globals last, arguments = before ++ name :: own ∧
    console.level.Occurs before globals .closed ∧ console.command? name = some rule ∧
    rule.level.Occurs own occurrences last

/-- Every option that occurs behind the name of a command is one of the command. -/
theorem Gives.exists_rule {name : String} (h : Gives arguments name occurrences) :
    ∃ rule, console.command? name = some rule ∧ ∀ o ∈ occurrences, o.rule ∈ rule.level.rules := by
  obtain ⟨rule, _, _, _, _, -, -, named, occurs⟩ := h
  exact ⟨rule, named, occurs.rule_mem⟩

/-- What is told of the one level below the console's name is what occurs behind that name. -/
theorem CommandRule.Tells.gives_of_tail {levels : List (String × Found)} {name : String}
    (h : console.Tells arguments levels) (one : levels.tail = [(name, found)]) :
    ∃ occurrences, Gives arguments name occurrences ∧ AreMet occurrences ∧
      found = foundOf occurrences := by
  cases h with
  | last => cases one
  | @more _ rule before rest asked globals levels occurs are_met named below =>
    have same : rule.level.name = asked := by simpa using List.find?_some named
    rw [List.tail_cons] at one
    subst one
    cases below with
    | @last _ _ occurrences last own are_met =>
      exact ⟨occurrences, ⟨rule, before, rest, globals, last, same ▸ rfl, occurs, same ▸ named, own⟩,
        are_met, rfl⟩
    | more own are_met lower none => cases none

end HostConsole.CommandLine

namespace HostConsole

open CommandLine

/-- **A server command is what occurs behind its name** on the command line, as the options of the
command ask for. -/
theorem Invocation.exists_occurrences {arguments : List String} {i : Invocation}
    (h : ofArguments arguments = .ok i) {command : ServerCommand}
    (hc : i.command = .server command) :
    ∃ rule name occurrences, Gives arguments name occurrences ∧ AreMet occurrences ∧
      console.command? name = some rule ∧ rule.level.Fits (foundOf occurrences) ∧
      serverCommand? name (foundOf occurrences) = some command := by
  obtain ⟨levels, hl, h⟩ := exists_of_bind_eq_ok h
  split at h
  · next asked ha =>
    cases h
    obtain rfl : asked = .server command := hc
    obtain ⟨name, found, one, hs⟩ := exists_of_command?_eq_server ha
    obtain ⟨rule, named, fits⟩ := (CommandRule.accepts_read hl).fits_of_tail one
    obtain ⟨occurrences, gives, are_met, rfl⟩ := (CommandRule.tells_read hl).gives_of_tail one
    exact ⟨rule, name, occurrences, gives, are_met, named, fits, hs⟩
  · cases h

theorem Invocation.exists_gives {arguments : List String} {i : Invocation}
    (h : ofArguments arguments = .ok i) {command : ServerCommand}
    (hc : i.command = .server command) :
    ∃ name occurrences, Gives arguments name occurrences ∧
      serverCommand? name (foundOf occurrences) = some command := by
  obtain ⟨rule, name, occurrences, gives, -, -, -, found⟩ := exists_occurrences h hc
  exact ⟨name, occurrences, gives, found⟩

end HostConsole
