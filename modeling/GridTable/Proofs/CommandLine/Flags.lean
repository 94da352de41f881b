import Mathlib.Data.List.TakeDrop
import GridTable.Proofs.CommandLine.Words

/-! Filters on the command line of an extraction: what is read of a command line does not change
when filters are added to it, except that it has these filters as well.
-/

namespace GridTable.CommandLine

open Outcome
open GridTable.Filter (Kind)

-----------------------------------------------------------------------------------------
-- Switches of filters
-----------------------------------------------------------------------------------------

namespace Grammar

theorem splitAtEquals_fst (text : List Char)
    : (splitAtEquals text).1 = text.takeWhile (· != '=') := by
  rw [splitAtEquals, List.span_eq_takeWhile_dropWhile]
  split
  · next h => exact (congrArg Prod.fst h).symm
  · next h => exact (congrArg Prod.fst h).symm

theorem splitAtEquals_append {name : List Char} (free : '=' ∉ name) (value : List Char)
    : splitAtEquals (name ++ '=' :: value)
      = (name, if isLong name then .after value else .joined value) := by
  have kept : ∀ c ∈ name, (c != '=') = true := by
    intro c hm
    simpa using fun same : c = '=' => free (same ▸ hm)
  rw [splitAtEquals, List.span_eq_takeWhile_dropWhile, List.takeWhile_append_of_pos kept,
    List.dropWhile_append_of_pos kept]
  simp

/-- Where no name has an equals sign, no word with one is a name. -/
theorem find?_eq_none_of_mem {grammar : Grammar} (free : ∀ entry ∈ grammar.named, '=' ∉ entry.1)
    {text : List Char} (hm : '=' ∈ text)
    : grammar.find? text = none := by
  rw [find?, List.lookup_eq_none_iff]
  intro entry known
  rw [bne_iff_ne]
  rintro rfl
  exact free entry known hm

theorem find?_filterSwitch (kind : Kind)
    : extractGrammar.find? (filterSwitch kind).toList = some (valued (filterSwitch kind)) := by
  cases kind <;> rfl

theorem filterSwitch_inj {kind other : Kind}
    : filterSwitch kind = filterSwitch other ↔ kind = other := by
  cases kind <;> cases other <;> simp [filterSwitch]

theorem filterSwitch_ne_separator (kind : Kind) : filterSwitch kind ≠ "--" := by
  cases kind <;> decide

theorem classify_filterSwitch (kind : Kind)
    : extractGrammar.classify (filterSwitch kind).toList
      = .ok (.switch (valued (filterSwitch kind)) .nothing) := by
  cases kind <;> rfl

theorem classify_joined (kind : Kind) (value : List Char)
    : extractGrammar.classify ((filterSwitch kind).toList ++ '=' :: value)
      = .ok (.switch (valued (filterSwitch kind)) (.after value)) := by
  have free : '=' ∉ (filterSwitch kind).toList := by
    cases kind <;> decide
  have long : isLong (filterSwitch kind).toList := by
    cases kind <;> rfl
  have start : ((filterSwitch kind).toList ++ '=' :: value).head? = some '-' := by
    cases kind <;> rfl
  have unnamed : extractGrammar.find? ((filterSwitch kind).toList ++ '=' :: value) = none :=
    find?_eq_none_of_mem (by decide) (by simp)
  simp only [classify, start, unnamed, splitAtEquals_append free, find?_filterSwitch, long]
  rfl

/-- A word of which at most one long name starts so is for something. -/
theorem exists_classify {grammar : Grammar} {text : List Char}
    (unique
      : ∀ tail, text = '-' :: '-' :: tail →
          (grammar.named.filter fun entry =>
            (splitAtEquals text).1.isPrefixOf entry.1).length ≤ 1)
    : ∃ word, grammar.classify text = .ok word := by
  unfold classify
  split
  · exact ⟨_, rfl⟩
  · split
    · exact ⟨_, rfl⟩
    · dsimp only
      split
      · exact ⟨_, rfl⟩
      · unfold classifyPart
        split
        · dsimp only
          have unique := unique _ rfl
          split
          · exact ⟨_, rfl⟩
          · exact ⟨_, rfl⟩
          · next some other =>
              exfalso
              rcases held : grammar.named.filter _ with _ | ⟨first, _ | ⟨second, rest⟩⟩
              · exact some held
              · exact other _ _ held
              · rw [held] at unique
                simp at unique
        · split
          · exact ⟨_, rfl⟩
          · exact ⟨_, rfl⟩
        · exact ⟨_, rfl⟩

/-- A word that is for something behind the command is for something before it as well. -/
theorem exists_classify_general {text : List Char} {word : Word}
    (h : extractGrammar.classify text = .ok word)
    : ∃ other, generalGrammar.classify text = .ok other := by
  refine exists_classify fun tail same => ?_
  subst same
  rw [splitAtEquals_fst]
  have start : ('-' :: '-' :: tail).takeWhile (· != '=')
      = '-' :: '-' :: tail.takeWhile (· != '=') := rfl
  rw [start]
  cases held : tail.takeWhile (· != '=') with
  | nil =>
      have void : tail = [] ∨ ∃ value, tail = '=' :: value := by
        cases tail with
        | nil => exact Or.inl rfl
        | cons first value =>
            by_cases same : first = '='
            · exact Or.inr ⟨value, by rw [same]⟩
            · simp [same] at held
      rcases void with rfl | ⟨value, rfl⟩
      · cases h
      · cases h
  | cons letter rest =>
      -- The long names differ in their first letters.
      simp only [generalGrammar, named, helpSwitch, List.map_cons, List.map_nil, List.flatMap_cons,
        List.flatMap_nil, List.append_nil, List.cons_append, List.filter_cons,
        String.reduceToList, List.isPrefixOf_iff_prefix, List.cons_prefix_cons, Char.reduceEq]
      grind

theorem exists_classifyAll_general {arguments : List String} {words : List (String × Word)}
    (h : extractGrammar.classifyAll arguments = .ok words)
    : ∃ others, generalGrammar.classifyAll arguments = .ok others := by
  induction arguments generalizing words with
  | nil => exact ⟨[], rfl⟩
  | cons text rest ih =>
      rw [classifyAll] at h ⊢
      by_cases same : text = "--"
      · rw [if_pos same]
        exact ⟨_, rfl⟩
      · rw [if_neg same] at h ⊢
        obtain ⟨word, first, h⟩ := bind_eq_ok_iff.mp h
        obtain ⟨more, last, -⟩ := bind_eq_ok_iff.mp h
        obtain ⟨other, first⟩ := exists_classify_general first
        obtain ⟨others, last⟩ := ih last
        exact ⟨_, by rw [first, last]; rfl⟩

end Grammar

-----------------------------------------------------------------------------------------
-- Flags
-----------------------------------------------------------------------------------------

/-- A compact filter on a command line: its text is joined to the switch of its kind, or stands in
the next word.
-/
structure Flag where
  kind : Kind
  text : String
  isJoined : Bool

namespace Flag

variable {flag : Flag} {flags : List Flag}

def words (flag : Flag) : List String :=
  if flag.isJoined then [filterSwitch flag.kind ++ "=" ++ flag.text]
  else [filterSwitch flag.kind, flag.text]

/-- Behind a switch only a word that is for nothing else is taken for the value. -/
def IsTaken (flag : Flag) : Prop :=
  flag.isJoined ∨ extractGrammar.classify flag.text.toList = .ok .plain

/-- What the switch is set to: a joined text of two hyphens is void. -/
def given (flag : Flag) : Given :=
  if flag.isJoined then .ofJoined flag.text.toList else .text flag.text

def setting (flag : Flag) : String × Given :=
  (filterSwitch flag.kind, flag.given)

/-- The filters that are given for a kind. -/
def givenFor (kind : Kind) (flags : List Flag) : List (Option String) :=
  (flags.filter (·.kind = kind)).map fun flag => flag.given.content?

/-- The filters that are given for all kinds, kind by kind. -/
def filters (flags : List Flag) : List (Kind × Option String) :=
  Kind.all.flatMap fun kind => (givenFor kind flags).map fun text => (kind, text)

theorem ne_separator_of_isTaken (taken : flag.IsTaken) : "--" ∉ flag.words := by
  have named := Grammar.filterSwitch_ne_separator flag.kind
  cases joined : flag.isJoined with
  | true =>
      have apart : "--" ≠ filterSwitch flag.kind ++ "=" ++ flag.text := by
        intro same
        have hm : '=' ∈ "--".toList := by
          rw [same]
          simp
        exact absurd hm (by decide)
      simpa [words, joined] using apart
  | false =>
      have plain : extractGrammar.classify flag.text.toList = .ok .plain := by
        simpa [IsTaken, joined] using taken
      have apart : flag.text ≠ "--" := by
        intro same
        rw [same] at plain
        cases plain
      simpa [words, joined] using ⟨named.symm, apart.symm⟩

/-- Every value of a filter is acceptable at first. -/
theorem take_valued (found : Reading) (name : String) (value : Given)
    : [(valued name, value)].foldlM Reading.take found
      = .ok { found with settings := found.settings ++ [(name, value)] } := by
  cases value <;> rfl

theorem use_valued_nothing (name : String)
    : extractGrammar.use (valued name) .nothing = .ok (.pending [] (valued name)) :=
  rfl

theorem use_valued_after (name : String) (value : List Char)
    : extractGrammar.use (valued name) (.after value)
      = .ok (.complete [(valued name, .ofJoined value)]) :=
  rfl

/-- A flag that is taken is read as one setting. -/
theorem exists_readOn_words (taken : flag.IsTaken)
    : ∃ words,
        extractGrammar.classifyAll flag.words = .ok words
        ∧ ∀ found others,
            extractGrammar.readOn found (words ++ others)
              = extractGrammar.readOn
                  { found with settings := found.settings ++ [flag.setting] } others := by
  have apart := ne_separator_of_isTaken taken
  cases joined : flag.isJoined with
  | true =>
      refine ⟨[(filterSwitch flag.kind ++ "=" ++ flag.text,
        .switch (valued (filterSwitch flag.kind)) (.after flag.text.toList))], ?_, ?_⟩
      · have other : filterSwitch flag.kind ++ "=" ++ flag.text ≠ "--" := by
          simpa [words, joined, eq_comm] using apart
        have known : (filterSwitch flag.kind ++ "=" ++ flag.text).toList
            = (filterSwitch flag.kind).toList ++ '=' :: flag.text.toList := by
          simp
        simp only [words, joined, if_true, Grammar.classifyAll, if_neg other, known,
          Grammar.classify_joined]
        rfl
      · intro found others
        simp only [List.singleton_append, Grammar.readOn, use_valued_after, take_valued, setting,
          given, joined, if_true]
  | false =>
      have plain : extractGrammar.classify flag.text.toList = .ok .plain := by
        simpa [IsTaken, joined] using taken
      refine ⟨[(filterSwitch flag.kind, .switch (valued (filterSwitch flag.kind)) .nothing),
        (flag.text, .plain)], ?_, ?_⟩
      · obtain ⟨named, other⟩ : filterSwitch flag.kind ≠ "--" ∧ flag.text ≠ "--" := by
          simpa [words, joined, eq_comm] using apart
        simp only [words, joined, Bool.false_eq_true, if_false, Grammar.classifyAll, if_neg named,
          if_neg other, Grammar.classify_filterSwitch, plain]
        rfl
      · intro found others
        simp only [List.cons_append, List.nil_append, Grammar.readOn, use_valued_nothing,
          take_valued, setting, given, joined, Bool.false_eq_true, if_false]

/-- Flags that are taken are read one after the other, by list induction. -/
theorem exists_readOn_flatMap (taken : ∀ flag ∈ flags, flag.IsTaken)
    : ∃ words,
        extractGrammar.classifyAll (flags.flatMap Flag.words) = .ok words
        ∧ ∀ found,
            extractGrammar.readOn found words
              = .ok { found with settings := found.settings ++ flags.map setting } := by
  induction flags with
  | nil => exact ⟨[], rfl, fun found => by simp [Grammar.readOn]⟩
  | cons flag rest ih =>
      obtain ⟨first, others⟩ := List.forall_mem_cons.mp taken
      obtain ⟨words, own, read⟩ := exists_readOn_words first
      obtain ⟨more, last, readRest⟩ := ih others
      refine ⟨words ++ more, ?_, fun found => ?_⟩
      · rw [List.flatMap_cons, Grammar.classifyAll_append (ne_separator_of_isTaken first), own,
          last]
        rfl
      · rw [read, readRest]
        simp

/-- A word that is for something else is no value of a switch before it. -/
theorem readOn_of_not_isTaken (lost : ¬flag.IsTaken) {rest : List String}
    {words : List (String × Word)}
    (h : extractGrammar.classifyAll (flag.words ++ rest) = .ok words) (found : Reading)
    : extractGrammar.readOn found words = .error .misuse := by
  obtain ⟨apart, other⟩ : ¬flag.isJoined ∧ _ := not_or.mp lost
  have named := Grammar.filterSwitch_ne_separator flag.kind
  rw [Flag.words, if_neg apart, List.cons_append, List.singleton_append, Grammar.classifyAll,
    if_neg named, Grammar.classify_filterSwitch, ok_bind] at h
  obtain ⟨more, behind, ⟨⟩⟩ := bind_eq_ok_iff.mp h
  have unplain : ∀ text others, more ≠ (text, .plain) :: others := by
    rw [Grammar.classifyAll] at behind
    split at behind
    · rintro text others rfl
      cases behind
    · obtain ⟨word, own, behind⟩ := bind_eq_ok_iff.mp behind
      obtain ⟨others, -, behind⟩ := bind_eq_ok_iff.mp behind
      rintro text others rfl
      cases behind
      exact other own
  rcases more with _ | ⟨⟨text, word⟩, others⟩
  · simp [Grammar.readOn, use_valued_nothing]
  · cases word with
    | plain => exact absurd rfl (unplain text others)
    | separator | switch | unknown => simp [Grammar.readOn, use_valued_nothing]

end Flag

-----------------------------------------------------------------------------------------
-- Extractions with more filters
-----------------------------------------------------------------------------------------

variable {found : Reading} {flags : List Flag}

/-- A reading with the settings of flags besides. -/
def Reading.withFlags (found : Reading) (flags : List Flag) : Reading :=
  { found with settings := found.settings ++ flags.map Flag.setting }

theorem Reading.values_withFlags (found : Reading) (flags : List Flag) (name : String)
    : (found.withFlags flags).values name
      = found.values name
        ++ (flags.filter fun flag => filterSwitch flag.kind = name).map fun flag =>
          flag.given.content? := by
  simp only [values, withFlags, List.filter_append, List.map_append, List.filter_map, List.map_map]
  rfl

theorem filterSwitch_ne {name : String} (other : name ∉ Kind.all.map filterSwitch) (kind : Kind)
    : filterSwitch kind ≠ name := by
  rintro rfl
  exact other (List.mem_map_of_mem (by cases kind <;> decide))

theorem Reading.value?_withFlags {name : String} (other : name ∉ Kind.all.map filterSwitch)
    : (found.withFlags flags).value? name = found.value? name := by
  simp [value?, values_withFlags, filterSwitch_ne other]

theorem Reading.hasFlag_withFlags {name : String} (other : name ∉ Kind.all.map filterSwitch)
    : (found.withFlags flags).hasFlag name = found.hasFlag name := by
  simp [hasFlag, withFlags, Flag.setting, filterSwitch_ne other, Function.comp_def]

theorem Reading.values_filterSwitch_withFlags (kind : Kind)
    : (found.withFlags flags).values (filterSwitch kind)
      = found.values (filterSwitch kind) ++ Flag.givenFor kind flags := by
  simp only [values_withFlags, Grammar.filterSwitch_inj, Flag.givenFor]

theorem readExtract_of_ofArguments {name : String} {arguments : List String}
    {input field output : String} {texts : List (Kind × Option String)} {options : WriteOptions}
    (h : Command.ofArguments name arguments = .ok (.extract input field output texts options))
    : name = "extract"
      ∧ Command.readExtract arguments = .ok (.extract input field output texts options) := by
  unfold Command.ofArguments at h
  split at h
  · obtain ⟨⟨config, found⟩, -, ⟨⟩⟩ := bind_eq_ok_iff.mp h
  · exact ⟨rfl, h⟩
  · obtain ⟨⟨config, found⟩, -, ⟨⟩⟩ := bind_eq_ok_iff.mp h
  · obtain ⟨⟨own, found⟩, -, ⟨⟩⟩ := bind_eq_ok_iff.mp h
  · cases h

theorem Reading.extraction_eq_ok_iff {found : Reading} {operand input field output : String}
    {texts : List (Kind × Option String)} {options : WriteOptions}
    : found.extraction operand = .ok (.extract input field output texts options)
      ↔ operand = input
        ∧ (∃ named target,
            found.value? "--variable" = some named
            ∧ found.value? "--output" = some target
            ∧ named.getD "" = field
            ∧ target.getD "" = output)
        ∧ found.filters = texts
        ∧ found.writeOptions = options := by
  rw [extraction]
  cases found.value? "--variable" <;> cases found.value? "--output" <;> simp [and_assoc]

/-- Flags give filters, and nothing else that an extraction asks for. -/
theorem Reading.extraction_withFlags {input field output : String} {options : WriteOptions}
    (spelled : found.extraction input = .ok (.extract input field output [] options))
    (flags : List Flag)
    : (found.withFlags flags).extraction input
      = .ok (.extract input field output (Flag.filters flags) options) := by
  obtain ⟨-, named, free, same⟩ := extraction_eq_ok_iff.mp spelled
  refine extraction_eq_ok_iff.mpr ⟨rfl, ?_, ?_, ?_⟩
  · rwa [value?_withFlags (by decide), value?_withFlags (by decide)]
  · have none : ∀ kind, found.values (filterSwitch kind) = [] := by
      intro kind
      have own := List.flatMap_eq_nil_iff.mp free kind (by cases kind <;> decide)
      exact List.map_eq_nil_iff.mp own
    simp only [filters, values_filterSwitch_withFlags, none, List.nil_append, Flag.filters]
  · rw [← same, writeOptions, value?_withFlags (by decide), hasFlag_withFlags (by decide),
      hasFlag_withFlags (by decide), writeOptions]

/-- A command line asks for an extraction, without two hyphens that would end its switches. -/
structure Asks (line : List String) (general found : Reading) (input : String) : Prop where
  whole : "--" ∉ line
  read : generalGrammar.read line = .ok general
  named : general.operand = some "extract"
  fine : ¬general.hasExcess
  all : extractGrammar.readAll general.rest = .ok (input, found)

namespace Asks

variable {line : List String} {general found : Reading} {input : String}

theorem ofArguments (asks : Asks line general found input) {command : Command}
    (spelled : found.extraction input = .ok command)
    : Invocation.ofArguments line = .ok ⟨general.level, command⟩ := by
  have own : Command.ofArguments "extract" general.rest = .ok command := by
    change Command.readExtract general.rest = _
    rw [Command.readExtract, asks.all]
    exact spelled
  simp [Invocation.ofArguments, asks.read, asks.named, own, asks.fine, Pure.pure, Except.pure]

/-- A command line that is read as an extraction asks for it. -/
theorem exists_of_ofArguments (whole : "--" ∉ line) {level : Option Int} {field output : String}
    {texts : List (Kind × Option String)} {options : WriteOptions}
    (h : Invocation.ofArguments line = .ok ⟨level, .extract input field output texts options⟩)
    : ∃ general found,
        Asks line general found input
        ∧ general.level = level
        ∧ found.extraction input = .ok (.extract input field output texts options) := by
  obtain ⟨general, read, h⟩ := bind_eq_ok_iff.mp h
  cases named : general.operand with
  | none => simp [named, throw, throwThe, MonadExceptOf.throw] at h
  | some name =>
      rw [named] at h
      obtain ⟨command, own, h⟩ := bind_eq_ok_iff.mp h
      split at h
      · cases h
      · next fine =>
          cases h
          obtain ⟨rfl, extracted⟩ := readExtract_of_ofArguments own
          obtain ⟨⟨operand, found⟩, all, spelled⟩ := bind_eq_ok_iff.mp extracted
          obtain ⟨rfl, -⟩ := Reading.extraction_eq_ok_iff.mp spelled
          exact ⟨general, found, ⟨whole, read, named, fine, all⟩, rfl, spelled⟩

variable {more : List String} {others : List (String × Word)}

/-- What stands behind an extraction belongs to it. -/
theorem read_append (asks : Asks line general found input) (other : more.head? ≠ some "--")
    (h : generalGrammar.classifyAll more = .ok others)
    : generalGrammar.read (line ++ more) = .ok { general with rest := general.rest ++ more } := by
  obtain ⟨words, classified, read⟩ := bind_eq_ok_iff.mp asks.read
  have areOpen := ((generalGrammar.ends_classifyAll line).of_ok classified).2 asks.whole
  have texts := ((generalGrammar.ends_classifyAll more).of_ok h).1
  rw [Grammar.read, Grammar.classifyAll_append asks.whole, classified, h, ok_bind, ok_bind]
  change generalGrammar.readOn .empty (words ++ others) = _
  rw [Grammar.readOn_append areOpen (Grammar.startsOpen_of_classifyAll h other) (fun _ => rfl) read,
    if_pos ⟨rfl, by rw [asks.named]; rfl⟩, texts]

theorem notMem_rest (asks : Asks line general found input) : "--" ∉ general.rest := by
  obtain ⟨words, classified, read⟩ := bind_eq_ok_iff.mp asks.read
  intro hm
  rcases Grammar.mem_of_mem_rest read hm with none | own
  · cases none
  · rw [((generalGrammar.ends_classifyAll line).of_ok classified).1] at own
    exact asks.whole own

/-- The words behind an extraction are read where it ended. -/
theorem readRest_append (asks : Asks line general found input) (other : more.head? ≠ some "--")
    (h : extractGrammar.classifyAll more = .ok others)
    : extractGrammar.read (general.rest ++ more) = extractGrammar.readOn found others := by
  obtain ⟨words, classified, read⟩ := bind_eq_ok_iff.mp (Grammar.readAll_eq_ok_iff.mp asks.all).1
  have classes := (extractGrammar.ends_classifyAll general.rest).of_ok classified
  have areOpen := classes.2 asks.notMem_rest
  rw [Grammar.read, Grammar.classifyAll_append asks.notMem_rest, classified, h, ok_bind, ok_bind]
  change extractGrammar.readOn .empty (words ++ others) = _
  rw [Grammar.readOn_append areOpen (Grammar.startsOpen_of_classifyAll h other) (fun _ => rfl) read,
    if_neg (by simp [extractGrammar, commandGrammar])]

variable {flag : Flag} {flags : List Flag}

/-- Flags that are taken are the only difference. -/
theorem append (asks : Asks line general found input) (taken : ∀ flag ∈ flags, flag.IsTaken)
    : Asks (line ++ flags.flatMap Flag.words)
        { general with rest := general.rest ++ flags.flatMap Flag.words }
        (found.withFlags flags) input := by
  have apart : "--" ∉ flags.flatMap Flag.words := by
    intro hm
    obtain ⟨flag, own, hm⟩ := List.mem_flatMap.mp hm
    exact Flag.ne_separator_of_isTaken (taken flag own) hm
  have other : (flags.flatMap Flag.words).head? ≠ some "--" :=
    fun head => apart (List.mem_of_mem_head? head)
  obtain ⟨words, classified, read⟩ := Flag.exists_readOn_flatMap taken
  obtain ⟨others, known⟩ := Grammar.exists_classifyAll_general classified
  obtain ⟨-, operand, complete, fine⟩ := Grammar.readAll_eq_ok_iff.mp asks.all
  refine {
    whole := fun hm => (List.mem_append.mp hm).elim asks.whole apart
    read := asks.read_append other known
    named := asks.named
    fine := asks.fine
    all := Grammar.readAll_eq_ok_iff.mpr ⟨?_, operand, ?_, fine⟩
  }
  · rw [asks.readRest_append other classified, read]
    rfl
  · intro known hm required
    have set := complete known hm required
    rw [Reading.hasFlag] at set
    rw [Reading.hasFlag, Reading.withFlags, List.any_append, set, Bool.true_or]

/-- A flag that is not taken is misused. -/
theorem misuse (asks : Asks line general found input) (lost : ¬flag.IsTaken)
    (rest : List String)
    : Invocation.ofArguments (line ++ (flag.words ++ rest)) = .error .misuse := by
  have other : (flag.words ++ rest).head? ≠ some "--" := by
    have apart : ¬flag.isJoined := fun joined => lost (Or.inl joined)
    rw [Flag.words, if_neg apart]
    simpa using Grammar.filterSwitch_ne_separator flag.kind
  obtain ⟨generalWords, generalClassified, -⟩ := bind_eq_ok_iff.mp asks.read
  obtain ⟨words, classified, -⟩ := bind_eq_ok_iff.mp (Grammar.readAll_eq_ok_iff.mp asks.all).1
  cases before : generalGrammar.classifyAll (flag.words ++ rest) with
  | error stop =>
      rw [Invocation.ofArguments,
        Grammar.read_append_of_error asks.whole generalClassified before, error_bind]
  | ok others =>
      have misread : extractGrammar.read (general.rest ++ (flag.words ++ rest))
          = .error .misuse := by
        cases behind : extractGrammar.classifyAll (flag.words ++ rest) with
        | error stop => exact Grammar.read_append_of_error asks.notMem_rest classified behind
        | ok more =>
            rw [asks.readRest_append other behind]
            exact Flag.readOn_of_not_isTaken lost behind found
      have stopped : Command.ofArguments "extract" (general.rest ++ (flag.words ++ rest))
          = .error .misuse := by
        change Command.readExtract (general.rest ++ (flag.words ++ rest)) = _
        rw [Command.readExtract, Grammar.readAll, misread, error_bind, error_bind]
      rw [Invocation.ofArguments, asks.read_append other before, ok_bind]
      simp only [asks.named, stopped, error_bind]

/-- Flags of which one is not taken are misused, by list induction. -/
theorem misuse_of_exists (asks : Asks line general found input)
    (lost : ∃ flag ∈ flags, ¬flag.IsTaken)
    : Invocation.ofArguments (line ++ flags.flatMap Flag.words) = .error .misuse := by
  induction flags generalizing line general found with
  | nil => simp at lost
  | cons flag rest ih =>
      rw [List.flatMap_cons]
      by_cases taken : flag.IsTaken
      · have more := asks.append (List.forall_mem_singleton.mpr taken)
        rw [List.flatMap_singleton] at more
        rw [← List.append_assoc]
        exact ih more (by simpa [taken] using lost)
      · exact asks.misuse taken _

end Asks

/-- What a command line asks for to which flags are added: the same extraction with the filters that
the flags give.
-/
theorem ofArguments_append_flags {line : List String} {level : Option Int}
    {input field output : String} {options : WriteOptions} (whole : "--" ∉ line)
    (asked : Invocation.ofArguments line = .ok ⟨level, .extract input field output [] options⟩)
    (taken : ∀ flag ∈ flags, flag.IsTaken)
    : Invocation.ofArguments (line ++ flags.flatMap Flag.words)
      = .ok ⟨level, .extract input field output (Flag.filters flags) options⟩ := by
  obtain ⟨general, found, asks, rfl, spelled⟩ := Asks.exists_of_ofArguments whole asked
  exact (asks.append taken).ofArguments (Reading.extraction_withFlags spelled flags)

theorem ofArguments_append_flags_of_not_isTaken {line : List String} {level : Option Int}
    {input field output : String} {options : WriteOptions} (whole : "--" ∉ line)
    (asked : Invocation.ofArguments line = .ok ⟨level, .extract input field output [] options⟩)
    (lost : ∃ flag ∈ flags, ¬flag.IsTaken)
    : Invocation.ofArguments (line ++ flags.flatMap Flag.words) = .error .misuse := by
  obtain ⟨general, found, asks, -, -⟩ := Asks.exists_of_ofArguments whole asked
  exact asks.misuse_of_exists lost

end GridTable.CommandLine
