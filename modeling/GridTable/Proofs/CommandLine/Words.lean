import GridTable.CommandLine.Command
import GridTable.Proofs.Ends
import GridTable.Proofs.Outcome

/-! Words of a command line with more words behind them: they are for the same, and reading goes on
where it ended.
-/

namespace GridTable.CommandLine

open Outcome

-----------------------------------------------------------------------------------------
-- What words are for
-----------------------------------------------------------------------------------------

/-- Words among which no separator stands. -/
def AreOpen (words : List (String × Word)) : Prop :=
  ∀ word ∈ words, word.2 ≠ .separator

/-- Words do not start with a separator. -/
def StartsOpen (words : List (String × Word)) : Prop :=
  ∀ text rest, words ≠ (text, .separator) :: rest

theorem AreOpen.tail {word : String × Word} {rest : List (String × Word)}
    (areOpen : AreOpen (word :: rest))
    : AreOpen rest :=
  (List.forall_mem_cons.mp areOpen).2

theorem AreOpen.startsOpen_append {words others : List (String × Word)}
    (areOpen : AreOpen words) (startsOpen : StartsOpen others)
    : StartsOpen (words ++ others) := by
  cases words with
  | nil => exact startsOpen
  | cons word rest =>
      rintro text more ⟨⟩
      exact (List.forall_mem_cons.mp areOpen).1 rfl

namespace Grammar

variable {grammar : Grammar} {front back : List String}

theorem stranger_ne_separator (text : List Char) : stranger text ≠ .separator := by
  rw [stranger]
  split <;> rintro ⟨⟩

theorem ends_classifyPart (grammar : Grammar) (text : List Char)
    : Ends (· ≠ Word.separator) (· = Stop.misuse) (grammar.classifyPart text) := by
  unfold classifyPart
  split
  · dsimp only
    split
    · exact .ok (stranger_ne_separator _)
    · exact .ok (by rintro ⟨⟩)
    · exact .error rfl
  · split
    · exact .ok (by rintro ⟨⟩)
    · exact .ok (stranger_ne_separator _)
  · exact .ok (by rintro ⟨⟩)

theorem ends_classify (grammar : Grammar) (text : List Char)
    : Ends (· ≠ Word.separator) (· = Stop.misuse) (grammar.classify text) := by
  unfold classify
  split
  · exact .ok (by rintro ⟨⟩)
  · split
    · exact .ok (by rintro ⟨⟩)
    · dsimp only
      split
      · exact .ok (by rintro ⟨⟩)
      · exact grammar.ends_classifyPart text

/-- Each word is for something, or the command line is misused. -/
theorem ends_classifyAll (grammar : Grammar) (arguments : List String)
    : Ends (fun words => words.map Prod.fst = arguments ∧ ("--" ∉ arguments → AreOpen words))
        (· = Stop.misuse) (grammar.classifyAll arguments) := by
  induction arguments with
  | nil => exact .ok ⟨rfl, fun _ => by simp [AreOpen]⟩
  | cons text rest ih =>
      rw [classifyAll]
      refine .ite (fun same => ?_) fun other => ?_
      · exact .ok ⟨by simp [Function.comp_def], fun whole => absurd (by simp [same]) whole⟩
      · refine (grammar.ends_classify text.toList).bind fun word known => ?_
        refine ih.bind fun words ⟨texts, areOpen⟩ => ?_
        refine .ok ⟨by simp [texts], fun whole => ?_⟩
        rw [AreOpen, List.forall_mem_cons]
        exact ⟨known, areOpen (List.not_mem_of_not_mem_cons whole)⟩

theorem startsOpen_of_classifyAll {arguments : List String} {words : List (String × Word)}
    (h : grammar.classifyAll arguments = .ok words) (other : arguments.head? ≠ some "--")
    : StartsOpen words := by
  rintro text rest rfl
  cases arguments with
  | nil => cases h
  | cons first arguments =>
      rw [classifyAll, if_neg (by simpa using other)] at h
      obtain ⟨word, own, h⟩ := bind_eq_ok_iff.mp h
      obtain ⟨words, -, ⟨⟩⟩ := bind_eq_ok_iff.mp h
      exact (grammar.ends_classify _).of_ok own rfl

/-- What words are for does not depend on those before, unless a separator is among them. -/
theorem classifyAll_append (whole : "--" ∉ front)
    : grammar.classifyAll (front ++ back)
      = (do
          let words ← grammar.classifyAll front
          let more ← grammar.classifyAll back
          pure (words ++ more)) := by
  induction front with
  | nil => simp [classifyAll]
  | cons text rest ih =>
      obtain ⟨other, whole⟩ := not_or.mp (List.mem_cons.not.mp whole)
      rw [List.cons_append, classifyAll, classifyAll, if_neg (Ne.symm other),
        if_neg (Ne.symm other), ih whole]
      simp only [bind_assoc, pure_bind, List.cons_append]

-----------------------------------------------------------------------------------------
-- Reading on
-----------------------------------------------------------------------------------------

variable {found more : Reading} {words others : List (String × Word)}

/-- What is taken is noted in order, and nothing else changes. -/
theorem eq_of_take {settings : List Setting}
    (h : settings.foldlM Reading.take found = .ok more)
    : more
      = { found with
          settings :=
            found.settings ++ settings.map fun setting => (setting.1.name, setting.2) } := by
  induction settings generalizing found with
  | nil =>
      cases h
      simp
  | cons setting rest ih =>
      obtain ⟨next, taken, h⟩ := bind_eq_ok_iff.mp (List.foldlM_cons.symm.trans h)
      have noted : next = { found with
          settings := found.settings ++ [(setting.1.name, setting.2)] } := by
        rw [Reading.take] at taken
        split at taken
        · cases taken
        · cases taken
        · exact (Except.ok.inj taken).symm
        · split at taken
          · exact (Except.ok.inj taken).symm
          · cases taken
      rw [ih h, noted]
      simp

/-- Reading goes on where it ended, except that all words behind the name of a command belong to it.
-/
theorem readOn_append (areOpen : AreOpen words) (startsOpen : StartsOpen others)
    (fresh : grammar.isNested → found.operand = none)
    (h : grammar.readOn found words = .ok more)
    : grammar.readOn found (words ++ others)
      = if grammar.isNested ∧ more.operand.isSome then
          .ok { more with rest := more.rest ++ others.map Prod.fst }
        else grammar.readOn more others := by
  fun_induction readOn grammar found words with
  | case1 found =>
      cases h
      rw [if_neg]
      · rfl
      · rintro ⟨nested, named⟩
        simp [fresh nested] at named
  | case2 found _ rest ih =>
      rw [List.cons_append, readOn]
      exact ih areOpen.tail fresh h
  | case3 | case4 | case6 | case8 => cases h
  | case5 found _ known attached rest settings used more taken ih =>
      simp only [List.cons_append, readOn, used, taken]
      refine ih areOpen.tail (fun nested => ?_) h
      rw [eq_of_take taken, fresh nested]
  | case7 found _ known attached settings last used text rest more taken ih =>
      simp only [List.cons_append, readOn, used, taken]
      refine ih areOpen.tail.tail (fun nested => ?_) h
      rw [eq_of_take taken, fresh nested]
  | case9 found text rest named ih =>
      rw [List.cons_append, readOn, if_pos named]
      · exact ih areOpen.tail fresh h
      · exact areOpen.tail.startsOpen_append startsOpen
  | case10 found text rest unnamed nested =>
      cases h
      rw [if_pos ⟨nested, rfl⟩, List.cons_append, readOn, if_neg unnamed, if_pos nested]
      · simp
      · exact areOpen.tail.startsOpen_append startsOpen
  | case12 found text unnamed flat rest _ ih =>
      rw [List.cons_append, readOn, if_neg unnamed, if_neg flat]
      · exact ih areOpen.tail (fun nested => absurd nested flat) h
      · exact areOpen.tail.startsOpen_append startsOpen
  | case11 => exact absurd rfl (areOpen.tail _ List.mem_cons_self)
  | case13 | case14 | case15 | case16 => exact absurd rfl (areOpen _ List.mem_cons_self)

/-- The words behind the name of a command stand on the command line. -/
theorem mem_of_mem_rest (h : grammar.readOn found words = .ok more) {text : String}
    (hm : text ∈ more.rest)
    : text ∈ found.rest ∨ text ∈ words.map Prod.fst := by
  fun_induction readOn grammar found words with
  | case1 =>
      cases h
      exact Or.inl hm
  | case3 | case4 | case6 | case8 => cases h
  | case5 _ _ _ _ _ _ _ _ taken ih =>
      have found := ih h
      rw [eq_of_take taken] at found
      exact found.imp_right fun hm => List.mem_cons_of_mem _ hm
  | case7 _ _ _ _ _ _ _ _ _ _ taken ih =>
      have found := ih h
      rw [eq_of_take taken] at found
      exact found.imp_right fun hm => List.mem_cons_of_mem _ (List.mem_cons_of_mem _ hm)
  | case10 =>
      cases h
      exact Or.inr (List.mem_cons_of_mem _ hm)
  | case14 =>
      cases h
      exact Or.inl hm
  | case2 _ _ _ ih | case9 _ _ _ _ ih | case12 _ _ _ _ _ _ ih | case13 _ _ _ _ ih
  | case16 _ _ _ _ _ _ ih =>
      exact (ih h).imp_right fun hm => List.mem_cons_of_mem _ hm
  | case11 _ _ _ _ _ _ ih | case15 _ _ _ _ _ _ ih =>
      exact (ih h).imp_right fun hm => List.mem_cons_of_mem _ (List.mem_cons_of_mem _ hm)

/-- Words that are for nothing behind others that are for something are misused. -/
theorem read_append_of_error (whole : "--" ∉ front)
    (classified : grammar.classifyAll front = .ok words) {stop : Stop}
    (h : grammar.classifyAll back = .error stop)
    : grammar.read (front ++ back) = .error .misuse := by
  rw [read, classifyAll_append whole, classified, h,
    (grammar.ends_classifyAll back).of_error h]
  rfl

theorem readAll_eq_ok_iff {arguments : List String} {operand : String}
    : grammar.readAll arguments = .ok (operand, found)
      ↔ grammar.read arguments = .ok found
        ∧ found.operand = some operand
        ∧ (∀ known ∈ grammar.switches, known.isRequired → found.hasFlag known.name)
        ∧ ¬found.hasExcess := by
  rw [readAll, bind_eq_ok_iff]
  constructor
  · rintro ⟨own, read, ended⟩
    cases held : own.operand with
    | none => simp [held, throw, throwThe, MonadExceptOf.throw] at ended
    | some text =>
        simp only [held] at ended
        split at ended
        · next complete =>
            cases ended
            rw [Bool.and_eq_true] at complete
            refine ⟨read, held, fun known hm required => ?_, by simpa using complete.2⟩
            simpa [required] using List.all_eq_true.mp complete.1 known hm
        · cases ended
  · rintro ⟨read, held, complete, fine⟩
    exact ⟨found, read, by simpa [held, fine, Pure.pure, Except.pure] using complete⟩

end Grammar

end GridTable.CommandLine
